import DocSite.Css.Property.Basic

/-!
# Properties of transformations

Functions that move, turn and stretch a box. Functions of several axes become those of one axis where nothing
happens on the others.
-/

namespace DocSite.Css

namespace Reader

/-! ## §1 Functions -/

/-- A function with its arguments. -/
def functionText (name : String) (arguments : List Text) : Text :=
  name.toList ++ '(' :: Text.join [','] arguments ++ [')']

/-- A move along two axes. -/
def moveText (x y : Calc) : Text :=
  if y.isZero then functionText "translate" [x.text]
  else if x.isZero then functionText "translateY" [y.text]
  else functionText "translate" [x.text, y.text]

/-- A move along three axes. -/
def moveText3 (x y z : Calc) : Text :=
  match x.isZero, y.isZero, z.isZero with
  | false, true, true => functionText "translate" [x.text]
  | true, false, true => functionText "translateY" [y.text]
  | true, true, false => functionText "translateZ" [z.text]
  | _, _, true => functionText "translate" [x.text, y.text]
  | _, _, false => functionText "translate3d" [x.text, y.text, z.text]

/-- Stretching along two axes. -/
def stretchText (x y : Rat) : Text :=
  if x = y then functionText "scale" [spellNumber x]
  else if x = 1 then functionText "scaleY" [spellNumber y]
  else if y = 1 then functionText "scaleX" [spellNumber x]
  else functionText "scale" [spellNumber x, spellNumber y]

/-- Stretching along three axes. -/
def stretchText3 (x y z : Rat) : Text :=
  if z = 1 then stretchText x y
  else if x = 1 ∧ y = 1 then functionText "scaleZ" [spellNumber z]
  else functionText "scale3d" ([x, y, z].map spellNumber)

/-- A turn around an axis through three coordinates. -/
def turnText3 (x y z : Rat) (angle : Quantity) : Text :=
  if x = 1 ∧ y = 0 ∧ z = 0 then functionText "rotateX" [turning angle]
  else if x = 0 ∧ y = 1 ∧ z = 0 then functionText "rotateY" [turning angle]
  else if x = 0 ∧ y = 0 ∧ z = 1 then functionText "rotate" [turning angle]
  else functionText "rotate3d" ([x, y, z].map spellNumber ++ [turning angle])

/-- A slant along two axes. -/
def slantText (x y : Quantity) : Text :=
  if y.isZero then functionText "skew" [turning x]
  else if x.isZero then functionText "skewY" [turning y]
  else functionText "skew" [turning x, turning y]

/-- A value, and another one behind a comma if there is one. -/
def oneOrTwo {α : Type} (reader : Reader α) : Reader (α × Option α) := do
  let first ← reader
  let second ← optional (do
    comma
    reader)
  return (first, second)

/-- The arguments of a function that turns a box around any axis. -/
def turnArguments : Reader Text := do
  let x ← number
  comma
  let y ← number
  comma
  let z ← number
  comma
  return turnText3 x y z (← angleOrZero)

/-- The arguments of a function that moves a box along three axes. -/
def moveArguments : Reader Text := do
  let x ← lengthPercentageCalc
  comma
  let y ← lengthPercentageCalc
  comma
  return moveText3 x y (← lengthCalc)

/-- The arguments of a function of numbers. -/
def matrixArguments (name : String) (count : Nat) : Reader Text := do
  let numbers ← commaList number
  if numbers.length ≠ count then failure
  return functionText name (numbers.map spellNumber)

/-- What is nothing as a length. -/
def zeroLength : Calc := .value (.length 0 "px".toList)

/-- What is nothing as an angle. -/
def zeroAngle : Quantity := .angle 0 "deg".toList

/-- Functions of a box by their names in lower case, and what reads their arguments. -/
def transformFunctions : List (String × Reader Text) :=
  let one (name : String) (reader : Reader Text) : Reader Text := do
    return functionText name [← reader]
  [ ("matrix", matrixArguments "matrix" 6),
    ("matrix3d", matrixArguments "matrix3d" 16),
    ("translate", do
      let (x, y) ← oneOrTwo lengthPercentageCalc
      return moveText x (y.getD zeroLength)),
    ("translatex", one "translate" lengthPercentage),
    ("translatey", one "translateY" lengthPercentage),
    ("translatez", one "translateZ" length),
    ("translate3d", moveArguments),
    ("scale", do
      let (x, y) ← oneOrTwo ratio
      return stretchText x (y.getD x)),
    ("scalex", one "scaleX" (spellNumber <$> ratio)),
    ("scaley", one "scaleY" (spellNumber <$> ratio)),
    ("scalez", one "scaleZ" (spellNumber <$> ratio)),
    ("scale3d", do
      let sizes ← commaList ratio
      match sizes with
      | [x, y, z] => return stretchText3 x y z
      | _ => failure),
    ("rotate", one "rotate" (turning <$> angleOrZero)),
    ("rotatex", one "rotateX" (turning <$> angleOrZero)),
    ("rotatey", one "rotateY" (turning <$> angleOrZero)),
    ("rotatez", one "rotate" (turning <$> angleOrZero)),
    ("rotate3d", turnArguments),
    ("skew", do
      let (x, y) ← oneOrTwo angleOrZero
      return slantText x (y.getD zeroAngle)),
    ("skewx", one "skew" (turning <$> angleOrZero)),
    ("skewy", one "skewY" (turning <$> angleOrZero)),
    ("perspective", one "perspective" length) ]

/-- A function of a box. -/
def transformFunction : Reader Text := do
  let (name, arguments) ← anyCall
  match transformFunctions.find? fun (other, _) => other.toList = name with
  | some (_, reader) => reader.all? arguments
  | none => failure

/-- What is done to a box, one function after the other. -/
def transform : Reader Text :=
  keyword ["none"] <|> do
    let functions ← many transformFunction
    return if functions.isEmpty then "none".toList else functions.flatten

/-! ## §2 Single transformations -/

/-- A move of a box along up to three axes. -/
def moveProperty : Reader Text :=
  keyword ["none"] <|> do
    let x ← lengthPercentageCalc
    let y ← optional lengthPercentageCalc
    let z ← optional (if y.isSome then lengthCalc else failure)
    let shownZ := (z.filter (!·.isZero)).toList
    let shownY := if shownZ.isEmpty then (y.filter (!·.isZero)).toList else y.toList
    return Text.join [' '] ((x :: shownY ++ shownZ).map Calc.text)

/-- An axis around which a box is turned. -/
def turnAxis : Reader (Rat × Rat × Rat) :=
  (do
    let name ← keyword ["x", "y", "z"]
    return if name = ['x'] then (1, 0, 0) else if name = ['y'] then (0, 1, 0) else (0, 0, 1)) <|> do
    let x ← number
    let y ← number
    return (x, y, ← number)

/-- A turn of a box, around any axis. -/
def turnProperty : Reader Text :=
  keyword ["none"] <|> do
    let before ← optional angle
    let axis := (← optional turnAxis).getD (0, 0, 1)
    let turn ← match before with
      | some turn => pure turn
      | none => angle
    if axis = (0, 0, 1) && turn.isZero then return "none".toList
    let axis : Text :=
      if axis = (1, 0, 0) then "x ".toList
      else if axis = (0, 1, 0) then "y ".toList
      else if axis = (0, 0, 1) then []
      else [axis.1, axis.2.1, axis.2.2].flatMap fun size => spellNumber size ++ [' ']
    return axis ++ turn.text

/-- How far a box is stretched: a number or a percentage, and its size. -/
def stretchSize : Reader (Text × Rat) :=
  (do
    let size ← number
    return (spellNumber size, size)) <|> do
    let size ← percentage
    return (spellPercentage size, size / 100)

/-- Stretching of a box. -/
def stretchProperty : Reader Text :=
  keyword ["none"] <|> do
    let x ← stretchSize
    let y ← optional stretchSize
    let z ← optional (if y.isSome then stretchSize else failure)
    let y := y.getD x
    let shownZ := (z.filter (·.2 ≠ 1)).toList
    let shownY := if y.1 ≠ x.1 || !shownZ.isEmpty then [y] else []
    return Text.join [' '] ((x :: shownY ++ shownZ).map (·.1))

end Reader

/-! ## §3 The table -/

open Reader in
/-- Properties of transformations. -/
def transformProperties : List Property :=
  let marks := ["-webkit-", "-moz-", "-ms-", "-o-"]
  [ { name := "transform", makers := marks, reader := transform },
    { name := "transform-origin", makers := marks, reader := positionText },
    { name := "transform-style", makers := Property.webkitMoz, reader := keyword ["flat", "preserve-3d"] },
    { name := "transform-box",
      reader := keyword ["content-box", "border-box", "fill-box", "stroke-box", "view-box"] },
    { name := "backface-visibility", makers := Property.webkitMoz,
      reader := keyword ["visible", "hidden"] },
    { name := "perspective", makers := Property.webkitMoz, reader := keyword ["none"] <|> length },
    { name := "perspective-origin", makers := Property.webkitMoz, reader := positionText },
    { name := "translate", reader := moveProperty },
    { name := "rotate", reader := turnProperty },
    { name := "scale", reader := stretchProperty } ]

end DocSite.Css
