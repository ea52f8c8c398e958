import DocSite.Css.Property.Background
import DocSite.Css.Property.Border

/-!
# Properties of effects

Filters, shapes that cut a box out, and the paint of drawings.
-/

namespace DocSite.Css

namespace Reader

/-! ## §1 Filters -/

/-- The color of the shadow, the place and the size of it, in any order. -/
def dropShadow : Reader Text := shadow false 1

/-- The share of an effect; the whole of it need not be written. -/
def share : Reader Text := do
  match ← optional ((do
    let value ← number
    return (spellNumber value, value)) <|> do
    let value ← percentage
    return (spellPercentage value, value / 100)) with
  | some (written, size) => return if size = 1 then [] else written
  | none => return []

/-- A filter. -/
def filter : Reader Text :=
  urlText <|> do
    let (name, arguments) ← anyCall
    let isNamed (other : String) : Bool := name = other.toList
    let isShare := ["brightness", "contrast", "grayscale", "invert", "opacity", "saturate", "sepia"].any isNamed
    let unlessZero (quantity : Quantity) : Text := if quantity.isZero then [] else quantity.text
    let inner : Option Text :=
      if isShare then share.all? arguments
      else if isNamed "blur" then
        (optional length).all? arguments |>.map fun size => (size.filter (· ≠ ['0'])).getD []
      else if isNamed "hue-rotate" then
        (optional angleOrZero).all? arguments |>.map fun turn => (turn.map unlessZero).getD []
      else if isNamed "drop-shadow" then dropShadow.all? arguments
      else none
    match inner with
    | some inner => return name ++ '(' :: inner ++ [')']
    | none => failure

/-- Filters one after the other, or none. -/
def filters : Reader Text :=
  keyword ["none"] <|> do
    return (← many filter).flatten

/-! ## §2 Shapes -/

/-- How far a round shape reaches. -/
def shapeRadius : Reader Text := lengthPercentage <|> keyword ["closest-side", "farthest-side"]

/-- A round shape at a position. -/
def roundShape (radii : Reader (List Text)) : Reader Text := do
  let radii ← radii
  let position ← optional atPosition
  let radii := if radii.all (· = "closest-side".toList) then [] else radii
  let placed := (position.filter (!·.isNamedCenter)).map fun place => "at ".toList ++ place.text
  return Text.join [' '] (radii ++ placed.toList)

/-- Which parts of a drawing are inside. -/
def fillRule : Reader Text := keyword ["nonzero", "evenodd"]

/-- A shape with corners. -/
def polygon : Reader Text := do
  let rule ← optional (do
    let rule ← fillRule
    comma
    return rule)
  let point : Reader Text := do
    let x ← lengthPercentage
    return x ++ ' ' :: (← lengthPercentage)
  let points ← commaText point
  return (if rule = some "evenodd".toList then "evenodd,".toList else []) ++ points

/-- A shape inside of a box. -/
def insetShape : Reader Text := do
  let offsets ← sides lengthPercentage
  let round ← optional (do
    word "round"
    corners)
  return offsets ++ ((round.filter (· ≠ ['0'])).map (" round ".toList ++ ·)).getD []

/-- A shape. -/
def basicShape : Reader Text := do
  let (name, arguments) ← anyCall
  let isNamed (other : String) : Bool := name = other.toList
  let radius : Reader (List Text) := return (← optional shapeRadius).toList
  let radii : Reader (List Text) :=
    (do
      let x ← shapeRadius
      return [x, ← shapeRadius]) <|> return []
  let inner : Option Text :=
    if isNamed "inset" then insetShape.all? arguments
    else if isNamed "circle" then (roundShape radius).all? arguments
    else if isNamed "ellipse" then (roundShape radii).all? arguments
    else if isNamed "polygon" then polygon.all? arguments
    else none
  match inner with
  | some inner => return name ++ '(' :: inner ++ [')']
  | none => failure

/-- A shape that cuts a box out. -/
def clipPath : Reader Text :=
  let box := keyword geometryBoxes
  let inside (shape box : Text) : Text :=
    if box = "border-box".toList then shape else shape ++ ' ' :: box
  keyword ["none"] <|> urlText <|>
    (do
      let shape ← basicShape
      return inside shape (← box <|> return "border-box".toList)) <|> do
    let box ← box
    match ← optional basicShape with
    | some shape => return inside shape box
    | none => return box

/-! ## §3 Drawings -/

/-- What a drawing is painted with. -/
def paint : Reader Text :=
  (do
    let address ← urlText
    match ← optional (keyword ["none"] <|> color) with
    | some other => return address ++ ' ' :: other
    | none => return address) <|>
    color <|> keyword ["context-fill", "context-stroke", "none"]

/-- A length as it is written in drawings, where pixels need no unit. -/
def bareLengthText : Calc → Text
  | .value (.length value unit) => if unit = "px".toList then spellNumber value else (Quantity.length value unit).text
  | length => length.text

/-- The lengths of dashes and gaps of a line. -/
def dashes : Reader Text :=
  keyword ["none"] <|> do
    let first ← lengthPercentageCalc
    let others ← many (do
      discard (optional comma)
      lengthPercentageCalc)
    return Text.join [' '] ((first :: others).map bareLengthText)

/-- A mark on a line of a drawing. -/
def marker : Reader Text := keyword ["none"] <|> urlText

end Reader

/-! ## §4 The table -/

open Reader in
/-- Properties of effects and drawings. -/
def effectProperties : List Property :=
  [ { name := "filter", makers := Property.webkit, reader := filters },
    { name := "backdrop-filter", makers := Property.webkit, reader := filters },
    { name := "clip-path", makers := Property.webkit, reader := clipPath },
    { name := "clip-rule", reader := fillRule },
    { name := "fill", reader := paint },
    { name := "fill-rule", reader := fillRule },
    { name := "fill-opacity", reader := spellNumber <$> ratio },
    { name := "stroke", reader := paint },
    { name := "stroke-opacity", reader := spellNumber <$> ratio },
    { name := "stroke-width", reader := lengthPercentage },
    { name := "stroke-linecap", reader := keyword ["butt", "round", "square"] },
    { name := "stroke-linejoin", reader := keyword ["miter", "miter-clip", "round", "bevel", "arcs"] },
    { name := "stroke-miterlimit", reader := numberText },
    { name := "stroke-dasharray", reader := dashes },
    { name := "stroke-dashoffset", reader := lengthPercentage },
    { name := "marker", reader := marker },
    { name := "marker-start", reader := marker },
    { name := "marker-mid", reader := marker },
    { name := "marker-end", reader := marker } ]

end DocSite.Css
