import DocSite.Css.ColorValue

/-!
# Loose values

Values of which nothing is known, of an author's own properties or with variables in them, are kept node by node:
blank space shrinks to single blanks, or to nothing where it means nothing, and colors and numbers become short.
-/

namespace DocSite.Css

/-- What has been written of a loose value. -/
structure Loose where
  /-- The pieces, last one first; none is a blank. -/
  pieces : List (Option Text) := []
  /-- Whether the last piece needs no blank behind it. -/
  isTight : Bool := false

namespace Loose

/-- One more piece, and whether it needs no blank behind it. -/
def add (loose : Loose) (piece : Text) (isTight : Bool) : Loose := ⟨some piece :: loose.pieces, isTight⟩

/-- A blank, where it means something. A comment counts as one, also beside another one. -/
def addSpace (loose : Loose) : Loose :=
  if loose.isTight then loose else ⟨none :: loose.pieces, false⟩

/-- A mark, which takes the place of a blank. -/
def addMark (loose : Loose) (mark : Text) : Loose :=
  ⟨some mark :: (if loose.pieces.head? = some none then loose.pieces.tail else loose.pieces), true⟩

/-- The pieces as a text. -/
def text (pieces : List (Option Text)) : Text := pieces.reverse.flatMap fun piece => piece.getD [' ']

/-- The pieces as a text without blanks at the ends, unless a blank is all there is. -/
def trimmed (loose : Loose) : Text :=
  match loose.pieces with
  | [] => []
  | [piece] => piece.getD [' ']
  | pieces =>
    let pieces := if pieces.head? = some none then pieces.tail else pieces
    text (if pieces.getLast? = some none then pieces.dropLast else pieces)

/-- A mark as it is written: a sign has blanks around it. -/
def spellMark (mark : Char) : Text := if mark = '+' ∨ mark = '-' then [' ', mark, ' '] else [mark]

/-- A percentage as it is written here: with its sign, and with a zero before the point. -/
def spellShare (numeral : Numeral) : Text :=
  let sign : Text := if numeral.signed ∧ 0 ≤ numeral.value then ['+'] else []
  let spelled := spellPercentage numeral.value
  let padded :=
    match spelled with
    | '.' :: _ => '0' :: spelled
    | '-' :: '.' :: rest => '-' :: '0' :: '.' :: rest
    | _ => spelled
  sign ++ padded

/-- A number with a unit as it is written here: zero keeps its unit. -/
def spellUnit (numeral : Numeral) (unit : Text) : Text :=
  match Quantity.ofUnit? { length := true, angle := true, time := true } numeral.value unit with
  | some quantity => quantity.textWithUnit
  | none =>
    if unit.map Char.toLower = "dppx".toList ∨ unit.map Char.toLower = ['x'] then
      spellDimension numeral.value ['x']
    else spellDimension numeral.value unit

/-- A token with what it is written as, and whether it needs no blank behind it. Colors are short. -/
def spellToken? : Token → Option (Text × Bool)
  | .ident name => some (spellName name, false)
  | .atName name => some ('@' :: spellName name, false)
  | .hash digits _ =>
    match Color.ofDigits? digits with
    | some color => some (color.short, false)
    | none => some ('#' :: spellNameChars digits, false)
  | .string content => some (spellString content, false)
  | .address address => some (spellAddress address, false)
  | .number numeral => some (spellNumber numeral.value, false)
  | .percentage numeral => some (spellShare numeral, false)
  | .dimension numeral unit => some (spellUnit numeral unit, false)
  | .colon => some ([':'], false)
  | .semicolon => some ([';'], false)
  | .compare mark => some ([mark, '='], false)
  | .hiding written => some (written, false)
  | _ => none

/-- The opacity of a color that is not known yet: what stands behind its slash. -/
def opacityNodes : Reader (List Node) := do
  Reader.delim '/'
  let nodes ← get
  set ([] : List Node)
  return nodes

/-- The known parts of a color whose opacity is not known, as they are written, and the opacity. -/
def fadedColor : (name : Text) → Reader (Text × List Node)
  | ['r', 'g', 'b'] | ['r', 'g', 'b', 'a'] => do
    let part : Reader Text := do
      match ← Reader.colorPart with
      | .number n => return spellNumber (between 0 255 (n + 1 / 2).floor)
      | part => return spellNumber (byteOf (part.value 1))
    let red ← part
    let green ← part
    let blue ← part
    return ("rgb(".toList ++ red ++ ' ' :: green ++ ' ' :: blue ++ ['/'], ← opacityNodes)
  | ['h', 's', 'l'] | ['h', 's', 'l', 'a'] => do
    let hue ← Reader.huePart
    let saturation ← Reader.sharePart
    let lightness ← Reader.sharePart
    return ("hsl(".toList ++ hue.text 1 ++ ' ' :: saturation.percentText 1 ++
      ' ' :: lightness.percentText 1 ++ ['/'], ← opacityNodes)
  | _ => failure

/-- Names of what surrounds a page, which may be written in any case. -/
def surroundings : List String :=
  ["safe-area-inset-top", "safe-area-inset-right", "safe-area-inset-bottom", "safe-area-inset-left",
    "viewport-segment-width", "viewport-segment-height", "viewport-segment-top",
    "viewport-segment-left", "viewport-segment-bottom", "viewport-segment-right"]

/-- The name and the indices with which a variable of the surroundings begins. -/
def surroundingName : Reader Text := do
  let name ← Reader.keyword surroundings <|> (return spellName (← Reader.ident))
  let indices ← Reader.many Reader.integer
  return name ++ indices.flatMap fun (index : Int) => ' ' :: spellNumber index

mutual

/-- What has been written with more nodes; none if one of them is broken. `fuel` is more than the size of the
nodes. -/
def read? : (fuel : Nat) → List Node → Loose → Option Loose
  | 0, _, _ => none
  | _, [], loose => some loose
  | fuel + 1, node :: nodes, loose => (readNode? fuel node loose).bind (read? fuel nodes)

/-- What has been written with one more node. -/
def readNode? : (fuel : Nat) → Node → Loose → Option Loose
  | 0, _, _ => none
  | fuel + 1, node, loose =>
    match node with
    | .leaf .space _ | .leaf (.comment _) _ => some loose.addSpace
    | .leaf (.delim mark) _ => some (loose.addMark (spellMark mark))
    | .leaf .comma _ => some (loose.addMark [','])
    | .leaf token _ => (spellToken? token).map fun (piece, isTight) => loose.add piece isTight
    | .block bracket content =>
      (read? fuel content ⟨some [bracket] :: loose.pieces, false⟩).map fun inner =>
        inner.add [closerOf bracket] true
    | .call name _ arguments =>
      let isNamed (other : String) : Bool := name = other.toList
      match Reader.colorCall? Reader.maxColorDepth (name.map Char.toLower) arguments,
        (fadedColor (name.map Char.toLower)).run arguments with
      | some color, _ => some (loose.add color.text false)
      | none, some ((written, opacity), _) =>
        (readTrimmed? fuel opacity).map fun opacity => loose.add (written ++ opacity ++ [')']) true
      | none, none =>
        if isNamed "url" then
          (Reader.string.all? arguments).map fun address => loose.add (spellAddress address) false
        else
          -- A variable may stand for a mark that needs blanks around it.
          let isVariable := isNamed "var" || isNamed "env"
          let inner :=
            if isNamed "var" then readFallback? fuel (spellName <$> Reader.dashedIdent) arguments
            else if isNamed "env" then readFallback? fuel surroundingName arguments
            else readTrimmed? fuel arguments
          let name := if isVariable then name else spellName name
          inner.map fun inner => loose.add (name ++ '(' :: inner ++ [')']) (!isVariable)

/-- The text of a name and of a loose value behind a comma, if there is one. -/
def readFallback? : (fuel : Nat) → Reader Text → List Node → Option Text
  | 0, _, _ => none
  | fuel + 1, reader, nodes =>
    match reader.run nodes with
    | none => none
    | some (name, rest) =>
      match Node.skipGaps rest with
      | [] => some name
      | .leaf .comma _ :: rest => (readTrimmed? fuel rest).map fun fallback => name ++ ',' :: fallback
      | _ => none

/-- The text of nodes without blanks at the ends. -/
def readTrimmed? : (fuel : Nat) → List Node → Option Text
  | 0, _ => none
  | fuel + 1, nodes => (read? fuel nodes {}).map trimmed

end

/-- The text of a loose value; none if one of its nodes is broken. -/
def ofNodes? (nodes : List Node) : Option Text :=
  readTrimmed? (4 * (Node.sourceOf nodes).length + 8) nodes

end Loose

end DocSite.Css
