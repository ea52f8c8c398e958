import DocSite.Css.Spelling

/-!
# Readers

A reader takes a value of some kind off the start of a list of nodes, or fails and takes nothing. Gaps before
what it takes are passed. `all?` runs a reader over a whole list.
-/

namespace DocSite.Css

/-- Reads a value from the start of some nodes. -/
abbrev Reader (α : Type) := StateT (List Node) Option α

namespace Reader

/-! ## §1 Single nodes -/

/-- The next node behind gaps. -/
def next : Reader Node := fun nodes =>
  match Node.skipGaps nodes with
  | [] => none
  | node :: rest => some (node, rest)

/-- Nothing but gaps is left. -/
def done : Reader Unit := fun nodes => if (Node.skipGaps nodes).isEmpty then some ((), []) else none

/-- The value of a reader that uses up all nodes. -/
def all? {α : Type} (reader : Reader α) (nodes : List Node) : Option α :=
  match reader.run nodes with
  | some (value, rest) => (done.run rest).map fun _ => value
  | none => none

/-- The next token, if it has a value of some kind. -/
def token {α : Type} (value? : Token → Option α) : Reader α := do
  match ← next with
  | .leaf token _ => value? token
  | _ => failure

/-- A name. -/
def ident : Reader Text := token fun
  | .ident name => some name
  | _ => none

/-- A name in lower case. -/
def lowerIdent : Reader Text := return (← ident).map Char.toLower

/-- One of some names, whatever its case. -/
def keyword (names : List String) : Reader Text := do
  let name ← lowerIdent
  if names.any fun other => other.toList = name then return name else failure

/-- A certain name, whatever its case. -/
def word (name : String) : Reader Unit := discard (keyword [name])

/-- A name that begins with two hyphens. -/
def dashedIdent : Reader Text := do
  let name ← ident
  if Text.startsWith name "--".toList then return name else failure

/-- The content of a string. -/
def string : Reader Text := token fun
  | .string content => some content
  | _ => none

/-- A mark. -/
def delim (mark : Char) : Reader Unit := token fun
  | .delim other => if other = mark then some () else none
  | _ => none

/-- A comma. -/
def comma : Reader Unit := token fun
  | .comma => some ()
  | _ => none

/-- A colon. -/
def colon : Reader Unit := token fun
  | .colon => some ()
  | _ => none

/-- A whole number. -/
def integer : Reader Int := token fun
  | .number numeral => if numeral.isInteger then some numeral.value.num else none
  | _ => none

/-! ## §2 Calls and blocks -/

/-- A call: its name in lower case and its arguments. -/
def anyCall : Reader (Text × List Node) := do
  match ← next with
  | .call name _ arguments => return (name.map Char.toLower, arguments)
  | _ => failure

/-- The value of the arguments of a call with a certain name. -/
def call {α : Type} (name : String) (arguments : Reader α) : Reader α := do
  let (other, nodes) ← anyCall
  if other = name.toList then arguments.all? nodes else failure

/-- The value of the content of a block in brackets. -/
def block {α : Type} (bracket : Char) (content : Reader α) : Reader α := do
  match ← next with
  | .block other nodes => if other = bracket then content.all? nodes else failure
  | _ => failure

/-! ## §3 Several values -/

/-- As many values as there are; `fuel` is at least their number. -/
def manyFrom {α : Type} (reader : Reader α) : (fuel : Nat) → Reader (List α)
  | 0 => return []
  | fuel + 1 => do
    match ← optional reader with
    | some value => return value :: (← manyFrom reader fuel)
    | none => return []

/-- As many values as there are. -/
def many {α : Type} (reader : Reader α) : Reader (List α) := do
  manyFrom reader (← get).length

/-- One value or more. -/
def atLeastOne {α : Type} (reader : Reader α) : Reader (List α) := do
  return (← reader) :: (← many reader)

/-- Nodes up to a comma, and the nodes behind the comma if there is one. -/
def cutComma : List Node → List Node × Option (List Node)
  | [] => ([], none)
  | .leaf .comma _ :: nodes => ([], some nodes)
  | node :: nodes =>
    let (before, behind) := cutComma nodes
    (node :: before, behind)

/-- The parts of some nodes between commas; `fuel` is more than the number of nodes. -/
def commaParts : (fuel : Nat) → List Node → List (List Node)
  | 0, nodes => [nodes]
  | fuel + 1, nodes =>
    match cutComma nodes with
    | (part, none) => [part]
    | (part, some rest) => part :: commaParts fuel rest

/-- The values between commas. All nodes are used up. -/
def commaList {α : Type} (reader : Reader α) : Reader (List α) := fun nodes =>
  ((commaParts (nodes.length + 1) nodes).mapM reader.all?).map fun values => (values, [])

/-- The values between commas, as a text. -/
def commaText (reader : Reader Text) : Reader Text := return Text.join [','] (← commaList reader)

/-- Two values, the second of which may be left out if it is the same as the first. -/
def pair (reader : Reader Text) : Reader Text := do
  let first ← reader
  match ← optional reader with
  | none => return first
  | some second => return if second = first then first else first ++ ' ' :: second

/-- The sides that have to be written: a missing one is that of the opposite side. -/
def shortSides (top right bottom left : Text) : Text :=
  Text.join [' ']
    (if right ≠ left then [top, right, bottom, left]
    else if top ≠ bottom then [top, right, bottom]
    else if top ≠ right then [top, right]
    else [top])

/-- The values of four sides. -/
def fourSides {α : Type} (reader : Reader α) : Reader (α × α × α × α) := do
  let top ← reader
  match ← optional reader with
  | none => return (top, top, top, top)
  | some right =>
    match ← optional reader with
    | none => return (top, right, top, right)
    | some bottom =>
      match ← optional reader with
      | none => return (top, right, bottom, right)
      | some left => return (top, right, bottom, left)

/-- The values of four sides, as a text. -/
def sides (reader : Reader Text) : Reader Text := do
  let (top, right, bottom, left) ← fourSides reader
  return shortSides top right bottom left

/-! ## §4 Parts in any order -/

/-- A part of a value: how it is read, and what stands for it if it is missing. A missing part and one with
its default are the same. -/
structure Slot where
  reader : Reader Text
  default : Text

/-- The first of the open slots that can be filled, by its place, and its value. -/
def fillOne (slots : List Slot) (filled : List (Option Text)) : Reader (Nat × Text) :=
  (List.range slots.length).foldr (fun place others =>
    match slots[place]?, filled[place]? with
    | some slot, some none => (do return (place, ← slot.reader)) <|> others
    | _, _ => others) failure

/-- The values of slots in whatever order they stand; `fuel` is at least their number. -/
def fillFrom (slots : List Slot) : (fuel : Nat) → List (Option Text) → Reader (List (Option Text))
  | 0, filled => return filled
  | fuel + 1, filled => do
    match ← optional (fillOne slots filled) with
    | none => return filled
    | some (place, value) => fillFrom slots fuel (filled.set place (some value))

/-- The values of slots in whatever order they stand. -/
def fill (slots : List Slot) : Reader (List (Option Text)) :=
  fillFrom slots slots.length (slots.map fun _ => none)

/-- The values of slots with their defaults. At least one of them is given. -/
def anyOrder (slots : List Slot) : Reader (List Text) := do
  let filled ← fill slots
  if filled.all Option.isNone then failure
  else return (slots.zip filled).map fun (slot, value) => value.getD slot.default

/-- The values that are not defaults, with blanks between them. -/
def withoutDefaults (slots : List Slot) (values : List Text) : List Text :=
  ((slots.zip values).filter fun (slot, value) => value ≠ slot.default).map (·.2)

/-- Parts in any order; those with their defaults are left out, and if all of them are, the first one is
written. -/
def shorthand (slots : List Slot) : Reader Text := do
  let values ← anyOrder slots
  match withoutDefaults slots values with
  | [] => return values.headD []
  | written => return Text.join [' '] written

end Reader

end DocSite.Css
