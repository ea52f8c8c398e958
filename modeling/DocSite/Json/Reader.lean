import DocSite.Json.Token

/-!
# Reading JSON

The tokens of a text are read from left to right by a machine that keeps a stack of the arrays and
objects that are still open. At most `maxDepth` of them may be open at a time.
-/

namespace DocSite.Json

/-- How many arrays and objects may be open at a time. -/
def maxDepth : Nat := 127

/-- An array or object that is still open, with what has been read of it. -/
inductive Frame where
  /-- The items of an array so far, last one first. -/
  | array (items : List Json)
  /-- The fields of an object so far, and the key whose value is to come. -/
  | object (fields : List (Text × Json)) (key : Text)
  deriving Repr

/-- What may come next. -/
inductive Expected where
  /-- A value. -/
  | value
  /-- The first item of an array, or its end. -/
  | firstItem
  /-- The first key of an object, or its end. -/
  | firstKey
  /-- A key. -/
  | key
  /-- The colon behind a key. -/
  | colon
  /-- A comma, or the end of the innermost open array or object. -/
  | separator
  /-- Nothing: the value is complete. -/
  | nothing (value : Json)
  deriving Repr

/-- The state of the machine. -/
structure Reader where
  /-- What is still open, innermost first. -/
  frames : List Frame
  expected : Expected
  deriving Repr

namespace Reader

/-- Nothing read yet. -/
def start : Reader := ⟨[], .value⟩

/-- A complete value goes into the innermost open array or object. -/
def put (frames : List Frame) (value : Json) : Reader :=
  match frames with
  | [] => ⟨[], .nothing value⟩
  | .array items :: outer => ⟨.array (value :: items) :: outer, .separator⟩
  | .object fields key :: outer => ⟨.object (setField key value fields) key :: outer, .separator⟩

/-- One more array or object is opened. -/
def openFrame? (frames : List Frame) (frame : Frame) (expected : Expected) : Option Reader :=
  if frames.length < maxDepth then some ⟨frame :: frames, expected⟩ else none

/-- The state after one more token; `none` if the token cannot stand there. -/
def step? (reader : Reader) (token : Token) : Option Reader :=
  match reader.expected, token, reader.frames with
  | .value, .openArray, frames | .firstItem, .openArray, frames =>
    openFrame? frames (.array []) .firstItem
  | .value, .openObject, frames | .firstItem, .openObject, frames =>
    openFrame? frames (.object [] []) .firstKey
  | .value, .literal value, frames | .firstItem, .literal value, frames => some (put frames value)
  | .value, .string value, frames | .firstItem, .string value, frames =>
    some (put frames (.string value))
  | .firstItem, .closeArray, .array _ :: outer => some (put outer (.array []))
  | .firstKey, .closeObject, .object _ _ :: outer => some (put outer (.object []))
  | .firstKey, .string key, .object fields _ :: outer
  | .key, .string key, .object fields _ :: outer => some ⟨.object fields key :: outer, .colon⟩
  | .colon, .colon, frames => some ⟨frames, .value⟩
  | .separator, .comma, .array items :: outer => some ⟨.array items :: outer, .value⟩
  | .separator, .comma, .object fields key :: outer => some ⟨.object fields key :: outer, .key⟩
  | .separator, .closeArray, .array items :: outer => some (put outer (.array items.reverse))
  | .separator, .closeObject, .object fields _ :: outer => some (put outer (.object fields))
  | _, _, _ => none

/-- The value, if it is complete. -/
def result? (reader : Reader) : Option Json :=
  match reader.expected with
  | .nothing value => some value
  | _ => none

end Reader

/-- The value of a JSON text. -/
def parse? (text : Text) : Option Json := do
  let tokens ← Token.scanAll? text.length text
  let reader ← tokens.foldlM Reader.step? Reader.start
  reader.result?

/-- The keys of the outermost object among tokens, as often as they are given; `depth` arrays and objects
are open before the tokens. -/
def outerKeys (depth : Nat) : List Token → List Text
  | [] => []
  | .string key :: .colon :: tokens =>
    if depth = 1 then key :: outerKeys depth tokens else outerKeys depth tokens
  | .openArray :: tokens | .openObject :: tokens => outerKeys (depth + 1) tokens
  | .closeArray :: tokens | .closeObject :: tokens => outerKeys (depth - 1) tokens
  | _ :: tokens => outerKeys depth tokens

/-- The keys of the outermost object of a JSON text, as often as they are given. -/
def keysOf (text : Text) : List Text :=
  match Token.scanAll? text.length text with
  | some tokens => outerKeys 0 tokens
  | none => []

end DocSite.Json
