import DocSite.Html.Escape
import DocSite.Json.Printer
import DocSite.Text.Visible

/-!
# Values in templates

Templates work on JSON values, and on the absence of a value. This module says which values count as
true, what a loop runs over, and how a value is written into a page.
-/

namespace DocSite.View

/-- Why a page cannot be written. -/
inductive TemplateError where
  /-- There is no template of that name. -/
  | unknownTemplate
  /-- A field of a value that is not there was asked for. -/
  | fieldOfNothing
  /-- A loop was to run over a number or a boolean. -/
  | notIterable
  /-- An included template failed. -/
  | failedInclude
  deriving DecidableEq, Repr

/-- A value, or none. -/
abbrev Value := Option Json

/-- Whether a number is zero. -/
def isZero : Json.Number → Bool
  | .integer value => value = 0
  | .double value => value.isZero

/-- Whether a value counts as true: it is there and is not null, false, zero or empty. -/
def isTrue : Value → Bool
  | none => false
  | some .null => false
  | some (.bool value) => value
  | some (.number value) => !isZero value
  | some (.string value) => !value.isEmpty
  | some (.array items) => !items.isEmpty
  | some (.object fields) => !fields.isEmpty

/-- A field of a value. A value without fields has none of them, but nothing has no fields to ask
for. -/
def field (name : Text) : Value → Except TemplateError Value
  | none => .error .fieldOfNothing
  | some value => .ok (value.get? name)

/-- Fields in the order of their names. -/
def sortFields (fields : List (Text × Json)) : List (Text × Json) :=
  fields.mergeSort fun a b => Text.lessEq a.1 b.1

/-- What a loop over a value runs over: the items of an array, the names of the fields of an object, the
characters of a text. -/
def items : Value → Except TemplateError (List Json)
  | none => .ok []
  | some .null => .ok []
  | some (.array items) => .ok items
  | some (.object fields) => .ok ((sortFields fields).map fun (name, _) => .string name)
  | some (.string text) => .ok (text.map fun c => .string [c])
  | some (.number _) => .error .notIterable
  | some (.bool _) => .error .notIterable

/-- A character of a text that stands inside another value. -/
def quotedChar (c : Char) : Text :=
  match c with
  | '"' => "\\\"".toList
  | '\\' => "\\\\".toList
  | '\n' => "\\n".toList
  | '\r' => "\\r".toList
  | '\t' => "\\t".toList
  | '\x00' => "\\0".toList
  | c =>
    if Text.isHidden c then
      "\\u\x7b".toList ++ Nat.toDigits 16 c.toNat ++ ['\x7d']
    else [c]

/-- A text that stands inside another value. -/
def quoted (text : Text) : Text := '"' :: text.flatMap quotedChar ++ ['"']

/-- A number that stands inside another value: a very large or very small one with a power of ten. -/
def innerNumber : Json.Number → Text
  | .integer value => (Json.Number.integer value).toText
  | .double value => value.toShortText

mutual

/-- A value that stands inside another one. -/
def inner : Json → Text
  | .null => "None".toList
  | .bool true => "True".toList
  | .bool false => "False".toList
  | .number value => innerNumber value
  | .string value => quoted value
  | .array items => '[' :: innerItems items ++ [']']
  | .object fields => '\x7b' :: innerFields fields ++ ['\x7d']

/-- Items with commas between them. -/
def innerItems : List Json → Text
  | [] => []
  | [item] => inner item
  | item :: items => inner item ++ ", ".toList ++ innerItems items

/-- Fields with commas between them. -/
def innerFields : List (Text × Json) → Text
  | [] => []
  | [(name, value)] => quoted name ++ ": ".toList ++ inner value
  | (name, value) :: fields =>
    quoted name ++ ": ".toList ++ inner value ++ ", ".toList ++ innerFields fields

end

mutual

/-- A value with the fields of all objects in the order of their names. -/
def sorted : Json → Json
  | .array items => .array (sortedItems items)
  | .object fields => .object (sortFields (sortedFields fields))
  | value => value

/-- Items with the fields of all objects in them in the order of their names. -/
def sortedItems : List Json → List Json
  | [] => []
  | item :: items => sorted item :: sortedItems items

/-- Fields whose values have the fields of all objects in the order of their names. -/
def sortedFields : List (Text × Json) → List (Text × Json)
  | [] => []
  | (name, value) :: fields => (name, sorted value) :: sortedFields fields

end

/-- A value as it is written before escaping. A text stands for itself, and a number is written out. -/
def plain : Value → Text
  | none => []
  | some (.string text) => text
  | some (.number value) => value.toText
  | some value => inner (sorted value)

/-- A value as it is written into a page. -/
def escaped (value : Value) : Text := Html.escapeSafe (plain value)

end DocSite.View
