import DocSite.Decimal.Binary64
import DocSite.Text.Basic

/-!
# JSON values

An object keeps its fields in the order of their first appearance; a field that is given again keeps
its place and takes the new value.
-/

namespace DocSite

/-- A JSON number: a whole number of 64 bits, or a floating-point number. -/
inductive Json.Number where
  | integer (value : Int)
  | double (value : Decimal.Binary64)
  deriving DecidableEq, Repr

/-- A JSON value. -/
inductive Json where
  | null
  | bool (value : Bool)
  | number (value : Json.Number)
  | string (value : Text)
  | array (items : List Json)
  | object (fields : List (Text × Json))
  deriving Repr, Inhabited

namespace Json

/-- The fields with one of them set: in its place if it is there, else at the end. -/
def setField {α : Type} (key : Text) (value : α) : List (Text × α) → List (Text × α)
  | [] => [(key, value)]
  | (k, v) :: fields => if k = key then (k, value) :: fields else (k, v) :: setField key value fields

/-- The value of a field. -/
def field? {α : Type} (key : Text) (fields : List (Text × α)) : Option α :=
  (fields.find? (·.1 = key)).map (·.2)

/-- The value under a key, if the value is an object that has the key. -/
def get? (key : Text) : Json → Option Json
  | .object fields => field? key fields
  | _ => none

/-- The text of a JSON string. -/
def string? : Json → Option Text
  | .string value => some value
  | _ => none

end Json

end DocSite
