import DocSite.Text.Basic

/-!
# TOML values

The values of a TOML document, in the form in which a program reads its settings. Numbers with a
fraction and dates are known by their spelling alone.
-/

namespace DocSite

/-- A TOML value. -/
inductive Toml where
  | string (value : Text)
  | integer (value : Int)
  | float (spelling : Text)
  | boolean (value : Bool)
  | date (spelling : Text)
  | array (items : List Toml)
  | table (entries : List (Text × Toml))
  deriving Repr, Inhabited

namespace Toml

/-- The text of a string. -/
def string? : Toml → Option Text
  | .string value => some value
  | _ => none

/-- The value of a boolean. -/
def boolean? : Toml → Option Bool
  | .boolean value => some value
  | _ => none

/-- The items of an array. -/
def items? : Toml → Option (List Toml)
  | .array items => some items
  | _ => none

/-- The fields of a record whose field names are `names`, in their order. A table gives fields by name
and may have others, an array gives them by place, and a date counts as a record without any of them. -/
def record? (names : List Text) : Toml → Option (List (Option Toml))
  | .table entries => some (names.map fun name => (entries.find? (·.1 = name)).map (·.2))
  | .array items => some ((List.range names.length).map fun place => items[place]?)
  | .date _ => some (names.map fun _ => none)
  | _ => none

/-- A field read by `read?`; a field that is not there has a default. -/
def fieldOr {α : Type} (default : α) (read? : Toml → Option α) : Option Toml → Option α
  | none => some default
  | some value => read? value

/-- A field that must be there, read by `read?`. -/
def field? {α : Type} (read? : Toml → Option α) (field : Option Toml) : Option α :=
  field.bind read?

end Toml

end DocSite
