import DocSite.View.Value

/-!
# Templates

A template is a list of parts: text, values, choices, loops and other templates. It is rendered with a
scope, which gives values to names.
-/

namespace DocSite.View

/-- A name and the fields to follow from its value. -/
structure Path where
  name : Text
  fields : List Text := []
  deriving DecidableEq, Repr

/-- A condition. -/
inductive Condition where
  /-- A value counts as true. -/
  | holds (path : Path)
  /-- A value is a certain text. -/
  | equals (path : Path) (text : Text)
  | both (first second : Condition)
  | either (first second : Condition)
  deriving Repr

/-- A part of a template. -/
inductive Part where
  | text (text : Text)
  /-- A value, escaped. -/
  | value (path : Path)
  /-- A value that is markup already. -/
  | markup (path : Path)
  | choice (condition : Condition) (yes no : List Part)
  /-- Parts for each item of a value, which gets a name, or other parts if there is no item. -/
  | each (name : Text) (path : Path) (body otherwise : List Part)
  /-- Another template. -/
  | insert (parts : List Part)
  deriving Repr

/-- The values of names, innermost first. -/
abbrev Scope := List (Text × Json)

/-- The value of a path. -/
def Scope.get (scope : Scope) (path : Path) : Except TemplateError Value :=
  path.fields.foldlM (fun value name => field name value) (Json.field? path.name scope)

/-- Whether a condition holds. The second of two is asked only if the first does not decide. -/
def Condition.test (scope : Scope) : Condition → Except TemplateError Bool
  | .holds path => do return isTrue (← scope.get path)
  | .equals path text => do
    match ← scope.get path with
    | some (.string found) => return found = text
    | _ => return false
  | .both first second => do if ← first.test scope then second.test scope else return false
  | .either first second => do if ← first.test scope then return true else second.test scope

mutual

/-- The text of a part. -/
def Part.render (scope : Scope) : Part → Except TemplateError Text
  | .text written => .ok written
  | .value path => do return escaped (← scope.get path)
  | .markup path => do return plain (← scope.get path)
  | .choice condition yes no => do
    if ← condition.test scope then Part.renderAll scope yes else Part.renderAll scope no
  | .each name path body otherwise => do
    match ← items (← scope.get path) with
    | [] => Part.renderAll scope otherwise
    | found =>
      let texts ← found.mapM fun item => Part.renderAll ((name, item) :: scope) body
      return texts.flatten
  | .insert parts =>
    match Part.renderAll scope parts with
    | .ok found => .ok found
    | .error _ => .error .failedInclude

/-- The text of parts one after the other. -/
def Part.renderAll (scope : Scope) : List Part → Except TemplateError Text
  | [] => .ok []
  | part :: parts => do return (← part.render scope) ++ (← Part.renderAll scope parts)

end

end DocSite.View
