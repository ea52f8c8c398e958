import DocSite.View.Template

/-!
# Shapes of values in templates

A template can fail: it may ask nothing for a field, or loop over a number. Whether it does depends on which
values are there, not on what they say. A shape tells which values are there, and a template that has been
checked against the shapes of its names renders with every scope of these shapes
(`Part.exists_renderAll`).
-/

namespace DocSite.View

/-! ## §1 Shapes -/

/-- What is known of a value. -/
inductive Shape where
  /-- Nothing is known; there may be no value at all. -/
  | any
  /-- There is a value. -/
  | present
  /-- A loop runs over items of a shape. -/
  | list (item : Shape)
  /-- A field has one shape, and the whole value has another one. -/
  | field (name : Text) (shape whole : Shape)
  deriving DecidableEq, Repr

namespace Shape

/-- Whether what is known holds of a value. -/
def Fits : Shape → Value → Prop
  | any, _ => True
  | present, value => value.isSome = true
  | list item, value => ∃ found, items value = .ok found ∧ ∀ entry ∈ found, item.Fits (some entry)
  | field name shape whole, value => shape.Fits (value.bind (Json.get? name)) ∧ whole.Fits value

/-- What is known of a field; `none` if there might be no value to ask for it. -/
def field? (name : Text) : Shape → Option Shape
  | any => none
  | present => some any
  | list _ => none
  | field other shape whole =>
    (whole.field? name).map fun found => if other = name then shape else found

/-- A field that is known of can be asked for. -/
theorem exists_field_of_field? {name : Text} {shape found : Shape} {value : Value}
    (fits : shape.Fits value) (h : shape.field? name = some found) :
    ∃ inner, View.field name value = .ok inner ∧ inner = value.bind (Json.get? name) ∧
      found.Fits inner := by
  induction shape generalizing found with
  | any => cases h
  | list item _ => cases h
  | present =>
    obtain ⟨json, rfl⟩ := Option.isSome_iff_exists.mp fits
    cases h
    exact ⟨_, rfl, rfl, trivial⟩
  | field other shape whole _ ih =>
    obtain ⟨behind, hbehind, rfl⟩ := Option.map_eq_some_iff.mp h
    obtain ⟨inner, asked, rfl, holds⟩ := ih fits.2 hbehind
    refine ⟨_, asked, rfl, ?_⟩
    split
    case isTrue same => exact same ▸ fits.1
    case isFalse => exact holds

end Shape

/-! ## §2 Contexts -/

/-- The shapes of names, innermost first. -/
abbrev Context := List (Text × Shape)

namespace Context

/-- A scope has the names of a context, and values of their shapes. -/
inductive Fits : Context → Scope → Prop
  | nil : Fits [] []
  | cons {context : Context} {scope : Scope} (name : Text) {shape : Shape} {value : Json}
      (here : shape.Fits (some value)) (rest : Fits context scope) :
      Fits ((name, shape) :: context) ((name, value) :: scope)

/-- What is known of the value of a path; `none` if the path may lead through nothing. -/
def shape? (context : Context) (path : Path) : Option Shape :=
  path.fields.foldlM (fun shape name => shape.field? name)
    ((Json.field? path.name context).getD .any)

variable {context : Context} {scope : Scope}

theorem Fits.field? (h : context.Fits scope) (name : Text) :
    ((Json.field? name context).getD .any).Fits (Json.field? name scope) := by
  induction h with
  | nil => trivial
  | cons other here _ ih =>
    by_cases same : other = name
    · simpa [Json.field?, List.find?_cons, same] using here
    · simpa [Json.field?, List.find?_cons, same] using ih

/-- A path whose shape is known leads to a value of that shape. -/
theorem Fits.exists_get (h : context.Fits scope) {path : Path} {shape : Shape}
    (hpath : context.shape? path = some shape) :
    ∃ value, scope.get path = .ok value ∧ shape.Fits value := by
  obtain ⟨name, fields⟩ := path
  have start := h.field? name
  simp only [shape?, Scope.get] at hpath ⊢
  -- Each field is asked of the value that the fields before it have led to.
  generalize (Json.field? name context).getD .any = known at hpath start
  generalize Json.field? name scope = value at start
  induction fields generalizing known value with
  | nil =>
    cases hpath
    exact ⟨value, rfl, start⟩
  | cons field fields ih =>
    simp only [List.foldlM_cons, Option.bind_eq_bind, Option.bind_eq_some_iff] at hpath ⊢
    obtain ⟨next, hnext, hrest⟩ := hpath
    obtain ⟨inner, asked, -, fits⟩ := Shape.exists_field_of_field? start hnext
    obtain ⟨last, reached, holds⟩ := ih next hrest inner fits
    refine ⟨last, ?_, holds⟩
    rw [asked]
    exact reached

end Context

/-! ## §3 Checked templates -/

/-- All paths in the condition lead somewhere. -/
def Condition.checks (context : Context) : Condition → Bool
  | .holds path => (context.shape? path).isSome
  | .equals path _ => (context.shape? path).isSome
  | .both first second => first.checks context && second.checks context
  | .either first second => first.checks context && second.checks context

mutual

/-- All paths in the part lead somewhere, and its loops run over lists. -/
def Part.checks (context : Context) : Part → Bool
  | .text _ => true
  | .value path => (context.shape? path).isSome
  | .markup path => (context.shape? path).isSome
  | .choice condition yes no =>
    condition.checks context && Part.allCheck context yes && Part.allCheck context no
  | .each name path body otherwise =>
    match context.shape? path with
    | some (.list item) =>
      Part.allCheck ((name, item) :: context) body && Part.allCheck context otherwise
    | _ => false
  | .insert parts => Part.allCheck context parts

/-- All of the parts check. -/
def Part.allCheck (context : Context) : List Part → Bool
  | [] => true
  | part :: parts => part.checks context && Part.allCheck context parts

end

section Soundness

variable {context : Context} {scope : Scope}

theorem Condition.exists_test (fits : context.Fits scope) {condition : Condition}
    (h : condition.checks context = true) : ∃ holds, condition.test scope = .ok holds := by
  induction condition with
  | holds path =>
    obtain ⟨shape, hshape⟩ := Option.isSome_iff_exists.mp h
    obtain ⟨value, hvalue, -⟩ := fits.exists_get hshape
    exact ⟨isTrue value, by rw [test, hvalue]; rfl⟩
  | equals path text =>
    obtain ⟨shape, hshape⟩ := Option.isSome_iff_exists.mp h
    obtain ⟨value, hvalue, -⟩ := fits.exists_get hshape
    rw [test, hvalue]
    match value with
    | some (.string found) => exact ⟨_, rfl⟩
    | none | some .null | some (.bool _) | some (.number _) | some (.array _) | some (.object _) =>
      exact ⟨_, rfl⟩
  | both first second ihf ihs =>
    simp only [checks, Bool.and_eq_true] at h
    obtain ⟨one, hone⟩ := ihf h.1
    obtain ⟨two, htwo⟩ := ihs h.2
    rw [test, hone, htwo]
    cases one <;> exact ⟨_, rfl⟩
  | either first second ihf ihs =>
    simp only [checks, Bool.and_eq_true] at h
    obtain ⟨one, hone⟩ := ihf h.1
    obtain ⟨two, htwo⟩ := ihs h.2
    rw [test, hone, htwo]
    cases one <;> exact ⟨_, rfl⟩

/-- Work on each item of a list succeeds if it does on every item. -/
private theorem exists_mapM {α β ε : Type} {work : α → Except ε β} {entries : List α}
    (h : ∀ entry ∈ entries, ∃ result, work entry = .ok result) :
    ∃ results, entries.mapM work = .ok results := by
  induction entries with
  | nil => exact ⟨[], rfl⟩
  | cons entry entries ih =>
    obtain ⟨result, hresult⟩ := h entry (List.mem_cons_self ..)
    obtain ⟨results, hresults⟩ := ih fun e he => h e (List.mem_cons_of_mem _ he)
    refine ⟨result :: results, ?_⟩
    rw [List.mapM_cons, hresult, hresults]
    rfl

mutual

/-- A checked part renders. -/
theorem Part.exists_render {context : Context} {scope : Scope} (fits : context.Fits scope) :
    (part : Part) → part.checks context = true → ∃ text, part.render scope = .ok text
  | .text written, _ => ⟨written, rfl⟩
  | .value path, h => by
    obtain ⟨shape, hshape⟩ := Option.isSome_iff_exists.mp h
    obtain ⟨value, hvalue, -⟩ := fits.exists_get hshape
    exact ⟨escaped value, by rw [Part.render, hvalue]; rfl⟩
  | .markup path, h => by
    obtain ⟨shape, hshape⟩ := Option.isSome_iff_exists.mp h
    obtain ⟨value, hvalue, -⟩ := fits.exists_get hshape
    exact ⟨plain value, by rw [Part.render, hvalue]; rfl⟩
  | .choice condition yes no, h => by
    simp only [Part.checks, Bool.and_eq_true] at h
    obtain ⟨holds, hholds⟩ := Condition.exists_test fits h.1.1
    obtain ⟨one, hone⟩ := Part.exists_renderAll fits yes h.1.2
    obtain ⟨two, htwo⟩ := Part.exists_renderAll fits no h.2
    rw [Part.render, hholds, hone, htwo]
    cases holds <;> exact ⟨_, rfl⟩
  | .each name path body otherwise, h => by
    simp only [Part.checks] at h
    split at h
    case h_2 => cases h
    case h_1 item hpath =>
      -- Every item has the shape that the body was checked against for the name of the loop.
      simp only [Bool.and_eq_true] at h
      obtain ⟨value, hvalue, found, hfound, each⟩ := fits.exists_get hpath
      rw [Part.render, hvalue]
      simp only [bind, Except.bind, hfound]
      cases found with
      | nil => exact Part.exists_renderAll fits otherwise h.2
      | cons first others =>
        obtain ⟨texts, htexts⟩ := exists_mapM fun entry (hentry : entry ∈ first :: others) =>
          Part.exists_renderAll (.cons name (each entry hentry) fits) body h.1
        exact ⟨texts.flatten, by simp only [htexts]; rfl⟩
  | .insert parts, h => by
    obtain ⟨text, htext⟩ := Part.exists_renderAll fits parts h
    exact ⟨text, by rw [Part.render, htext]⟩

/-- **Checked parts render** with every scope of the shapes that they were checked against. -/
theorem Part.exists_renderAll {context : Context} {scope : Scope} (fits : context.Fits scope) :
    (parts : List Part) → Part.allCheck context parts = true →
      ∃ text, Part.renderAll scope parts = .ok text
  | [], _ => ⟨[], rfl⟩
  | part :: parts, h => by
    simp only [Part.allCheck, Bool.and_eq_true] at h
    obtain ⟨one, hone⟩ := Part.exists_render fits part h.1
    obtain ⟨two, htwo⟩ := Part.exists_renderAll fits parts h.2
    exact ⟨one ++ two, by rw [Part.renderAll, hone, htwo]; rfl⟩

end

end Soundness

end DocSite.View
