import DocSite.Text.Blank

/-!
# Block elements

A block element is written `<Name …>inner</Name>`. An element is complete where its opening tag is
well formed and a closing tag follows; it ends at the first closing tag behind its opening tag, so
elements of one name do not nest.

`elementAt?` reads the complete element at the start of a text, `findElement?` the leftmost one
anywhere in it, and `replaceElements` replaces all of them from left to right.
-/

namespace DocSite.Tag

/-! ## §1 Tags -/

/-- What may stand between the name of a tag and the `>` that ends its opening tag. -/
inductive OpenForm where
  /-- Nothing. -/
  | bare
  /-- Nothing, or blank space and attributes. -/
  | attributes
  /-- Blank space and attributes. -/
  | spaced
  deriving DecidableEq, Repr

/-- A kind of block element. -/
structure Kind where
  /-- The name in the opening and in the closing tag. -/
  name : Text
  /-- The shape of the opening tag. -/
  form : OpenForm
  deriving DecidableEq, Repr

/-- Text up to the first `>` that stands outside double quotes, and the text behind it. -/
def cutOpening? : (quoted : Bool) → Text → Option (Text × Text)
  | _, [] => none
  | quoted, c :: text =>
    if c = '>' && !quoted then some ([], text)
    else
      (cutOpening? (if c = '"' then !quoted else quoted) text).map
        fun (attributes, rest) => (c :: attributes, rest)

/-- The attribute text of an opening tag whose name has just been read, and the text behind its
`>`. -/
def OpenForm.read? (form : OpenForm) (text : Text) : Option (Text × Text) :=
  match text with
  | [] => none
  | c :: rest =>
    if c = '>' && form != .spaced then some ([], rest)
    else if Text.isBlank c && form != .bare then cutOpening? false text
    else none

/-- How an opening tag of this kind begins. -/
def Kind.opening (tag : Kind) : Text := '<' :: tag.name

/-- The closing tag. -/
def Kind.closing (tag : Kind) : Text := '<' :: '/' :: tag.name ++ ['>']

/-! ## §2 Elements -/

/-- A complete element. -/
structure Element where
  /-- The text between the name and the `>` of the opening tag. -/
  attributes : Text
  /-- The text between the opening and the closing tag. -/
  inner : Text
  deriving DecidableEq, Repr

/-- The complete element at the start of a text, and the text behind its closing tag. -/
def elementAt? (tag : Kind) (text : Text) : Option (Element × Text) := do
  let afterName ← Text.after? tag.opening text
  let (attributes, body) ← tag.form.read? afterName
  let (inner, rest) ← Text.cut? tag.closing body
  return (⟨attributes, inner⟩, rest)

/-- The leftmost complete element of a text, between the text before and the text behind it. -/
def findElement? (tag : Kind) : Text → Option (Text × Element × Text)
  | [] => none
  | c :: text =>
    match elementAt? tag (c :: text) with
    | some (element, rest) => some ([], element, rest)
    | none =>
      (findElement? tag text).map fun (before, element, rest) => (c :: before, element, rest)

/-! ## §3 What a reader has read -/

/-- The element as it is written in a text. -/
def Element.written (tag : Kind) (element : Element) : Text :=
  tag.opening ++ element.attributes ++ '>' :: element.inner ++ tag.closing

theorem eq_of_cutOpening? {quoted : Bool} {text attributes rest : Text}
    (h : cutOpening? quoted text = some (attributes, rest)) : text = attributes ++ '>' :: rest := by
  induction text generalizing quoted attributes with
  | nil => simp [cutOpening?] at h
  | cons c text ih =>
    simp only [cutOpening?] at h
    split at h
    · rename_i hc
      simp only [Bool.and_eq_true, decide_eq_true_eq] at hc
      simp only [Option.some.injEq, Prod.mk.injEq] at h
      obtain ⟨rfl, rfl⟩ := h
      simp [hc.1]
    · simp only [Option.map_eq_some_iff, Prod.mk.injEq, Prod.exists] at h
      obtain ⟨a, r, ha, rfl, rfl⟩ := h
      simp [ih ha]

theorem OpenForm.eq_of_read? {form : OpenForm} {text attributes rest : Text}
    (h : form.read? text = some (attributes, rest)) : text = attributes ++ '>' :: rest := by
  cases text with
  | nil => simp [OpenForm.read?] at h
  | cons c text =>
    simp only [OpenForm.read?] at h
    split at h
    · rename_i hc
      simp only [Bool.and_eq_true, decide_eq_true_eq] at hc
      simp only [Option.some.injEq, Prod.mk.injEq] at h
      obtain ⟨rfl, rfl⟩ := h
      simp [hc.1]
    · split at h
      · exact eq_of_cutOpening? h
      · simp at h

/-- A text in which an element is read begins with the element as it is written. -/
theorem eq_of_elementAt? {tag : Kind} {text rest : Text} {element : Element}
    (h : elementAt? tag text = some (element, rest)) : text = element.written tag ++ rest := by
  simp only [elementAt?, Option.bind_eq_bind, Option.bind_eq_some_iff, Prod.exists, pure,
    Option.some.injEq, Prod.mk.injEq] at h
  obtain ⟨a, ha, b, c, hc, i, r, hi, rfl, rfl⟩ := h
  have h₁ := Text.after?_eq_some_iff.1 ha
  have h₂ := OpenForm.eq_of_read? hc
  have h₃ := Text.cut?_eq_some hi
  simp [h₁, h₂, h₃, Element.written]

/-- A text in which an element is found is the text before it, the element as it is written, and the
text behind it. -/
theorem eq_of_findElement? {tag : Kind} {text before rest : Text} {element : Element}
    (h : findElement? tag text = some (before, element, rest)) :
    text = before ++ element.written tag ++ rest := by
  induction text generalizing before with
  | nil => simp [findElement?] at h
  | cons c text ih =>
    simp only [findElement?] at h
    split at h
    · rename_i hr
      simp only [Option.some.injEq, Prod.mk.injEq] at h
      obtain ⟨rfl, rfl, rfl⟩ := h
      simpa using eq_of_elementAt? hr
    · simp only [Option.map_eq_some_iff, Prod.mk.injEq, Prod.exists] at h
      obtain ⟨b, e, r, hb, rfl, rfl, rfl⟩ := h
      simp [ih hb]

theorem Element.utf8Length_written (tag : Kind) (element : Element) :
    (element.written tag).utf8Length =
      element.attributes.utf8Length + element.inner.utf8Length + 2 * tag.name.utf8Length + 5 := by
  have bracket : '>'.utf8Size = 1 := rfl
  have slash : '/'.utf8Size = 1 := rfl
  have opening : '<'.utf8Size = 1 := rfl
  simp only [Element.written, Kind.opening, Kind.closing, Text.utf8Length_append,
    Text.utf8Length_cons, Text.utf8Length_nil, bracket, slash, opening]
  omega

theorem Element.length_written_pos (tag : Kind) (element : Element) :
    0 < (element.written tag).length := by
  simp only [Element.written, List.length_append, List.length_cons]
  omega

theorem length_of_elementAt? {tag : Kind} {text rest : Text} {element : Element}
    (h : elementAt? tag text = some (element, rest)) : rest.length < text.length := by
  have pos := element.length_written_pos tag
  rw [eq_of_elementAt? h, List.length_append]
  omega

theorem length_of_findElement? {tag : Kind} {text before rest : Text} {element : Element}
    (h : findElement? tag text = some (before, element, rest)) : rest.length < text.length := by
  have pos := element.length_written_pos tag
  rw [eq_of_findElement? h, List.length_append, List.length_append]
  omega

/-! ## §4 Replacement -/

/-- The text with every complete element of one kind replaced by what `render` makes of it. -/
def replaceElements (tag : Kind) (render : Element → Text) (text : Text) : Text :=
  match _h : findElement? tag text with
  | none => text
  | some (before, element, rest) =>
    before ++ render element ++ replaceElements tag render rest
termination_by text.length
decreasing_by exact length_of_findElement? _h

theorem replaceElements_of_none {tag : Kind} {text : Text} (h : findElement? tag text = none)
    (render : Element → Text) : replaceElements tag render text = text := by
  rw [replaceElements]
  split
  · rfl
  · rename_i h'
    rw [h] at h'
    cases h'

theorem replaceElements_of_some {tag : Kind} {text before rest : Text} {element : Element}
    (h : findElement? tag text = some (before, element, rest)) (render : Element → Text) :
    replaceElements tag render text =
      before ++ render element ++ replaceElements tag render rest := by
  rw [replaceElements]
  split
  · rename_i h'
    rw [h] at h'
    cases h'
  · rename_i h'
    rw [h] at h'
    cases h'
    rfl

section Sizes

variable {tag : Kind} {render : Element → Text}
  (shorter : ∀ element, (render element).utf8Length < (element.written tag).utf8Length)
include shorter

/-- Where what stands for an element is shorter than the element, the whole text gets no longer. -/
theorem utf8Length_replaceElements_le (text : Text) :
    (replaceElements tag render text).utf8Length ≤ text.utf8Length := by
  fun_induction replaceElements tag render text with
  | case1 => exact Nat.le_refl _
  | case2 text before element rest h ih =>
    have less := shorter element
    rw [eq_of_findElement? h]
    simp only [Text.utf8Length_append]
    omega

/-- It gets shorter if there is an element to replace. -/
theorem utf8Length_replaceElements_lt {text : Text} (h : (findElement? tag text).isSome) :
    (replaceElements tag render text).utf8Length < text.utf8Length := by
  obtain ⟨⟨before, element, rest⟩, found⟩ := Option.isSome_iff_exists.1 h
  have less := shorter element
  have le := utf8Length_replaceElements_le shorter rest
  rw [replaceElements_of_some found, eq_of_findElement? found]
  simp only [Text.utf8Length_append]
  omega

end Sizes

end DocSite.Tag
