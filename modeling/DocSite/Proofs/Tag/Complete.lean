import DocSite.Proofs.Text.Search
import DocSite.Tag.Element

/-!
# Complete elements

What a complete element is, told without a reader: its opening tag is written as its kind admits it and ends at
the first `>` outside of double quotes, and the element ends at the first closing tag behind that. The reader
finds an element at the start of a text exactly if a complete one is written there (`elementAt?_eq_some_iff`).
-/

namespace DocSite.Tag

/-! ## §1 Opening tags -/

/-- Whether a character is inside of double quotes, by the text in front of it. -/
def IsQuoted (front : Text) : Prop := front.count '"' % 2 = 1

/-- Attribute text that ends at the first `>` outside of double quotes. -/
structure EndsAtBracket (attributes : Text) : Prop where
  /-- Each `>` in it is quoted. -/
  inside : ∀ front back, attributes = front ++ '>' :: back → IsQuoted front
  /-- The `>` behind it is not. -/
  outside : ¬ IsQuoted attributes

/-- What may be written between the name and the `>` of an opening tag. -/
def OpenForm.Admits (form : OpenForm) (attributes : Text) : Prop :=
  (form ≠ .spaced ∧ attributes = []) ∨
    (form ≠ .bare ∧ EndsAtBracket attributes ∧ ∃ c more, attributes = c :: more ∧ Text.isBlank c = true)

/-- Whether what follows a text is quoted, by what was quoted in front of the text. -/
def QuotedBehind (quoted : Bool) (front : Text) : Prop := quoted = true ↔ ¬ IsQuoted front

/-- A quote turns a place that is quoted into one that is not, and the other way round. -/
theorem quotedBehind_cons (quoted : Bool) (c : Char) (front : Text) :
    QuotedBehind quoted (c :: front) ↔ QuotedBehind (if c = '"' then !quoted else quoted) front := by
  by_cases quote : c = '"'
  · cases quoted <;> simp [QuotedBehind, IsQuoted, quote] <;> omega
  · simp [QuotedBehind, IsQuoted, quote]

theorem quotedBehind_nil (quoted : Bool) : QuotedBehind quoted [] ↔ quoted = true := by
  simp [QuotedBehind, IsQuoted]

/-- An opening tag is read up to its first `>` that is not quoted. -/
theorem cutOpening?_eq_some_iff {quoted : Bool} {text attributes rest : Text} :
    cutOpening? quoted text = some (attributes, rest) ↔
      text = attributes ++ '>' :: rest ∧
        (∀ front back, attributes = front ++ '>' :: back → QuotedBehind quoted front) ∧
        ¬ QuotedBehind quoted attributes := by
  induction text generalizing quoted attributes with
  | nil => simp [cutOpening?]
  | cons c text ih =>
    rw [cutOpening?]
    by_cases ends : (c = '>' && !quoted) = true
    · obtain ⟨rfl, plain⟩ : c = '>' ∧ quoted = false := by simpa using ends
      rw [if_pos ends]
      constructor
      · intro found
        obtain ⟨rfl, rfl⟩ : [] = attributes ∧ text = rest := by simpa using found
        simp [quotedBehind_nil, plain]
      · intro written
        obtain ⟨whole, inside, _⟩ := written
        cases attributes with
        | nil => simpa using whole
        | cons d attributes =>
          -- Then the first character would be a quoted `>`.
          obtain ⟨rfl, -⟩ : '>' = d ∧ _ := by simpa using whole
          have quoted := (quotedBehind_nil _).mp (inside [] attributes rfl)
          cases plain.symm.trans quoted
    · rw [if_neg ends, Option.map_eq_some_iff]
      constructor
      · intro found
        obtain ⟨⟨inner, behind⟩, found, same⟩ := found
        obtain ⟨rfl, rfl⟩ := Prod.mk.inj same
        obtain ⟨whole, inside, outside⟩ := ih.mp found
        refine ⟨by rw [whole]; rfl, ?_, fun later => outside ((quotedBehind_cons ..).mp later)⟩
        intro front back split
        cases front with
        | nil =>
          obtain ⟨rfl, -⟩ : c = '>' ∧ _ := by simpa using split
          simpa [quotedBehind_nil] using ends
        | cons d front =>
          obtain ⟨rfl, later⟩ : c = d ∧ inner = front ++ '>' :: back := by simpa using split
          exact (quotedBehind_cons ..).mpr (inside front back later)
      · intro written
        obtain ⟨whole, inside, outside⟩ := written
        cases attributes with
        | nil =>
          obtain ⟨rfl, -⟩ : c = '>' ∧ _ := by simpa using whole
          rw [quotedBehind_nil] at outside
          simp [outside] at ends
        | cons d attributes =>
          obtain ⟨rfl, tail⟩ : c = d ∧ text = attributes ++ '>' :: rest := by simpa using whole
          refine ⟨(attributes, rest), ih.mpr ⟨tail, ?_, ?_⟩, rfl⟩
          · intro front back split
            exact (quotedBehind_cons ..).mp (inside (c :: front) back (by rw [split]; rfl))
          · intro later
            exact outside ((quotedBehind_cons ..).mpr later)

/-- What follows the name of a tag is read as an opening tag exactly if its kind admits it. -/
theorem OpenForm.read?_eq_some_iff {form : OpenForm} {text attributes rest : Text} :
    form.read? text = some (attributes, rest) ↔ text = attributes ++ '>' :: rest ∧ form.Admits attributes := by
  -- Outside of quotes at first, what is quoted behind a text is what the text itself quotes.
  have plain (front : Text) : QuotedBehind false front ↔ IsQuoted front := by
    simp [QuotedBehind]
  have spaced {text : Text} : cutOpening? false text = some (attributes, rest) ↔
      text = attributes ++ '>' :: rest ∧ EndsAtBracket attributes := by
    rw [cutOpening?_eq_some_iff]
    simp only [plain]
    exact and_congr_right fun _ => ⟨fun h => ⟨h.1, h.2⟩, fun h => ⟨h.1, h.2⟩⟩
  cases text with
  | nil => simp [OpenForm.read?]
  | cons c text =>
    have bracket : Text.isBlank '>' = false := by decide
    rw [OpenForm.read?]
    by_cases ends : (c = '>' && form != .spaced) = true
    · -- The tag has no attribute text, and none can begin with its end.
      obtain ⟨rfl, bare⟩ : c = '>' ∧ form ≠ .spaced := by simpa using ends
      rw [if_pos ends]
      constructor
      · intro found
        obtain ⟨rfl, rfl⟩ : [] = attributes ∧ text = rest := by simpa using found
        exact ⟨rfl, .inl ⟨bare, rfl⟩⟩
      · intro written
        obtain ⟨whole, admitted⟩ := written
        rcases admitted with ⟨-, rfl⟩ | ⟨-, -, d, more, rfl, blank⟩
        · simpa using whole
        · obtain ⟨rfl, -⟩ : '>' = d ∧ _ := by simpa using whole
          cases bracket.symm.trans blank
    rw [if_neg ends]
    by_cases begins : (Text.isBlank c && form != .bare) = true
    · obtain ⟨blank, long⟩ : Text.isBlank c = true ∧ form ≠ .bare := by simpa using begins
      rw [if_pos begins, spaced]
      apply and_congr_right
      intro whole
      constructor
      · intro ended
        cases attributes with
        | nil =>
          obtain ⟨rfl, -⟩ : c = '>' ∧ _ := by simpa using whole
          cases bracket.symm.trans blank
        | cons d more =>
          obtain ⟨rfl, -⟩ : c = d ∧ _ := by simpa using whole
          exact .inr ⟨long, ended, c, more, rfl, blank⟩
      · intro admitted
        rcases admitted with ⟨-, rfl⟩ | ⟨-, ended, -⟩
        · obtain ⟨rfl, -⟩ : c = '>' ∧ _ := by simpa using whole
          cases bracket.symm.trans blank
        · exact ended
    · -- Whatever is admitted begins in one of the two ways.
      rw [if_neg begins]
      constructor
      · intro found
        cases found
      · intro written
        obtain ⟨whole, admitted⟩ := written
        rcases admitted with ⟨bare, rfl⟩ | ⟨long, -, d, more, rfl, blank⟩
        · obtain ⟨rfl, -⟩ : c = '>' ∧ _ := by simpa using whole
          simp [bare] at ends
        · obtain ⟨rfl, -⟩ : c = d ∧ _ := by simpa using whole
          simp [long, blank] at begins

/-! ## §2 Elements -/

/-- A complete element of a kind at the start of a text, and the text behind it. -/
structure BeginsElement (tag : Kind) (text : Text) (element : Element) (rest : Text) : Prop where
  written : text = element.written tag ++ rest
  /-- The opening tag has the form that its kind asks for. -/
  opened : tag.form.Admits element.attributes
  /-- The closing tag is the first one behind the opening tag. -/
  closed : ∀ front back, element.inner ++ (tag.closing ++ rest) = front ++ (tag.closing ++ back) →
    element.inner.length ≤ front.length

/-- **An element is read exactly where a complete one is written.** -/
theorem elementAt?_eq_some_iff {tag : Kind} {text rest : Text} {element : Element} :
    elementAt? tag text = some (element, rest) ↔ BeginsElement tag text element rest := by
  simp only [elementAt?, Option.bind_eq_bind, Option.bind_eq_some_iff, Prod.exists, pure,
    Option.some.injEq, Prod.mk.injEq, Text.after?_eq_some_iff, OpenForm.read?_eq_some_iff,
    Text.cut?_eq_some_iff]
  constructor
  · intro read
    obtain ⟨afterName, start, attributes, body, ⟨opened, admitted⟩, inner, behind, ⟨whole, first⟩, same, tail⟩ := read
    subst same tail start opened whole
    exact ⟨by simp [Element.written], admitted, first⟩
  · intro complete
    obtain ⟨written, opened, closed⟩ := complete
    refine ⟨_, ?_, element.attributes, _, ⟨rfl, opened⟩, element.inner, rest, ⟨rfl, closed⟩, rfl, rfl⟩
    simp [written, Element.written]

end DocSite.Tag
