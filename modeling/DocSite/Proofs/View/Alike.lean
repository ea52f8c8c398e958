import DocSite.Proofs.Html.Outline
import DocSite.Proofs.View.Places
import Mathlib.Data.List.Forall2

/-!
# Pages that differ only in what they say

Values can be alike in what a template asks of them, and differ in everything else. A likeness tells what two values
have in common, and a template that has been checked against the likenesses of its names makes pages from any two
scopes that are alike but for the values which are escaped in them (`Makes.alike`).

Such pages have the same tags, in the same order and with the same attributes: only the values of attributes differ
(`outlines_of_alike`).
-/

namespace DocSite.View

/-! ## §1 Likenesses -/

/-- What two values have in common. -/
inductive Likeness where
  /-- Nothing. -/
  | any
  /-- Both count as true, or neither does. -/
  | tested
  /-- They are equal. -/
  | same
  /-- Loops run over as many items, which have something in common one by one. -/
  | list (item : Likeness)
  /-- A field of both has something in common, and so have the whole values. -/
  | field (name : Text) (likeness whole : Likeness)
  deriving DecidableEq, Repr

namespace Likeness

/-- What is in common holds of two values. -/
def Relates : Likeness → Value → Value → Prop
  | any, _, _ => True
  | tested, one, two => isTrue one = isTrue two
  | same, one, two => one = two
  | list item, one, two => ∃ found others, items one = .ok found ∧ items two = .ok others ∧
      List.Forall₂ (fun entry other => item.Relates (some entry) (some other)) found others
  | field name likeness whole, one, two =>
    likeness.Relates (one.bind (Json.get? name)) (two.bind (Json.get? name)) ∧ whole.Relates one two

/-- What a field of two values has in common. -/
def ofField (name : Text) : Likeness → Likeness
  | field other likeness whole => if other = name then likeness else whole.ofField name
  | _ => any

theorem Relates.ofField {likeness : Likeness} {one two : Value} (h : likeness.Relates one two) (name : Text) :
    (likeness.ofField name).Relates (one.bind (Json.get? name)) (two.bind (Json.get? name)) := by
  induction likeness with
  | any | tested | same | list => trivial
  | field other likeness whole _ ih =>
    unfold Likeness.ofField
    split
    case isTrue equal => exact equal ▸ h.1
    case isFalse => exact ih h.2

end Likeness

/-- Work that was done in two steps. -/
private theorem exists_of_bind_eq_ok {ε α β : Type} {first : Except ε α} {next : α → Except ε β} {result : β}
    (h : first >>= next = .ok result) : ∃ found, first = .ok found ∧ next found = .ok result := by
  cases first with
  | error failure => cases h
  | ok found => exact ⟨found, rfl, h⟩

/-! ## §2 Likenesses of scopes -/

/-- What the values of names have in common, innermost first. -/
abbrev Accord := List (Text × Likeness)

namespace Accord

/-- Two scopes have the names of an accord, and values that have in common what it says. -/
inductive Relates : Accord → Scope → Scope → Prop
  | nil : Relates [] [] []
  | cons {accord : Accord} {scope other : Scope} (name : Text) {likeness : Likeness} {one two : Json}
      (here : likeness.Relates (some one) (some two)) (rest : Relates accord scope other) :
      Relates ((name, likeness) :: accord) ((name, one) :: scope) ((name, two) :: other)

/-- What the values of a path have in common. -/
def likeness (accord : Accord) (path : Path) : Likeness :=
  path.fields.foldl (fun likeness name => likeness.ofField name) ((Json.field? path.name accord).getD .any)

variable {accord : Accord} {scope other : Scope}

theorem Relates.field? (h : accord.Relates scope other) (name : Text) :
    ((Json.field? name accord).getD .any).Relates (Json.field? name scope) (Json.field? name other) := by
  induction h with
  | nil => trivial
  | cons first here _ ih =>
    by_cases same : first = name
    · simpa [Json.field?, List.find?_cons, same] using here
    · simpa [Json.field?, List.find?_cons, same] using ih

/-- A field that could be asked for is the field of a value. -/
theorem eq_of_field {name : Text} {value found : Value} (asked : View.field name value = .ok found) :
    found = value.bind (Json.get? name) := by
  cases value with
  | none => cases asked
  | some json =>
    cases asked
    rfl

/-- A path leads to values that have in common what the accord says. -/
theorem Relates.get (h : accord.Relates scope other) {path : Path} {one two : Value}
    (first : scope.get path = .ok one) (second : other.get path = .ok two) :
    (accord.likeness path).Relates one two := by
  obtain ⟨name, fields⟩ := path
  have start := h.field? name
  simp only [likeness, Scope.get] at first second ⊢
  -- The induction is on the fields, for any values that they may be asked of.
  generalize (Json.field? name accord).getD .any = known at start ⊢
  generalize Json.field? name scope = here at start first
  generalize Json.field? name other = there at start second
  induction fields generalizing known here there with
  | nil =>
    cases first
    cases second
    exact start
  | cons name fields ih =>
    rw [List.foldlM_cons] at first second
    obtain ⟨inner, asked, first⟩ := exists_of_bind_eq_ok first
    obtain ⟨innerThere, askedThere, second⟩ := exists_of_bind_eq_ok second
    refine ih _ inner first innerThere ?_ second
    rw [eq_of_field asked, eq_of_field askedThere]
    exact start.ofField name

end Accord

/-! ## §3 Templates that ask the same -/

/-- Values with something in common count as true together. -/
def Likeness.isTested : Likeness → Bool
  | tested => true
  | same => true
  | _ => false

theorem Likeness.Relates.isTrue_eq {likeness : Likeness} {one two : Value} (h : likeness.Relates one two)
    (tested : likeness.isTested = true) : isTrue one = isTrue two := by
  cases likeness with
  | tested => exact h
  | same => exact congrArg isTrue h
  | any | list | field => cases tested

/-- The condition asks only for what the values have in common. -/
def Condition.agrees (accord : Accord) : Condition → Bool
  | .holds path => (accord.likeness path).isTested
  | .equals path _ => accord.likeness path = .same
  | .both first second => first.agrees accord && second.agrees accord
  | .either first second => first.agrees accord && second.agrees accord

mutual

/-- The part asks only for what the values have in common, writes no other markup, and its loops run over as many
items. -/
def Part.agrees (accord : Accord) : Part → Bool
  | .text _ => true
  | .value _ => true
  | .markup path => accord.likeness path = .same
  | .choice condition yes no =>
    condition.agrees accord && Part.allAgree accord yes && Part.allAgree accord no
  | .each name path body otherwise =>
    match accord.likeness path with
    | .list item => Part.allAgree ((name, item) :: accord) body && Part.allAgree accord otherwise
    | _ => false
  | .insert parts => Part.allAgree accord parts

/-- All of the parts do. -/
def Part.allAgree (accord : Accord) : List Part → Bool
  | [] => true
  | part :: parts => part.agrees accord && Part.allAgree accord parts

end

section

variable {accord : Accord} {scope other : Scope}

/-- A loop that agrees runs over lists, and its parts agree for any items. -/
theorem Part.exists_list_of_agrees {name : Text} {path : Path} {body otherwise : List Part}
    (h : (Part.each name path body otherwise).agrees accord = true) :
    ∃ item, accord.likeness path = .list item ∧ allAgree ((name, item) :: accord) body = true ∧
      allAgree accord otherwise = true := by
  rw [agrees] at h
  split at h
  case h_1 item listed => exact ⟨item, listed, Bool.and_eq_true_iff.mp h⟩
  case h_2 => cases h

/-- Such loops run over as many items, which have something in common one by one. -/
theorem Accord.Relates.forall₂_items (h : accord.Relates scope other) {path : Path} {item : Likeness}
    (listed : accord.likeness path = .list item) {one two : Value} (first : scope.get path = .ok one)
    (second : other.get path = .ok two) {found others : List Json} (here : items one = .ok found)
    (there : items two = .ok others) :
    List.Forall₂ (fun entry other => item.Relates (some entry) (some other)) found others := by
  have related := h.get first second
  rw [listed] at related
  obtain ⟨_, _, foundHere, foundThere, each⟩ := related
  cases here.symm.trans foundHere
  cases there.symm.trans foundThere
  exact each

/-- A condition that asks only for what two scopes have in common has one answer. -/
theorem Accord.Relates.test_eq (h : accord.Relates scope other) {condition : Condition}
    (agrees : condition.agrees accord = true) {one two : Bool} (first : condition.test scope = .ok one)
    (second : condition.test other = .ok two) : one = two := by
  induction condition generalizing one two with
  | holds path =>
    obtain ⟨_, here, first⟩ := exists_of_bind_eq_ok first
    obtain ⟨_, there, second⟩ := exists_of_bind_eq_ok second
    cases first
    cases second
    exact (h.get here there).isTrue_eq agrees
  | equals path text =>
    obtain ⟨_, here, first⟩ := exists_of_bind_eq_ok first
    obtain ⟨_, there, second⟩ := exists_of_bind_eq_ok second
    have related := h.get here there
    rw [of_decide_eq_true agrees] at related
    cases related
    exact Except.ok.inj (first.symm.trans second)
  | both left right ihl ihr =>
    obtain ⟨leftAgrees, rightAgrees⟩ := Bool.and_eq_true_iff.mp agrees
    obtain ⟨here, testedHere, first⟩ := exists_of_bind_eq_ok first
    obtain ⟨there, testedThere, second⟩ := exists_of_bind_eq_ok second
    cases ihl leftAgrees testedHere testedThere
    cases here with
    | false => exact Except.ok.inj (first.symm.trans second)
    | true => exact ihr rightAgrees first second
  | either left right ihl ihr =>
    obtain ⟨leftAgrees, rightAgrees⟩ := Bool.and_eq_true_iff.mp agrees
    obtain ⟨here, testedHere, first⟩ := exists_of_bind_eq_ok first
    obtain ⟨there, testedThere, second⟩ := exists_of_bind_eq_ok second
    cases ihl leftAgrees testedHere testedThere
    cases here with
    | false => exact ihr rightAgrees first second
    | true => exact Except.ok.inj (first.symm.trans second)

end

/-! ## §4 Pieces that are alike -/

/-- Pieces that differ only in a value which is escaped. -/
inductive Piece.Alike : Piece → Piece → Prop
  | fixed (text : Text) : Alike (.fixed text) (.fixed text)
  | field (one two : Text) : Alike (.field one) (.field two)
  | markup (text : Text) : Alike (.markup text) (.markup text)

/-- What entries that have something in common are made into, one by one. -/
private theorem forall₂_flatMap {α β : Type} {related : α → β → Prop} {one : α → List Piece}
    {two : β → List Piece} {entries : List α} {others : List β} (h : List.Forall₂ related entries others)
    (alike : ∀ entry ∈ entries, ∀ other ∈ others, related entry other →
      List.Forall₂ Piece.Alike (one entry) (two other)) :
    List.Forall₂ Piece.Alike (entries.flatMap one) (others.flatMap two) := by
  induction h with
  | nil => exact .nil
  | cons here _ ih =>
    refine List.rel_append (alike _ (List.mem_cons_self ..) _ (List.mem_cons_self ..) here) (ih ?_)
    exact fun entry mem other found => alike entry (List.mem_cons_of_mem _ mem) other (List.mem_cons_of_mem _ found)

/-- **A template makes alike pages from scopes that are alike** in all that it asks of them. -/
theorem Makes.alike {scope other : Scope} {parts : List Part} {pieces others : List Piece}
    (one : Makes scope parts pieces) (two : Makes other parts others) {accord : Accord}
    (related : accord.Relates scope other) (agrees : Part.allAgree accord parts = true) :
    List.Forall₂ Piece.Alike pieces others := by
  -- The induction is on how one of the pages was made; the other was made from the same parts in the same way, since
  -- conditions have one answer and loops run over as many items.
  induction one generalizing accord other others with
  | nil =>
    cases two
    exact .nil
  | text text _ ih =>
    rw [Part.allAgree, Part.agrees, Bool.true_and] at agrees
    cases two with
    | text _ rest => exact .cons (.fixed text) (ih rest related agrees)
  | value _ _ ih =>
    rw [Part.allAgree, Part.agrees, Bool.true_and] at agrees
    cases two with
    | value _ rest => exact .cons (.field _ _) (ih rest related agrees)
  | markup asked _ ih =>
    rw [Part.allAgree, Part.agrees, Bool.and_eq_true, decide_eq_true_eq] at agrees
    cases two with
    | markup askedThere rest =>
      have equal := related.get asked askedThere
      rw [agrees.1] at equal
      cases equal
      exact .cons (.markup _) (ih rest related agrees.2)
  | @choice _ _ _ _ _ _ _ holds asked _ _ ihm ih =>
    rw [Part.allAgree, Part.agrees] at agrees
    simp only [Bool.and_eq_true] at agrees
    obtain ⟨⟨⟨condition, yes⟩, no⟩, behind⟩ := agrees
    cases two with
    | choice askedThere made rest =>
      cases related.test_eq condition asked askedThere
      refine List.rel_append (ihm made related ?_) (ih rest related behind)
      cases holds
      · exact no
      · exact yes
  | none asked found _ _ ihm ih =>
    obtain ⟨loop, behind⟩ := Bool.and_eq_true_iff.mp agrees
    obtain ⟨item, listed, -, otherwise⟩ := Part.exists_list_of_agrees loop
    cases two with
    | none askedThere foundThere made rest =>
      exact List.rel_append (ihm made related otherwise) (ih rest related behind)
    | each askedThere foundThere _ _ => cases related.forall₂_items listed asked askedThere found foundThere
  | each asked found _ _ ihm ih =>
    obtain ⟨loop, behind⟩ := Bool.and_eq_true_iff.mp agrees
    obtain ⟨item, listed, body, -⟩ := Part.exists_list_of_agrees loop
    cases two with
    | none askedThere foundThere _ _ => cases related.forall₂_items listed asked askedThere found foundThere
    | each askedThere foundThere made rest =>
      have entries := related.forall₂_items listed asked askedThere found foundThere
      rw [List.forall₂_map_left_iff, List.forall₂_map_right_iff] at entries
      refine List.rel_append (forall₂_flatMap entries ?_) (ih rest related behind)
      -- The body is made with an item of each scope, and the two have in common what items do.
      exact fun entry mem other found alike => ihm entry mem (made other found) (.cons _ alike related) body
  | insert _ _ ihm ih =>
    rw [Part.allAgree, Part.agrees, Bool.and_eq_true] at agrees
    cases two with
    | insert made rest => exact List.rel_append (ihm made related agrees.1) (ih rest related agrees.2)

/-! ## §5 Tags of pages that are alike -/

section

open Html (Reading Spot Tag tagsFrom tags)
open Piece (AllFit writtenAll)

/-- Pieces that are alike are read alike, by readers whose values differ. -/
theorem tagsFrom_of_alike {pieces others : List Piece} (alike : List.Forall₂ Piece.Alike pieces others)
    {one two : Reading} {here there : Spot} (same : one.outline = two.outline)
    (placed : here.place = one.place) (placedThere : there.place = two.place)
    (fits : AllFit here pieces) (fitsThere : AllFit there others) :
    (tagsFrom one (writtenAll pieces)).map Tag.outline = (tagsFrom two (writtenAll others)).map Tag.outline := by
  induction alike generalizing one two here there with
  | nil => rfl
  | @cons piece other _ _ first _ ih =>
    rw [Piece.writtenAll_cons, Piece.writtenAll_cons, Html.tagsFrom_append, Html.tagsFrom_append, List.map_append,
      List.map_append]
    have read : (tagsFrom one piece.written).map Tag.outline = (tagsFrom two other.written).map Tag.outline ∧
        (one.after piece.written).outline = (two.after other.written).outline := by
      cases first with
      -- Only a value that is escaped differs, and it stands where it has no tags.
      | fixed text | markup text =>
        exact ⟨Html.tagsFrom_congr same text, Reading.outline_after_congr same text⟩
      | field text other =>
        obtain ⟨after, noTag⟩ := Reading.outline_after_escapeSafe (placed ▸ fits.1.1) text
        obtain ⟨afterThere, noTagThere⟩ := Reading.outline_after_escapeSafe (placedThere ▸ fitsThere.1.1) other
        exact ⟨by rw [Piece.written, Piece.written, noTag, noTagThere], after.trans (same.trans afterThere.symm)⟩
    rw [read.1, ih read.2 ?_ ?_ fits.2 fitsThere.2]
    · rw [Spot.place_after, Reading.place_after, placed]
    · rw [Spot.place_after, Reading.place_after, placedThere]

/-- **Pages that are alike have the same tags**, but for the values of attributes. -/
theorem outlines_of_alike {pieces others : List Piece} (alike : List.Forall₂ Piece.Alike pieces others)
    (fits : AllFit {} pieces) (fitsThere : AllFit {} others) :
    (tags (writtenAll pieces)).map Tag.outline = (tags (writtenAll others)).map Tag.outline :=
  tagsFrom_of_alike alike rfl rfl rfl fits fitsThere

end

end DocSite.View
