import DocSite.Proofs.Tag.Complete
import DocSite.Proofs.Tag.Scan

/-!
# The leftmost element

Where a search for an element comes to rest, in bytes of the text. A search from a byte offset (`seek?`) looks for
the opening of a tag, and looks again one byte behind the start of every opening that turns out not to begin a
complete element. It finds what the search in the text behind the offset finds (`seek?_eq`): the complete element
with the least start, if there is any.

A pass of replacement so goes through gaps and elements in turn. A text has exactly one split into elements and gaps
in which no complete element begins, and a pass replaces the elements of that split and keeps its gaps
(`replaceElements_leftmost`).
-/

namespace DocSite

/-! ## §1 Byte offsets -/

namespace Text

variable {text : Text} {offset : Nat}

/-- The text from a byte offset on; `none` inside of a character and behind the end. -/
def behind? : (offset : Nat) → (text : Text) → Option Text
  | 0, text => some text
  | _ + 1, [] => none
  | offset + 1, c :: text =>
    if c.utf8Size ≤ offset + 1 then behind? (offset + 1 - c.utf8Size) text else none

/-- Whether a byte offset is the start of a character, or the end of the text. -/
def IsBoundary (text : Text) (offset : Nat) : Prop := ∃ front back, text = front ++ back ∧ front.utf8Length = offset

theorem utf8Length_eq_zero {text : Text} (h : text.utf8Length = 0) : text = [] := by
  cases text with
  | nil => rfl
  | cons c text =>
    have := c.utf8Size_pos
    rw [utf8Length_cons] at h
    omega

theorem behind?_eq_some_iff {back : Text} :
    behind? offset text = some back ↔ ∃ front, text = front ++ back ∧ front.utf8Length = offset := by
  fun_induction behind? offset text with
  | case1 text =>
    constructor
    · rintro same
      exact ⟨[], Option.some.inj same, rfl⟩
    · rintro ⟨front, whole, empty⟩
      rw [whole, utf8Length_eq_zero empty, List.nil_append]
  | case2 offset =>
    simp only [reduceCtorEq, false_iff]
    rintro ⟨front, whole, length⟩
    obtain ⟨rfl, -⟩ := List.append_eq_nil_iff.mp whole.symm
    cases length
  | case3 offset c text fits ih =>
    rw [ih]
    constructor
    · rintro ⟨front, whole, length⟩
      exact ⟨c :: front, by rw [whole, List.cons_append], by rw [utf8Length_cons]; omega⟩
    · rintro ⟨front, whole, length⟩
      cases front with
      | nil => cases length
      | cons d front =>
        obtain ⟨rfl, tail⟩ := List.cons_eq_cons.mp whole
        rw [utf8Length_cons] at length
        exact ⟨front, tail, by omega⟩
  | case4 offset c text wide =>
    simp only [reduceCtorEq, false_iff]
    rintro ⟨front, whole, length⟩
    cases front with
    | nil => cases length
    | cons d front =>
      obtain ⟨rfl, -⟩ := List.cons_eq_cons.mp whole
      rw [utf8Length_cons] at length
      omega

/-- Between the pieces that make up a text are boundaries. -/
theorem isBoundary_take {pieces : List Text} {rest : Text} (whole : text = pieces.flatten ++ rest) (n : Nat) :
    text.IsBoundary (utf8Length (pieces.take n).flatten) := by
  refine ⟨_, (pieces.drop n).flatten ++ rest, ?_, rfl⟩
  rw [whole, ← List.append_assoc, ← List.flatten_append, List.take_append_drop]

/-- Of two texts in front of places of a text, the one with fewer bytes begins the other. -/
theorem exists_append_of_utf8Length_le {front back front' back' : Text} (same : front ++ back = front' ++ back')
    (le : front.utf8Length ≤ front'.utf8Length) : ∃ piece, front' = front ++ piece ∧ back = piece ++ back' := by
  rcases List.append_eq_append_iff.mp same with ⟨piece, longer, rest⟩ | ⟨piece, shorter, rest⟩
  · exact ⟨piece, longer, rest⟩
  · have lengths := congrArg utf8Length shorter
    rw [utf8Length_append] at lengths
    obtain rfl : piece = [] := utf8Length_eq_zero (by omega)
    exact ⟨[], by simpa using shorter.symm, by simpa using rest.symm⟩

end Text

namespace Tag

variable {tag : Kind} {text : Text} {offset : Nat}

/-! ## §2 Gaps -/

/-- No complete element begins in a piece of text that stands in front of `behind`. -/
def Clear (tag : Kind) (piece behind : Text) : Prop :=
  ∀ front back, piece = front ++ back → back ≠ [] →
    ∀ element rest, ¬ BeginsElement tag (back ++ behind) element rest

theorem elementAt?_eq_none_iff :
    elementAt? tag text = none ↔ ∀ element rest, ¬ BeginsElement tag text element rest := by
  simp only [Option.eq_none_iff_forall_ne_some, Prod.forall, ne_eq, elementAt?_eq_some_iff]

theorem BeginsElement.opens {element : Element} {rest : Text} (h : BeginsElement tag text element rest) :
    ∃ more, text = tag.opening ++ more := by
  refine ⟨element.attributes ++ '>' :: element.inner ++ tag.closing ++ rest, ?_⟩
  rw [h.written]
  simp [Element.written]

theorem clear_nil (behind : Text) : Clear tag [] behind := by
  intro front back whole some
  exact absurd (List.append_eq_nil_iff.mp whole.symm).2 some

theorem clear_cons_iff {c : Char} {piece behind : Text} :
    Clear tag (c :: piece) behind ↔ elementAt? tag (c :: (piece ++ behind)) = none ∧ Clear tag piece behind := by
  rw [elementAt?_eq_none_iff]
  constructor
  · intro clear
    refine ⟨clear [] (c :: piece) rfl (by simp), ?_⟩
    intro front back whole
    exact clear (c :: front) back (by rw [whole, List.cons_append])
  · rintro ⟨here, later⟩ front back whole some
    cases front with
    | nil =>
      obtain rfl : c :: piece = back := whole
      exact here
    | cons d front => exact later front back (List.cons_eq_cons.mp whole).2 some

/-- A search passes over a gap. -/
theorem findElement?_append_of_clear {piece behind : Text} (clear : Clear tag piece behind) :
    findElement? tag (piece ++ behind) = (findElement? tag behind).map
      fun (before, element, rest) => (piece ++ before, element, rest) := by
  induction piece with
  | nil => simp
  | cons c piece ih =>
    obtain ⟨here, later⟩ := clear_cons_iff.mp clear
    simp only [List.cons_append, findElement?, here, ih later, Option.map_map]
    rfl

/-- Nothing is found exactly if no complete element begins anywhere. -/
theorem findElement?_eq_none_iff_clear : findElement? tag text = none ↔ Clear tag text [] := by
  induction text with
  | nil => simp [findElement?, clear_nil]
  | cons c text ih =>
    rw [clear_cons_iff, List.append_nil, findElement?]
    cases here : elementAt? tag (c :: text) with
    | some found => simp
    | none => simp [ih]

/-- **What is found is the first complete element**: one that stands behind a gap. -/
theorem findElement?_eq_some_iff {before rest : Text} {element : Element} :
    findElement? tag text = some (before, element, rest) ↔
      ∃ behind, text = before ++ behind ∧ Clear tag before behind ∧ BeginsElement tag behind element rest := by
  constructor
  · intro found
    induction text generalizing before with
    | nil => cases found
    | cons c text ih =>
      rw [findElement?] at found
      split at found
      · rename_i here
        obtain ⟨rfl, rfl, rfl⟩ : [] = before ∧ _ := by simpa using found
        exact ⟨_, rfl, clear_nil _, elementAt?_eq_some_iff.mp here⟩
      · rename_i here
        obtain ⟨⟨before', element', rest'⟩, later, same⟩ := Option.map_eq_some_iff.mp found
        obtain ⟨rfl, rfl, rfl⟩ : c :: before' = before ∧ element' = element ∧ rest' = rest := by simpa using same
        obtain ⟨behind, rfl, clear, begins⟩ := ih later
        exact ⟨behind, rfl, clear_cons_iff.mpr ⟨here, clear⟩, begins⟩
  · rintro ⟨behind, rfl, clear, begins⟩
    rw [findElement?_append_of_clear clear, findElement?_of_elementAt? (elementAt?_eq_some_iff.mpr begins)]
    simp

/-! ## §3 The search from an offset -/

/-- An element with the bytes of a text that it takes up: from `start` up to `stop`. -/
structure Span where
  start : Nat
  stop : Nat
  element : Element
  deriving DecidableEq, Repr

/-- The offsets at which a search that finds an element cuts the text: where the element begins and where the search
would go on if it were not complete, where the attributes and the inner text begin and end, and where the element
ends. -/
def Span.offsets (tag : Kind) (span : Span) : List Nat :=
  let attributes := span.start + tag.opening.utf8Length
  let bracket := attributes + span.element.attributes.utf8Length
  let closing := bracket + 1 + span.element.inner.utf8Length
  [span.start, span.start + 1, attributes, bracket, bracket + 1, closing, span.stop]

/-- An opening that is found from an offset on ends inside of the text. -/
theorem lt_of_opening_found {before afterName : Text}
    (h : (Text.behind? offset text).bind (Text.cut? tag.opening) = some (before, afterName)) :
    offset + before.utf8Length < text.utf8Length := by
  obtain ⟨back, at', found⟩ := Option.bind_eq_some_iff.mp h
  obtain ⟨front, whole, length⟩ := Text.behind?_eq_some_iff.mp at'
  have pos : 0 < tag.opening.utf8Length := Nat.add_pos_left (Char.utf8Size_pos _) _
  rw [whole, Text.cut?_eq_some found]
  simp only [Text.utf8Length_append]
  omega

/-- The first complete element from a byte offset on. Behind an opening that does not begin a complete element, the
search goes on one byte behind its start. -/
def seek? (tag : Kind) (text : Text) (offset : Nat) : Option Span :=
  match _h : (Text.behind? offset text).bind (Text.cut? tag.opening) with
  | none => none
  | some (before, afterName) =>
    match tag.form.read? afterName with
    | none => seek? tag text (offset + before.utf8Length + 1)
    | some (attributes, body) =>
      match Text.cut? tag.closing body with
      | none => seek? tag text (offset + before.utf8Length + 1)
      | some (inner, _) =>
        some {
          start := offset + before.utf8Length
          stop := offset + before.utf8Length + tag.opening.utf8Length + attributes.utf8Length + 1 +
            inner.utf8Length + tag.closing.utf8Length
          element := ⟨attributes, inner⟩ }
termination_by text.utf8Length - offset
decreasing_by
  all_goals
    have := lt_of_opening_found _h
    omega

/-- The bytes of an element that is found in the text behind an offset. -/
def Span.behind (tag : Kind) (offset : Nat) (found : Text × Element × Text) : Span :=
  let start := offset + found.1.utf8Length
  ⟨start, start + (found.2.1.written tag).utf8Length, found.2.1⟩

/-- In front of the first opening of a tag is a gap. -/
theorem clear_of_cut? {before afterName : Text} (found : Text.cut? tag.opening text = some (before, afterName)) :
    Clear tag before (tag.opening ++ afterName) := by
  intro front back whole some element rest begins
  obtain ⟨split, first⟩ := Text.cut?_eq_some_iff.mp found
  -- The element would begin with an earlier opening.
  obtain ⟨more, opened⟩ := begins.opens
  have le := first front more (by rw [split, whole, List.append_assoc, opened])
  have pos := List.length_pos_iff.mpr some
  rw [whole, List.length_append] at le
  omega

/-- Where the first opening does not begin a complete element, nothing is lost by a search from one byte behind its
start. -/
theorem map_behind_of_rejected {back before afterName : Text} (there : Text.behind? offset text = some back)
    (found : Text.cut? tag.opening back = some (before, afterName))
    (rejected : elementAt? tag (tag.opening ++ afterName) = none) :
    ∃ next, Text.behind? (offset + before.utf8Length + 1) text = some next ∧
      (findElement? tag back).map (Span.behind tag offset) =
        (findElement? tag next).map (Span.behind tag (offset + before.utf8Length + 1)) := by
  obtain ⟨front, whole, length⟩ := Text.behind?_eq_some_iff.mp there
  have split : back = before ++ (tag.opening ++ afterName) := (Text.cut?_eq_some_iff.mp found).1
  have passed := findElement?_append_of_clear (clear_of_cut? found)
  have bracket : '<'.utf8Size = 1 := rfl
  refine ⟨tag.name ++ afterName, Text.behind?_eq_some_iff.mpr ⟨front ++ before ++ ['<'], ?_, ?_⟩, ?_⟩
  · rw [whole, split]
    simp [Kind.opening]
  · simp only [Text.utf8Length_append, Text.utf8Length_cons, Text.utf8Length_nil, bracket, length]
  · rw [Kind.opening, List.cons_append] at split passed rejected
    rw [split, passed, findElement?, rejected, Option.map_map, Option.map_map]
    congr 1
    funext found
    obtain ⟨gap, element, rest⟩ := found
    simp only [Function.comp_apply, Span.behind, Text.utf8Length_append, Text.utf8Length_cons, bracket]
    congr 1 <;> omega

/-- **The search from an offset is the search in the text behind it.** -/
theorem seek?_eq {back : Text} (there : Text.behind? offset text = some back) :
    seek? tag text offset = (findElement? tag back).map (Span.behind tag offset) := by
  fun_induction seek? tag text offset generalizing back with
  | case1 offset none =>
    rw [there, Option.bind_some, Text.cut?_eq_none_iff] at none
    have clear : Clear tag back [] := by
      rintro front more rfl - element rest begins
      obtain ⟨after, opened⟩ := begins.opens
      rw [List.append_nil] at opened
      exact none ⟨front, after, by rw [opened, List.append_assoc]⟩
    rw [findElement?_eq_none_iff_clear.mpr clear, Option.map_none]
  | case2 offset before afterName found unread ih =>
    rw [there, Option.bind_some] at found
    have rejected : elementAt? tag (tag.opening ++ afterName) = none := by
      simp [elementAt?, Text.after?_append_self, unread]
    obtain ⟨next, behind, same⟩ := map_behind_of_rejected there found rejected
    rw [same, ih behind]
  | case3 offset before afterName found attributes body read unclosed ih =>
    rw [there, Option.bind_some] at found
    have rejected : elementAt? tag (tag.opening ++ afterName) = none := by
      simp [elementAt?, Text.after?_append_self, read, unclosed]
    obtain ⟨next, behind, same⟩ := map_behind_of_rejected there found rejected
    rw [same, ih behind]
  | case4 offset before afterName found attributes body read inner rest closed =>
    rw [there, Option.bind_some] at found
    have here : elementAt? tag (tag.opening ++ afterName) = some (⟨attributes, inner⟩, rest) := by
      simp [elementAt?, Text.after?_append_self, read, closed]
    rw [(Text.cut?_eq_some_iff.mp found).1, findElement?_append_of_clear (clear_of_cut? found),
      findElement?_of_elementAt? here]
    have bracket : '>'.utf8Size = 1 := rfl
    simp only [Option.map_some, List.append_nil, Span.behind, Element.written, Text.utf8Length_append,
      Text.utf8Length_cons, bracket, Option.some.injEq, Span.mk.injEq, and_true, true_and]
    omega

/-- A longer name is passed over, and a letter of two bytes counts as two. -/
example : seek? ⟨"Note".toList, .bare⟩ "é<Notes><Note>ä</Note>".toList 2 = some ⟨9, 24, ⟨[], ['ä']⟩⟩ := by
  have there : Text.behind? 2 "é<Notes><Note>ä</Note>".toList = some "<Notes><Note>ä</Note>".toList := by decide
  rw [seek?_eq there]
  decide

/-! ## §4 What the search finds -/

/-- Whether a complete element is written in a text, from the start up to the stop of the span. -/
def Span.StandsIn (tag : Kind) (text : Text) (span : Span) : Prop :=
  ∃ front behind rest, text = front ++ behind ∧ BeginsElement tag behind span.element rest ∧
    front.utf8Length = span.start ∧ span.stop + rest.utf8Length = text.utf8Length

/-- What is found by a search from a byte offset. -/
structure Finds (tag : Kind) (text : Text) (offset : Nat) (found : Option Span) : Prop where
  /-- It is what the search in the text behind the offset finds. -/
  running : ∀ front back, text = front ++ back → front.utf8Length = offset →
    found = (findElement? tag back).map (Span.behind tag offset)
  /-- Nothing is found exactly if no complete element starts at the offset or behind it. -/
  none_iff : found = none ↔ ∀ span : Span, span.StandsIn tag text → span.start < offset
  /-- Otherwise it is the complete element with the least start. -/
  some_iff : ∀ span : Span, found = some span ↔ span.StandsIn tag text ∧ offset ≤ span.start ∧
    ∀ other : Span, other.StandsIn tag text → offset ≤ other.start → span.start ≤ other.start
  /-- An element has a start in front of its end and lies inside of the text. -/
  inside : ∀ span, found = some span → span.start < span.stop ∧ span.stop ≤ text.utf8Length
  /-- No character of the text is cut in two. -/
  boundaries : ∀ span, found = some span → ∀ offset ∈ span.offsets tag, text.IsBoundary offset

variable {span other : Span}

/-- The bytes up to the end of an element are those in front of it and its own. -/
theorem Span.StandsIn.stop_eq (h : span.StandsIn tag text) :
    span.stop = span.start + (span.element.written tag).utf8Length := by
  obtain ⟨front, behind, rest, whole, begins, start, stop⟩ := h
  rw [whole, begins.written] at stop
  simp only [Text.utf8Length_append] at stop
  omega

theorem Span.StandsIn.inside (h : span.StandsIn tag text) :
    span.start < span.stop ∧ span.stop ≤ text.utf8Length := by
  have stop := h.stop_eq
  rw [Element.utf8Length_written] at stop
  obtain ⟨front, behind, rest, -, -, -, bytes⟩ := h
  omega

/-- At most one complete element starts at an offset. -/
theorem Span.StandsIn.unique (h : span.StandsIn tag text) (h' : other.StandsIn tag text)
    (same : span.start = other.start) : span = other := by
  have stop := h.stop_eq
  have stop' := h'.stop_eq
  obtain ⟨front, behind, rest, whole, begins, start, -⟩ := h
  obtain ⟨front', behind', rest', whole', begins', start', -⟩ := h'
  obtain ⟨piece, rfl, rfl⟩ := Text.exists_append_of_utf8Length_le (whole.symm.trans whole') (by omega)
  rw [Text.utf8Length_append] at start'
  obtain rfl : piece = [] := Text.utf8Length_eq_zero (by omega)
  have elements := (elementAt?_eq_some_iff.mpr begins).symm.trans (elementAt?_eq_some_iff.mpr begins')
  have element : span.element = other.element := congrArg Prod.fst (Option.some.inj elements)
  cases span
  cases other
  simp_all

/-- An element that starts from an offset on does not start in a gap there. -/
theorem Span.StandsIn.of_clear {front piece behind : Text} (h : span.StandsIn tag (front ++ (piece ++ behind)))
    (clear : Clear tag piece behind) (ahead : front.utf8Length ≤ span.start) :
    front.utf8Length + piece.utf8Length ≤ span.start := by
  obtain ⟨front', behind', rest, whole, begins, start, -⟩ := h
  by_contra less
  -- Its start splits the gap, and the second part is not empty.
  obtain ⟨piece', rfl, whole'⟩ := Text.exists_append_of_utf8Length_le whole (by omega)
  rw [Text.utf8Length_append] at start
  obtain ⟨back, rfl, rfl⟩ := Text.exists_append_of_utf8Length_le whole'.symm (by omega)
  refine clear piece' back rfl ?_ _ _ begins
  rintro rfl
  rw [List.append_nil] at less
  omega

/-- The offsets of an element that stands in a text are boundaries of the text. -/
theorem Span.StandsIn.boundaries (h : span.StandsIn tag text) :
    ∀ offset ∈ span.offsets tag, text.IsBoundary offset := by
  have stop := h.stop_eq
  obtain ⟨front, behind, rest, whole, begins, start, -⟩ := h
  have opening : '<'.utf8Size = 1 := rfl
  have bracket : '>'.utf8Size = 1 := rfl
  have pieces : text = [front, ['<'], tag.name, span.element.attributes, ['>'], span.element.inner,
      tag.closing].flatten ++ rest := by
    rw [whole, begins.written]
    simp [Element.written, Kind.opening]
  have cut := Text.isBoundary_take pieces
  have name : tag.opening.utf8Length = tag.name.utf8Length + 1 := Nat.add_comm ..
  simp only [Span.offsets, List.forall_mem_cons]
  refine ⟨?_, ?_, ?_, ?_, ?_, ?_, ?_, by simp⟩
  · convert cut 1
    simp [start]
  · convert cut 2
    simp [start, opening]
  · convert cut 3
    simp [start, opening, name]
    omega
  · convert cut 4
    simp [start, opening, name]
    omega
  · convert cut 5
    simp [start, opening, bracket, name]
    omega
  · convert cut 6
    simp [start, opening, bracket, name]
    omega
  · convert cut 7
    simp [stop, start, opening, bracket, name, Element.written]
    omega

/-- The search from a boundary finds the first complete element. -/
theorem finds_seek? (boundary : text.IsBoundary offset) : Finds tag text offset (seek? tag text offset) := by
  obtain ⟨front, back, rfl, rfl⟩ := boundary
  have running : seek? tag (front ++ back) front.utf8Length = _ :=
    seek?_eq (Text.behind?_eq_some_iff.mpr ⟨front, rfl, rfl⟩)
  have missed (none : seek? tag (front ++ back) front.utf8Length = none) (span : Span)
      (there : span.StandsIn tag (front ++ back)) : span.start < front.utf8Length := by
    rw [running, Option.map_eq_none_iff, findElement?_eq_none_iff_clear] at none
    -- The whole text behind the offset is a gap, and no element starts at its end.
    by_contra ahead
    rw [← List.append_nil back] at there
    have ends := there.of_clear none (Nat.le_of_not_lt ahead)
    have inside := there.inside
    simp only [Text.utf8Length_append, Text.utf8Length_nil] at inside
    omega
  have first (span : Span) (found : seek? tag (front ++ back) front.utf8Length = some span) :
      span.StandsIn tag (front ++ back) ∧ front.utf8Length ≤ span.start ∧
        ∀ other : Span, other.StandsIn tag (front ++ back) → front.utf8Length ≤ other.start →
          span.start ≤ other.start := by
    rw [running] at found
    obtain ⟨⟨gap, element, rest⟩, foremost, rfl⟩ := Option.map_eq_some_iff.mp found
    obtain ⟨behind, rfl, clear, begins⟩ := findElement?_eq_some_iff.mp foremost
    refine ⟨⟨front ++ gap, behind, rest, by simp, begins, by simp [Span.behind], ?_⟩, Nat.le_add_right .., ?_⟩
    · rw [begins.written]
      simp only [Span.behind, Text.utf8Length_append]
      omega
    · intro other there ahead
      exact there.of_clear clear ahead
  exact {
    running := fun front' back' whole same => seek?_eq (Text.behind?_eq_some_iff.mpr ⟨front', whole, same⟩)
    none_iff := by
      refine ⟨missed, fun none => ?_⟩
      rw [Option.eq_none_iff_forall_ne_some]
      intro span found
      obtain ⟨there, ahead, -⟩ := first span found
      exact absurd (none span there) (Nat.not_lt.mpr ahead)
    some_iff := by
      refine fun span => ⟨first span, fun ⟨there, ahead, least⟩ => ?_⟩
      cases found : seek? tag (front ++ back) front.utf8Length with
      | none => exact absurd (missed found span there) (Nat.not_lt.mpr ahead)
      | some other =>
        obtain ⟨there', ahead', least'⟩ := first other found
        have same : other.start = span.start :=
          Nat.le_antisymm (least' span there ahead) (least other there' ahead')
        rw [there'.unique there same]
    inside := fun span found => (first span found).1.inside
    boundaries := fun span found => (first span found).1.boundaries }

/-! ## §5 Replacement -/

/-- A split of a text into complete elements, each with the gap in front of it, and a last gap. -/
inductive Splits (tag : Kind) : Text → List (Text × Element) → Text → Prop
  | last {gap : Text} (clear : Clear tag gap []) : Splits tag gap [] gap
  | next {gap behind rest last : Text} {element : Element} {parts : List (Text × Element)}
      (clear : Clear tag gap behind) (begins : BeginsElement tag behind element rest)
      (more : Splits tag rest parts last) : Splits tag (gap ++ behind) ((gap, element) :: parts) last

/-- The gaps of a split in their order, with what is put in place of the elements. -/
def refill (put : Element → Text) (parts : List (Text × Element)) (last : Text) : Text :=
  parts.flatMap (fun (gap, element) => gap ++ put element) ++ last

theorem Splits.whole {parts : List (Text × Element)} {last : Text} (h : Splits tag text parts last) :
    text = refill (Element.written tag) parts last := by
  induction h with
  | last => rfl
  | next _ begins _ ih =>
    rw [begins.written]
    nth_rewrite 1 [ih]
    simp [refill]

/-- Replacement puts something else in place of the elements. -/
theorem Splits.replaced {parts : List (Text × Element)} {last : Text} (h : Splits tag text parts last)
    (render : Element → Text) : replaceElements tag render text = refill render parts last := by
  induction h with
  | last clear => exact replaceElements_of_none (findElement?_eq_none_iff_clear.mpr clear) render
  | next clear begins _ ih =>
    rw [replaceElements_of_some (findElement?_eq_some_iff.mpr ⟨_, rfl, clear, begins⟩), ih]
    simp [refill]

/-- A split begins with what a search finds. -/
theorem Splits.begins {parts : List (Text × Element)} {last : Text} (h : Splits tag text parts last) :
    (findElement? tag text = none ∧ parts = [] ∧ last = text) ∨
      ∃ gap element rest more, findElement? tag text = some (gap, element, rest) ∧
        parts = (gap, element) :: more ∧ Splits tag rest more last := by
  cases h with
  | last clear => exact .inl ⟨findElement?_eq_none_iff_clear.mpr clear, rfl, rfl⟩
  | next clear begins more =>
    exact .inr ⟨_, _, _, _, findElement?_eq_some_iff.mpr ⟨_, rfl, clear, begins⟩, rfl, more⟩

/-- There is only one split of a text. -/
theorem Splits.unique {parts others : List (Text × Element)} {last end' : Text} (h : Splits tag text parts last)
    (h' : Splits tag text others end') : others = parts ∧ end' = last := by
  induction parts generalizing text others with
  | nil =>
    obtain ⟨none, -, rfl⟩ | ⟨_, _, _, _, _, more, _⟩ := h.begins
    · obtain ⟨-, rfl, rfl⟩ | ⟨_, _, _, _, found, _⟩ := h'.begins
      · exact ⟨rfl, rfl⟩
      · cases none.symm.trans found
    · cases more
  | cons part parts ih =>
    obtain ⟨_, more, _⟩ | ⟨gap, element, rest, more, found, same, behind⟩ := h.begins
    · cases more
    · obtain ⟨none, _⟩ | ⟨gap', element', rest', more', found', rfl, behind'⟩ := h'.begins
      · cases none.symm.trans found
      · obtain ⟨rfl, rfl, rfl⟩ : gap = gap' ∧ element = element' ∧ rest = rest' := by
          simpa using found.symm.trans found'
        obtain ⟨rfl, rfl⟩ := List.cons_eq_cons.mp same
        obtain ⟨rfl, rfl⟩ := ih behind behind'
        exact ⟨rfl, rfl⟩

theorem exists_splits (tag : Kind) (text : Text) : ∃ parts last, Splits tag text parts last := by
  fun_induction replaceElements tag (fun _ => []) text with
  | case1 text none => exact ⟨[], text, .last (findElement?_eq_none_iff_clear.mp none)⟩
  | case2 text gap element rest found ih =>
    obtain ⟨parts, last, more⟩ := ih
    obtain ⟨behind, rfl, clear, begins⟩ := findElement?_eq_some_iff.mp found
    exact ⟨_, last, .next clear begins more⟩

/-- **A pass replaces the leftmost elements and nothing else.** A search from any boundary of a text finds the first
complete element from there on. So a text has one split into complete elements and gaps in which none begins, and a
pass puts what it makes of the elements between the gaps. -/
theorem replaceElements_leftmost (tag : Kind) (text : Text) :
    (∀ offset, text.IsBoundary offset → Finds tag text offset (seek? tag text offset)) ∧
      ∃ parts last, Splits tag text parts last ∧
        (∀ others end', Splits tag text others end' → others = parts ∧ end' = last) ∧
        text = refill (Element.written tag) parts last ∧
        ∀ render, replaceElements tag render text = refill render parts last := by
  obtain ⟨parts, last, split⟩ := exists_splits tag text
  refine ⟨fun offset boundary => finds_seek? boundary, parts, last, split, ?_, split.whole, split.replaced⟩
  intro others end' other
  exact split.unique other

end Tag

end DocSite
