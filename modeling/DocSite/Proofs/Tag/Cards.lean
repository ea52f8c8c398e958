import DocSite.Proofs.Tag.Complete
import DocSite.Proofs.Tag.Scan

/-!
# The cards of a group

Which cards of a group are shown, told without a reader. The attributes of an opening tag are cut off from left to
right (`Attribute.Cuts`), and a usable card begins wherever a complete element begins whose first attribute is a
title and a later one an address (`IsCard`). The cards that are shown are chosen greedily: the leftmost usable
card, then the leftmost one behind it, and so on (`IsGreedy`). The main statement (`cards_select`) says that these
are the cards that are read, whatever unusable or unfinished cards stand between them, and that every other usable
card begins inside of a chosen one.
-/

namespace DocSite.Tag

/-! ## §1 Attributes -/

/-- An attribute as it may be written: a letter and then letters, digits, `_` or `-`, and a value without quotes. -/
structure Attribute.Proper (attr : Attribute) : Prop where
  name : ∃ c more, attr.name = c :: more ∧ isNameStart c = true ∧ more.all isNameRest = true
  value : '"' ∉ attr.value

/-- **An attribute is read exactly where one is written.** -/
theorem Attribute.at?_eq_some_iff {text rest : Text} {attr : Attribute} :
    Attribute.at? text = some (attr, rest) ↔ text = attr.written ++ rest ∧ attr.Proper := by
  constructor
  · intro found
    refine ⟨Attribute.eq_of_at? found, ?_⟩
    cases text with
    | nil => simp [Attribute.at?] at found
    | cons c text =>
      rw [Attribute.at?] at found
      split at found
      · rename_i start
        simp only [Option.bind_eq_bind, Option.bind_eq_some_iff, Prod.exists, pure,
          Option.some.injEq, Prod.mk.injEq] at found
        obtain ⟨quoted, -, value, behind, cut, rfl, -⟩ := found
        refine ⟨⟨c, _, rfl, start, ?_⟩, Text.notMem_of_cut? cut⟩
        rw [List.all_eq_true]
        exact List.all_eq_true.mp List.all_takeWhile
      · cases found
  · intro written
    obtain ⟨whole, ⟨c, more, named, start, rests⟩, value⟩ := written
    obtain ⟨name, content⟩ := attr
    subst whole named
    exact Attribute.at?_written start rests value rest

/-- Whether an attribute is written at a position of a text. -/
def HasAttributeAt (text : Text) (position : Nat) : Prop :=
  ∃ attr rest, text.drop position = Attribute.written attr ++ rest ∧ attr.Proper

/-- The attributes of a text, taken off from left to right, each with the text in front of it: the leftmost one,
and then those behind it. -/
inductive Attribute.Cuts : Text → List (Text × Attribute) → Prop
  | none {text : Text} (absent : ∀ position, ¬ HasAttributeAt text position) : Cuts text []
  | next {text before rest : Text} {attr : Attribute} {found : List (Text × Attribute)}
      (whole : text = before ++ (attr.written ++ rest)) (proper : attr.Proper)
      (first : ∀ position < before.length, ¬ HasAttributeAt text position)
      (more : Cuts rest found) : Cuts text ((before, attr) :: found)

theorem not_hasAttributeAt_nil (position : Nat) : ¬ HasAttributeAt [] position := by
  intro there
  obtain ⟨attr, rest, written, _⟩ := there
  simp [Attribute.written] at written

/-- An attribute at the start of a text is read there. -/
theorem hasAttributeAt_zero_iff {text : Text} :
    HasAttributeAt text 0 ↔ ∃ attr rest, Attribute.at? text = some (attr, rest) := by
  simp only [Attribute.at?_eq_some_iff]
  rfl

theorem Attribute.find?_eq_none_iff {text : Text} :
    Attribute.find? text = none ↔ ∀ position, ¬ HasAttributeAt text position := by
  induction text with
  | nil => simp [Attribute.find?, not_hasAttributeAt_nil]
  | cons c text ih =>
    rw [Attribute.find?]
    cases here : Attribute.at? (c :: text) with
    | some found =>
      -- Then there is one at the very start.
      have start : HasAttributeAt (c :: text) 0 := hasAttributeAt_zero_iff.mpr ⟨found.1, found.2, here⟩
      simp only [reduceCtorEq, false_iff]
      exact fun absent => absent 0 start
    | none =>
      simp only [Option.map_eq_none_iff, ih]
      constructor
      · intro absent position
        cases position with
        | zero =>
          rw [hasAttributeAt_zero_iff, here]
          simp
        | succ position => exact absent position
      · intro absent position
        exact absent (position + 1)

/-- **A search finds the leftmost attribute.** -/
theorem Attribute.find?_eq_some {text before rest : Text} {attr : Attribute}
    (h : Attribute.find? text = some (before, attr, rest)) :
    text = before ++ (attr.written ++ rest) ∧ attr.Proper ∧
      ∀ position < before.length, ¬ HasAttributeAt text position := by
  refine ⟨by rw [Attribute.eq_of_find? h, List.append_assoc], ?_⟩
  induction text generalizing before with
  | nil => simp [Attribute.find?] at h
  | cons c text ih =>
    rw [Attribute.find?] at h
    split at h
    · rename_i found here
      obtain ⟨rfl, rfl, rfl⟩ : [] = before ∧ _ := by simpa using h
      exact ⟨(Attribute.at?_eq_some_iff.mp here).2, by simp⟩
    · rename_i here
      obtain ⟨⟨front, found⟩, later, same⟩ := Option.map_eq_some_iff.mp h
      obtain ⟨rfl, rfl⟩ : c :: front = before ∧ found = (attr, rest) := by simpa using same
      obtain ⟨proper, first⟩ := ih later
      refine ⟨proper, ?_⟩
      intro position less
      cases position with
      | zero =>
        rw [hasAttributeAt_zero_iff, here]
        simp
      | succ position => exact first position (by simpa using less)

/-- No attribute but the leftmost one is found. -/
theorem Attribute.find?_of_first {text before rest : Text} {attr : Attribute}
    (whole : text = before ++ (attr.written ++ rest)) (proper : attr.Proper)
    (first : ∀ position < before.length, ¬ HasAttributeAt text position) :
    Attribute.find? text = some (before, attr, rest) := by
  have here : HasAttributeAt text before.length := ⟨attr, rest, by rw [whole, List.drop_left], proper⟩
  cases find : Attribute.find? text with
  | none => exact absurd here (Attribute.find?_eq_none_iff.mp find before.length)
  | some found =>
    obtain ⟨before', attr', rest'⟩ := found
    obtain ⟨whole', proper', first'⟩ := Attribute.find?_eq_some find
    have there : HasAttributeAt text before'.length :=
      ⟨attr', rest', by rw [whole', List.drop_left], proper'⟩
    -- Neither of the two stands before the other.
    have le : before.length ≤ before'.length := Nat.le_of_not_lt fun less => first _ less there
    have ge : before'.length ≤ before.length := Nat.le_of_not_lt fun less => first' _ less here
    obtain ⟨same, behind⟩ := List.append_inj (whole'.symm.trans whole) (by omega)
    have one : Attribute.at? (attr.written ++ rest) = some (attr, rest) :=
      Attribute.at?_eq_some_iff.mpr ⟨rfl, proper⟩
    have other : Attribute.at? (attr.written ++ rest) = some (attr', rest') :=
      Attribute.at?_eq_some_iff.mpr ⟨behind.symm, proper'⟩
    obtain ⟨rfl, rfl⟩ := Prod.mk.inj (Option.some.inj (other.symm.trans one))
    rw [same]

theorem Attribute.all_of_none {text : Text} (h : Attribute.find? text = none) : Attribute.all text = [] := by
  rw [Attribute.all]
  split
  · rfl
  · rename_i found
    cases h.symm.trans found

theorem Attribute.all_of_some {text before rest : Text} {attr : Attribute}
    (h : Attribute.find? text = some (before, attr, rest)) :
    Attribute.all text = attr :: Attribute.all rest := by
  rw [Attribute.all]
  split
  · rename_i none
    cases h.symm.trans none
  · rename_i found
    cases h.symm.trans found
    rfl

/-- What has been cut off are the attributes that are read. -/
theorem Attribute.Cuts.all_eq {text : Text} {found : List (Text × Attribute)} (h : Attribute.Cuts text found) :
    Attribute.all text = found.map (·.2) := by
  induction h with
  | none absent => rw [Attribute.all_of_none (Attribute.find?_eq_none_iff.mpr absent), List.map_nil]
  | next whole proper first _ ih =>
    rw [Attribute.all_of_some (Attribute.find?_of_first whole proper first), ih, List.map_cons]

/-- The attributes of every text can be cut off. -/
theorem Attribute.exists_cuts (text : Text) : ∃ found, Attribute.Cuts text found := by
  fun_induction Attribute.all text with
  | case1 text none => exact ⟨[], .none (Attribute.find?_eq_none_iff.mp none)⟩
  | case2 text before attr rest find ih =>
    obtain ⟨found, more⟩ := ih
    obtain ⟨whole, proper, first⟩ := Attribute.find?_eq_some find
    exact ⟨(before, attr) :: found, .next whole proper first more⟩

/-! ## §2 Usable cards -/

/-- A usable card at the start of a text, and the text behind it: a complete element whose first attribute is the
title, with nothing but blank space in front of it, and among whose later attributes is an address. -/
def IsCard (text : Text) (card : Card) (rest : Text) : Prop :=
  ∃ element blank others before behind,
    BeginsElement .card text element rest ∧
      Attribute.Cuts element.attributes ((blank, ⟨"title".toList, card.title⟩) :: others) ∧
      blank.all Text.isBlank = true ∧
      others.map (·.2) = before ++ ⟨"href".toList, card.href⟩ :: behind ∧
      (∀ attr ∈ before, attr.name ≠ "href".toList) ∧
      card.body = Text.trim element.inner

/-- A card is made of an element exactly if its attributes are those of a card. -/
theorem Card.ofElement?_eq_some_iff {element : Element} {card : Card} :
    Card.ofElement? element = some card ↔
      ∃ blank others before behind,
        Attribute.Cuts element.attributes ((blank, ⟨"title".toList, card.title⟩) :: others) ∧
          blank.all Text.isBlank = true ∧
          others.map (·.2) = before ++ ⟨"href".toList, card.href⟩ :: behind ∧
          (∀ attr ∈ before, attr.name ≠ "href".toList) ∧
          card.body = Text.trim element.inner := by
  constructor
  · intro made
    simp only [Card.ofElement?, Option.bind_eq_bind, Option.bind_eq_some_iff, Prod.exists] at made
    obtain ⟨blank, title, rest, find, made⟩ := made
    split at made
    · rename_i named
      simp only [Option.bind_eq_some_iff, pure, Option.some.injEq] at made
      obtain ⟨href, later, rfl⟩ := made
      obtain ⟨others, more⟩ := Attribute.exists_cuts rest
      obtain ⟨whole, proper, first⟩ := Attribute.find?_eq_some find
      -- The address is the first of the later attributes with that name.
      rw [more.all_eq, List.find?_eq_some_iff_append] at later
      obtain ⟨called, before, behind, split, passed⟩ := later
      obtain ⟨name, value⟩ := title
      obtain ⟨name', address⟩ := href
      obtain rfl : name' = "href".toList := by simpa using called
      obtain ⟨rfl, blanks⟩ : name = "title".toList ∧ _ := named
      refine ⟨blank, others, before, behind, .next whole proper first more, blanks, split, ?_, rfl⟩
      intro attr mem
      simpa using passed attr mem
    · cases made
  · intro made
    obtain ⟨blank, others, before, behind, cuts, blanks, split, passed, body⟩ := made
    cases cuts with
    | next whole proper first more =>
      rename_i rest
      have later : (Attribute.all rest).find? (·.name = "href".toList) = some ⟨"href".toList, card.href⟩ := by
        rw [more.all_eq, List.find?_eq_some_iff_append]
        refine ⟨by simp, before, behind, split, ?_⟩
        intro attr mem
        simpa using passed attr mem
      rw [Card.ofElement?, Attribute.find?_of_first whole proper first]
      simp only [Option.bind_eq_bind, Option.bind_some, blanks, and_self, if_true, later, pure, ← body]

/-- **A card is read exactly where a usable one begins.** -/
theorem Card.at?_eq_some_iff {text rest : Text} {card : Card} :
    Card.at? text = some (card, rest) ↔ IsCard text card rest := by
  simp only [Card.at?, Option.bind_eq_bind, Option.bind_eq_some_iff, Prod.exists, pure,
    Option.some.injEq, Prod.mk.injEq, elementAt?_eq_some_iff, Card.ofElement?_eq_some_iff]
  constructor
  · intro read
    obtain ⟨element, behind, complete, made, ⟨blank, others, before, after, described⟩, same, tail⟩ := read
    subst same tail
    exact ⟨element, blank, others, before, after, complete, described⟩
  · intro usable
    obtain ⟨element, blank, others, before, after, complete, described⟩ := usable
    exact ⟨element, rest, complete, card, ⟨blank, others, before, after, described⟩, rfl, rfl⟩

/-- At most one usable card begins a text. -/
theorem IsCard.unique {text rest rest' : Text} {card card' : Card} (one : IsCard text card rest)
    (other : IsCard text card' rest') : card = card' ∧ rest = rest' := by
  have same := (Card.at?_eq_some_iff.mpr one).symm.trans (Card.at?_eq_some_iff.mpr other)
  exact Prod.mk.inj (Option.some.inj same)

theorem IsCard.length_lt {text rest : Text} {card : Card} (h : IsCard text card rest) :
    rest.length < text.length :=
  Card.length_of_at? (Card.at?_eq_some_iff.mpr h)

theorem IsCard.suffix {text rest : Text} {card : Card} (h : IsCard text card rest) : rest <:+ text := by
  obtain ⟨element, _, _, _, _, complete, _⟩ := h
  exact ⟨element.written .card, complete.written.symm⟩

/-! ## §3 The greedy choice -/

/-- Whether a usable card begins at a position of a text. -/
def IsCardStart (text : Text) (position : Nat) : Prop := ∃ card rest, IsCard (text.drop position) card rest

/-- A card that has been chosen, with the positions at which it begins and behind which it ends. -/
structure Pick where
  start : Nat
  stop : Nat
  card : Card

/-- The cards of a text chosen from a position on: the first usable card, then the first usable one behind its
closing tag, and so on as long as there is any. -/
inductive IsGreedy (text : Text) : Nat → List Pick → Prop
  | done {position : Nat} (none : ∀ later ≥ position, ¬ IsCardStart text later) : IsGreedy text position []
  | pick {position : Nat} {pick : Pick} {picks : List Pick} (ahead : position ≤ pick.start)
      (first : ∀ earlier ≥ position, earlier < pick.start → ¬ IsCardStart text earlier)
      (usable : IsCard (text.drop pick.start) pick.card (text.drop pick.stop))
      (inside : pick.stop ≤ text.length)
      (more : IsGreedy text pick.stop picks) : IsGreedy text position (pick :: picks)

variable {text : Text} {position : Nat} {picks : List Pick}

/-- A chosen card ends behind its start. -/
theorem start_lt_stop {pick : Pick} (usable : IsCard (text.drop pick.start) pick.card (text.drop pick.stop)) :
    pick.start < pick.stop := by
  have shorter := usable.length_lt
  simp only [List.length_drop] at shorter
  omega

/-- There is only one greedy choice. -/
theorem IsGreedy.unique {other : List Pick} (h : IsGreedy text position picks)
    (h' : IsGreedy text position other) : picks = other := by
  induction h generalizing other with
  | done none =>
    cases h' with
    | done => rfl
    | pick ahead _ usable _ _ => exact absurd ⟨_, _, usable⟩ (none _ ahead)
  | @pick position chosen picks ahead first usable inside more ih =>
    cases h' with
    | done none => exact absurd ⟨_, _, usable⟩ (none _ ahead)
    | @pick _ chosen' picks' ahead' first' usable' inside' more' =>
      obtain ⟨start, stop, card⟩ := chosen
      obtain ⟨start', stop', card'⟩ := chosen'
      dsimp only at *
      -- Neither choice can pass over the card that the other one begins with.
      have le : start ≤ start' := Nat.le_of_not_lt fun less => first start' ahead' less ⟨_, _, usable'⟩
      have ge : start' ≤ start := Nat.le_of_not_lt fun less => first' start ahead less ⟨_, _, usable⟩
      obtain rfl : start = start' := Nat.le_antisymm le ge
      obtain ⟨rfl, rest⟩ := usable.unique usable'
      have lengths := congrArg List.length rest
      simp only [List.length_drop] at lengths
      obtain rfl : stop = stop' := by omega
      rw [ih more']

/-- The cards that are read are those of a greedy choice. -/
theorem exists_greedy (text : Text) (position : Nat) :
    ∃ picks, IsGreedy text position picks ∧ cards (text.drop position) = picks.map (·.card) := by
  generalize behind : text.drop position = left
  fun_induction cards left generalizing position with
  | case1 =>
    refine ⟨[], .done ?_, rfl⟩
    -- There is nothing left in which a card could begin.
    intro later ge here
    obtain ⟨card, rest, usable⟩ := here
    have shorter := usable.length_lt
    have none := congrArg List.length behind
    simp only [List.length_drop, List.length_nil] at shorter none
    omega
  | case2 c left card rest found ih =>
    rw [← behind, Card.at?_eq_some_iff] at found
    have tail : rest <:+ text := found.suffix.trans (List.drop_suffix ..)
    have stop := List.suffix_iff_eq_drop.mp tail
    obtain ⟨picks, greedy, read⟩ := ih _ stop.symm
    rw [stop] at found
    refine ⟨⟨position, _, card⟩ :: picks, .pick Nat.le.refl ?_ found (Nat.sub_le ..) greedy, ?_⟩
    · intro earlier ge less
      exact absurd ge (Nat.not_le_of_lt less)
    · rw [List.map_cons, ← read]
  | case3 c left unusable ih =>
    have next : text.drop (position + 1) = left := by
      rw [← List.drop_drop, behind, List.drop_one, List.tail_cons]
    obtain ⟨picks, greedy, read⟩ := ih _ next
    refine ⟨picks, ?_, read⟩
    have here : ¬ IsCardStart text position := by
      intro here
      obtain ⟨card, rest, usable⟩ := here
      rw [behind, ← Card.at?_eq_some_iff, unusable] at usable
      cases usable
    -- What has been chosen from the next position on is chosen from here on, as no card begins here.
    cases greedy with
    | done none =>
      refine .done fun later ge => ?_
      rcases Nat.eq_or_lt_of_le ge with rfl | more
      · exact here
      · exact none later more
    | pick ahead first usable inside more =>
      refine .pick (Nat.le_of_succ_le ahead) (fun earlier ge less => ?_) usable inside more
      rcases Nat.eq_or_lt_of_le ge with rfl | greater
      · exact here
      · exact first earlier greater less

/-- Chosen cards begin from the given position on, and none begins in front of the end of an earlier one. -/
theorem IsGreedy.ordered (h : IsGreedy text position picks) :
    (∀ pick ∈ picks, position ≤ pick.start) ∧
      picks.Pairwise fun earlier later => earlier.stop ≤ later.start := by
  induction h with
  | done none => simp
  | pick ahead first usable inside more ih =>
    have := start_lt_stop usable
    obtain ⟨behind, pairs⟩ := ih
    refine ⟨?_, List.pairwise_cons.mpr ⟨behind, pairs⟩⟩
    intro pick mem
    cases mem with
    | head => exact ahead
    | tail _ mem =>
      have := behind pick mem
      omega

/-- A usable card that has not been chosen begins inside of one that has. -/
theorem IsGreedy.covers (h : IsGreedy text position picks) {start : Nat} (ge : position ≤ start)
    (usable : IsCardStart text start) :
    ∃ pick ∈ picks, pick.start = start ∨ pick.start < start ∧ start < pick.stop := by
  induction h with
  | done none => exact absurd usable (none start ge)
  | @pick position chosen picks ahead first _ _ _ ih =>
    by_cases inside : start < chosen.stop
    · refine ⟨chosen, List.mem_cons_self, ?_⟩
      have : chosen.start ≤ start := Nat.le_of_not_lt fun less => first start ge less usable
      omega
    · obtain ⟨pick, mem, covered⟩ := ih (Nat.le_of_not_lt inside)
      exact ⟨pick, List.mem_cons_of_mem chosen mem, covered⟩

/-! ## §4 The cards that are shown -/

/-- What has to hold of the cards that are chosen from a text and shown. -/
structure Selects (text : Text) (picks : List Pick) : Prop where
  /-- The leftmost usable card is chosen, then the leftmost one behind its closing tag, and so on. -/
  greedy : IsGreedy text 0 picks
  /-- Each of them makes one line, and there are no other lines. -/
  lines : (cards text).map Card.toMarkdown = picks.map fun pick =>
    "- [**".toList ++ pick.card.title ++ "**](".toList ++ pick.card.href ++ ") — ".toList ++ pick.card.body
  /-- No two of them overlap, and they come in the order of the text. -/
  ordered : picks.Pairwise fun earlier later => earlier.stop ≤ later.start
  /-- Every other usable card begins inside of one of them. -/
  covers : ∀ start, IsCardStart text start →
    ∃ pick ∈ picks, pick.start = start ∨ pick.start < start ∧ start < pick.stop

/-- **No usable card is lost, repeated or reordered.** The cards that are shown are the greedy choice from left to
right, of which there is one, and a usable card that is not shown begins inside of one that is. -/
theorem cards_select (text : Text) :
    ∃ picks, Selects text picks ∧ ∀ other, IsGreedy text 0 other → other = picks := by
  obtain ⟨picks, greedy, read⟩ := exists_greedy text 0
  rw [List.drop_zero] at read
  refine ⟨picks, ?_, fun other choice => choice.unique greedy⟩
  exact {
    greedy
    lines := by rw [read, List.map_map]; rfl
    ordered := greedy.ordered.2
    covers := fun start usable => greedy.covers (Nat.zero_le start) usable }

end DocSite.Tag
