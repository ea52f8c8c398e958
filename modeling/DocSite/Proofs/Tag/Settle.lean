import DocSite.Tag.Expand
import Mathlib.Logic.Function.Iterate

/-!
# Repeated rounds come to rest

`settle` repeats rounds until one changes nothing. Every round that replaces an element makes the text
shorter, so a text of `n` bytes is at rest after at most `n` rounds that replace something. At rest a text
is *resolved*: no complete block element starts anywhere in it.

- **§1** what it means that a text has no element;
- **§2** rest and resolution are the same;
- **§3** the rounds of the loop and their number.
-/

namespace DocSite.Tag

/-! ## §1 Texts without elements -/

/-- The kinds of elements that a round replaces. -/
def blockKinds : List Kind := [.cardGroup, .note, .warning]

/-- No element of the three kinds is found in the text. -/
def Resolved (text : Text) : Prop := ∀ tag ∈ blockKinds, findElement? tag text = none

/-- An element is found unless none starts at any position of the text. -/
theorem findElement?_eq_none_iff {tag : Kind} {text : Text} :
    findElement? tag text = none ↔ ∀ rest, rest <:+ text → elementAt? tag rest = none := by
  induction text with
  | nil =>
    simp only [findElement?, true_iff]
    rintro rest hrest
    obtain rfl := List.suffix_nil.mp hrest
    rfl
  | cons c text ih =>
    simp only [findElement?, List.suffix_cons_iff]
    cases here : elementAt? tag (c :: text) with
    | some found =>
      simp only [reduceCtorEq, false_iff]
      intro h
      rw [h _ (Or.inl rfl)] at here
      cases here
    | none =>
      simp only [Option.map_eq_none_iff, ih]
      constructor
      · rintro h rest (rfl | hrest)
        · exact here
        · exact h rest hrest
      · intro h rest hrest
        exact h rest (Or.inr hrest)

theorem resolved_iff_suffix {text : Text} :
    Resolved text ↔ ∀ tag ∈ blockKinds, ∀ rest, rest <:+ text → elementAt? tag rest = none :=
  forall₂_congr fun _ _ => findElement?_eq_none_iff

/-! ## §2 Rest -/

/-- A round replaces something exactly if the text is not resolved. Later replacements of the round do
not matter: they work on the text itself unless an earlier one has replaced something. -/
theorem roundReplaces_eq_false_iff {text : Text} : roundReplaces text = false ↔ Resolved text := by
  simp only [roundReplaces, Bool.or_eq_false_iff, Option.isSome_eq_false_iff,
    Option.isNone_iff_eq_none, Resolved, blockKinds, List.forall_mem_cons, List.not_mem_nil,
    false_implies, implies_true, and_true, and_assoc]
  -- Each kind is looked for in the text itself as soon as the kinds before it have not been found.
  apply and_congr_right
  intro group
  have groups : expandGroups text = text := replaceElements_of_none group _
  rw [groups]
  apply and_congr_right
  intro note
  have notes : expandNotes text = text := replaceElements_of_none note _
  rw [notes]

/-- **Rest is resolution**: a round leaves a text alone exactly if there is nothing to replace. -/
theorem expandRound_eq_self_iff {text : Text} : expandRound text = text ↔ Resolved text := by
  rw [← roundReplaces_eq_false_iff, ← Bool.not_eq_true, roundReplaces_iff, not_not]

theorem settle_of_resolved {text : Text} (h : Resolved text) : settle text = text := by
  rw [settle]
  exact if_pos (expandRound_eq_self_iff.mpr h)

theorem expand_of_resolved {text : Text} (h : Resolved text) : expand text = text := by
  rw [expand, expandRound_eq_self_iff.mpr h, settle_of_resolved h]

/-- The loop ends in a text that a further round leaves alone. -/
theorem expandRound_settle (text : Text) : expandRound (settle text) = settle text := by
  fun_induction settle text with
  | case1 text _ same => exact same
  | case2 text _ _ ih => exact ih

theorem resolved_settle (text : Text) : Resolved (settle text) :=
  expandRound_eq_self_iff.mp (expandRound_settle text)

theorem resolved_expand (text : Text) : Resolved (expand text) := resolved_settle _

/-- A resolved text is what expansion makes of it, and only a resolved text is. -/
theorem expand_eq_self_iff {text : Text} : expand text = text ↔ Resolved text :=
  ⟨fun same => same ▸ resolved_expand text, expand_of_resolved⟩

/-! ## §3 Rounds -/

theorem utf8Length_expandRound_le (text : Text) :
    (expandRound text).utf8Length ≤ text.utf8Length := by
  cases h : roundReplaces text with
  | false => exact Nat.le_of_eq (congrArg Text.utf8Length (expandRound_of_not_roundReplaces h))
  | true => exact Nat.le_of_lt (utf8Length_expandRound_lt h)

/-- The loop that starts at a text runs `n` rounds that change something, each of which takes at least
one byte away, before the one that ends it. -/
theorem exists_iterate_settle (text : Text) :
    ∃ n, n + (settle text).utf8Length ≤ text.utf8Length ∧ settle text = expandRound^[n] text ∧
      ∀ k < n, expandRound^[k + 1] text ≠ expandRound^[k] text := by
  fun_induction settle text with
  | case1 text next same => exact ⟨0, by simp⟩
  | case2 text next change ih =>
    -- The rounds from the next text on, and the one that leads to it.
    rcases ih with ⟨n, bytes, last, before⟩
    have less : next.utf8Length < text.utf8Length :=
      utf8Length_expandRound_lt (roundReplaces_iff.mpr change)
    refine ⟨n + 1, by omega, last, ?_⟩
    intro k hk
    cases k with
    | zero => exact change
    | succ k => exact before k (by omega)

/-- **Expansion ends, and ends resolved.** A round that replaces anything makes the text shorter in
bytes. So the loop on a text of `b` bytes runs `n + 2 ≤ b + 2` rounds: the one in front of the loop, `n`
that change something, and the one that changes nothing. In its result no complete element starts at any
position, another expansion changes nothing, and the result is never longer than the text; it is the text
itself exactly if that has no complete element. -/
theorem expand_comes_to_rest (text : Text) :
    (∀ t, roundReplaces t = true → (expandRound t).utf8Length < t.utf8Length) ∧
    (∃ n, n + 2 ≤ text.utf8Length + 2 ∧ expand text = expandRound^[n + 1] text ∧
      expandRound^[n + 2] text = expandRound^[n + 1] text ∧
      ∀ k < n, expandRound^[k + 2] text ≠ expandRound^[k + 1] text) ∧
    (∀ tag ∈ blockKinds, findElement? tag (expand text) = none ∧
      ∀ rest, rest <:+ expand text → elementAt? tag rest = none) ∧
    expand (expand text) = expand text ∧
    (expand text).utf8Length ≤ text.utf8Length ∧
    (expand text = text ↔ ∀ tag ∈ blockKinds, findElement? tag text = none) := by
  rcases exists_iterate_settle (expandRound text) with ⟨n, bytes, last, before⟩
  have first := utf8Length_expandRound_le text
  have rest := resolved_expand text
  have resultIs : expand text = expandRound^[n + 1] text := last
  refine ⟨fun t => utf8Length_expandRound_lt, ⟨n, by omega, resultIs, ?_, before⟩, ?_, ?_, ?_, ?_⟩
  · rw [Function.iterate_succ_apply', ← resultIs]
    exact expandRound_eq_self_iff.mpr rest
  · intro tag htag
    exact ⟨rest tag htag, findElement?_eq_none_iff.mp (rest tag htag)⟩
  · exact expand_of_resolved rest
  · show (settle (expandRound text)).utf8Length ≤ text.utf8Length
    omega
  · exact expand_eq_self_iff

/-- A text in which a note is put together by dropping an empty group in its opening tag. -/
def joinedTag : Text := "<No<CardGroup></CardGroup>te>a</Note>".toList

theorem expand_comes_to_rest_joinedTag :
    roundReplaces joinedTag = true ∧
    (expandRound joinedTag).utf8Length < joinedTag.utf8Length ∧
    expand (expand joinedTag) = expand joinedTag ∧ expand joinedTag ≠ joinedTag := by
  have replaces : roundReplaces joinedTag = true := by decide +kernel
  obtain ⟨shrinks, -, -, again, -, same⟩ := expand_comes_to_rest joinedTag
  refine ⟨replaces, shrinks _ replaces, again, fun rest => ?_⟩
  have none := same.mp rest .cardGroup (List.mem_cons_self ..)
  exact absurd none (by decide +kernel)

end DocSite.Tag
