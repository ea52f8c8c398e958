import DocSite.Proofs.Text.Inert
import DocSite.Proofs.Text.Split

/-!
# What a search finds

A cut is made at the leftmost occurrence of its separator: there is one exactly if the separator occurs at
all (`cut?_eq_none_iff`), what it leaves behind has all that stands behind any other occurrence
(`suffix_of_cut?`), and it is made behind a piece if no earlier occurrence begins in that piece, be it that
it ends in the separator itself (`cut?_of_first`). So pieces come back from the text that they make up, also
where the separator may overlap itself (`splitOn_join_of_first`).
-/

namespace DocSite.Text

/-! ## §1 Openings -/

/-- A text begins with its known opening exactly if the opening is a prefix. -/
theorem startsWith_iff_prefix {text opening : Text} : startsWith text opening = true ↔ opening <+: text := by
  simp only [startsWith, Option.isSome_iff_exists, after?_eq_some_iff]
  exact exists_congr fun _ => eq_comm

theorem after?_eq_none_iff {text opening : Text} : after? opening text = none ↔ ¬ opening <+: text := by
  rw [← startsWith_iff_prefix, startsWith, Bool.not_eq_true, Option.isSome_eq_false_iff, Option.isNone_iff_eq_none]

/-! ## §2 The leftmost occurrence -/

variable {separator text before rest : Text}

/-- What a cut leaves behind has all that stands behind any occurrence. -/
theorem suffix_of_cut? (h : cut? separator text = some (before, rest)) {front back : Text}
    (again : text = front ++ (separator ++ back)) : back <:+ rest := by
  induction front generalizing text before with
  | nil =>
    have here : cut? separator text = some ([], back) := by
      rw [again]
      exact cut?_of_inert (inert_nil separator) back
    obtain ⟨-, rfl⟩ := Prod.mk.inj (Option.some.inj (h.symm.trans here))
    exact List.suffix_rfl
  | cons c front ih =>
    subst again
    simp only [List.cons_append, cut?] at h
    split at h
    · -- The cut is made at the very start, so the rest lacks nothing but a separator.
      rename_i tail start
      obtain ⟨-, rfl⟩ := Prod.mk.inj (Option.some.inj h)
      have whole := after?_eq_some_iff.mp start
      have left : tail <:+ c :: (front ++ (separator ++ back)) := ⟨separator, whole.symm⟩
      have right : back <:+ c :: (front ++ (separator ++ back)) :=
        ⟨c :: (front ++ separator), by simp⟩
      refine List.suffix_of_suffix_length_le right left ?_
      have lengths := congrArg List.length whole
      simp only [List.length_cons, List.length_append] at lengths
      omega
    · obtain ⟨⟨b, r⟩, found, same⟩ := Option.map_eq_some_iff.mp h
      obtain ⟨-, rfl⟩ := Prod.mk.inj same
      exact ih found rfl

/-- A text can be cut exactly if the separator occurs in it. -/
theorem cut?_eq_none_iff : cut? separator text = none ↔ ¬ separator <:+: text := by
  constructor
  · rintro none ⟨front, back, rfl⟩
    induction front with
    | nil =>
      have here := cut?_of_inert (inert_nil separator) back
      rw [List.nil_append] at none here
      cases none.symm.trans here
    | cons c front ih =>
      simp only [List.cons_append, cut?] at none
      split at none
      · cases none
      · exact ih (Option.map_eq_none_iff.mp none)
  · intro absent
    rw [Option.eq_none_iff_forall_ne_some]
    rintro ⟨before, rest⟩ found
    exact absent ⟨before, rest, (cut?_eq_some found).symm⟩

/-- A cut is made behind a piece if no occurrence begins in the piece. -/
theorem cut?_of_first (first : ¬ separator <:+: before ++ separator.dropLast) (rest : Text) :
    cut? separator (before ++ (separator ++ rest)) = some (before, rest) := by
  induction before with
  | nil => exact cut?_of_inert (inert_nil separator) rest
  | cons c before ih =>
    -- An occurrence that begins here ends in front of the last character of the separator.
    have here : after? separator (c :: (before ++ (separator ++ rest))) = none := by
      rw [Option.eq_none_iff_forall_ne_some]
      intro tail found
      have filled : separator ≠ [] := fun empty => first (empty ▸ List.nil_infix)
      have start :
          separator <+: (c :: before ++ separator.dropLast) ++ (separator.getLast filled :: rest) := by
        refine ⟨tail, (after?_eq_some_iff.mp found).symm.trans ?_⟩
        nth_rewrite 1 [← List.dropLast_append_getLast filled]
        simp
      refine first (List.prefix_of_prefix_length_le start (List.prefix_append ..) ?_).isInfix
      simp only [List.length_append, List.length_cons, List.length_dropLast]
      omega
    have later := ih fun inner => first (List.infix_cons inner)
    simp only [List.cons_append, cut?, here, later]
    rfl

/-- **A cut is made at the first occurrence of the separator**, and nothing but the separator is left out. -/
theorem cut?_eq_some_iff :
    cut? separator text = some (before, rest) ↔
      text = before ++ (separator ++ rest) ∧
        ∀ front back, text = front ++ (separator ++ back) → before.length ≤ front.length := by
  -- The place of a cut is not behind any occurrence, as it leaves behind what is behind the occurrence.
  have foremost {before rest front back : Text} (found : cut? separator text = some (before, rest))
      (again : text = front ++ (separator ++ back)) : before.length ≤ front.length := by
    have behind := (suffix_of_cut? found again).length_le
    have whole := length_of_cut? found
    have parts := congrArg List.length again
    simp only [List.length_append] at parts
    omega
  constructor
  · intro found
    refine ⟨?_, fun front back again => foremost found again⟩
    rw [cut?_eq_some found, List.append_assoc]
  · intro ⟨whole, first⟩
    have occurs : separator <:+: text := ⟨before, rest, by rw [whole, List.append_assoc]⟩
    obtain ⟨⟨before', rest'⟩, found⟩ : ∃ parts, cut? separator text = some parts := by
      rw [← Option.ne_none_iff_exists']
      intro none
      exact cut?_eq_none_iff.mp none occurs
    have whole' : text = before' ++ (separator ++ rest') := by
      rw [cut?_eq_some found, List.append_assoc]
    have le := first before' rest' whole'
    have ge := foremost found whole
    obtain ⟨same, behind⟩ := List.append_inj (whole.symm.trans whole') (by omega)
    rw [found, same, List.append_cancel_left behind]

/-! ## §3 Pieces -/

/-- Pieces come back from the text that they make up if in each of them, with the next separator behind it, the
separator does not occur any earlier. -/
theorem splitOn_join_of_first {pieces : List Text} (filled : pieces ≠ [])
    (h : ∀ piece ∈ pieces, ¬ separator <:+: piece ++ separator.dropLast) :
    splitOn separator (join separator pieces) = pieces := by
  fun_induction join separator pieces with
  | case1 => exact absurd rfl filled
  | case2 piece =>
    have absent : ¬ separator <:+: piece := fun inner =>
      h piece (List.mem_singleton_self piece) (inner.trans (List.prefix_append ..).isInfix)
    exact splitOn_of_cut?_eq_none (cut?_eq_none_iff.mpr absent)
  | case3 piece pieces more ih =>
    have first := h piece (List.mem_cons_self ..)
    have some : separator ≠ [] := fun empty => first (empty ▸ List.nil_infix)
    rw [List.append_assoc, splitOn_of_cut? some (cut?_of_first first _),
      ih more fun other mem => h other (List.mem_cons_of_mem piece mem)]

end DocSite.Text
