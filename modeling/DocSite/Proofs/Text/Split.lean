import DocSite.Text.Basic

/-!
# Splitting at one character

Splitting a text at a separator of one character and joining the pieces again gives the text back. Both
are the operations on lists of the same meaning, so that what is known of those holds here.
-/

namespace DocSite.Text

theorem splitOn_of_cut?_eq_none {separator text : Text} (h : cut? separator text = none) :
    splitOn separator text = [text] := by
  rw [splitOn]
  split
  · rfl
  · rename_i found
    cases h.symm.trans found

theorem splitOn_of_cut? {separator text before rest : Text} (filled : separator ≠ [])
    (h : cut? separator text = some (before, rest)) :
    splitOn separator text = before :: splitOn separator rest := by
  have length : separator.length ≠ 0 := by simpa using filled
  rw [splitOn]
  split
  · rename_i none
    cases h.symm.trans none
  · rename_i found
    cases h.symm.trans found
    rw [if_neg length]

/-- Splitting at a separator of one character is splitting at the character. -/
theorem splitOn_singleton (c : Char) (text : Text) : splitOn [c] text = List.splitOn c text := by
  have filled : [c] ≠ [] := List.cons_ne_nil c []
  induction text with
  | nil =>
    have cut : cut? [c] [] = none := rfl
    simpa using splitOn_of_cut?_eq_none cut
  | cons d text ih =>
    rw [List.splitOn_cons_eq_if_modifyHead, ← ih]
    by_cases hdc : d = c
    · have cut : cut? [c] (d :: text) = some ([], text) := by simp [cut?, after?, hdc]
      rw [splitOn_of_cut? filled cut, if_pos (by simpa using hdc)]
    · have cut : cut? [c] (d :: text) =
          (cut? [c] text).map fun pieces => (d :: pieces.1, pieces.2) := by
        simp [cut?, after?, Ne.symm hdc]
      rw [if_neg (by simpa using hdc)]
      cases later : cut? [c] text with
      | none =>
        rw [later] at cut
        rw [splitOn_of_cut?_eq_none cut, splitOn_of_cut?_eq_none later]
        rfl
      | some pieces =>
        obtain ⟨before, rest⟩ := pieces
        rw [later] at cut
        rw [splitOn_of_cut? filled cut, splitOn_of_cut? filled later]
        rfl

theorem join_eq_intercalate (separator : Text) (pieces : List Text) :
    join separator pieces = separator.intercalate pieces := by
  fun_induction join separator pieces with
  | case1 => rfl
  | case2 piece => simp
  | case3 piece pieces more ih =>
    rw [ih, List.intercalate_cons_of_ne_nil more]

/-- The pieces of a text make up the text. -/
theorem join_splitOn (c : Char) (text : Text) : join [c] (splitOn [c] text) = text := by
  rw [join_eq_intercalate, splitOn_singleton, List.intercalate_splitOn]

/-- Behind a separator at the end of a text there is one more piece, which is empty. -/
theorem splitOn_append_singleton (c : Char) (text : Text) :
    splitOn [c] (text ++ [c]) = splitOn [c] text ++ [[]] := by
  simp only [splitOn_singleton]
  simpa using List.splitOn_append_cons_self (a := c) text []

/-- Joined pieces end in the last one. -/
theorem join_concat (separator : Text) (front : List Text) (last : Text) :
    join separator (front ++ [last]) = (front.flatMap (· ++ separator)) ++ last := by
  induction front with
  | nil => rfl
  | cons piece front ih =>
    have more : front ++ [last] ≠ [] := by simp
    rw [List.cons_append, join_eq_intercalate, List.intercalate_cons_of_ne_nil more,
      ← join_eq_intercalate, ih, List.flatMap_cons]
    simp only [List.append_assoc]

/-- Pieces without the separator come back from the text that they make up. -/
theorem splitOn_join {c : Char} {pieces : List Text} (filled : pieces ≠ [])
    (h : ∀ piece ∈ pieces, c ∉ piece) : splitOn [c] (join [c] pieces) = pieces := by
  rw [join_eq_intercalate, splitOn_singleton, List.splitOn_intercalate c h filled]

theorem join_eq_iff {c : Char} {pieces : List Text} (filled : pieces ≠ []) (h : ∀ piece ∈ pieces, c ∉ piece)
    {text : Text} : join [c] pieces = text ↔ pieces = splitOn [c] text := by
  constructor
  · rintro rfl
    exact (splitOn_join filled h).symm
  · rintro rfl
    exact join_splitOn c text

theorem join_cons_of_ne_nil (separator piece : Text) {pieces : List Text} (more : pieces ≠ []) :
    join separator (piece :: pieces) = piece ++ (separator ++ join separator pieces) := by
  rw [join_eq_intercalate, join_eq_intercalate, List.intercalate_cons_of_ne_nil more, List.append_assoc]

/-- Joined pieces have no characters but those of the pieces and of the separator. -/
theorem mem_of_mem_join {separator : Text} {pieces : List Text} {c : Char}
    (h : c ∈ join separator pieces) : c ∈ separator ∨ ∃ piece ∈ pieces, c ∈ piece := by
  fun_induction join separator pieces with
  | case1 => simp at h
  | case2 piece => exact .inr ⟨piece, by simp, h⟩
  | case3 piece pieces _ ih =>
    simp only [List.mem_append] at h
    rcases h with (inside | between) | later
    · exact .inr ⟨piece, by simp, inside⟩
    · exact .inl between
    · rcases ih later with between | ⟨other, mem, inside⟩
      · exact .inl between
      · exact .inr ⟨other, List.mem_cons_of_mem _ mem, inside⟩

/-- What stands in front of the first separator is the first piece. -/
theorem splitOn_append_cons {c : Char} {piece : Text} (h : c ∉ piece) (rest : Text) :
    splitOn [c] (piece ++ c :: rest) = piece :: splitOn [c] rest := by
  rw [splitOn_singleton, splitOn_singleton, List.splitOn_append_cons_self, List.splitOn_eq_singleton h,
    List.singleton_append]

end DocSite.Text
