import DocSite.Text.Blank
import Mathlib.Data.List.Basic

/-!
# Pieces in which nothing begins

A search goes through a text from left to right and stops where its mark begins. A piece is *inert* for a
mark if no occurrence of the mark begins in it, whatever stands behind the piece: then every search passes
over it. Inert pieces can be put one after the other, so that the pieces of a long text are looked at one
by one.
-/

namespace DocSite.Text

/-! ## §1 Inert pieces -/

/-- No occurrence of the mark begins in the piece, whatever stands behind it. -/
def Inert (mark piece : Text) : Prop :=
  ∀ part, part <:+ piece → part ≠ [] → ∀ rest, after? mark (part ++ rest) = none

@[simp]
theorem inert_nil (mark : Text) : Inert mark [] :=
  fun _ hpart hne => absurd (List.suffix_nil.mp hpart) hne

theorem Inert.head {mark piece : Text} {c : Char} (h : Inert mark (c :: piece)) (rest : Text) :
    after? mark (c :: (piece ++ rest)) = none :=
  h _ (List.suffix_refl _) (by simp) rest

theorem Inert.tail {mark piece : Text} {c : Char} (h : Inert mark (c :: piece)) :
    Inert mark piece :=
  fun part hpart => h part (hpart.trans (List.suffix_cons c piece))

theorem Inert.cons {mark piece : Text} {c : Char}
    (here : ∀ rest, after? mark (c :: (piece ++ rest)) = none) (h : Inert mark piece) :
    Inert mark (c :: piece) := by
  intro part hpart hne rest
  rcases List.suffix_cons_iff.mp hpart with rfl | hpart
  · exact here rest
  · exact h part hpart hne rest

/-- Inert pieces make up inert pieces. -/
theorem Inert.append {mark s t : Text} (hs : Inert mark s) (ht : Inert mark t) :
    Inert mark (s ++ t) := by
  induction s with
  | nil => exact ht
  | cons c s ih =>
    show Inert mark (c :: (s ++ t))
    refine Inert.cons (fun rest => ?_) (ih hs.tail)
    rw [List.append_assoc]
    exact hs.head (t ++ rest)

/-- A piece without the first character of a mark is inert. -/
theorem inert_of_not_mem {c : Char} {mark piece : Text} (h : c ∉ piece) :
    Inert (c :: mark) piece := by
  intro part hpart hne rest
  cases part with
  | nil => exact absurd rfl hne
  | cons d part =>
    have hcd : c ≠ d := fun same => h (same ▸ hpart.subset (List.mem_cons_self ..))
    simp [after?, hcd]

/-- Whether two texts have different characters at a position that both of them have. -/
def clash : Text → Text → Bool
  | c :: s, d :: t => c != d || clash s t
  | _, _ => false

theorem after?_of_clash {mark piece : Text} (h : clash mark piece = true) (rest : Text) :
    after? mark (piece ++ rest) = none := by
  induction mark generalizing piece with
  | nil => simp [clash] at h
  | cons c mark ih =>
    cases piece with
    | nil => simp [clash] at h
    | cons d piece =>
      simp only [clash, Bool.or_eq_true, bne_iff_ne] at h
      by_cases hcd : c = d
      · simp only [List.cons_append, after?, hcd, if_true]
        exact ih (h.resolve_left (not_not_intro hcd))
      · simp [after?, hcd]

/-- A piece that begins like the mark is inert if it clashes with the mark and the first character of
the mark does not come up in it again. -/
theorem inert_of_clash {c : Char} {mark piece : Text} (h : clash mark piece = true)
    (hc : c ∉ piece) : Inert (c :: mark) (c :: piece) :=
  Inert.cons (fun rest => by simpa [after?] using after?_of_clash h rest) (inert_of_not_mem hc)

/-- Whether every end of a piece clashes with a mark. -/
def clashes (mark : Text) : Text → Bool
  | [] => true
  | c :: piece => clash mark (c :: piece) && clashes mark piece

/-- A piece is inert if each of its ends clashes with the mark. -/
theorem inert_of_clashes {mark piece : Text} (h : clashes mark piece = true) : Inert mark piece := by
  induction piece with
  | nil => exact inert_nil mark
  | cons c piece ih =>
    obtain ⟨here, later⟩ := (Bool.and_eq_true _ _).mp h
    exact Inert.cons (fun rest => after?_of_clash here rest) (ih later)

/-- What begins with the mark does not begin in an inert piece. -/
theorem Inert.suffix_of_suffix {mark piece behind rest : Text} (h : Inert mark piece)
    (ends : mark ++ behind <:+ piece ++ rest) : mark ++ behind <:+ rest := by
  rcases List.suffix_or_suffix_of_suffix ends (List.suffix_append piece rest) with inside | ⟨part, whole⟩
  · exact inside
  · rw [← whole] at ends ⊢
    cases part with
    | nil => exact List.suffix_rfl
    | cons c part =>
      have inside : c :: part <:+ piece := by
        obtain ⟨front, same⟩ := ends
        rw [← List.append_assoc] at same
        exact ⟨front, List.append_cancel_right same⟩
      have none := h _ inside (List.cons_ne_nil c part) rest
      rw [whole, after?_eq_some_iff.mpr rfl] at none
      cases none

/-! ## §2 Cutting -/

theorem cut?_append_of_inert {mark piece : Text} (h : Inert mark piece) (text : Text) :
    cut? mark (piece ++ text) = (cut? mark text).map fun (before, rest) => (piece ++ before, rest) := by
  induction piece with
  | nil => simp
  | cons c piece ih =>
    simp only [List.cons_append, cut?, h.head text, ih h.tail, Option.map_map]
    rfl

theorem after?_append_self (mark rest : Text) : after? mark (mark ++ rest) = some rest :=
  after?_eq_some_iff.mpr rfl

/-- The first occurrence of a separator is the one behind an inert piece. -/
theorem cut?_of_inert {separator piece : Text} (h : Inert separator piece) (rest : Text) :
    cut? separator (piece ++ (separator ++ rest)) = some (piece, rest) := by
  have first : cut? separator (separator ++ rest) = some ([], rest) := by
    have here := after?_append_self separator rest
    cases htext : separator ++ rest with
    | nil => rw [htext] at here; simp [cut?, here]
    | cons c text => rw [htext] at here; simp [cut?, here]
  rw [cut?_append_of_inert h, first]
  simp

/-- A separator that a text does not have is first found behind the text, if what stands there cannot go on with
it. -/
theorem cut?_append_cons {c d : Char} {mark text : Text} (stops : d ∉ mark)
    (absent : cut? (c :: mark) text = none) (rest : Text) :
    cut? (c :: mark) (text ++ d :: rest) =
      (cut? (c :: mark) (d :: rest)).map fun (before, behind) => (text ++ before, behind) := by
  induction text with
  | nil => simp
  | cons e text ih =>
    simp only [cut?] at absent
    split at absent
    case h_1 => cases absent
    case h_2 later =>
      have behind := ih (Option.map_eq_none_iff.mp absent)
      -- An occurrence that begins here would end in the text, or it would go on behind it.
      have here : after? (c :: mark) (e :: text ++ d :: rest) = none := by
        rw [Option.eq_none_iff_forall_not_mem]
        intro tail htail
        rcases List.append_eq_append_iff.mp (after?_eq_some_iff.mp htail) with
          ⟨short, whole, start⟩ | ⟨long, whole, -⟩
        · cases short with
          | nil =>
            rw [List.append_nil] at whole
            rw [← whole, after?_eq_some_iff.mpr (List.append_nil _).symm] at later
            cases later
          | cons other short =>
            have again : d = other := List.head_eq_of_cons_eq start
            have inner : mark = text ++ other :: short := List.tail_eq_of_cons_eq whole
            exact stops (inner ▸ again ▸ by simp)
        · rw [whole, after?_append_self] at later
          cases later
      rw [List.cons_append, cut?, ← List.cons_append, here, behind, Option.map_map]
      rfl

/-- A separator that a text does not have is first found behind the text, if it does not overlap itself. -/
theorem cut?_append_of_cut?_eq_none {c : Char} {mark text : Text} (single : c ∉ mark)
    (h : cut? (c :: mark) text = none) (rest : Text) :
    cut? (c :: mark) (text ++ (c :: mark ++ rest)) = some (text, rest) := by
  have first : cut? (c :: mark) (c :: mark ++ rest) = some ([], rest) := cut?_of_inert (inert_nil _) rest
  rw [List.cons_append, cut?_append_cons single h, ← List.cons_append, first]
  simp

/-- Where a text is cut does not depend on what stands behind the separator. -/
theorem cut?_of_cut? {separator text before rest : Text}
    (h : cut? separator text = some (before, rest)) (other : Text) :
    cut? separator (before ++ separator ++ other) = some (before, other) := by
  induction text generalizing before with
  | nil =>
    simp only [cut?, Option.map_eq_some_iff, Prod.mk.injEq] at h
    obtain ⟨r, -, rfl, rfl⟩ := h
    exact cut?_of_inert (inert_nil separator) other
  | cons c text ih =>
    simp only [cut?] at h
    split at h
    case h_1 =>
      simp only [Option.some.injEq, Prod.mk.injEq] at h
      obtain ⟨rfl, rfl⟩ := h
      exact cut?_of_inert (inert_nil separator) other
    case h_2 later =>
      simp only [Option.map_eq_some_iff, Prod.mk.injEq, Prod.exists] at h
      obtain ⟨before, r, found, rfl, rfl⟩ := h
      -- An earlier occurrence would end at the latest where the separator does.
      have here : after? separator (c :: (before ++ separator ++ other)) = none := by
        rw [Option.eq_none_iff_forall_not_mem]
        intro tail htail
        have start : separator <+: (c :: (before ++ separator)) ++ other :=
          ⟨tail, (after?_eq_some_iff.mp htail).symm⟩
        obtain ⟨short, hshort⟩ := List.prefix_of_prefix_length_le start (List.prefix_append _ other)
          (by simp; omega)
        have : after? separator (c :: text) = some (short ++ r) := by
          rw [after?_eq_some_iff, cut?_eq_some found, ← List.append_assoc, hshort]
          rfl
        rw [later] at this
        cases this
      have behind := ih found
      simp only [List.cons_append, cut?, here, behind]
      rfl

end DocSite.Text
