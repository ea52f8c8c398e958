import DocSite.Text.Blank
import Mathlib.Data.List.DropRight

/-!
# Trimming a text that is put together

Trimming two texts one after the other touches the second one only where the first one is blank, and the
first one only where the second one is. A *solid* text is not touched at all, whatever blank text stands
around it.
-/

namespace DocSite.Text

/-! ## §1 Two texts -/

theorem trimStart_append_of_blank {s : Text} (h : s.all isBlank = true) (t : Text) :
    trimStart (s ++ t) = trimStart t :=
  List.dropWhile_append_of_pos (List.all_eq_true.mp h)

theorem trimStart_append_of_not_blank {s : Text} (h : s.all isBlank = false) (t : Text) :
    trimStart (s ++ t) = trimStart s ++ t := by
  unfold trimStart
  rw [List.dropWhile_append, if_neg]
  intro gone
  have blank := List.dropWhile_eq_nil_iff.mp (List.isEmpty_iff.mp gone)
  rw [List.all_eq_true.mpr blank] at h
  cases h

theorem trimEnd_append_of_blank {t : Text} (h : t.all isBlank = true) (s : Text) :
    trimEnd (s ++ t) = trimEnd s := by
  have mirrored := trimStart_append_of_blank (s := t.reverse) (by simpa using h) s.reverse
  simpa [trimEnd, dropEndWhile, trimStart] using mirrored

theorem trimEnd_append_of_not_blank {t : Text} (h : t.all isBlank = false) (s : Text) :
    trimEnd (s ++ t) = s ++ trimEnd t := by
  have mirrored := trimStart_append_of_not_blank (s := t.reverse)
    (by rw [List.all_reverse]; exact h) s.reverse
  have both := congrArg List.reverse mirrored
  simpa [trimEnd, dropEndWhile, trimStart] using both

theorem trimEnd_eq_nil_of_blank {text : Text} (h : text.all isBlank = true) : trimEnd text = [] :=
  trimEnd_append_of_blank h []

theorem trimEnd_trimEnd (text : Text) : trimEnd (trimEnd text) = trimEnd text := by
  simp [trimEnd, dropEndWhile, List.dropWhile_idempotent]

/-- Trimming leaves something of a text that is not all blank. -/
theorem trim_not_blank {text : Text} (h : text.all isBlank = false) :
    (trim text).all isBlank = false := by
  -- What is taken away at an end is blank, so that a blank rest makes the whole text blank.
  have start : (trimStart text).all isBlank = false := by
    rw [← List.takeWhile_append_dropWhile (p := isBlank) (l := text), List.all_append,
      List.all_takeWhile, Bool.true_and] at h
    exact h
  have whole := List.takeWhile_append_dropWhile (p := isBlank) (l := (trimStart text).reverse)
  rw [← List.all_reverse, ← whole, List.all_append, List.all_takeWhile, Bool.true_and] at start
  simpa [trim, trimEnd, dropEndWhile] using start

/-! ## §2 Solid texts -/

/-- A text that neither begins nor ends with a blank character, and is not empty. -/
structure Solid (text : Text) : Prop where
  not_blank : text.all isBlank = false
  start : trimStart text = text
  stop : trimEnd text = text

theorem Solid.trimStart_append {s : Text} (h : Solid s) (t : Text) : trimStart (s ++ t) = s ++ t := by
  rw [trimStart_append_of_not_blank h.not_blank, h.start]

theorem Solid.trimEnd_append {s : Text} (h : Solid s) (t : Text) :
    trimEnd (s ++ t) = s ++ trimEnd t := by
  cases blank : t.all isBlank with
  | false => exact trimEnd_append_of_not_blank blank s
  | true => rw [trimEnd_append_of_blank blank, h.stop, trimEnd_eq_nil_of_blank blank, List.append_nil]

/-- A text is solid if it begins with a character that is not blank and its end is trimmed and not
blank. -/
theorem Solid.of_cons {c : Char} {s t : Text} (hc : isBlank c = false)
    (ht : t.all isBlank = false) (stop : trimEnd t = t) : Solid (c :: (s ++ t)) where
  not_blank := by simp [hc]
  start := by simp [trimStart, hc]
  stop := by
    have := trimEnd_append_of_not_blank ht (c :: s)
    rwa [stop] at this

end DocSite.Text
