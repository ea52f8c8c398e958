/-!
# Text

A text is a list of characters. This module holds the operations that every reader and writer
of the library shares: taking a known opening off a text, cutting a text at the first occurrence
of a separator, splitting it at every occurrence, cutting it into lines, and joining pieces.

The main statements say that cutting loses nothing (`cut?_eq_some`) and always leaves less text
(`length_of_cut?`), which is what bounds the loops built on it.
-/

namespace DocSite

/-- A text is a list of characters. -/
abbrev Text := List Char

/-- A quoted string stands for the list of its characters. -/
instance : Coe String Text := ⟨String.toList⟩

namespace Text

/-! ## §1 Known openings -/

/-- What follows `opening` at the start of a text; `none` if the text starts differently. -/
def after? : (opening text : Text) → Option Text
  | [], text => some text
  | _ :: _, [] => none
  | c :: opening, d :: text => if c = d then after? opening text else none

/-- A text has something after an opening exactly if it is the opening followed by it. -/
theorem after?_eq_some_iff {opening text rest : Text} :
    after? opening text = some rest ↔ text = opening ++ rest := by
  induction opening generalizing text with
  | nil => simp [after?, eq_comm]
  | cons c opening ih =>
    cases text with
    | nil => simp [after?]
    | cons d text =>
      by_cases h : c = d
      · simp [after?, h, ih]
      · simp [after?, h, Ne.symm h]

/-- Whether a text begins with `opening`. -/
def startsWith (text opening : Text) : Bool := (after? opening text).isSome

/-- Whether a text ends with `ending`. -/
def endsWith (text ending : Text) : Bool := startsWith text.reverse ending.reverse

/-! ## §2 Cutting at a separator -/

/-- The text before and the text after the first occurrence of `separator`. -/
def cut? (separator : Text) : (text : Text) → Option (Text × Text)
  | [] => (after? separator []).map fun rest => ([], rest)
  | c :: text =>
    match after? separator (c :: text) with
    | some rest => some ([], rest)
    | none => (cut? separator text).map fun (before, rest) => (c :: before, rest)

/-- A cut loses nothing but the separator. -/
theorem cut?_eq_some {separator text before rest : Text}
    (h : cut? separator text = some (before, rest)) : text = before ++ separator ++ rest := by
  induction text generalizing before with
  | nil =>
    simp only [cut?, Option.map_eq_some_iff, Prod.mk.injEq] at h
    obtain ⟨r, hr, rfl, rfl⟩ := h
    simpa using after?_eq_some_iff.1 hr
  | cons c text ih =>
    simp only [cut?] at h
    split at h
    · rename_i r hr
      simp only [Option.some.injEq, Prod.mk.injEq] at h
      obtain ⟨rfl, rfl⟩ := h
      simpa using after?_eq_some_iff.1 hr
    · simp only [Option.map_eq_some_iff, Prod.mk.injEq, Prod.exists] at h
      obtain ⟨b, r, hb, rfl, rfl⟩ := h
      simp [ih hb]

/-- The pieces of a cut are shorter than the text by the length of the separator. -/
theorem length_of_cut? {separator text before rest : Text}
    (h : cut? separator text = some (before, rest)) :
    text.length = before.length + separator.length + rest.length := by
  have := congrArg List.length (cut?_eq_some h)
  simp at this
  omega

/-- The pieces between the occurrences of a separator, found from left to right without overlap.
The pieces of a text without the separator, and of any text at the empty separator, are the text
alone. -/
def splitOn (separator : Text) (text : Text) : List Text :=
  match _h : cut? separator text with
  | none => [text]
  | some (before, rest) =>
    if separator.length = 0 then [text] else before :: splitOn separator rest
termination_by text.length
decreasing_by have := length_of_cut? _h; omega

/-- No separator of one character stands before the place of a cut. -/
theorem notMem_of_cut? {c : Char} {text before rest : Text} (h : cut? [c] text = some (before, rest)) :
    c ∉ before := by
  induction text generalizing before with
  | nil => simp [cut?, after?] at h
  | cons d text ih =>
    by_cases hcd : c = d
    · simp only [cut?, after?, if_pos hcd, Option.some.injEq, Prod.mk.injEq] at h
      simp [← h.1]
    · simp only [cut?, after?, if_neg hcd, Option.map_eq_some_iff, Prod.mk.injEq,
        Prod.exists] at h
      obtain ⟨b, r, hb, rfl, rfl⟩ := h
      simp [hcd, ih hb]

/-- A text that cannot be cut at a character does not hold it. -/
theorem notMem_of_cut?_eq_none {c : Char} {text : Text} (h : cut? [c] text = none) : c ∉ text := by
  induction text with
  | nil => simp
  | cons d text ih =>
    by_cases hcd : c = d
    · simp [cut?, after?, hcd] at h
    · simp only [cut?, after?, if_neg hcd, Option.map_eq_none_iff] at h
      simp [hcd, ih h]

/-- No piece of a text that is split at a character holds that character. -/
theorem notMem_of_mem_splitOn {c : Char} {text piece : Text} (h : piece ∈ splitOn [c] text) :
    c ∉ piece := by
  induction text using splitOn.induct [c] with
  | case1 text whole =>
    rw [splitOn] at h
    split at h
    case h_1 => exact List.mem_singleton.mp h ▸ notMem_of_cut?_eq_none whole
    case h_2 found => cases whole.symm.trans found
  | case2 text before rest found empty => simp at empty
  | case3 text before rest found _ ih =>
    rw [splitOn] at h
    split at h
    case h_1 whole => cases found.symm.trans whole
    case h_2 b r again =>
      cases found.symm.trans again
      simp only [List.length_singleton, Nat.one_ne_zero, if_false, List.mem_cons] at h
      rcases h with rfl | h
      · exact notMem_of_cut? found
      · exact ih h

/-- The pieces of a text have no characters but those of the text. -/
theorem mem_of_mem_splitOn {separator text piece : Text} {d : Char}
    (h : piece ∈ splitOn separator text) (hd : d ∈ piece) : d ∈ text := by
  induction text using splitOn.induct separator with
  | case1 text whole =>
    rw [splitOn] at h
    split at h
    case h_1 => exact List.mem_singleton.mp h ▸ hd
    case h_2 found => cases whole.symm.trans found
  | case2 text before rest found empty =>
    rw [splitOn] at h
    split at h
    case h_1 whole => cases found.symm.trans whole
    case h_2 =>
      rw [if_pos empty] at h
      exact List.mem_singleton.mp h ▸ hd
  | case3 text before rest found some ih =>
    rw [splitOn] at h
    split at h
    case h_1 whole => cases found.symm.trans whole
    case h_2 b r again =>
      cases found.symm.trans again
      rw [if_neg some] at h
      rw [cut?_eq_some found]
      rcases List.mem_cons.mp h with rfl | h
      · exact List.mem_append_left _ (List.mem_append_left _ hd)
      · exact List.mem_append_right _ (ih h)

/-- The pieces one after the other, with `separator` between neighbours. -/
def join (separator : Text) : List Text → Text
  | [] => []
  | [piece] => piece
  | piece :: pieces => piece ++ separator ++ join separator pieces

/-! ## §3 Lines -/

/-- The lines of a text, each with the line feed that ends it; the last one may have none. No line
is empty. -/
def fullLines : Text → List Text
  | [] => []
  | c :: text =>
    if c = '\n' then ['\n'] :: fullLines text
    else
      match fullLines text with
      | [] => [[c]]
      | line :: lines => (c :: line) :: lines

/-- A line without its line feed and without one carriage return before that line feed. -/
def lineBody (line : Text) : Text :=
  match line.reverse with
  | '\n' :: '\r' :: body => body.reverse
  | '\n' :: body => body.reverse
  | _ => line

/-- The lines of a text without the line breaks that end them. -/
def lines (text : Text) : List Text := (fullLines text).map lineBody

/-- The lines of a text, put together again, are the text. -/
theorem flatten_fullLines (text : Text) : (fullLines text).flatten = text := by
  induction text with
  | nil => rfl
  | cons c text ih =>
    simp only [fullLines]
    split
    · rename_i h; simp [h, ih]
    · split
      · rename_i h; rw [h] at ih; simp [← ih]
      · rename_i h; rw [h] at ih; simp [← ih]

/-! ## §4 Ends and sizes -/

/-- The text without the characters at its end that satisfy `p`. -/
def dropEndWhile (p : Char → Bool) (text : Text) : Text := (text.reverse.dropWhile p).reverse

/-- The number of bytes of the text in UTF-8. -/
def utf8Length : Text → Nat
  | [] => 0
  | c :: text => c.utf8Size + utf8Length text

@[simp]
theorem utf8Length_nil : utf8Length [] = 0 := rfl

@[simp]
theorem utf8Length_cons (c : Char) (text : Text) :
    utf8Length (c :: text) = c.utf8Size + utf8Length text := rfl

@[simp]
theorem utf8Length_append (s t : Text) : utf8Length (s ++ t) = utf8Length s + utf8Length t := by
  induction s with
  | nil => simp
  | cons c s ih =>
    rw [List.cons_append, utf8Length_cons, utf8Length_cons, ih]
    omega

/-- Leaving characters out makes no text longer. -/
theorem utf8Length_le_of_sublist {s t : Text} (h : s.Sublist t) : utf8Length s ≤ utf8Length t := by
  induction h with
  | slnil => exact Nat.le_refl _
  | cons c _ ih => rw [utf8Length_cons]; omega
  | cons_cons c _ ih => rw [utf8Length_cons, utf8Length_cons]; omega

/-- Joined pieces take no more room than the pieces with a separator behind each. -/
theorem utf8Length_join_le (separator : Text) (pieces : List Text) :
    utf8Length (join separator pieces) ≤
      utf8Length (pieces.flatMap fun piece => piece ++ separator) := by
  fun_induction join separator pieces with
  | case1 => simp
  | case2 piece => simp
  | case3 piece pieces _ ih =>
    simp only [List.flatMap_cons, utf8Length_append]
    omega

/-- Whether `needle` occurs somewhere in the text. -/
def includes (text needle : Text) : Bool := (cut? needle text).isSome

/-- The decimal digits of a number. -/
def ofNat (n : Nat) : Text := Nat.toDigits 10 n

/-- Order by Unicode code point, which is also the order of the UTF-8 bytes. -/
def lessEq : Text → Text → Bool
  | [], _ => true
  | _ :: _, [] => false
  | c :: s, d :: t => if c = d then lessEq s t else c < d

end Text

end DocSite
