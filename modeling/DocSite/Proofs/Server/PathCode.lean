import DocSite.Proofs.Html.Reference
import DocSite.Server.Http
import Mathlib.Data.List.TakeWhile

/-!
# Percent code

In the path of a request, a byte may be written as `%` and two hexadecimal digits, and most characters have
to be. Decoding a path gives back the text that was encoded (`decodePath?_encodePath`), and an encoded path
goes through a request unchanged, since it has no character that ends a path.
-/

namespace DocSite.Server

/-! ## §1 Encoding -/

/-- The text with every character in percent code that is not to be kept. -/
def encodePath (keep : Char → Bool) (text : Text) : Text :=
  text.flatMap fun c => if keep c then [c] else (String.utf8EncodeChar c).flatMap Html.percentByte

/-- The characters that stand for themselves in every path: letters, digits, four marks and the slash. -/
def isPathChar (c : Char) : Bool := c.isAlphanum || "-._~/".toList.contains c

theorem hexDigit?_upperHexDigit {n : Nat} (h : n < 16) :
    Text.hexDigit? (Html.upperHexDigit n) = some n := by
  have all : ∀ n : Fin 16, Text.hexDigit? (Html.upperHexDigit n) = some n.val := by decide
  exact all ⟨n, h⟩

/-- The code of a byte stands for the byte. -/
theorem pathBytes_percentByte (byte : UInt8) (text : Text) :
    pathBytes (Html.percentByte byte ++ text) = byte :: pathBytes text := by
  have bound : byte.toNat < 256 := byte.toNat_lt
  -- The two digits are the halves of the byte.
  have high := hexDigit?_upperHexDigit (n := byte.toNat / 16) (by omega)
  have low := hexDigit?_upperHexDigit (n := byte.toNat % 16) (by omega)
  simp only [Html.percentByte, List.cons_append, List.nil_append, pathBytes, high, low]
  rw [Nat.div_add_mod, UInt8.ofNat_toNat]

theorem pathBytes_flatMap_percentByte (bytes : List UInt8) (text : Text) :
    pathBytes (bytes.flatMap Html.percentByte ++ text) = bytes ++ pathBytes text := by
  induction bytes with
  | nil => rfl
  | cons byte bytes ih =>
    rw [List.flatMap_cons, List.append_assoc, pathBytes_percentByte, ih, List.cons_append]

theorem pathBytes_cons_of_ne {c : Char} (h : c ≠ '%') (text : Text) :
    pathBytes (c :: text) = String.utf8EncodeChar c ++ pathBytes text := by
  rw [pathBytes]
  exact fun _ _ _ same _ => h same

/-- An encoded text stands for its bytes in UTF-8. -/
theorem pathBytes_encodePath {keep : Char → Bool} (h : keep '%' = false) (text : Text) :
    pathBytes (encodePath keep text) = text.flatMap String.utf8EncodeChar := by
  induction text with
  | nil => rfl
  | cons c text ih =>
    rw [encodePath, List.flatMap_cons, List.flatMap_cons]
    split
    case isTrue kept =>
      have ne : c ≠ '%' := by
        rintro rfl
        rw [h] at kept
        cases kept
      rw [List.singleton_append, pathBytes_cons_of_ne ne]
      exact congrArg _ ih
    case isFalse =>
      rw [pathBytes_flatMap_percentByte]
      exact congrArg _ ih

theorem encodePath_append (keep : Char → Bool) (s t : Text) :
    encodePath keep (s ++ t) = encodePath keep s ++ encodePath keep t :=
  List.flatMap_append

/-- What is kept stays as it is. -/
theorem encodePath_of_kept {keep : Char → Bool} {text : Text} (h : text.all keep = true) :
    encodePath keep text = text := by
  induction text with
  | nil => rfl
  | cons c text ih =>
    rw [List.all_cons, Bool.and_eq_true] at h
    rw [encodePath, List.flatMap_cons, if_pos h.1]
    exact congrArg (c :: ·) (ih h.2)

/-- The code of a text that is not empty is not empty. -/
theorem encodePath_ne_nil {keep : Char → Bool} {text : Text} (h : text ≠ []) :
    encodePath keep text ≠ [] := by
  obtain ⟨c, text, rfl⟩ := List.exists_cons_of_ne_nil h
  rw [encodePath, List.flatMap_cons]
  split
  · simp
  · have bytes := String.utf8EncodeChar_ne_nil (c := c)
    obtain ⟨byte, others, hbytes⟩ := List.exists_cons_of_ne_nil bytes
    simp [hbytes, Html.percentByte]

/-- **Decoding gives back what was encoded**, unless the percent sign itself is kept. -/
theorem decodePath?_encodePath {keep : Char → Bool} (h : keep '%' = false) (text : Text) :
    decodePath? (encodePath keep text) = some text := by
  rw [decodePath?, pathBytes_encodePath h, ← Text.toBytes_eq, Text.ofBytes?_toBytes]

/-! ## §2 Encoded paths in requests -/

/-- A mark that is no percent sign is in a code exactly if it is in the text and kept: the codes of bytes have no
other marks. -/
theorem mem_encodePath_iff {keep : Char → Bool} {text : Text} {d : Char} (percent : d ≠ '%')
    (mark : d.isAlphanum = false) : d ∈ encodePath keep text ↔ d ∈ text ∧ keep d = true := by
  rw [encodePath, List.mem_flatMap]
  constructor
  · rintro ⟨c, hc, mem⟩
    split at mem
    case isTrue kept =>
      obtain rfl := List.mem_singleton.mp mem
      exact ⟨hc, kept⟩
    case isFalse =>
      obtain ⟨byte, -, mem⟩ := List.mem_flatMap.mp mem
      rcases Html.eq_percent_or_isAlphanum mem with rfl | letter
      · exact absurd rfl percent
      · rw [mark] at letter
        cases letter
  · rintro ⟨hd, kept⟩
    exact ⟨d, hd, by rw [if_pos kept]; exact List.mem_singleton_self d⟩

/-- A path without `#` and `?` is the path of its request. -/
theorem Target.path_ofText {text : Text} (slash : text.head? = some '/') (number : '#' ∉ text)
    (question : '?' ∉ text) : (Target.ofText text).path = text := by
  have whole (c : Char) (h : c ∉ text) : text.takeWhile (· ≠ c) = text :=
    List.takeWhile_eq_self_iff.mpr fun d hd => by simpa using fun same : d = c => h (same ▸ hd)
  cases text with
  | nil => cases slash
  | cons c rest =>
    obtain rfl : c = '/' := by simpa using slash
    have starts : Text.startsWith ('/' :: rest) ['/'] = true := by
      simp [Text.startsWith, Text.after?]
    rw [ofText, whole '#' number, if_pos (by simp [starts]), ofPath, whole '?' question]
    simp

/-! ## §3 Ways to write paths -/

/-- The characters that can stand in a path: those of ASCII that are visible, except where they end a path, begin
a code or have to be told apart from the text around the path. -/
def pathHolds (c : Char) : Bool :=
  '!' ≤ c && c ≤ '~' && !"\"#%<>?\x60\x7b\x7d".toList.contains c

/-- A choice of the characters that are kept in a path: at least those that stand for themselves in every path,
and only some that can stand in a path. -/
structure IsPathCode (keep : Char → Bool) : Prop where
  plain : ∀ c, isPathChar c = true → keep c = true
  held : ∀ c, keep c = true → pathHolds c = true

theorem toNat_lt_of_isPathChar {c : Char} (h : isPathChar c = true) : c.toNat < 128 := by
  delta isPathChar Char.isAlphanum Char.isAlpha Char.isUpper Char.isLower Char.isDigit at h
  simp only [Bool.or_eq_true, List.contains_iff_mem, Bool.and_eq_true, decide_eq_true_eq, ge_iff_le,
    UInt32.le_iff_toNat_le] at h
  rcases h with ((upper | lower) | digit) | mark
  · exact Nat.lt_of_le_of_lt upper.2 (by decide)
  · exact Nat.lt_of_le_of_lt lower.2 (by decide)
  · exact Nat.lt_of_le_of_lt digit.2 (by decide)
  · have small : "-._~/".toList.all (·.toNat < 128) = true := by decide
    simpa using List.all_eq_true.mp small c mark

namespace IsPathCode

/-- Everything that need not stand for itself may be written in percent code. -/
protected theorem isPathChar : IsPathCode isPathChar where
  plain _ h := h
  held c h := by
    -- These characters are in ASCII, which can be gone through.
    have all : ∀ n : Fin 128, isPathChar (Char.ofNat n) = true → pathHolds (Char.ofNat n) = true := by
      decide
    have here := all ⟨c.toNat, toNat_lt_of_isPathChar h⟩
    rw [Char.ofNat_toNat] at here
    exact here h

variable {keep : Char → Bool}

theorem eq_false (code : IsPathCode keep) {c : Char} (h : pathHolds c = false) : keep c = false := by
  cases kept : keep c with
  | false => rfl
  | true => exact absurd (code.held c kept) (by rw [h]; exact Bool.false_ne_true)

/-- A mark that cannot stand in a path is in no code. -/
theorem notMem (code : IsPathCode keep) {text : Text} {d : Char} (h : pathHolds d = false)
    (percent : d ≠ '%') (mark : d.isAlphanum = false) : d ∉ encodePath keep text := by
  intro mem
  have kept := ((mem_encodePath_iff percent mark).mp mem).2
  rw [code.eq_false h] at kept
  cases kept

/-- Slashes are kept. -/
theorem slash_mem_iff (code : IsPathCode keep) {text : Text} :
    '/' ∈ encodePath keep text ↔ '/' ∈ text := by
  rw [mem_encodePath_iff (by decide) (by decide)]
  exact and_iff_left (code.plain '/' (by decide))

theorem all_of_plain (code : IsPathCode keep) {text : Text}
    (plain : text.all Server.isPathChar = true) : text.all keep = true :=
  List.all_eq_true.mpr fun c hc => code.plain c (List.all_eq_true.mp plain c hc)

/-- A root whose characters are plain stays in front of what is encoded. -/
theorem encodePath_under (code : IsPathCode keep) {root : Text}
    (plain : root.all Server.isPathChar = true) (text : Text) :
    encodePath keep (root ++ '/' :: text) = root ++ '/' :: encodePath keep text := by
  have slash : encodePath keep ('/' :: text) = '/' :: encodePath keep text := by
    rw [encodePath, List.flatMap_cons, if_pos (code.plain '/' (by decide))]
    rfl
  rw [encodePath_append, slash, encodePath_of_kept (code.all_of_plain plain)]

/-- A path in percent code is the path of its request. -/
theorem path_ofText (code : IsPathCode keep) {text : Text} (slash : text.head? = some '/') :
    (Target.ofText (encodePath keep text)).path = encodePath keep text := by
  refine Target.path_ofText ?_ ?_ ?_
  · obtain ⟨rest, rfl⟩ := List.head?_eq_some_iff.mp slash
    rw [encodePath, List.flatMap_cons, if_pos (code.plain '/' (by decide))]
    rfl
  · exact code.notMem (by decide) (by decide) (by decide)
  · exact code.notMem (by decide) (by decide) (by decide)

end IsPathCode

end DocSite.Server
