import DocSite.Text.Basic

/-!
# Blank characters

The characters with the Unicode property `White_Space`, and trimming a text by them.
-/

namespace DocSite.Text

/-- The characters with the Unicode property `White_Space`. -/
def isBlank (c : Char) : Bool :=
  let n := c.toNat
  (9 ≤ n && n ≤ 13) || n == 0x20 || n == 0x85 || n == 0xA0 || n == 0x1680 ||
    (0x2000 ≤ n && n ≤ 0x200A) || n == 0x2028 || n == 0x2029 || n == 0x202F || n == 0x205F ||
    n == 0x3000

/-- The text from its first character that is not blank. -/
def trimStart (text : Text) : Text := text.dropWhile isBlank

/-- The text up to its last character that is not blank. -/
def trimEnd (text : Text) : Text := dropEndWhile isBlank text

/-- The text without blank characters at either end. -/
def trim (text : Text) : Text := trimEnd (trimStart text)

theorem trimEnd_sublist (text : Text) : (trimEnd text).Sublist text := by
  have mirrored := List.dropWhile_sublist (l := text.reverse) isBlank
  simpa [trimEnd, dropEndWhile] using mirrored.reverse

/-- Trimming leaves characters out and adds none. -/
theorem trim_sublist (text : Text) : (trim text).Sublist text :=
  (trimEnd_sublist (trimStart text)).trans (List.dropWhile_sublist isBlank)

end DocSite.Text
