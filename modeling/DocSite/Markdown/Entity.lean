import DocSite.Markdown.EntityTable
import DocSite.Text.Punctuation

/-!
# Character references and escapes

A character may be written by name or by number between `&` and `;`, and a punctuation mark with a
backslash before it.
-/

namespace DocSite.Markdown

/-- Blank characters of ASCII that do not end a line. -/
def isSpace (c : Char) : Bool := c = ' ' || c = '\t' || c = '\x0b' || c = '\x0c'

/-- Blank space that indents a line. -/
def isIndent (c : Char) : Bool := c = ' ' || c = '\t'

/-- Blank characters of ASCII. -/
def isSpaceOrBreak (c : Char) : Bool := isSpace c || c = '\n' || c = '\r'

/-- The character with a code point; the replacement character stands for zero and for what is no code
point of a character. -/
def charOfPoint (n : Nat) : Char := if n = 0 ∨ ¬ n.isValidChar then '\ufffd' else Char.ofNat n

/-- A number written with at most `limit` digits of a base and a semicolon, and what follows. -/
def numberedChar? (base limit : Nat) (isBaseDigit : Char → Bool) (text : Text) :
    Option (Text × Text) :=
  let digits := text.takeWhile isBaseDigit
  if digits.isEmpty || limit < digits.length then none
  else
    match text.dropWhile isBaseDigit with
    | ';' :: rest =>
      some ([charOfPoint (Text.ofDigits base digits)], rest)
    | _ => none

/-- The characters of the reference whose `&` has just been read, and the text behind it. -/
def reference? (text : Text) : Option (Text × Text) :=
  match text with
  | '#' :: 'x' :: rest | '#' :: 'X' :: rest => numberedChar? 16 6 Text.isHexDigit rest
  | '#' :: rest => numberedChar? 10 7 Char.isDigit rest
  | _ =>
    match text.dropWhile Char.isAlphanum with
    | ';' :: rest => (entity? (text.takeWhile Char.isAlphanum)).map fun value => (value, rest)
    | _ => none

/-- The text with escapes and character references resolved and without carriage returns; `fuel` is at least
the length of the text. Inside a table, a bar may have two backslashes before it. -/
def unescapeWith (inTable : Bool) : (fuel : Nat) → Text → Text
  | 0, text => text
  | _, [] => []
  | fuel + 1, '\\' :: '\\' :: '|' :: text =>
    if inTable then '|' :: unescapeWith inTable fuel text
    else '\\' :: unescapeWith inTable fuel ('|' :: text)
  | fuel + 1, '\\' :: c :: text =>
    if Text.isAsciiPunctuation c then c :: unescapeWith inTable fuel text
    else '\\' :: unescapeWith inTable fuel (c :: text)
  | fuel + 1, '&' :: text =>
    match reference? text with
    | some (value, rest) => value ++ unescapeWith inTable fuel rest
    | none => '&' :: unescapeWith inTable fuel text
  | fuel + 1, '\r' :: text => unescapeWith inTable fuel text
  | fuel + 1, c :: text => c :: unescapeWith inTable fuel text

/-- The text with escapes and character references resolved. -/
def unescape (inTable : Bool) (text : Text) : Text := unescapeWith inTable text.length text

end DocSite.Markdown
