import DocSite.Decimal.Binary64
import DocSite.Text.Digit
import DocSite.Toml.Basic

/-!
# TOML scalars

Strings in their four spellings, numbers, dates and times, and the blank space and comments around
them. A reader gives the value and the text behind it.
-/

namespace DocSite.Toml

-- The powers of numbers are those of the core library, whatever else is imported.
attribute [local instance (high)] instPowNat

/-! ## §1 Blank space and comments -/

/-- Blank characters inside a line. -/
def isSpace (c : Char) : Bool := c = ' ' || c = '\t'

/-- Characters that may stand in a comment: all but control characters. -/
def isCommentChar (c : Char) : Bool := c = '\t' || (0x20 ≤ c.toNat && c.toNat ≠ 0x7f)

/-- The text behind blank space. -/
def skipSpace (text : Text) : Text := text.dropWhile isSpace

/-- The text behind a line break. -/
def afterBreak? (text : Text) : Option Text :=
  match text with
  | '\n' :: rest => some rest
  | '\r' :: '\n' :: rest => some rest
  | _ => none

/-- The text behind a comment, or the text if it begins with none. -/
def skipComment (text : Text) : Text :=
  match text with
  | '#' :: rest => rest.dropWhile isCommentChar
  | _ => text

/-- The text behind blank space, a comment and the end of the line. -/
def afterLine? (text : Text) : Option Text :=
  match skipComment (skipSpace text) with
  | [] => some []
  | rest => afterBreak? rest

/-- The text behind blank space, line breaks and comments that end with a line break; `fuel` is at
least the length of the text. -/
def skipLines : (fuel : Nat) → Text → Text
  | 0, text => text
  | fuel + 1, text =>
    let rest := skipSpace text
    match afterBreak? (skipComment rest) with
    | some behind => skipLines fuel behind
    | none => rest

/-! ## §2 Strings -/

/-- The character with a code point of Unicode. -/
def charOfPoint? (point : Nat) : Option Char :=
  if point.isValidChar then some (Char.ofNat point) else none

/-- The character of an escape whose backslash has just been read, and the text behind it. -/
def escape? (text : Text) : Option (Char × Text) :=
  let point (count : Nat) (rest : Text) : Option (Char × Text) :=
    let digits := rest.take count
    if digits.length = count && digits.all Text.isHexDigit then
      (charOfPoint? (Text.ofDigits 16 digits)).map fun c => (c, rest.drop count)
    else none
  match text with
  | 'b' :: rest => some ('\x08', rest)
  | 't' :: rest => some ('\t', rest)
  | 'n' :: rest => some ('\n', rest)
  | 'f' :: rest => some ('\x0c', rest)
  | 'r' :: rest => some ('\r', rest)
  | '"' :: rest => some ('"', rest)
  | '\\' :: rest => some ('\\', rest)
  | 'u' :: rest => point 4 rest
  | 'U' :: rest => point 8 rest
  | _ => none

/-- The text behind blank lines and the blank space after them; `fuel` is at least the length of the
text. -/
def skipBlankLines : (fuel : Nat) → Text → Text
  | 0, text => text
  | fuel + 1, text =>
    let rest := skipSpace text
    match afterBreak? rest with
    | some behind => skipBlankLines fuel behind
    | none => rest

/-- The text behind the line break and the blank space that a backslash at the end of a line takes
away. -/
def afterEscapedBreak? (text : Text) : Option Text :=
  (afterBreak? (skipSpace text)).map fun rest => skipBlankLines rest.length rest

/-- The characters of a string on one line up to its closing quote, and the text behind that; `fuel` is
at least the length of the text. Only between double quotes there are escapes. -/
def lineString? (quote : Char) : (fuel : Nat) → Text → Option (Text × Text)
  | 0, _ => none
  | _, [] => none
  | fuel + 1, c :: text =>
    if c = quote then some ([], text)
    else if c = '\\' ∧ quote = '"' then do
      let (found, rest) ← escape? text
      let (others, rest) ← lineString? quote fuel rest
      return (found :: others, rest)
    else if isCommentChar c then
      (lineString? quote fuel text).map fun (others, rest) => (c :: others, rest)
    else none

/-- The characters of a string on several lines up to its three closing quotes, and the text behind
those; `fuel` is at least the length of the text. Up to two more quotes may stand before the closing
ones. -/
def linesString? (quote : Char) : (fuel : Nat) → Text → Option (Text × Text)
  | 0, _ => none
  | _, [] => none
  | fuel + 1, c :: text =>
    if c = quote then
      let run := min 5 (1 + (text.takeWhile (· = quote)).length)
      if run < 3 then
        (linesString? quote fuel text).map fun (others, rest) => (c :: others, rest)
      else some (List.replicate (run - 3) quote, text.drop (run - 1))
    else if c = '\\' ∧ quote = '"' then
      match afterEscapedBreak? text with
      | some rest => linesString? quote fuel rest
      | none => do
        let (found, rest) ← escape? text
        let (others, rest) ← linesString? quote fuel rest
        return (found :: others, rest)
    else
      match afterBreak? (c :: text) with
      | some rest =>
        (linesString? quote fuel rest).map fun (others, rest) => ('\n' :: others, rest)
      | none =>
        if isCommentChar c then
          (linesString? quote fuel text).map fun (others, rest) => (c :: others, rest)
        else none

/-- A string on one line. -/
def quoted? (text : Text) : Option (Text × Text) :=
  match text with
  | '"' :: rest => lineString? '"' rest.length rest
  | '\x27' :: rest => lineString? '\x27' rest.length rest
  | _ => none

/-- A string in any spelling. A line break behind three opening quotes does not belong to it. -/
def anyString? (text : Text) : Option (Text × Text) :=
  let body (quote : Char) (rest : Text) : Option (Text × Text) :=
    let rest := (afterBreak? rest).getD rest
    linesString? quote rest.length rest
  match text with
  | '"' :: '"' :: '"' :: rest => body '"' rest
  | '\x27' :: '\x27' :: '\x27' :: rest => body '\x27' rest
  | _ => quoted? text

/-! ## §3 Dates and times -/

/-- A number of exactly `count` digits in a range. -/
def digitsIn? (count low high : Nat) (text : Text) : Option (Nat × Text) :=
  let digits := text.take count
  let value := Text.ofDigits 10 digits
  if digits.length = count && digits.all Char.isDigit && low ≤ value && value ≤ high then
    some (value, text.drop count)
  else none

/-- The number of days in a month. -/
def daysIn (year month : Nat) : Nat :=
  if month = 2 then
    if year % 4 = 0 ∧ (year % 100 ≠ 0 ∨ year % 400 = 0) then 29 else 28
  else if month = 4 ∨ month = 6 ∨ month = 9 ∨ month = 11 then 30
  else 31

/-- The text behind a date. -/
def afterDate? (text : Text) : Option Text := do
  let (year, rest) ← digitsIn? 4 0 9999 text
  let (month, rest) ← digitsIn? 2 1 12 (← Text.after? ['-'] rest)
  let (_, rest) ← digitsIn? 2 1 (daysIn year month) (← Text.after? ['-'] rest)
  return rest

/-- The text behind a time of day. A fraction of the second has at least one digit. -/
def afterTime? (text : Text) : Option Text := do
  let (_, rest) ← digitsIn? 2 0 23 text
  let (_, rest) ← digitsIn? 2 0 59 (← Text.after? [':'] rest)
  let (_, rest) ← digitsIn? 2 0 60 (← Text.after? [':'] rest)
  match rest with
  | '.' :: c :: behind => return if c.isDigit then behind.dropWhile Char.isDigit else rest
  | _ => return rest

/-- The text behind the offset of a time from universal time; `none` if it is misspelt. -/
def afterOffset? (text : Text) : Option Text :=
  match text with
  | 'Z' :: rest => some rest
  | 'z' :: rest => some rest
  | c :: rest =>
    if c = '+' ∨ c = '-' then do
      let (_, rest) ← digitsIn? 2 0 23 rest
      let (_, rest) ← digitsIn? 2 0 59 (← Text.after? [':'] rest)
      return rest
    else some text
  | [] => some []

/-- The text behind a date, a time or both. -/
def afterMoment? (text : Text) : Option Text :=
  match afterDate? text with
  | some rest =>
    match rest with
    | c :: time =>
      if c = 'T' ∨ c = 't' ∨ (c = ' ' ∧ (digitsIn? 2 0 23 time).isSome) then
        (afterTime? time).bind afterOffset?
      else some rest
    | [] => some rest
  | none => afterTime? text

/-! ## §4 Numbers -/

/-- The text behind further digits, each with an underscore before it or none. -/
def afterMoreDigits? (isBaseDigit : Char → Bool) : Text → Option Text
  | '_' :: c :: text => if isBaseDigit c then afterMoreDigits? isBaseDigit text else none
  | c :: text => if isBaseDigit c then afterMoreDigits? isBaseDigit text else some (c :: text)
  | [] => some []

/-- The text behind digits with single underscores between them. -/
def afterDigits? (isBaseDigit : Char → Bool) (text : Text) : Option Text :=
  match text with
  | c :: rest => if isBaseDigit c then afterMoreDigits? isBaseDigit rest else none
  | [] => none

/-- The text behind a decimal whole number with an optional sign and no leading zeros. -/
def afterWhole? (text : Text) : Option Text :=
  let unsigned :=
    match text with
    | c :: rest => if c = '+' ∨ c = '-' then rest else text
    | [] => []
  match unsigned with
  | '0' :: rest => some rest
  | _ => afterDigits? Char.isDigit unsigned

/-- The text behind an exponent whose letter has just been read. -/
def afterExponent? (text : Text) : Option Text :=
  match text with
  | c :: rest => if c = '+' ∨ c = '-' then afterDigits? Char.isDigit rest
    else afterDigits? Char.isDigit text
  | [] => none

/-- The text behind a number with a fraction or an exponent; the outer `none` says that there is
neither, the inner one that they are misspelt. -/
def afterFloat? (text : Text) : Option (Option Text) :=
  match afterWhole? text with
  | some ('.' :: rest) =>
    some (match afterDigits? Char.isDigit rest with
      | some (c :: behind) => if c = 'e' ∨ c = 'E' then afterExponent? behind else some (c :: behind)
      | other => other)
  | some (c :: rest) => if c = 'e' ∨ c = 'E' then some (afterExponent? rest) else none
  | _ => none

/-- Whether a number with a fraction or an exponent is larger than every floating-point number. -/
def overflows (spelling : Text) : Bool :=
  let plain := spelling.filter fun c => c ≠ '_' ∧ c ≠ '+'
  let mantissa := plain.takeWhile fun c => c ≠ 'e' && c ≠ 'E'
  let exponent := (plain.dropWhile fun c => c ≠ 'e' && c ≠ 'E').tail
  let whole := mantissa.takeWhile (· ≠ '.')
  let fraction := (mantissa.dropWhile (· ≠ '.')).tail
  let digits := (whole ++ fraction).dropWhile (· = '0')
  let power : Int :=
    (match exponent with
    | '-' :: e => -(Text.ofDigits 10 e : Int)
    | e => (Text.ofDigits 10 e : Int)) - fraction.length
  if plain.head? = some '-' || digits.isEmpty then false
  else if power + digits.length < 300 then false
  else if 400 < power + digits.length then true
  else
    let value := Text.ofDigits 10 digits
    (if power < 0 then Decimal.Binary64.ofRatio? false value (10 ^ (-power).toNat)
      else Decimal.Binary64.ofRatio? false (value * 10 ^ power.toNat) 1).isNone

/-- An integer within 64 bits. -/
def integerOf? (negative : Bool) (magnitude : Nat) : Option Toml :=
  if magnitude < 2 ^ (63 : Nat) then some (.integer (if negative then -(magnitude : Int) else magnitude))
  else if negative && magnitude = 2 ^ (63 : Nat) then some (.integer (-(magnitude : Int)))
  else none

/-- An integer in a base marked by a letter, whose first two characters have just been read. -/
def basedInteger? (base : Nat) (isBaseDigit : Char → Bool) (text : Text) : Option (Toml × Text) := do
  let rest ← afterDigits? isBaseDigit text
  let digits := (text.take (text.length - rest.length)).filter (· ≠ '_')
  let value ← integerOf? false (Text.ofDigits base digits)
  return (value, rest)

/-- An integer. -/
def integer? (text : Text) : Option (Toml × Text) :=
  match text with
  | '0' :: 'x' :: rest => basedInteger? 16 Text.isHexDigit rest
  | '0' :: 'o' :: rest => basedInteger? 8 (fun c => '0' ≤ c && c ≤ '7') rest
  | '0' :: 'b' :: rest => basedInteger? 2 (fun c => c = '0' || c = '1') rest
  | _ => do
    let rest ← afterWhole? text
    let digits := (text.take (text.length - rest.length)).filter Char.isDigit
    let value ← integerOf? (text.head? = some '-') (Text.ofDigits 10 digits)
    return (value, rest)

/-- A number without digits: infinite or not a number. -/
def special? (text : Text) : Option (Toml × Text) :=
  let unsigned :=
    match text with
    | c :: rest => if c = '+' ∨ c = '-' then rest else text
    | [] => []
  match unsigned with
  | 'i' :: 'n' :: 'f' :: rest => some (.float "inf".toList, rest)
  | 'n' :: 'a' :: 'n' :: rest => some (.float "nan".toList, rest)
  | _ => none

/-- The part of a text before a later part of it. -/
def spelling (text rest : Text) : Text := text.take (text.length - rest.length)

/-- Whether a text begins like a date or a time, and can be nothing else. -/
def beginsMoment (text : Text) : Bool :=
  (match digitsIn? 4 0 9999 text with
  | some (_, '-' :: _) => true
  | _ => false) ||
    (match digitsIn? 2 0 23 text with
    | some (_, ':' :: _) => true
    | _ => false)

/-- A date, a time or a number. -/
def number? (text : Text) : Option (Toml × Text) :=
  if beginsMoment text then
    (afterMoment? text).map fun rest => (.date (spelling text rest), rest)
  else
    match afterFloat? text with
    | some none => none
    | some (some rest) =>
      if overflows (spelling text rest) then none
      else some (.float (spelling text rest), rest)
    | none =>
      match special? text with
      | some found => some found
      | none => integer? text

/-- A boolean. -/
def truth? (text : Text) : Option (Toml × Text) :=
  match text with
  | 't' :: 'r' :: 'u' :: 'e' :: rest => some (.boolean true, rest)
  | 'f' :: 'a' :: 'l' :: 's' :: 'e' :: rest => some (.boolean false, rest)
  | _ => none

end DocSite.Toml
