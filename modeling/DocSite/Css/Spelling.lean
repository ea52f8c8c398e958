import DocSite.Css.Node
import DocSite.Decimal.Shortest

/-!
# Spelling

How names, strings, addresses and numbers are written so that they are read back, in as few characters as
possible.
-/

namespace DocSite.Css

/-! ## §1 Names, strings and addresses -/

/-- A hexadecimal digit in lower case. -/
def lowerHexDigit (n : Nat) : Char := if n < 10 then Char.ofNat (48 + n) else Char.ofNat (87 + n)

/-- A character as the number of its code point behind a backslash. -/
def hexEscape (c : Char) : Text :=
  let n := c.toNat
  let digits := if n < 16 then [lowerHexDigit n] else [lowerHexDigit (n / 16), lowerHexDigit (n % 16)]
  '\\' :: digits ++ [' ']

/-- Whether a character of ASCII has no shape. -/
def isControl (c : Char) : Bool := c.toNat < 0x20 || c.toNat = 0x7f

/-- How a character is written in a name behind the first one. -/
def nameChar (c : Char) : Text :=
  if c = '\x00' then ['\ufffd']
  else if isNameChar c then [c]
  else if isControl c then hexEscape c
  else ['\\', c]

/-- Characters of a name as they are written. -/
def spellNameChars (name : Text) : Text := name.flatMap nameChar

/-- A name as it is written. A digit may not stand at its start. -/
def spellName (name : Text) : Text :=
  let inner (name : Text) : Text :=
    match name with
    | c :: rest => if c.isDigit then hexEscape c ++ spellNameChars rest else spellNameChars name
    | [] => []
  match name with
  | ['-'] => ['\\', '-']
  | '-' :: '-' :: rest => '-' :: '-' :: spellNameChars rest
  | '-' :: rest => '-' :: inner rest
  | _ => inner name

/-- How a character is written in a string. -/
def stringChar (c : Char) : Text :=
  if c = '"' ∨ c = '\\' then ['\\', c]
  else if c = '\x00' then ['\ufffd']
  else if isControl c then hexEscape c
  else [c]

/-- A string as it is written. -/
def spellString (content : Text) : Text := '"' :: content.flatMap stringChar ++ ['"']

/-- How a character is written in an address without quotes. -/
def addressChar (c : Char) : Text :=
  if isControl c ∨ c = ' ' then hexEscape c
  else if "()\"\x27\\".toList.contains c then ['\\', c]
  else [c]

/-- An address as it is written: without quotes unless they make it shorter. -/
def spellAddress (address : Text) : Text :=
  let bare := "url(".toList ++ address.flatMap addressChar ++ [')']
  let quoted := "url(".toList ++ spellString address ++ [')']
  if Text.utf8Length address + 7 < Text.utf8Length bare && Text.utf8Length quoted < Text.utf8Length bare then quoted else bare

/-- A text as a name or as a string, whichever is shorter. -/
def spellShorter (text : Text) : Text :=
  let name := spellName text
  let string := spellString text
  if !name.isEmpty && Text.utf8Length name < Text.utf8Length string then name else string

/-! ## §2 Numbers -/

/-- How many digits of a number count. -/
def significantDigits : Nat := 6

/-- A positive number as the nearest decimal of few digits: its digits without zeros at the end, and the number
of them before the point. A half is rounded up. -/
def roundedDigits (size : Rat) : Text × Int :=
  let power := Decimal.leadingPower size.num.natAbs size.den
  let shift : Int := significantDigits - 1 - power
  let scaled := if shift < 0 then size / (10 : Rat) ^ (-shift).toNat else size * (10 : Rat) ^ shift.toNat
  let rounded := (scaled + 1 / 2).floor.toNat
  -- Rounding up may give one digit more.
  let digits := Text.ofNat rounded
  (Text.dropEndWhile (· = '0') digits, power + 1 + (digits.length - significantDigits : Nat))

/-- A number in few digits. A power of ten is written if the number is very large or very small. -/
def spellNumber (value : Rat) : Text :=
  if value = 0 then ['0']
  else
    let sign : Text := if value < 0 then ['-'] else []
    let (digits, places) := roundedDigits (if value < 0 then -value else value)
    let spelled : Text :=
      if 0 < places ∧ places ≤ 21 then
        let whole := digits.take places.toNat ++ List.replicate (places.toNat - digits.length) '0'
        let fraction := digits.drop places.toNat
        if fraction.isEmpty then whole else whole ++ '.' :: fraction
      else if -6 < places ∧ places ≤ 0 then '.' :: List.replicate (-places).toNat '0' ++ digits
      else
        let fraction := digits.drop 1
        let power := places - 1
        digits.take 1 ++ (if fraction.isEmpty then [] else '.' :: fraction) ++ 'e' ::
          (if power < 0 then ['-'] else []) ++ Text.ofNat power.natAbs
    sign ++ spelled

/-- A number with a unit. A unit that looks like a power of ten is escaped. -/
def spellDimension (value : Rat) (unit : Text) : Text :=
  let isPower := unit = ['e'] || unit = ['E'] || Text.startsWith unit "e-".toList ||
    Text.startsWith unit "E-".toList
  spellNumber value ++ if isPower then "\\65 ".toList ++ spellNameChars unit.tail else spellName unit

/-- A part of a hundred. -/
def spellPercentage (value : Rat) : Text := spellNumber value ++ ['%']

end DocSite.Css
