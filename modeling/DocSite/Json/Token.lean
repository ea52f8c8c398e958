import DocSite.Json.Basic
import DocSite.Text.Digit

/-!
# JSON tokens

A JSON text is cut into punctuation marks, literals, numbers and strings. The reading is strict:
blank space is space, tab, line feed and carriage return only, strings hold no raw control characters
and no lone surrogates, and a number that is too large for the floating-point format is refused.
-/

namespace DocSite.Json

-- The powers of numbers are those of the core library, whatever else is imported.
attribute [local instance (high)] instPowNat

/-! ## §1 Tokens -/

/-- A token of a JSON text. -/
inductive Token where
  | openArray
  | closeArray
  | openObject
  | closeObject
  | comma
  | colon
  | literal (value : Json)
  | string (value : Text)
  deriving Repr

/-! ## §2 Strings -/

/-- The value of four hexadecimal digits. -/
def hexUnit? (a b c d : Char) : Option Nat := do
  return (((← Text.hexDigit? a) * 16 + (← Text.hexDigit? b)) * 16 + (← Text.hexDigit? c)) * 16 + (← Text.hexDigit? d)

/-- The character that an escape of one letter stands for. -/
def simpleEscape? (c : Char) : Option Char :=
  match c with
  | '"' => some '"'
  | '\\' => some '\\'
  | '/' => some '/'
  | 'b' => some '\x08'
  | 'f' => some '\x0c'
  | 'n' => some '\n'
  | 'r' => some '\r'
  | 't' => some '\t'
  | _ => none

/-- The characters of a string behind its opening quote, and the text behind the closing one. A
character beyond the basic plane is escaped as a pair of surrogates. -/
def scanString? : Text → Option (Text × Text)
  | '"' :: rest => some ([], rest)
  | '\\' :: 'u' :: a :: b :: c :: d :: rest =>
    match hexUnit? a b c d with
    | none => none
    | some high =>
      if 0xD800 ≤ high ∧ high < 0xDC00 then
        match rest with
        | '\\' :: 'u' :: e :: f :: g :: h :: rest =>
          match hexUnit? e f g h with
          | none => none
          | some low =>
            if 0xDC00 ≤ low ∧ low < 0xE000 then
              (scanString? rest).map fun (text, rest) =>
                (Char.ofNat (0x10000 + (high - 0xD800) * 0x400 + (low - 0xDC00)) :: text, rest)
            else none
        | _ => none
      else if 0xDC00 ≤ high ∧ high < 0xE000 then none
      else (scanString? rest).map fun (text, rest) => (Char.ofNat high :: text, rest)
  | '\\' :: c :: rest =>
    match simpleEscape? c with
    | none => none
    | some c => (scanString? rest).map fun (text, rest) => (c :: text, rest)
  | c :: rest =>
    if c.toNat < 0x20 ∨ c = '\\' then none
    else (scanString? rest).map fun (text, rest) => (c :: text, rest)
  | [] => none

/-! ## §3 Numbers -/

/-- A number as it is written. -/
structure Numeral where
  negative : Bool
  /-- The digits before the point. -/
  whole : Text
  /-- The digits behind the point, if there is one. -/
  fraction : Option Text
  /-- The exponent, if there is one. -/
  exponent : Option Int
  deriving Repr

/-- The value of decimal digits that continue a number. -/
def digitsValue (digits : Text) : Nat := digits.foldl (fun n c => n * 10 + (c.toNat - 48)) 0

/-- The exponent at the start of a text, and the text behind it. -/
def scanExponent? (text : Text) : Option (Int × Text) :=
  let (negative, digits) :=
    match text with
    | '+' :: rest => (false, rest)
    | '-' :: rest => (true, rest)
    | _ => (false, text)
  let written := digits.takeWhile Char.isDigit
  if written.isEmpty then none
  else
    let value : Int := digitsValue written
    some (if negative then -value else value, digits.dropWhile Char.isDigit)

/-- The numeral at the start of a text, and the text behind it. -/
def Numeral.scan? (text : Text) : Option (Numeral × Text) := do
  let (negative, text) :=
    match text with
    | '-' :: rest => (true, rest)
    | _ => (false, text)
  let (whole, text) ←
    match text with
    | '0' :: rest => some (['0'], rest)
    | c :: _ =>
      if c.isDigit then some (text.takeWhile Char.isDigit, text.dropWhile Char.isDigit) else none
    | [] => none
  let (fraction, text) ←
    match text with
    | '.' :: rest =>
      let digits := rest.takeWhile Char.isDigit
      if digits.isEmpty then none else some (some digits, rest.dropWhile Char.isDigit)
    | _ => some (none, text)
  match text with
  | c :: rest =>
    if c = 'e' ∨ c = 'E' then
      let (exponent, text) ← scanExponent? rest
      return (⟨negative, whole, fraction, some exponent⟩, text)
    else return (⟨negative, whole, fraction, none⟩, text)
  | [] => return (⟨negative, whole, fraction, none⟩, text)

/-- The number continued by digits for as long as it fits into 64 bits, and how many digits did not
fit. -/
def appendDigits (value : Nat) : Text → Nat × Nat
  | [] => (value, 0)
  | c :: digits =>
    let next := value * 10 + (c.toNat - 48)
    if next < 2 ^ (64 : Nat) then appendDigits next digits else (value, digits.length + 1)

/-- The floating-point number nearest to a power of ten. -/
def powerOfTen? (n : Nat) : Option Decimal.Binary64 := Decimal.Binary64.ofRatio? false (10 ^ n) 1

/-- The powers of ten by which a number is scaled down one after the other: each is at most 308, and
after three of them nothing is left of a number of 64 bits. -/
def downSteps (power : Nat) : List Nat :=
  let power := min power 924
  let full := (power - 1) / 308
  List.replicate full 308 ++ [power - 308 * full]

/-- A number divided by a power of ten, rounded after each step. -/
def scaleDown? (number : Decimal.Binary64) (power : Nat) : Option Decimal.Binary64 :=
  (downSteps power).foldlM (fun number step => (powerOfTen? step).bind number.div?) number

/-- A whole number times a power of ten, rounded after the conversion and after each scaling; `none`
if it is too large. -/
def scaleByTen? (negative : Bool) (significand : Nat) (exponent : Int) :
    Option Decimal.Binary64 := do
  let number ← Decimal.Binary64.ofRatio? negative significand 1
  if exponent < 0 then scaleDown? number (-exponent).toNat
  else if exponent ≤ 308 then number.mul? (← powerOfTen? exponent.toNat)
  else if number.isZero then return number
  else none

/-- The number that a numeral stands for. Whole numbers of 64 bits are kept as they are; all others
are floating-point numbers, and one that is too large is refused. -/
def Numeral.number? (numeral : Numeral) : Option Number := do
  let (significand, dropped) := appendDigits 0 numeral.whole
  match numeral.fraction, numeral.exponent with
  | none, none =>
    if dropped = 0 then
      if !numeral.negative then return .integer significand
      else if significand = 0 ∨ 2 ^ (63 : Nat) < significand then
        (Decimal.Binary64.ofRatio? true significand 1).map .double
      else return .integer (-significand)
    else (scaleByTen? numeral.negative significand dropped).map .double
  | fraction, exponent =>
    let digits := fraction.getD []
    let (significand, droppedFraction) := appendDigits significand digits
    let places : Int := digits.length - droppedFraction
    (scaleByTen? numeral.negative significand (dropped - places + exponent.getD 0)).map .double

/-! ## §4 Scanning -/

/-- Blank space between tokens. -/
def isSpace (c : Char) : Bool := c = ' ' || c = '\t' || c = '\n' || c = '\r'

/-- The token at the start of a text, and the text behind it. -/
def Token.scan? (text : Text) : Option (Token × Text) :=
  match text with
  | '[' :: rest => some (.openArray, rest)
  | ']' :: rest => some (.closeArray, rest)
  | '\x7b' :: rest => some (.openObject, rest)
  | '\x7d' :: rest => some (.closeObject, rest)
  | ',' :: rest => some (.comma, rest)
  | ':' :: rest => some (.colon, rest)
  | '"' :: rest => (scanString? rest).map fun (value, rest) => (.string value, rest)
  | 'n' :: 'u' :: 'l' :: 'l' :: rest => some (.literal .null, rest)
  | 't' :: 'r' :: 'u' :: 'e' :: rest => some (.literal (.bool true), rest)
  | 'f' :: 'a' :: 'l' :: 's' :: 'e' :: rest => some (.literal (.bool false), rest)
  | text => do
    let (numeral, rest) ← Numeral.scan? text
    let number ← numeral.number?
    return (.literal (.number number), rest)

/-- The tokens of a text; every token takes at least one character, so `fuel` of the length of the text
is enough. -/
def Token.scanAll? : (fuel : Nat) → Text → Option (List Token)
  | _, [] => some []
  | 0, _ :: _ => none
  | fuel + 1, c :: text =>
    if isSpace c then Token.scanAll? fuel text
    else do
      let (token, rest) ← Token.scan? (c :: text)
      let tokens ← Token.scanAll? fuel rest
      return token :: tokens

end DocSite.Json
