import DocSite.Decimal.Binary64
import DocSite.Text.Basic

/-!
# Shortest decimals

The shortest decimal that reads back as a given floating-point number, and of those the nearest to
it. For one digit, two digits and so on it tries the two neighbours of the number on the grid of that
many digits; the first grid with a neighbour that reads back wins. Seventeen digits always do.
-/

namespace DocSite.Decimal

-- The powers of numbers are those of the core library, whatever else is imported.
attribute [local instance (high)] instPowNat

/-- A decimal `digits · 10 ^ exponent`. -/
structure Scaled where
  digits : Nat
  exponent : Int
  deriving DecidableEq, Repr

/-- The decimal as a quotient of natural numbers. -/
def Scaled.ratio (decimal : Scaled) : Nat × Nat :=
  if decimal.exponent < 0 then (decimal.digits, 10 ^ (-decimal.exponent).toNat)
  else (decimal.digits * 10 ^ decimal.exponent.toNat, 1)

/-- Whether a decimal reads back as the absolute value of `number`. -/
def Scaled.readsAs (decimal : Scaled) (number : Binary64) : Bool :=
  Binary64.ofRatio? number.negative decimal.ratio.1 decimal.ratio.2 = some number

/-- The distance of a decimal to a quotient, scaled by the product of the denominators. -/
def Scaled.distance (decimal : Scaled) (numerator denominator : Nat) : Nat :=
  let a := decimal.ratio.1 * denominator
  let b := numerator * decimal.ratio.2
  (a - b) + (b - a)

/-- The power of ten of the leading digit of a positive quotient. -/
def leadingPower (numerator denominator : Nat) : Int :=
  if denominator ≤ numerator then
    (Nat.toDigits 10 (numerator / denominator)).length - 1
  else
    let shift := (Nat.toDigits 10 (denominator / numerator)).length
    if denominator ≤ numerator * 10 ^ (shift - 1) then -((shift : Int) - 1) else -(shift : Int)

/-- The neighbour of a number on the grid of step `10 ^ exponent` that reads back as the number and is
nearest to it. -/
def nearestOnGrid? (number : Binary64) (exponent : Int) : Option Scaled :=
  let (numerator, denominator) := number.ratio
  let below :=
    if exponent < 0 then numerator * 10 ^ (-exponent).toNat / denominator
    else numerator / (denominator * 10 ^ exponent.toNat)
  let hits := [⟨below, exponent⟩, ⟨below + 1, exponent⟩].filter (Scaled.readsAs · number)
  match hits with
  | [] => none
  | [hit] => some hit
  | first :: second :: _ =>
    if second.distance numerator denominator < first.distance numerator denominator then some second
    else some first

/-- The decimal without the zero at the end of its digits that a neighbour has which is a power of
ten. -/
def Scaled.withoutZero (decimal : Scaled) : Scaled :=
  if decimal.digits % 10 = 0 then ⟨decimal.digits / 10, decimal.exponent + 1⟩ else decimal

/-- The shortest decimal that reads back as the absolute value of the number. -/
def Binary64.shortest (number : Binary64) : Scaled :=
  if number.isZero then ⟨0, 0⟩
  else
    let power := leadingPower number.ratio.1 number.ratio.2
    let candidates := (List.range 17).filterMap fun (n : Nat) => nearestOnGrid? number (power - n)
    (candidates.head?.getD ⟨0, 0⟩).withoutZero

/-- A decimal in positional notation, without exponent, with at least one digit before the point and
at least one behind it. -/
def Scaled.positional (decimal : Scaled) : Text :=
  let digits := Text.ofNat decimal.digits
  if decimal.exponent < 0 then
    let places := (-decimal.exponent).toNat
    let padded := List.replicate (places + 1 - digits.length) '0' ++ digits
    let (whole, fraction) := padded.splitAt (padded.length - places)
    whole ++ '.' :: fraction
  else digits ++ List.replicate decimal.exponent.toNat '0' ++ ".0".toList

/-- A decimal with one digit before the point and a power of ten. -/
def Scaled.scientific (decimal : Scaled) : Text :=
  let digits := Text.ofNat decimal.digits
  let power := decimal.exponent + (digits.length - 1 : Nat)
  let fraction := if digits.length = 1 then [] else '.' :: digits.tail
  digits.take 1 ++ fraction ++ 'e' :: (if power < 0 then ['-'] else []) ++ Text.ofNat power.natAbs

/-- The number in positional notation. -/
def Binary64.toText (number : Binary64) : Text :=
  (if number.negative then ['-'] else []) ++ number.shortest.positional

/-- The number with a power of ten if it is at least 10¹⁶ or less than 10⁻⁴, else in positional notation. -/
def Binary64.toShortText (number : Binary64) : Text :=
  let decimal := number.shortest
  let places := (Text.ofNat decimal.digits).length + decimal.exponent
  let isPlain := number.isZero || (-4 < places && places ≤ 16)
  (if number.negative then ['-'] else []) ++
    (if isPlain then decimal.positional else decimal.scientific)

end DocSite.Decimal
