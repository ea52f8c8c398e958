/-!
# Binary floating-point numbers

The finite floating-point numbers with 53 significant bits and the exponents of the 64-bit format,
held exactly as `± significand · 2 ^ exponent`. Every operation is exact arithmetic on natural numbers
followed by one rounding to the nearest number of the format, ties to the even significand.
-/

namespace DocSite.Decimal

-- The powers of numbers are those of the core library, whatever else is imported.
attribute [local instance (high)] instPowNat

/-- A finite number of the 64-bit binary format. -/
structure Binary64 where
  negative : Bool
  significand : Nat
  exponent : Int
  deriving DecidableEq, Repr, Inhabited

/-- The quotient rounded to the nearest whole number, a half to the even neighbour. -/
def roundDiv (numerator denominator : Nat) : Nat :=
  let quotient := numerator / denominator
  let twice := 2 * (numerator % denominator)
  if twice < denominator then quotient
  else if denominator < twice then quotient + 1
  else if quotient % 2 = 0 then quotient
  else quotient + 1

/-- `numerator / denominator / 2 ^ exponent` rounded to a whole number. -/
def scaledQuotient (numerator denominator : Nat) (exponent : Int) : Nat :=
  if exponent < 0 then roundDiv (numerator * 2 ^ (-exponent).toNat) denominator
  else roundDiv numerator (denominator * 2 ^ exponent.toNat)

/-- The least exponent of the format. -/
def Binary64.leastExponent : Int := -1074

/-- The greatest exponent of the format. -/
def Binary64.greatestExponent : Int := 971

/-- Positive or negative zero. -/
def Binary64.zero (negative : Bool) : Binary64 := ⟨negative, 0, Binary64.leastExponent⟩

/-- The number of the format nearest to a quotient of natural numbers; `none` if that is beyond the
greatest one. -/
def Binary64.ofRatio? (negative : Bool) (numerator denominator : Nat) : Option Binary64 :=
  if numerator = 0 then some (.zero negative)
  else
    let guess : Int := (Nat.log2 numerator : Int) - Nat.log2 denominator - 52
    let tooSmall := decide (scaledQuotient numerator denominator guess < 2 ^ (52 : Nat))
    let exponent := max (if tooSmall then guess - 1 else guess) Binary64.leastExponent
    let significand := scaledQuotient numerator denominator exponent
    let (significand, exponent) :=
      if significand = 2 ^ (53 : Nat) then (2 ^ (52 : Nat), exponent + 1) else (significand, exponent)
    if Binary64.greatestExponent < exponent then none
    else some ⟨negative, significand, exponent⟩

/-- The absolute value as a quotient of natural numbers. -/
def Binary64.ratio (number : Binary64) : Nat × Nat :=
  if number.exponent < 0 then (number.significand, 2 ^ (-number.exponent).toNat)
  else (number.significand * 2 ^ number.exponent.toNat, 1)

/-- The rounded product of two numbers. -/
def Binary64.mul? (a b : Binary64) : Option Binary64 :=
  Binary64.ofRatio? (a.negative != b.negative) (a.ratio.1 * b.ratio.1) (a.ratio.2 * b.ratio.2)

/-- The rounded quotient of two numbers, the second of which is not zero. -/
def Binary64.div? (a b : Binary64) : Option Binary64 :=
  Binary64.ofRatio? (a.negative != b.negative) (a.ratio.1 * b.ratio.2) (a.ratio.2 * b.ratio.1)

/-- Whether the number is positive or negative zero. -/
def Binary64.isZero (number : Binary64) : Bool := number.significand = 0

end DocSite.Decimal
