/-!
# Elementary functions

Roots, powers, logarithms and the functions of angles, of rational numbers and with rational results. Every result
is within a few units of `2 ^ -64`; a function that has no value at some number gives none.
-/

namespace DocSite.Decimal

-- The powers of numbers are those of the core library, whatever else is imported.
attribute [local instance (high)] instPowNat Rat.instPowNat

/-! ## §1 Fixed places -/

/-- The number of binary places that are kept. -/
def keptPlaces : Nat := 64

/-- The greatest number of the kept places that is not above a number. -/
def cut (x : Rat) : Rat := mkRat (x * 2 ^ keptPlaces).floor (2 ^ keptPlaces)

/-- Half a turn: the ratio of a circle to its diameter. -/
def pi : Rat := 3141592653589793238462643383279 / 10 ^ (30 : Nat)

/-- The base of natural logarithms. -/
def euler : Rat := 2718281828459045235360287471352 / 10 ^ (30 : Nat)

/-- The natural logarithm of two. -/
def logTwo : Rat := 693147180559945309417232121458 / 10 ^ (30 : Nat)

/-- The sum of a series: each term follows from the one before it and its place. -/
def series (next : Nat → Rat → Rat) : (count : Nat) → (place : Nat) → (term : Rat) → Rat
  | 0, _, _ => 0
  | count + 1, place, term => term + series next count (place + 1) (cut (next place term))

/-! ## §2 Roots, powers and logarithms -/

/-- The square root of a number that is not negative. -/
def squareRoot? (x : Rat) : Option Rat :=
  if x < 0 then none
  else some (mkRat (wholeRoot (x.num.natAbs * 2 ^ (2 * keptPlaces) / x.den)) (2 ^ keptPlaces))
where
  /-- The whole part of a square root. -/
  wholeRoot (n : Nat) : Nat := step n (n.log2 + 4) (2 ^ (n.log2 / 2 + 1))
  /-- Steps towards a square root from above. -/
  step (n : Nat) : (fuel : Nat) → Nat → Nat
    | 0, guess => guess
    | fuel + 1, guess =>
      let next := (guess + n / guess) / 2
      if next < guess then step n fuel next else guess

/-- A power of the base of natural logarithms, if it is neither very large nor very small. -/
def exponential? (x : Rat) : Option Rat :=
  if x < -100 ∨ 100 < x then none
  else
    let whole := x.floor
    let rest := x - whole
    let part := series (fun place term => term * rest / (place + 1 : Nat)) 30 0 1
    some (part * if whole < 0 then 1 / euler ^ whole.natAbs else euler ^ whole.natAbs)

/-- The natural logarithm of a positive number. -/
def logarithm? (x : Rat) : Option Rat :=
  if x ≤ 0 then none
  else
    let power : Int := (x.num.natAbs.log2 : Int) - x.den.log2
    let scaled := if power < 0 then x * 2 ^ power.natAbs else x / 2 ^ power.natAbs
    let y := (scaled - 1) / (scaled + 1)
    -- The terms are powers of `y`, each divided by its odd exponent.
    let odd := (List.range 64).foldl (fun (total, power) place =>
      (total + power / (2 * place + 1 : Nat), cut (power * y * y))) ((0, y) : Rat × Rat)
    some (power * logTwo + 2 * odd.1)

/-- One number to the power of another one. -/
def power? (base exponent : Rat) : Option Rat :=
  if exponent.den = 1 ∧ exponent.num.natAbs ≤ 256 then
    let size := base ^ exponent.num.natAbs
    if 0 ≤ exponent then some size else if size = 0 then none else some (1 / size)
  else if base = 0 then if 0 < exponent then some 0 else none
  else do exponential? (exponent * (← logarithm? base))

/-! ## §3 Angles -/

/-- The sine of an angle in radians. -/
def sine (x : Rat) : Rat :=
  let turns := (x / (2 * pi) + 1 / 2).floor
  let y := x - turns * (2 * pi)
  series (fun place term => -(term * y * y) / ((2 * place + 2) * (2 * place + 3) : Nat)) 24 0 y

/-- The cosine of an angle in radians. -/
def cosine (x : Rat) : Rat := sine (x + pi / 2)

/-- The angle in radians whose tangent is a number. -/
def arcTangent (x : Rat) : Rat :=
  -- Half an angle has a smaller tangent.
  let half (x : Rat) : Rat := cut (x / (1 + (squareRoot? (1 + x * x)).getD 1))
  let y := half (half (half x))
  let odd := (List.range 32).foldl (fun (total, power) place =>
    (total + power / (2 * place + 1 : Nat), cut (-(power * y * y)))) ((0, y) : Rat × Rat)
  8 * odd.1

/-- The angle in radians from the first axis to a point. -/
def angleTo (x y : Rat) : Rat :=
  if x = 0 then if 0 < y then pi / 2 else if y < 0 then -(pi / 2) else 0
  else
    let angle := arcTangent (y / x)
    if 0 < x then angle else if 0 ≤ y then angle + pi else angle - pi

/-- The angle in radians whose sine is a number. -/
def arcSine? (x : Rat) : Option Rat :=
  if x < -1 ∨ 1 < x then none else (squareRoot? (1 - x * x)).map fun other => angleTo other x

end DocSite.Decimal
