import DocSite.Css.Reader

/-!
# Quantities

Lengths, parts of a hundred, angles and times. Quantities of one kind can be added and compared if one unit is
so many times the other wherever they are used.
-/

namespace DocSite.Css

-- The powers of numbers are those of the core library, whatever else is imported.
attribute [local instance (high)] instPowNat Rat.instPowNat

/-- A quantity. -/
inductive Quantity where
  | length (value : Rat) (unit : Text)
  | percentage (value : Rat)
  | angle (value : Rat) (unit : Text)
  | time (value : Rat) (unit : Text)
  deriving DecidableEq, Repr, Inhabited

/-! ## §1 Units -/

/-- Units of length that have the same size everywhere, in pixels. -/
def absoluteUnits : List (Text × Rat) :=
  [("px".toList, 1), ("in".toList, 96), ("cm".toList, 9600 / 254), ("mm".toList, 960 / 254),
    ("q".toList, 240 / 254), ("pt".toList, 96 / 72), ("pc".toList, 16)]

/-- Units of length whose size depends on where they are used. -/
def relativeUnits : List Text :=
  ["em", "rem", "ex", "rex", "ch", "rch", "cap", "rcap", "ic", "ric", "lh", "rlh", "vw", "lvw", "svw",
    "dvw", "cqw", "vh", "lvh", "svh", "dvh", "cqh", "vi", "svi", "lvi", "dvi", "cqi", "vb", "svb", "lvb",
    "dvb", "cqb", "vmin", "svmin", "lvmin", "dvmin", "cqmin", "vmax", "svmax", "lvmax", "dvmax",
    "cqmax"].map String.toList

/-- Whether a unit is one of length. -/
def isLengthUnit (unit : Text) : Bool :=
  absoluteUnits.any (·.1 = unit) || relativeUnits.contains unit

/-- Half a turn in radians, as a fraction. -/
def halfTurn : Rat := 3141592653589793 / 1000000000000000

/-- Units of angles, in degrees. -/
def angleUnits : List (Text × Rat) :=
  [("deg".toList, 1), ("grad".toList, 9 / 10), ("rad".toList, 180 / halfTurn), ("turn".toList, 360)]

/-- Units of time, in seconds. -/
def timeUnits : List (Text × Rat) := [("s".toList, 1), ("ms".toList, 1 / 1000)]

/-- The size of a unit in a table. -/
def sizeIn? (units : List (Text × Rat)) (unit : Text) : Option Rat :=
  (units.find? (·.1 = unit)).map (·.2)

namespace Quantity

/-- Which quantities are meant. -/
structure Kinds where
  length : Bool := false
  percentage : Bool := false
  angle : Bool := false
  time : Bool := false

/-- The quantity of a number with a unit. -/
def ofUnit? (kinds : Kinds) (value : Rat) (unit : Text) : Option Quantity :=
  let unit := unit.map Char.toLower
  if kinds.length && isLengthUnit unit then some (.length value unit)
  else if kinds.angle && (sizeIn? angleUnits unit).isSome then some (.angle value unit)
  else if kinds.time && (sizeIn? timeUnits unit).isSome then some (.time value unit)
  else none

/-- The quantity that a token stands for. -/
def ofToken? (kinds : Kinds) : Token → Option Quantity
  | .dimension numeral unit => ofUnit? kinds numeral.value unit
  | .percentage numeral => if kinds.percentage then some (.percentage numeral.value) else none
  | _ => none

/-! ## §2 Operations -/

/-- The number of a quantity. -/
def value : Quantity → Rat
  | .length value _ => value
  | .percentage value => value
  | .angle value _ => value
  | .time value _ => value

/-- Whether a quantity is nothing. -/
def isZero (quantity : Quantity) : Bool := quantity.value = 0

/-- A quantity a number of times. -/
def scale (factor : Rat) : Quantity → Quantity
  | .length value unit => .length (factor * value) unit
  | .percentage value => .percentage (factor * value)
  | .angle value unit => .angle (factor * value) unit
  | .time value unit => .time (factor * value) unit

/-- The nearest number with twenty-four binary digits; of two, the even one. -/
def single (value : Rat) : Rat :=
  if value = 0 then 0
  else
    let size := if value < 0 then -value else value
    let power (n : Int) : Rat := if n < 0 then 1 / 2 ^ n.natAbs else 2 ^ n.natAbs
    let guess : Int := (Nat.log2 size.num.natAbs : Int) - Nat.log2 size.den - 23
    let exponent := if size / power guess < 2 ^ (23 : Nat) then guess - 1 else guess
    let scaled := size / power exponent
    let floor := scaled.floor
    let isUp := 1 / 2 < scaled - floor || scaled - floor = 1 / 2 && floor % 2 = 1
    let rounded := (if isUp then floor + 1 else floor) * power exponent
    if value < 0 then -rounded else rounded

/-- The angle in degrees. Radians do not come out even, so their product has few digits. -/
def degrees (value : Rat) (unit : Text) : Rat :=
  let size := (sizeIn? angleUnits unit).getD 1
  if unit = "rad".toList then single (single value * single size) else value * size

/-- The sum or another combination of two quantities in one unit, if there is a unit for both. -/
def combine? (operation : Rat → Rat → Rat) : Quantity → Quantity → Option Quantity
  | .length a unit, .length b other =>
    if unit = other then some (.length (operation a b) unit)
    else
      match sizeIn? absoluteUnits unit, sizeIn? absoluteUnits other with
      | some size, some otherSize => some (.length (operation (a * size) (b * otherSize)) "px".toList)
      | _, _ => none
  | .percentage a, .percentage b => some (.percentage (operation a b))
  | .angle a unit, .angle b other =>
    if unit = other then some (.angle (operation a b) unit)
    else some (.angle (operation (degrees a unit) (degrees b other)) "deg".toList)
  | .time a unit, .time b other =>
    let size := (sizeIn? timeUnits unit).getD 1
    let otherSize := (sizeIn? timeUnits other).getD 1
    some (.time (operation a (b * otherSize / size)) unit)
  | _, _ => none

/-- How two quantities compare, if there is a unit for both. -/
def compare? (first second : Quantity) : Option Ordering :=
  (combine? (· - ·) first second).map fun difference =>
    if difference.value < 0 then .lt else if difference.value = 0 then .eq else .gt

/-! ## §3 Spelling -/

/-- A quantity as it is written where zero needs its unit. Radians become degrees if they come out even to five
places. Seconds are written below a tenth as thousandths, and other times as seconds if that is shorter. -/
def textWithUnit : Quantity → Text
  | .length value unit => spellDimension value unit
  | .percentage value => spellPercentage value
  | .angle value unit =>
    let turned := degrees value unit
    if unit = "rad".toList ∧ (single (turned * 100000)).den = 1 then spellDimension turned "deg".toList
    else spellDimension value unit
  | .time value unit =>
    if unit = ['s'] then
      if 0 < value ∧ value < 1 / 10 then spellDimension (value * 1000) "ms".toList
      else spellDimension value unit
    else if value = 0 ∨ 100 ≤ value then spellDimension (value / 1000) ['s']
    else spellDimension value unit

/-- A quantity as it is written. A length of zero needs no unit. -/
def text (quantity : Quantity) : Text :=
  match quantity with
  | .length value _ => if value = 0 then ['0'] else quantity.textWithUnit
  | _ => quantity.textWithUnit

end Quantity

end DocSite.Css
