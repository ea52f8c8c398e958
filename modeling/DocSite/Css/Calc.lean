import DocSite.Css.Quantity
import DocSite.Decimal.Elementary

/-!
# Calculations

Quantities may be calculated: added, multiplied, bounded. What can be calculated while the style sheet is
read is; the rest is kept, with sums in as few terms as possible.
-/

namespace DocSite.Css

/-- A calculation. -/
inductive Calc where
  | value (quantity : Quantity)
  | number (value : Rat)
  | sum (first second : Calc)
  | product (factor : Rat) (expr : Calc)
  /-- A word among the arguments of a call. -/
  | word (name : Text)
  /-- A call of a function of calculations. -/
  | call (name : Text) (arguments : List Calc)
  deriving Repr, Inhabited

namespace Calc

/-! ## §1 Signs and zeros -/

/-- The sign that all of some known signs have. -/
def commonSign? : List (Option Ordering) → Option Ordering
  | [] => none
  | first :: rest => if rest.all (· = first) then first else none

/-- Whether a number is negative. -/
def signOf (value : Rat) : Ordering := if value < 0 then .lt else .gt

mutual

/-- Whether a calculation is known to be less than zero or not. -/
def sign? : Calc → Option Ordering
  | .value quantity => some (signOf quantity.value)
  | .number n => some (signOf n)
  | .sum _ _ | .word _ => none
  | .product factor expr => expr.sign?.map fun sign => if factor < 0 then sign.swap else sign
  | .call name arguments =>
    if name = "abs".toList then some .gt else commonSign? (signsOf? arguments)

/-- Whether calculations are known to be less than zero or not. -/
def signsOf? : List Calc → List (Option Ordering)
  | [] => []
  | expr :: exprs => expr.sign? :: signsOf? exprs

end

/-- Whether a calculation is known to be nothing. -/
def isZero : Calc → Bool
  | .value quantity => quantity.isZero
  | _ => false

/-! ## §2 Sums and products -/

/-- How deep a calculation is nested. -/
def depth : Calc → Nat
  | .sum first second => first.depth + second.depth + 1
  | _ => 1

mutual

/-- A calculation that has taken up another one: a term of it has the same unit. `fuel` is more than the depths
of both. -/
def merge? : (fuel : Nat) → Calc → Calc → Option Calc
  | 0, _, _ => none
  | fuel + 1, expr, other =>
    match expr, other with
    | .value a, .value b => (a.combine? (· + ·) b).map .value
    | .sum first second, other =>
      match merge? fuel first other with
      | some first => some (join fuel first second)
      | none => (merge? fuel second other).map fun second => join fuel first second
    | expr, .sum first second =>
      match merge? fuel expr first with
      | some first => some (join fuel first second)
      | none => (merge? fuel expr second).map fun second => join fuel first second
    | _, _ => none

/-- The sum of two calculations. A term that is less than zero does not stand first. -/
def join : (fuel : Nat) → Calc → Calc → Calc
  | 0, expr, other => .sum expr other
  | fuel + 1, expr, other =>
    match merge? fuel expr other with
    | some merged => merged
    | none =>
      if expr.isZero then other
      else if other.isZero then expr
      else if expr.sign? = some .lt && other.sign? = some .gt then .sum other expr
      else .sum expr other

end

/-- The sum of two calculations of the same kind of quantity. -/
def addQuantities (expr other : Calc) : Calc := join (2 * (expr.depth + other.depth) + 2) expr other

/-- The sum of two calculations. -/
def add (expr other : Calc) : Calc :=
  match expr, other with
  | .number a, .number b => .number (a + b)
  | .sum (.number a) rest, .number b => .sum (.number (a + b)) rest
  | .sum rest (.number a), .number b => .sum rest (.number (a + b))
  | .number a, .sum (.number b) rest => .sum (.number (a + b)) rest
  | .number a, .sum rest (.number b) => .sum (.number (a + b)) rest
  | .number _, _ | _, .number _ | .product _ _, _ | _, .product _ _ | .call _ _, _ | _, .call _ _ =>
    .sum expr other
  | _, _ => addQuantities expr other

/-- A calculation a number of times. -/
def scale (factor : Rat) : Calc → Calc
  | .value quantity => .value (quantity.scale factor)
  | .number n => .number (n * factor)
  | .sum first second => .sum (first.scale factor) (second.scale factor)
  | .product other expr =>
    if other * factor = 1 then expr else .product (other * factor) expr
  | .word name => .word name
  | .call name arguments =>
    if factor = 1 then .call name arguments else .product factor (.call name arguments)

/-! ## §3 Bounds -/

/-- How two calculations compare, if both are quantities and can be compared. -/
def compare? : Calc → Calc → Option Ordering
  | .value a, .value b => a.compare? b
  | _, _ => none

/-- The first of some calculations that can be compared with a quantity is replaced by the quantity if it compares
as `better` says; none if there is no such calculation. -/
def reduceInto? (better : Ordering) (expr : Calc) : List Calc → Option (List Calc)
  | [] => none
  | other :: rest =>
    match expr.compare? other with
    | some ordering => some ((if ordering = better then expr else other) :: rest)
    | none => (reduceInto? better expr rest).map (other :: ·)

/-- Calculations of which the least or the greatest one is meant, without those that cannot be it. -/
def reduce (better : Ordering) (exprs : List Calc) : List Calc :=
  exprs.foldl (fun reduced expr => (reduceInto? better expr reduced).getD (reduced ++ [expr])) []

/-- The least or the greatest of some calculations. -/
def extremum (name : String) (better : Ordering) (exprs : List Calc) : Calc :=
  match reduce better exprs with
  | [expr] => expr
  | reduced => .call name.toList reduced

/-- A calculation between two bounds; the lower one wins. -/
def clamp (lower center upper : Calc) : Calc :=
  let (center, upper) :=
    match center.compare? upper with
    | some .gt => (upper, none)
    | some _ => (center, none)
    | none => (center, some upper)
  let (center, lower) :=
    match center.compare? lower with
    | some .lt => (lower, none)
    | some _ => (center, none)
    | none => (center, some lower)
  match lower, upper with
  | none, none => center
  | some lower, none => .call "max".toList [lower, center]
  | none, some upper => .call "min".toList [center, upper]
  | some lower, some upper => .call "clamp".toList [lower, center, upper]

/-- The result of an operation on two calculations, if it can be calculated. -/
def operate? (operation : Rat → Rat → Rat) (expr other : Calc) : Option Calc :=
  match expr, other with
  | .number a, .number b => if b = 0 then none else some (.number (operation a b))
  | .value a, .value b => if b.isZero then none else (a.combine? operation b).map .value
  | _, _ => none

/-- How a number is rounded. -/
inductive Rounding where
  | nearest
  | up
  | down
  | toZero

namespace Rounding

/-- The words for ways of rounding. -/
def ofName? (name : Text) : Option Rounding :=
  if name = "nearest".toList then some .nearest
  else if name = "up".toList then some .up
  else if name = "down".toList then some .down
  else if name = "to-zero".toList then some .toZero
  else none

/-- A whole number near to another one; a half goes away from zero. -/
def whole (rounding : Rounding) (value : Rat) : Int :=
  match rounding with
  | .nearest => if value < 0 then -((-value + 1 / 2).floor) else (value + 1 / 2).floor
  | .up => value.ceil
  | .down => value.floor
  | .toZero => if value < 0 then -((-value).floor) else value.floor

end Rounding

/-- The multiple of a number near to another one. -/
def roundTo (rounding : Rounding) (value step : Rat) : Rat := rounding.whole (value / step) * step

/-- What is left of a number when a multiple of another one is taken away: with the sign of the first. -/
def remainder (value step : Rat) : Rat :=
  value - roundTo .toZero value step

/-- What is left of a number when a multiple of another one is taken away: with the sign of the second. -/
def modulus (value step : Rat) : Rat := value - roundTo .down value step

/-- The square root of the sum of the squares of some calculations. -/
def hypotenuse? : List Calc → Option Calc
  | [] => none
  | [expr] => some expr
  | expr :: exprs => do
    let other ← hypotenuse? exprs
    let root (a b : Rat) : Rat := (Decimal.squareRoot? (a * a + b * b)).getD 0
    match expr, other with
    | .number a, .number b => some (.number (root a b))
    | .value a, .value b => (a.combine? root b).map .value
    | _, _ => none

/-! ## §4 Functions of numbers -/

/-- A number with as many digits as are kept. -/
def kept (value : Rat) : Calc := .number (Quantity.single value)

/-- An angle in radians. -/
def radians (value : Rat) : Calc := .value (.angle (Quantity.single value) "rad".toList)

/-- The value of a function of an angle; numbers are in radians. -/
def ofAngle? (name : Text) (expr : Calc) : Option Calc :=
  let angle? : Option Rat :=
    match expr with
    | .number n => some n
    | .value (.angle size unit) =>
      some (if unit = "rad".toList then size else Quantity.degrees size unit * Decimal.pi / 180)
    | _ => none
  angle?.bind fun angle =>
    if name = "sin".toList then some (kept (Decimal.sine angle))
    else if name = "cos".toList then some (kept (Decimal.cosine angle))
    else if name = "tan".toList then
      let cosine := Decimal.cosine angle
      if cosine = 0 then none else some (kept (Decimal.sine angle / cosine))
    else none

/-- The angle of a value of a function of angles. -/
def toAngle? (name : Text) (value : Rat) : Option Calc :=
  if name = "asin".toList then (Decimal.arcSine? value).map radians
  else if name = "acos".toList then (Decimal.arcSine? value).map fun angle => radians (Decimal.pi / 2 - angle)
  else if name = "atan".toList then some (radians (Decimal.arcTangent value))
  else none

/-- The value of a function of one or two numbers. -/
def ofNumbers? (name : Text) : List Calc → Option Calc
  | [.number n] =>
    if name = "sqrt".toList then (Decimal.squareRoot? n).map kept
    else if name = "exp".toList then (Decimal.exponential? n).map kept
    else if name = "log".toList then (Decimal.logarithm? n).map kept
    else none
  | [.number n, .number other] =>
    if name = "pow".toList then (Decimal.power? n other).map kept
    else if name = "log".toList then do
      let base ← Decimal.logarithm? other
      if base = 0 then none
      return kept ((← Decimal.logarithm? n) / base)
    else none
  | _ => none

/-- The angle from the first axis to a point, if its coordinates are numbers or quantities of one kind. -/
def angleTo? : List Calc → Option Calc
  | [.number y, .number x] => some (radians (Decimal.angleTo x y))
  | [.value y, .value x] => do
    -- Both coordinates in one unit.
    let y ← y.combine? (fun y _ => y) x
    let x ← x.combine? (fun x _ => x) y
    return radians (Decimal.angleTo x.value y.value)
  | _ => none

/-! ## §5 Reading -/

/-- Numbers that have names. -/
def constant? (name : Text) : Option Rat :=
  if name = ['e'] then some (Quantity.single Decimal.euler)
  else if name = "pi".toList then some (Quantity.single Decimal.pi)
  else none

/-- A space that a sign has to stand behind. -/
def termGap : Reader Unit := fun nodes =>
  match nodes.dropWhile fun | .leaf (.comment _) _ => true | _ => false with
  | .leaf .space _ :: rest => some ((), rest)
  | _ => none

/-- The sign of the next term of a sum. -/
def termSign : Reader Rat := do
  termGap
  (do Reader.delim '+'; return 1) <|> (do Reader.delim '-'; return -1)

mutual

/-- A sum; `fuel` is more than the number of nodes. -/
def readSum (kinds : Quantity.Kinds) : (fuel : Nat) → Reader Calc
  | 0 => failure
  | fuel + 1 => do readTerms kinds fuel (← readProduct kinds fuel)

/-- The terms that are left of a sum. -/
def readTerms (kinds : Quantity.Kinds) : (fuel : Nat) → Calc → Reader Calc
  | 0, total => return total
  | fuel + 1, total => do
    match ← optional termSign with
    | none => return total
    | some sign =>
      let term ← readProduct kinds fuel
      readTerms kinds fuel (total.add (if sign = 1 then term else term.scale sign))

/-- A product. -/
def readProduct (kinds : Quantity.Kinds) : (fuel : Nat) → Reader Calc
  | 0 => failure
  | fuel + 1 => do readFactors kinds fuel (← readValue kinds fuel)

/-- The factors that are left of a product. One of two factors is a number, and so is every divisor. -/
def readFactors (kinds : Quantity.Kinds) : (fuel : Nat) → Calc → Reader Calc
  | 0, result => return result
  | fuel + 1, result => do
    match ← optional ((do Reader.delim '*'; return true) <|> (do Reader.delim '/'; return false)) with
    | none => return result
    | some multiplied =>
      match multiplied, result, ← readValue kinds fuel with
      | true, _, .number factor => readFactors kinds fuel (result.scale factor)
      | true, .number factor, other => readFactors kinds fuel (other.scale factor)
      | false, _, .number divisor =>
        if divisor = 0 then failure else readFactors kinds fuel (result.scale (1 / divisor))
      | _, _, _ => failure

/-- A term without signs and factors. -/
def readValue (kinds : Quantity.Kinds) : (fuel : Nat) → Reader Calc
  | 0 => failure
  | fuel + 1 => do
    match ← Reader.next with
    | .call name _ arguments =>
      match readCall? kinds fuel (name.map Char.toLower) arguments with
      | some (.call ['c', 'a', 'l', 'c'] [expr]) => return expr
      | some expr => return expr
      | none => failure
    | .block '(' content => (readSum kinds fuel).all? content
    | .leaf (.number numeral) _ => return .number numeral.value
    | .leaf (.ident name) _ => return .number (← constant? (name.map Char.toLower))
    | .leaf token _ => return .value (← Quantity.ofToken? kinds token)
    | _ => failure

/-- The value of a call. -/
def readCall? (kinds : Quantity.Kinds) : (fuel : Nat) → (name : Text) → List Node → Option Calc
  | 0, _, _ => none
  | fuel + 1, name, nodes =>
    let sum := readSum kinds fuel
    let list := (Reader.commaList sum).all? nodes
    let isNamed (other : String) : Bool := name = other.toList
    let two (operation : Rat → Rat → Rat) : Option Calc := do
      let [first, second] ← list | none
      return (operate? operation first second).getD (.call name [first, second])
    if isNamed "calc" then
      (sum.all? nodes).map fun expr =>
        match expr with
        | .value _ | .number _ => expr
        | _ => .call name [expr]
    else if isNamed "min" then list.map (extremum "min" .lt)
    else if isNamed "max" then list.map (extremum "max" .gt)
    else if isNamed "clamp" then do
      let [lower, center, upper] ← list | none
      return clamp lower center upper
    else if isNamed "round" then
      let rounded : Reader Calc := do
        let rounding ← optional (do
          let name ← Reader.lowerIdent
          let rounding ← Rounding.ofName? name
          Reader.comma
          return (name, rounding))
        let first ← sum
        Reader.comma
        let second ← sum
        let (name, rounding) := rounding.getD ("nearest".toList, .nearest)
        let words : List Calc := if name = "nearest".toList then [] else [.word name]
        return (operate? (roundTo rounding) first second).getD (.call "round".toList (words ++ [first, second]))
      rounded.all? nodes
    else if isNamed "rem" then two remainder
    else if isNamed "mod" then two modulus
    else if isNamed "hypot" then list.map fun exprs => (hypotenuse? exprs).getD (.call name exprs)
    else if isNamed "sin" || isNamed "cos" || isNamed "tan" then
      ((readSum { angle := true } fuel).all? nodes).bind (ofAngle? name)
    else if isNamed "asin" || isNamed "acos" || isNamed "atan" then
      match kinds.angle, (readSum {} fuel).all? nodes with
      | true, some (.number n) => toAngle? name n
      | _, _ => none
    else if isNamed "atan2" then
      if kinds.angle then
        ((Reader.commaList (readSum { length := true, angle := true, time := true } fuel)).all? nodes).bind angleTo?
      else none
    else if isNamed "pow" || isNamed "log" || isNamed "sqrt" || isNamed "exp" then
      ((Reader.commaList (readSum {} fuel)).all? nodes).bind (ofNumbers? name)
    else if isNamed "abs" then
      (sum.all? nodes).map fun expr =>
        match expr with
        | .value quantity => .value (if quantity.value < 0 then quantity.scale (-1) else quantity)
        | .number n => .number (if n < 0 then -n else n)
        | _ => .call name [expr]
    else if isNamed "sign" then
      (sum.all? nodes).map fun expr =>
        match expr with
        | .value quantity => .number (if quantity.isZero then 0 else if quantity.value < 0 then -1 else 1)
        | .number n => .number (if n = 0 then 0 else if n < 0 then -1 else 1)
        | _ => .call name [expr]
    else none

end

/-- A calculation that is written as a call. -/
def read (kinds : Quantity.Kinds) : Reader Calc := fun nodes =>
  match Reader.anyCall.run nodes with
  | some ((name, arguments), rest) =>
    let fuel := (Node.sourceOf arguments).length + 3
    (readCall? kinds (4 * fuel) name arguments).map fun expr => (expr, rest)
  | none => none

/-! ## §6 Spelling -/

mutual

/-- A calculation, or what it is when its sign is turned, as it is written inside a call. -/
def textWith (turned : Bool) : Calc → Text
  | .value quantity => (if turned then quantity.scale (-1) else quantity).textWithUnit
  | .number n => spellNumber (if turned then -n else n)
  | .word name => name
  | .sum first second =>
    let negative := second.sign? = some (if turned then .gt else .lt)
    first.textWith turned ++
      if negative then " - ".toList ++ second.textWith (!turned) else " + ".toList ++ second.textWith turned
  | .product factor expr =>
    let factor := if turned then -factor else factor
    if -1 < factor ∧ factor < 1 then expr.textWith false ++ '/' :: spellNumber (1 / factor)
    else spellNumber factor ++ '*' :: expr.textWith false
  | .call name arguments =>
    (if turned then "-1*".toList else []) ++ name ++ '(' :: Text.join [','] (textsOf arguments) ++ [')']

/-- Calculations as they are written inside a call. -/
def textsOf : List Calc → List Text
  | [] => []
  | expr :: exprs => expr.textWith false :: textsOf exprs

end

/-- A calculation as it is written. -/
def text : Calc → Text
  | .value quantity => quantity.text
  | expr => expr.textWith false

end Calc

namespace Reader

/-! ## §7 Readers of quantities -/

/-- A quantity of some kind, or a calculation of it. -/
def quantity (kinds : Quantity.Kinds) : Reader Calc :=
  Calc.read kinds <|> return Calc.value (← token (Quantity.ofToken? kinds))

/-- A length or a number of pixels without a unit. -/
def bareLength : Reader Calc := token fun
  | .dimension numeral unit => (Quantity.ofUnit? { length := true } numeral.value unit).map .value
  | .number numeral => some (.value (.length numeral.value "px".toList))
  | _ => none

/-- A length. -/
def lengthCalc : Reader Calc := Calc.read { length := true } <|> bareLength

/-- A length. -/
def length : Reader Text := return (← lengthCalc).text

/-- A length or a percentage. -/
def lengthPercentageCalc : Reader Calc :=
  Calc.read { length := true, percentage := true } <|> bareLength <|>
    return Calc.value (← token (Quantity.ofToken? { percentage := true }))

/-- A length or a percentage. -/
def lengthPercentage : Reader Text := return (← lengthPercentageCalc).text

/-- A length, a percentage or `auto`. -/
def lengthPercentageOrAuto : Reader Text := keyword ["auto"] <|> lengthPercentage

/-- The value of a calculation that comes out as one quantity. -/
def settled (kinds : Quantity.Kinds) : Reader Quantity := do
  match ← quantity kinds with
  | .value quantity => return quantity
  | _ => failure

/-- A number. -/
def number : Reader Rat :=
  (do
    match ← Calc.read {} with
    | .number value => return value
    | _ => failure) <|>
    token fun
      | .number numeral => some numeral.value
      | _ => none

/-- A number. -/
def numberText : Reader Text := return spellNumber (← number)

/-- A percentage. -/
def percentage : Reader Rat := return (← settled { percentage := true }).value

/-- A percentage. -/
def percentageText : Reader Text := return spellPercentage (← percentage)

/-- A number or a percentage, as a number. -/
def ratio : Reader Rat := number <|> return (← percentage) / 100

/-- A number or a percentage. -/
def numberOrPercentage : Reader Text := numberText <|> percentageText

/-- An angle. -/
def angle : Reader Quantity := settled { angle := true }

/-- An angle, or zero without a unit. -/
def angleOrZero : Reader Quantity :=
  angle <|> token fun
    | .number numeral =>
      if numeral.value = 0 then some (.angle 0 "deg".toList) else none
    | _ => none

/-- An angle as it is written where zero needs no unit. -/
def turning (quantity : Quantity) : Text := if quantity.isZero then ['0'] else quantity.text

/-- A time. -/
def time : Reader Quantity := settled { time := true }

/-- A time. -/
def timeText : Reader Text := return (← time).text

/-- A resolution. -/
def resolution : Reader Text := token fun
  | .dimension numeral unit =>
    let unit := unit.map Char.toLower
    if unit = "dppx".toList ∨ unit = ['x'] then some (spellDimension numeral.value ['x'])
    else if unit = "dpi".toList ∨ unit = "dpcm".toList then
      some (spellDimension numeral.value unit)
    else none
  | _ => none

end Reader

end DocSite.Css
