import DocSite.Css.Calc

/-!
# Positions

A position in a box is given on two axes, on each by a length or by a side with a distance from it. Sides without
a distance are percentages.
-/

namespace DocSite.Css

/-- Where something stands on one axis. -/
inductive AxisPlace where
  | center
  | length (distance : Calc)
  /-- At a side, or a distance away from it; the near side is where lengths begin. -/
  | side (isNear : Bool) (offset : Option Calc)
  deriving Repr, Inhabited

/-- An axis of a box, by the names of its sides. -/
structure Axis where
  near : String
  far : String

/-- The axis from left to right. -/
def Axis.horizontal : Axis := ⟨"left", "right"⟩

/-- The axis from top to bottom. -/
def Axis.vertical : Axis := ⟨"top", "bottom"⟩

/-- A place in a box. -/
structure Position where
  x : AxisPlace
  y : AxisPlace
  deriving Repr, Inhabited

/-! ## §1 Places on an axis -/

namespace AxisPlace

/-- Whether something stands in the middle. -/
def isCenter : AxisPlace → Bool
  | .center => true
  | .length (.value (.percentage value)) => value = 50
  | _ => false

/-- Whether something stands at a length of nothing from the near side. -/
def isZero : AxisPlace → Bool
  | .length distance => distance.isZero
  | _ => false

/-- A side as a length. -/
def sideLength (isNear : Bool) : Text := if isNear then ['0'] else "100%".toList

/-- The place as it is written on its own. -/
def text (axis : Axis) : AxisPlace → Text
  | .center => "50%".toList
  | .length distance => distance.text
  | .side isNear offset =>
    let side := if isNear then axis.near.toList else axis.far.toList
    match offset with
    | some offset => side ++ ' ' :: offset.text
    | none => side

/-- The place as a length from the near side, if it is one. -/
def lengthText? : AxisPlace → Option Text
  | .side true none => some ['0']
  | .side true (some offset) => some (if offset.isZero then ['0'] else offset.text)
  | .length distance => some (if distance.isZero then ['0'] else distance.text)
  | .center => some "50%".toList
  | .side false _ => none

end AxisPlace

/-! ## §2 Spelling -/

namespace Position

/-- The middle of a box. -/
def center : Position := ⟨.center, .center⟩

/-- Whether a position is in the middle. -/
def isCenter (position : Position) : Bool := position.x.isCenter && position.y.isCenter

/-- Whether a position is given as the middle and not by lengths. -/
def isNamedCenter : Position → Bool
  | ⟨.center, .center⟩ => true
  | _ => false

/-- Whether a position is given by lengths of nothing. -/
def isZero (position : Position) : Bool := position.x.isZero && position.y.isZero

/-- The position as it is written. The middle of the second axis is left out where that is clear. -/
def text (position : Position) : Text :=
  let x := position.x.text .horizontal
  let y := position.y.text .vertical
  match position.x, position.y with
  | .side false (some _), .length length => x ++ " top ".toList ++ length.text
  | .side false (some _), place =>
    if place.isCenter then x ++ " center".toList else both position.x position.y x y
  | .length length, .side false (some _) => "left ".toList ++ length.text ++ ' ' :: y
  | _, _ =>
    if position.y.isCenter then
      match position.x with
      | .side isNear none => AxisPlace.sideLength isNear
      | .side _ (some _) => both position.x position.y x y
      | _ => x
    else
      match position.x, position.y with
      | .side isNear none, .side isTop none =>
        AxisPlace.sideLength isNear ++ ' ' :: AxisPlace.sideLength isTop
      | place, .side _ none => if place.isCenter then y else both position.x position.y x y
      | _, _ => both position.x position.y x y
where
  /-- Two places as lengths if both are, and otherwise as they are written on their own. -/
  both (first second : AxisPlace) (x y : Text) : Text :=
    match first.lengthText?, second.lengthText? with
    | some x, some y => x ++ ' ' :: y
    | _, _ => x ++ ' ' :: y

end Position

/-! ## §3 Reading -/

namespace Reader

/-- A side of an axis, and whether it is the near one. -/
def axisSide (axis : Axis) : Reader Bool := do
  let side ← keyword [axis.near, axis.far]
  return side = axis.near.toList

/-- A place on an axis. -/
def axisPlace (axis : Axis) : Reader AxisPlace :=
  (do word "center"; return .center) <|> (return .length (← lengthPercentageCalc)) <|> do
    let isNear ← axisSide axis
    return .side isNear (← optional lengthPercentageCalc)

/-- A place on the second axis behind a length on the first one. -/
def placeBehindLength : Reader AxisPlace :=
  (return .side (← axisSide .vertical) none) <|> (return .length (← lengthPercentageCalc)) <|>
    (do word "center"; return .center) <|> return .center

/-- A position that begins on the second axis. -/
def verticalFirst : Reader Position := do
  let isTop ← axisSide .vertical
  let rest ← optional (do
    let offset ← optional lengthPercentageCalc
    let x ← (do
      let isLeft ← axisSide .horizontal
      return AxisPlace.side isLeft (← optional lengthPercentageCalc)) <|>
      (do word "center"; return AxisPlace.center)
    return (offset, x))
  match rest with
  | some (offset, x) => return ⟨x, .side isTop offset⟩
  | none => return ⟨.center, .side isTop none⟩

/-- A position. -/
def position : Reader Position := do
  match ← optional (axisPlace .horizontal) with
  | none => verticalFirst
  | some .center =>
    match ← optional (axisPlace .vertical) with
    | some y => return ⟨.center, y⟩
    | none =>
      let x ← optional (axisPlace .horizontal)
      return ⟨x.getD .center, .center⟩
  | some (.length length) => return ⟨.length length, ← placeBehindLength⟩
  | some (.side isNear offset) =>
    match ← optional (word "center") with
    | some _ => return ⟨.side isNear offset, .center⟩
    | none =>
      match ← optional (axisSide .vertical) with
      | some isTop => return ⟨.side isNear offset, .side isTop (← optional lengthPercentageCalc)⟩
      | none =>
        return ⟨.side isNear none, (offset.map AxisPlace.length).getD .center⟩

/-- A position. -/
def positionText : Reader Text := return (← position).text

end Reader

end DocSite.Css
