import DocSite.Css.ColorValue
import DocSite.Css.Position

/-!
# Images

An image is an address, a gradient, or a choice of images for different screens. A gradient runs along a line,
from a point outwards or around a point, through colors at positions.
-/

namespace DocSite.Css

/-- What a gradient runs through. -/
inductive GradientItem where
  | stop (color : ColorValue) (position : Option Calc)
  /-- Where two colors meet halfway. -/
  | hint (position : Calc)

/-! ## §1 Items of gradients -/

namespace GradientItem

/-- The position of an item. -/
def position? : GradientItem → Option Calc
  | .stop _ position => position
  | .hint position => some position

/-- Whether the position of an item, if it has one, is a percentage. -/
def isPercentage (item : GradientItem) : Bool :=
  match item.position? with
  | none => true
  | some (.value (.percentage _)) => true
  | some _ => false

/-- A percentage as it is measured from the other end. -/
def turnedPosition : Calc → Calc
  | .value (.percentage value) => .value (.percentage (100 - value))
  | position => position

/-- The item as it is met from the other end. -/
def turned : GradientItem → GradientItem
  | .stop color position => .stop color (position.map turnedPosition)
  | .hint position => .hint (turnedPosition position)

/-- Whether an item says nothing: two colors meet halfway between them anyway. -/
def isIdle : GradientItem → Bool
  | .hint (.value (.percentage value)) => value = 50
  | _ => false

/-- The item as it is written. -/
def text : GradientItem → Text
  | .stop color (some position) => color.text ++ ' ' :: position.text
  | .stop color none => color.text
  | .hint position => position.text

/-- The items as they are written, each with what stands before it. A color with two positions is written once;
`last` is the color of the item before if it has one position. -/
def texts (last : Option ColorValue) : List GradientItem → Text
  | [] => []
  | item :: items =>
    match item with
    | .stop color (some position) =>
      if last = some color then ' ' :: position.text ++ texts none items
      else ',' :: item.text ++ texts (some color) items
    | _ => ',' :: item.text ++ texts none items

/-- All items as they are written. -/
def textOf (items : List GradientItem) : Text := (texts none (items.filter (!·.isIdle))).drop 1

/-- The items of the parts of a gradient. A hint stands only behind a color. -/
def ofParts? (position : Reader Calc) : (afterStop : Bool) → List (List Node) → Option (List GradientItem)
  | _, [] => some []
  | afterStop, part :: parts =>
    match if afterStop then position.all? part else none with
    | some place => (ofParts? position false parts).map (.hint place :: ·)
    | none => do
      let stop : Reader (List GradientItem) := do
        let color ← Reader.colorValue
        match ← optional position with
        | none => return [.stop color none]
        | some first =>
          match ← optional position with
          | none => return [.stop color (some first)]
          | some second => return [.stop color (some first), .stop color (some second)]
      let items ← stop.all? part
      return items ++ (← ofParts? position true parts)

/-- Items between commas. -/
def read (position : Reader Calc) : Reader (List GradientItem) := fun nodes =>
  (ofParts? position false (Reader.commaParts (nodes.length + 1) nodes)).map fun items => (items, [])

end GradientItem

/-! ## §2 Gradients along a line -/

/-- The direction of a line. -/
inductive LineDirection where
  | angle (quantity : Quantity)
  | horizontal (toLeft : Bool)
  | vertical (toTop : Bool)
  | corner (toLeft toTop : Bool)

namespace LineDirection

/-- The direction in degrees, if that says it. -/
def degrees? : LineDirection → Option Rat
  | .angle (.angle value unit) => some (Quantity.degrees value unit)
  | .vertical toTop => some (if toTop then 0 else 180)
  | _ => none

/-- The direction as it is written. -/
def text (isPrefixed : Bool) : LineDirection → Text
  | .angle quantity => quantity.text
  | .horizontal toLeft => if toLeft then "270deg".toList else "90deg".toList
  | .vertical toTop => if toTop then "0deg".toList else "180deg".toList
  | .corner toLeft toTop =>
    (if isPrefixed then [] else "to ".toList) ++ (if toTop then "top ".toList else "bottom ".toList) ++
      if toLeft then "left".toList else "right".toList

/-- Reads a direction. -/
def read (isPrefixed : Bool) : Reader LineDirection :=
  (return .angle (← Reader.angleOrZero)) <|> do
    if !isPrefixed then Reader.word "to"
    match ← optional (Reader.axisSide .horizontal) with
    | some toLeft =>
      match ← optional (Reader.axisSide .vertical) with
      | some toTop => return .corner toLeft toTop
      | none => return .horizontal toLeft
    | none =>
      let toTop ← Reader.axisSide .vertical
      match ← optional (Reader.axisSide .horizontal) with
      | some toLeft => return .corner toLeft toTop
      | none => return .vertical toTop

end LineDirection

namespace Reader

/-- The arguments of a gradient along a line. It runs down if nothing else is said; one that runs up is turned if
its positions are percentages. -/
def linearGradient (isPrefixed : Bool) : Reader Text := do
  let direction ← optional (do
    let direction ← LineDirection.read isPrefixed
    comma
    return direction)
  let items ← GradientItem.read lengthPercentageCalc
  let degrees := match direction with
    | none => some 180
    | some direction => direction.degrees?
  if degrees = some 180 then return GradientItem.textOf items
  else if degrees = some 0 && items.all GradientItem.isPercentage then
    return GradientItem.textOf (items.reverse.map GradientItem.turned)
  else
    let written := (direction.map (LineDirection.text isPrefixed)).getD []
    return written ++ ',' :: GradientItem.textOf items

/-! ## §3 Gradients around a point -/

/-- How far a shape reaches. -/
def shapeExtent : Reader Text :=
  keyword ["closest-side", "farthest-side", "closest-corner", "farthest-corner"]

/-- An ellipse. -/
def ellipse : Reader Text :=
  let size : Reader Text := do
    let x ← lengthPercentage
    return x ++ ' ' :: (← lengthPercentage)
  (do
    let extent ← shapeExtent
    match ← optional (word "circle") with
    | some _ => failure
    | none =>
      discard (optional (word "ellipse"))
      return extent) <|>
    (do
      let size ← size
      discard (optional (word "ellipse"))
      return size) <|> do
    word "ellipse"
    shapeExtent <|> size <|> return "farthest-corner".toList

/-- A circle. -/
def circle : Reader Text :=
  let reaching (extent : Text) : Text :=
    "circle".toList ++ if extent = "farthest-corner".toList then [] else ' ' :: extent
  (do
    let extent ← shapeExtent
    word "circle"
    return reaching extent) <|>
    (do
      let radius ← length
      discard (optional (word "circle"))
      return radius) <|> do
    word "circle"
    (reaching <$> shapeExtent) <|> length <|> return "circle".toList

/-- A position behind the word for it. -/
def atPosition : Reader Position := do
  word "at"
  position

/-- Parts that stand before the items of a gradient, and a comma behind them if there are any. -/
def beforeItems (parts : List Text) : Text :=
  let parts := parts.filter (!·.isEmpty)
  if parts.isEmpty then [] else Text.join [' '] parts ++ [',']

/-- A position where it is not the middle. -/
def unlessCenter (position : Position) : Text :=
  if position.isCenter then [] else "at ".toList ++ position.text

/-- The arguments of a gradient from a point outwards. -/
def radialGradient : Reader Text := do
  let shape ← optional (ellipse <|> circle)
  let position ← optional atPosition
  if shape.isSome || position.isSome then comma
  let items ← GradientItem.read lengthPercentageCalc
  let shape := if shape = some "farthest-corner".toList then [] else shape.getD []
  return beforeItems [shape, unlessCenter (position.getD .center)] ++ GradientItem.textOf items

/-- The arguments of a gradient around a point. -/
def conicGradient : Reader Text := do
  let angle ← optional (do
    word "from"
    angleOrZero)
  let position := (← optional atPosition).getD .center
  let isTurned := angle.any (!·.isZero)
  if isTurned || !position.isNamedCenter then comma
  let items ← GradientItem.read (quantity { angle := true, percentage := true })
  let turn := if isTurned then "from ".toList ++ (angle.map Quantity.text).getD [] else []
  return beforeItems [turn, unlessCenter position] ++ GradientItem.textOf items

/-! ## §4 The older form of gradients -/

/-- One coordinate of a point. -/
def pointPlace (axis : Axis) : Reader Text :=
  (do word "center"; return "50%".toList) <|> numberText <|>
    (do
      let value ← percentage
      return if value = 0 then ['0'] else spellPercentage value) <|>
    return AxisPlace.sideLength (← axisSide axis)

/-- A point. -/
def gradientPoint : Reader Text := do
  let x ← pointPlace .horizontal
  return x ++ ' ' :: (← pointPlace .vertical)

/-- A color at a position. -/
def olderStop : Reader Text :=
  let spelled (position : Rat) (color : Text) : Text :=
    if position = 0 then "from(".toList ++ color ++ [')']
    else if position = 1 then "to(".toList ++ color ++ [')']
    else "color-stop(".toList ++ spellNumber position ++ ',' :: color ++ [')']
  (spelled 0 <$> call "from" color) <|> (spelled 1 <$> call "to" color) <|>
    call "color-stop" do
      let position ← ratio
      comma
      return spelled position (← color)

/-- Values with commas behind them. -/
def eachWithComma : List (Reader Text) → Reader (List Text)
  | [] => return []
  | reader :: readers => do
    let value ← reader
    comma
    return value :: (← eachWithComma readers)

/-- The arguments of a gradient in the older form. -/
def olderGradient : Reader Text := do
  let kind ← keyword ["linear", "radial"]
  comma
  let parts := if kind = "linear".toList then [gradientPoint, gradientPoint]
    else [gradientPoint, numberText, gradientPoint, numberText]
  let values ← eachWithComma parts
  return Text.join [','] (kind :: values ++ (← commaList olderStop))

/-! ## §5 Images -/

/-- An address. -/
def url : Reader Text :=
  (token fun
    | .address address => some address
    | _ => none) <|> call "url" string

/-- An address, as it is written. -/
def urlText : Reader Text := return spellAddress (← url)

/-- A name without the mark of a maker, and whether it had one. -/
def withoutMaker (name : Text) : Text × Bool :=
  match ["-webkit-", "-moz-", "-o-"].findSome? fun maker => Text.after? maker.toList name with
  | some rest => (rest, true)
  | none => (name, false)

/-- A gradient. -/
def gradient : Reader Text := do
  let (name, arguments) ← anyCall
  let (kind, isPrefixed) := withoutMaker name
  let (kind, _) := match Text.after? "repeating-".toList kind with
    | some rest => (rest, true)
    | none => (kind, false)
  let arguments? : Option Text :=
    if kind = "linear-gradient".toList then (linearGradient isPrefixed).all? arguments
    else if kind = "radial-gradient".toList then radialGradient.all? arguments
    else if kind = "conic-gradient".toList && !isPrefixed then conicGradient.all? arguments
    else if name = "-webkit-gradient".toList then olderGradient.all? arguments
    else none
  match arguments? with
  | some written => return name ++ '(' :: written ++ [')']
  | none => failure

/-- The type of an image. -/
def imageType : Reader Text := do
  let type ← call "type" string
  return " type(".toList ++ spellString type ++ [')']

/-- An image with the resolution it is for. -/
def imageOption (image : Reader Text) (isPrefixed : Bool) : Reader Text := do
  let address : Reader Text := do
    let address ← url <|> string
    return if isPrefixed then spellAddress address else spellString address
  let image ← address <|> image
  let (resolution, type) ← (do
    let resolution ← resolution
    return (resolution, (← optional imageType).getD [])) <|> (do
    let type ← optional imageType
    return ((← optional resolution).getD "1x".toList, type.getD []))
  return image ++ ' ' :: resolution ++ type

/-- An image; `fuel` is more than the depth of choices. -/
def imageWith : (fuel : Nat) → Reader Text
  | 0 => failure
  | fuel + 1 =>
    keyword ["none"] <|> urlText <|> gradient <|> do
      let (name, arguments) ← anyCall
      let isPrefixed := name = "-webkit-image-set".toList
      if !isPrefixed && name ≠ "image-set".toList then failure
      match (commaText (imageOption (imageWith fuel) isPrefixed)).all? arguments with
      | some options => return name ++ '(' :: options ++ [')']
      | none => failure

/-- An image. -/
def image : Reader Text := imageWith 8

end Reader

end DocSite.Css
