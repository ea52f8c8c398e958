import DocSite.Css.Calc
import DocSite.Css.Color

/-!
# Color values

A color may be given by its name, by digits, or by its parts in some color space. What comes down to four bytes is
written by them; other colors are written by their parts.
-/

namespace DocSite.Css

-- The smaller and the larger of two numbers are those of the core library, whatever else is imported.
attribute [local instance (high)] Rat.instMin Rat.instMax

/-- A color as a value. -/
inductive ColorValue where
  | bytes (color : Color)
  /-- The color of the text. -/
  | current
  /-- A color that is written in its own way. -/
  | written (text : Text)
  deriving DecidableEq, Repr, Inhabited

/-- A color value as it is written. -/
def ColorValue.text : ColorValue → Text
  | .bytes color => color.short
  | .current => "currentColor".toList
  | .written text => text

/-- Colors of the system. -/
def systemColors : List String :=
  ["accentcolor", "accentcolortext", "activetext", "buttonborder", "buttonface", "buttontext", "canvas",
    "canvastext", "field", "fieldtext", "graytext", "highlight", "highlighttext", "linktext", "mark",
    "marktext", "selecteditem", "selecteditemtext", "visitedtext", "activeborder", "activecaption",
    "appworkspace", "background", "buttonhighlight", "buttonshadow", "captiontext", "inactiveborder",
    "inactivecaption", "inactivecaptiontext", "infobackground", "infotext", "menu", "menutext",
    "scrollbar", "threeddarkshadow", "threedface", "threedhighlight", "threedlightshadow",
    "threedshadow", "window", "windowframe", "windowtext"]

/-! ## §1 Parts of colors -/

/-- A number between two bounds. -/
def between (low high value : Rat) : Rat := max low (min high value)

/-- The byte nearest to a part of one. -/
def byteOf (part : Rat) : Nat := (between 0 1 part * 255 + 1 / 2).floor.toNat

/-- The color of parts of one. -/
def Color.ofParts (red green blue alpha : Rat) : Color :=
  ⟨byteOf red, byteOf green, byteOf blue, byteOf alpha⟩

/-- A part of a color: a number, a percentage or nothing at all. -/
inductive ColorPart where
  | number (value : Rat)
  /-- A part of one. -/
  | share (value : Rat)
  | missing
  deriving DecidableEq, Repr

/-- The part as a number, where a whole has some size. -/
def ColorPart.value (whole : Rat) : ColorPart → Rat
  | .number value => value
  | .share value => value * whole
  | .missing => 0

/-- How the part is written as a number, where a whole has some size. -/
def ColorPart.text (whole : Rat) (part : ColorPart) : Text :=
  if part = .missing then "none".toList else spellNumber (part.value whole)

/-- How the part is written as a percentage, where a whole has some size. -/
def ColorPart.percentText (whole : Rat) (part : ColorPart) : Text :=
  if part = .missing then "none".toList
  else spellPercentage (max 0 (part.value whole) / whole * 100)

/-- The remainder of a number in a ring of some size. -/
def inRing (size value : Rat) : Rat := value - (value / size).floor * size

/-- The red, green and blue parts of a hue, a saturation and a lightness. -/
def partsOfHsl (hue saturation lightness : Rat) : Rat × Rat × Rat :=
  let hue := inRing 360 hue
  let channel (offset : Rat) : Rat :=
    let k := inRing 12 (offset + hue / 30)
    let reach := saturation * min lightness (1 - lightness)
    lightness - reach * max (-1) (min (min (k - 3) (9 - k)) 1)
  (channel 0, channel 8, channel 4)

/-- The red, green and blue parts of a hue with shares of white and black. -/
def partsOfHwb (hue white black : Rat) : Rat × Rat × Rat :=
  if 1 ≤ white + black then
    let gray := white / (white + black)
    (gray, gray, gray)
  else
    let (red, green, blue) := partsOfHsl hue 1 (1 / 2)
    let mixed (part : Rat) : Rat := part * (1 - white - black) + white
    (mixed red, mixed green, mixed blue)

/-- The hue, the saturation and the lightness of red, green and blue parts. A color without saturation has no
hue. -/
def hslOfParts (red green blue : Rat) : Option Rat × Rat × Rat :=
  let high := max red (max green blue)
  let low := min red (min green blue)
  let lightness := (high + low) / 2
  let range := high - low
  if range = 0 then (none, 0, lightness)
  else
    let saturation :=
      if lightness = 0 ∨ lightness = 1 then 0 else (high - lightness) / min lightness (1 - lightness)
    let hue :=
      if high = red then (green - blue) / range + (if green < blue then 6 else 0)
      else if high = green then (blue - red) / range + 2
      else (red - green) / range + 4
    (some (hue * 60), saturation, lightness)

/-! ## §2 Mixing -/

/-- How two hues are joined. -/
inductive HuePath where
  | shorter
  | longer
  | increasing
  | decreasing
  deriving DecidableEq, Repr

/-- The second hue as it is reached from the first one. -/
def HuePath.reach (path : HuePath) (first second : Rat) : Rat × Rat :=
  let difference := second - first
  match path with
  | .shorter =>
    if 180 < difference then (first + 360, second)
    else if difference < -180 then (first, second + 360)
    else (first, second)
  | .longer =>
    if 0 < difference ∧ difference < 180 then (first + 360, second)
    else if -180 < difference ∧ difference ≤ 0 then (first, second + 360)
    else (first, second)
  | .increasing => if second < first then (first, second + 360) else (first, second)
  | .decreasing => if first < second then (first + 360, second) else (first, second)

/-- The color spaces in which colors are mixed. -/
inductive MixSpace where
  | srgb
  | hsl
  | hwb
  deriving DecidableEq, Repr

/-- The coordinates of red, green and blue parts in a color space. The hue comes first; it may be missing. -/
def MixSpace.coordinates (space : MixSpace) (red green blue : Rat) : Option Rat × Rat × Rat :=
  match space with
  | .srgb => (some red, green, blue)
  | .hsl => hslOfParts red green blue
  | .hwb =>
    ((hslOfParts red green blue).1, min red (min green blue), 1 - max red (max green blue))

/-- The red, green and blue parts of coordinates in a color space. -/
def MixSpace.parts (space : MixSpace) (first second third : Rat) : Rat × Rat × Rat :=
  match space with
  | .srgb => (first, second, third)
  | .hsl => partsOfHsl first second third
  | .hwb => partsOfHwb first second third

/-- Two colors mixed with weights that add up to one, and then faded. -/
def mixColors (space : MixSpace) (path : HuePath) (first second : Color) (weight fading : Rat) : Color :=
  let part (byte : Nat) : Rat := mkRat byte 255
  let coordinates (color : Color) : Option Rat × Rat × Rat :=
    space.coordinates (part color.red) (part color.green) (part color.blue)
  let (a₁, a₂, a₃) := coordinates first
  let (b₁, b₂, b₃) := coordinates second
  let hueA := a₁.getD (b₁.getD 0)
  let hueB := b₁.getD (a₁.getD 0)
  let (hueA, hueB) := if space = .srgb then (hueA, hueB) else path.reach hueA hueB
  let alphaA := part first.alpha
  let alphaB := part second.alpha
  let alpha := alphaA * weight + alphaB * (1 - weight)
  -- Of the more opaque color there is more in the mixture.
  let mixed (a b : Rat) : Rat :=
    if alpha = 0 then a * weight + b * (1 - weight)
    else (a * alphaA * weight + b * alphaB * (1 - weight)) / alpha
  let hue := if space = .srgb then mixed hueA hueB else hueA * weight + hueB * (1 - weight)
  let (red, green, blue) := space.parts hue (mixed a₂ b₂) (mixed a₃ b₃)
  Color.ofParts red green blue (alpha * fading)

namespace Reader

/-! ## §3 Reading -/

/-- A part of a color. -/
def colorPart : Reader ColorPart :=
  (do return .number (← number)) <|> (do return .share ((← percentage) / 100)) <|>
    (do word "none"; return .missing)

/-- A percentage as a part of a color. -/
def sharePart : Reader ColorPart :=
  (do return .share (between 0 1 ((← percentage) / 100))) <|> (do word "none"; return .missing)

/-- A hue in degrees. -/
def huePart : Reader ColorPart :=
  (do return .number (← number)) <|>
    (do
      match ← angle with
      | .angle value unit => return .number (Quantity.degrees value unit)
      | _ => failure) <|>
    (do word "none"; return .missing)

/-- The opacity behind a slash. -/
def opacityPart : Reader ColorPart :=
  (do
    delim '/'
    match ← colorPart with
    | .missing => return .missing
    | part => return .number (between 0 1 (part.value 1))) <|>
    return .number 1

/-- The opacity behind a comma. -/
def opacityBehindComma : Reader Rat :=
  (do
    comma
    between 0 1 <$> ratio) <|>
    return 1

/-- The red, green and blue parts of a color, in the older form with commas or in the newer one. -/
def rgbParts : Reader ColorValue := do
  let red ← colorPart
  let isOld ← optional (if red = .missing then failure else comma)
  let byte (value : Rat) : Rat := between 0 255 (value + 1 / 2).floor / 255
  match isOld with
  | some _ =>
    let other : Reader Rat :=
      match red with
      | .number _ => return byte (← number)
      | _ => return (← percentage) / 100
    let green ← other
    comma
    let blue ← other
    let opacity ← opacityBehindComma
    let red := match red with
      | .number n => byte n
      | part => part.value 1
    return .bytes (Color.ofParts red green blue opacity)
  | none =>
    let part : ColorPart → Rat
      | .number n => byte n
      | part => part.value 1
    let green ← colorPart
    let blue ← colorPart
    let opacity ← opacityPart
    return .bytes (Color.ofParts (part red) (part green) (part blue) (opacity.value 1))

/-- The hue and the two shares of a color; the older form has commas. -/
def hueParts (allowsOld : Bool) (parts : Rat → Rat → Rat → Rat × Rat × Rat) : Reader ColorValue := do
  let hue ← huePart
  let isOld ← optional (if allowsOld && hue ≠ .missing then comma else failure)
  let first ← sharePart
  if isOld.isSome then comma
  let second ← sharePart
  let opacity ← if isOld.isSome then ColorPart.number <$> opacityBehindComma else opacityPart
  if isOld.isSome && (first = .missing || second = .missing) then failure
  let (red, green, blue) := parts (hue.value 1) (first.value 1) (second.value 1)
  return .bytes (Color.ofParts red green blue (opacity.value 1))

/-- How opacity is written behind the parts of a color. -/
def opacityText (opacity : ColorPart) : Text :=
  if opacity = .number 1 then [] else '/' :: opacity.text 1

/-- A color by its lightness and two other parts, the last of which may be a hue. -/
def lightnessParts (name : String) (whole reach : Rat) (hasHue : Bool) : Reader ColorValue := do
  let lightness ← colorPart
  let first ← colorPart
  let second ← if hasHue then huePart else colorPart
  let opacity ← opacityPart
  return .written (name.toList ++ '(' :: lightness.percentText whole ++ ' ' :: first.text reach ++
    ' ' :: second.text reach ++ opacityText opacity ++ [')'])

/-- The color spaces of colors that are given by three parts. -/
def spaceName : Reader Text := do
  let name ← keyword ["srgb", "srgb-linear", "display-p3", "a98-rgb", "prophoto-rgb", "rec2020", "xyz-d50",
    "xyz-d65", "xyz"]
  return if name = "xyz-d65".toList then "xyz".toList else name

/-- A color by three parts in a color space; parts may be left out. -/
def spaceParts : Reader ColorValue := do
  let name ← spaceName
  let part : Reader ColorPart := colorPart <|> return .number 0
  let first ← part
  let second ← part
  let third ← part
  let opacity ← opacityPart
  return .written ("color(".toList ++ name ++ ' ' :: first.text 1 ++ ' ' :: second.text 1 ++
    ' ' :: third.text 1 ++ opacityText opacity ++ [')'])

/-- The color space and the path in which colors are mixed. -/
def mixSpace : Reader (MixSpace × HuePath) := do
  word "in"
  let space ← keyword ["srgb", "hsl", "hwb"]
  if space = "srgb".toList then return (.srgb, .shorter)
  let path ← optional (do
    let path ← keyword ["shorter", "longer", "increasing", "decreasing"]
    word "hue"
    return path)
  let path : HuePath :=
    if path = some "longer".toList then .longer
    else if path = some "increasing".toList then .increasing
    else if path = some "decreasing".toList then .decreasing
    else .shorter
  return (if space = "hsl".toList then .hsl else .hwb, path)

/-- A color by its name or its digits. -/
def plainColor : Reader ColorValue := token fun
  | .hash digits _ => (Color.ofDigits? digits).map .bytes
  | .ident name =>
    let lower := name.map Char.toLower
    if lower = "currentcolor".toList then some .current
    else
      match Color.ofName? name with
      | some color => some (.bytes color)
      | none => if systemColors.any (·.toList = lower) then some (.written lower) else none
  | _ => none

mutual

/-- A color; `fuel` is more than the depth of its calls. -/
def colorWith : (fuel : Nat) → Reader ColorValue
  | 0 => failure
  | fuel + 1 => plainColor <|> do
    let (name, arguments) ← anyCall
    colorCall? fuel name arguments

/-- The color of a call. -/
def colorCall? : (fuel : Nat) → (name : Text) → List Node → Option ColorValue
  | 0, _, _ => none
  | fuel + 1, name, nodes =>
    let isNamed (other : String) : Bool := name = other.toList
    if isNamed "rgb" || isNamed "rgba" then rgbParts.all? nodes
    else if isNamed "hsl" || isNamed "hsla" then (hueParts true partsOfHsl).all? nodes
    else if isNamed "hwb" then (hueParts false partsOfHwb).all? nodes
    else if isNamed "lab" then (lightnessParts "lab" 100 125 false).all? nodes
    else if isNamed "lch" then (lightnessParts "lch" 100 150 true).all? nodes
    else if isNamed "oklab" then (lightnessParts "oklab" 1 (4 / 10) false).all? nodes
    else if isNamed "oklch" then (lightnessParts "oklch" 1 (4 / 10) true).all? nodes
    else if isNamed "color" then spaceParts.all? nodes
    else if isNamed "color-mix" then (mixture fuel).all? nodes
    else if isNamed "light-dark" then do
      let [light, dark] ← (commaList (colorWith fuel)).all? nodes | none
      return .written ("light-dark(".toList ++ light.text ++ ',' :: dark.text ++ [')'])
    else none

/-- A mixture of two colors. -/
def mixture : (fuel : Nat) → Reader ColorValue
  | 0 => failure
  | fuel + 1 => do
    let (space, path) ← mixSpace
    comma
    let part : Reader (ColorValue × Option Rat) := do
      let weight ← optional percentage
      let color ← colorWith fuel
      let behind ← optional (if weight.isSome then failure else percentage)
      return (color, (weight.or behind).map (· / 100))
    let (first, weight) ← part
    comma
    let (second, otherWeight) ← part
    let (weight, otherWeight) : Rat × Rat :=
      match weight, otherWeight with
      | none, none => (1 / 2, 1 / 2)
      | some weight, none => (weight, 1 - weight)
      | none, some other => (1 - other, other)
      | some weight, some other => (weight, other)
    let total := weight + otherWeight
    match first, second with
    | .bytes first, .bytes second =>
      if total = 0 then failure
      else return .bytes (mixColors space path first second (weight / total) (min 1 total))
    | _, _ => failure

end

/-- How deep the calls of a color may be nested. -/
def maxColorDepth : Nat := 64

/-- A color. -/
def colorValue : Reader ColorValue := colorWith maxColorDepth

/-- A color. -/
def color : Reader Text := return (← colorValue).text

end Reader

end DocSite.Css
