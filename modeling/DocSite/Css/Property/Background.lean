import DocSite.Css.Property.Basic

/-!
# Properties of backgrounds

Colors and images behind a box, and masks over it, in layers. The parts of a layer stand in any order; those that
are as usual are left out.
-/

namespace DocSite.Css

/-! ## §1 Parts of layers -/

/-- A part of a layer by its place among the parts: one is read with the size of an image behind it. -/
inductive LayerPart where
  | text (reader : Reader Text)
  | placed

/-- What is known of a layer: its position, the size of its image, and its other parts. -/
structure Layer where
  position : Option Position := none
  size : Option Text := none
  parts : List (Option Text)

/-- The part at some place, or what is usual. -/
def Layer.part (layer : Layer) (place : Nat) (usual : String) : Text :=
  ((layer.parts[place]?).bind id).getD usual.toList

/-- The part at some place, unless it is as usual. -/
def Layer.unlessUsual (layer : Layer) (place : Nat) (usual : String) : Text :=
  let part := layer.part place usual
  if part = usual.toList then [] else part

/-- The size of the image of a layer behind a slash. -/
def Layer.sizeText (layer : Layer) : Text :=
  let size := layer.size.getD "auto".toList
  if size = "auto".toList then [] else '/' :: size

namespace Reader

/-- How large an image is. -/
def imageSize : Reader Text :=
  (do
    let width ← lengthPercentageOrAuto
    match ← optional lengthPercentageOrAuto with
    | none => return width
    | some height => return if height = "auto".toList then width else width ++ ' ' :: height) <|>
    keyword ["cover", "contain"]

/-- How an image fills its layer, across and down. -/
def repetition : Reader Text :=
  keyword ["repeat-x", "repeat-y"] <|> do
    let names := ["repeat", "space", "round", "no-repeat"]
    let x ← keyword names
    let y ← keyword names <|> return x
    return if x = y then x
      else if x = "repeat".toList ∧ y = "no-repeat".toList then "repeat-x".toList
      else if x = "no-repeat".toList ∧ y = "repeat".toList then "repeat-y".toList
      else x ++ ' ' :: y

/-- Names of what moves with a background. -/
def attachmentNames : List String := ["scroll", "fixed", "local"]

/-- Names of the boxes of a box. -/
def backgroundBoxes : List String := ["border-box", "padding-box", "content-box"]

/-- Names of where a background ends. -/
def clipNames : List String := backgroundBoxes ++ ["border", "text"]

/-- Names of the boxes of a box or a drawing. -/
def geometryBoxes : List String :=
  backgroundBoxes ++ ["margin-box", "fill-box", "stroke-box", "view-box"]

/-- The first of some parts that can be read and has not been. -/
def layerPart (layer : Layer) : (place : Nat) → List LayerPart → Reader Layer
  | _, [] => failure
  | place, part :: others =>
    (match part, layer.position, layer.parts[place]? with
    | .text reader, _, some none => do
      return { layer with parts := layer.parts.set place (some (← reader)) }
    | .placed, none, _ => do
      let position ← position
      let size ← optional (do
        delim '/'
        imageSize)
      return { layer with position := some position, size }
    | _, _, _ => failure) <|> layerPart layer (place + 1) others

/-- The parts of a layer in any order; `fuel` is at least their number. -/
def layerParts (parts : List LayerPart) : (fuel : Nat) → Layer → Reader Layer
  | 0, layer => return layer
  | fuel + 1, layer => do
    match ← optional (layerPart layer 0 parts) with
    | some layer => layerParts parts fuel layer
    | none => return layer

/-- A layer of some parts. -/
def layer (parts : List LayerPart) : Reader Layer :=
  layerParts parts parts.length { parts := parts.map fun _ => none }

/-! ## §2 Backgrounds -/

/-- The position of lengths of nothing. -/
def atOrigin : Position :=
  let zero : AxisPlace := .length (.value (.percentage 0))
  ⟨zero, zero⟩

/-- The parts of a background. -/
def backgroundParts : List LayerPart :=
  [.text color, .placed, .text image, .text repetition, .text (keyword attachmentNames),
    .text (keyword backgroundBoxes), .text (keyword clipNames)]

/-- A layer of a background. It ends where it begins unless that is said. If all is as usual, its position
stands for it. -/
def background : Reader Text := do
  let layer ← layer backgroundParts
  let position := layer.position.getD atOrigin
  let origin := layer.part 5 "padding-box"
  let clip := layer.part 6 (String.ofList (layer.part 5 "border-box"))
  let color := layer.part 0 "#0000"
  let isBox := backgroundBoxes.any (·.toList = clip)
  let showsOrigin := origin ≠ "padding-box".toList || clip ≠ "border-box".toList && isBox
  let showsClip := showsOrigin && clip ≠ origin || clip ≠ "border-box".toList
  let placed := if position.isZero && layer.sizeText.isEmpty then [] else position.text ++ layer.sizeText
  let parts := [if color = "#0000".toList then [] else color, layer.unlessUsual 2 "none", placed,
    layer.unlessUsual 3 "repeat", layer.unlessUsual 4 "scroll", if showsOrigin then origin else [],
    if showsClip then clip else []]
  match parts.filter (!·.isEmpty) with
  | [] => return position.text
  | parts => return Text.join [' '] parts

/-! ## §3 Masks -/

/-- The parts of a mask. -/
def maskParts : List LayerPart :=
  [.text image, .placed, .text repetition, .text (keyword geometryBoxes),
    .text (keyword (geometryBoxes ++ ["no-clip"])),
    .text (keyword ["add", "subtract", "intersect", "exclude"]),
    .text (keyword ["luminance", "alpha", "match-source"])]

/-- A layer of a mask. -/
def mask : Reader Text := do
  let layer ← layer maskParts
  let position := layer.position.getD atOrigin
  let origin := layer.part 3 "border-box"
  let clip := layer.part 4 (String.ofList origin)
  let placed := if position.isZero && layer.sizeText.isEmpty then [] else position.text ++ layer.sizeText
  let isUsual := origin = "border-box".toList && clip = origin
  let parts := [layer.part 0 "none", placed, layer.unlessUsual 2 "repeat",
    if isUsual then [] else origin, if clip = origin then [] else clip, layer.unlessUsual 5 "add",
    layer.unlessUsual 6 "match-source"]
  return Text.join [' '] (parts.filter (!·.isEmpty))

end Reader

/-! ## §4 The table -/

open Reader Property in
/-- Properties of backgrounds and masks. -/
def backgroundProperties : List Property :=
  let place (axis : Axis) : Reader Text := commaText ((AxisPlace.text axis) <$> axisPlace axis)
  [ { name := "background", reader := commaText background },
    { name := "background-color", reader := color },
    { name := "background-image", reader := commaText image },
    { name := "background-position", reader := commaText positionText },
    { name := "background-position-x", reader := place .horizontal },
    { name := "background-position-y", reader := place .vertical },
    { name := "background-size", reader := commaText imageSize },
    { name := "background-repeat", reader := commaText repetition },
    { name := "background-attachment", reader := commaText (keyword attachmentNames) },
    { name := "background-origin", reader := commaText (keyword backgroundBoxes) },
    { name := "background-clip", makers := webkitMoz, reader := commaText (keyword clipNames) },
    { name := "mask", makers := webkit, reader := commaText mask },
    { name := "mask-image", makers := webkit, reader := commaText image },
    { name := "mask-position", makers := webkit, reader := commaText positionText },
    { name := "mask-position-x", reader := place .horizontal },
    { name := "mask-position-y", reader := place .vertical },
    { name := "mask-size", makers := webkit, reader := commaText imageSize },
    { name := "mask-repeat", makers := webkit, reader := commaText repetition },
    { name := "mask-origin", makers := webkit, reader := commaText (keyword geometryBoxes) },
    { name := "mask-clip", makers := webkit,
      reader := commaText (keyword (geometryBoxes ++ ["no-clip"])) },
    { name := "mask-mode", reader := commaText (keyword ["luminance", "alpha", "match-source"]) },
    { name := "mask-composite",
      reader := commaText (keyword ["add", "subtract", "intersect", "exclude"]) },
    { name := "mask-type", reader := keyword ["luminance", "alpha"] } ]

end DocSite.Css
