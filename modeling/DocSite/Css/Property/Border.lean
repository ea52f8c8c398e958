import DocSite.Css.Property.Basic

/-!
# Properties of borders

Lines around boxes, their corners, images in their place, and shadows.
-/

namespace DocSite.Css

/-- An image in place of lines. -/
structure FrameImage where
  source : Option Text := none
  slice : Option Text := none
  width : Option Text := none
  outset : Option Text := none
  repetition : Option Text := none

/-- The parts of a shadow; inside of the box if it says so. -/
structure Shadow where
  isInside : Bool := false
  lengths : Option Text := none
  color : Option Text := none

namespace Reader

/-! ## §1 Lines -/

/-- The color of the text. -/
def currentColor : Text := "currentColor".toList

/-- Names of the looks of a line. -/
def lineStyles : List String :=
  ["none", "hidden", "inset", "groove", "outset", "ridge", "dotted", "dashed", "solid", "double"]

/-- How wide a line is. -/
def lineWidth : Reader Text := keyword ["thin", "medium", "thick"] <|> length

/-- A line by its width, its look and its color. -/
def line (styles : List String) : Reader Text := do
  let slots : List Slot :=
    [⟨lineWidth, "medium".toList⟩, ⟨keyword styles, "none".toList⟩, ⟨color, currentColor⟩]
  match withoutDefaults slots (← anyOrder slots) with
  | [] => return "none".toList
  | parts => return Text.join [' '] parts

/-! ## §2 Corners -/

/-- The corners of a box: how far they reach along it, and down it if that differs. -/
def corners : Reader Text := do
  let across ← sides lengthPercentage
  let down ← (do
    delim '/'
    sides lengthPercentage) <|> return across
  return if down = across then across else across ++ '/' :: down

/-! ## §3 Images in place of lines -/

/-- How an image is cut up. -/
def imageSlice : Reader Text := do
  let before ← optional (word "fill")
  let offsets ← sides numberOrPercentage
  let behind ← optional (if before.isSome then failure else word "fill")
  return offsets ++ if before.isSome || behind.isSome then " fill".toList else []

/-- How wide a side of an image is. -/
def imageSideWidth : Reader Text := numberText <|> lengthPercentage <|> keyword ["auto"]

/-- How far a side of an image lies outside. -/
def imageSideOutset : Reader Text := numberText <|> length

/-- How the parts of an image fill the sides. -/
def imageRepeat : Reader Text := pair (keyword ["stretch", "repeat", "round", "space"])

/-- How wide the sides of an image are and how far they lie outside, behind a slash. -/
def frameSides : Reader (Option Text × Option Text) := do
  delim '/'
  let width ← optional (sides imageSideWidth)
  let outset ← optional (do
    delim '/'
    sides imageSideOutset)
  if width.isNone && outset.isNone then failure
  return (width, outset)

/-- The parts of an image in place of lines, in any order; `fuel` is at least their number. -/
def frameParts : (fuel : Nat) → FrameImage → Reader FrameImage
  | 0, frame => return frame
  | fuel + 1, frame => do
    let next ← optional (
      (do
        if frame.slice.isSome then failure
        let slice ← imageSlice
        match ← optional frameSides with
        | some (width, outset) => return { frame with slice := some slice, width, outset }
        | none => return { frame with slice := some slice }) <|>
      (do
        if frame.source.isSome then failure
        return { frame with source := some (← image) }) <|>
      (do
        if frame.repetition.isSome then failure
        return { frame with repetition := some (← imageRepeat) }))
    match next with
    | some frame => frameParts fuel frame
    | none => return frame

/-- An image in place of lines, without the parts that are as usual. -/
def frameText (frame : FrameImage) : Text :=
  let kept (usual : String) (part : Option Text) : Option Text :=
    part.filter (· ≠ usual.toList)
  let slice := frame.slice.getD "100%".toList
  let width := kept "1" frame.width
  let outset := kept "0" frame.outset
  let sides :=
    match width, outset with
    | none, none => (kept "100%" frame.slice).getD []
    | some width, none => slice ++ '/' :: width
    | width, some outset => slice ++ '/' :: width.getD [] ++ '/' :: outset
  let parts := [(kept "none" frame.source).getD [], sides, (kept "stretch" frame.repetition).getD []]
  match parts.filter (!·.isEmpty) with
  | [] => "none".toList
  | parts => Text.join [' '] parts

/-- An image in place of lines. -/
def frame : Reader Text := do
  let frame ← frameParts 4 {}
  if frame.source.isNone && frame.slice.isNone && frame.repetition.isNone then failure
  return frameText frame

/-! ## §4 Shadows -/

/-- Lengths of which the last ones are left out if they are nothing. -/
def withoutZeros : List Text → List Text
  | [] => []
  | length :: lengths =>
    match withoutZeros lengths with
    | [] => if length = ['0'] then [] else [length]
    | rest => length :: rest

/-- The place and the size of a shadow: two lengths, and up to `more` others. -/
def shadowLengths (more : Nat) : Reader Text := do
  let x ← length
  let y ← length
  let others ← manyFrom length more
  return Text.join [' '] (x :: y :: withoutZeros others)

/-- The parts of a shadow in any order; `fuel` is at least their number. -/
def shadowParts (mayBeInside : Bool) (more : Nat) : (fuel : Nat) → Shadow → Reader Shadow
  | 0, shadow => return shadow
  | fuel + 1, shadow => do
    let next ← optional (
      (do
        if shadow.isInside || !mayBeInside then failure
        word "inset"
        return { shadow with isInside := true }) <|>
      (do
        if shadow.lengths.isSome then failure
        return { shadow with lengths := some (← shadowLengths more) }) <|>
      (do
        if shadow.color.isSome then failure
        return { shadow with color := some (← Reader.color) }))
    match next with
    | some shadow => shadowParts mayBeInside more fuel shadow
    | none => return shadow

/-- A shadow. -/
def shadow (mayBeInside : Bool) (more : Nat) : Reader Text := do
  let shadow ← shadowParts mayBeInside more 3 {}
  match shadow.lengths with
  | none => failure
  | some lengths =>
    let color := (shadow.color.filter (· ≠ currentColor)).getD []
    return (if shadow.isInside then "inset ".toList else []) ++ lengths ++
      if color.isEmpty then [] else ' ' :: color

end Reader

/-! ## §5 The table -/

open Reader Property in
/-- Properties of borders. -/
def borderProperties : List Property :=
  let style := keyword lineStyles
  let parts := [("-width", lineWidth), ("-style", style), ("-color", color)]
  let frames := [("", frame), ("-source", image), ("-slice", imageSlice), ("-width", sides imageSideWidth),
    ("-outset", sides imageSideOutset), ("-repeat", imageRepeat)]
  (parts.flatMap fun (ending, reader) =>
    family (sideEndings.map fun side => "border" ++ side ++ ending) reader ++
      family (pairEndings.map fun side => "border" ++ side ++ ending) (pair reader) ++
      family ["border" ++ ending] (sides reader)) ++
    family ("border" :: withEndings "border" (sideEndings ++ pairEndings)) (line lineStyles) ++
    marked webkitMoz ["border-top-left-radius", "border-top-right-radius", "border-bottom-left-radius",
      "border-bottom-right-radius"] (pair lengthPercentage) ++
    family ["border-start-start-radius", "border-start-end-radius", "border-end-start-radius",
      "border-end-end-radius"] (pair lengthPercentage) ++
    marked webkitMoz ["border-radius"] corners ++
    (frames.flatMap fun (ending, reader) =>
      marked (if ending = "" then "-o-" :: webkitMoz else []) ["border-image" ++ ending] reader) ++
    (frames.map fun (ending, reader) =>
      { name := "mask-box-image" ++ ending, makers := webkit, isPlain := false, reader }) ++
    (frames.drop 1).map (fun (ending, reader) => { name := "mask-border" ++ ending, reader }) ++
    [ { name := "border-spacing", reader := pair length },
      { name := "outline", reader := line ("auto" :: lineStyles) },
      { name := "outline-color", reader := color },
      { name := "outline-style", reader := keyword ("auto" :: lineStyles) },
      { name := "outline-width", reader := lineWidth },
      { name := "box-shadow", makers := webkitMoz, reader := commaText (shadow true 2) },
      { name := "text-shadow", reader := commaText (shadow false 2) } ]

end DocSite.Css
