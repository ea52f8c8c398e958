import DocSite.Css.Property.Basic

/-!
# Properties of boxes

How large a box is, where it stands, what lies around it and how it is shown.
-/

namespace DocSite.Css

/-- How a box is shown in its surroundings, how what is in it is shown, and whether it is an item of a list. -/
structure Shown where
  outer : Option Text := none
  inner : Option Text := none
  isItem : Bool := false

namespace Reader

/-! ## §1 Sizes -/

/-- A size of a box, or one of some names instead. -/
def boxSize (names : List String) : Reader Text :=
  keyword (names ++ ["min-content", "-webkit-min-content", "-moz-min-content", "max-content",
    "-webkit-max-content", "-moz-max-content", "fit-content", "-webkit-fit-content",
    "-moz-fit-content", "stretch", "-webkit-fill-available", "-moz-available", "contain"]) <|>
    (do
      let limit ← call "fit-content" lengthPercentage
      return "fit-content(".toList ++ limit ++ [')']) <|>
    lengthPercentage

/-- Two numbers with a slash; the second one may be left out if it is one. -/
def numberRatio : Reader Text := do
  let first ← number
  let second ← optional (do
    delim '/'
    number)
  return spellNumber first ++
    match second with
    | some second => if second = 1 then [] else '/' :: spellNumber second
    | none => []

/-- How wide a box is for its height. -/
def aspectRatio : Reader Text := do
  let auto ← optional (keyword ["auto"])
  let ratio ← optional numberRatio
  let auto ← if auto.isSome then pure auto else optional (keyword ["auto"])
  match auto, ratio with
  | some auto, some ratio => return auto ++ ' ' :: ratio
  | some auto, none => return auto
  | none, some ratio => return ratio
  | none, none => failure

/-- A number, or a length. -/
def numberOrLength : Reader Text := numberText <|> length

/-! ## §2 How a box is shown -/

/-- Names of how a box is shown in its surroundings. -/
def outerNames : List String := ["block", "inline", "run-in"]

/-- Names of how what is in a box is shown. -/
def innerNames : List String :=
  ["flow", "flow-root", "table", "flex", "-webkit-flex", "-ms-flexbox", "-webkit-box", "-moz-box",
    "grid", "ruby"]

/-- The parts of how a box is shown, in any order; `fuel` is at least their number. -/
def shownParts : (fuel : Nat) → Shown → Reader Shown
  | 0, shown => return shown
  | fuel + 1, shown => do
    let next ← optional (
      (do
        word "list-item"
        return { shown with isItem := true }) <|>
      (do
        if shown.outer.isSome then failure
        return { shown with outer := some (← keyword outerNames) }) <|>
      (do
        if shown.inner.isSome then failure
        return { shown with inner := some (← keyword innerNames) }))
    match next with
    | some shown => shownParts fuel shown
    | none => return shown

/-- Short names for boxes in a line, with what is in them. -/
def inlineNames : List (String × String) :=
  [("inline-block", "flow-root"), ("inline-table", "table"), ("inline-flex", "flex"),
    ("-webkit-inline-flex", "-webkit-flex"), ("-ms-inline-flexbox", "-ms-flexbox"),
    ("-webkit-inline-box", "-webkit-box"), ("-moz-inline-box", "-moz-box"), ("inline-grid", "grid")]

/-- How a box is shown, in as few names as possible. -/
def shownText (shown : Shown) : Option Text :=
  let inner := shown.inner.getD "flow".toList
  let isFlow := inner = "flow".toList
  let usual : Text := if inner = "ruby".toList then "inline".toList else "block".toList
  let outer := shown.outer.getD usual
  if shown.isItem && !isFlow && inner ≠ "flow-root".toList then none
  else
    let short := if shown.isItem || outer ≠ "inline".toList then none
      else inlineNames.find? fun (_, other) => other.toList = inner
    match short with
    | some (name, _) => some name.toList
    | none =>
      let parts := [
        if outer ≠ usual || isFlow && !shown.isItem then outer else [],
        if isFlow then [] else inner,
        if shown.isItem then "list-item".toList else []]
      some (Text.join [' '] (parts.filter (!·.isEmpty)))

/-- How a box is shown. -/
def display : Reader Text :=
  keyword ["none", "contents", "table-row-group", "table-header-group", "table-footer-group", "table-row",
    "table-cell", "table-column-group", "table-column", "table-caption", "ruby-base", "ruby-text",
    "ruby-base-container", "ruby-text-container"] <|> do
    let shown ← shownParts 64 {}
    if shown.isItem || shown.outer.isSome || shown.inner.isSome then shownText shown
    else keyword (inlineNames.map (·.1))

end Reader

/-! ## §3 The table -/

open Reader Property in
/-- Properties of boxes. -/
def boxProperties : List Property :=
  family ["width", "height", "min-width", "min-height", "block-size", "inline-size", "min-block-size",
      "min-inline-size"] (boxSize ["auto"]) ++
    family ["max-width", "max-height", "max-block-size", "max-inline-size"] (boxSize ["none"]) ++
    boxFamily "margin" lengthPercentageOrAuto ++
    boxFamily "padding" lengthPercentageOrAuto ++
    boxFamily "scroll-margin" lengthPercentageOrAuto ++
    boxFamily "scroll-padding" lengthPercentageOrAuto ++
    family ["top", "right", "bottom", "left", "inset-block-start", "inset-block-end",
      "inset-inline-start", "inset-inline-end"] lengthPercentageOrAuto ++
    family ["inset-block", "inset-inline"] (pair lengthPercentageOrAuto) ++
    family ["inset"] (sides lengthPercentageOrAuto) ++
    [ { name := "aspect-ratio", reader := aspectRatio },
      { name := "box-sizing", makers := webkitMoz,
        reader := keyword ["content-box", "border-box"] },
      { name := "overflow", reader := pair (keyword ["visible", "hidden", "clip", "scroll", "auto"]) },
      { name := "overflow-x", reader := keyword ["visible", "hidden", "clip", "scroll", "auto"] },
      { name := "overflow-y", reader := keyword ["visible", "hidden", "clip", "scroll", "auto"] },
      { name := "text-overflow", makers := ["-o-"], reader := keyword ["clip", "ellipsis"] },
      { name := "display", reader := display },
      { name := "visibility", reader := keyword ["visible", "hidden", "collapse"] },
      { name := "opacity", reader := spellNumber <$> ratio },
      { name := "position",
        reader := keyword ["static", "relative", "absolute", "fixed", "sticky", "-webkit-sticky"] },
      { name := "z-index", reader := keyword ["auto"] <|> return spellNumber (← integer) } ]

end DocSite.Css
