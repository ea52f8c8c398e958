import DocSite.Css.Property.Basic

/-!
# Properties of fonts

Families of fonts, and which font of a family is used.
-/

namespace DocSite.Css

/-! ## §1 Families -/

/-- Names that stand for a family instead of being its name. -/
def genericFamilies : List String :=
  ["serif", "sans-serif", "cursive", "fantasy", "monospace", "system-ui", "emoji", "math", "fangsong",
    "ui-serif", "ui-sans-serif", "ui-monospace", "ui-rounded", "initial", "inherit", "unset", "default",
    "revert", "revert-layer"]

/-- The name of a family as it is written: without quotes if its words are names and that is shorter. -/
def spellFamily (name : Text) : Text :=
  let isGeneric := genericFamilies.any (·.toList = name.map Char.toLower)
  let bare := Text.join [' '] ((Text.splitOn [' '] name).map spellName)
  if !name.isEmpty && !isGeneric && Text.utf8Length bare < Text.utf8Length name + 2 then bare else spellString name

namespace Reader

/-- A family of fonts. -/
def family : Reader Text :=
  keyword genericFamilies <|> (spellFamily <$> string) <|> do
    return spellFamily (Text.join [' '] (← atLeastOne ident))

/-! ## §2 Fonts of a family -/

/-- How bold a font is. -/
def fontWeight : Reader Text :=
  numberText <|> do
    let name ← keyword ["normal", "bold", "bolder", "lighter"]
    return if name = "normal".toList then "400".toList
      else if name = "bold".toList then "700".toList
      else name

/-- Names of how wide a font is, with how wide that is. -/
def stretchNames : List (String × String) :=
  [("normal", "100%"), ("ultra-condensed", "50%"), ("extra-condensed", "62.5%"), ("condensed", "75%"),
    ("semi-condensed", "87.5%"), ("semi-expanded", "112.5%"), ("expanded", "125%"),
    ("extra-expanded", "150%"), ("ultra-expanded", "200%")]

/-- How wide a font is, by name. -/
def namedStretch : Reader Text := do
  let name ← lowerIdent
  match stretchNames.find? fun (other, _) => other.toList = name with
  | some (_, width) => return width.toList
  | none => failure

/-- How wide a font is. -/
def fontStretch : Reader Text := namedStretch <|> percentageText

/-- How a font leans. Fourteen degrees is usual. -/
def fontStyle : Reader Text :=
  keyword ["normal", "italic"] <|> do
    word "oblique"
    match ← optional angle with
    | none => return "oblique".toList
    | some (.angle value unit) =>
      return "oblique".toList ++
        if Quantity.degrees value unit = 14 then []
        else ' ' :: (Quantity.angle value unit).text
    | some _ => failure

/-- How large a font is. -/
def fontSize : Reader Text :=
  lengthPercentage <|> keyword ["xx-small", "x-small", "small", "medium", "large", "x-large", "xx-large",
    "xxx-large", "smaller", "larger"]

/-- How high a line is. -/
def lineHeight : Reader Text := keyword ["normal"] <|> numberText <|> lengthPercentage

/-- A font: how it leans, what its capitals are, how bold and how wide it is, its size and its families. The
word for what is usual may stand for any part. -/
def font : Reader Text := do
  let usual := "normal".toList
  let slots : List Slot :=
    [⟨fontStyle, usual⟩, ⟨keyword ["small-caps"], usual⟩, ⟨fontWeight, "400".toList⟩,
      ⟨namedStretch, "100%".toList⟩]
  let (filled, count) ← parts slots 5 (slots.map fun _ => none) 0
  if 4 < count then failure
  let size ← fontSize
  let height ← optional (do
    delim '/'
    lineHeight)
  let families ← commaText family
  return Text.join [' '] (filled.filterMap id ++
    [size ++ ((height.filter (· ≠ usual)).map ('/' :: ·)).getD [], families])
where
  /-- The parts before the size, and their number. -/
  parts (slots : List Slot) : (fuel : Nat) → List (Option Text) → Nat → Reader (List (Option Text) × Nat)
    | 0, filled, count => return (filled, count)
    | fuel + 1, filled, count => do
      match ← optional (word "normal") with
      | some _ => parts slots fuel filled (count + 1)
      | none =>
        match ← optional (fillOne slots filled) with
        | some (place, value) => parts slots fuel (filled.set place (some value)) (count + 1)
        | none => return (filled, count)

/-- Names of what capitals of a font are. -/
def capitalNames : List String :=
  ["normal", "small-caps", "all-small-caps", "petite-caps", "all-petite-caps", "unicase", "titling-caps"]

/-- Where a box stands on a line of text. -/
def verticalAlign : Reader Text :=
  keyword ["baseline", "sub", "super", "top", "text-top", "middle", "bottom", "text-bottom"] <|>
    lengthPercentage

end Reader

/-! ## §3 The table -/

open Reader in
/-- Properties of fonts. -/
def fontProperties : List Property :=
  [ { name := "font", reader := font },
    { name := "font-family", reader := commaText family },
    { name := "font-weight", reader := fontWeight },
    { name := "font-size", reader := fontSize },
    { name := "font-stretch", reader := fontStretch },
    { name := "font-style", reader := fontStyle },
    { name := "font-variant-caps", reader := keyword capitalNames },
    { name := "font-palette", reader := spellName <$> dashedIdent },
    { name := "line-height", reader := lineHeight },
    { name := "vertical-align", reader := verticalAlign } ]

end DocSite.Css
