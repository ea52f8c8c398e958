import DocSite.Css.Property.Border
import DocSite.Css.Property.Grid

/-!
# Properties of text

How text is set, decorated and marked, lists, and how a page answers its reader.
-/

namespace DocSite.Css

namespace Reader

/-! ## §1 Setting text -/

/-- Those of some names that are given, in any order; `fuel` is at least their number. -/
def someOf (names : List String) : (fuel : Nat) → Reader (List Text)
  | 0 => return []
  | fuel + 1 => do
    match ← optional (keyword names) with
    | some name => return name :: (← someOf names fuel)
    | none => return []

/-- The names that are given, in their usual order. -/
def inOrder (names : List String) (given : List Text) : List Text :=
  (names.map String.toList).filter given.contains

/-- Capitals of a text, and which characters are made wide. -/
def textTransform : Reader Text := do
  let cases := ["none", "uppercase", "lowercase", "capitalize"]
  let others := ["full-width", "full-size-kana"]
  let before ← someOf others 8
  let letters ← optional (keyword cases)
  let behind ← if letters = some "none".toList then pure [] else someOf others 8
  let others := if letters = some "none".toList then [] else inOrder others (before ++ behind)
  let parts := (letters.filter (· ≠ "none".toList)).toList ++ others
  return if parts.isEmpty then "none".toList else Text.join [' '] parts

/-- Room between characters or words. -/
def spacing : Reader Text := keyword ["normal"] <|> length

/-- How far lines are set in, and which of them are. -/
def textIndent : Reader Text := do
  let names := ["hanging", "each-line"]
  let before ← someOf names 2
  let indent ← lengthPercentage
  let behind ← someOf names 2
  let given := before ++ behind
  if given.length ≠ given.eraseDups.length then failure
  return Text.join [' '] (indent :: inOrder names given)

/-! ## §2 Decoration -/

/-- Lines of a decoration. -/
def decorationLines : List String := ["underline", "overline", "line-through", "blink"]

/-- The lines of a decoration. -/
def decorationLine : Reader Text :=
  keyword ["none", "spelling-error", "grammar-error"] <|> do
    let given ← someOf decorationLines 64
    if given.isEmpty then failure
    return Text.join [' '] (inOrder decorationLines given)

/-- How the lines of a decoration look. -/
def decorationStyle : Reader Text := keyword ["solid", "double", "dotted", "dashed", "wavy"]

/-- How thick the lines of a decoration are. -/
def decorationThickness : Reader Text := keyword ["auto", "from-font"] <|> lengthPercentage

/-- A decoration. Without lines nothing else counts. -/
def decoration : Reader Text := do
  let slots : List Slot := [⟨decorationLine, "none".toList⟩, ⟨decorationThickness, "auto".toList⟩,
    ⟨decorationStyle, "solid".toList⟩, ⟨color, currentColor⟩]
  let values := (slots.zip (← fill slots)).map fun (slot, value) => value.getD slot.default
  return if values.headD [] = "none".toList then "none".toList
    else Text.join [' '] (withoutDefaults slots values)

/-- The marks beside a text for emphasis. -/
def emphasisStyle : Reader Text :=
  let shape := keyword ["dot", "circle", "double-circle", "triangle", "sesame"]
  keyword ["none"] <|> (spellString <$> string) <|> do
    let before ← optional shape
    let filling ← optional (keyword ["filled", "open"])
    let behind ← optional (if before.isSome then failure else shape)
    match filling, before.or behind with
    | none, none => failure
    | filling, some shape =>
      return if filling = some "open".toList then "open ".toList ++ shape else shape
    | some filling, none => return filling

/-- Marks for emphasis and their color. -/
def emphasis : Reader Text := do
  let slots : List Slot := [⟨emphasisStyle, "none".toList⟩, ⟨color, currentColor⟩]
  let values := (slots.zip (← fill slots)).map fun (slot, value) => value.getD slot.default
  return if values.headD [] = "none".toList then "none".toList
    else Text.join [' '] (withoutDefaults slots values)

/-- Where marks for emphasis stand. -/
def emphasisPosition : Reader Text := do
  let before ← optional (keyword ["left", "right"])
  let vertical ← keyword ["over", "under"]
  let behind ← optional (if before.isSome then failure else keyword ["left", "right"])
  return if before.or behind = some "left".toList then vertical ++ " left".toList else vertical

/-! ## §3 Lists -/

/-- A symbol of a list: a string or an image. -/
def listSymbol : Reader Text := (spellString <$> string) <|> image

/-- Symbols of a list, and how they are used. -/
def listSymbols : Reader Text := do
  let parts ← call "symbols" do
    let kind ← optional (keyword ["cyclic", "numeric", "alphabetic", "symbolic", "fixed"])
    return (kind.filter (· ≠ "symbolic".toList)).toList ++ (← many listSymbol)
  return "symbols(".toList ++ Text.join [' '] parts ++ [')']

/-- Names of how items of a list are counted. -/
def counterNames : List String :=
  ["decimal", "decimal-leading-zero", "arabic-indic", "armenian", "upper-armenian", "lower-armenian",
    "bengali", "cambodian", "khmer", "cjk-decimal", "devanagari", "georgian", "gujarati", "gurmukhi",
    "hebrew", "kannada", "lao", "malayalam", "mongolian", "myanmar", "oriya", "persian", "lower-roman",
    "upper-roman", "tamil", "telugu", "thai", "tibetan", "lower-alpha", "lower-latin", "upper-alpha",
    "upper-latin", "lower-greek", "hiragana", "hiragana-iroha", "katakana", "katakana-iroha", "disc",
    "circle", "square", "disclosure-open", "disclosure-closed", "cjk-earthly-branch",
    "cjk-heavenly-stem", "japanese-informal", "japanese-formal", "korean-hangul-formal",
    "korean-hanja-informal", "korean-hanja-formal", "simp-chinese-informal", "simp-chinese-formal",
    "trad-chinese-informal", "trad-chinese-formal", "ethiopic-numeric"]

/-- The marks of a list. -/
def listType : Reader Text :=
  keyword ("none" :: counterNames) <|> (spellString <$> string) <|> listSymbols <|>
    spellName <$> customIdent

/-- Where the marks of a list stand. -/
def listPosition : Reader Text := keyword ["inside", "outside"]

/-! ## §4 Answers to a reader -/

/-- The shape of the pointer, with images for it. -/
def cursor : Reader Text := fun nodes =>
  let pointer : Reader Text := do
    let address ← urlText
    match ← optional (do
      let x ← numberText
      return x ++ ' ' :: (← numberText)) with
    | some place => return address ++ ' ' :: place
    | none => return address
  let name := keyword ["auto", "default", "none", "context-menu", "help", "pointer", "progress", "wait",
    "cell", "crosshair", "text", "vertical-text", "alias", "copy", "move", "no-drop", "not-allowed",
    "grab", "grabbing", "e-resize", "n-resize", "ne-resize", "nw-resize", "s-resize", "se-resize",
    "sw-resize", "w-resize", "ew-resize", "ns-resize", "nesw-resize", "nwse-resize", "col-resize",
    "row-resize", "all-scroll", "zoom-in", "zoom-out"]
  let parts := commaParts (nodes.length + 1) nodes
  match parts.dropLast.mapM pointer.all?, (parts.getLast?).bind name.all? with
  | some pointers, some name => some (Text.join [','] (pointers ++ [name]), [])
  | _, _ => none

/-- A color, or whatever fits. -/
def colorOrAuto : Reader Text := keyword ["auto"] <|> color

/-- Light and dark colors that a page has. -/
def colorScheme : Reader Text := do
  let names ← atLeastOne lowerIdent
  let names := names.map String.ofList
  if names.head? = some "normal" then
    if names.length = 1 then return "normal".toList else failure
  let hasOnly := names.contains "only"
  let inside := (names.drop 1).dropLast
  if names.contains "normal" || inside.contains "only" || 1 < names.count "only" then failure
  let parts := (["light", "dark"].filter names.contains) ++ if hasOnly then ["only"] else []
  return if parts.isEmpty then "normal".toList else Text.join [' '] (parts.map String.toList)

/-- Names of a container, or none. -/
def containerNames : Reader Text := keyword ["none"] <|> do
  return Text.join [' '] ((← atLeastOne customIdent).map spellName)

/-- Names of what a container tells about itself. -/
def containerTypes : Reader Text := keyword ["normal", "inline-size", "size", "scroll-state"]

/-- Names of a container and what it tells about itself. -/
def container : Reader Text := do
  let names ← containerNames
  let type ← optional (do
    delim '/'
    containerTypes)
  return names ++ ((type.filter (· ≠ "normal".toList)).map ('/' :: ·)).getD []

end Reader

/-! ## §5 The table -/

open Reader in
/-- Properties of text. -/
def textProperties : List Property :=
  let alignments := ["start", "end", "left", "right", "center", "justify", "match-parent"]
  [ { name := "color", reader := color },
    { name := "text-transform", reader := textTransform },
    { name := "white-space",
      reader := keyword ["normal", "pre", "nowrap", "pre-wrap", "break-spaces", "pre-line"] },
    { name := "tab-size", makers := ["-moz-", "-o-"], reader := numberText <|> length },
    { name := "word-break", reader := keyword ["normal", "keep-all", "break-all", "break-word"] },
    { name := "line-break", reader := keyword ["auto", "loose", "normal", "strict", "anywhere"] },
    { name := "hyphens", makers := "-ms-" :: Property.webkitMoz,
      reader := keyword ["none", "manual", "auto"] },
    { name := "overflow-wrap", reader := keyword ["normal", "anywhere", "break-word"] },
    { name := "word-wrap", reader := keyword ["normal", "anywhere", "break-word"] },
    { name := "text-align", reader := keyword ("justify-all" :: alignments) },
    { name := "text-align-last", makers := ["-moz-"], reader := keyword ("auto" :: alignments) },
    { name := "text-justify", reader := keyword ["auto", "none", "inter-word", "inter-character"] },
    { name := "word-spacing", reader := spacing },
    { name := "letter-spacing", reader := spacing },
    { name := "text-indent", reader := textIndent },
    { name := "text-decoration", makers := Property.webkitMoz, reader := decoration },
    { name := "text-decoration-line", makers := Property.webkitMoz, reader := decorationLine },
    { name := "text-decoration-style", makers := Property.webkitMoz, reader := decorationStyle },
    { name := "text-decoration-color", makers := Property.webkitMoz, reader := color },
    { name := "text-decoration-thickness", reader := decorationThickness },
    { name := "text-decoration-skip-ink", makers := Property.webkit,
      reader := keyword ["auto", "none", "all"] },
    { name := "text-emphasis", makers := Property.webkit, reader := emphasis },
    { name := "text-emphasis-style", makers := Property.webkit, reader := emphasisStyle },
    { name := "text-emphasis-color", makers := Property.webkit, reader := color },
    { name := "text-emphasis-position", makers := Property.webkit, reader := emphasisPosition },
    { name := "text-size-adjust", makers := "-ms-" :: Property.webkitMoz,
      reader := keyword ["auto", "none"] <|> percentageText },
    { name := "direction", reader := keyword ["ltr", "rtl"] },
    { name := "unicode-bidi",
      reader := keyword ["normal", "embed", "isolate", "bidi-override", "isolate-override", "plaintext"] },
    { name := "box-decoration-break", makers := Property.webkit, reader := keyword ["slice", "clone"] },
    { name := "list-style",
      reader := shorthand [⟨listType, "disc".toList⟩, ⟨image, "none".toList⟩,
        ⟨listPosition, "outside".toList⟩] },
    { name := "list-style-type", reader := listType },
    { name := "list-style-image", reader := image },
    { name := "list-style-position", reader := listPosition },
    { name := "marker-side", reader := keyword ["match-self", "match-parent"] },
    { name := "resize", reader := keyword ["none", "both", "horizontal", "vertical", "block", "inline"] },
    { name := "cursor", reader := cursor },
    { name := "caret-color", reader := colorOrAuto },
    { name := "caret-shape", reader := keyword ["auto", "bar", "block", "underscore"] },
    { name := "caret",
      reader := shorthand [⟨colorOrAuto, "auto".toList⟩,
        ⟨keyword ["auto", "bar", "block", "underscore"], "auto".toList⟩] },
    { name := "accent-color", reader := colorOrAuto },
    { name := "user-select", makers := "-ms-" :: Property.webkitMoz,
      reader := keyword ["auto", "text", "none", "contain", "all"] },
    { name := "appearance", makers := "-ms-" :: Property.webkitMoz,
      reader := keyword ["none", "auto", "textfield", "menulist-button", "button", "checkbox", "listbox",
        "menulist", "meter", "progress-bar", "push-button", "radio", "searchfield",
        "slider-horizontal", "square-button", "textarea"] },
    { name := "color-scheme", reader := colorScheme },
    { name := "print-color-adjust", makers := Property.webkit, reader := keyword ["economy", "exact"] },
    { name := "container-type", reader := containerTypes },
    { name := "container-name", reader := containerNames },
    { name := "container", reader := container } ]

end DocSite.Css
