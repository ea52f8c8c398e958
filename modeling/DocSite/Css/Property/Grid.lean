import DocSite.Css.Property.Basic

/-!
# Properties of grids

A grid has tracks with named lines between them, and may have named areas. Boxes are placed by lines or by areas.
-/

namespace DocSite.Css

/-! ## §1 Tracks -/

/-- Tracks as they are written: `names` are those of the lines before each track and behind the last one. -/
structure TrackList where
  names : List (List Text)
  tracks : List Text
  deriving DecidableEq, Repr, Inhabited

/-- The names of a line. -/
def lineNamesText (names : List Text) : Text :=
  if names.isEmpty then [] else '[' :: Text.join [' '] (names.map spellName) ++ [']']

namespace TrackList

/-- Tracks with the names of lines; a blank stands only between tracks without names. -/
def textFrom (isFirst : Bool) : List (List Text) → List Text → Text
  | [], _ => []
  | names :: others, tracks =>
    lineNamesText names ++
      match tracks with
      | [] => textFrom false others []
      | track :: tracks =>
        (if names.isEmpty && !isFirst then [' '] else []) ++ track ++ textFrom false others tracks

/-- Tracks as they are written. -/
def text (list : TrackList) : Text := textFrom true list.names list.tracks

end TrackList

namespace Reader

/-- A name that an author may choose. -/
def customIdent : Reader Text := do
  let name ← ident
  if ["initial", "inherit", "unset", "default", "revert", "revert-layer"].any
    (·.toList = name.map Char.toLower) then failure
  return name

/-- The names of a line. -/
def lineNames : Reader (List Text) := block '[' (many customIdent)

/-- How wide a track is at least or at most. -/
def trackBreadth (mayFlex : Bool) : Reader Text :=
  lengthPercentage <|>
    (token fun
      | .dimension numeral unit =>
        if mayFlex && unit.map Char.toLower = "fr".toList && 0 ≤ numeral.value then
          some (spellDimension numeral.value "fr".toList)
        else none
      | _ => none) <|>
    keyword ["auto", "min-content", "max-content"]

/-- How wide a track is. -/
def trackSize : Reader Text :=
  trackBreadth true <|>
    (do
      let (least, most) ← call "minmax" do
        let least ← trackBreadth false
        comma
        return (least, ← trackBreadth true)
      return "minmax(".toList ++ least ++ ',' :: most ++ [')']) <|> do
    let limit ← call "fit-content" lengthPercentage
    return "fit-content(".toList ++ limit ++ [')']

/-- Tracks of some kind with the names of lines; `fuel` is more than their number. -/
def tracksFrom (track : Reader Text) : (fuel : Nat) → Reader TrackList
  | 0 => failure
  | fuel + 1 => do
    let names := (← optional lineNames).getD []
    match ← optional track with
    | none => return ⟨[names], []⟩
    | some size =>
      let rest ← tracksFrom track fuel
      return ⟨names :: rest.names, size :: rest.tracks⟩

/-- Tracks of some kind with the names of lines. -/
def tracks (track : Reader Text) : Reader TrackList := do
  tracksFrom track ((← get).length + 1)

/-- Tracks that are repeated. -/
def trackRepeat : Reader Text := do
  let (count, list) ← call "repeat" do
    let count ← (return spellNumber (← integer)) <|> keyword ["auto-fill", "auto-fit"]
    comma
    return (count, ← tracks trackSize)
  return "repeat(".toList ++ count ++ ',' :: list.text ++ [')']

/-- Tracks of a grid, at least one. -/
def trackList : Reader TrackList := do
  let list ← tracks (trackSize <|> trackRepeat)
  if list.tracks.isEmpty then failure
  return list

/-- Tracks of a grid, or none. -/
def trackSizing : Reader Text := keyword ["none"] <|> TrackList.text <$> trackList

/-- Sizes of tracks that are made as needed. -/
def trackSizes : Reader Text := do
  let sizes ← many trackSize
  return if sizes.isEmpty then "auto".toList else Text.join [' '] sizes

end Reader

/-! ## §2 Areas -/

/-- Whether a character stands in the name of an area. -/
def isAreaChar (c : Char) : Bool := isNameChar c && c ≠ '\x00'

/-- The cells of a row of areas: names, or nothing for points; `fuel` is at least the length of the row. -/
def areaCells? : (fuel : Nat) → Text → Option (List (Option Text))
  | 0, row => if row.isEmpty then some [] else none
  | fuel + 1, row =>
    match row.dropWhile isBlankChar with
    | [] => some []
    | '.' :: rest => (areaCells? fuel (rest.dropWhile (· = '.'))).map (none :: ·)
    | rest =>
      let name := rest.takeWhile isAreaChar
      if name.isEmpty then none
      else (areaCells? fuel (rest.dropWhile isAreaChar)).map (some name :: ·)

/-- The cells of a row behind another cell. A blank stands between two names and between two points. -/
def areaTextFrom (before : Option (Option Text)) : List (Option Text) → Text
  | [] => []
  | cell :: cells =>
    let isApart := before.any fun other => other.isSome = cell.isSome
    (if isApart then [' '] else []) ++ cell.getD ['.'] ++ areaTextFrom (some cell) cells

/-- A row of areas as it is written. -/
def areaRowText (cells : List (Option Text)) : Text := '"' :: areaTextFrom none cells ++ ['"']

namespace Reader

/-- A row of areas; it has at least one cell. -/
def areaRow : Reader (List (Option Text)) := do
  let row ← string
  match areaCells? row.length row with
  | some cells => if cells.isEmpty then failure else return cells
  | none => failure

/-- Whether all rows have as many cells as the first one. -/
def areEven (rows : List (List (Option Text))) : Bool :=
  rows.all fun row => row.length = (rows.headD []).length

/-- The areas of a grid. -/
def templateAreas : Reader Text :=
  keyword ["none"] <|> do
    let rows ← many areaRow
    if !areEven rows then failure
    return rows.flatMap areaRowText

end Reader

/-! ## §3 Templates -/

/-- A row of areas with the size of its track, and the names of the lines around it. -/
structure TemplateRow where
  before : List Text
  cells : List (Option Text)
  size : Text
  behind : List Text

namespace Reader

/-- A row of a template. -/
def templateRow : Reader TemplateRow := do
  let before := (← optional lineNames).getD []
  let cells ← areaRow
  let size := (← optional trackSize).getD "auto".toList
  return { before, cells, size, behind := (← optional lineNames).getD [] }

/-- Rows of areas as they are written. Names of one line are written together. -/
def templateRowsText (names : List Text) : List TemplateRow → Text
  | [] => lineNamesText names
  | row :: rows =>
    lineNamesText (names ++ row.before) ++ areaRowText row.cells ++
      (if row.size = "auto".toList then [] else row.size) ++ templateRowsText row.behind rows

/-- A grid by rows of areas, and tracks across. -/
def areaTemplate : Reader Text := do
  let rows ← atLeastOne templateRow
  if !areEven (rows.map (·.cells)) then failure
  let columns ← optional (do
    delim '/'
    let list ← tracks trackSize
    if list.tracks.isEmpty then failure
    return list)
  return templateRowsText [] rows ++
    match columns with
    | some columns => '/' :: columns.text
    | none => []

/-- A grid by its areas or by its tracks. -/
def gridTemplate : Reader Text :=
  (do
    word "none"
    done
    return "none".toList) <|> areaTemplate <|> do
    let rows ← trackSizing
    delim '/'
    let columns ← trackSizing
    return if rows = "none".toList && columns = rows then rows else rows ++ '/' :: columns

/-- Whether boxes without a place fill gaps. -/
def autoFlow : Reader Text :=
  (do
    word "auto-flow"
    let dense ← optional (word "dense")
    return "auto-flow".toList ++ if dense.isSome then " dense".toList else []) <|> do
    word "dense"
    word "auto-flow"
    return "auto-flow dense".toList

/-- A grid by its template, or by tracks on one axis and how others are made. -/
def grid : Reader Text :=
  let others (sizes : Text) : Text := if sizes = "auto".toList then [] else ' ' :: sizes
  gridTemplate <|>
    (do
      let rows ← trackSizing
      delim '/'
      let flow ← autoFlow
      return rows ++ '/' :: flow ++ others (← trackSizes)) <|> do
    let flow ← autoFlow
    let sizes ← trackSizes
    delim '/'
    let columns ← trackSizing
    return if flow = "auto-flow".toList ∧ sizes = "auto".toList then
        if columns = "none".toList then columns else "none/".toList ++ columns
      else flow ++ others sizes ++ '/' :: columns

/-- How boxes without a place fill a grid. -/
def gridFlow : Reader Text := do
  let direction ← optional (keyword ["row", "column"])
  let dense ← optional (word "dense")
  let behind ← optional (if direction.isSome || dense.isNone then failure else keyword ["row", "column"])
  match direction.or behind, dense with
  | none, none => failure
  | some direction, none => return direction
  | direction, some _ =>
    return if direction = some "column".toList then "column dense".toList else "dense".toList

end Reader

/-! ## §4 Lines -/

/-- A line of a grid. -/
inductive GridLine where
  | auto
  | area (name : Text)
  | line (index : Int) (name : Option Text)
  | span (count : Int) (name : Option Text)
  deriving DecidableEq, Repr

namespace GridLine

/-- The line as it is written. -/
def text : GridLine → Text
  | .auto => "auto".toList
  | .area name => spellName name
  | .line index name => spellNumber index ++ ((name.map fun name => ' ' :: spellName name).getD [])
  | .span count none => "span ".toList ++ spellNumber count
  | .span count (some name) =>
    "span ".toList ++ (if count = 1 then [] else spellNumber count ++ [' ']) ++ spellName name

/-- The line that is meant if none is given opposite to another one. -/
def opposite : GridLine → GridLine
  | .area name => .area name
  | _ => .auto

/-- Lines of a box as they are written: each of those at the end is left out if it is opposite to one before. -/
def textOf : (lines : List GridLine) → Text
  | [rowStart, columnStart, rowEnd, columnEnd] =>
    let omitsLast := columnEnd = columnStart.opposite
    let omitsThird := omitsLast && rowEnd = rowStart.opposite
    let omitsSecond := omitsThird && columnStart = rowStart.opposite
    rowStart.text ++ (if omitsSecond then [] else '/' :: columnStart.text) ++
      (if omitsThird then [] else '/' :: rowEnd.text) ++ if omitsLast then [] else '/' :: columnEnd.text
  | [start, stop] => start.text ++ if stop = start.opposite then [] else '/' :: stop.text
  | lines => Text.join ['/'] (lines.map text)

end GridLine

namespace Reader

/-- A number that is not zero. -/
def lineIndex : Reader Int := do
  let index ← integer
  if index = 0 then failure
  return index

/-- A line of a grid. -/
def gridLine : Reader GridLine :=
  (do
    word "auto"
    return .auto) <|>
    (do
      word "span"
      (do
        let count ← lineIndex
        return GridLine.span count (← optional customIdent)) <|> do
        let name ← customIdent
        return GridLine.span ((← optional lineIndex).getD 1) (some name)) <|>
    (do
      let index ← lineIndex
      return .line index (← optional customIdent)) <|> do
    let name ← customIdent
    match ← optional lineIndex with
    | some index => return .line index (some name)
    | none => return .area name

/-- A line behind a slash, or the one that is meant if there is none. -/
def lineBehind (usual : GridLine) : Reader GridLine :=
  (do
    delim '/'
    gridLine) <|> return usual

/-- The two lines of a box on one axis. -/
def gridLines : Reader Text := do
  let start ← gridLine
  let stop ← lineBehind start.opposite
  return GridLine.textOf [start, stop]

/-- The four lines of a box. -/
def gridArea : Reader Text := do
  let rowStart ← gridLine
  let columnStart ← lineBehind rowStart.opposite
  let rowEnd ← lineBehind rowStart.opposite
  let columnEnd ← lineBehind columnStart.opposite
  return GridLine.textOf [rowStart, columnStart, rowEnd, columnEnd]

end Reader

/-! ## §5 The table -/

open Reader Property in
/-- Properties of grids. -/
def gridProperties : List Property :=
  family ["grid-template-columns", "grid-template-rows"] trackSizing ++
    family ["grid-auto-columns", "grid-auto-rows"] trackSizes ++
    family ["grid-row-start", "grid-row-end", "grid-column-start", "grid-column-end"]
      (GridLine.text <$> gridLine) ++
    family ["grid-row", "grid-column"] gridLines ++
    [ { name := "grid-auto-flow", reader := gridFlow },
      { name := "grid-template-areas", reader := templateAreas },
      { name := "grid-template", reader := gridTemplate },
      { name := "grid", reader := grid },
      { name := "grid-area", reader := gridArea } ]

end DocSite.Css
