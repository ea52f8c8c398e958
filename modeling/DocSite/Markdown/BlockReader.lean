import DocSite.Markdown.Container
import DocSite.Markdown.Leaf

/-!
# Reading blocks

A document is read block by block. The line at which a block is looked for continues some of the open
containers and closes the others; it may open further ones; and what is left of it begins a leaf, unless it is
blank.
-/

namespace DocSite.Markdown

/-- What has been read of a document. -/
structure BlockReader where
  references : References := {}
  outline : Outline := {}
  /-- The box of a task that still has no paragraph. -/
  task : Option Bool := none
  deriving Inhabited

namespace BlockReader

/-- The reader with one more block. -/
def add (reader : BlockReader) (block : Block Run) : BlockReader :=
  { reader with outline := reader.outline.add block }

/-- The frames around the place that has been reached. -/
def nesting (reader : BlockReader) : Nesting := Container.nesting reader.outline.containers

/-! ## §1 Opening containers -/

/-- The reader in a footnote with a label. A footnote ends where another one begins. -/
def openFootnote (reader : BlockReader) (label : Text) : BlockReader :=
  let outline := reader.outline.endList
  let outline :=
    match outline.containers with
    | .footnote .. :: _ => outline.close
    | _ => outline
  { reader with
    outline := outline.push (.footnote label [])
    references := reader.references.addFootnote label }

/-- Where the search for containers in a line ends. -/
inductive Opened where
  /-- Where a leaf may begin. -/
  | leaf (cursor : Cursor)
  /-- Behind the line, of which nothing is left. -/
  | line (behind : Nat)

/-- The reader in an item of a list, behind its marker and the box of a task if there is one. The text of the
item may begin on the next line. -/
def openItem (reader : BlockReader) (passage : Passage) (marker : ListMarker) (indent : Nat)
    (cursor : Cursor) : BlockReader × Opened :=
  let outline := (reader.outline.beginItem marker).push (.item indent [])
  match passage.afterBlank? cursor.place with
  | some behind => ({ reader with outline := { outline with freshItem := true } }, .line behind)
  | none =>
    match taskBox? passage cursor with
    | none => ({ reader with outline }, .leaf cursor)
    | some (done, cursor) =>
      match passage.afterBlank? cursor.place with
      | some behind =>
        let outline := { outline.add (.task done) with freshItem := true }
        ({ reader with outline }, .line behind)
      | none => ({ reader with outline, task := some done }, .leaf cursor)

/-- Opens the containers whose marks stand at a place in a line; `fuel` is more than the number of characters
that are left. -/
def openContainers (passage : Passage) :
    (fuel : Nat) → BlockReader → Cursor → BlockReader × Opened
  | 0, reader, cursor => (reader, .leaf cursor)
  | fuel + 1, reader, cursor =>
    match cursor.skip passage 4 with
    -- Four columns of blank space begin code, where marks mean nothing.
    | (0, _) => (reader, .leaf cursor)
    | (missing, inner) =>
      match footnoteStart? passage inner.place with
      | some (label, behind) =>
        openContainers passage fuel (reader.openFootnote label)
          (Cursor.start (passage.skip isSpace behind))
      | none =>
        match listMarker? passage (4 - missing) inner with
        | some (marker, indent, behind) =>
          match reader.openItem passage marker indent behind with
          | (reader, .leaf cursor) => openContainers passage fuel reader cursor
          | found => found
        | none =>
          match afterQuoteMark? passage inner with
          | some behind =>
            let outline := reader.outline.endList.push (.quote [])
            openContainers passage fuel { reader with outline } behind
          | none => (reader, .leaf cursor)

/-! ## §2 Beginning leaves -/

/-- Reads the link definitions at a place. Gives the place behind them, and whether a paragraph begins there.
`fuel` is more than the number of characters that are left. -/
def readDefinitions (passage : Passage) (nesting : Nesting) :
    (fuel : Nat) → References → (place : Nat) → References × Nat × Bool
  | 0, references, place => (references, place, true)
  | fuel + 1, references, place =>
    match definition? passage nesting place with
    | none => (references, place, true)
    | some ((label, target), behind) =>
      let references := references.define label target
      match passage.afterBlank? behind with
      | none => (references, behind, false)
      | some below =>
        let (current, cursor) := nesting.enter passage below
        let (missing, inner) := cursor.skip passage 4
        if 0 < missing && interrupts passage nesting current inner.place then
          (references, below, false)
        else readDefinitions passage nesting fuel references (inner.skipIndent passage).place

/-- Reads the definitions and the paragraph at a place. -/
def readText (reader : BlockReader) (passage : Passage) (place : Nat) : BlockReader × Nat :=
  let nesting := reader.nesting
  let (references, place, begins) :=
    readDefinitions passage nesting (passage.stop - place + 1) reader.references place
  let reader := { reader with references }
  if begins then
    let (block, behind) := readParagraph passage nesting reader.task place
    ({ reader with task := none }.add block, behind)
  else (reader, place)

/-- Reads the leaf at a place in a line that is not blank. -/
def readLeaf (reader : BlockReader) (passage : Passage) (cursor : Cursor) : BlockReader × Nat :=
  let reader := { reader with outline := reader.outline.endList }
  let nesting := reader.nesting
  match cursor.skip passage 4 with
  | (0, inner) =>
    let (code, behind, lastBlank) := readIndented passage nesting inner
    let reader := reader.add (.code none code)
    ({ reader with outline := { reader.outline with lastBlank } }, behind)
  | (missing, inner) =>
    let indent := 4 - missing
    let place := inner.place
    match if passage.has place '<' then htmlBlock? passage (place + 1) else none with
    | some ending =>
      let (raw, behind) := readHtml passage nesting ending (max cursor.pending indent) place
      (reader.add (.html raw), behind)
    | none =>
      match afterRule? passage place with
      | some behind => (reader.add .rule, behind)
      | none =>
        match headingLevel? passage place with
        | some level =>
          let (content, behind) := readHeading passage nesting level place
          (reader.add (.heading level none content), behind)
        | none =>
          match fence? passage place with
          | some (mark, length) =>
            let (info, code, behind) := readFenced passage nesting mark length indent place
            (reader.add (.code (some info) code), behind)
          | none => reader.readText passage place

/-- Reads a block at the start of a line. Gives the place at which the next one is looked for. -/
def readBlock (reader : BlockReader) (passage : Passage) (place : Nat) : BlockReader × Nat :=
  let containers := reader.outline.containers
  let (count, cursor) := Container.continuedBy passage (Cursor.start place) containers
  let reader := { reader with outline := reader.outline.closeTo count }
  match openContainers passage (passage.stop - place + 1) reader cursor with
  | (reader, .line behind) => (reader, behind)
  | (reader, .leaf cursor) =>
    match passage.afterBlank? cursor.place with
    | some behind => ({ reader with outline := reader.outline.blankLine }, behind)
    | none => reader.readLeaf passage cursor

/-- Reads the blocks from a place on; `fuel` is more than the number of characters that are left. -/
def run (passage : Passage) : (fuel : Nat) → BlockReader → (place : Nat) → BlockReader
  | 0, reader, _ => reader
  | fuel + 1, reader, place =>
    if passage.stop ≤ place then reader
    else
      let (reader, place) := reader.readBlock passage place
      run passage fuel reader place

end BlockReader

/-- The blocks of a document, and what it defines for its links and footnotes to refer to. -/
def readBlocks (passage : Passage) : References × List (Block Run) :=
  let reader := BlockReader.run passage (passage.stop + 1) {} 0
  (reader.references, (reader.outline.closeTo 0).done.reverse)

end DocSite.Markdown
