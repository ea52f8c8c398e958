import DocSite.Markdown.Token

/-!
# Leaves

The blocks that hold no other blocks. A reader of this module takes the place at which a block begins, and
gives what the block holds and the place at which the next block is looked for.
-/

namespace DocSite.Markdown

/-! ## §1 Code and raw HTML -/

/-- A line as code holds it, from a place in the line to the place behind its line feed: blanks for the part of
a tab that belongs to the code, and no carriage return before the line feed. -/
def codeLine (passage : Passage) (blanks first stop : Nat) : Text :=
  let text := passage.slice first stop
  let isBroken := first + 2 ≤ stop && passage.has (stop - 2) '\r' &&
    (passage.get? (stop - 1)).any fun c => c.toNat < 0x80
  List.replicate blanks ' ' ++ if isBroken then text.dropLast.dropLast ++ text.drop (text.length - 1) else text

/-- The lines of indented code, first one first, with the blank lines behind it. Gives also the place behind
them and whether the last line is blank. `fuel` is more than the number of characters that are left. -/
def indentedFrom (passage : Passage) (nesting : Nesting) :
    (fuel : Nat) → (isBlank : Bool) → (pending place : Nat) → List Text × Nat × Bool
  | 0, isBlank, _, place => ([], place, isBlank)
  | fuel + 1, isBlank, pending, place =>
    let behind := passage.nextLine place
    let line := codeLine passage pending place behind
    let (current, cursor) := nesting.enter passage behind
    match cursor.skip passage 4 with
    | (missing, inner) =>
      if current && (missing = 0 || inner.atEnd passage) && inner.place ≠ passage.stop then
        let (lines, last) :=
          indentedFrom passage nesting fuel (passage.isBlank inner.place) inner.pending inner.place
        (line :: lines, last)
      else ([line], behind, isBlank)

/-- Indented code. Blank lines at its end are no part of it. -/
def readIndented (passage : Passage) (nesting : Nesting) (cursor : Cursor) : Text × Nat × Bool :=
  let (lines, last) :=
    indentedFrom passage nesting (passage.stop - cursor.place + 1) false cursor.pending cursor.place
  let isBlankLine (line : Text) : Bool := line.all isSpaceOrBreak
  ((lines.reverse.dropWhile isBlankLine).reverse.flatten, last)

/-- The code between fences up to the line that closes it. As much blank space goes from each line as stands
before the opening fence. -/
def fencedFrom (passage : Passage) (nesting : Nesting) (mark : Char) (length indent : Nat) :
    (fuel : Nat) → (place : Nat) → Text × Nat
  | 0, place => ([], place)
  | fuel + 1, place =>
    let (current, cursor) := nesting.enter passage place
    if !current then ([], place)
    else
      let (_, cursor) := cursor.skip passage indent
      let closing :=
        match cursor.skip passage (4 - indent) with
        | (0, _) => none
        | (_, inner) => afterClosingFence? passage mark length inner.place
      match closing with
      -- What is left of the line that closes the code is no line of its own.
      | some behind => ([], (passage.afterBlank? behind).getD behind)
      | none =>
        let behind := passage.nextLine cursor.place
        let line := codeLine passage cursor.pending cursor.place behind
        let (code, last) := fencedFrom passage nesting mark length indent fuel behind
        (line ++ code, last)

/-- Code between fences, the first of which stands at a place, and its info string. -/
def readFenced (passage : Passage) (nesting : Nesting) (mark : Char) (length indent place : Nat) :
    Text × Text × Nat :=
  let first := passage.skip isSpace (place + length)
  let behind := passage.nextLine first
  let info := passage.slice first (passage.skipBack isSpaceOrBreak first behind)
  (unescape false info,
    fencedFrom passage nesting mark length indent (passage.stop - behind + 2) behind)

/-- The lines of a block of raw HTML. -/
def htmlFrom (passage : Passage) (nesting : Nesting) (ending : HtmlEnd) :
    (fuel : Nat) → (pending place : Nat) → Text × Nat
  | 0, _, place => ([], place)
  | fuel + 1, pending, place =>
    let behind := passage.nextLine place
    let line := codeLine passage pending place behind
    let (current, cursor) := nesting.enter passage behind
    let ends :=
      match ending with
      | .marker mark => Text.includes (passage.slice place behind) mark
      | .blankLine => passage.isBlank cursor.place
    if !current || ends || cursor.place = passage.stop then (line, behind)
    else
      let (lines, last) := htmlFrom passage nesting ending fuel cursor.pending cursor.place
      (line ++ lines, last)

/-- A block of raw HTML that begins at a place behind `blanks` columns of blank space. -/
def readHtml (passage : Passage) (nesting : Nesting) (ending : HtmlEnd) (blanks place : Nat) :
    Text × Nat :=
  htmlFrom passage nesting ending (passage.stop - place + 1) blanks place

/-! ## §2 Headings -/

/-- The tokens of a line, last one first, that no other line of its run follows: a backslash before the line
break is text. -/
def withoutBreak (tokens : List Token) : LineEnd → List Token
  | .broken ⟨first, _, .hardBreak true⟩ => Token.addText tokens first (first + 1)
  | _ => tokens

/-- The text of a heading whose `level` number signs stand at a place, without the number signs that may close
it. -/
def readHeading (passage : Passage) (nesting : Nesting) (level place : Nat) : Run × Nat :=
  let behindMarks := place + level
  match passage.afterBreak? behindMarks with
  | some behind => ({ stop := behind, nesting }, behind)
  | none =>
    let first := passage.skip isSpace behindMarks
    let (tokens, behind, ending) := readLine passage nesting .other [] first
    let stop := passage.skipBack (fun c => c = ' ' || c = '\n' || c = '\r') first behind
    let closer := passage.skipBack (· = '#') first stop
    let content := passage.skipBack (· = ' ') first closer
    -- Number signs right behind the text are part of it.
    let stop := if closer = first || content < closer then content else stop
    let tokens := Token.endLast (fun _ => stop) (withoutBreak tokens ending)
    (⟨tokens.reverse, behind, nesting⟩, behind)

/-! ## §3 Tables -/

/-- The cells of the row of a table, and the place behind the row; `fuel` is more than the number of characters
that are left. -/
def cellsFrom (passage : Passage) (nesting : Nesting) : (fuel : Nat) → (place : Nat) → List Run × Nat
  | 0, place => ([], place)
  | fuel + 1, place =>
    let first := passage.skip isSpace (if passage.has place '|' then place + 1 else place)
    match passage.afterBreak? first with
    | some behind => ([], behind)
    | none =>
      let (tokens, stop, _) := readLine passage nesting .cell [] first
      let (cells, behind) := cellsFrom passage nesting fuel stop
      (⟨tokens.reverse, stop, nesting⟩ :: cells, behind)

/-- The cells of the row of a table that begins at a place. -/
def readCells (passage : Passage) (nesting : Nesting) (place : Nat) : List Run × Nat :=
  cellsFrom passage nesting (passage.stop - place + 1) place

/-- A row with as many cells as the table has columns. -/
def fitRow (columns : Nat) (cells : List Run) : List Run :=
  cells.take columns ++ List.replicate (columns - cells.length) default

/-- The rows of a table from a line on, and the place behind them. -/
def rowsFrom (passage : Passage) (nesting : Nesting) (columns : Nat) :
    (fuel : Nat) → (place : Nat) → List (List Run) × Nat
  | 0, place => ([], place)
  | fuel + 1, place =>
    let (current, cursor) := nesting.enter passage place
    let first := (cursor.skipIndent passage).place
    if !current || interruptsText passage true current first then ([], place)
    else
      match readCells passage nesting first with
      | ([], _) => ([], place)
      | (cells, behind) =>
        let (rows, last) := rowsFrom passage nesting columns fuel behind
        (fitRow columns cells :: rows, last)

/-- A table whose head begins at a place, and whose rows begin behind the row below the head. -/
def readTable (passage : Passage) (nesting : Nesting) (alignments : List Alignment)
    (place below : Nat) : Block Run × Nat :=
  let columns := alignments.length
  let nesting := { nesting with inTable := true }
  let head := fitRow columns (readCells passage nesting place).1
  let (rows, behind) := rowsFrom passage nesting columns (passage.stop - below + 1) below
  (.table alignments head rows, behind)

/-! ## §4 Paragraphs -/

/-- The paragraph, heading or table that begins at `start`, given the tokens of its lines before the one at
a place, last one first. `fuel` is more than the number of characters that are left. -/
def paragraphFrom (passage : Passage) (nesting : Nesting) (task : Option Bool) (start : Nat) :
    (fuel : Nat) → (tokens : List Token) → (place : Nat) → Block Run × Nat
  | 0, tokens, place => (.paragraph task ⟨tokens.reverse, place, nesting⟩, place)
  | fuel + 1, tokens, place =>
    let kind : LinePlace := if place = start then .first else .other
    match readLine passage nesting kind tokens place with
    | (_, behind, .head alignments) => readTable passage nesting alignments start behind
    | (tokens, behind, ending) =>
      let (current, cursor) := nesting.enter passage behind
      let (missing, inner) := cursor.skip passage 4
      let closed := withoutBreak tokens ending
      -- A line that is indented by four columns goes on with the paragraph.
      match if current && 0 < missing then underline? passage inner.place else none with
      | some (level, below) =>
        let trimmed (token : Token) : Nat := passage.skipBack isSpace start token.stop
        let tokens :=
          match ending with
          | .broken ⟨_, _, .hardBreak true⟩ => closed
          | _ => Token.endLast trimmed tokens
        (.heading level task ⟨tokens.reverse, below, nesting⟩, below)
      | none =>
        let next := inner.skipIndent passage
        if 0 < missing && interrupts passage nesting current inner.place || next.atEnd passage then
          (.paragraph task ⟨closed.reverse, behind, nesting⟩, behind)
        else
          let tokens :=
            match ending with
            | .broken token => token :: tokens
            | _ => tokens
          paragraphFrom passage nesting task start fuel tokens next.place

/-- The paragraph that begins at a place, perhaps behind the box of a task, or the underlined heading or the
table that its lines turn out to be. -/
def readParagraph (passage : Passage) (nesting : Nesting) (task : Option Bool) (place : Nat) :
    Block Run × Nat :=
  paragraphFrom passage nesting task place (passage.stop - place + 1) [] place

end DocSite.Markdown
