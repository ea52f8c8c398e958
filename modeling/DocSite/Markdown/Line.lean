import DocSite.Markdown.Basic
import DocSite.Markdown.Cursor

/-!
# Lines

What a single line of a document shows about blocks: rules, headings, fences, the markers of lists and the
row below the head of a table.
-/

namespace DocSite.Markdown

/-! ## §1 Rules, headings and fences -/

/-- The place behind a rule: a line of three or more of one mark with blank space between them. -/
def afterRule? (passage : Passage) (place : Nat) : Option Nat :=
  match passage.get? place with
  | none => none
  | some mark =>
    let isInner (c : Char) : Bool := c = mark || isIndent c
    let stop := passage.skip isInner place
    let isMark := mark = '*' || mark = '-' || mark = '_'
    if isMark && 3 ≤ (passage.slice place stop).count mark then passage.afterBreak? stop else none

/-- The level of a heading that begins with number signs. -/
def headingLevel? (passage : Passage) (place : Nat) : Option Nat :=
  let level := passage.count '#' place
  let isSpaced := (passage.get? (place + level)).all isSpaceOrBreak
  if isSpaced && 1 ≤ level && level ≤ 6 then some level else none

/-- The level of the heading that a line of marks makes of the paragraph above it, and the place behind the
line. -/
def underline? (passage : Passage) (place : Nat) : Option (Nat × Nat) :=
  let below (mark : Char) (level : Nat) : Option (Nat × Nat) :=
    (passage.afterBlank? (passage.skip (· = mark) place)).map fun behind => (level, behind)
  if passage.has place '=' then below '=' 1
  else if passage.has place '-' then below '-' 2
  else none

/-- The mark and the length of a fence that opens a block of code. Behind one of backticks, there is no other
backtick in the line. -/
def fence? (passage : Passage) (place : Nat) : Option (Char × Nat) :=
  let fence (mark : Char) : Option (Char × Nat) :=
    let length := passage.count mark place
    if 3 ≤ length then some (mark, length) else none
  if passage.has place '~' then fence '~'
  else
    (fence '\x60').filter fun (_, length) =>
      let rest := passage.slice (place + length) (passage.nextLine place)
      !rest.contains '\x60'

/-- The place behind a fence that closes a block of code. The end of the document closes every block. -/
def afterClosingFence? (passage : Passage) (mark : Char) (length place : Nat) : Option Nat :=
  if passage.stop ≤ place then some place
  else
    let behind := passage.skip (· = ' ') (place + passage.count mark place)
    if length ≤ passage.count mark place && passage.isEnd behind then some behind else none

/-! ## §2 Lists -/

/-- The marker of a list item: the mark that its list keeps, and the number if there is one. -/
structure ListMarker where
  mark : Char
  number : Option Nat
  deriving DecidableEq, Repr

/-- The marker at a place, and the place behind it. A number has at most nine digits. -/
def rawMarker? (passage : Passage) (place : Nat) : Option (ListMarker × Nat) :=
  match passage.get? place with
  | none => none
  | some c =>
    if c = '-' ∨ c = '+' ∨ c = '*' then some (⟨c, none⟩, place + 1)
    else
      let behind := passage.skip Char.isDigit place
      let digits := passage.slice place behind
      match passage.get? behind with
      | none => none
      | some mark =>
        if (mark = '.' ∨ mark = ')') ∧ 0 < digits.length ∧ digits.length ≤ 9 then
          some (⟨mark, some (Text.ofDigits 10 digits)⟩, behind + 1)
        else none

/-- The marker that begins a list item, the columns by which the item's further lines are indented, and the
place behind the marker and behind the blank space that follows. `outer` is the indentation of the
marker. -/
def listMarker? (passage : Passage) (outer : Nat) (cursor : Cursor) :
    Option (ListMarker × Nat × Cursor) :=
  if (afterRule? passage cursor.place).isSome then none
  else
    match rawMarker? passage cursor.place with
    | none => none
    | some (marker, behind) =>
      let width := behind - cursor.place
      match (cursor.advance width).skip passage 1 with
      | (missing, behind) =>
        -- Something that is not blank space right behind a marker makes it plain text.
        if 0 < missing && !behind.atEnd passage then none
        else
          let indent := outer + width + 1
          if passage.isBlank behind.place then some (marker, indent, behind)
          else
            match behind.skip passage 4 with
            -- More than four blanks belong to the text: it begins with code.
            | (0, _) => some (marker, indent, behind)
            | (missing, inner) => some (marker, indent + (4 - missing), inner)

/-- Whether a list item at a place in a line interrupts a paragraph. `current` tells whether the line belongs
into all frames of the paragraph; then an item must have something in it and, with a number, be the first
one. -/
def itemInterrupts (passage : Passage) (inTable current : Bool) (place : Nat) : Bool :=
  match rawMarker? passage place with
  | none => false
  | some (marker, behind) =>
    (passage.isEnd behind || (passage.get? behind).any isIndent) &&
      (!current || inTable ||
        (marker.number.isNone || marker.number = some 1) && !passage.isBlank behind)

/-- The box of a task at the start of an item's text, and the place behind it. -/
def taskBox? (passage : Passage) (cursor : Cursor) : Option (Bool × Cursor) :=
  let inner := (cursor.skip passage 3).2
  match passage.get? inner.place, passage.get? (inner.place + 1), passage.get? (inner.place + 2),
    passage.get? (inner.place + 3) with
  | some '[', some c, some ']', some next =>
    if !isSpace next then none
    else if isSpace c then some (false, inner.advance 3)
    else if c = 'x' ∨ c = 'X' then some (true, inner.advance 3)
    else none
  | _, _, _, _ => none

/-! ## §3 Tables -/

/-- What has been read of the row below the head of a table. -/
structure Delimiters where
  /-- The alignments of the columns that are complete, last one first. -/
  columns : List Alignment := []
  /-- The alignment of the column that is being read. -/
  alignment : Alignment := .unset
  /-- Whether nothing of the column has been read. -/
  fresh : Bool := true
  /-- Whether the column has a hyphen. -/
  hyphen : Bool := false

/-- What has been read with one more character. Every column that a bar ends has a hyphen. -/
def Delimiters.step? (delimiters : Delimiters) (c : Char) : Option Delimiters :=
  match c with
  | ' ' => some delimiters
  | ':' =>
    let alignment :=
      match delimiters.fresh, delimiters.alignment with
      | true, .unset => .left
      | false, .left => .center
      | false, .unset => .right
      | _, alignment => alignment
    some { delimiters with alignment, fresh := false }
  | '-' => some { delimiters with fresh := false, hyphen := true }
  | '|' =>
    if delimiters.hyphen then some { columns := delimiters.alignment :: delimiters.columns }
    else none
  | _ => none

/-- The alignments of the row below the head of a table, and the place behind it. -/
def delimiterRow? (passage : Passage) (place : Nat) : Option (List Alignment × Nat) :=
  match (Cursor.start place).skip passage 4 with
  | (0, _) => none
  | (_, cursor) =>
    let first := if passage.has cursor.place '|' then cursor.place + 1 else cursor.place
    let stop := passage.skip (fun c => c ≠ '\n' && c ≠ '\r') first
    let row := passage.slice cursor.place stop
    match (passage.slice first stop).foldlM Delimiters.step? ({} : Delimiters) with
    | none => none
    | some delimiters =>
      if !row.contains '-' || !row.contains '|' then none
      else
        let columns :=
          if delimiters.fresh then delimiters.columns
          else delimiters.alignment :: delimiters.columns
        (passage.afterBreak? stop).map fun behind => (columns.reverse, behind)

/-- The number of columns that a line has as the head of a table, given how many bars in it bound columns and
where the last of them stands. A bar at either end of the line bounds no further column. -/
def headColumns (passage : Passage) (place bars lastBar : Nat) : Nat :=
  let bars := if passage.has (passage.skip isSpace place) '|' then bars - 1 else bars
  if passage.isBlank (lastBar + 1) then bars else bars + 1

end DocSite.Markdown
