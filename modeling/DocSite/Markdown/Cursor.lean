import DocSite.Markdown.Passage

/-!
# Cursors

A cursor stands in the blank space and the marks at the start of a line. Indentation is counted in columns;
tab stops are four columns apart, and of a tab a part may be passed.
-/

namespace DocSite.Markdown

/-- A place at the start of a line. -/
structure Cursor where
  place : Nat
  /-- The place from which the tab stops are counted. -/
  origin : Nat
  /-- The columns of the last tab that are still ahead. -/
  pending : Nat := 0
  deriving Repr, Inhabited

namespace Cursor

/-- The start of a line. -/
def start (place : Nat) : Cursor := { place, origin := place }

/-- Passes at most `limit` columns of blank space, and gives the number of columns that are missing. -/
def skipColumns (passage : Passage) (limit : Nat) (cursor : Cursor) : Nat × Cursor :=
  match limit with
  | 0 => (0, cursor)
  | limit + 1 =>
    match passage.get? cursor.place with
    | some ' ' => skipColumns passage limit { cursor with place := cursor.place + 1 }
    | some '\t' =>
      let width := 4 - (cursor.place - cursor.origin) % 4
      let next : Cursor := ⟨cursor.place + 1, cursor.place + 1, width - (limit + 1)⟩
      skipColumns passage (limit + 1 - width) next
    | _ => (limit + 1, cursor)
termination_by limit

/-- Passes at most `limit` columns of blank space and of the last tab, and gives the number of columns that
are missing. -/
def skip (passage : Passage) (limit : Nat) (cursor : Cursor) : Nat × Cursor :=
  skipColumns passage (limit - cursor.pending)
    { cursor with pending := cursor.pending - min cursor.pending limit }

/-- Passes exactly `count` columns of blank space. -/
def skipAll? (passage : Passage) (count : Nat) (cursor : Cursor) : Option Cursor :=
  match cursor.skip passage count with
  | (0, cursor) => some cursor
  | _ => none

/-- Passes all the blank space that indents a line. -/
def skipIndent (passage : Passage) (cursor : Cursor) : Cursor :=
  { cursor with place := passage.skip isIndent cursor.place, pending := 0 }

/-- Passes characters that are no blank space. -/
def advance (cursor : Cursor) (count : Nat) : Cursor :=
  { cursor with place := cursor.place + count }

/-- Whether the line ends here. -/
def atEnd (passage : Passage) (cursor : Cursor) : Bool := passage.isEnd cursor.place

end Cursor

/-! ## §1 Frames -/

/-- What a block is inside of, as the lines show it that belong to it. -/
inductive Frame where
  | quote
  /-- An item of a list; further lines of it are indented. -/
  | item (indent : Nat)
  | footnote
  deriving DecidableEq, Repr

/-- The place behind the mark of a quote. -/
def afterQuoteMark? (passage : Passage) (cursor : Cursor) : Option Cursor :=
  if passage.has cursor.place '>' then some ((cursor.advance 1).skip passage 1).2 else none

/-- The place in a line behind what shows that the line belongs into a frame. A line with nothing in it
belongs into every item and footnote. -/
def Frame.continued? (passage : Passage) (cursor : Cursor) : Frame → Option Cursor
  | .quote => afterQuoteMark? passage (cursor.skip passage 3).2
  | .item indent => indented? indent
  | .footnote => indented? 4
where
  indented? (columns : Nat) : Option Cursor :=
    match cursor.skip passage columns with
    | (missing, inner) => if missing = 0 || inner.atEnd passage then some inner else none

/-- The frames around a block, outermost first, and whether it is part of a table. -/
structure Nesting where
  frames : List Frame := []
  inTable : Bool := false
  deriving Repr, Inhabited

namespace Nesting

/-- Whether a line belongs into all of some frames, and the place behind the marks of those into which it
does. -/
def follow (passage : Passage) : List Frame → Cursor → Bool × Cursor
  | [], cursor => (true, cursor)
  | frame :: frames, cursor =>
    match frame.continued? passage cursor with
    | some cursor => follow passage frames cursor
    | none => (false, cursor)

/-- Whether the line that begins at a place belongs to the block, and the place behind the marks of its
frames. -/
def enter (nesting : Nesting) (passage : Passage) (place : Nat) : Bool × Cursor :=
  follow passage nesting.frames (Cursor.start place)

/-- The place behind the marks of the frames in the line that begins at a place. -/
def behindMarks (nesting : Nesting) (passage : Passage) (place : Nat) : Nat :=
  (nesting.enter passage place).2.place

end Nesting

end DocSite.Markdown
