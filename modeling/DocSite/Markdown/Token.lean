import DocSite.Markdown.Cursor
import DocSite.Markdown.Definition
import DocSite.Text.Blank

/-!
# Tokens

A run of text is cut into tokens line by line: plain text, line breaks, and the marks that may turn out to be
emphasis, code, raw HTML, links or images. What a mark is depends on the tokens that follow, possibly on
later lines.
-/

namespace DocSite.Markdown

/-- What a token is. -/
inductive TokenKind where
  /-- Text that stands for itself. -/
  | plain
  /-- A character reference, with the characters that it stands for. -/
  | reference (value : Text)
  /-- A run of `*`, `_` or `~`, and whether it may open or close emphasis. -/
  | delimiters (mark : Char) (count : Nat) (opens closes : Bool)
  /-- A run of backticks; the first one of an escaped run is text. -/
  | backticks (count : Nat) (escaped : Bool)
  /-- A `<`. -/
  | angle
  /-- The bracket of a link, or with an exclamation mark that of an image. -/
  | opening (image : Bool)
  /-- A closing bracket. One that ends a label refers to nothing by itself. -/
  | closing (refers : Bool)
  | softBreak
  /-- A line break made by blank space or by a backslash at the end of a line. -/
  | hardBreak (backslash : Bool)
  deriving Repr, Inhabited

/-- A piece of a run of text: where it begins, where it ends and what it is. -/
structure Token where
  first : Nat
  stop : Nat
  kind : TokenKind
  deriving Repr, Inhabited

namespace Token

/-- Tokens with plain text behind them, last ones first. Text goes on with text. -/
def addText (tokens : List Token) (first stop : Nat) : List Token :=
  if first < stop then
    match tokens with
    | ⟨start, last, .plain⟩ :: earlier =>
      if last = first then ⟨start, stop, .plain⟩ :: earlier else ⟨first, stop, .plain⟩ :: tokens
    | _ => ⟨first, stop, .plain⟩ :: tokens
  else tokens

/-- Tokens, last one first, the last of which ends where `stop` says. -/
def endLast (stop : Token → Nat) : List Token → List Token
  | [] => []
  | token :: earlier => { token with stop := stop token } :: earlier

end Token

/-- A run of text: its tokens, the place where it ends, and what it is inside of. -/
structure Run where
  tokens : List Token := []
  stop : Nat := 0
  nesting : Nesting := {}
  deriving Repr, Inhabited

/-! ## §1 Delimiter runs -/

/-- Whether the run of `count` marks at a place may open emphasis. A single `~` and a `_` open nothing inside a
word. The bars around a cell of a table are not part of its text. -/
def canOpen (passage : Passage) (inTable : Bool) (mark : Char) (count place : Nat) : Bool :=
  match passage.get? (place + count), passage.before? place with
  | none, _ => false
  | some next, none => !Text.isBlank next
  | some next, some previous =>
    !Text.isBlank next &&
      (inTable && previous = '|' && passage.before? (place - 1) ≠ some '\\' ||
        !(inTable && next = '|') &&
          (mark = '*' && !Text.isPunctuation next || mark = '~' && 1 < count ||
            mark = '~' && previous = '~' && !Text.isPunctuation next ||
            Text.isBlank previous || Text.isPunctuation previous))

/-- Whether the run of `count` marks at a place may close emphasis. -/
def canClose (passage : Passage) (inTable : Bool) (mark : Char) (count place : Nat) : Bool :=
  match passage.before? place, passage.get? (place + count) with
  | none, _ => false
  | some previous, none => !Text.isBlank previous
  | some previous, some next =>
    !Text.isBlank previous &&
      !(inTable && previous = '|' && passage.before? (place - 1) ≠ some '\\') &&
      (inTable && next = '|' ||
        (mark = '*' || mark = '~' && 1 < count) && !Text.isPunctuation previous ||
        mark = '~' && previous = '~' ||
        Text.isBlank next || Text.isPunctuation next)

/-! ## §2 Lines of text -/

/-- What a line of text may be. -/
inductive LinePlace where
  /-- The first line of a paragraph, which may be the head of a table. -/
  | first
  /-- The cell of a table: it ends at a bar. -/
  | cell
  /-- Any other line. -/
  | other
  deriving DecidableEq, Repr

/-- How a line of text ends. -/
inductive LineEnd where
  /-- At the end of the passage, or where a cell ends. -/
  | plain
  /-- With a line break. -/
  | broken (token : Token)
  /-- As the head of a table with some columns. -/
  | head (alignments : List Alignment)
  deriving Repr, Inhabited

/-- What has been read of a line of text. -/
structure TextLine where
  /-- The tokens, last one first. -/
  tokens : List Token
  /-- Where the text begins that is in no token yet. -/
  begun : Nat
  /-- How many bars have been met, and where the last one stands. -/
  bars : Nat := 0
  lastBar : Nat
  deriving Repr, Inhabited

namespace TextLine

/-- The tokens with the text up to a place. -/
def upTo (line : TextLine) (place : Nat) : List Token := Token.addText line.tokens line.begun place

/-- The line with one more token. -/
def add (line : TextLine) (first stop : Nat) (kind : TokenKind) : TextLine :=
  { line with tokens := ⟨first, stop, kind⟩ :: line.upTo first, begun := stop }

/-- The tokens at the end of the line, the place behind it and how it ends; the line began at `start`, and
its line break stands at `place`. -/
def finish (line : TextLine) (passage : Passage) (nesting : Nesting) (kind : LinePlace)
    (start place : Nat) : List Token × Nat × LineEnd :=
  let behind := (passage.afterBreak? place).getD place
  let backslashes := place - passage.skipBack (· = '\\') 0 place
  let text := passage.skipBack isSpace 0 place
  let broken (stop : Nat) (token : Token) : List Token × Nat × LineEnd :=
    (line.upTo stop, behind, .broken token)
  -- An escaped backslash does not break a line, and the last line is not broken.
  if backslashes % 2 = 1 && behind < passage.stop then
    broken (place - 1) ⟨place - 1, behind, .hardBreak true⟩
  else
    match if kind = .first && 0 < line.bars
        then tableBelow? passage nesting start line.bars line.lastBar place else none with
    | some (alignments, below) => (line.tokens, below, .head alignments)
    | none =>
      if text + 2 ≤ place then broken text ⟨text, behind, .hardBreak false⟩
      else broken text ⟨place, behind, .softBreak⟩

/-- The tokens at the end of a line that has no line break, the place where it ends and how it ends. -/
def stopAt (line : TextLine) (passage : Passage) (place : Nat) : List Token × Nat × LineEnd :=
  (line.upTo (passage.skipBack isSpace line.begun place), place, .plain)

/-- The line and the place behind a backslash. -/
def readBackslash (line : TextLine) (passage : Passage) (inTable : Bool) (place : Nat) :
    TextLine × Nat :=
  match passage.get? (place + 1) with
  | none => (line, place + 1)
  | some next =>
    if !Text.isAsciiPunctuation next then (line, place + 1)
    else
      let tokens := line.upTo place
      if next = '\x60' then
        let count := passage.count '\x60' (place + 1)
        let line := { line with tokens, begun := place + 1 }
        (line.add (place + 1) (place + 1 + count) (.backticks count true), place + 1 + count)
      -- In a table, the bar behind two backslashes is text as well.
      else if inTable && next = '\\' && passage.has (place + 2) '|' then
        ({ line with tokens, begun := place + 2 }, place + 3)
      else ({ line with tokens, begun := place + 1 }, place + 2)

/-- The line and the place behind the character at a place, which is neither a line break nor a bar. -/
def step (line : TextLine) (passage : Passage) (inTable : Bool) (place : Nat) (c : Char) :
    TextLine × Nat :=
  match c with
  | '\\' => line.readBackslash passage inTable place
  | '*' | '_' | '~' =>
    let count := passage.count c place
    let opens := canOpen passage inTable c count place
    let closes := canClose passage inTable c count place
    -- Three or more `~` in a row strike nothing out.
    if (opens || closes) && (c ≠ '~' || count ≤ 2) then
      (line.add place (place + count) (.delimiters c count opens closes), place + count)
    else (line, place + count)
  | '\x60' =>
    let count := passage.count c place
    (line.add place (place + count) (.backticks count false), place + count)
  | '<' =>
    if passage.has (place + 1) '\\' then (line, place + 1)
    else (line.add place (place + 1) .angle, place + 1)
  | '!' =>
    if passage.has (place + 1) '[' then (line.add place (place + 2) (.opening true), place + 2)
    else (line, place + 1)
  | '[' => (line.add place (place + 1) (.opening false), place + 1)
  | ']' => (line.add place (place + 1) (.closing true), place + 1)
  | '&' =>
    match passage.reference? place with
    | some (value, behind) => (line.add place behind (.reference value), behind)
    | none => (line, place + 1)
  | _ => (line, place + 1)

/-- Reads a line of text to its end; `fuel` is more than the number of characters that are left. -/
def run (passage : Passage) (nesting : Nesting) (kind : LinePlace) (start : Nat) :
    (fuel : Nat) → TextLine → (place : Nat) → List Token × Nat × LineEnd
  | 0, line, place => line.stopAt passage place
  | fuel + 1, line, place =>
    match passage.get? place with
    | none => line.stopAt passage place
    | some c =>
      if c = '\n' ∨ c = '\r' then
        if kind = .cell then line.stopAt passage place
        else line.finish passage nesting kind start place
      else if c = '|' then
        if passage.before? place = some '\\' then run passage nesting kind start fuel line (place + 1)
        else if kind = .cell then line.stopAt passage place
        else
          run passage nesting kind start fuel { line with bars := line.bars + 1, lastBar := place }
            (place + 1)
      else
        let (line, place) := line.step passage (kind = .cell) place c
        run passage nesting kind start fuel line place

end TextLine

/-- Reads a line of text that begins at a place, behind earlier tokens, last one first: the tokens, the place
behind the line and how it ends. -/
def readLine (passage : Passage) (nesting : Nesting) (kind : LinePlace) (tokens : List Token)
    (start : Nat) : List Token × Nat × LineEnd :=
  TextLine.run passage nesting kind start (passage.stop - start + 1)
    { tokens, begun := start, lastBar := start } start

end DocSite.Markdown
