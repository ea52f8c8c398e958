import DocSite.Markdown.Emphasis
import DocSite.Markdown.Token

/-!
# Reading runs of text

The tokens of a run are read from left to right: code, raw HTML, addresses, links, images, footnote references,
line breaks and plain text. Open brackets wait on a stack until a closing one makes a link or an image of them
or returns them to plain text; delimiter runs are left for `resolve`.
-/

namespace DocSite.Markdown

/-! ## §1 Targets and labels -/

/-- The place behind blank space in the target of a link, with at most one line break in it. -/
def afterTargetSpace (passage : Passage) (nesting : Nesting) (place : Nat) : Nat :=
  let inner := passage.skip isSpace place
  let inner :=
    match passage.afterBreak? inner with
    | some behind => nesting.behindMarks passage behind
    | none => inner
  passage.skip isSpace inner

/-- The tokens behind a place; the first of them does not begin before it. -/
def tokensFrom (place : Nat) (tokens : List Token) : List Token :=
  match tokens.dropWhile (·.stop ≤ place) with
  | [] => []
  | token :: tokens => { token with first := max token.first place } :: tokens

/-- The characters of the title of a link up to its closing mark, and the place behind that; `fuel` is more than
the number of characters that are left. What lies between two lines is one line feed. -/
def linkTitle? (passage : Passage) (inTable : Bool) (tokens : List Token) (opening close : Char) :
    (fuel : Nat) → (place : Nat) → Option (Text × Nat)
  | 0, _ => none
  | fuel + 1, place =>
    match passage.get? place with
    | none => none
    | some c =>
      if c = close then some ([], place + 1)
      else if c = opening then none
      else
        let go (value : Text) (place : Nat) : Option (Text × Nat) :=
          (linkTitle? passage inTable tokens opening close fuel place).map fun (title, behind) =>
            (value ++ title, behind)
        let nextToken :=
          if c = '\n' ∨ c = '\r' then (tokens.find? (place + 1 < ·.stop)).filter (place < ·.first)
          else none
        match nextToken, if c = '&' then passage.reference? place else none with
        | some token, _ => go ['\n'] token.first
        | none, some (value, behind) => go value behind
        | none, none =>
          match if c = '\\' then passage.get? (place + 1) else none with
          | some next =>
            -- In a table, a bar may have two backslashes before it.
            if inTable && next = '\\' && passage.has (place + 2) '|' then go ['|'] (place + 3)
            else if Text.isAsciiPunctuation next then go [next] (place + 2)
            else go [c] (place + 1)
          | none => go [c] (place + 1)

/-- The target in parentheses at a place, and the place behind it; `tokens` are those behind the closing
bracket. -/
def inlineTarget? (passage : Passage) (nesting : Nesting) (tokens : List Token) (place : Nat) :
    Option (Target × Nat) := do
  let inner ← passage.behind? ['('] place
  let (written, stop) ← dest? passage (afterTargetSpace passage nesting inner)
  let dest := unescape nesting.inTable written
  let inner := afterTargetSpace passage nesting stop
  let title? : Option (Text × Nat) := do
    let opening ← passage.get? inner
    let close ← titleEnd? opening
    linkTitle? passage nesting.inTable tokens opening close (passage.stop - inner + 1) (inner + 1)
  let (title, inner) :=
    match title? with
    | some (title, behind) => (title, afterTargetSpace passage nesting behind)
    | none => ([], inner)
  let behind ← passage.behind? [')'] inner
  return (⟨dest, title⟩, behind)

/-- What a label in brackets may refer to. -/
inductive Reference where
  | footnote (label : Text)
  | target (label : Text)
  deriving Repr, Inhabited

/-- The reference whose opening bracket stands at a place, and the place behind its closing bracket. -/
def bracketReference? (passage : Passage) (nesting : Nesting) (place : Nat) :
    Option (Reference × Nat) := do
  let inner ← passage.behind? ['['] place
  let footnote :=
    if passage.has inner '^' && !passage.has (inner + 1) ']' then
      footnoteLabel? passage nesting.inTable (inner + 1)
    else none
  match footnote with
  | some (label, behind) => return (.footnote label, behind)
  | none =>
    let within (place : Nat) : Option Nat := some (nesting.behindMarks passage place)
    let (label, behind) ← label? passage nesting.inTable within inner
    return (.target label, behind)

/-! ## §2 The reader -/

/-- A bracket that is still open. -/
structure Bracket where
  /-- Whether it opens an image. -/
  image : Bool
  /-- Whether it may still become a link: a link holds no other links. -/
  active : Bool
  /-- The pieces before it, last one first. -/
  outer : List Piece
  /-- The bracket as it is written. -/
  written : Text
  /-- The place behind it. -/
  stop : Nat

/-- Plain text as a piece. -/
def textPiece (text : Text) : Piece := .element (.text text)

/-- The pieces with all open brackets returned to plain text, last one first. -/
def unwind (pieces : List Piece) : List Bracket → List Piece
  | [] => pieces
  | bracket :: brackets => unwind (pieces ++ textPiece bracket.written :: bracket.outer) brackets

/-- What a run of text is read with. -/
structure InlineReader where
  passage : Passage
  nesting : Nesting
  references : References
  /-- How many more bytes the targets of references may take. -/
  budget : Nat
  /-- The pieces behind the innermost open bracket, last one first. -/
  pieces : List Piece := []
  /-- The open brackets, innermost first. -/
  brackets : List Bracket := []

namespace InlineReader

/-- One more piece. -/
def add (reader : InlineReader) (piece : Piece) : InlineReader :=
  { reader with pieces := piece :: reader.pieces }

/-- One more piece of plain text: a token as it is written. -/
def addWritten (reader : InlineReader) (token : Token) : InlineReader :=
  reader.add (textPiece (reader.passage.slice token.first token.stop))

/-- One more open bracket. -/
def openBracket (reader : InlineReader) (image : Bool) (token : Token) : InlineReader :=
  let written := reader.passage.slice token.first token.stop
  { reader with
    pieces := []
    brackets := ⟨image, true, reader.pieces, written, token.stop⟩ :: reader.brackets }

/-! ## §3 Code and raw HTML -/

/-- The text between two runs of backticks: line breaks are spaces, and the marks of frames are no part of it.
`fuel` is at least the number of characters; the passage ends where the code ends. -/
def codeText (passage : Passage) (nesting : Nesting) : (fuel : Nat) → (place : Nat) → Text
  | 0, _ => []
  | fuel + 1, place =>
    match passage.get? place with
    | none => []
    | some c =>
      if c = '\n' ∨ c = '\r' then
        ' ' :: codeText passage nesting fuel (nesting.behindMarks passage (place + 1))
      else if nesting.inTable && c = '\\' && passage.has (place + 1) '|' then
        '|' :: codeText passage nesting fuel (place + 2)
      else c :: codeText passage nesting fuel (place + 1)

/-- Code without one space at either end if there is one at both and the code is not blank. -/
def tidyCode (code : Text) : Text :=
  if code.all (· = ' ') || code.head? ≠ some ' ' || code.getLast? ≠ some ' ' then code
  else code.tail.dropLast

/-- Whether a token is a run of some number of backticks. -/
def isBackticks (count : Nat) (token : Token) : Bool :=
  match token.kind with
  | .backticks other _ => other = count
  | _ => false

/-- The reader behind a run of backticks and the code that it may begin, and the tokens that are left. -/
def readBackticks (reader : InlineReader) (token : Token) (count : Nat) (escaped : Bool)
    (rest : List Token) : InlineReader × List Token :=
  let count := if escaped then count - 1 else count
  match if 0 < count then rest.dropWhile (!isBackticks count ·) else [] with
  -- Without a closing run of the same length these are plain characters.
  | [] => (reader.addWritten token, rest)
  | closing :: behind =>
    let passage := reader.passage.upTo closing.first
    let code := codeText passage reader.nesting (closing.first - token.stop) token.stop
    let reader := if escaped then reader.add (textPiece ['\x60']) else reader
    (reader.add (.element (.code (tidyCode code))), behind)

/-- The reader behind a `<` and what it may begin, and the tokens that are left. -/
def readAngle (reader : InlineReader) (token : Token) (rest : List Token) :
    InlineReader × List Token :=
  match rest with
  | [] => (reader.addWritten token, rest)
  | next :: _ =>
    let passage := reader.passage
    let addLink (kind : LinkKind) (address : Text) (behind : Nat) : InlineReader × List Token :=
      let text := passage.slice (token.first + 1) (behind - 1)
      (reader.add (.element (.link kind ⟨address, []⟩ [.text text])), tokensFrom behind rest)
    match address? passage next.first with
    | some (address, behind) => addLink .address address behind
    | none =>
      match email? passage next.first with
      | some (address, behind) => addLink .email address behind
      | none =>
        match inlineHtml? passage reader.nesting next.first with
        | some stretch =>
          (reader.add (.element (.html (stretch.text passage token.first))),
            tokensFrom stretch.place rest)
        | none => (reader.addWritten token, rest)

/-! ## §4 Closing brackets -/

/-- The target of a label, and the reader that has paid for it. What all targets take together is limited, so
that a short document stays short. -/
def pay? (reader : InlineReader) (label : Text) : Option (Target × InlineReader) :=
  if reader.budget = 0 then none
  else
    (reader.references.target? label).map fun target =>
      let size := Text.utf8Length target.dest + Text.utf8Length target.title
      (target, { reader with budget := reader.budget - size })

/-- The innermost open bracket becomes a link or an image. -/
def wrapBracket (reader : InlineReader) (bracket : Bracket) (brackets : List Bracket)
    (target : Target) : InlineReader :=
  let pieces := reader.pieces.reverse
  let content :=
    resolve (if pieces.any Piece.isDelimiters then withoutLastBreak pieces else pieces)
  let element : Inline :=
    if bracket.image then .image target content else .link .address target content
  let brackets :=
    -- No link holds another one, but an image may hold a link.
    if bracket.image then brackets
    else brackets.map fun outer => if outer.image then outer else { outer with active := false }
  { reader with pieces := .element element :: bracket.outer, brackets }

/-- The innermost open bracket becomes plain text, and so does the closing one. -/
def failBracket (reader : InlineReader) (bracket : Bracket) (brackets : List Bracket)
    (token : Token) : InlineReader :=
  let pieces := reader.pieces ++ textPiece bracket.written :: bracket.outer
  { reader with pieces, brackets }.addWritten token

/-- What the label between two brackets refers to by itself. -/
def readShortcut (reader : InlineReader) (bracket : Bracket) (brackets : List Bracket)
    (token : Token) (rest behind : List Token) : InlineReader × List Token :=
  let failed := (reader.failBracket bracket brackets token, rest)
  match bracketReference? (reader.passage.upTo token.stop) reader.nesting (bracket.stop - 1) with
  | none => failed
  | some (reference, stop) =>
    if stop ≠ token.stop then failed
    else
      match reference with
      | .footnote label =>
        if reader.references.hasFootnote label then
          -- A footnote has no image: its exclamation mark is text, and no outer bracket stays open.
          let outer := if bracket.image then textPiece ['!'] :: bracket.outer else bracket.outer
          let pieces := .element (.footnoteReference label) :: unwind outer brackets
          ({ reader with pieces, brackets := [] }, rest)
        else failed
      | .target label =>
        match reader.pay? label with
        | some (target, reader) => (reader.wrapBracket bracket brackets target, behind)
        | none => failed

/-- The reader behind a closing bracket and what belongs to it, and the tokens that are left. What follows the
bracket decides: a target in parentheses, a label in brackets, empty brackets or nothing of these. -/
def closeBracket (reader : InlineReader) (token : Token) (refers : Bool) (rest : List Token) :
    InlineReader × List Token :=
  match reader.brackets with
  | [] => (reader.addWritten token, rest)
  | bracket :: brackets =>
    let passage := reader.passage
    let fail (rest : List Token) : InlineReader × List Token :=
      (reader.failBracket bracket brackets token, rest)
    let shortcut (behind : List Token) : InlineReader × List Token :=
      if refers then reader.readShortcut bracket brackets token rest behind else fail rest
    if !bracket.active then fail rest
    else
      match inlineTarget? passage reader.nesting rest token.stop, rest with
      | some (target, behind), _ =>
        (reader.wrapBracket bracket brackets target, tokensFrom behind rest)
      | none, [] => shortcut []
      | none, next :: _ =>
        if (passage.behind? "[]".toList next.first).isSome then shortcut (rest.drop 2)
        else
          match bracketReference? passage reader.nesting next.first with
          | some (.target label, stop) =>
            let isBefore (token : Token) : Bool := token.stop < stop
            match rest.dropWhile isBefore with
            | [] => fail rest
            | closing :: behind =>
              match reader.pay? label with
              | some (target, reader) => (reader.wrapBracket bracket brackets target, behind)
              | none =>
                -- The label has been tried; it is not tried once more by itself.
                fail (rest.takeWhile isBefore ++ { closing with kind := .closing false } :: behind)
          | _ => shortcut rest

/-! ## §5 Runs of text -/

/-- The reader behind a token, and the tokens that are left. -/
def step (reader : InlineReader) (token : Token) (rest : List Token) : InlineReader × List Token :=
  match token.kind with
  | .plain => (reader.addWritten token, rest)
  | .reference value => (reader.add (textPiece value), rest)
  | .delimiters mark count opens closes =>
    let written := reader.passage.slice token.first token.stop
    (reader.add (.delimiters mark count written opens closes), rest)
  | .backticks count escaped => reader.readBackticks token count escaped rest
  | .angle => reader.readAngle token rest
  | .opening image => (reader.openBracket image token, rest)
  | .closing refers => reader.closeBracket token refers rest
  | .softBreak => (reader.add (.element .softBreak), rest)
  | .hardBreak backslash => (reader.add (.hardBreak backslash), rest)

/-- The reader behind all of some tokens; `fuel` is at least their number. -/
def run : (fuel : Nat) → InlineReader → List Token → InlineReader
  | 0, reader, _ => reader
  | _, reader, [] => reader
  | fuel + 1, reader, token :: rest =>
    let (reader, rest) := reader.step token rest
    run fuel reader rest

end InlineReader

/-- Whether a token may be part of an inline element. -/
def Token.isMark (token : Token) : Bool :=
  match token.kind with
  | .plain | .reference _ | .softBreak | .hardBreak _ => false
  | _ => true

/-- The inline elements of a run of text. The state is the number of bytes that the targets of references may
still take. -/
def readInlines (passage : Passage) (references : References) (run : Run) :
    StateM Nat (List Inline) := fun budget =>
  let passage := passage.upTo run.stop
  let reader := InlineReader.run run.tokens.length
    { passage, nesting := run.nesting, references, budget } run.tokens
  let pieces := (unwind reader.pieces reader.brackets).reverse
  let pieces := if run.tokens.any Token.isMark then withoutLastBreak pieces else pieces
  (resolve pieces, reader.budget)

end DocSite.Markdown
