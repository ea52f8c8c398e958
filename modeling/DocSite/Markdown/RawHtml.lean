import DocSite.Markdown.Cursor

/-!
# Raw HTML

Tags, comments, processing instructions, declarations and character data sections inside a run of text,
and the lines that begin a block of raw HTML. A tag may go over several lines; the marks of the frames around
it are then no part of it.
-/

namespace DocSite.Markdown

/-! ## §1 Stretches -/

/-- What has been read of a tag. -/
structure Stretch where
  /-- The place that has been reached. -/
  place : Nat
  /-- The marks of frames that have been passed, last ones first, each from its first place to the place
  behind it. -/
  gaps : List (Nat × Nat) := []
  deriving Repr, Inhabited

namespace Stretch

/-- The stretch up to a later place. -/
def goTo (stretch : Stretch) (place : Nat) : Stretch := { stretch with place }

/-- The stretch up to the first place at which no character of a kind stands. -/
def skip (stretch : Stretch) (passage : Passage) (kind : Char → Bool) : Stretch :=
  stretch.goTo (passage.skip kind stretch.place)

/-- The text of the stretch from some place on, without the gaps. -/
def text (stretch : Stretch) (passage : Passage) (first : Nat) : Text :=
  let (pieces, stop) := stretch.gaps.foldl
    (fun (pieces, stop) gap => (passage.slice gap.2 stop :: pieces, gap.1))
    (([] : List Text), stretch.place)
  (passage.slice first stop :: pieces).flatten

/-- The stretch behind a line break and the marks of frames that follow it. Without a nesting, no line break
may stand in a tag. -/
def passBreak? (stretch : Stretch) (passage : Passage) (nesting : Option Nesting) :
    Option Stretch := do
  let behind ← passage.afterBreak? stretch.place
  let inner := (← nesting).behindMarks passage behind
  return ⟨inner, if inner = behind then stretch.gaps else (behind, inner) :: stretch.gaps⟩

/-- The stretch behind blank space and line breaks; `fuel` is more than the number of line breaks. -/
def passBlank? (passage : Passage) (nesting : Option Nesting) : (fuel : Nat) → Stretch → Option Stretch
  | 0, _ => none
  | fuel + 1, stretch =>
    let stretch := stretch.skip passage isSpace
    if stretch.place < passage.stop && passage.isEnd stretch.place then
      (stretch.passBreak? passage nesting).bind (passBlank? passage nesting fuel)
    else some stretch

/-- The stretch behind the next quote of a kind; `fuel` is more than the number of line breaks before it. -/
def passQuote? (passage : Passage) (nesting : Option Nesting) (quote : Char) :
    (fuel : Nat) → Stretch → Option Stretch
  | 0, _ => none
  | fuel + 1, stretch =>
    let stretch := stretch.skip passage fun c => c ≠ quote && c ≠ '\n' && c ≠ '\r'
    if passage.has stretch.place quote then some (stretch.goTo (stretch.place + 1))
    else if passage.stop ≤ stretch.place then none
    else (stretch.passBreak? passage nesting).bind (passQuote? passage nesting quote fuel)

end Stretch

/-! ## §2 Tags -/

/-- Characters of a tag name behind the first one. -/
def isTagNameRest (c : Char) : Bool := c.isAlphanum || c = '-'

/-- Characters of the name of an attribute behind the first one. -/
def isAttributeNameRest (c : Char) : Bool :=
  c.isAlphanum || c = '_' || c = '.' || c = ':' || c = '-'

/-- Characters of an attribute value without quotes. -/
def isBareValueChar (c : Char) : Bool := !"'\" =><\x60\n\r".toList.contains c

/-- The stretch behind an attribute value. -/
def afterValue? (passage : Passage) (nesting : Option Nesting) (fuel : Nat) (stretch : Stretch) :
    Option Stretch :=
  match passage.get? stretch.place with
  | none => none
  | some c =>
    if c = '"' ∨ c = '\x27' then
      Stretch.passQuote? passage nesting c fuel (stretch.goTo (stretch.place + 1))
    else if isBareValueChar c then some (stretch.skip passage isBareValueChar)
    else none

/-- The stretch behind an attribute. -/
def afterAttribute? (passage : Passage) (nesting : Option Nesting) (fuel : Nat) (stretch : Stretch) :
    Option Stretch :=
  if (passage.get? stretch.place).any fun c => c.isAlpha || c = '_' || c = ':' then do
    let named := stretch.skip passage isAttributeNameRest
    let spaced ← Stretch.passBlank? passage nesting fuel named
    if passage.has spaced.place '=' then
      let valued ← Stretch.passBlank? passage nesting fuel (spaced.goTo (spaced.place + 1))
      afterValue? passage nesting fuel valued
    else some named
  else none

/-- The stretch behind the attributes of an opening tag and its end. There is blank space before every
attribute. `fuel` is more than the number of characters that are left. -/
def afterAttributes? (passage : Passage) (nesting : Option Nesting) :
    (fuel : Nat) → Stretch → Option Stretch
  | 0, _ => none
  | fuel + 1, stretch => do
    let spaced ← Stretch.passBlank? passage nesting (fuel + 1) stretch
    match passage.get? spaced.place with
    | none => none
    | some '>' => some (spaced.goTo (spaced.place + 1))
    | some '/' =>
      if passage.has (spaced.place + 1) '>' then some (spaced.goTo (spaced.place + 2)) else none
    | some _ =>
      if spaced.place = stretch.place then none
      else (afterAttribute? passage nesting fuel spaced).bind (afterAttributes? passage nesting fuel)

/-- The stretch from the place behind a `<` to the place behind the tag. -/
def tag? (passage : Passage) (nesting : Option Nesting) (place : Nat) : Option Stretch :=
  let isClosing := passage.has place '/'
  let first := if isClosing then place + 1 else place
  if (passage.get? first).any Char.isAlpha then
    let named : Stretch := { place := passage.skip isTagNameRest first }
    if isClosing then
      let spaced := named.skip passage isSpace
      if passage.has spaced.place '>' then some (spaced.goTo (spaced.place + 1)) else none
    else afterAttributes? passage nesting (passage.stop - place + 1) named
  else none

/-! ## §3 Inline HTML -/

/-- The stretch from the place behind a `<` to the place behind a piece of inline HTML. The first brackets
behind the start of character data have to end them. -/
def inlineHtml? (passage : Passage) (nesting : Nesting) (place : Nat) : Option Stretch :=
  let upTo (ending : String) (place : Nat) : Option Stretch :=
    (passage.behindNext? ending.toList place).map fun place => { place }
  let opens (opening : String) : Option Nat := passage.behind? opening.toList place
  match opens "!--", opens "![CDATA[" with
  | some inner, _ =>
    -- A comment of nothing may share its hyphens with its ends.
    if passage.has inner '>' then some { place := inner + 1 }
    else if passage.has inner '-' && passage.has (inner + 1) '>' then some { place := inner + 2 }
    else upTo "-->" inner
  | _, some inner =>
    let brackets := passage.skip (· ≠ ']') inner
    let behind := passage.skip (· = ']') brackets
    if brackets < behind && passage.has behind '>' then some { place := behind + 1 } else none
  | none, none =>
    if passage.has place '!' then
      if (passage.get? (place + 1)).any Char.isAlpha then upTo ">" (place + 2) else none
    else if passage.has place '?' then upTo "?>" (place + 1)
    else tag? passage (some nesting) place

/-! ## §4 Blocks of raw HTML -/

/-- What ends a block of raw HTML. -/
inductive HtmlEnd where
  /-- A line that holds a text. -/
  | marker (text : Text)
  /-- A blank line. -/
  | blankLine
  deriving DecidableEq, Repr

/-- Elements whose content is not Markdown, up to their closing tag. -/
def literalElements : List Text := ["pre", "style", "script", "textarea"].map String.toList

/-- Elements whose tags begin a block wherever they stand at the start of a line. -/
def blockElements : List Text :=
  ["address", "article", "aside", "base", "basefont", "blockquote", "body", "caption", "center",
    "col", "colgroup", "dd", "details", "dialog", "dir", "div", "dl", "dt", "fieldset",
    "figcaption", "figure", "footer", "form", "frame", "frameset", "h1", "h2", "h3", "h4", "h5",
    "h6", "head", "header", "hr", "html", "iframe", "legend", "li", "link", "main", "menu",
    "menuitem", "nav", "noframes", "ol", "optgroup", "option", "p", "param", "search", "section",
    "summary", "table", "tbody", "td", "tfoot", "th", "thead", "title", "tr", "track",
    "ul"].map String.toList

/-- How the block ends that one of the special openings at a place begins. -/
def markedHtml? (passage : Passage) (place : Nat) : Option HtmlEnd :=
  let isNamed (name : Text) : Bool :=
    let behind := place + name.length
    (passage.slice place behind).map Char.toLower = name &&
      (passage.get? behind).all fun c => isSpaceOrBreak c || c = '>'
  let opens (opening : String) : Bool := (passage.behind? opening.toList place).isSome
  match literalElements.find? isNamed with
  | some name => some (.marker ("</".toList ++ name ++ ['>']))
  | none =>
    if opens "!--" then some (.marker "-->".toList)
    else if opens "?" then some (.marker "?>".toList)
    else if opens "![CDATA[" then some (.marker "]]>".toList)
    else if opens "!" && (passage.get? (place + 1)).any Char.isAlpha then some (.marker ['>'])
    else none

/-- Whether a tag of a block element begins at a place. -/
def opensBlockElement (passage : Passage) (place : Nat) : Bool :=
  let first := if passage.has place '/' then place + 1 else place
  let behind := passage.skip Char.isAlphanum first
  blockElements.contains ((passage.slice first behind).map Char.toLower) &&
    (match passage.get? behind with
    | none => true
    | some '/' => passage.has (behind + 1) '>'
    | some c => c = ' ' || c = '\t' || c = '\r' || c = '\n' || c = '>')

/-- How the block of raw HTML ends that may interrupt a paragraph. -/
def interruptingHtml? (passage : Passage) (place : Nat) : Option HtmlEnd :=
  match markedHtml? passage place with
  | some ending => some ending
  | none => if opensBlockElement passage place then some .blankLine else none

/-- How the block of raw HTML ends that begins at the start of a block. A single tag of any element on a line
of its own begins one. -/
def htmlBlock? (passage : Passage) (place : Nat) : Option HtmlEnd :=
  match interruptingHtml? passage place with
  | some ending => some ending
  | none =>
    match tag? passage none place with
    | some stretch => if passage.isBlank stretch.place then some .blankLine else none
    | none => none

end DocSite.Markdown
