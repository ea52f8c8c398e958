import DocSite.Text.Blank

/-!
# Blocks of a blog post

The body of a post is a sequence of blocks with a blank line between neighbours. What a block is
shows at its start; no block depends on another one.
-/

namespace DocSite.Blog

/-- A block of a post. -/
inductive Block where
  /-- A heading of the second level. -/
  | heading2 (text : Text)
  /-- A heading of the third level. -/
  | heading3 (text : Text)
  /-- Code, without the lines of its fence. -/
  | code (code : Text)
  /-- A numbered or a bullet list with one item a line. -/
  | list (ordered : Bool) (items : List Text)
  /-- Any other text. -/
  | paragraph (text : Text)
  deriving DecidableEq, Repr

/-- The lines strictly between the first and the last line of a text. -/
def innerLines (text : Text) : Text :=
  match Text.cut? ['\n'] text with
  | none => []
  | some (_, rest) =>
    match Text.cut? ['\n'] rest.reverse with
    | none => []
    | some (_, inner) => inner.reverse

/-- A line of a list without its marker: digits and a period, or a hyphen, and a blank character. -/
def dropMarker (line : Text) : Text :=
  match line with
  | '-' :: c :: item => if Text.isBlank c then item else line
  | _ =>
    if (line.takeWhile Char.isDigit).isEmpty then line
    else
      match line.dropWhile Char.isDigit with
      | '.' :: c :: item => if Text.isBlank c then item else line
      | _ => line

/-- The block that a text without blank lines is. A list has an item on every line, whatever marker
that line has, and its first line says whether it is numbered. -/
def Block.ofText (text : Text) : Block :=
  match Text.after? "## ".toList text with
  | some heading => .heading2 heading
  | none =>
    match Text.after? "### ".toList text with
    | some heading => .heading3 heading
    | none =>
      if Text.startsWith text "```".toList then .code (innerLines text)
      else if Text.startsWith text "1. ".toList || Text.startsWith text "- ".toList then
        .list (Text.startsWith text "1. ".toList) ((Text.splitOn ['\n'] text).map dropMarker)
      else .paragraph text

/-- The blocks of a post body. -/
def segment (content : Text) : List Block := (Text.splitOn "\n\n".toList content).map Block.ofText

end DocSite.Blog
