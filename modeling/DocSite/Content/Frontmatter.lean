import DocSite.Text.Blank

/-!
# Frontmatter

A page may begin with a block of fields between two lines `---`. The block is there only if the
very first line is a delimiter and a later one closes it, with at least one line in between.
-/

namespace DocSite.Content

/-- What a page says about itself. -/
structure Frontmatter where
  /-- The title, empty if the page gives none. -/
  title : Text := []
  /-- The description, empty if the page gives none. -/
  description : Text := []
  deriving DecidableEq, Repr, Inhabited

/-- Whether a line is `---`, apart from its line break and carriage returns before that. -/
def isDelimiter (line : Text) : Bool :=
  Text.dropEndWhile (· = '\r') (Text.dropEndWhile (· = '\n') line) = "---".toList

/-- The lines before the first delimiter, and the lines behind it. -/
def cutAtDelimiter? : List Text → Option (List Text × List Text)
  | [] => none
  | line :: lines =>
    if isDelimiter line then some ([], lines)
    else (cutAtDelimiter? lines).map fun (block, body) => (line :: block, body)

/-- The frontmatter block of a page and the body behind it, as lines. The line right behind the
opening delimiter belongs to the block whatever it is. -/
def cutBlock? : List Text → Option (List Text × List Text)
  | opening :: first :: lines =>
    if isDelimiter opening then
      (cutAtDelimiter? lines).map fun (block, body) => (first :: block, body)
    else none
  | _ => none

/-- The value of a line `key: "value"`; it ends at the next quote and is not empty. -/
def fieldValue? (key line : Text) : Option Text := do
  let afterKey ← Text.after? key (Text.trimStart line)
  let value ← Text.after? [':'] afterKey
  let quoted ← Text.after? ['"'] (Text.trimStart value)
  let (content, _) ← Text.cut? ['"'] quoted
  if content.isEmpty then none else some content

/-- The value of the first line of a block that gives the field one; empty if none does. -/
def field (key : Text) (block : List Text) : Text :=
  (block.findSome? fun line => fieldValue? key (Text.lineBody line)).getD []

/-- The frontmatter of a page, and its body. A page without a frontmatter block is all body. -/
def Frontmatter.extract (source : Text) : Frontmatter × Text :=
  match cutBlock? (Text.fullLines source) with
  | none => ({}, source)
  | some (block, body) =>
    (⟨field "title".toList block, field "description".toList block⟩, body.flatten)

end DocSite.Content
