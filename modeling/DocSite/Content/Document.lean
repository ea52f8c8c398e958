import DocSite.Content.Frontmatter
import DocSite.Content.Link
import DocSite.Tag.Expand

/-!
# Documents

A document is a docs page ready to be rendered: its frontmatter, and a body of plain Markdown in
which block elements are resolved and links point below the docs mount.
-/

namespace DocSite.Content

/-- A docs page ready to be rendered. -/
structure Document where
  frontmatter : Frontmatter
  /-- Markdown without block elements, with links under the docs mount. -/
  body : Text
  deriving DecidableEq, Repr

/-- The document of a page. Malformed parts of the page stay in the body as they are. -/
def Document.ofSource (source : Text) : Document :=
  let (frontmatter, body) := Frontmatter.extract source
  ⟨frontmatter, mountLinks (Tag.expand body)⟩

end DocSite.Content
