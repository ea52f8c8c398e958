import DocSite.Blog.Post
import DocSite.Content.Document
import DocSite.Markdown.Render
import DocSite.Nav.Sidebar
import DocSite.View.Page

/-!
# Rendering the pages of the site

A renderer knows the catalog of the docs and the layout. It turns docs pages and posts into whole HTML
pages.
-/

namespace DocSite.View

/-! ## §1 Values of pages -/

/-- An object with named fields. -/
private def record (fields : List (String × Json)) : Json :=
  .object (fields.map fun (name, value) => (name.toList, value))

/-- A link as a value. -/
def linkValue (link : Nav.Link) : Json :=
  record [("title", .string link.title), ("href", .string link.href)]

/-- A section of the sidebar as a value. -/
def sectionValue (part : Nav.SidebarSection) : Json :=
  record
    [("group", .string part.group),
      ("links", .array (part.links.map fun link =>
        record
          [("title", .string link.title), ("href", .string link.href),
            ("active", .bool link.active)]))]

/-- A pager as a value. -/
def pagerValue (pager : Nav.Pager) : Json :=
  record
    [("prev", (pager.previous.map linkValue).getD .null),
      ("next", (pager.next.map linkValue).getD .null)]

/-- A block of a post as a value. -/
def blockValue : Blog.Block → Json
  | .heading2 text => record [("kind", .string "heading2".toList), ("text", .string text)]
  | .heading3 text => record [("kind", .string "heading3".toList), ("text", .string text)]
  | .code code => record [("kind", .string "code_block".toList), ("code", .string code)]
  | .list ordered items =>
    record
      [("kind", .string "list".toList), ("ordered", .bool ordered),
        ("items", .array (items.map .string))]
  | .paragraph text => record [("kind", .string "paragraph".toList), ("text", .string text)]

/-- A post as a value. -/
def postValue (post : Blog.Post) : Json :=
  record
    [("slug", .string post.slug), ("title", .string post.title),
      ("excerpt", .string post.excerpt), ("date", .string post.date),
      ("readTime", .string post.readTime), ("category", .string post.category),
      ("content", .string post.content)]

/-! ## §2 Pages -/

/-- What is needed to render the pages of a site. -/
structure Renderer where
  catalog : Nav.Catalog
  layout : Layout

namespace Renderer

/-- The title of a docs page: its own, or else the one in the catalog. -/
def pageTitle (renderer : Renderer) (slug : Text) (document : Content.Document) : Text :=
  if document.frontmatter.title.isEmpty then
    ((renderer.catalog.page? slug).map (·.title)).getD []
  else document.frontmatter.title

/-- The page of a docs document. -/
def document (renderer : Renderer) (slug : Text) (document : Content.Document) :
    Except TemplateError Text :=
  renderParts docPage renderer.layout
    (record
      [("title", .string (renderer.pageTitle slug document)),
        ("description", .string document.frontmatter.description),
        ("content", .string (Markdown.render document.body)),
        ("sidebar", .array ((renderer.catalog.sidebar (some slug)).map sectionValue)),
        ("pager", pagerValue (renderer.catalog.pager slug))])

/-- The page of a docs source. -/
def doc (renderer : Renderer) (slug source : Text) : Except TemplateError Text :=
  renderer.document slug (Content.Document.ofSource source)

/-- The page of a post. -/
def post (renderer : Renderer) (post : Blog.Post) : Except TemplateError Text :=
  renderParts postPage renderer.layout
    (record
      [("title", .string post.title), ("description", .string post.excerpt),
        ("post", postValue post),
        ("blocks", .array ((Blog.segment post.content).map blockValue))])

/-- The page that lists posts. -/
def blogIndex (renderer : Renderer) (posts : List Blog.Post) : Except TemplateError Text :=
  renderParts blogPage renderer.layout
    (record [("title", .string "Blog".toList), ("posts", .array (posts.map postValue))])

/-- The page for addresses at which there is nothing. -/
def notFound (renderer : Renderer) : Except TemplateError Text :=
  renderParts missingPage renderer.layout (record [("title", .string "Page not found".toList)])

end Renderer

end DocSite.View
