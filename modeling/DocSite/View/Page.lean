import DocSite.View.Template

/-!
# The templates of the site

Every page is laid out the same way and has its own body. Templates find what belongs to the site under
the name `site` and what belongs to the page under the name `page`.
-/

namespace DocSite.View

/-! ## §1 Writing templates -/

/-- Lines of text; a line feed stands between neighbours. -/
private def lines (texts : List String) : Part :=
  .text (Text.join ['\n'] (texts.map String.toList))

/-- A path with dots between its names. -/
private def path (names : String) : Path :=
  match Text.splitOn ['.'] names.toList with
  | name :: fields => ⟨name, fields⟩
  | [] => ⟨[], []⟩

/-- An escaped value. -/
private def value (names : String) : Part := .value (path names)

/-- Parts that stand only where a value counts as true. -/
private def whenHolds (names : String) (yes : List Part) (no : List Part := []) : Part :=
  .choice (.holds (path names)) yes no

/-- Parts for each item of a value. -/
private def each (name names : String) (body : List Part) (otherwise : List Part := []) : Part :=
  .each name.toList (path names) body otherwise

/-! ## §2 The layout -/

/-- A whole page around a body. -/
def page (body : List Part) : List Part :=
  [lines
      ["<!DOCTYPE html>", "<html lang=\"en\">", "<head>", "  <meta charset=\"utf-8\">",
        "  <meta name=\"viewport\" content=\"width=device-width, initial-scale=1\">", "  <title>"],
    whenHolds "page.title" [value "page.title", lines [" - "]], value "site.site_title",
    lines ["</title>", "  "],
    whenHolds "page.description"
      [lines ["<meta name=\"description\" content=\""], value "page.description",
        lines ["\">", "  "]],
    each "style" "site.styles"
      [lines ["<link rel=\"stylesheet\" href=\""], value "style", lines ["\">", "  "]],
    lines
      ["", "</head>", "<body>", "  <header class=\"site-header\">",
        "    <a href=\"/\" class=\"site-logo\">"],
    value "site.site_title",
    lines
      ["</a>", "    <nav class=\"site-links\">", "      <a href=\"/docs\">Docs</a>",
        "      <a href=\"/blog\">Blog</a>", "    </nav>", "  </header>", "  "]] ++
    body ++
    [lines ["", "  "],
      each "script" "site.scripts"
        [lines ["<script src=\""], value "script", lines ["\"></script>", "  "]],
      lines ["", "</body>", "</html>"]]

/-! ## §3 Docs -/

/-- The list of all docs pages. -/
def sidebar : List Part :=
  [lines
      ["<button class=\"menu-btn\" type=\"button\" aria-label=\"Toggle docs navigation\">Menu</button>",
        "<aside class=\"sidebar\">",
        "  <a href=\"/\" class=\"sidebar-back\">Back to home</a>", "  "],
    each "section" "page.sidebar"
      [lines ["", "  <div class=\"sidebar-section\">", "    <h3 class=\"sidebar-group\">"],
        value "section.group",
        lines ["</h3>", "    <ul class=\"nav-list\">", "    "],
        each "link" "section.links"
          [lines ["", "      <li class=\"nav-item"],
            whenHolds "link.active" [lines [" active"]],
            lines ["\">", "        <a href=\""], value "link.href", lines ["\""],
            whenHolds "link.active" [lines [" aria-current=\"page\""]],
            lines [">"], value "link.title",
            lines ["</a>", "      </li>", "    "]],
        lines ["", "    </ul>", "  </div>", "  "]],
    lines ["", "</aside>"]]

/-- One end of the pager: a link to a neighbour, or an empty box. -/
private def pagerEnd (side css label : String) : Part :=
  whenHolds ("page.pager." ++ side)
    [lines ["", "      <a class=\"" ++ css ++ "\" href=\""], value ("page.pager." ++ side ++ ".href"),
      lines ["\">", "        <span class=\"pager-label\">" ++ label ++ "</span>",
        "        <span class=\"pager-title\">"],
      value ("page.pager." ++ side ++ ".title"),
      lines ["</span>", "      </a>", "      "]]
    [lines ["<div></div>"]]

/-- A page of the docs. -/
def docPage : List Part :=
  page
    [lines ["", "<div class=\"docs-layout\">", "  "], .insert sidebar,
      lines ["", "  <main class=\"main\">", "    "],
      whenHolds "page.description"
        [lines ["", "    <p class=\"doc-description\">"], value "page.description",
          lines ["</p>", "    "]],
      lines ["", "    <article class=\"content\">", "      "], .markup (path "page.content"),
      lines ["", "    </article>", "    "],
      .choice (.either (.holds (path "page.pager.prev")) (.holds (path "page.pager.next")))
        [lines ["", "    <nav class=\"pager\">", "      "],
          pagerEnd "prev" "pager-prev" "Previous",
          lines ["", "      "],
          pagerEnd "next" "pager-next" "Next",
          lines ["", "    </nav>", "    "]]
        [],
      lines ["", "  </main>", "</div>", ""]]

/-! ## §4 The blog -/

/-- The line about a post above its title. -/
private def postMeta (post : String) : List Part :=
  [lines ["", "    <div class=\"post-meta\">", "      <span class=\"post-category\">"],
    value (post ++ ".category"), lines ["</span>", "      <span>"], value (post ++ ".date"),
    lines ["</span>", "      <span>&bull;</span>", "      <span>"], value (post ++ ".readTime"),
    lines ["</span>", "    </div>", ""]]

/-- The list of the items of a block. -/
private def blockList (element : String) : List Part :=
  [lines ["<" ++ element ++ ">"],
    each "item" "block.items" [lines ["<li>"], value "item", lines ["</li>"]],
    lines ["</" ++ element ++ ">", "    "]]

/-- An element with a field of a block in it. -/
private def blockElement (opening field closing : String) : List Part :=
  [lines [opening], value ("block." ++ field), lines [closing, "    "]]

/-- Whether a block is of a kind. -/
private def isKind (kind : String) : Condition := .equals (path "block.kind") kind.toList

/-- A post of the blog. -/
def postPage : List Part :=
  page
    ([lines ["", "<main class=\"post\">", "  <a href=\"/blog\" class=\"post-back\">Back to Blog</a>",
        "  <header class=\"post-header\">"]] ++
      postMeta "page.post" ++
      [lines ["    <h1>"], value "page.post.title",
        lines ["</h1>", "    <p class=\"post-excerpt\">"], value "page.post.excerpt",
        lines ["</p>", "  </header>", "  <article class=\"content\">", "  "],
        each "block" "page.blocks"
          [lines ["", "    "],
            .choice (isKind "heading2") (blockElement "<h2>" "text" "</h2>")
              [.choice (isKind "heading3") (blockElement "<h3>" "text" "</h3>")
                [.choice (isKind "code_block")
                  (blockElement "<pre><code>" "code" "</code></pre>")
                  [.choice (.both (isKind "list") (.holds (path "block.ordered"))) (blockList "ol")
                    [.choice (isKind "list") (blockList "ul")
                      (blockElement "<p>" "text" "</p>")]]]],
            lines ["", "  "]],
        lines ["", "  </article>", "</main>", ""]])

/-- The list of all posts. -/
def blogPage : List Part :=
  page
    [lines ["", "<main class=\"blog-index\">", "  <h1>Blog</h1>", "  "],
      each "post" "page.posts"
        ([lines ["", "  <a class=\"post-card\" href=\"/blog/"], value "post.slug", lines ["\">"]] ++
          postMeta "post" ++
          [lines ["    <h2>"], value "post.title",
            lines ["</h2>", "    <p class=\"post-excerpt\">"], value "post.excerpt",
            lines ["</p>", "  </a>", "  "]])
        [lines ["", "  <p>No posts yet.</p>", "  "]],
      lines ["", "</main>", ""]]

/-! ## §5 Pages without content of their own -/

/-- The page for addresses at which there is nothing. -/
def missingPage : List Part :=
  page
    [lines
      ["", "<main class=\"not-found\">", "  <h1>Page not found</h1>",
        "  <p>The page you are looking for does not exist.</p>",
        "  <a href=\"/docs\">Go to the docs</a>", "</main>", ""]]

/-- The templates by their names. -/
def templates : List (Text × List Part) :=
  [("base.html", page []), ("sidebar.html", sidebar), ("doc.html", docPage),
    ("blog_post.html", postPage), ("blog_index.html", blogPage),
    ("not_found.html", missingPage)].map fun (name, parts) => (name.toList, parts)

/-! ## §6 Rendering -/

/-- What belongs to the whole site. -/
structure Layout where
  /-- The title of the site. -/
  title : Text
  /-- The addresses of style sheets. -/
  styles : List Text := ["/assets/main.css".toList]
  /-- The addresses of scripts. -/
  scripts : List Text := ["/assets/main.js".toList]
  deriving DecidableEq, Repr

/-- The layout with one more script. -/
def Layout.withScript (layout : Layout) (address : Text) : Layout :=
  { layout with scripts := layout.scripts ++ [address] }

/-- The layout as a value. -/
def Layout.toJson (layout : Layout) : Json :=
  .object
    [("site_title".toList, .string layout.title),
      ("styles".toList, .array (layout.styles.map .string)),
      ("scripts".toList, .array (layout.scripts.map .string))]

/-- A template rendered with a layout and the values of a page. -/
def renderParts (parts : List Part) (layout : Layout) (page : Json) : Except TemplateError Text :=
  Part.renderAll [("site".toList, layout.toJson), ("page".toList, page)] parts

/-- The template of a name rendered with a layout and the values of a page. -/
def render (name : Text) (layout : Layout) (page : Json) : Except TemplateError Text :=
  match templates.find? (·.1 = name) with
  | none => .error .unknownTemplate
  | some (_, parts) => renderParts parts layout page

end DocSite.View
