import DocSite.Files.Path

/-!
# Starter files

The files from which a new site begins: a configuration file that sets everything, three pages of docs,
and a dataset with one post.
-/

namespace DocSite.Site

open Files

/-! ## §1 Contents -/

/-- A text of several lines. -/
private def starterText (lines : List String) : Text :=
  (lines.map fun line => line.toList ++ ['\n']).flatten

/-- The configuration file of a new site. -/
def starterSettings : Text :=
  starterText [
    "# quire configuration",
    "",
    "[site]",
    "title = \"My Documentation\"",
    "# Absolute URL used in sitemap.xml",
    "url = \"https://example.com\"",
    "",
    "[docs]",
    "dir = \"content/docs\"",
    "",
    "[blog]",
    "posts = \"content/blog/posts.json\"",
    "",
    "[build]",
    "output = \"dist\"",
    "minify = true",
    "public = \"public\"",
    "",
    "# Docs navigation, in reading order. The page with an empty slug is /docs.",
    "[[nav]]",
    "group = \"Getting Started\"",
    "pages = [",
    "  \x7b slug = \"\", title = \"Introduction\" \x7d,",
    "  \x7b slug = \"getting-started\", title = \"Getting Started\" \x7d,",
    "]",
    "",
    "[[nav]]",
    "group = \"Help\"",
    "pages = [",
    "  \x7b slug = \"help/faq\", title = \"FAQ\" \x7d,",
    "]"]

/-- The index page of the docs of a new site. -/
def starterIndex : Text :=
  starterText [
    "---",
    "title: \"Introduction\"",
    "description: \"Welcome to your documentation\"",
    "---",
    "",
    "# Introduction",
    "",
    "This site is built with **quire**.",
    "",
    "<Note>",
    "  Pages live in \x60content/docs\x60 and are listed in \x60quire.toml\x60.",
    "</Note>",
    "",
    "<CardGroup cols=\x7b2\x7d>",
    "  <Card title=\"Getting Started\" href=\"/getting-started\">Set up your first page</Card>",
    "  <Card title=\"FAQ\" href=\"/help/faq\">Common questions</Card>",
    "</CardGroup>"]

/-- The page that shows how to go on. -/
def starterGuide : Text :=
  starterText [
    "---",
    "title: \"Getting Started\"",
    "description: \"Write and preview your first page\"",
    "---",
    "",
    "# Getting Started",
    "",
    "Start the development server:",
    "",
    "\x60\x60\x60bash",
    "quire dev",
    "\x60\x60\x60",
    "",
    "Add a Markdown file under \x60content/docs\x60 and list it in the \x60[[nav]]\x60",
    "section of \x60quire.toml\x60. Links starting with \x60/\x60 point into the docs, so",
    "\x60[FAQ](/help/faq)\x60 becomes a link to \x60/docs/help/faq\x60.",
    "",
    "<Warning>",
    "  Pages missing from \x60[[nav]]\x60 are still served, but they are not built.",
    "</Warning>",
    "",
    "When you are done, build the static site:",
    "",
    "\x60\x60\x60bash",
    "quire build",
    "\x60\x60\x60"]

/-- The page of questions. -/
def starterQuestions : Text :=
  starterText [
    "---",
    "title: \"FAQ\"",
    "description: \"Frequently asked questions\"",
    "---",
    "",
    "# FAQ",
    "",
    "## Where do blog posts come from?",
    "",
    "From \x60content/blog/posts.json\x60, a JSON object keyed by post slug."]

/-- The dataset of a new site. -/
def starterPosts : Text :=
  starterText [
    "\x7b",
    "  \"hello-world\": \x7b",
    "    \"title\": \"Hello, world\",",
    "    \"excerpt\": \"The first post on this blog.\",",
    "    \"date\": \"January 1, 2025\",",
    "    \"readTime\": \"1 min read\",",
    "    \"category\": \"News\",",
    "    \"content\": \"Welcome to the blog.\\n\\n## What to expect\\n\\n- Release notes\\n- Guides\\n\\n\x60\x60\x60\\nquire build\\n\x60\x60\x60\"",
    "  \x7d",
    "\x7d"]

/-! ## §2 Files -/

/-- A file of a new site. -/
structure StarterFile where
  path : Path
  content : Text
  deriving DecidableEq, Repr

/-- The folder of the docs of a new site. -/
def starterDocs : Path := "content/docs".toList

/-- The files of a new site whose configuration file is at a path, in the order in which they are made. -/
def starterFiles (settings : Path) : List StarterFile :=
  [⟨settings, starterSettings⟩,
    ⟨starterDocs.join "index.md".toList, starterIndex⟩,
    ⟨starterDocs.join "getting-started.md".toList, starterGuide⟩,
    ⟨starterDocs.join "help/faq.md".toList, starterQuestions⟩,
    ⟨"content/blog/posts.json".toList, starterPosts⟩]

end DocSite.Site
