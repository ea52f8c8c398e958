import DocSite.Content.Document
import DocSite.Json.Printer
import DocSite.Nav.Catalog
import DocSite.Text.Blank

/-!
# Lists of pages

A built site holds three files for programs: the search index, which says for every docs page what it is
about, the sitemap, which lists the addresses of all pages, and the note that leads robots to the
sitemap.
-/

namespace DocSite.Site

/-! ## §1 The search index -/

/-- A docs page in the search index. -/
structure SearchEntry where
  title : Text
  description : Text
  /-- The address of the page. -/
  url : Text
  /-- The first words of the page. -/
  excerpt : Text
  deriving DecidableEq, Repr

/-- The most lines of a page that an excerpt has. -/
def excerptLines : Nat := 10

/-- The first lines of a body that are neither blank nor the start of a heading nor a code fence. -/
def excerpt (body : Text) : Text :=
  let lines := ((Text.lines body).map Text.trim).filter fun line =>
    !line.isEmpty && !Text.startsWith line ['#'] && !Text.startsWith line ['\x60', '\x60', '\x60']
  Text.join [' '] (lines.take excerptLines)

/-- An entry as a value. -/
def SearchEntry.toJson (entry : SearchEntry) : Json :=
  .object
    [("title".toList, .string entry.title), ("description".toList, .string entry.description),
      ("url".toList, .string entry.url), ("excerpt".toList, .string entry.excerpt)]

/-- The search index of a list of pages. -/
def searchIndex (entries : List SearchEntry) : Text :=
  Json.pretty (.array (entries.map SearchEntry.toJson))

/-! ## §2 Addresses -/

/-- The address of the site without slashes at its end. -/
def siteRoot (url : Text) : Text := Text.dropEndWhile (· = '/') url

/-- Where the blog is served. -/
def blogRoot : Text := "/blog".toList

/-- The address of the post with a slug. -/
def postHref (slug : Text) : Text := blogRoot ++ '/' :: slug

/-- The addresses of all pages: the docs, the blog, and its posts. -/
def pageHrefs (docs : List SearchEntry) (posts : List Text) : List Text :=
  docs.map (·.url) ++ blogRoot :: posts.map postHref

/-- An address in the sitemap. -/
def sitemapEntry (address : Text) : Text :=
  "  <url>\n    <loc>".toList ++ address ++ "</loc>\n  </url>".toList

/-- The sitemap of a list of addresses. -/
def sitemap (addresses : List Text) : Text :=
  Text.join ['\n']
    ["<?xml version=\"1.0\" encoding=\"UTF-8\"?>".toList,
      "<urlset xmlns=\"http://www.sitemaps.org/schemas/sitemap/0.9\">".toList,
      Text.join ['\n'] (addresses.map sitemapEntry), "</urlset>".toList]

/-- The note for robots. -/
def robots (root : Text) : Text :=
  "User-agent: *\nAllow: /\nSitemap: ".toList ++ root ++ "/sitemap.xml".toList

end DocSite.Site
