import DocSite.Blog.Dataset
import DocSite.Content.Source
import DocSite.Site.Index
import DocSite.Site.Look
import DocSite.Site.Work
import DocSite.View.Renderer

/-!
# Building a site

A build writes every page of a site to files: the docs pages that have content, the blog, the page for
addresses at which there is nothing, the style sheet and the script, the files of the assets folder, and
the lists of pages. The first failure ends the build, but no docs page keeps another from being written.

Docs pages are written side by side, and so are posts: a schedule says in which order.
-/

namespace DocSite.Site

open Files

/-! ## §1 Plans and outcomes -/

/-- What a site is built from, and where. -/
structure Plan where
  /-- The folder of the docs. -/
  docs : Path := "content/docs".toList
  /-- The file that holds the posts. -/
  posts : Option Path := none
  /-- The folder whose files are copied into the site. -/
  assets : Option Path := none
  /-- The folder in which the site is built. -/
  output : Path := "dist".toList
  /-- Whether the style sheet is made small. -/
  minify : Bool := true
  /-- The address at which the site is reached. -/
  url : Text := []
  title : Text := "Documentation".toList
  deriving DecidableEq, Repr

/-- The order in which pages are written that could be written at the same time. -/
structure Schedule where
  docs : List Text → List Text := id
  posts : List Blog.Post → List Blog.Post := id
  /-- Every docs page has its turn. -/
  docs_perm : ∀ slugs, (docs slugs).Perm slugs := by exact fun _ => .refl _
  /-- Every post has its turn. -/
  posts_perm : ∀ listed, (posts listed).Perm listed := by exact fun _ => .refl _

/-- Pages are written in the order in which they are listed. -/
def Schedule.inOrder : Schedule := {}

/-- Why a site cannot be built. -/
inductive BuildError where
  /-- There is no folder of docs. -/
  | noDocs (path : Path)
  | posts (error : Blog.DatasetError)
  /-- A page cannot be rendered. -/
  | page (name : Text) (error : View.TemplateError)
  /-- A folder cannot be made. -/
  | folder (failure : FileError)
  /-- A file cannot be written. -/
  | file (path : Path) (failure : FileError)
  deriving DecidableEq, Repr

/-- The wording of the error. -/
def BuildError.message : BuildError → Text
  | .noDocs path =>
    "Failed to read docs directory: Docs directory not found: ".toList ++ path
  | .posts error => "Failed to load blog posts: ".toList ++ error.message
  | .page name _ => "Failed to render template: ".toList ++ name
  | .folder failure => "Failed to write output: ".toList ++ failure.message
  | .file path failure =>
    "Failed to write output: ".toList ++ path ++ ": ".toList ++ failure.message

/-- What a build made. -/
structure Built where
  /-- The number of docs pages. -/
  pages : Nat
  /-- The number of posts. -/
  posts : Nat
  /-- The slugs of the docs pages without content. -/
  skipped : List Text
  output : Path
  deriving DecidableEq, Repr

/-- What became of a docs page. -/
inductive PageOutcome where
  | written (entry : SearchEntry)
  | missing (slug : Text)
  deriving DecidableEq, Repr

/-- The entry of a page that was written. -/
def PageOutcome.written? : PageOutcome → Option SearchEntry
  | .written entry => some entry
  | .missing _ => none

/-- The slug of a page without content. -/
def PageOutcome.missing? : PageOutcome → Option Text
  | .written _ => none
  | .missing slug => some slug

namespace Plan

/-! ## §2 Files of the site -/

/-- Writes a file, and the folders above it if need be. -/
def writeFile (path : Path) (content : Text) : Work BuildError Unit := do
  Work.makeParent (fun _ => .folder) path
  Work.change (.file path) (·.write path content.toBytes)

/-- Writes a rendered page. -/
def writePage (name : Text) (path : Path) (page : Except View.TemplateError Text) :
    Work BuildError Unit :=
  match page with
  | .ok html => writeFile path html
  | .error error => throw (.page name error)

/-- The file of the docs page with these slug segments. -/
def docFile (plan : Plan) (segments : List Text) : Path :=
  ((plan.output.join "docs".toList).joinAll segments).join "index.html".toList

/-- The file of the post with a slug. -/
def postFile (plan : Plan) (slug : Text) : Path :=
  ((plan.output.join "blog".toList).join slug).join "index.html".toList

/-- A file by its path below the site. -/
def siteFile (plan : Plan) (names : List String) : Path :=
  plan.output.joinAll (names.map String.toList)

/-! ## §3 Docs pages -/

/-- The slugs of the docs: the index page, and then the other pages of the catalog in reading order. -/
def docSlugs (catalog : Nav.Catalog) : List Text :=
  [] :: catalog.slugSegments.map (Text.join ['/'])

/-- Looks for the source of a docs page and reports the candidates that cannot be read. -/
def loadDoc (plan : Plan) (segments : List Text) : Work BuildError (Option Text) := do
  let found := Content.findDoc (← Work.disk) plan.docs segments
  found.unreadable.forM fun (path, failure) =>
    Work.log .warn ("Failed to read ".toList ++ path ++ ": ".toList ++ failure.message)
  return found.source

/-- The entry of a docs page in the search index. -/
def searchEntry (renderer : View.Renderer) (slug : Text) (document : Content.Document) :
    SearchEntry where
  title := renderer.pageTitle slug document
  description := document.frontmatter.description
  url := Nav.slugHref slug
  excerpt := excerpt document.body

/-- Renders and writes one docs page. -/
def buildDoc (plan : Plan) (renderer : View.Renderer) (slug : Text) :
    Work BuildError PageOutcome := do
  let segments := Content.slugSegments slug
  match ← plan.loadDoc segments with
  | none =>
    Work.log .warn
      ("No content for docs page '".toList ++ slug ++ "' in ".toList ++ plan.docs)
    return .missing slug
  | some source =>
    let document := Content.Document.ofSource source
    writePage ("docs/".toList ++ slug) (plan.docFile segments) (renderer.document slug document)
    return .written (searchEntry renderer slug document)

/-- Renders and writes one docs page, and keeps a failure for later. -/
def tryDoc (plan : Plan) (renderer : View.Renderer) (slug : Text) :
    Work BuildError (Text × Except BuildError PageOutcome) :=
  return (slug, ← Work.attempt (plan.buildDoc renderer slug))

/-- Renders and writes docs pages in some order. All of them are tried before the first failure in the order
of `slugs` counts. -/
def buildDocs (plan : Plan) (renderer : View.Renderer) (slugs order : List Text) :
    Work BuildError (List PageOutcome) := do
  let tried ← order.mapM (plan.tryDoc renderer)
  (slugs.filterMap (tried.lookup ·)).mapM fun outcome => MonadExcept.ofExcept outcome

/-- Sees to it that there are docs and a folder for the site, and builds the docs pages. -/
def buildPages (plan : Plan) (renderer : View.Renderer) (slugs order : List Text) :
    Work BuildError (List PageOutcome) := do
  unless (← Work.disk).hasFolder plan.docs do throw (.noDocs plan.docs)
  Work.makeFolders .folder plan.output
  plan.buildDocs renderer slugs order

/-! ## §4 The blog -/

/-- Loads the posts. A site without a file of posts has none. -/
def loadPosts (plan : Plan) : Work BuildError Blog.Store := do
  match plan.posts with
  | none => return Blog.Store.empty
  | some path =>
    if (← Work.disk).hasFile path then
      let loaded := Blog.load (← Work.disk) path
      loaded.renamed.forM fun (key, declared) =>
        Work.log .warn (Blog.renamedNote key declared)
      match loaded.store with
      | .ok store => return store
      | .error error => throw (.posts error)
    else
      Work.log .warn ("Blog posts not found: ".toList ++ path)
      return Blog.Store.empty

/-- Renders and writes the list of posts. -/
def buildBlogIndex (plan : Plan) (renderer : View.Renderer) (posts : List Blog.Post) :
    Work BuildError Unit :=
  writePage "blog".toList (plan.siteFile ["blog", "index.html"]) (renderer.blogIndex posts)

/-- Loads the posts and writes the list of them. -/
def openBlog (plan : Plan) (renderer : View.Renderer) : Work BuildError Blog.Store := do
  let store ← plan.loadPosts
  plan.buildBlogIndex renderer store.posts
  return store

/-- Renders and writes one post. -/
def buildPost (plan : Plan) (renderer : View.Renderer) (post : Blog.Post) : Work BuildError Unit :=
  writePage ("blog/".toList ++ post.slug) (plan.postFile post.slug) (renderer.post post)

/-! ## §5 Everything else -/

/-- Writes the style sheet and the script. -/
def writeLook (plan : Plan) : Work BuildError Unit := do
  writeFile (plan.siteFile ["assets", "main.css"]) (styleSheet plan.minify)
  writeFile (plan.siteFile ["assets", "main.js"]) script

/-- Copies one file of the assets folder. -/
def copyAsset (plan : Plan) (folder : Path) (place : Place) : Work BuildError Unit := do
  let target := plan.output.joinAll place
  Work.makeParent (fun _ => .folder) target
  Work.change (.file target) (·.copy (folder.joinAll place) target)

/-- Copies the files of the assets folder, if there is one. -/
def copyAssets (plan : Plan) : Work BuildError Unit := do
  match plan.assets with
  | none => return ()
  | some folder =>
    if (← Work.disk).hasFolder folder then
      -- The files are listed before the first is copied: the site may lie in the folder.
      let places := (← Work.disk).filesUnder folder
      places.forM (plan.copyAsset folder)
      Work.log .info
        ("Copied ".toList ++ Text.ofNat places.length ++ " files from ".toList ++ folder)

/-- Writes the search index, the sitemap and the note for robots. -/
def writeLists (plan : Plan) (entries : List SearchEntry) (store : Blog.Store) :
    Work BuildError Unit := do
  let root := siteRoot plan.url
  writeFile (plan.siteFile ["search-index.json"]) (searchIndex entries)
  writeFile (plan.siteFile ["sitemap.xml"])
    (sitemap ((pageHrefs entries store.slugs).map (root ++ ·)))
  writeFile (plan.siteFile ["robots.txt"]) (robots root)

/-- Writes all that is neither a docs page nor part of the blog. -/
def finish (plan : Plan) (renderer : View.Renderer) (entries : List SearchEntry)
    (store : Blog.Store) : Work BuildError Unit := do
  writePage "404".toList (plan.siteFile ["404.html"]) renderer.notFound
  plan.writeLook
  -- An asset takes the place of a page with the same path, and a list that of an asset.
  plan.copyAssets
  plan.writeLists entries store

/-! ## §6 The whole build -/

/-- What renders the pages of a catalog. -/
def renderer (plan : Plan) (catalog : Nav.Catalog) : View.Renderer :=
  ⟨catalog, { title := plan.title }⟩

/-- Builds the site of a catalog. -/
def build (plan : Plan) (catalog : Nav.Catalog) (schedule : Schedule := .inOrder) :
    Work BuildError Built := do
  let renderer := plan.renderer catalog
  let slugs := docSlugs catalog
  let outcomes ← plan.buildPages renderer slugs (schedule.docs slugs)
  let entries := outcomes.filterMap PageOutcome.written?
  let store ← plan.openBlog renderer
  (schedule.posts store.posts).forM (plan.buildPost renderer)
  plan.finish renderer entries store
  return {
    pages := entries.length
    posts := store.size
    skipped := outcomes.filterMap PageOutcome.missing?
    output := plan.output }

end Plan

end DocSite.Site
