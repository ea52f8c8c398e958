import DocSite.Server.Address
import DocSite.Server.Live
import DocSite.Server.Watcher
import DocSite.Site.Work

/-!
# The development server

The server loads the posts, watches the folders that the site is made from, and listens for requests.
When the file of the posts changes it loads them anew; a file that cannot be loaded leaves the posts as
they were. Every change is told to all open pages.
-/

namespace DocSite.Server

open Files Site

/-! ## §1 Starting -/

/-- What the development server serves, and where. -/
structure DevelopmentPlan where
  /-- The folder of the docs. -/
  docs : Path := "content/docs".toList
  /-- The file that holds the posts. -/
  posts : Option Path := none
  /-- The folder whose files are served besides. -/
  assets : Option Path := none
  title : Text := "Documentation".toList
  host : Text := "127.0.0.1".toList
  port : Nat := 3000
  deriving DecidableEq, Repr

/-- Why the server cannot be started. -/
inductive ServerError where
  /-- The host and port are no address. -/
  | invalidAddress (address : Text)
  | posts (error : Blog.DatasetError)
  /-- Another server listens at the address. -/
  | occupied (address : Text)
  deriving DecidableEq, Repr

/-- The wording of the error. -/
def ServerError.message : ServerError → Text
  | .invalidAddress address => "Invalid address ".toList ++ address
  | .posts error => "Failed to load blog posts: ".toList ++ error.message
  | .occupied address =>
    "Failed to bind to ".toList ++ address ++ ": Address already in use (os error 98)".toList

/-- A server that runs. -/
structure Development where
  live : Live
  watcher : Watcher
  /-- The file of the posts as the watcher names it. -/
  dataset : Option Path
  assets : Option Path

namespace Development

/-- The path from the top to what is at a path; a path at which there is nothing stays as it is. -/
def fullPath (disk : Disk) (path : Path) : Path :=
  match disk.locate path with
  | .ok place => '/' :: Text.join ['/'] place
  | .error _ => path

/-- Loads the posts. A site without a file of posts has none. -/
def loadPosts (dataset : Option Path) : Work ServerError Blog.Store := do
  match dataset with
  | none => return Blog.Store.empty
  | some path =>
    if (← Work.disk).hasFile path then
      let loaded := Blog.load (← Work.disk) path
      loaded.renamed.forM fun (key, declared) =>
        Work.log .warn (Blog.renamedNote key declared)
      match loaded.store with
      | .ok store => return store
      | .error error => throw (.posts error)
    else
      Work.log .warn ("Blog posts not found: ".toList ++ path)
      return Blog.Store.empty

/-- The paths that are watched: the docs, the folder of the posts, and the assets. -/
def watchPaths (disk : Disk) (plan : DevelopmentPlan) (dataset : Option Path) : List Path :=
  fullPath disk plan.docs ::
    ((dataset.bind Path.parent?).toList ++ (plan.assets.map (fullPath disk)).toList)

/-- Starts the server at some time. `taken` tells whether another server listens at the address. -/
def start (plan : DevelopmentPlan) (catalog : Nav.Catalog) (taken : Bool) (time : Nat) :
    Work ServerError Development := do
  let address := addressText plan.host plan.port
  unless isAddress address do throw (.invalidAddress address)
  let disk ← Work.disk
  let dataset := plan.posts.map (fullPath disk)
  -- The posts are loaded before the address is bound, so their failure comes first.
  let store ← loadPosts dataset
  let layout : View.Layout := { title := plan.title }
  let watcher := Watcher.start disk (watchPaths disk plan dataset) time
  watcher.watched.forM fun path => Work.log .debug (watchingNote path)
  -- The address is bound last, when the files are watched already.
  if taken then throw (.occupied address)
  Work.log .info ("Dev server running at http://".toList ++ address ++ Nav.docsRoot)
  return {
    live := {
      renderer := ⟨catalog, layout.withScript "/__hmr.js".toList⟩
      docs := .folder plan.docs
      store := store
      reloadAddress := reloadAddress plan.host plan.port }
    watcher := watcher
    dataset := dataset
    assets := plan.assets }

/-! ## §2 Running -/

/-- What is logged of an event. -/
def eventLine : WatchEvent → LogLine
  | .contentModified path => ⟨.info, "Content modified: ".toList ++ path⟩
  | .dataModified path => ⟨.info, "Data modified: ".toList ++ path⟩
  | .created path => ⟨.debug, "Created: ".toList ++ path⟩
  | .deleted path => ⟨.debug, "Deleted: ".toList ++ path⟩
  | .modified path => ⟨.debug, "Modified: ".toList ++ path⟩

/-- The server with the posts loaded anew, and what is logged of it. -/
def reloadPosts (server : Development) (disk : Disk) (path : Path) : Development × List LogLine :=
  let loaded := Blog.load disk path
  let renamed := loaded.renamed.map fun (key, declared) =>
    ⟨.warn, Blog.renamedNote key declared⟩
  match loaded.store with
  | .ok store =>
    ({ server with live := { server.live with store := store } },
      renamed ++ [⟨.info, "Reloaded ".toList ++ Text.ofNat store.size ++ " blog posts".toList⟩])
  | .error error =>
    (server,
      renamed ++ [⟨.warn, "Keeping previous blog posts: ".toList ++ error.message⟩])

/-- The file of the posts, if an event says that something new may be in it. -/
def renewed? (server : Development) (event : WatchEvent) : Option Path :=
  if event.isDeletion then none else server.dataset.filter (Path.alike event.path)

/-- The server after an event, and what is logged of it. The posts are loaded before the open pages hear of
the change. -/
def handle (server : Development) (disk : Disk) (event : WatchEvent) :
    Development × List LogLine :=
  let (server, log) :=
    match server.renewed? event with
    | some dataset => server.reloadPosts disk dataset
    | none => (server, [])
  ({ server with live := { server.live with hub := server.live.hub.send .reload } },
    log ++ [eventLine event])

/-- The server after several events, and what is logged of them. -/
def handleAll (server : Development) (disk : Disk) : List WatchEvent → Development × List LogLine
  | [] => (server, [])
  | event :: events =>
    let (server, log) := server.handle disk event
    let (server, later) := server.handleAll disk events
    (server, log ++ later)

/-- The server after notices of changes, and what is logged of them. -/
def notice (server : Development) (disk : Disk) (notices : List Notice) :
    Development × List LogLine :=
  let (watcher, events) := server.watcher.takeAll notices
  { server with watcher }.handleAll disk events

/-- The answer to a request. -/
def respond (server : Development) (disk : Disk) (request : Request) : Response :=
  server.live.respond disk server.assets request

end Development

end DocSite.Server
