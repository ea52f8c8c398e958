import DocSite.Blog.Dataset
import DocSite.Content.Source
import DocSite.Server.Folder
import DocSite.Server.Reload
import DocSite.Server.Route
import DocSite.Site.Look
import DocSite.View.Renderer

/-!
# The live site

The development server renders every page when it is asked for: docs pages from their sources as they
are at that time, posts from the store that was loaded last. What is no part of the site is looked for
in the assets folder.
-/

namespace DocSite.Server

open Files

/-- What the development server knows of the site. -/
structure Live where
  renderer : View.Renderer
  docs : Content.Source
  store : Blog.Store
  /-- Where open pages connect to be reloaded. -/
  reloadAddress : Text
  /-- The style sheet. -/
  style : Text := Site.styleSheet false
  hub : Hub := Hub.empty
  /-- When the files of the assets folder were last changed, in seconds since 1970. -/
  changed : Nat := 0

namespace Live

/-! ## §1 Pages -/

/-- The answer with a rendered page. -/
def page (status : Nat) (page : Except View.TemplateError Text) : Response :=
  match page with
  | .ok html => .html status html
  | .error _ => .plain 500 "Failed to render page".toList

/-- The answer when there is no such page. -/
def notFound (live : Live) : Response := page 404 live.renderer.notFound

/-- The answer with the docs page that has a slug. -/
def doc (live : Live) (disk : Disk) (slug : Text) : Response :=
  match live.docs.load? disk (Content.slugSegments slug) with
  | some source => page 200 (live.renderer.doc slug source)
  | none => live.notFound

/-- The answer with the post that has a slug. -/
def post (live : Live) (slug : Text) : Response :=
  match live.store.get? slug with
  | some post => page 200 (live.renderer.post post)
  | none => live.notFound

/-- The answer to a path whose slug is not text. -/
def badSlug : Response := .plain 400 "Invalid URL: Invalid UTF-8 in \x60slug\x60".toList

/-! ## §2 Connections -/

/-- What keeps a request from opening a connection for messages, as an answer. Without a line to the
browser that could be switched over, there is always something. -/
def refuseConnection (request : Request) : Response :=
  let isValue (name value : String) : Bool :=
    (request.header? name).map (·.map Char.toLower) = some value.toList
  if request.wantsHead then .plain 405 "Request method must be \x60GET\x60".toList
  else if !(request.header? "connection").any fun value =>
      Text.includes (value.map Char.toLower) "upgrade".toList then
    .plain 400 "Connection header did not include 'upgrade'".toList
  else if !isValue "upgrade" "websocket" then
    .plain 400 "\x60Upgrade\x60 header did not include 'websocket'".toList
  else if (request.header? "sec-websocket-key").isNone then
    .plain 400 "\x60Sec-WebSocket-Key\x60 header missing".toList
  else if !isValue "sec-websocket-version" "13" then
    .plain 400 "\x60Sec-WebSocket-Version\x60 header did not include '13'".toList
  else
    .plain 426 "WebSocket request couldn't be upgraded since no upgrade state was present".toList

/-! ## §3 Requests -/

/-- The answer to a request for a part of the site. -/
def answer (live : Live) (disk : Disk) (request : Request) : Route → Response
  | .home => .redirect Nav.docsRoot
  | .docsIndex => live.doc disk []
  | .doc rest =>
    match decodePath? rest with
    | some slug => live.doc disk (Text.dropEndWhile (· = '/') slug)
    | none => badSlug
  | .blogIndex => page 200 (live.renderer.blogIndex live.store.posts)
  | .post rest =>
    match decodePath? rest with
    | some slug => live.post slug
    | none => badSlug
  | .style => .content "text/css" live.style
  | .script => .content "application/javascript" Site.script
  | .reload => refuseConnection request
  | .reloadScript => .content "application/javascript" (reloadScript live.reloadAddress)

/-- The answer to a request. -/
def respond (live : Live) (disk : Disk) (assets : Option Path) (request : Request) : Response :=
  let response :=
    match Route.ofPath? request.path, assets with
    | some route, _ => if request.isRead then live.answer disk request route else .wrongMethod
    | none, some folder => serveFolder disk folder live.changed request live.notFound
    | none, none => live.notFound
  response.fitTo request

end Live

end DocSite.Server
