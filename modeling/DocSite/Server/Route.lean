import DocSite.Nav.Catalog
import DocSite.Server.Http
import DocSite.Site.Index

/-!
# Routes

Which part of the site a request asks for. A route is told by the path as it is written; the slug in it
is decoded later.
-/

namespace DocSite.Server

/-- A part of the site. -/
inductive Route where
  | home
  | docsIndex
  /-- A docs page, by the part of the path that names it. -/
  | doc (rest : Text)
  | blogIndex
  /-- A post, by the part of the path that names it. -/
  | post (rest : Text)
  | style
  | script
  | reload
  | reloadScript
  deriving DecidableEq, Repr

/-- Where the parts of the site are served that have one path each. -/
def fixedRoutes : List (Text × Route) :=
  [("/".toList, .home), (Nav.docsRoot, .docsIndex), (Site.blogRoot, .blogIndex),
    ("/assets/main.css".toList, .style), ("/assets/main.js".toList, .script),
    ("/__hmr".toList, .reload), ("/__hmr.js".toList, .reloadScript)]

/-- What a path has behind a root and a slash, if it has something. -/
def behind? (root path : Text) : Option Text :=
  match Text.after? (root ++ ['/']) path with
  | some (c :: rest) => some (c :: rest)
  | _ => none

/-- The part of the site at a path. Docs pages may be nested, posts are not. -/
def Route.ofPath? (path : Text) : Option Route :=
  match fixedRoutes.find? (·.1 = path) with
  | some (_, route) => some route
  | none =>
    match behind? Nav.docsRoot path with
    | some rest => some (.doc rest)
    | none =>
      match behind? Site.blogRoot path with
      | some rest => if rest.contains '/' then none else some (.post rest)
      | none => none

end DocSite.Server
