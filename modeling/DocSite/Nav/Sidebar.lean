import DocSite.Nav.Catalog

/-!
# Links between docs pages

What a page shows of the catalog: a sidebar with all groups, and a pager with the two neighbours of the
page in reading order.
-/

namespace DocSite.Nav

/-- A link to a docs page. -/
structure Link where
  title : Text
  href : Text
  deriving DecidableEq, Repr

/-- The link to a page. -/
def Page.link (page : Page) : Link := ⟨page.title, page.href⟩

/-- A link in the sidebar. -/
structure SidebarLink extends Link where
  /-- Whether it leads to the page that shows the sidebar. -/
  active : Bool
  deriving DecidableEq, Repr

/-- A group of the sidebar. -/
structure SidebarSection where
  group : Text
  links : List SidebarLink
  deriving DecidableEq, Repr

/-- The links to the neighbours of a page. -/
structure Pager where
  previous : Option Link
  next : Option Link
  deriving DecidableEq, Repr

/-- The sidebar on the page with a slug, or on a page outside of the docs. -/
def Catalog.sidebar (catalog : Catalog) (active : Option Text) : List SidebarSection :=
  catalog.groups.map fun group =>
    { group := group.name
      links := group.pages.map fun page =>
        { toLink := page.link, active := active = some page.slug } }

/-- The pager on the page with a slug. -/
def Catalog.pager (catalog : Catalog) (slug : Text) : Pager :=
  let neighbours := catalog.neighbours slug
  ⟨neighbours.previous.map Page.link, neighbours.next.map Page.link⟩

end DocSite.Nav
