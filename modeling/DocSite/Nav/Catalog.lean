import DocSite.Text.Basic

/-!
# The catalog of docs pages

The catalog lists all docs pages in groups. Its order is the reading order of the docs: group by group,
and in a group page by page. Slugs are unique, and none has an empty segment; `Catalog.ofGroups`
reports the first page that breaks this.
-/

namespace DocSite.Nav

/-! ## §1 Pages -/

/-- Where the docs are served. -/
def docsRoot : Text := "/docs".toList

/-- A page of the catalog. -/
structure Page where
  /-- The path below the root of the docs; the index page has the empty one. -/
  slug : Text
  title : Text
  deriving DecidableEq, Repr

/-- Whether this is the index page of the docs. -/
def Page.isIndex (page : Page) : Bool := page.slug.isEmpty

/-- The address of the docs page with a slug. -/
def slugHref (slug : Text) : Text := if slug.isEmpty then docsRoot else docsRoot ++ '/' :: slug

/-- The address of the page. -/
def Page.href (page : Page) : Text := slugHref page.slug

/-- A titled section of pages. -/
structure Group where
  name : Text
  pages : List Page := []
  deriving DecidableEq, Repr

/-! ## §2 Well-formed catalogs -/

/-- What is wrong with a list of groups. -/
inductive CatalogError where
  /-- Two pages have one slug. -/
  | duplicateSlug (slug first second : Text)
  /-- A slug has an empty segment. -/
  | invalidSlug (slug group : Text)
  deriving DecidableEq, Repr

/-- The wording of the error. -/
def CatalogError.message : CatalogError → Text
  | .duplicateSlug slug first second =>
    "Duplicate slug '".toList ++ slug ++ "' in groups '".toList ++ first ++ "' and '".toList ++
      second ++ ['\x27']
  | .invalidSlug slug group =>
    "Invalid slug '".toList ++ slug ++ "' in group '".toList ++ group ++
      "': segments must not be empty".toList

/-- Whether a slug names the index page or has only segments that are not empty. -/
def isProperSlug (slug : Text) : Bool :=
  slug.isEmpty || (Text.splitOn ['/'] slug).all (!·.isEmpty)

/-! ## §3 The index -/

/-- A page in a list of groups. -/
structure Entry where
  /-- The number of its group, and its number in that group. -/
  place : Nat × Nat
  /-- The name of its group. -/
  group : Text
  page : Page
  deriving DecidableEq, Repr

/-- The pages of all groups in reading order. -/
def entries (groups : List Group) : List Entry :=
  groups.zipIdx.flatMap fun (group, number) =>
    group.pages.zipIdx.map fun (page, inside) => ⟨(number, inside), group.name, page⟩

/-- Where the pages of a list of groups are found. -/
structure Index where
  /-- The places of the pages in reading order. -/
  order : List (Nat × Nat) := []
  /-- The position in that order of the page with each slug. -/
  positions : List (Text × Nat) := []
  deriving DecidableEq, Repr

namespace Index

/-- The position of the page with a slug. -/
def position? (index : Index) (slug : Text) : Option Nat :=
  (index.positions.find? (·.1 = slug)).map (·.2)

/-- The name of the group that the page at a position belongs to. -/
def groupAt (index : Index) (groups : List Group) (position : Nat) : Text :=
  ((index.order[position]?.bind fun place => groups[place.1]?).map (·.name)).getD []

/-- The index with one more page, unless its slug is not proper or taken already. -/
def add (groups : List Group) (index : Index) (entry : Entry) : Except CatalogError Index :=
  if !isProperSlug entry.page.slug then .error (.invalidSlug entry.page.slug entry.group)
  else
    match index.position? entry.page.slug with
    | some position =>
      .error (.duplicateSlug entry.page.slug (index.groupAt groups position) entry.group)
    | none =>
      .ok
        { order := index.order ++ [entry.place]
          positions := index.positions ++ [(entry.page.slug, index.order.length)] }

/-- The index of a list of groups, or its first fault. -/
def ofGroups (groups : List Group) : Except CatalogError Index :=
  (entries groups).foldlM (add groups) {}

end Index

/-- A list of groups whose slugs are proper and unique. -/
structure Catalog where
  groups : List Group
  faultless : (Index.ofGroups groups).toOption.isSome = true
  deriving DecidableEq

/-- The catalog without pages. -/
instance : Inhabited Catalog := ⟨[], rfl⟩

namespace Catalog

/-- The catalog of a list of groups. -/
def ofGroups (groups : List Group) : Except CatalogError Catalog :=
  match h : Index.ofGroups groups with
  | .error fault => .error fault
  | .ok _ => .ok ⟨groups, by rw [h]; rfl⟩

/-- Where the pages of the catalog are found. -/
def index (catalog : Catalog) : Index :=
  (Index.ofGroups catalog.groups).toOption.get catalog.faultless

/-! ## §4 Reading order -/

/-- All pages in reading order. -/
def pages (catalog : Catalog) : List Page := catalog.groups.flatMap (·.pages)

/-- The number of pages. -/
def size (catalog : Catalog) : Nat := catalog.index.order.length

/-- The segments of the slugs of all pages but the index page. -/
def slugSegments (catalog : Catalog) : List (List Text) :=
  (catalog.pages.filter (!·.isIndex)).map fun page => Text.splitOn ['/'] page.slug

/-- The page at a position in reading order. -/
def pageAt? (catalog : Catalog) (position : Nat) : Option Page :=
  catalog.index.order[position]?.bind fun (number, inside) =>
    catalog.groups[number]?.bind (·.pages[inside]?)

/-- The page with a slug. -/
def page? (catalog : Catalog) (slug : Text) : Option Page :=
  (catalog.index.position? slug).bind catalog.pageAt?

/-- The neighbours of a page in reading order. -/
structure Neighbours where
  previous : Option Page := none
  next : Option Page := none
  deriving DecidableEq, Repr

/-- The pages right before and right after the page with a slug. A slug without page has none. -/
def neighbours (catalog : Catalog) (slug : Text) : Neighbours :=
  match catalog.index.position? slug with
  | none => {}
  | some position =>
    { previous := match position with
        | 0 => none
        | before + 1 => catalog.pageAt? before
      next := if position + 1 < catalog.size then catalog.pageAt? (position + 1) else none }

end Catalog

end DocSite.Nav
