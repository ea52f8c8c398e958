import DocSite.Nav.Sidebar
import DocSite.Proofs.Nav.ReadingOrder

/-!
# The sidebar, the pager and the catalog

The sidebar walks through the groups of the catalog, and the pager asks the index of the catalog for the
neighbours of a page. Both speak of the same pages: from top to bottom the links of the sidebar are the links to
the pages in reading order (`Catalog.sidebarLinks_eq`), so what the index says about positions can be seen in the
sidebar. The slugs of a catalog are unique, hence at most one link is marked as active and no two links lead to
the same address. The main statement (`Catalog.sidebar_agrees`) holds for every catalog and for every page on
which the sidebar is shown.
-/

namespace DocSite.Nav

/-! ## §1 Addresses -/

/-- Different slugs have different addresses. -/
theorem slugHref_injective : Function.Injective slugHref := by
  intro one two same
  -- The index page has the only address without a slash behind the root of the docs.
  by_cases first : one = [] <;> by_cases second : two = []
  · rw [first, second]
  · simp [slugHref, first, second] at same
  · simp [slugHref, first, second] at same
  · simpa [slugHref, first, second] using same

namespace Catalog

variable (catalog : Catalog) (active : Option Text)

/-- The links of the sidebar from top to bottom. -/
def sidebarLinks : List SidebarLink := (catalog.sidebar active).flatMap (·.links)

/-! ## §2 Links and pages -/

/-- **The links of the sidebar are the links to the pages** in reading order, and a link is active if the sidebar
is shown on its page. -/
theorem sidebarLinks_eq :
    catalog.sidebarLinks active =
      catalog.pages.map fun page => { toLink := page.link, active := active = some page.slug } := by
  simp [sidebarLinks, sidebar, pages, List.flatMap_map, List.map_flatMap]

/-- Apart from the mark, the links of the sidebar are the links to the pages. -/
theorem map_toLink_sidebarLinks :
    (catalog.sidebarLinks active).map (·.toLink) = catalog.pages.map Page.link := by
  simp [sidebarLinks_eq]

/-- No two links of the sidebar lead to the same address. -/
theorem nodup_href_sidebarLinks : ((catalog.sidebarLinks active).map (·.href)).Nodup := by
  have addresses : (catalog.sidebarLinks active).map (·.href) =
      (catalog.pages.map (·.slug)).map slugHref := by
    simp [sidebarLinks_eq, Page.link, Page.href]
  rw [addresses]
  apply catalog.nodup_slugs.map
  exact slugHref_injective

variable {catalog}

/-- A slug is found exactly if a page has it. -/
theorem isSome_page?_iff {slug : Text} :
    (catalog.page? slug).isSome = true ↔ slug ∈ catalog.pages.map (·.slug) := by
  rw [Option.isSome_iff_exists, List.mem_map]
  constructor
  · intro ⟨page, found⟩
    exact ⟨page, page?_eq_some_iff.mp found⟩
  · intro ⟨page, listed⟩
    exact ⟨page, page?_eq_some_iff.mpr listed⟩

variable (catalog)

/-- **One link is active** if the sidebar is shown on a page of the catalog, and otherwise none is. -/
theorem countP_active_sidebarLinks :
    (catalog.sidebarLinks active).countP (·.active) =
      if (active.bind catalog.page?).isSome then 1 else 0 := by
  rw [sidebarLinks_eq, List.countP_map]
  cases active with
  | none => simp
  | some slug =>
    -- The active links are those to the pages with the slug, and a slug comes once at most.
    have marks : catalog.pages.countP
        ((·.active) ∘ fun page => ({ toLink := page.link, active := some slug = some page.slug } : SidebarLink)) =
        (catalog.pages.map (·.slug)).count slug := by
      rw [List.count, List.countP_map]
      apply List.countP_congr
      intro page _
      simp only [Function.comp, decide_eq_true_eq, beq_iff_eq, Option.some.injEq]
      exact eq_comm
    rw [marks, catalog.nodup_slugs.count]
    simp only [Option.bind_some, isSome_page?_iff]

variable {catalog}

/-! ## §3 Neighbours -/

/-- The neighbours of a page are the pages right before and right behind it. -/
theorem neighbours_of_split {before behind : List Page} {page : Page}
    (split : catalog.pages = before ++ page :: behind) :
    catalog.neighbours page.slug = ⟨before.getLast?, behind.head?⟩ := by
  have place : catalog.pages[before.length]? = some page := by simp [split]
  obtain ⟨next, previous⟩ := neighbours_of_position (position?_of_getElem? place)
  have ahead : (catalog.neighbours page.slug).next = behind.head? := by
    rw [next, split, List.getElem?_append_right (by omega)]
    simp [List.head?_eq_getElem?]
  have back : (catalog.neighbours page.slug).previous = before.getLast? := by
    ext first
    rw [previous, List.getLast?_eq_getElem?]
    constructor
    · -- The position in front of the page is the last one of the pages before.
      intro ⟨position, last, listed⟩
      rw [split, List.getElem?_append_left (by omega)] at listed
      rwa [← last, Nat.add_sub_cancel]
    · intro listed
      obtain ⟨inside, -⟩ := List.getElem?_eq_some_iff.mp listed
      refine ⟨before.length - 1, by omega, ?_⟩
      rwa [split, List.getElem?_append_left inside]
  cases found : catalog.neighbours page.slug
  simp_all

variable (catalog)

/-- What is shown of a catalog on a page, or outside of the docs. -/
structure SidebarAgrees (active : Option Text) : Prop where
  /-- All groups are there in their order, also those without pages, and each has the links to its pages. -/
  groups : (catalog.sidebar active).map (fun part => (part.group, part.links.map (·.toLink))) =
    catalog.groups.map fun group => (group.name, group.pages.map fun page => ⟨page.title, page.href⟩)
  /-- From top to bottom, the links are those to the pages in reading order. -/
  links : (catalog.sidebarLinks active).map (·.toLink) =
    catalog.pages.map fun page => ⟨page.title, page.href⟩
  /-- At each position, it is the link to the page that the index has there. -/
  positions : ∀ position, (catalog.sidebarLinks active)[position]?.map (·.toLink) =
    (catalog.pageAt? position).map fun page => ⟨page.title, page.href⟩
  /-- One link is active if the catalog has the page, and none if not. -/
  count : (catalog.sidebarLinks active).countP (·.active) =
    if (active.bind catalog.page?).isSome then 1 else 0
  /-- An active link is the one to the page on which the sidebar is shown. -/
  marks : ∀ position link, (catalog.sidebarLinks active)[position]? = some link →
    (link.active = true ↔ ∃ page, catalog.pageAt? position = some page ∧ active = some page.slug)
  /-- No two links have the same address. -/
  hrefs : ((catalog.sidebarLinks active).map (·.href)).Nodup
  /-- On a page of the catalog, the pager leads to the links right before and right behind the active one. -/
  pager : ∀ slug page, active = some slug → catalog.page? slug = some page →
    ∃ before link behind, catalog.sidebarLinks active = before ++ link :: behind ∧
      link.active = true ∧ link.toLink = ⟨page.title, page.href⟩ ∧
      catalog.pager slug = ⟨before.getLast?.map (·.toLink), behind.head?.map (·.toLink)⟩

/-- The pager of a page leads to the links beside the active one. -/
theorem pager_of_page? {slug : Text} {page : Page} (found : catalog.page? slug = some page) :
    ∃ before link behind, catalog.sidebarLinks (some slug) = before ++ link :: behind ∧
      link.active = true ∧ link.toLink = page.link ∧
      catalog.pager slug = ⟨before.getLast?.map (·.toLink), behind.head?.map (·.toLink)⟩ := by
  obtain ⟨listed, rfl⟩ := page?_eq_some_iff.mp found
  obtain ⟨before, behind, split⟩ := List.append_of_mem listed
  -- The links are cut where the pages are.
  let toSidebar (other : Page) : SidebarLink := ⟨other.link, some page.slug = some other.slug⟩
  refine ⟨before.map toSidebar, toSidebar page, behind.map toSidebar, ?_, ?_, rfl, ?_⟩
  · rw [sidebarLinks_eq, split, List.map_append, List.map_cons]
  · simp [toSidebar]
  · simp [pager, neighbours_of_split split, Function.comp_def, toSidebar]

/-- **The sidebar, the pager and the addresses tell of one catalog**, whatever page they are shown on. -/
theorem sidebar_agrees : catalog.SidebarAgrees active where
  groups := by simp [sidebar, Page.link]
  links := catalog.map_toLink_sidebarLinks active
  positions position := by
    rw [← List.getElem?_map, map_toLink_sidebarLinks, List.getElem?_map, pageAt?_eq]
    rfl
  count := catalog.countP_active_sidebarLinks active
  marks position link listed := by
    rw [sidebarLinks_eq, List.getElem?_map, Option.map_eq_some_iff] at listed
    obtain ⟨page, there, rfl⟩ := listed
    simp [pageAt?_eq, there]
  hrefs := catalog.nodup_href_sidebarLinks active
  pager slug page shown found := by
    subst shown
    exact catalog.pager_of_page? found

end Catalog

end DocSite.Nav
