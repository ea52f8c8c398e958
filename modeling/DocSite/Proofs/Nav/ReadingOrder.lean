import DocSite.Proofs.Nav.Slug
import Mathlib.Logic.Function.Iterate

/-!
# The reading order as a chain

A reader who starts at the first page of the docs and always follows the link to the next page comes to every
page once, in reading order, and stops behind the last one. The links in both directions belong together, also
across the borders of groups and past groups without pages.

All of this is read off the index of the catalog: the position of a slug is that of its page
(`Catalog.position?_eq_some_iff`), so the neighbours of a slug are the pages at the positions beside it
(`Catalog.neighbours_of_position`). The main statement puts it together for every list of groups that is a
catalog (`Catalog.reads_as_chain`).
-/

namespace DocSite.Nav

/-- Two items are neighbours in a list exactly if their positions are. -/
theorem pair_infix_iff {α : Type} {first second : α} {items : List α} :
    [first, second] <:+: items ↔
      ∃ position, items[position]? = some first ∧ items[position + 1]? = some second := by
  rw [List.infix_iff_getElem?]
  constructor
  · rintro ⟨position, -, same⟩
    refine ⟨position, ?_, ?_⟩
    · simpa using same 0 (by simp)
    · simpa [Nat.add_comm] using same 1 (by simp)
  · rintro ⟨position, one, two⟩
    have bound := (List.getElem?_eq_some_iff.mp two).1
    refine ⟨position, by simpa using (by omega), fun i inside => ?_⟩
    match i, inside with
    | 0, _ => simpa using one
    | 1, _ => simpa [Nat.add_comm] using two

namespace Catalog

variable {catalog : Catalog} {slug : Text}

/-! ## §1 One page -/

theorem position?_of_getElem? {position : Nat} {page : Page}
    (h : catalog.pages[position]? = some page) :
    catalog.index.position? page.slug = some position :=
  position?_eq_some_iff.mpr ⟨page, h, rfl⟩

/-- **The page with a slug is found**, and no other page. -/
theorem page?_eq_some_iff {page : Page} :
    catalog.page? slug = some page ↔ page ∈ catalog.pages ∧ page.slug = slug := by
  rw [page?, Option.bind_eq_some_iff]
  constructor
  · rintro ⟨position, found, there⟩
    obtain ⟨other, listed, same⟩ := position?_eq_some_iff.mp found
    rw [pageAt?_eq, listed] at there
    cases there
    exact ⟨List.mem_of_getElem? listed, same⟩
  · rintro ⟨mem, rfl⟩
    obtain ⟨position, listed⟩ := List.mem_iff_getElem?.mp mem
    exact ⟨position, position?_of_getElem? listed, (catalog.pageAt?_eq position).trans listed⟩

/-- The neighbours of a page are the pages at the positions beside its own. -/
theorem neighbours_of_position {position : Nat}
    (h : catalog.index.position? slug = some position) :
    (catalog.neighbours slug).next = catalog.pages[position + 1]? ∧
      ∀ first, (catalog.neighbours slug).previous = some first ↔
        ∃ before, before + 1 = position ∧ catalog.pages[before]? = some first := by
  rw [neighbours, h]
  constructor
  · -- Behind the last page there is none, whether or not it is looked for.
    dsimp only
    rw [pageAt?_eq, size_eq]
    split
    case isTrue => rfl
    case isFalse outside => exact (List.getElem?_eq_none (by omega)).symm
  · intro first
    cases position with
    | zero => simp
    | succ before => simp [pageAt?_eq]

/-- A slug without page has no neighbours. -/
theorem neighbours_of_stranger (h : slug ∉ catalog.pages.map (·.slug)) :
    catalog.page? slug = none ∧ catalog.neighbours slug = {} := by
  have unlisted : catalog.index.position? slug = none := by
    rw [Option.eq_none_iff_forall_ne_some]
    intro position found
    obtain ⟨page, listed, same⟩ := position?_eq_some_iff.mp found
    exact h (List.mem_map.mpr ⟨page, List.mem_of_getElem? listed, same⟩)
  exact ⟨by rw [page?, unlisted]; rfl, by rw [neighbours, unlisted]⟩

/-! ## §2 Two pages -/

/-- **The next page is the one right behind** the page with the slug. -/
theorem next_eq_some_iff {second : Page} :
    (catalog.neighbours slug).next = some second ↔
      ∃ first, first.slug = slug ∧ [first, second] <:+: catalog.pages := by
  constructor
  · intro h
    cases found : catalog.index.position? slug with
    | none =>
      rw [neighbours, found] at h
      cases h
    | some position =>
      obtain ⟨first, listed, same⟩ := position?_eq_some_iff.mp found
      rw [(neighbours_of_position found).1] at h
      exact ⟨first, same, pair_infix_iff.mpr ⟨position, listed, h⟩⟩
  · rintro ⟨first, rfl, pair⟩
    obtain ⟨position, one, two⟩ := pair_infix_iff.mp pair
    rw [(neighbours_of_position (position?_of_getElem? one)).1, two]

/-- **The previous page is the one right before** the page with the slug. -/
theorem previous_eq_some_iff {first : Page} :
    (catalog.neighbours slug).previous = some first ↔
      ∃ second, second.slug = slug ∧ [first, second] <:+: catalog.pages := by
  constructor
  · intro h
    cases found : catalog.index.position? slug with
    | none =>
      rw [neighbours, found] at h
      cases h
    | some position =>
      obtain ⟨second, listed, same⟩ := position?_eq_some_iff.mp found
      obtain ⟨before, rfl, one⟩ := ((neighbours_of_position found).2 first).mp h
      exact ⟨second, same, pair_infix_iff.mpr ⟨before, one, listed⟩⟩
  · rintro ⟨second, rfl, pair⟩
    obtain ⟨before, one, two⟩ := pair_infix_iff.mp pair
    exact ((neighbours_of_position (position?_of_getElem? two)).2 first).mpr ⟨before, rfl, one⟩

/-- The page with the second slug is the next one after the page with the first slug. -/
def LeadsOn (catalog : Catalog) (first second : Text) : Prop :=
  ∃ page, catalog.page? second = some page ∧ (catalog.neighbours first).next = some page

/-- The page with the first slug is the previous one before the page with the second slug. -/
def LeadsBack (catalog : Catalog) (first second : Text) : Prop :=
  ∃ page, catalog.page? first = some page ∧ (catalog.neighbours second).previous = some page

/-- Two slugs are neighbours exactly if two pages with these slugs are. -/
theorem slugs_infix_iff {one two : Text} :
    [one, two] <:+: catalog.pages.map (·.slug) ↔
      ∃ first second : Page, first.slug = one ∧ second.slug = two ∧ [first, second] <:+: catalog.pages := by
  constructor
  · intro pair
    obtain ⟨position, hone, htwo⟩ := pair_infix_iff.mp pair
    rw [List.getElem?_map, Option.map_eq_some_iff] at hone htwo
    obtain ⟨first, listed, sameOne⟩ := hone
    obtain ⟨second, listedNext, sameTwo⟩ := htwo
    exact ⟨first, second, sameOne, sameTwo, pair_infix_iff.mpr ⟨position, listed, listedNext⟩⟩
  · rintro ⟨first, second, rfl, rfl, pair⟩
    exact pair.map (·.slug)

theorem leadsOn_iff {one two : Text} :
    catalog.LeadsOn one two ↔ [one, two] <:+: catalog.pages.map (·.slug) := by
  rw [slugs_infix_iff]
  constructor
  · rintro ⟨second, found, next⟩
    obtain ⟨first, same, pair⟩ := next_eq_some_iff.mp next
    exact ⟨first, second, same, (page?_eq_some_iff.mp found).2, pair⟩
  · rintro ⟨first, second, sameOne, sameTwo, pair⟩
    have mem : second ∈ catalog.pages := pair.subset (by simp)
    exact ⟨second, page?_eq_some_iff.mpr ⟨mem, sameTwo⟩, next_eq_some_iff.mpr ⟨first, sameOne, pair⟩⟩

theorem leadsBack_iff {one two : Text} :
    catalog.LeadsBack one two ↔ [one, two] <:+: catalog.pages.map (·.slug) := by
  rw [slugs_infix_iff]
  constructor
  · rintro ⟨first, found, previous⟩
    obtain ⟨second, same, pair⟩ := previous_eq_some_iff.mp previous
    exact ⟨first, second, (page?_eq_some_iff.mp found).2, same, pair⟩
  · rintro ⟨first, second, sameOne, sameTwo, pair⟩
    have mem : first ∈ catalog.pages := pair.subset (by simp)
    exact ⟨first, page?_eq_some_iff.mpr ⟨mem, sameOne⟩,
      previous_eq_some_iff.mpr ⟨second, sameTwo, pair⟩⟩

/-! ## §3 All pages -/

/-- Where a reader is after following the link to the next page, if there is one. -/
def turn (catalog : Catalog) (here : Option Page) : Option Page :=
  here.bind fun page => (catalog.neighbours page.slug).next

/-- One turn leads from each position to the one behind it. -/
theorem turn_getElem? (position : Nat) :
    catalog.turn catalog.pages[position]? = catalog.pages[position + 1]? := by
  cases listed : catalog.pages[position]? with
  | none =>
    have past := List.getElem?_eq_none_iff.mp listed
    exact (List.getElem?_eq_none (by omega)).symm
  | some page => exact (neighbours_of_position (position?_of_getElem? listed)).1

/-- **A reader who starts at the first page** is at the page of a position after as many turns. -/
theorem iterate_turn (turns : Nat) :
    catalog.turn^[turns] catalog.pages.head? = catalog.pages[turns]? := by
  induction turns with
  | zero => exact List.head?_eq_getElem?
  | succ turns ih => rw [Function.iterate_succ_apply', ih, turn_getElem?]

/-- The segments of the slugs lead back to the pages below the root of the docs. -/
theorem map_page?_slugSegments :
    catalog.slugSegments.map (fun segments => catalog.page? (Text.join ['/'] segments)) =
      (catalog.pages.filter (!·.isIndex)).map some := by
  rw [slugSegments, List.map_map]
  refine List.map_congr_left fun page mem => ?_
  have listed : page ∈ catalog.pages := List.mem_of_mem_filter mem
  exact page?_eq_some_iff.mpr ⟨listed, (Text.join_splitOn '/' page.slug).symm⟩

/-- The pages of some groups, read as one chain. -/
structure ReadsAsChain (groups : List Group) (catalog : Catalog) : Prop where
  /-- The reading order is that of the groups, and the index leads from each position to the page there. -/
  pages : catalog.pages = groups.flatMap (·.pages) ∧ catalog.size = catalog.pages.length ∧
    ∀ position, catalog.pageAt? position = catalog.pages[position]?
  /-- A slug belongs to one page at most, and that page is found. -/
  page : (catalog.pages.map (·.slug)).Nodup ∧
    ∀ slug page, catalog.page? slug = some page ↔ page ∈ catalog.pages ∧ page.slug = slug
  /-- The links to the next and to the previous page belong together: they join the pages that stand right
  behind each other. -/
  links : ∀ first second : Text, (catalog.LeadsOn first second ↔ catalog.LeadsBack first second) ∧
    (catalog.LeadsOn first second ↔ [first, second] <:+: catalog.pages.map (·.slug))
  /-- The neighbours of a slug are the pages beside its page, and nothing else. -/
  neighbours : ∀ slug page,
    ((catalog.neighbours slug).next = some page ↔
      ∃ first, first.slug = slug ∧ [first, page] <:+: catalog.pages) ∧
    ((catalog.neighbours slug).previous = some page ↔
      ∃ second, second.slug = slug ∧ [page, second] <:+: catalog.pages)
  /-- A slug without page has no neighbours. -/
  stranger : ∀ slug, slug ∉ catalog.pages.map (·.slug) →
    catalog.page? slug = none ∧ catalog.neighbours slug = {}
  /-- Turning pages leads through the reading order and ends behind the last page. -/
  walk : (∀ turns, catalog.turn^[turns] catalog.pages.head? = catalog.pages[turns]?) ∧
    catalog.turn^[catalog.size] catalog.pages.head? = none
  /-- The slugs that are taken apart are those of the pages below the root of the docs. Their segments are
  not empty and have no slash, and put together again they find their pages. -/
  segments : catalog.slugSegments.map (fun segments => catalog.page? (Text.join ['/'] segments)) =
      (catalog.pages.filter (!·.isIndex)).map some ∧
    ∀ segments ∈ catalog.slugSegments, ∀ part ∈ segments, part ≠ [] ∧ '/' ∉ part

/-- **The pages of a catalog are one chain**, whatever groups they are listed in. -/
theorem reads_as_chain {groups : List Group} (h : ofGroups groups = .ok catalog) :
    ReadsAsChain groups catalog where
  pages := ⟨by rw [Catalog.pages, groups_of_ofGroups h], catalog.size_eq, catalog.pageAt?_eq⟩
  page := ⟨catalog.nodup_slugs, fun _ _ => page?_eq_some_iff⟩
  links _ _ := ⟨leadsOn_iff.trans leadsBack_iff.symm, leadsOn_iff⟩
  neighbours _ _ := ⟨next_eq_some_iff, previous_eq_some_iff⟩
  stranger _ := neighbours_of_stranger
  walk := ⟨iterate_turn, by
    rw [iterate_turn, catalog.size_eq]
    exact List.getElem?_eq_none (Nat.le_refl _)⟩
  segments := by
    refine ⟨map_page?_slugSegments, fun segments mem part inside => ?_⟩
    obtain ⟨page, hpage, rfl⟩ := List.mem_map.mp mem
    obtain ⟨listed, below⟩ := List.mem_filter.mp hpage
    have proper := catalog.isProperSlug_of_mem_pages listed
    refine ⟨?_, Text.notMem_of_mem_splitOn inside⟩
    -- Only the slug of the index page may be empty, and it is left out.
    rw [isProperSlug, Bool.or_eq_true] at proper
    rcases proper with empty | filled
    · rw [Page.isIndex, empty] at below
      cases below
    · simpa using List.all_eq_true.mp filled part inside

/-- Two groups with pages and an empty one between them. -/
def chainGroups : List Group :=
  [⟨"Start".toList, [⟨[], "Welcome".toList⟩, ⟨"setup".toList, "Setup".toList⟩]⟩,
    ⟨"Later".toList, []⟩, ⟨"Help".toList, [⟨"help/faq".toList, "FAQ".toList⟩]⟩]

/-- The link to the next page leads past the group without pages. -/
theorem reads_as_chain_past_empty :
    ∃ catalog, ofGroups chainGroups = .ok catalog ∧ ReadsAsChain chainGroups catalog ∧
      catalog.LeadsOn "setup".toList "help/faq".toList ∧
      catalog.LeadsBack "setup".toList "help/faq".toList ∧
      (catalog.neighbours "help".toList).next = none := by
  have accepted : ofGroups chainGroups = .ok ⟨chainGroups, by decide +kernel⟩ := by decide +kernel
  have chain := reads_as_chain accepted
  have beside : ["setup".toList, "help/faq".toList] <:+:
      (Catalog.pages ⟨chainGroups, by decide +kernel⟩).map (·.slug) := ⟨[[]], [], rfl⟩
  have on := (chain.links _ _).2.mpr beside
  refine ⟨_, accepted, chain, on, (chain.links _ _).1.mp on, ?_⟩
  rw [(chain.stranger "help".toList (by decide)).2]

end Catalog

end DocSite.Nav
