import DocSite.Nav.Catalog
import Mathlib.Data.List.Nodup

/-!
# The index of a catalog

The index of a catalog is filled while the pages are taken up one after the other. It holds two lists, which
have to tell the same: the order says where the pages are, and the positions say for each slug where in the
order its page is. They do for the pages so far (`Indexes`), one more page keeps it so (`Indexes.add`), and so
the whole walk does (`Catalog.indexes`). What is looked up in the index is therefore what stands in the groups:
every position in the order leads to a page, in reading order (`Catalog.pageAt?_eq`), and a slug has a position
exactly if the page at that position has the slug (`Catalog.position?_eq_some_iff`).
-/

namespace DocSite.Nav

/-! ## §1 What an index tells -/

/-- The index tells of all these pages, and of no others, where they are. -/
structure Indexes (listed : List Entry) (index : Index) : Prop where
  order : index.order = listed.map (·.place)
  position?_iff : ∀ slug position,
    index.position? slug = some position ↔ (listed.map (·.page.slug))[position]? = some slug
  proper : ∀ entry ∈ listed, isProperSlug entry.page.slug = true

/-- The index without pages tells of none. -/
theorem indexes_nil : Indexes [] {} where
  order := rfl
  position?_iff slug position := by simp [Index.position?]
  proper := by simp

/-- A page is taken up if its slug is proper and new. -/
theorem Index.add_eq_ok {groups : List Group} {index next : Index} {entry : Entry}
    (h : index.add groups entry = .ok next) :
    isProperSlug entry.page.slug = true ∧ index.position? entry.page.slug = none ∧
      next.order = index.order ++ [entry.place] ∧
      next.positions = index.positions ++ [(entry.page.slug, index.order.length)] := by
  unfold Index.add at h
  split at h
  case isTrue => cases h
  case isFalse proper =>
    split at h
    case h_1 => cases h
    case h_2 new =>
      cases h
      exact ⟨by simpa using proper, new, rfl, rfl⟩

namespace Indexes

variable {listed : List Entry} {groups : List Group} {index next : Index} {entry : Entry}

/-- One more page has the position behind those of all pages before. -/
theorem position?_add (h : Indexes listed index) (added : index.add groups entry = .ok next)
    (slug : Text) :
    next.position? slug =
      if slug = entry.page.slug then some listed.length else index.position? slug := by
  obtain ⟨-, new, -, positions⟩ := Index.add_eq_ok added
  have last : index.order.length = listed.length := by rw [h.order, List.length_map]
  simp only [Index.position?, positions, List.find?_append] at new ⊢
  by_cases same : slug = entry.page.slug
  · subst same
    rw [Option.map_eq_none_iff] at new
    rw [new, if_pos rfl]
    simp [last]
  · rw [if_neg same, List.find?_cons_of_neg (by simpa using Ne.symm same), List.find?_nil, Option.or_none]

/-- **One more page keeps the index in step** with the pages that have been taken up. -/
theorem add (h : Indexes listed index) (added : index.add groups entry = .ok next) :
    Indexes (listed ++ [entry]) next := by
  obtain ⟨proper, new, order, -⟩ := Index.add_eq_ok added
  refine ⟨by rw [order, h.order, List.map_append]; rfl, fun slug position => ?_, ?_⟩
  · rw [h.position?_add added, List.map_append, List.map_singleton]
    have earlier := h.position?_iff slug position
    -- A position is that of a page before, that of the new page, or behind all pages.
    rcases Nat.lt_trichotomy position listed.length with before | rfl | behind
    · -- The pages before keep their positions, and none of them has the new slug.
      rw [List.getElem?_append_left (by simpa using before), ← earlier]
      split
      case isTrue same =>
        subst same
        rw [new]
        simp [Nat.ne_of_gt before]
      case isFalse => rfl
    · -- This position was free, so only the new slug can have it.
      rw [List.getElem?_append_right (by simp)]
      have unlisted : index.position? slug ≠ some listed.length := fun found => by
        have there := earlier.mp found
        simp at there
      simp only [List.length_map, Nat.sub_self, List.getElem?_cons_zero, Option.some.injEq]
      split
      case isTrue same => simp [same]
      case isFalse other => exact iff_of_false unlisted (Ne.symm other)
    · -- There is no page yet, and no slug has the position.
      rw [List.getElem?_append_right (by simpa using Nat.le_of_lt behind)]
      have unlisted : index.position? slug ≠ some position := fun found => by
        have there := (List.getElem?_eq_some_iff.mp (earlier.mp found)).1
        rw [List.length_map] at there
        omega
      have past : ([entry.page.slug] : List Text)[position - listed.length]? = none :=
        List.getElem?_eq_none (by simp; omega)
      rw [List.length_map, past]
      split
      case isTrue => simp [Nat.ne_of_lt behind]
      case isFalse => simp [unlisted]
  · intro other mem
    rcases List.mem_append.mp mem with mem | mem
    · exact h.proper other mem
    · exact List.mem_singleton.mp mem ▸ proper

/-- Taking up pages one after the other keeps the index in step with them. -/
theorem foldlM {rest : List Entry} (h : Indexes listed index)
    (walked : rest.foldlM (Index.add groups) index = .ok next) : Indexes (listed ++ rest) next := by
  -- The induction is on the pages to come; those taken up and the index so far grow with each step.
  induction rest generalizing listed index with
  | nil =>
    cases walked
    rwa [List.append_nil]
  | cons entry rest ih =>
    rw [List.foldlM_cons] at walked
    cases added : index.add groups entry with
    | error fault =>
      rw [added] at walked
      cases walked
    | ok following =>
      rw [added] at walked
      rw [List.append_cons]
      exact ih (h.add added) walked

/-- No slug comes twice. -/
theorem nodup (h : Indexes listed index) : (listed.map (·.page.slug)).Nodup := by
  rw [List.nodup_iff_getElem?_ne_getElem?]
  intro first second before inside same
  -- Both pages would have the position of their slug.
  have one := (h.position?_iff _ first).mpr (same.trans (List.getElem?_eq_getElem inside))
  have two := (h.position?_iff _ second).mpr (List.getElem?_eq_getElem inside)
  have equal := Option.some.inj (one.symm.trans two)
  omega

end Indexes

/-! ## §2 Pages in their places -/

/-- The pages of the entries of a group are its pages. -/
private theorem map_page_group (group : Group) (number : Nat) :
    (group.pages.zipIdx.map fun placed =>
      (⟨(number, placed.2), group.name, placed.1⟩ : Entry)).map (·.page) = group.pages := by
  rw [List.map_map]
  exact List.zipIdx_map_fst 0 group.pages

/-- The pages of the entries are the pages of the groups. -/
theorem map_page_entries (groups : List Group) :
    (entries groups).map (·.page) = groups.flatMap (·.pages) := by
  rw [entries, List.map_flatMap]
  calc
    _ = groups.zipIdx.flatMap fun numbered => numbered.1.pages :=
      List.flatMap_congr fun numbered _ => map_page_group numbered.1 numbered.2
    _ = (groups.zipIdx.map Prod.fst).flatMap Group.pages := (List.flatMap_map ..).symm
    _ = groups.flatMap Group.pages := by rw [List.zipIdx_map_fst]

/-- Each page is in its place. -/
theorem page_of_mem_entries {groups : List Group} {entry : Entry} (h : entry ∈ entries groups) :
    (groups[entry.place.1]?.bind (·.pages[entry.place.2]?)) = some entry.page := by
  obtain ⟨⟨group, number⟩, hgroup, h⟩ := List.mem_flatMap.mp h
  obtain ⟨⟨page, inside⟩, hpage, rfl⟩ := List.mem_map.mp h
  rw [List.mem_zipIdx_iff_getElem?] at hgroup hpage
  simp only [hgroup, hpage, Option.bind_some]

/-! ## §3 What is looked up in a catalog -/

namespace Catalog

variable (catalog : Catalog)

theorem ofGroups_index : Index.ofGroups catalog.groups = .ok catalog.index := by
  have built := Option.some_get catalog.faultless
  -- A walk that fails makes no catalog.
  cases walked : Index.ofGroups catalog.groups with
  | error fault =>
    have fails := catalog.faultless
    rw [walked] at fails
    cases fails
  | ok index =>
    have found : catalog.index = index := by simp [Catalog.index, walked, Except.toOption]
    rw [found]

/-- **The index of a catalog tells where its pages are.** -/
theorem indexes : Indexes (entries catalog.groups) catalog.index := by
  simpa using indexes_nil.foldlM catalog.ofGroups_index

theorem map_slug_entries :
    (entries catalog.groups).map (·.page.slug) = catalog.pages.map (·.slug) := by
  rw [pages, ← map_page_entries, List.map_map]
  rfl

/-- **The order of the index is the reading order**, and each of its places is that of a page. -/
theorem pageAt?_eq (position : Nat) : catalog.pageAt? position = catalog.pages[position]? := by
  rw [pageAt?, pages, ← map_page_entries, catalog.indexes.order, List.getElem?_map, List.getElem?_map]
  cases listed : (entries catalog.groups)[position]? with
  | none => rfl
  | some entry => exact page_of_mem_entries (List.mem_of_getElem? listed)

theorem size_eq : catalog.size = catalog.pages.length := by
  rw [size, catalog.indexes.order, List.length_map, pages, ← map_page_entries, List.length_map]

variable {catalog}

/-- A catalog keeps the groups of which it is made. -/
theorem groups_of_ofGroups {groups : List Group} (h : ofGroups groups = .ok catalog) :
    catalog.groups = groups := by
  unfold ofGroups at h
  split at h
  · cases h
  · cases h
    rfl

/-- **The position of a slug is that of the page with the slug.** -/
theorem position?_eq_some_iff {slug : Text} {position : Nat} :
    catalog.index.position? slug = some position ↔
      ∃ page, catalog.pages[position]? = some page ∧ page.slug = slug := by
  rw [catalog.indexes.position?_iff, map_slug_entries, List.getElem?_map, Option.map_eq_some_iff]

end Catalog

end DocSite.Nav
