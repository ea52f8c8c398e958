import DocSite.Proofs.Nav.Slug

/-!
# The first fault of a list of groups

A list of groups is a catalog exactly if no slug comes twice and none has an empty segment. If it is none, the
fault that is reported is that of the first page in reading order that cannot stand behind the pages before it.

While the pages before it are taken up, the index stays in step with them (`Indexes`). So what is looked up for
the next page is what those pages are: its slug is found exactly if one of them has it, and the group that is
reported is the group of that one (`Indexes.add_of_offends`). A walk that ends early has therefore taken up a
catalog and met a page that offends (`Indexes.foldlM_cases`), and the main statement reads the verdict off the
whole walk (`Catalog.ofGroups_blames_first`).
-/

namespace DocSite.Nav

/-! ## §1 Pages that offend -/

/-- All pages in reading order, each under the name of its group. -/
def listing (groups : List Group) : List (Text × Page) :=
  groups.flatMap fun group => group.pages.map fun page => (group.name, page)

/-- A slug that is not empty has an empty segment. -/
def HasEmptySegment (slug : Text) : Prop := slug ≠ [] ∧ [] ∈ Text.splitOn ['/'] slug

/-- A page cannot stand behind the pages before it: its slug has an empty segment, or one of them has it. -/
def Offends (earlier : List (Text × Page)) (page : Page) : Prop :=
  HasEmptySegment page.slug ∨ ∃ other ∈ earlier, other.2.slug = page.slug

/-- What is reported of a page that offends. An empty segment counts first, whether or not the slug is also
taken; a slug that is taken is reported with the group of the one page that has it. -/
inductive Blames (earlier : List (Text × Page)) (name : Text) (page : Page) : CatalogError → Prop where
  | invalid (broken : HasEmptySegment page.slug) : Blames earlier name page (.invalidSlug page.slug name)
  | duplicate (whole : ¬ HasEmptySegment page.slug) (first : Text) (other : Page)
      (taken : earlier.filter (fun entry => entry.2.slug = page.slug) = [(first, other)]) :
      Blames earlier name page (.duplicateSlug page.slug first name)

/-- The pages have slugs without empty segments, and no two of them have the same one. -/
structure IsCatalog (listed : List (Text × Page)) : Prop where
  nodup : (listed.map (·.2.slug)).Nodup
  whole : ∀ entry ∈ listed, ¬ HasEmptySegment entry.2.slug

theorem hasEmptySegment_iff {slug : Text} : HasEmptySegment slug ↔ isProperSlug slug = false := by
  simp [HasEmptySegment, isProperSlug]

/-- No page of a catalog offends behind the pages before it. -/
theorem IsCatalog.not_offends {front back : List (Text × Page)} {entry : Text × Page}
    (h : IsCatalog (front ++ entry :: back)) : ¬ Offends front entry.2 := by
  rintro (broken | ⟨other, before, same⟩)
  · exact h.whole entry (by simp) broken
  · have nodup := h.nodup
    rw [List.map_append, List.map_cons] at nodup
    exact List.disjoint_of_nodup_append nodup (List.mem_map_of_mem before) (same ▸ List.mem_cons_self ..)

/-! ## §2 Entries -/

/-- What the listing shows of an entry. -/
def Entry.listed (entry : Entry) : Text × Page := (entry.group, entry.page)

/-- The entries of the groups are the pages in the listing. -/
theorem map_listed_entries (groups : List Group) : (entries groups).map Entry.listed = listing groups := by
  rw [entries, List.map_flatMap]
  calc
    _ = groups.zipIdx.flatMap fun numbered => numbered.1.pages.map fun page => (numbered.1.name, page) := by
      apply List.flatMap_congr
      intro numbered _
      conv_rhs => rw [← List.zipIdx_map_fst 0 numbered.1.pages]
      rw [List.map_map, List.map_map]
      rfl
    _ = (groups.zipIdx.map Prod.fst).flatMap fun group => group.pages.map fun page => (group.name, page) := by
      rw [List.flatMap_map]
    _ = listing groups := by rw [List.zipIdx_map_fst, listing]

/-- Where no key comes twice, an item is the only one with its key. -/
theorem filter_eq_singleton {α : Type} {key : α → Text} {items : List α} (nodup : (items.map key).Nodup)
    {item : α} (mem : item ∈ items) : items.filter (fun other => key other = key item) = [item] := by
  obtain ⟨front, back, rfl⟩ := List.append_of_mem mem
  rw [List.map_append, List.map_cons] at nodup
  -- The items before and behind have other keys.
  have before : key item ∉ front.map key := fun mem =>
    List.disjoint_of_nodup_append nodup mem (List.mem_cons_self ..)
  have behind : key item ∉ back.map key := (List.nodup_cons.mp nodup.of_append_right).1
  have none {others : List α} (absent : key item ∉ others.map key) :
      others.filter (fun other => key other = key item) = [] := by
    apply List.filter_eq_nil_iff.mpr
    intro other mem same
    exact absent (of_decide_eq_true same ▸ List.mem_map_of_mem mem)
  rw [List.filter_append, List.filter_cons_of_pos (by simp), none before, none behind, List.nil_append]

/-- Each entry bears the name of the group at its place. -/
theorem group_of_mem_entries {groups : List Group} {entry : Entry} (h : entry ∈ entries groups) :
    groups[entry.place.1]?.map (·.name) = some entry.group := by
  obtain ⟨⟨group, number⟩, hgroup, h⟩ := List.mem_flatMap.mp h
  obtain ⟨⟨page, inside⟩, -, rfl⟩ := List.mem_map.mp h
  rw [List.mem_zipIdx_iff_getElem?] at hgroup
  simp only [hgroup, Option.map_some]

/-! ## §3 One page -/

namespace Indexes

variable {taken : List Entry} {groups : List Group} {index next : Index} {entry : Entry}

/-- The pages that have been taken up are a catalog. -/
theorem isCatalog (h : Indexes taken index) : IsCatalog (taken.map Entry.listed) where
  nodup := by
    rw [List.map_map]
    exact h.nodup
  whole := by
    intro listed mem
    obtain ⟨entry, taken, rfl⟩ := List.mem_map.mp mem
    have proper := h.proper entry taken
    rw [hasEmptySegment_iff, Bool.not_eq_false]
    exact proper

/-- The slug of a page that has been taken up has the position of that page, and no other page has the slug. -/
theorem exists_of_position? (h : Indexes taken index) {slug : Text} {position : Nat}
    (found : index.position? slug = some position) :
    ∃ other, taken[position]? = some other ∧
      (taken.map Entry.listed).filter (fun listed => listed.2.slug = slug) = [other.listed] := by
  have there := (h.position?_iff slug position).mp found
  rw [List.getElem?_map, Option.map_eq_some_iff] at there
  obtain ⟨other, there, rfl⟩ := there
  refine ⟨other, there, ?_⟩
  have mem : other.listed ∈ taken.map Entry.listed := List.mem_map_of_mem (List.mem_of_getElem? there)
  exact filter_eq_singleton h.isCatalog.nodup mem

/-- **A page is taken up unless it offends** behind the pages before it; if it does, it is blamed for that. -/
theorem add_cases (h : Indexes taken index) (inside : ∀ other ∈ taken, other ∈ entries groups) (entry : Entry) :
    (∃ next, index.add groups entry = .ok next) ∨
      ∃ fault, index.add groups entry = .error fault ∧ Offends (taken.map Entry.listed) entry.page ∧
        Blames (taken.map Entry.listed) entry.group entry.page fault := by
  cases proper : isProperSlug entry.page.slug with
  | false =>
    have broken : HasEmptySegment entry.page.slug := hasEmptySegment_iff.mpr proper
    refine .inr ⟨.invalidSlug entry.page.slug entry.group, ?_, .inl broken, .invalid broken⟩
    simp [Index.add, proper]
  | true =>
    have whole : ¬ HasEmptySegment entry.page.slug := by simp [hasEmptySegment_iff, proper]
    cases found : index.position? entry.page.slug with
    | none =>
      left
      simp [Index.add, proper, found]
    | some position =>
      obtain ⟨other, there, only⟩ := h.exists_of_position? found
      have mem : other ∈ taken := List.mem_of_getElem? there
      have named : index.groupAt groups position = other.group := by
        have group := group_of_mem_entries (inside other mem)
        rw [Index.groupAt, h.order, List.getElem?_map, there, Option.map_some, Option.bind_some, group]
        rfl
      refine .inr ⟨.duplicateSlug entry.page.slug other.group entry.group, ?_, ?_, ?_⟩
      · simp [Index.add, proper, found, named]
      · have listed : other.listed ∈
            (taken.map Entry.listed).filter fun listed => listed.2.slug = entry.page.slug := by
          simp [only]
        obtain ⟨mem, same⟩ := List.mem_filter.mp listed
        exact .inr ⟨other.listed, mem, of_decide_eq_true same⟩
      · exact .duplicate whole other.group other.page only

/-! ## §4 All pages -/

/-- **A walk goes on until a page offends.** Either it takes up all pages, or it stops at a page that offends behind
those before it, which it has taken up. -/
theorem foldlM_cases (h : Indexes taken index) (rest : List Entry)
    (inside : ∀ other ∈ taken ++ rest, other ∈ entries groups) :
    (∃ next, rest.foldlM (Index.add groups) index = .ok next) ∨
      ∃ before entry behind reached fault, rest = before ++ entry :: behind ∧
        Indexes (taken ++ before) reached ∧
        rest.foldlM (Index.add groups) index = .error fault ∧
        Offends ((taken ++ before).map Entry.listed) entry.page ∧
        Blames ((taken ++ before).map Entry.listed) entry.group entry.page fault := by
  -- The induction is on the pages to come; those taken up and the index so far grow with each step.
  induction rest generalizing taken index with
  | nil => exact .inl ⟨index, rfl⟩
  | cons entry rest ih =>
    have known : ∀ other ∈ taken, other ∈ entries groups := fun other mem => inside other (by simp [mem])
    rcases h.add_cases known entry with ⟨following, added⟩ | ⟨fault, refused, offends, blamed⟩
    · rw [List.foldlM_cons, added]
      rcases ih (h.add added) (by simpa using inside) with
        walked | ⟨before, other, behind, reached, fault, rfl, upTo, stops, offends, blamed⟩
      · exact .inl walked
      · refine .inr ⟨entry :: before, other, behind, reached, fault, rfl, ?_, stops, ?_, ?_⟩
        all_goals rwa [List.append_cons]
    · refine .inr ⟨[], entry, rest, index, fault, rfl, ?_, ?_, ?_, ?_⟩
      · rwa [List.append_nil]
      · rw [List.foldlM_cons, refused]
        rfl
      · rwa [List.append_nil]
      · rwa [List.append_nil]

end Indexes

namespace Catalog

variable {groups : List Group}

theorem ofGroups_eq_error {fault : CatalogError} (h : Index.ofGroups groups = .error fault) :
    ofGroups groups = .error fault := by
  unfold ofGroups
  split
  case h_1 found =>
    cases h.symm.trans found
    rfl
  case h_2 found => cases h.symm.trans found

theorem ofGroups_eq_ok {index : Index} (h : Index.ofGroups groups = .ok index) :
    ∃ catalog, ofGroups groups = .ok catalog := by
  unfold ofGroups
  split
  case h_1 found => cases h.symm.trans found
  case h_2 => exact ⟨_, rfl⟩

theorem isCatalog_of_ofGroups {catalog : Catalog} (h : ofGroups groups = .ok catalog) :
    IsCatalog (listing groups) := by
  rw [← groups_of_ofGroups h, ← map_listed_entries]
  exact catalog.indexes.isCatalog

/-- The groups are accepted, or they are refused for a page that offends behind pages that are a catalog. -/
theorem ofGroups_cases (groups : List Group) :
    (∃ catalog, ofGroups groups = .ok catalog) ∨
      ∃ earlier name page later fault, listing groups = earlier ++ (name, page) :: later ∧
        IsCatalog earlier ∧ Offends earlier page ∧
        ofGroups groups = .error fault ∧ Blames earlier name page fault := by
  have known : ∀ entry ∈ [] ++ entries groups, entry ∈ entries groups := fun _ mem => mem
  rcases indexes_nil.foldlM_cases (entries groups) known with
    ⟨index, walked⟩ | ⟨before, entry, behind, reached, fault, parts, upTo, stops, offends, blamed⟩
  · exact .inl (ofGroups_eq_ok walked)
  · refine .inr ⟨before.map Entry.listed, entry.group, entry.page, behind.map Entry.listed, fault, ?_,
      upTo.isCatalog, offends, ofGroups_eq_error stops, blamed⟩
    rw [← map_listed_entries, parts, List.map_append, List.map_cons]
    rfl

/-- **A list of groups is a catalog unless a page offends, and the first page that does is blamed.** It is a
catalog exactly if no two pages have the same slug and no slug that is not empty has an empty segment, and then its
groups are kept as they are. Otherwise there is a page that offends behind the pages before it, while none of these
does, and it is this page that the fault is about. -/
theorem ofGroups_blames_first (groups : List Group) :
    ((∃ catalog, ofGroups groups = .ok catalog) ↔ IsCatalog (listing groups)) ∧
    (∀ catalog, ofGroups groups = .ok catalog → catalog.groups = groups) ∧
    ((¬ ∃ catalog, ofGroups groups = .ok catalog) →
      ∃ earlier name page later fault, listing groups = earlier ++ (name, page) :: later ∧
        Offends earlier page ∧
        (∀ front other back, earlier = front ++ other :: back → ¬ Offends front other.2) ∧
        ofGroups groups = .error fault ∧ Blames earlier name page fault) := by
  refine ⟨⟨fun ⟨catalog, accepted⟩ => isCatalog_of_ofGroups accepted, fun whole => ?_⟩,
    fun catalog => groups_of_ofGroups, fun refused => ?_⟩
  · rcases ofGroups_cases groups with accepted | ⟨earlier, name, page, later, fault, parts, -, offends, -⟩
    · exact accepted
    · -- In a catalog there is no page that offends.
      rw [parts] at whole
      exact absurd offends whole.not_offends
  · rcases ofGroups_cases groups with accepted | ⟨earlier, name, page, later, fault, parts, whole, offends, verdict⟩
    · exact absurd accepted refused
    · refine ⟨earlier, name, page, later, fault, parts, offends, ?_, verdict⟩
      rintro front other back rfl
      exact whole.not_offends

end Catalog

end DocSite.Nav
