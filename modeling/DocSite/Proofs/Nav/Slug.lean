import DocSite.Proofs.Nav.Index
import DocSite.Proofs.Text.Split

/-!
# Slugs of a catalog

Every page of a catalog has a proper slug: it is empty or made of segments that are not empty. So no slug
ends in a slash, and taking it apart and putting it together again changes nothing.
-/

namespace DocSite.Nav

/-- Every page of a catalog has a proper slug. -/
theorem Catalog.isProperSlug_of_mem_pages (catalog : Catalog) {page : Page}
    (h : page ∈ catalog.pages) : isProperSlug page.slug = true := by
  rw [pages, ← map_page_entries] at h
  obtain ⟨entry, hentry, rfl⟩ := List.mem_map.mp h
  exact catalog.indexes.proper entry hentry

/-- No two pages of a catalog have the same slug. -/
theorem Catalog.nodup_slugs (catalog : Catalog) : (catalog.pages.map (·.slug)).Nodup :=
  catalog.map_slug_entries ▸ catalog.indexes.nodup

/-- A proper slug ends in no slash. -/
theorem dropEndWhile_slash_of_isProperSlug {slug : Text} (h : isProperSlug slug = true) :
    Text.dropEndWhile (· = '/') slug = slug := by
  rcases List.eq_nil_or_concat slug with rfl | ⟨front, last, rfl⟩
  · rfl
  · have plain : last ≠ '/' := by
      rintro rfl
      simp [isProperSlug, Text.splitOn_append_singleton] at h
    simp [Text.dropEndWhile, plain]

/-- The slugs that are put together from their segments are the slugs of the pages. -/
theorem Catalog.map_join_slugSegments (catalog : Catalog) :
    catalog.slugSegments.map (Text.join ['/']) =
      (catalog.pages.filter (!·.isIndex)).map (·.slug) := by
  simp only [slugSegments, List.map_map]
  exact List.map_congr_left fun page _ => Text.join_splitOn '/' page.slug

end DocSite.Nav
