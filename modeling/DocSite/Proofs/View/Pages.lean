import DocSite.Proofs.View.Shape
import DocSite.View.Renderer

/-!
# Pages always render

The templates of the site check against the shapes of the values that the renderer hands to them. So no page
of the docs fails, whatever the catalog, the layout and the document hold, and neither does the page for
addresses at which there is nothing.
-/

namespace DocSite.View

/-! ## §1 Shapes of the values of pages -/

namespace Shape

/-- A value with fields of some shapes. -/
def record (fields : List (String × Shape)) : Shape :=
  fields.foldr (fun (name, shape) whole => .field name.toList shape whole) .present

/-- The shape of a layout. -/
def layout : Shape := record [("styles", .list .any), ("scripts", .list .any)]

/-- The shape of what belongs to a page of the docs. -/
def docPage : Shape :=
  record
    [("sidebar", .list (record [("links", .list .present)])),
      ("pager", record [("prev", .present), ("next", .present)])]

theorem fits_layout (layout : Layout) : Shape.layout.Fits (some layout.toJson) :=
  ⟨⟨_, rfl, fun _ _ => trivial⟩, ⟨_, rfl, fun _ _ => trivial⟩, rfl⟩

end Shape

/-- The context of a template for pages of some shape. -/
def pageContext (shape : Shape) : Context := [("site".toList, .layout), ("page".toList, shape)]

/-- A template that checks renders with every layout. -/
theorem exists_renderParts {parts : List Part} {shape : Shape}
    (checked : Part.allCheck (pageContext shape) parts = true) (layout : Layout) {page : Json}
    (fits : shape.Fits (some page)) : ∃ html, renderParts parts layout page = .ok html :=
  Part.exists_renderAll
    (.cons _ (Shape.fits_layout layout) (.cons _ fits .nil)) parts checked

/-- Parts are rendered one after the other. -/
theorem Part.exists_of_renderAll {scope : Scope} {part : Part} {parts : List Part} {html : Text}
    (h : Part.renderAll scope (part :: parts) = .ok html) :
    ∃ first rest, part.render scope = .ok first ∧ Part.renderAll scope parts = .ok rest ∧
      html = first ++ rest := by
  rw [Part.renderAll] at h
  cases here : part.render scope with
  | error failure =>
    rw [here] at h
    cases h
  | ok first =>
    cases behind : Part.renderAll scope parts with
    | error failure =>
      rw [here, behind] at h
      cases h
    | ok rest =>
      rw [here, behind] at h
      cases h
      exact ⟨first, rest, rfl, rfl, rfl⟩

namespace Renderer

/-- **A docs page always renders.** -/
theorem exists_document (renderer : Renderer) (slug : Text) (document : Content.Document) :
    ∃ html, renderer.document slug document = .ok html := by
  have checked : Part.allCheck (pageContext .docPage) docPage = true := by decide +kernel
  refine exists_renderParts checked renderer.layout ⟨⟨_, rfl, ?_⟩, ⟨rfl, rfl, rfl⟩, rfl⟩
  intro part hpart
  obtain ⟨group, -, rfl⟩ := List.mem_map.mp hpart
  exact ⟨⟨_, rfl, fun _ _ => rfl⟩, rfl⟩

/-- The page for addresses at which there is nothing always renders. -/
theorem exists_notFound (renderer : Renderer) : ∃ html, renderer.notFound = .ok html := by
  have checked : Part.allCheck (pageContext .present) missingPage = true := by decide +kernel
  exact exists_renderParts checked renderer.layout rfl

end Renderer

end DocSite.View
