import DocSite.Proofs.Nav.Slug
import DocSite.Proofs.Server.PathCode
import DocSite.Proofs.View.Pages
import DocSite.Server.Live

/-!
# Addresses of docs pages

A docs page is served at its address with the slug in percent code. The request leads to the route of docs
pages, which decodes the slug again, so that the answer is the page with that slug
(`Live.respond_docAddress`).
-/

namespace DocSite.Server

open Files

/-- The address of a docs page as it is asked for. -/
def docAddress (slug : Text) : Text := Nav.slugHref (encodePath isPathChar slug)

theorem docAddress_of_ne_nil {slug : Text} (h : slug ≠ []) :
    docAddress slug = Nav.docsRoot ++ '/' :: encodePath isPathChar slug := by
  have nonempty : (encodePath isPathChar slug).isEmpty = false := by
    simpa using encodePath_ne_nil h
  simp [docAddress, Nav.slugHref, nonempty]

/-- What stands behind the root of the docs names a docs page. -/
theorem Route.ofPath?_docs {rest : Text} (h : rest ≠ []) :
    Route.ofPath? (Nav.docsRoot ++ '/' :: rest) = some (.doc rest) := by
  obtain ⟨c, rest, rfl⟩ := List.exists_cons_of_ne_nil h
  rfl

/-- A request for a page wants more than its head. -/
theorem Request.wantsHead_eq_false {request : Request} (get : request.method = "GET".toList) :
    request.wantsHead = false := by
  rw [wantsHead, get]
  decide

/-- A root of pages that is asked for is the path of its request. -/
theorem Request.path_of_root {request : Request} {root : Text} (target : request.target = root)
    (slash : root.head? = some '/') (plain : root.all isPathChar = true) : request.path = root := by
  have kept := encodePath_of_kept plain
  rw [← kept] at target ⊢
  rw [Request.path, place, target, IsPathCode.isPathChar.path_ofText slash]

/-- What is asked for below a root of pages stands there in the path of its request. -/
theorem IsPathCode.path_under {keep : Char → Bool} (code : IsPathCode keep) {request : Request}
    {root rest : Text} (target : request.target = encodePath keep (root ++ '/' :: rest))
    (slash : root.head? = some '/') (plain : root.all Server.isPathChar = true) :
    request.path = root ++ '/' :: encodePath keep rest := by
  have starts : (root ++ '/' :: rest).head? = some '/' := by rw [List.head?_append, slash]; rfl
  rw [Request.path, Request.place, target, code.path_ofText starts, code.encodePath_under plain]

namespace Live

variable (live : Live) (disk : Disk)

/-- A page that is asked for is answered by its route, whatever the assets are. -/
theorem respond_of_route (assets : Option Path) {request : Request} {route : Route}
    (get : request.method = "GET".toList) (h : Route.ofPath? request.path = some route) :
    live.respond disk assets request = live.answer disk request route := by
  have reads : request.isRead = true := by simp [Request.isRead, get]
  simp only [respond, h, reads, if_true, Response.fitTo, Request.wantsHead_eq_false get,
    Bool.false_eq_true, if_false]

/-- Without assets, there is nothing where no route leads. -/
theorem respond_of_no_route {request : Request} (get : request.method = "GET".toList)
    (h : Route.ofPath? request.path = none) :
    ∃ html, live.renderer.notFound = .ok html ∧ live.respond disk none request = .html 404 html := by
  obtain ⟨html, rendered⟩ := live.renderer.exists_notFound
  refine ⟨html, rendered, ?_⟩
  simp only [respond, h, notFound, rendered, page, Response.fitTo, Request.wantsHead_eq_false get,
    Bool.false_eq_true, if_false]

/-- A docs page is answered below the root of the docs, however its slug is encoded. -/
theorem respond_docsPath (assets : Option Path) {keep : Char → Bool} (code : IsPathCode keep)
    {request : Request} {slug : Text} (get : request.method = "GET".toList)
    (target : request.target = encodePath keep (Nav.docsRoot ++ '/' :: slug)) (filled : slug ≠ [])
    (proper : Nav.isProperSlug slug = true) :
    live.respond disk assets request = live.doc disk slug := by
  have route : Route.ofPath? request.path = some (.doc (encodePath keep slug)) := by
    rw [code.path_under target rfl (by decide)]
    exact Route.ofPath?_docs (encodePath_ne_nil filled)
  have decoded : decodePath? (encodePath keep slug) = some slug :=
    decodePath?_encodePath (code.eq_false (by decide)) slug
  rw [live.respond_of_route disk assets get route]
  simp only [answer, decoded, Nav.dropEndWhile_slash_of_isProperSlug proper]

/-- The index page is answered at the root of the docs. -/
theorem respond_docsRoot (assets : Option Path) {request : Request}
    (get : request.method = "GET".toList) (target : request.target = Nav.docsRoot) :
    live.respond disk assets request = live.doc disk [] := by
  have path : request.path = Nav.docsRoot := Request.path_of_root target rfl (by decide)
  exact live.respond_of_route disk assets get (by rw [path]; rfl)

/-- **A docs page is answered at its address.** -/
theorem respond_docAddress (assets : Option Path) {request : Request} {slug : Text}
    (get : request.method = "GET".toList) (target : request.target = docAddress slug)
    (proper : Nav.isProperSlug slug = true) :
    live.respond disk assets request = live.doc disk slug := by
  by_cases empty : slug = []
  · subst empty
    exact live.respond_docsRoot disk assets get target
  · refine live.respond_docsPath disk assets .isPathChar get ?_ empty proper
    rw [target, docAddress_of_ne_nil empty, IsPathCode.isPathChar.encodePath_under (by decide)]

end Live

end DocSite.Server
