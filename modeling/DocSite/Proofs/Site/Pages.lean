import DocSite.Proofs.Files.Write
import DocSite.Proofs.Server.Route
import DocSite.Proofs.Site.Work
import DocSite.Proofs.View.Pages
import DocSite.Site.Build

/-!
# Docs pages, built and served

A docs page can be written to a file or sent to a browser. Both ways look up the same source, once the slug
has come back from the address that it was put into, and render it in the same way, which never fails. So
a page that is built is served, with the bytes that are built, and a page that is skipped is not found
(`built_iff_served`).
-/

namespace DocSite.Site

open Files Server

/-! ## §1 Written files -/

/-- A file that was written holds its text. -/
theorem read_of_writeFile {path : Path} {content : Text} {world after : World}
    (h : Plan.writeFile path content world = (.ok (), after)) :
    after.disk.read path = .ok content.toBytes := by
  obtain ⟨_, above, -, h⟩ := Work.exists_of_run_bind h
  cases written : above.disk.write path content.toBytes with
  | error failure =>
    rw [Work.run_change_of_error written] at h
    cases h
  | ok changed =>
    rw [Work.run_change_of_ok written] at h
    cases h
    exact Disk.read_of_write written

/-! ## §2 Built pages -/

/-- Looking for a source changes nothing but the log. -/
theorem exists_run_loadDoc (plan : Plan) (segments : List Text) (world : World) :
    ∃ lines, plan.loadDoc segments world =
      (.ok (Content.findDoc world.disk plan.docs segments).source,
        { world with log := world.log ++ lines }) := by
  let found := Content.findDoc world.disk plan.docs segments
  let message (entry : Path × FileError) : Text :=
    "Failed to read ".toList ++ entry.1 ++ ": ".toList ++ entry.2.message
  refine ⟨found.unreadable.map fun entry => ⟨.warn, message entry⟩, ?_⟩
  have read : (Work.disk : Work BuildError Disk) world = (.ok world.disk, world) := rfl
  have logged := Work.run_forM_log (ε := BuildError) found.unreadable .warn message world
  exact (Work.run_bind_of_ok read).trans (Work.run_bind_of_ok logged)

section Page

variable (plan : Plan) (renderer : View.Renderer) {slug : Text} {world : World}

/-- A page without source is missing. -/
theorem exists_run_buildDoc_of_missing
    (h : (Content.findDoc world.disk plan.docs (Content.slugSegments slug)).source = none) :
    ∃ lines, plan.buildDoc renderer slug world =
      (.ok (.missing slug), { world with log := world.log ++ lines }) := by
  obtain ⟨lines, loaded⟩ := exists_run_loadDoc plan (Content.slugSegments slug) world
  rw [h] at loaded
  let message : Text := "No content for docs page '".toList ++ slug ++ "' in ".toList ++ plan.docs
  refine ⟨lines ++ [⟨.warn, message⟩], ?_⟩
  rw [← List.append_assoc]
  exact Work.run_bind_of_ok loaded

/-- The page of a source is handed to its file, and what comes of that decides. -/
theorem run_buildDoc_of_found {source html : Text}
    (h : (Content.findDoc world.disk plan.docs (Content.slugSegments slug)).source = some source)
    (rendered : renderer.doc slug source = .ok html) :
    ∃ lines, plan.buildDoc renderer slug world =
      (Plan.writeFile (plan.docFile (Content.slugSegments slug)) html >>= fun _ =>
        pure (.written (Plan.searchEntry renderer slug (.ofSource source))) :
        Work BuildError PageOutcome)
        { world with log := world.log ++ lines } := by
  obtain ⟨lines, loaded⟩ := exists_run_loadDoc plan (Content.slugSegments slug) world
  rw [h] at loaded
  let document := Content.Document.ofSource source
  let entry := Plan.searchEntry renderer slug document
  refine ⟨lines, (Work.run_bind_of_ok loaded).trans ?_⟩
  have same : renderer.document slug document = .ok html := rendered
  show (Plan.writePage _ _ (renderer.document slug document) >>= fun _ => pure (.written entry) :
    Work BuildError PageOutcome) _ = _
  rw [same]
  rfl

/-- A page with a source is not missing, whether or not its file can be written. -/
theorem buildDoc_ne_missing {source : Text}
    (h : (Content.findDoc world.disk plan.docs (Content.slugSegments slug)).source = some source)
    (missed : Text) : (plan.buildDoc renderer slug world).1 ≠ .ok (.missing missed) := by
  rcases renderer.exists_document slug (.ofSource source) with ⟨html, rendered⟩
  rcases run_buildDoc_of_found plan renderer h rendered with ⟨lines, built⟩
  rw [built]
  -- A file that cannot be written stops the build, and one that can makes the page a written one.
  rcases run : Plan.writeFile (plan.docFile (Content.slugSegments slug)) html
    { world with log := world.log ++ lines } with ⟨_ | _, after⟩
  case error failure =>
    rw [Work.run_bind_of_error run]
    intro h
    cases h
  case ok =>
    rw [Work.run_bind_of_ok run]
    intro h
    cases h

end Page

/-! ## §3 Agreement -/

/-- The slugs of the docs are the empty one and those of the pages: a slug that is taken apart and put
together again stays what it is. -/
theorem mem_docSlugs_iff {catalog : Nav.Catalog} {slug : Text} :
    slug ∈ Plan.docSlugs catalog ↔ slug = [] ∨ ∃ page ∈ catalog.pages, page.slug = slug := by
  simp only [Plan.docSlugs, catalog.map_join_slugSegments, List.mem_cons, List.mem_map,
    List.mem_filter]
  constructor
  · rintro (empty | ⟨page, ⟨hpage, -⟩, same⟩)
    · exact Or.inl empty
    · exact Or.inr ⟨page, hpage, same⟩
  · rintro (empty | ⟨page, hpage, rfl⟩)
    · exact Or.inl empty
    -- The index of the docs has the empty slug as well, and is left out of the list of the pages.
    · by_cases empty : page.slug = []
      · exact Or.inl empty
      · exact Or.inr ⟨page, ⟨hpage, by simpa [Nav.Page.isIndex] using empty⟩, rfl⟩

theorem isProperSlug_of_mem_docSlugs {catalog : Nav.Catalog} {slug : Text}
    (h : slug ∈ Plan.docSlugs catalog) : Nav.isProperSlug slug = true := by
  rcases mem_docSlugs_iff.mp h with rfl | ⟨page, hpage, rfl⟩
  · rfl
  · exact catalog.isProperSlug_of_mem_pages hpage

/-- What becomes of a page in a build agrees with an answer that a browser gets. -/
structure Agrees (plan : Plan) (renderer : View.Renderer) (slug : Text) (world : World)
    (response : Response) : Prop where
  /-- The page is found by the build exactly if the answer is a page. -/
  found_iff : (∀ missed, (plan.buildDoc renderer slug world).1 ≠ .ok (.missing missed)) ↔
    response.status = 200
  /-- What the build writes to the file of the page is what the answer holds, and if it can be written, the
  file has the bytes of the answer. -/
  same_page : response.status = 200 → ∃ html lines entry, response = .html 200 html ∧
    plan.buildDoc renderer slug world =
      (Plan.writeFile (plan.docFile (Content.slugSegments slug)) html >>= fun _ =>
        pure (.written entry) : Work BuildError PageOutcome)
        { world with log := world.log ++ lines } ∧
    ∀ written, (plan.buildDoc renderer slug world).1 = .ok (.written written) →
      (plan.buildDoc renderer slug world).2.disk.read
        (plan.docFile (Content.slugSegments slug)) = .ok response.body
  /-- A page that the build skips is answered by the page for addresses at which there is nothing. -/
  not_found : ∀ missed, (plan.buildDoc renderer slug world).1 = .ok (.missing missed) →
    missed = slug ∧ ∃ html, renderer.notFound = .ok html ∧ response = .html 404 html

variable {slug : Text} {world : World}

/-- What is written to a file of the site can be read there. -/
theorem read_of_written {path : Path} {html : Text} {entry written : SearchEntry}
    (h : ((Plan.writeFile path html >>= fun _ => pure (.written entry) :
      Work BuildError PageOutcome) world).1 = .ok (.written written)) :
    ((Plan.writeFile path html >>= fun _ => pure (.written entry) :
      Work BuildError PageOutcome) world).2.disk.read path = .ok html.toBytes := by
  rcases run : Plan.writeFile path html world with ⟨_ | _, after⟩
  case error failure =>
    rw [Work.run_bind_of_error run] at h
    cases h
  case ok =>
    rw [Work.run_bind_of_ok run]
    exact read_of_writeFile run

/-- The answer with the page of a source agrees with a build. -/
theorem agrees_of_found {plan : Plan} {live : Live} {source : Text}
    (found : (Content.findDoc world.disk plan.docs (Content.slugSegments slug)).source = some source)
    (sameDocs : live.docs = .folder plan.docs) :
    Agrees plan live.renderer slug world (live.doc world.disk slug) := by
  obtain ⟨html, rendered⟩ := live.renderer.exists_document slug (.ofSource source)
  obtain ⟨lines, built⟩ := run_buildDoc_of_found plan live.renderer found rendered
  have answer : live.doc world.disk slug = .html 200 html := by
    have loaded : live.docs.load? world.disk (Content.slugSegments slug) = some source := by
      rw [sameDocs]
      exact found
    have page : live.renderer.doc slug source = .ok html := rendered
    simp only [Live.doc, loaded, page, Live.page]
  have notMissing := buildDoc_ne_missing plan live.renderer found
  refine ⟨⟨fun _ => by rw [answer]; rfl, fun _ => notMissing⟩, ?_, ?_⟩
  · intro _
    refine ⟨html, lines, _, answer, built, ?_⟩
    intro written h
    rw [built] at h ⊢
    rw [answer]
    exact read_of_written h
  · intro missed h
    exact absurd h (notMissing missed)

/-- The answer that there is no page agrees with a build that finds no source. -/
theorem agrees_of_missing {plan : Plan} {live : Live}
    (missing : (Content.findDoc world.disk plan.docs (Content.slugSegments slug)).source = none)
    (sameDocs : live.docs = .folder plan.docs) :
    Agrees plan live.renderer slug world (live.doc world.disk slug) := by
  obtain ⟨html, rendered⟩ := live.renderer.exists_notFound
  obtain ⟨lines, built⟩ := exists_run_buildDoc_of_missing plan live.renderer missing
  have answer : live.doc world.disk slug = .html 404 html := by
    have loaded : live.docs.load? world.disk (Content.slugSegments slug) = none := by
      rw [sameDocs]
      exact missing
    simp only [Live.doc, loaded, Live.notFound, rendered, Live.page]
  have status : (live.doc world.disk slug).status ≠ 200 := by
    rw [answer]
    show (404 : Nat) ≠ 200
    decide
  refine ⟨⟨?_, fun h => absurd h status⟩, fun h => absurd h status, ?_⟩
  · intro h
    exact absurd (by rw [built]) (h slug)
  · intro missed h
    rw [built] at h
    cases h
    exact ⟨rfl, html, rendered, answer⟩

/-- **What is built is what is served.** A build and a server share the folder of the docs, the catalog and
the layout. Then the build has a page with the slug of any page of the catalog, or with the empty slug, on
its list, and what it makes of the page agrees with the answer to a request for its address. -/
theorem built_iff_served (plan : Plan) (live : Live) (world : World) {request : Request} {slug : Text}
    (sameDocs : live.docs = .folder plan.docs)
    (listed : slug = [] ∨ ∃ page ∈ live.renderer.catalog.pages, page.slug = slug)
    (get : request.method = "GET".toList) (target : request.target = docAddress slug) :
    slug ∈ Plan.docSlugs live.renderer.catalog ∧
    Agrees plan live.renderer slug world (live.respond world.disk none request) := by
  have mem := mem_docSlugs_iff.mpr listed
  refine ⟨mem, ?_⟩
  -- The slug comes back from its address; after that both look for the same source.
  rw [live.respond_docAddress world.disk none get target (isProperSlug_of_mem_docSlugs mem)]
  cases found : (Content.findDoc world.disk plan.docs (Content.slugSegments slug)).source with
  | none => exact agrees_of_missing found sameDocs
  | some source => exact agrees_of_found found sameDocs

/-- A site with one page, whose slug is nested and not all in ASCII. -/
def guideSite : Live where
  renderer :=
    ⟨⟨[⟨"Guides".toList, [⟨"guide/schön".toList, "Schön".toList⟩]⟩], by decide +kernel⟩,
      { title := "Guides".toList }⟩
  docs := .folder "docs".toList
  store := Blog.Store.empty
  reloadAddress := []

/-- The files of the guide. -/
def guideWorld : World where
  disk :=
    { entries :=
        [(["docs".toList], .folder), (["docs".toList, "guide".toList], .folder),
          (["docs".toList, "guide".toList, "schön.md".toList], .file (Text.toBytes "Hello".toList))]
      grounded := by decide +kernel }

/-- The page of the guide is served as it is built. -/
theorem built_iff_served_guide :
    docAddress "guide/schön".toList = "/docs/guide/sch%C3%B6n".toList ∧
    Agrees { docs := "docs".toList } guideSite.renderer "guide/schön".toList guideWorld
      (guideSite.respond guideWorld.disk none { target := "/docs/guide/sch%C3%B6n".toList }) ∧
    (guideSite.respond guideWorld.disk none
      { target := "/docs/guide/sch%C3%B6n".toList }).status = 200 := by
  have address : docAddress "guide/schön".toList = "/docs/guide/sch%C3%B6n".toList := by
    decide +kernel
  have agrees : _ ∧ Agrees { docs := "docs".toList } guideSite.renderer "guide/schön".toList guideWorld
      (guideSite.respond guideWorld.disk none { target := "/docs/guide/sch%C3%B6n".toList }) :=
    built_iff_served _ guideSite guideWorld rfl (Or.inr ⟨_, List.mem_singleton_self _, rfl⟩) rfl
      address.symm
  have found : (Content.findDoc guideWorld.disk "docs".toList
      (Content.slugSegments "guide/schön".toList)).source = some "Hello".toList := by
    decide +kernel
  exact ⟨address, agrees.2, agrees.2.found_iff.mp (buildDoc_ne_missing _ _ found)⟩

end DocSite.Site
