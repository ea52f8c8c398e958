import DocSite.Proofs.Content.Candidate
import DocSite.Proofs.Server.Route
import DocSite.Proofs.View.Pages

/-!
# Files that a request for a docs page reads

A request for a docs page names the page by any text in percent code. Whatever that text is, only files below the
folder of the docs are read for the answer, and the answer depends on nothing else on the disk. A text that
would lead anywhere else is answered without reading any file (`Live.respond_doc`).
-/

namespace DocSite.Server

open Files

namespace Live

/-- The slug that the named part of a request for a docs page stands for. -/
def requestedSlug (named : Text) : Text := Text.dropEndWhile (· = '/') named

/-- The files that are read for the page with a slug. -/
def probes (disk : Disk) (root : Path) (slug : Text) : List Path :=
  Content.probed disk ((Content.candidatePaths (Content.slugSegments slug)).map root.join)

/-- A path that leads from a folder downwards, by names that are not dots and have no backslash, to a file in
Markdown. -/
def LeadsToDoc (root path : Path) : Prop :=
  ∃ relative, path = root.join relative ∧ Path.isAbsolute relative = false ∧
    (∀ part ∈ Text.splitOn ['/'] relative,
      part ≠ [] ∧ part ≠ ['.'] ∧ part ≠ ['.', '.'] ∧ '\\' ∉ part) ∧
    ∃ front name, Text.splitOn ['/'] relative = front ++ [name ++ ".md".toList]

/-- A part of a path that does not lead one level down everywhere. -/
def IsBadPart (part : Text) : Prop :=
  part = [] ∨ part = ['.'] ∨ part = ['.', '.'] ∨ '\\' ∈ part

theorem isPlainSegment_eq_false_iff {part : Text} :
    Content.isPlainSegment part = false ↔ IsBadPart part := by
  simp only [Content.isPlainSegment, IsBadPart, Bool.and_eq_false_iff, Bool.not_eq_false',
    List.isEmpty_iff, bne_eq_false_iff_eq, List.contains_eq_mem, decide_eq_true_eq, or_assoc]

theorem leadsToDoc_of_isDocPath (root : Path) {relative : Path} (h : Content.IsDocPath relative) :
    LeadsToDoc root (root.join relative) := by
  have good (part : Text) (mem : part ∈ Text.splitOn ['/'] relative) : ¬ IsBadPart part := by
    intro bad
    cases (h.plain part mem).symm.trans (isPlainSegment_eq_false_iff.mpr bad)
  have parts (part : Text) (mem : part ∈ Text.splitOn ['/'] relative) :
      part ≠ [] ∧ part ≠ ['.'] ∧ part ≠ ['.', '.'] ∧ '\\' ∉ part := by
    simpa [IsBadPart] using good part mem
  refine ⟨relative, rfl, ?_, parts, h.markdown⟩
  -- A path that begins with a slash has an empty part in front of it.
  cases relative with
  | nil => rfl
  | cons c relative =>
    by_contra absolute
    obtain rfl : c = '/' := by simpa [Path.isAbsolute] using absolute
    refine (parts [] ?_).1 rfl
    rw [Text.splitOn_singleton, List.splitOn_cons_eq_if_modifyHead, if_pos (by simp)]
    exact List.mem_cons_self ..

/-- **Every file that is read lies below the folder of the docs.** -/
theorem leadsToDoc_of_mem_probes {disk : Disk} {root path : Path} {slug : Text}
    (h : path ∈ probes disk root slug) : LeadsToDoc root path := by
  obtain ⟨relative, mem, rfl⟩ := List.mem_map.mp (Content.probed_subset _ _ h)
  exact leadsToDoc_of_isDocPath root (Content.isDocPath_of_mem_candidatePaths mem)

variable (live : Live) {root : Path} {disk other : Disk} {slug : Text}

/-- The page depends on the files that are read for it alone. -/
theorem doc_congr (docs : live.docs = .folder root)
    (same : ∀ path ∈ probes disk root slug, other.readText path = disk.readText path) :
    live.doc other slug = live.doc disk slug := by
  have found : Content.findDoc other root (Content.slugSegments slug) =
      Content.findDoc disk root (Content.slugSegments slug) :=
    Content.findReadable_congr same
  simp only [doc, docs, Content.Source.load?, found]

/-- A slug with a part that leads anywhere else is answered without reading a file. -/
theorem doc_of_isBadPart (docs : live.docs = .folder root) (filled : slug ≠ []) {part : Text}
    (mem : part ∈ Text.splitOn ['/'] slug) (bad : IsBadPart part) :
    probes disk root slug = [] ∧
      ∃ html, live.renderer.notFound = .ok html ∧ live.doc disk slug = .html 404 html := by
  have segments : Content.slugSegments slug = Text.splitOn ['/'] slug := by
    rw [Content.slugSegments, if_neg (by simpa using filled)]
  have none : Content.candidatePaths (Content.slugSegments slug) = [] := by
    rw [segments]
    exact Content.candidatePaths_eq_nil mem (isPlainSegment_eq_false_iff.mpr bad)
  obtain ⟨html, rendered⟩ := live.renderer.exists_notFound
  refine ⟨by rw [probes, none]; rfl, html, rendered, ?_⟩
  rw [doc, docs, Content.Source.load?, Content.findDoc, none]
  show live.notFound = _
  rw [notFound, rendered]
  rfl

/-- **No request for a docs page leaves the folder of the docs.** Let the path of a request name a docs page by
some text in percent code. Then every file that is read for the answer lies below the folder of the docs, the
answer depends on no other file, and a text with a part that leads anywhere else is answered by the page for
addresses at which there is nothing, without reading a file. Slashes at the end of the text do not count, and
nothing but slashes asks for the index page. -/
theorem respond_doc (docs : live.docs = .folder root) (disk : Disk) (assets : Option Path)
    {request : Request} {rest named : Text} (reads : request.isRead = true)
    (route : Route.ofPath? request.path = some (.doc rest))
    (decoded : decodePath? rest = some named) :
    (∀ path ∈ probes disk root (requestedSlug named), LeadsToDoc root path) ∧
    (∀ other : Disk,
      (∀ path ∈ probes disk root (requestedSlug named), other.readText path = disk.readText path) →
      live.respond other assets request = live.respond disk assets request) ∧
    (requestedSlug named ≠ [] →
      (∃ part ∈ Text.splitOn ['/'] (requestedSlug named), IsBadPart part) →
      probes disk root (requestedSlug named) = [] ∧ ∃ html, live.renderer.notFound = .ok html ∧
        live.respond disk assets request = (Response.html 404 html).fitTo request) ∧
    (requestedSlug named = [] →
      live.respond disk assets request = (live.answer disk request .docsIndex).fitTo request) := by
  have answered (disk : Disk) :
      live.respond disk assets request = (live.doc disk (requestedSlug named)).fitTo request := by
    simp only [respond, route, reads, if_true, answer, decoded, requestedSlug]
  refine ⟨fun path => leadsToDoc_of_mem_probes, fun other same => ?_, fun filled bad => ?_,
    fun empty => ?_⟩
  · rw [answered, answered, live.doc_congr docs same]
  · obtain ⟨part, mem, bad⟩ := bad
    obtain ⟨none, html, rendered, answer⟩ := live.doc_of_isBadPart docs filled mem bad
    exact ⟨none, html, rendered, by rw [answered, answer]⟩
  · rw [answered, empty]
    rfl

/-- A site whose docs lie in a folder, without any pages. -/
def emptySite : Live where
  renderer := ⟨default, { title := "Docs".toList }⟩
  docs := .folder "docs".toList
  store := Blog.Store.empty
  reloadAddress := []

/-- A request that would lead out of the docs is answered without reading a file. -/
theorem respond_doc_escape :
    decodePath? "..%2Fsecret/".toList = some "../secret/".toList ∧
    probes .empty "docs".toList "../secret".toList = [] ∧
    ∃ html, emptySite.renderer.notFound = .ok html ∧
      emptySite.respond .empty none { target := "/docs/..%2Fsecret/".toList } = .html 404 html := by
  have decoded : decodePath? "..%2Fsecret/".toList = some "../secret/".toList := by rfl
  have route : Route.ofPath? (Request.path { target := "/docs/..%2Fsecret/".toList }) =
      some (.doc "..%2Fsecret/".toList) := by
    rfl
  obtain ⟨-, -, refused, -⟩ :=
    emptySite.respond_doc rfl .empty none (by decide) route decoded
  have slug : requestedSlug "../secret/".toList = "../secret".toList := by decide
  rw [slug] at refused
  have parts : Text.splitOn ['/'] "../secret".toList = ["..".toList, "secret".toList] := by cbv
  rw [parts] at refused
  exact ⟨decoded, refused (by decide) ⟨"..".toList, List.mem_cons_self .., Or.inr (Or.inr (Or.inl rfl))⟩⟩

end Live

end DocSite.Server
