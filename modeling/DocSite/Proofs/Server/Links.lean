import DocSite.Proofs.Content.Candidate
import DocSite.Proofs.Content.Mount
import DocSite.Proofs.Server.Probe

/-!
# Links between docs pages

Docs pages link to each other by paths from the root of the docs, and `mountLinks` moves such a link under the
mount. Whatever the source of the docs is and wherever in a text the link stands, the moved link leads to the
page that it names. The index page is the exception: a link to it is moved to the mount and a slash, and no
route leads there (`Live.answers_mountLinks`).
-/

namespace DocSite.Server

open Files

/-! ## §1 Targets of links -/

/-- The characters of links to docs pages: those that stand for themselves in every path, and all that are not
in ASCII. -/
def isLinkChar (c : Char) : Bool := isPathChar c || 127 < c.toNat

/-- The target of a link to a docs page once it has been moved. -/
def linkTarget (slug : Text) : Text := Nav.docsRoot ++ '/' :: slug

/-- A page that is found has a proper slug. -/
theorem isProperSlug_of_load? {docs : Content.Source} {disk : Disk} {slug source : Text}
    (found : docs.load? disk (Content.slugSegments slug) = some source) :
    Nav.isProperSlug slug = true := by
  rw [Nav.isProperSlug, Bool.or_eq_true, List.all_eq_true]
  by_cases empty : slug.isEmpty = true
  · exact Or.inl empty
  · rw [Content.slugSegments, if_neg empty] at found
    refine Or.inr fun segment mem => ?_
    have plain := Content.isPlainSegment_of_load? found mem
    simp only [Content.isPlainSegment, Bool.and_eq_true] at plain
    exact plain.1.1.1

namespace Live

variable (live : Live) (disk : Disk)

/-- **A moved link leads to the page that it names.** Let there be a page under a slug whose characters need no
escape in a link, and let the slug not begin with the mount. A link to it from the root of the docs, the first in
a text, is moved to the slug under the mount. A request for that target is answered with the page, whatever else
stands in the text and wherever the source of the docs is. A target in ASCII is asked for as it is. The link to the
index page is moved to the mount and a slash. That page is answered at the root of the docs, but no route leads to
the target of the link, so that without assets the answer is the page for addresses at which there is nothing. -/
theorem answers_mountLinks (assets : Option Path) {slug source : Text}
    (found : live.docs.load? disk (Content.slugSegments slug) = some source)
    (plain : ∀ c ∈ slug, isLinkChar c = true)
    (unmounted : Text.startsWith slug Content.docsMount = false) :
    (∀ before rest : Text, Text.cut? Content.linkOpening before = none →
      Content.mountLinks (before ++ ("](/".toList ++ (slug ++ ')' :: rest))) =
        before ++ ("](".toList ++ (linkTarget slug ++ ')' :: Content.mountLinks rest))) ∧
    ∃ html, live.renderer.doc slug source = .ok html ∧
      ∀ keep, IsPathCode keep →
        ((∀ c ∈ slug, isPathChar c = true) → encodePath keep (linkTarget slug) = linkTarget slug) ∧
        ∀ request : Request, request.method = "GET".toList →
          request.target = encodePath keep (linkTarget slug) →
          (slug ≠ [] → live.respond disk assets request = .html 200 html) ∧
          (slug = [] →
            (∃ missing, live.renderer.notFound = .ok missing ∧
              live.respond disk none request = .html 404 missing) ∧
            live.respond disk assets { target := Nav.docsRoot } = .html 200 html) := by
  obtain ⟨html, rendered⟩ := live.renderer.exists_document slug (Content.Document.ofSource source)
  have page : live.doc disk slug = .html 200 html := by
    simp only [doc, found, View.Renderer.doc, rendered, Live.page]
  have closed : ')' ∉ slug := fun mem => absurd (plain _ mem) (by decide)
  refine ⟨fun before rest first => ?_, html, rendered,
    fun keep code => ⟨fun ascii => ?_, fun request get target => ⟨fun filled => ?_, fun index => ?_⟩⟩⟩
  · exact Content.mountLinks_link first closed unmounted rest
  · have ascii : slug.all isPathChar = true := List.all_eq_true.mpr ascii
    rw [linkTarget, code.encodePath_under (by decide), encodePath_of_kept (code.all_of_plain ascii)]
  · have proper := isProperSlug_of_load? found
    rw [live.respond_docsPath disk assets code get target filled proper, page]
  · subst index
    refine ⟨live.respond_of_no_route disk get ?_, ?_⟩
    · -- Behind the mount and its slash there is nothing left for the route of pages to take.
      rw [code.path_under target rfl (by decide)]
      rfl
    · rw [live.respond_docsRoot disk assets rfl rfl, page]

/-- A site with one docs page in memory. -/
def shelfSite (path source : String) : Live :=
  { emptySite with docs := .shelf ⟨[(path.toList, source.toList)]⟩ }

/-- A link to a nested page leads there. -/
theorem answers_mountLinks_nested :
    Content.mountLinks "[on](/features/channels) or [home](/)".toList =
      "[on](/docs/features/channels) or [home](/docs/)".toList ∧
    ∃ html,
      (shelfSite "features/channels.md" "# Channels").renderer.doc "features/channels".toList
        "# Channels".toList = .ok html ∧
      (shelfSite "features/channels.md" "# Channels").respond .empty none
        { target := "/docs/features/channels".toList } = .html 200 html := by
  have found : (shelfSite "features/channels.md" "# Channels").docs.load? .empty
      (Content.slugSegments "features/channels".toList) = some "# Channels".toList := by
    decide +kernel
  obtain ⟨moved, html, rendered, answered⟩ :=
    (shelfSite "features/channels.md" "# Channels").answers_mountLinks .empty none found
      (List.all_eq_true.mp (by decide)) (by decide)
  have moved := moved "[on".toList " or [home](/)".toList (by decide)
  have behind : Content.mountLinks " or [home](/)".toList = " or [home](/docs/)".toList := by
    decide +kernel
  rw [behind] at moved
  obtain ⟨kept, answered⟩ := answered _ .isPathChar
  exact ⟨moved, html, rendered,
    (answered { target := _ } rfl (kept (List.all_eq_true.mp (by decide))).symm).1 (by decide)⟩

/-- A link to the index page is moved to where there is nothing, and yet the page is there. -/
theorem mountLinks_index_unanswered :
    Content.mountLinks "[home](/)".toList = "[home](/docs/)".toList ∧
    ∃ html missing,
      (shelfSite "index.md" "# Hi").docs.load? .empty (Content.slugSegments []) =
        some "# Hi".toList ∧
      (shelfSite "index.md" "# Hi").renderer.doc [] "# Hi".toList = .ok html ∧
      (shelfSite "index.md" "# Hi").renderer.notFound = .ok missing ∧
      (shelfSite "index.md" "# Hi").respond .empty none { target := "/docs/".toList } =
        .html 404 missing ∧
      (shelfSite "index.md" "# Hi").respond .empty none { target := "/docs/".toList } ≠
        .html 200 html := by
  obtain ⟨html, rendered⟩ := (shelfSite "index.md" "# Hi").renderer.exists_document []
    (Content.Document.ofSource "# Hi".toList)
  have route : Route.ofPath? (Request.path { target := "/docs/".toList }) = none := by
    rfl
  obtain ⟨missing, absent, answer⟩ :=
    (shelfSite "index.md" "# Hi").respond_of_no_route .empty rfl route
  refine ⟨by decide +kernel, html, missing, by rfl, rendered, absent, answer, ?_⟩
  rw [answer]
  exact fun same => absurd (congrArg Response.status same) (show 404 ≠ 200 by decide)

end Live

end DocSite.Server
