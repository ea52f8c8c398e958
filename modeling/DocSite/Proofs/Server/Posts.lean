import DocSite.Proofs.Blog.Store
import DocSite.Proofs.Server.Probe
import DocSite.Proofs.View.Blog

/-!
# Addresses of posts

The list of posts links to every post under its slug, and the dataset may hold any text as a slug. The route of
posts takes one part of a path that is not empty. So a post is answered where the list links to it if its slug
is such a part, however the address is encoded, and otherwise its link leads nowhere
(`Live.answers_links_of_blogIndex`).
-/

namespace DocSite.Server

open Files

/-! ## §1 The route of posts -/

/-- What stands behind the root of the blog names a post, unless it has a slash. -/
theorem Route.ofPath?_blog {rest : Text} (h : rest ≠ []) :
    Route.ofPath? (Site.blogRoot ++ '/' :: rest) =
      if rest.contains '/' then none else some (.post rest) := by
  obtain ⟨c, rest, rfl⟩ := List.exists_cons_of_ne_nil h
  rfl

section Addresses

variable {keep : Char → Bool} (code : IsPathCode keep) {request : Request} {slug : Text}
include code

/-- A request for the address of a post has that address as its path. -/
theorem path_of_postHref (target : request.target = encodePath keep (Site.postHref slug)) :
    request.path = Site.blogRoot ++ '/' :: encodePath keep slug :=
  code.path_under target rfl (by decide)

/-- The address of a post leads to its route if the slug is a part of a path. -/
theorem ofPath?_postHref (target : request.target = encodePath keep (Site.postHref slug))
    (filled : slug ≠ []) (part : '/' ∉ slug) :
    Route.ofPath? request.path = some (.post (encodePath keep slug)) := by
  have single : '/' ∉ encodePath keep slug := fun mem => part (code.slash_mem_iff.mp mem)
  rw [path_of_postHref code target, Route.ofPath?_blog (encodePath_ne_nil filled), if_neg]
  simpa using single

/-- Otherwise it leads to none. -/
theorem ofPath?_postHref_eq_none (target : request.target = encodePath keep (Site.postHref slug))
    (h : slug = [] ∨ '/' ∈ slug) : Route.ofPath? request.path = none := by
  rw [path_of_postHref code target]
  rcases h with rfl | nested
  · rfl
  · have nested : '/' ∈ encodePath keep slug := code.slash_mem_iff.mpr nested
    rw [Route.ofPath?_blog (List.ne_nil_of_mem nested), if_pos]
    simpa using nested

end Addresses

/-! ## §2 Links in the list of posts -/

namespace Live

variable (live : Live)

/-- A post whose slug is a part of a path is answered at its address. -/
theorem respond_postHref (disk : Disk) (assets : Option Path) {keep : Char → Bool}
    (code : IsPathCode keep) {request : Request} (get : request.method = "GET".toList)
    {post : Blog.Post} {html : Text} (found : live.store.get? post.slug = some post)
    (rendered : live.renderer.post post = .ok html)
    (target : request.target = encodePath keep (Site.postHref post.slug)) (filled : post.slug ≠ [])
    (part : '/' ∉ post.slug) : live.respond disk assets request = .html 200 html := by
  have decoded : decodePath? (encodePath keep post.slug) = some post.slug :=
    decodePath?_encodePath (code.eq_false (by decide)) post.slug
  rw [live.respond_of_route disk assets get (ofPath?_postHref code target filled part)]
  simp only [answer, decoded, Live.post, found, rendered, page]

/-- **Posts are answered where the list of posts links to them, as far as their slugs are parts of paths.** Let
the store be that of some dataset. The list of posts is answered at the root of the blog, and it links to every
post. Whoever reads the address in the link and asks for it in percent code gets that post, rendered, if the
slug is not empty and has no slash. If it is empty or has one, the address leads to no route, and without assets
the answer is the page for addresses at which there is nothing. -/
theorem answers_links_of_blogIndex {text : Text} (dataset : Blog.Store.ofJson? text = some live.store)
    (disk : Disk) (assets : Option Path) :
    ∃ index,
      (∀ request : Request, request.method = "GET".toList → request.target = Site.blogRoot →
        live.respond disk assets request = .html 200 index) ∧
      ∀ post ∈ live.store.posts, ∃ address html,
        View.Renderer.cardOpening address <:+: index ∧ '"' ∉ address ∧
        Html.unescape address = Site.postHref post.slug ∧
        live.renderer.post post = .ok html ∧
        ∀ keep, IsPathCode keep → ∀ request : Request, request.method = "GET".toList →
          request.target = encodePath keep (Html.unescape address) →
          (post.slug ≠ [] ∧ '/' ∉ post.slug →
            live.respond disk assets request = .html 200 html) ∧
          (post.slug = [] ∨ '/' ∈ post.slug →
            ∃ missing, live.renderer.notFound = .ok missing ∧
              live.respond disk none request = .html 404 missing) := by
  obtain ⟨index, listed⟩ := live.renderer.exists_blogIndex live.store.posts
  refine ⟨index, fun request get target => ?_, fun post mem => ?_⟩
  · have path : request.path = Site.blogRoot := Request.path_of_root target rfl (by decide)
    rw [live.respond_of_route disk assets get (by rw [path]; rfl)]
    simp only [answer, listed, page]
  · obtain ⟨address, linked, ends, reads⟩ := View.Renderer.exists_link_of_blogIndex listed mem
    obtain ⟨html, rendered⟩ := live.renderer.exists_post post
    -- No two posts of a dataset have the same slug, so it is this post that is found under its own.
    have found := (Blog.Store.agrees_of_ofDataset dataset).get?_eq_some_iff.mpr ⟨mem, rfl⟩
    refine ⟨address, html, linked, ends, reads, rendered, fun keep code request get target => ?_⟩
    rw [reads] at target
    exact ⟨fun h => live.respond_postHref disk assets code get found rendered target h.1 h.2,
      fun h => live.respond_of_no_route disk get (ofPath?_postHref_eq_none code target h)⟩

/-- A site with one post and no docs. -/
def siteOf (post : Blog.Post) : Live := { emptySite with store := ⟨[post], [(post.slug, 0)]⟩ }

/-- A dataset whose key has to be encoded in paths. -/
def offerDataset : Text := "\x7b\"50% off?\":\x7b\"title\":\"T\",\"content\":\"C\"\x7d\x7d".toList

/-- The post in that dataset. -/
def offer : Blog.Post := { slug := "50% off?".toList, title := "T".toList, content := "C".toList }

/-- The post is answered at its address in percent code. -/
theorem answers_links_of_blogIndex_offer :
    Blog.Store.ofJson? offerDataset = some (siteOf offer).store ∧
    ∃ html, (siteOf offer).renderer.post offer = .ok html ∧
      (siteOf offer).respond .empty none { target := "/blog/50%25%20off%3F".toList } =
        .html 200 html := by
  have dataset : Blog.Store.ofJson? offerDataset = some (siteOf offer).store := by rfl
  obtain ⟨index, -, links⟩ := (siteOf offer).answers_links_of_blogIndex dataset .empty none
  obtain ⟨address, html, -, -, reads, rendered, answered⟩ := links offer (List.mem_singleton_self _)
  have target : "/blog/50%25%20off%3F".toList = encodePath isPathChar (Html.unescape address) := by
    rw [reads]
    rfl
  exact ⟨dataset, html, rendered,
    (answered _ .isPathChar { target := _ } rfl target).1 ⟨by decide, by decide⟩⟩

/-- A dataset whose key is a path of two parts. -/
def nestedDataset : Text :=
  "\x7b\"2025/launch\":\x7b\"title\":\"T\",\"content\":\"C\"\x7d\x7d".toList

/-- The post in that dataset. -/
def nested : Blog.Post := { slug := "2025/launch".toList, title := "T".toList, content := "C".toList }

/-- The list of posts links to the post, and there is nothing where the link leads. -/
theorem nested_unanswered :
    Blog.Store.ofJson? nestedDataset = some (siteOf nested).store ∧
    ∃ index html missing,
      (siteOf nested).renderer.blogIndex (siteOf nested).store.posts = .ok index ∧
      View.Renderer.cardOpening "/blog/2025&#x2f;launch".toList <:+: index ∧
      Html.unescape "/blog/2025&#x2f;launch".toList = "/blog/2025/launch".toList ∧
      (siteOf nested).renderer.post nested = .ok html ∧
      (siteOf nested).renderer.notFound = .ok missing ∧
      (siteOf nested).respond .empty none { target := "/blog/2025/launch".toList } =
        .html 404 missing ∧
      (siteOf nested).respond .empty none { target := "/blog/2025/launch".toList } ≠
        .html 200 html := by
  obtain ⟨index, listed⟩ := (siteOf nested).renderer.exists_blogIndex (siteOf nested).store.posts
  obtain ⟨html, rendered⟩ := (siteOf nested).renderer.exists_post nested
  have linked := View.Renderer.cardOpening_infix_of_blogIndex listed (List.mem_singleton_self nested)
  have reads : Html.unescape "/blog/2025&#x2f;launch".toList = "/blog/2025/launch".toList := by
    have written : "/blog/2025&#x2f;launch".toList =
        "/blog/".toList ++ Html.escapeSafe "2025/launch".toList := by rfl
    rw [written, Html.unescape_append (by decide), Html.unescape_escapeSafe]
    decide
  have route : Route.ofPath? (Request.path { target := "/blog/2025/launch".toList }) = none := by
    rfl
  obtain ⟨missing, absent, answer⟩ := (siteOf nested).respond_of_no_route .empty rfl route
  refine ⟨by rfl, index, html, missing, listed, linked, reads, rendered, absent, answer, ?_⟩
  rw [answer]
  exact fun same => absurd (congrArg Response.status same) (show 404 ≠ 200 by decide)

end Live

end DocSite.Server
