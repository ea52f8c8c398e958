import DocSite.Proofs.Html.Reference
import DocSite.Proofs.View.Pages
import DocSite.Site.Index

/-!
# Pages of the blog

The pages of the blog always render: no post fails, and neither does the list of all posts. In that list every
post has a link, and a reader who takes the address from the link gets the address of the post
(`Renderer.exists_link_of_blogIndex`).
-/

namespace DocSite.View

/-! ## §1 Parts of what was rendered -/

namespace Part

variable {scope : Scope}

theorem render_value {path : Path} {value : Value} (asked : scope.get path = .ok value) :
    (Part.value path).render scope = .ok (escaped value) := by
  rw [Part.render, asked]
  rfl

/-- What a part is rendered as stands in the whole. -/
theorem exists_infix_of_renderAll {parts : List Part} {part : Part} {html : Text}
    (h : Part.renderAll scope parts = .ok html) (mem : part ∈ parts) :
    ∃ text, part.render scope = .ok text ∧ text <:+: html := by
  induction parts generalizing html with
  | nil => cases mem
  | cons other parts ih =>
    obtain ⟨first, rest, rendered, behind, rfl⟩ := exists_of_renderAll h
    rcases List.mem_cons.mp mem with rfl | mem
    · exact ⟨first, rendered, [], rest, rfl⟩
    · obtain ⟨text, rendered, inside⟩ := ih behind mem
      exact ⟨text, rendered, inside.trans (List.suffix_append first rest).isInfix⟩

/-- Work on items of which one was worked on. -/
private theorem exists_mem_of_mapM {α β ε : Type} {work : α → Except ε β} {entries : List α}
    {results : List β} (h : entries.mapM work = .ok results) {entry : α} (mem : entry ∈ entries) :
    ∃ result ∈ results, work entry = .ok result := by
  induction entries generalizing results with
  | nil => cases mem
  | cons other entries ih =>
    rw [List.mapM_cons] at h
    cases here : work other with
    | error failure =>
      rw [here] at h
      cases h
    | ok first =>
      cases behind : entries.mapM work with
      | error failure =>
        rw [here, behind] at h
        cases h
      | ok rest =>
        rw [here, behind] at h
        cases h
        rcases List.mem_cons.mp mem with rfl | mem
        · exact ⟨first, List.mem_cons_self .., here⟩
        · obtain ⟨result, found, worked⟩ := ih behind mem
          exact ⟨result, List.mem_cons_of_mem _ found, worked⟩

/-- What a loop makes of an item stands in what it makes of all items. -/
theorem exists_infix_of_each {name : Text} {path : Path} {body otherwise : List Part} {html : Text}
    {entries : List Json} {value : Value}
    (h : (Part.each name path body otherwise).render scope = .ok html)
    (asked : scope.get path = .ok value) (found : items value = .ok entries) {entry : Json}
    (mem : entry ∈ entries) :
    ∃ text, Part.renderAll ((name, entry) :: scope) body = .ok text ∧ text <:+: html := by
  rw [Part.render, asked] at h
  simp only [bind, Except.bind, found] at h
  cases entries with
  | nil => cases mem
  | cons first others =>
    dsimp only at h
    split at h
    case h_1 => cases h
    case h_2 texts worked =>
      cases h
      obtain ⟨text, inside, rendered⟩ := exists_mem_of_mapM worked mem
      exact ⟨text, rendered, List.infix_of_mem_flatten inside⟩

end Part

/-! ## §2 Posts -/

/-- The shape of what belongs to a page of a post. -/
def Shape.postPage : Shape :=
  record [("post", .present), ("blocks", .list (record [("items", .list .any)]))]

/-- The shape of what belongs to the list of posts. -/
def Shape.blogPage : Shape := record [("posts", .list .present)]

namespace Renderer

/-- Every block has a list of items, which is empty unless the block is a list. -/
theorem exists_items_blockValue (block : Blog.Block) :
    ∃ entries, items ((blockValue block).get? "items".toList) = .ok entries := by
  cases block <;> exact ⟨_, rfl⟩

/-- **A post always renders.** -/
theorem exists_post (renderer : Renderer) (post : Blog.Post) :
    ∃ html, renderer.post post = .ok html := by
  have checked : Part.allCheck (pageContext .postPage) postPage = true := by decide +kernel
  refine exists_renderParts checked renderer.layout ⟨rfl, ⟨_, rfl, ?_⟩, rfl⟩
  intro value hvalue
  obtain ⟨block, -, rfl⟩ := List.mem_map.mp hvalue
  obtain ⟨entries, hentries⟩ := exists_items_blockValue block
  exact ⟨⟨entries, hentries, fun _ _ => trivial⟩, rfl⟩

/-- **The list of posts always renders.** -/
theorem exists_blogIndex (renderer : Renderer) (posts : List Blog.Post) :
    ∃ html, renderer.blogIndex posts = .ok html := by
  have checked : Part.allCheck (pageContext .blogPage) blogPage = true := by decide +kernel
  refine exists_renderParts checked renderer.layout ⟨⟨_, rfl, ?_⟩, rfl⟩
  intro value hvalue
  obtain ⟨post, -, rfl⟩ := List.mem_map.mp hvalue
  rfl

/-! ## §3 The link to a post -/

/-- The link to an address in the list of posts, as it opens. -/
def cardOpening (address : Text) : Text :=
  "<a class=\"post-card\" href=\"".toList ++ address ++ "\">".toList

/-- The list of posts has a loop over the posts, in which the link to a post comes first. -/
private theorem exists_loop_blogPage :
    ∃ posts slug : Path, ∃ opening closing : Text, ∃ body otherwise : List Part,
      .each "post".toList posts (.text opening :: .value slug :: .text closing :: body) otherwise ∈
        blogPage ∧
      posts = ⟨"page".toList, ["posts".toList]⟩ ∧ slug = ⟨"post".toList, ["slug".toList]⟩ ∧
      opening = "\n  ".toList ++ ("<a class=\"post-card\" href=\"".toList ++ "/blog/".toList) ∧
      closing = "\">".toList := by
  refine ⟨_, _, _, _, _, _, List.mem_of_getElem? (i := 10) rfl, ?_, ?_, ?_, ?_⟩ <;> decide +kernel

/-- The posts that the list of posts is made from. -/
private theorem get_posts (layout : Layout) (title : Json) (posts : List Json) :
    Scope.get
      [("site".toList, layout.toJson),
        ("page".toList, .object [("title".toList, title), ("posts".toList, .array posts)])]
      ⟨"page".toList, ["posts".toList]⟩ = .ok (some (.array posts)) := by
  simp [Scope.get, Json.field?, field, Json.get?, pure, Except.pure, bind, Except.bind]

/-- The slug of the post that the loop is at. -/
private theorem get_slug (scope : Scope) (post : Blog.Post) :
    Scope.get (("post".toList, postValue post) :: scope) ⟨"post".toList, ["slug".toList]⟩ =
      .ok (some (.string post.slug)) := by
  have here : Json.field? "post".toList (("post".toList, postValue post) :: scope) =
      some (postValue post) := by
    simp [Json.field?]
  have slug : (postValue post).get? "slug".toList = some (.string post.slug) := rfl
  rw [Scope.get, here, List.foldlM_cons, field, slug]
  rfl

/-- **Every post has a link in the list of posts.** The slug is escaped in it. -/
theorem cardOpening_infix_of_blogIndex {renderer : Renderer} {posts : List Blog.Post} {html : Text}
    (h : renderer.blogIndex posts = .ok html) {post : Blog.Post} (mem : post ∈ posts) :
    cardOpening ("/blog/".toList ++ Html.escapeSafe post.slug) <:+: html := by
  obtain ⟨_, _, _, _, body, otherwise, loop, rfl, rfl, hopening, hclosing⟩ := exists_loop_blogPage
  rw [blogIndex, renderParts] at h
  obtain ⟨cards, rendered, within⟩ := Part.exists_infix_of_renderAll h loop
  -- The loop runs over the values of the posts, and its body makes a card of each of them.
  have asked := get_posts renderer.layout (.string "Blog".toList) (posts.map postValue)
  obtain ⟨card, rendered, inside⟩ :=
    Part.exists_infix_of_each rendered asked rfl (List.mem_map_of_mem mem)
  -- A card begins with three parts that make the link.
  obtain ⟨_, _, opening, behindOpening, rfl⟩ := Part.exists_of_renderAll rendered
  obtain ⟨_, _, slug, behindSlug, rfl⟩ := Part.exists_of_renderAll behindOpening
  obtain ⟨_, others, closing, -, rfl⟩ := Part.exists_of_renderAll behindSlug
  cases opening
  cases (Part.render_value (get_slug _ post)).symm.trans slug
  cases closing
  have written (address : Text) : cardOpening address =
      "<a class=\"post-card\" href=\"".toList ++ address ++ "\">".toList := rfl
  refine List.IsInfix.trans ⟨"\n  ".toList, others, ?_⟩ (inside.trans within)
  simp only [written, hopening, hclosing, escaped, plain, List.append_assoc]

/-- **Every post is linked from the list of posts.** The address in the link ends where its value does, and who
reads it finds the address of the post. -/
theorem exists_link_of_blogIndex {renderer : Renderer} {posts : List Blog.Post} {html : Text}
    (h : renderer.blogIndex posts = .ok html) {post : Blog.Post} (mem : post ∈ posts) :
    ∃ address, cardOpening address <:+: html ∧ '"' ∉ address ∧
      Html.unescape address = Site.postHref post.slug := by
  refine ⟨_, cardOpening_infix_of_blogIndex h mem, ?_, ?_⟩
  · intro quote
    rcases List.mem_append.mp quote with quote | quote
    · exact absurd quote (by decide)
    · exact Html.notMem_escapeSafe (Or.inl rfl) _ quote
  · rw [Html.unescape_append (by decide), Html.unescape_escapeSafe]
    rfl

end Renderer

end DocSite.View
