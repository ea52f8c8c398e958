import DocSite.Proofs.Markdown.Nesting
import DocSite.Proofs.View.Places
import DocSite.Proofs.View.Values

/-!
# What pages say

A page is about a document, about a post, about all posts, or about nothing. Whatever its subject is, it is rendered, and
it shows the values of the subject in a fixed order (`Renderer.values`). The content of a document is the only one that
is markup already (`markups_values`), and it leads back between tags; so every other value stands where a reader finds it
as it is (`Renderer.exists_reads`).
-/

namespace DocSite.View

open Piece (AllFit Closed writtenAll)

/-! ## §1 Subjects of pages -/

/-- What a page is about. -/
inductive Subject where
  | document (slug : Text) (document : Content.Document)
  | post (post : Blog.Post)
  | blogIndex (posts : List Blog.Post)
  /-- An address at which there is nothing. -/
  | missing

/-- The template of the page. -/
def Subject.template : Subject → List Part
  | document _ _ => docPage
  | post _ => postPage
  | blogIndex _ => blogPage
  | missing => missingPage

namespace Renderer

variable (renderer : Renderer)

/-- The page about a subject. -/
def pageOf : Subject → Except TemplateError Text
  | .document slug document => renderer.document slug document
  | .post post => renderer.post post
  | .blogIndex posts => renderer.blogIndex posts
  | .missing => renderer.notFound

/-- What belongs to the page about a subject. -/
def pageValue : Subject → Json
  | .document slug document =>
    docValue (renderer.pageTitle slug document) document.frontmatter.description (Markdown.render document.body)
      (renderer.catalog.sidebar (some slug)) (renderer.catalog.pager slug)
  | .post post => postPageValue post
  | .blogIndex posts => blogValue "Blog".toList posts
  | .missing => missingValue "Page not found".toList

/-- The values that the page about a subject is made from. -/
def scopeOf (subject : Subject) : Scope := pageScope renderer.layout (renderer.pageValue subject)

theorem pageOf_eq (subject : Subject) :
    renderer.pageOf subject = Part.renderAll (renderer.scopeOf subject) subject.template := by
  cases subject <;> rfl

/-- The values that the page about a subject shows, in the order of the page. -/
def values : Subject → List Piece
  | .document slug document =>
    renderer.layout.values (renderer.pageTitle slug document) document.frontmatter.description
      ((renderer.catalog.sidebar (some slug)).flatMap sectionValues ++
        (given document.frontmatter.description ++
          .markup (Markdown.render document.body) :: pagerValues (renderer.catalog.pager slug)))
  | .post post =>
    renderer.layout.values post.title post.excerpt (postValues post ++ post.blocks.flatMap blockValues)
  | .blogIndex posts =>
    renderer.layout.values "Blog".toList [] (posts.flatMap fun post => .field post.slug :: postValues post)
  | .missing => renderer.layout.values "Page not found".toList [] []

theorem shows (subject : Subject) :
    Shows (renderer.scopeOf subject) subject.template (renderer.values subject) := by
  cases subject with
  | document => exact .docPage ..
  | post => exact .postPage ..
  | blogIndex => exact .blogPage ..
  | missing => exact .missingPage ..

end Renderer

/-! ## §2 Markup in pages -/

namespace Piece

/-- The markup among pieces. -/
def markups : List Piece → List Text
  | [] => []
  | .markup text :: pieces => text :: markups pieces
  | _ :: pieces => markups pieces

@[simp]
theorem markups_nil : markups [] = [] := rfl

@[simp]
theorem markups_field (text : Text) (pieces : List Piece) : markups (.field text :: pieces) = markups pieces := rfl

@[simp]
theorem markups_markup (text : Text) (pieces : List Piece) :
    markups (.markup text :: pieces) = text :: markups pieces := rfl

@[simp]
theorem markups_append (front back : List Piece) : markups (front ++ back) = markups front ++ markups back := by
  induction front with
  | nil => rfl
  | cons piece front ih => cases piece <;> simp [markups, ih]

/-- Markup is among the values. -/
theorem markups_filter (pieces : List Piece) : markups (pieces.filter isValue) = markups pieces := by
  induction pieces with
  | nil => rfl
  | cons piece pieces ih => cases piece <;> simp [List.filter_cons, isValue, markups, ih]

theorem mem_markups {pieces : List Piece} {text : Text} : text ∈ markups pieces ↔ .markup text ∈ pieces := by
  induction pieces with
  | nil => simp
  | cons piece pieces ih => cases piece <;> simp [markups, ih]

/-- Fields are no markup. -/
@[simp]
theorem markups_map_field (texts : List Text) : markups (texts.map field) = [] := by
  induction texts with
  | nil => rfl
  | cons text texts ih => exact ih

theorem markups_flatMap {α : Type} {shown : α → List Piece} (none : ∀ entry, markups (shown entry) = [])
    (entries : List α) : markups (entries.flatMap shown) = [] := by
  induction entries with
  | nil => rfl
  | cons entry entries ih => rw [List.flatMap_cons, markups_append, none, ih, List.append_nil]

end Piece

open Piece (markups)

@[simp]
theorem markups_given (text : Text) : markups (given text) = [] := by
  unfold given
  split <;> rfl

@[simp]
theorem markups_layout (layout : Layout) (title description : Text) (body : List Piece) :
    markups (layout.values title description body) = markups body := by
  simp [Layout.values]

/-- The markup that a page about the subject is given: only a document has any. -/
def Subject.markup : Subject → List Text
  | .document _ source => [Markdown.render source.body]
  | _ => []

theorem markups_sections (sections : List Nav.SidebarSection) : markups (sections.flatMap sectionValues) = [] :=
  Piece.markups_flatMap (fun part => by
    rw [sectionValues, Piece.markups_field]
    exact Piece.markups_flatMap (fun _ => rfl) part.links) sections

theorem markups_blocks (blocks : List Blog.Block) : markups (blocks.flatMap blockValues) = [] :=
  Piece.markups_flatMap (fun block => by
    cases block with
    | list ordered items => exact Piece.markups_map_field items
    | heading2 | heading3 | code | paragraph => rfl) blocks

theorem markups_pager (pager : Nav.Pager) : markups (pagerValues pager) = [] := by
  rw [pagerValues, Piece.markups_append, Piece.markups_flatMap fun _ => rfl, Piece.markups_flatMap fun _ => rfl]
  rfl

/-- **Only the content of a document is given as markup.** -/
theorem markups_values (renderer : Renderer) (subject : Subject) :
    markups (renderer.values subject) = subject.markup := by
  cases subject with
  | document slug source => simp [Renderer.values, markups_sections, markups_pager, Subject.markup]
  | post post => simp [Renderer.values, postValues, markups_blocks, Subject.markup]
  | blogIndex posts =>
    rw [Renderer.values, markups_layout]
    exact Piece.markups_flatMap (fun post => rfl) posts
  | missing => exact markups_layout ..

/-! ## §3 Pages and their readers -/

/-- The layout leads to its body between tags, and from behind it back between tags. -/
theorem leadAll_page {body : List Part} (inside : Part.leadAll {} body = some {}) :
    Part.leadAll {} (page body) = some {} := by
  obtain ⟨front, behind, whole, first, last⟩ : ∃ front behind : List Part, page body = front ++ body ++ behind ∧
      Part.leadAll {} front = some {} ∧ Part.leadAll {} behind = some {} :=
    ⟨_, _, rfl, by decide +kernel, by decide +kernel⟩
  rw [whole]
  exact Part.leadAll_append (Part.leadAll_append first inside) last

/-- Every template leads back between tags. -/
theorem Subject.leadAll_template (subject : Subject) : Part.leadAll {} subject.template = some {} := by
  have inside : ∃ body, subject.template = page body ∧ Part.leadAll {} body = some {} := by
    cases subject with
    | document => exact ⟨_, rfl, by decide +kernel⟩
    | post => exact ⟨_, rfl, by decide +kernel⟩
    | blogIndex => exact ⟨_, rfl, by decide +kernel⟩
    | missing => exact ⟨_, rfl, by decide +kernel⟩
  obtain ⟨body, whole, leads⟩ := inside
  rw [whole]
  exact leadAll_page leads

namespace Renderer

/-- The page about a subject is made from pieces. It is rendered, its values are those of the subject, its markup is
that of the subject, and every other value is read as it is. -/
structure Reads (renderer : Renderer) (subject : Subject) (pieces : List Piece) : Prop where
  made : Makes (renderer.scopeOf subject) subject.template pieces
  rendered : renderer.pageOf subject = .ok (writtenAll pieces)
  values : pieces.filter Piece.isValue = renderer.values subject
  markup : markups pieces = subject.markup
  isRead : ∀ before text after, pieces = before ++ .field text :: after →
    Html.IsRead (writtenAll before) text (writtenAll after)

variable {renderer : Renderer} {subject : Subject} {pieces : List Piece}

/-- All pieces may stand where they do. -/
theorem allFit (made : Makes (renderer.scopeOf subject) subject.template pieces)
    (markup : markups pieces = subject.markup) : AllFit {} pieces := by
  have closed : Closed pieces := by
    intro text mem
    rw [← Piece.mem_markups, markup] at mem
    cases subject with
    | document slug source =>
      obtain rfl := List.mem_singleton.mp mem
      exact Markdown.after_render source.body
    | post | blogIndex | missing => cases mem
  exact (made.lays subject.leadAll_template closed ⟨rfl, fun _ => .nil⟩).1

/-- **Every page is rendered, and its values are read.** -/
theorem exists_reads (renderer : Renderer) (subject : Subject) : ∃ pieces, renderer.Reads subject pieces := by
  obtain ⟨pieces, made, values⟩ := renderer.shows subject
  have markup : markups pieces = subject.markup := by
    rw [← Piece.markups_filter, values, markups_values]
  refine ⟨pieces, made, (renderer.pageOf_eq subject).trans made.renderAll, values, markup, ?_⟩
  rintro before text after rfl
  obtain ⟨-, ⟨safe, settled⟩, -⟩ := Piece.allFit_append.mp (allFit made markup)
  exact Html.isRead rfl safe settled text (writtenAll after)

end Renderer

end DocSite.View
