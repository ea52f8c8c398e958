import DocSite.Proofs.View.Alike
import DocSite.Proofs.View.Contents

/-!
# Pages of the same form

The tags of a page tell something of its subject: how many links there are and which of them is active, of what kinds
the blocks of a post are, whether there is a title. That is the form of the subject (`Renderer.form`), and a page tells
no more: the pages about two subjects of the same form differ in nothing but values that are escaped, and have the same
tags. Together with what is known of one page, this is the main result (`Renderer.pages_read`).

Subjects of the same form have in common all that the templates ask of their values (`SameForm.relates`), and the
templates are checked to ask for nothing else (`allAgree_template`).
-/

namespace DocSite.View

open Html (Tag tags)
open Piece (writtenAll)

/-! ## §1 Forms -/

/-- What is told of a block by the tags of a page: its kind, whether it is a numbered list, and how many items it
has. -/
structure BlockForm where
  kind : String
  ordered : Option Bool
  items : Nat
  deriving DecidableEq, Repr

/-- Whether a block is a numbered list, if it is a list. -/
def orderedOf : Blog.Block → Option Bool
  | .list ordered _ => some ordered
  | _ => none

/-- The items of a block. -/
def itemsOf : Blog.Block → List Text
  | .list _ items => items
  | _ => []

/-- The form of a block. -/
def blockForm (block : Blog.Block) : BlockForm := ⟨kindOf block, orderedOf block, (itemsOf block).length⟩

/-- What is told of a subject by the tags of its page. -/
inductive Form where
  /-- Whether there is a title and a description, which links are active in the sections of the sidebar, which ends
  the pager has, and the content. -/
  | document (title description : Bool) (active : List (List Bool)) (previous next : Bool) (html : Text)
  /-- Whether there is a title and a description, and the forms of the blocks. -/
  | post (title description : Bool) (blocks : List BlockForm)
  /-- How many posts there are. -/
  | blogIndex (posts : Nat)
  | missing
  deriving DecidableEq, Repr

/-- The form of a subject. -/
def Renderer.form (renderer : Renderer) : Subject → Form
  | .document slug source =>
    .document (renderer.pageTitle slug source).isEmpty source.frontmatter.description.isEmpty
      ((renderer.catalog.sidebar (some slug)).map fun part => part.links.map (·.active))
      (renderer.catalog.pager slug).previous.isSome (renderer.catalog.pager slug).next.isSome
      (Markdown.render source.body)
  | .post post => .post post.title.isEmpty post.excerpt.isEmpty (post.blocks.map blockForm)
  | .blogIndex posts => .blogIndex posts.length
  | .missing => .missing

/-- Two subjects have the same form, and as many style sheets and scripts belong to their pages. -/
structure SameForm (one two : Renderer) (first second : Subject) : Prop where
  styles : one.layout.styles.length = two.layout.styles.length
  scripts : one.layout.scripts.length = two.layout.scripts.length
  form : one.form first = two.form second

/-! ## §2 What is in common -/

namespace Likeness

/-- Values with fields that have something in common. -/
def record (fields : List (String × Likeness)) : Likeness :=
  fields.foldr (fun (name, likeness) whole => .field name.toList likeness whole) .any

/-- What layouts have in common. -/
def layout : Likeness := record [("styles", .list .any), ("scripts", .list .any)]

/-- What belongs to pages of the docs of the same form. -/
def docPage : Likeness :=
  record
    [("title", .tested), ("description", .tested), ("content", .same),
      ("sidebar", .list (record [("links", .list (record [("active", .same)]))])),
      ("pager", record [("prev", .tested), ("next", .tested)])]

/-- What belongs to pages of posts of the same form. -/
def postPage : Likeness :=
  record
    [("title", .tested), ("description", .tested),
      ("blocks", .list (record [("kind", .same), ("ordered", .same), ("items", .list .any)]))]

/-- What belongs to lists of as many posts. -/
def blogPage : Likeness := record [("title", .tested), ("description", .tested), ("posts", .list .any)]

/-- What belongs to pages for addresses at which there is nothing. -/
def missingPage : Likeness := record [("title", .tested), ("description", .tested)]

/-- What the values of pages have in common whose subjects have the same form. -/
def ofSubject : Subject → Likeness
  | .document _ _ => docPage
  | .post _ => postPage
  | .blogIndex _ => blogPage
  | .missing => missingPage

end Likeness

/-- What the scopes of pages have in common. -/
def pageAccord (page : Likeness) : Accord := [("site".toList, .layout), ("page".toList, page)]

/-- The templates ask for nothing else. -/
theorem allAgree_template (subject : Subject) :
    Part.allAgree (pageAccord (.ofSubject subject)) subject.template = true := by
  have doc : Part.allAgree (pageAccord .docPage) docPage = true := by decide +kernel
  have post : Part.allAgree (pageAccord .postPage) postPage = true := by decide +kernel
  have index : Part.allAgree (pageAccord .blogPage) blogPage = true := by decide +kernel
  have missing : Part.allAgree (pageAccord .missingPage) missingPage = true := by decide +kernel
  cases subject with
  | document => exact doc
  | post => exact post
  | blogIndex => exact index
  | missing => exact missing

/-! ## §3 Values of the same form -/

section

variable {α β γ : Type}

/-- Lists that give the same list have the same in common one by one. -/
theorem forall₂_of_map_eq {one : α → γ} {two : β → γ} {entries : List α} {others : List β}
    (same : entries.map one = others.map two) :
    List.Forall₂ (fun entry other => one entry = two other) entries others := by
  rwa [← List.forall₂_eq_eq_eq, List.forall₂_map_left_iff, List.forall₂_map_right_iff] at same

/-- Loops over values of entries that have something in common one by one. -/
theorem relates_list {item : Likeness} (one : α → Json) (two : β → Json) {entries : List α} {others : List β}
    (each : List.Forall₂ (fun entry other => item.Relates (some (one entry)) (some (two other))) entries others) :
    (Likeness.list item).Relates (some (.array (entries.map one))) (some (.array (others.map two))) := by
  refine ⟨_, _, rfl, rfl, ?_⟩
  rwa [List.forall₂_map_left_iff, List.forall₂_map_right_iff]

/-- Loops over as many entries. -/
theorem relates_list_any (one : α → Json) (two : β → Json) {entries : List α} {others : List β}
    (same : entries.length = others.length) :
    (Likeness.list .any).Relates (some (.array (entries.map one))) (some (.array (others.map two))) :=
  relates_list one two (List.forall₂_iff_get.mpr ⟨same, fun _ _ _ => trivial⟩)

end

/-- Texts that are both empty, or both not, count as true together. -/
theorem relates_text {one two : Text} (same : one.isEmpty = two.isEmpty) :
    Likeness.tested.Relates (some (.string one)) (some (.string two)) := congrArg (! ·) same

theorem relates_layout {one two : Layout} (styles : one.styles.length = two.styles.length)
    (scripts : one.scripts.length = two.scripts.length) :
    Likeness.layout.Relates (some one.toJson) (some two.toJson) :=
  ⟨relates_list_any _ _ styles, relates_list_any _ _ scripts, trivial⟩

/-- Sections of sidebars with the same active links. -/
theorem relates_sections {sections others : List Nav.SidebarSection}
    (same : (sections.map fun part => part.links.map (·.active)) = others.map fun part => part.links.map (·.active)) :
    (Likeness.list (.record [("links", .list (.record [("active", .same)]))])).Relates
      (some (.array (sections.map sectionValue))) (some (.array (others.map sectionValue))) := by
  refine relates_list _ _ ((forall₂_of_map_eq same).imp fun part other equal => ⟨?_, trivial⟩)
  refine relates_list sidebarLinkValue sidebarLinkValue ((forall₂_of_map_eq equal).imp fun link other active => ?_)
  exact ⟨congrArg (fun active => some (Json.bool active)) active, trivial⟩

/-- Ends of pagers that are both there, or both not. -/
theorem relates_pagerEnd {one two : Option Nav.Link} (same : one.isSome = two.isSome) :
    Likeness.tested.Relates (some ((one.map linkValue).getD .null)) (some ((two.map linkValue).getD .null)) := by
  have counts (link : Option Nav.Link) : isTrue (some ((link.map linkValue).getD .null)) = link.isSome := by
    cases link <;> rfl
  exact (counts one).trans (same.trans (counts two).symm)

/-- Blocks of the same form. -/
theorem relates_block {block other : Blog.Block} (same : blockForm block = blockForm other) :
    (Likeness.record [("kind", .same), ("ordered", .same), ("items", .list .any)]).Relates
      (some (blockValue block)) (some (blockValue other)) := by
  have kind (block : Blog.Block) : (blockValue block).get? "kind".toList = some (.string (kindOf block).toList) := by
    cases block <;> rfl
  have ordered (block : Blog.Block) : (blockValue block).get? "ordered".toList = (orderedOf block).map .bool := by
    cases block <;> rfl
  have found (block : Blog.Block) : items ((blockValue block).get? "items".toList) =
      .ok ((itemsOf block).map .string) := by
    cases block <;> rfl
  obtain ⟨sameKind, sameOrdered, sameItems⟩ :
      kindOf block = kindOf other ∧ orderedOf block = orderedOf other ∧
        (itemsOf block).length = (itemsOf other).length := by
    simpa [blockForm] using same
  refine ⟨?_, ?_, ⟨_, _, found block, found other, ?_⟩, trivial⟩
  · exact (kind block).trans (sameKind ▸ (kind other).symm)
  · exact (ordered block).trans (sameOrdered ▸ (ordered other).symm)
  · rw [List.forall₂_map_left_iff, List.forall₂_map_right_iff]
    exact List.forall₂_iff_get.mpr ⟨sameItems, fun _ _ _ => trivial⟩

/-- **Subjects of the same form** have one template, and what belongs to their pages has in common what the template asks
for. -/
theorem SameForm.relates {one two : Renderer} {first second : Subject} (h : SameForm one two first second) :
    first.template = second.template ∧
      (pageAccord (.ofSubject first)).Relates (one.scopeOf first) (two.scopeOf second) := by
  obtain ⟨styles, scripts, form⟩ := h
  -- Subjects of different kinds have different forms, so both are of one kind.
  have site := relates_layout styles scripts
  suffices page : first.template = second.template ∧ (Likeness.ofSubject first).Relates
      (some (one.pageValue first)) (some (two.pageValue second)) from
    ⟨page.1, .cons _ site (.cons _ page.2 .nil)⟩
  cases first with
  | document slug source =>
    cases second with
    | post | blogIndex | missing => cases form
    | document other there =>
      simp only [Renderer.form, Form.document.injEq] at form
      obtain ⟨title, description, active, previous, next, html⟩ := form
      exact ⟨rfl, relates_text title, relates_text description, congrArg (fun html => some (Json.string html)) html,
        relates_sections active, ⟨relates_pagerEnd previous, relates_pagerEnd next, trivial⟩, trivial⟩
  | post post =>
    cases second with
    | document | blogIndex | missing => cases form
    | post other =>
      simp only [Renderer.form, Form.post.injEq] at form
      obtain ⟨title, excerpt, blocks⟩ := form
      exact ⟨rfl, relates_text title, relates_text excerpt,
        relates_list _ _ ((forall₂_of_map_eq blocks).imp fun _ _ same => relates_block same), trivial⟩
  | blogIndex posts =>
    cases second with
    | document | post | missing => cases form
    | blogIndex others => exact ⟨rfl, rfl, rfl, relates_list_any _ _ (Form.blogIndex.inj form), trivial⟩
  | missing =>
    cases second with
    | document | post | blogIndex => cases form
    | missing => exact ⟨rfl, rfl, rfl, trivial⟩

/-! ## §4 What pages say and what they do not -/

/-- **Pages never fail, and nothing that they are given becomes markup.**

Every page is rendered: it is made from pieces, in which the text of the template and the values of the subject
alternate. The values are those of the subject in their order. All of them are escaped but the content of a document,
and stand between tags or in a value between double quotes, where a reader finds them as they are.

The pages about two subjects of the same form differ in nothing but values that are escaped. So they have the same tags
in the same order, with the same attributes. -/
theorem Renderer.pages_read :
    (∀ (renderer : Renderer) (subject : Subject), ∃ pieces, renderer.Reads subject pieces) ∧
    ∀ (one two : Renderer) (first second : Subject), SameForm one two first second →
      ∃ pieces others, one.Reads first pieces ∧ two.Reads second others ∧
        List.Forall₂ Piece.Alike pieces others ∧
        (tags (writtenAll pieces)).map Tag.outline = (tags (writtenAll others)).map Tag.outline := by
  refine ⟨exists_reads, fun one two first second same => ?_⟩
  obtain ⟨template, related⟩ := same.relates
  obtain ⟨pieces, here⟩ := exists_reads one first
  obtain ⟨others, there⟩ := exists_reads two second
  have made := there.made
  rw [← template] at made
  have alike := here.made.alike made related (allAgree_template first)
  exact ⟨pieces, others, here, there, alike,
    outlines_of_alike alike (allFit here.made here.markup) (allFit there.made there.markup)⟩

/-- A site of two pages. -/
def plainSite : Renderer where
  catalog :=
    { groups := [⟨"Start".toList, [⟨[], "Home".toList⟩, ⟨"next".toList, "Next".toList⟩]⟩]
      faultless := by decide +kernel }
  layout := { title := "Tour".toList }

/-- A site of the same form, all of whose texts would be markup. -/
def markedSite : Renderer where
  catalog :=
    { groups := [⟨"<b>".toList, [⟨[], "</a>".toList⟩, ⟨"\"'".toList, "<i>".toList⟩]⟩]
      faultless := by decide +kernel }
  layout := { title := "</title>".toList, styles := ["\">".toList], scripts := ["a?b&c".toList] }

/-- The first pages of both sites, of which one has the title of the catalog, have the same tags. -/
theorem pages_read_marked :
    SameForm plainSite markedSite (.document [] ⟨{}, "*Hi*".toList⟩)
      (.document [] ⟨{ title := "<h1>".toList }, "_Hi_".toList⟩) ∧
    ∃ pieces others, plainSite.Reads (.document [] ⟨{}, "*Hi*".toList⟩) pieces ∧
      markedSite.Reads (.document [] ⟨{ title := "<h1>".toList }, "_Hi_".toList⟩) others ∧
      List.Forall₂ Piece.Alike pieces others ∧
      (tags (writtenAll pieces)).map Tag.outline = (tags (writtenAll others)).map Tag.outline := by
  have same : SameForm plainSite markedSite (.document [] ⟨{}, "*Hi*".toList⟩)
      (.document [] ⟨{ title := "<h1>".toList }, "_Hi_".toList⟩) :=
    ⟨rfl, rfl, by decide +kernel⟩
  exact ⟨same, Renderer.pages_read.2 _ _ _ _ same⟩

end DocSite.View
