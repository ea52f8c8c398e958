import DocSite.Proofs.Markdown.Nesting
import DocSite.Proofs.Markdown.Tags

/-!
# Links under the rules of the site

Links that leave the site are written by hand and go through the writer as raw HTML, all other links are written
by the writer. Whichever way they go, a reader of the page finds one anchor for a link, with the attributes of
its kind and no others (`AnchorOf`), and finds anchors nowhere else (`exists_anchors`): not in what authors
write, and not in the description of an image, where the tag of a link that leaves the site is plain text.

A reader stands between tags or in the description of an image (`Follows`), and every event leads there again.
-/

namespace DocSite.Markdown

open Html (IsMarkup Leads Reading tagsFrom)

/-! ## §1 Anchors -/

/-- The tag opens a link. -/
def isAnchor (tag : Html.Tag) : Bool := tag.name = "a".toList

/-- The link of an event leaves the site. An address of mail does not count: it opens no page. -/
def Event.LeavesSite (event : Event) : Prop :=
  ∃ target, event = .start (.link .address target) ∧ isSiteLink target.dest = false

theorem Event.leavesSite_iff (kind : LinkKind) (target : Target) :
    (Event.start (.link kind target)).LeavesSite ↔ kind = .address ∧ isSiteLink target.dest = false := by
  constructor
  · rintro ⟨_, ⟨⟩, leaves⟩
    exact ⟨rfl, leaves⟩
  · rintro ⟨rfl, leaves⟩
    exact ⟨target, rfl, leaves⟩

instance (event : Event) : Decidable event.LeavesSite :=
  match event with
  | .start (.link kind target) => decidable_of_iff _ (Event.leavesSite_iff kind target).symm
  | .start .paragraph | .start (.heading _ _) | .start (.quote _) | .start (.code _) | .start .html
  | .start (.list _) | .start .item | .start .glossary | .start .term | .start .definition
  | .start (.footnote _) | .start (.table _) | .start .tableHead | .start .tableRow | .start .tableCell
  | .start .emphasis | .start .strong | .start .strikethrough | .start (.image _) | .start .metadata
  | .stop _ | .text _ | .code _ | .math _ _ | .html _ | .inlineHtml _ | .footnoteReference _ | .softBreak
  | .hardBreak | .rule | .task _ => isFalse fun ⟨_, same, _⟩ => by cases same

/-- What an anchor has to do with the event from which it comes. -/
structure AnchorOf (event : Event) (anchor : Html.Tag) : Prop where
  /-- It comes from a link or a reference to a footnote. -/
  isLink : (∃ kind target, event = .start (.link kind target)) ∨
    ∃ label, event = .footnoteReference label
  /-- It opens a new tab that knows nothing of this one if, and only if, the link leaves the site. -/
  newTab : (("target".toList, "_blank".toList) ∈ anchor.attributes ∧
    ("rel".toList, "noopener noreferrer".toList) ∈ anchor.attributes) ↔ event.LeavesSite
  /-- Otherwise it says nothing but where it leads and its title. -/
  otherwise : ¬ event.LeavesSite → ∀ entry ∈ anchor.attributes,
    entry.1 = "href".toList ∨ entry.1 = "title".toList
  /-- If the link leaves the site, its reader finds the address, the title if there is one, and the two marks of
  a new tab. -/
  leaving : ∀ target, event = .start (.link .address target) → isSiteLink target.dest = false →
    ∃ href title, anchor.attributes = ("href".toList, href) ::
        ((if target.title.isEmpty then [] else [("title".toList, title)]) ++
          [("target".toList, "_blank".toList), ("rel".toList, "noopener noreferrer".toList)]) ∧
      Html.unescape href = target.dest ∧ Html.unescape title = target.title

theorem key_of_mem_titleAttributes {title : Text} {entry : Text × Text}
    (h : entry ∈ Writer.titleAttributes title) : entry.1 = "title".toList := by
  unfold Writer.titleAttributes at h
  split at h
  · cases h
  · rw [List.mem_singleton.mp h]

namespace AnchorOf

/-- An anchor that says where it leads and its title comes from an event that does not leave the site. -/
theorem of_plain {event : Event} {anchor : Html.Tag}
    (isLink : (∃ kind target, event = .start (.link kind target)) ∨ ∃ label, event = .footnoteReference label)
    (stays : ¬ event.LeavesSite)
    (plain : ∀ entry ∈ anchor.attributes,
      entry.1 = "href".toList ∨ entry.1 = "title".toList) : AnchorOf event anchor where
  isLink := isLink
  newTab := by
    refine iff_of_false (fun marked => ?_) stays
    rcases plain _ marked.1 with same | same <;> exact absurd same (by decide)
  otherwise _ := plain
  leaving target same leaves := absurd ⟨target, same, leaves⟩ stays

theorem link {kind : LinkKind} {target : Target} (stays : ¬ (Event.start (.link kind target)).LeavesSite) :
    AnchorOf (.start (.link kind target)) (Writer.linkTag kind target) := by
  refine of_plain (Or.inl ⟨kind, target, rfl⟩) stays fun entry mem => ?_
  rcases List.mem_cons.mp mem with rfl | mem
  · exact Or.inl rfl
  · exact Or.inr (key_of_mem_titleAttributes mem)

theorem reference (label : Text) :
    AnchorOf (.footnoteReference label) (Writer.referenceTag label) := by
  refine of_plain (Or.inr ⟨label, rfl⟩) (fun ⟨_, same, _⟩ => by cases same) fun entry mem => ?_
  rw [List.mem_singleton.mp mem]
  exact Or.inl rfl

theorem leaves {target : Target} (leaves : isSiteLink target.dest = false) :
    AnchorOf (.start (.link .address target)) (Writer.leavingTag target) where
  isLink := Or.inl ⟨_, target, rfl⟩
  newTab := iff_of_true (by simp [Writer.leavingTag]) ⟨target, rfl, leaves⟩
  otherwise stays := absurd ⟨target, rfl, leaves⟩ stays
  leaving := by
    rintro _ ⟨⟩ -
    exact ⟨Html.escapeAttr target.dest, Html.escapeAttr target.title, rfl,
      Html.unescape_escapeAttr target.dest, Html.unescape_escapeAttr target.title⟩

end AnchorOf

/-! ## §2 One event -/

namespace Writer

variable {writer : Writer} {reading : Reading}

/-- A reader stands where the writer does. -/
def Follows (reading : Reading) (writer : Writer) : Prop :=
  match writer.image with
  | none => reading = .outside
  | some (target, _) => ∃ alt, reading = describing target alt

theorem follows_of_no_image (outside : writer.image = none) : Follows .outside writer := by
  rw [Follows, outside]

theorem follows_of_image {target : Target} {depth : Nat} (inside : writer.image = some (target, depth))
    (alt : Text) : Follows (describing target alt) writer := by
  rw [Follows, inside]
  exact ⟨alt, rfl⟩

/-- **In a description**, an event is written without quotes, unless it ends the image. -/
theorem describe_cases (writer : Writer) (target : Target) (depth : Nat) (event : Event)
    (inside : writer.image = some (target, depth)) :
    ((writer.describe target depth event).1.image = none ∧
      (writer.describe target depth event).2 = imageEnd target) ∨
    (∃ deeper, (writer.describe target depth event).1.image = some (target, deeper)) ∧
      '"' ∉ (writer.describe target depth event).2 := by
  have escaped (text : Text) : '"' ∉ Html.escapeAttr text := Html.notMem_escapeAttr (Or.inl rfl) text
  cases event with
  | stop element =>
    by_cases last : depth = 0
    · exact Or.inl (by simp [describe, last, put])
    · exact Or.inr (by simp [describe, last])
  | footnoteReference label =>
    have number : '"' ∉ (writer.footnote label).2 := by
      unfold footnote
      split <;> exact fun mem => absurd (Html.isTagChar_of_mem_ofNat mem).1 (by decide)
    exact Or.inr (by simp [describe, inside, put, number])
  | math displayed text => cases displayed <;> exact Or.inr (by simp [describe, inside, put, escaped])
  | task done => cases done <;> exact Or.inr (by simp [describe, inside, put])
  | start _ | text _ | code _ | html _ | inlineHtml _ | softBreak | hardBreak | rule =>
    exact Or.inr (by simp [describe, inside, put, putText, escaped])

/-- What is written for an event, as a reader finds it: the reader follows the writer, and the anchors are none,
or one that has to do with the event. -/
def ReadsAs (reading : Reading) (event : Event) (written : Writer × Text) : Prop :=
  Follows (reading.after written.2) written.1 ∧
  ((tagsFrom reading written.2).filter isAnchor = [] ∨
    ∃ anchor, (tagsFrom reading written.2).filter isAnchor = [anchor] ∧ AnchorOf event anchor)

/-- The names of the tags of other events are not those of links. -/
theorem anchor_notMem_tagNames {event : Event} (inHead : Bool)
    (noLink : ∀ kind target, event ≠ .start (.link kind target))
    (noReference : ∀ label, event ≠ .footnoteReference label) :
    "a".toList ∉ event.tagNames inHead := by
  cases event with
  | start element =>
    cases element with
    | link kind target => exact absurd rfl (noLink kind target)
    | heading level _ => simp [Event.tagNames, Element.opened, headingName]
    | list first => cases first <;> simp [Event.tagNames, Element.opened]
    | tableCell => cases inHead <;> simp [Event.tagNames, Element.opened, cellName]
    | paragraph | quote _ | code _ | html | item | glossary | term | definition | footnote _ | table _ |
        tableHead | tableRow | emphasis | strong | strikethrough | image _ | metadata =>
      simp [Event.tagNames, Element.opened]
  | stop element =>
    cases element with
    | list first => cases first <;> simp [Event.tagNames, Element.closed]
    | paragraph | heading _ _ | quote _ | code _ | html | item | glossary | term | definition | footnote _ |
        tableHead | tableRow | tableCell | emphasis | strong | strikethrough | link _ _ | image _ | table _ |
        metadata =>
      simp [Event.tagNames, Element.closed]
  | footnoteReference label => exact absurd rfl (noReference label)
  | text _ | code _ | math _ _ | html _ | inlineHtml _ | softBreak | hardBreak | rule | task _ =>
    simp [Event.tagNames]

/-- Such an event has no anchors. -/
theorem anchors_eq_nil {names : List Text} {text : Text} (h : HasTags names text)
    (other : "a".toList ∉ names) : (Html.tags text).filter isAnchor = [] := by
  obtain ⟨found, read, rfl⟩ := h
  rw [read.tags, List.filter_eq_nil_iff]
  intro tag mem isAnchor
  exact other (List.mem_map.mpr ⟨tag, mem, of_decide_eq_true isAnchor⟩)

/-- What is read as tags between which no description stands. -/
theorem ReadsAs.of_isMarkup {event : Event} {written : Writer × Text} {found : List Html.Tag}
    (outside : written.1.image = none) (read : IsMarkup written.2 found)
    (anchors : found.filter isAnchor = [] ∨
      ∃ anchor, found.filter isAnchor = [anchor] ∧ AnchorOf event anchor) :
    ReadsAs .outside event written := by
  have same : tagsFrom .outside written.2 = found := read.tags
  refine ⟨?_, by rwa [same]⟩
  rw [read.after]
  exact follows_of_no_image outside

/-- An event in the description of an image. -/
theorem readsAs_describe {target : Target} {depth : Nat} (inside : writer.image = some (target, depth))
    (alt : Text) (event policed : Event) :
    ReadsAs (describing target alt) event (writer.describe target depth policed) := by
  rcases describe_cases writer target depth policed inside with ⟨outside, ended⟩ | ⟨⟨_, inside⟩, inert⟩
  · obtain ⟨after, found⟩ := read_imageEnd target alt
    rw [ReadsAs, ended, after, found]
    exact ⟨follows_of_no_image outside, Or.inl rfl⟩
  · obtain ⟨after, found⟩ := leads_describing inert target alt
    rw [ReadsAs, after, found]
    exact ⟨follows_of_image inside _, Or.inl rfl⟩

/-- An event between tags that is no link. -/
theorem readsAs_step (outside : writer.image = none) {event : Event}
    (noLink : ∀ kind target, event ≠ .start (.link kind target))
    (noBlock : ∀ raw, event ≠ .html raw) (noInline : ∀ raw, event ≠ .inlineHtml raw) (origin : Event)
    (same : ∀ label, event = .footnoteReference label → origin = event) :
    ReadsAs .outside origin (writer.step event) := by
  by_cases image : ∃ target, event = .start (.image target)
  · obtain ⟨target, rfl⟩ := image
    obtain ⟨after, found⟩ := leads_image writer target
    refine ⟨?_, Or.inl (by rw [step, found]; rfl)⟩
    rw [step, after]
    exact follows_of_image (show _ = some (target, 0) from rfl) []
  have noImage := fun target same => image ⟨target, same⟩
  have behind := image_step outside noImage
  by_cases reference : ∃ label, event = .footnoteReference label
  · obtain ⟨label, rfl⟩ := reference
    rw [same label rfl]
    exact .of_isMarkup behind (isMarkup_reference writer label)
      (Or.inr ⟨_, by rfl, .reference label⟩)
  · have tags := hasTags_step writer noLink noImage noBlock noInline
    have none := anchors_eq_nil tags
      (anchor_notMem_tagNames writer.inHead noLink fun label same => reference ⟨label, same⟩)
    obtain ⟨found, read, -⟩ := tags
    rw [read.tags] at none
    exact .of_isMarkup behind read (Or.inl none)

/-- **One event.** What it is written as under the rules of the site has no anchor, or one that has to do with
the event. -/
theorem readsAs_write (follows : Follows reading writer) (event : Event) :
    ReadsAs reading event (writer.write event.policed) := by
  unfold Follows at follows
  cases image : writer.image with
  | some described =>
    rw [image] at follows
    obtain ⟨alt, rfl⟩ := follows
    simp only [write, image]
    exact readsAs_describe image alt event event.policed
  | none =>
    rw [image] at follows
    subst follows
    simp only [write, image]
    have anchor (kind : LinkKind) (target : Target)
        (stays : ¬ (Event.start (.link kind target)).LeavesSite) :
        ReadsAs .outside (.start (.link kind target)) (writer.step (.start (.link kind target))) :=
      .of_isMarkup image (isMarkup_link writer kind target) (Or.inr ⟨_, rfl, .link stays⟩)
    unfold Event.policed
    split
    case h_1 target =>
      by_cases site : isSiteLink target.dest = true
      · rw [if_pos site]
        refine anchor .address target ?_
        rintro ⟨_, ⟨⟩, leaves⟩
        rw [site] at leaves
        cases leaves
      · rw [if_neg site]
        exact .of_isMarkup image (isMarkup_externalAnchor target)
          (Or.inr ⟨_, rfl, .leaves (by simpa using site)⟩)
    case h_2 | h_3 =>
      -- Raw HTML has become text.
      exact readsAs_step image (fun _ _ => Event.noConfusion) (fun _ => Event.noConfusion)
        (fun _ => Event.noConfusion) _ fun _ => Event.noConfusion
    case h_4 noAddress noBlock noInline =>
      by_cases mail : ∃ target, event = .start (.link .email target)
      · obtain ⟨target, rfl⟩ := mail
        refine anchor .email target ?_
        rintro ⟨_, ⟨⟩, -⟩
      · refine readsAs_step image (fun kind target same => ?_) noBlock noInline event fun _ _ => rfl
        cases kind with
        | email => exact mail ⟨target, same⟩
        | address => exact noAddress target same

/-! ## §3 All events -/

/-- The anchors in what is written for events come from some of the events, one from each, in their order. -/
theorem exists_anchors (events : List Event) (follows : Follows reading writer) :
    ∃ links : List Event, links.Sublist events ∧
      List.Forall₂ AnchorOf links
        ((tagsFrom reading (writer.writeAll (events.map Event.policed))).filter isAnchor) := by
  -- The induction is on the events, for all writers and the readers that follow them.
  induction events generalizing writer reading with
  | nil =>
    refine ⟨[], .slnil, ?_⟩
    unfold Follows at follows
    rw [List.map_nil, writeAll]
    cases image : writer.image with
    | none => exact .nil
    | some described =>
      -- An image that is left open is ended.
      rw [image] at follows
      obtain ⟨alt, rfl⟩ := follows
      have ended := (read_imageEnd described.1 alt).2
      simp only [Option.map_some, Option.getD_some]
      rw [ended]
      exact .nil
  | cons event events ih =>
    obtain ⟨behind, anchors⟩ := readsAs_write follows event
    obtain ⟨links, sublist, pairs⟩ := ih behind
    rw [List.map_cons, writeAll, Html.tagsFrom_append, List.filter_append]
    rcases anchors with none | ⟨anchor, one, comes⟩
    · rw [none]
      exact ⟨links, sublist.cons event, pairs⟩
    · rw [one]
      exact ⟨event :: links, sublist.cons_cons event, .cons comes pairs⟩

end Writer

/-- **Every anchor comes from one link.** The tags that open links in the HTML of a document come, one by one
and in their order, from events of the document that are links or references to footnotes. A tag has the marks
of a new tab if, and only if, its link leaves the site. In that case its reader finds the address, the title
unless it is empty, and the marks, each once and nothing else; and so it is for every address and title, with the
texts that they were, since the tag is written so that they cannot leave their values. -/
theorem anchors_of_render :
    (∀ source : Text, ∃ links : List Event, links.Sublist (eventsOf source) ∧
      List.Forall₂ AnchorOf links ((Html.tags (render source)).filter isAnchor)) ∧
    ∀ target : Target, ∃ href title,
      Html.tags (externalAnchor target) = [⟨"a".toList, ("href".toList, href) ::
        ((if target.title.isEmpty then [] else [("title".toList, title)]) ++
          [("target".toList, "_blank".toList), ("rel".toList, "noopener noreferrer".toList)])⟩] ∧
      Html.unescape href = target.dest ∧ Html.unescape title = target.title := by
  constructor
  · intro source
    exact Writer.exists_anchors (eventsOf source) (Writer.follows_of_no_image rfl)
  · intro target
    exact ⟨Html.escapeAttr target.dest, Html.escapeAttr target.title,
      (Writer.isMarkup_externalAnchor target).tags, Html.unescape_escapeAttr target.dest,
      Html.unescape_escapeAttr target.title⟩

end DocSite.Markdown
