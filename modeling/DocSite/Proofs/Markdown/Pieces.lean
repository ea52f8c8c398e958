import DocSite.Markdown.Render
import DocSite.Proofs.Html.Tags

/-!
# Pieces of HTML

The HTML of a document is made of pieces, one for each event. Where a reader of the HTML is behind a piece can
be told from the writer alone: in the description of an image, which is the value of an attribute, or between
tags (`Writer.place`). Every event that is written under the rules of the site leads there from the place behind
the event before (`Writer.after_write`). What an author may choose freely, such as addresses, titles and classes,
is escaped and leads nowhere else.
-/

namespace DocSite.Markdown

open Html (Place)

namespace Writer

variable (writer : Writer)

/-! ## §1 Places -/

/-- The place to which a reader is led by what has been written: into the description of an image, or between
tags. -/
def place : Place := if writer.image.isSome then .quoted '"' else .outside

variable {writer} in
theorem place_of_image {described : Target × Nat} (h : writer.image = some described) :
    writer.place = .quoted '"' := by
  simp [place, h]

variable {writer} in
theorem place_of_no_image (h : writer.image = none) : writer.place = .outside := by
  simp [place, h]

@[simp]
theorem image_put (text : Text) : (writer.put text).1.image = writer.image := rfl

@[simp]
theorem image_putText (text : Text) : (writer.putText text).1.image = writer.image := rfl

@[simp]
theorem image_putLine (text : Text) : (writer.putLine text).1.image = writer.image := rfl

@[simp]
theorem image_footnote (label : Text) : (writer.footnote label).1.image = writer.image := by
  unfold footnote
  split <;> rfl

@[simp]
theorem after_putLine (text : Text) :
    Place.outside.after (writer.putLine text).2 = Place.outside.after text := by
  unfold putLine put
  split <;> rfl

@[simp]
theorem after_put (place : Place) (text : Text) :
    place.after (writer.put text).2 = place.after text := rfl

@[simp]
theorem after_putText (place : Place) (text : Text) :
    place.after (writer.putText text).2 = place.after text := rfl

@[simp]
theorem after_quoted_footnote (label : Text) :
    (Place.quoted '"').after (writer.footnote label).2 = .quoted '"' := by
  unfold footnote
  split <;> exact Place.after_quoted_ofNat _

@[simp]
theorem after_outside_footnote (label : Text) :
    Place.outside.after (writer.footnote label).2 = .outside := by
  unfold footnote
  split <;> exact Place.after_outside_ofNat _

/-! ## §2 Attributes -/

section Attributes

open Html (StaysInTag)

theorem staysInTag_attr (name value : Text) : StaysInTag (attr name value) := fun place h => by
  have plain : Html.Skips .inside (Html.escapeAttr name) :=
    Html.skips_inside fun _ => Html.isTagChar_of_mem_escapeAttr
  simp [attr, h.blank, plain.after]

theorem staysInTag_titleAttr (title : Text) : StaysInTag (titleAttr title) := by
  unfold titleAttr
  split
  · exact .nil
  · exact staysInTag_attr _ _

theorem staysInTag_languageClass (info : Option Text) : StaysInTag (languageClass info) := by
  unfold languageClass
  dsimp only
  split
  · exact .nil
  · exact staysInTag_attr _ _

theorem staysInTag_alertClass (alert : Option Alert) : StaysInTag (alertClass alert) := by
  unfold alertClass
  split
  · exact .nil
  all_goals exact staysInTag_attr _ _

theorem staysInTag_alignmentStyle (alignment : Alignment) :
    StaysInTag (alignmentStyle alignment) := by
  unfold alignmentStyle
  split
  · exact .nil
  all_goals exact staysInTag_attr _ _

theorem staysInTag_headingAttrs (marks : HeadingMarks) : StaysInTag (headingAttrs marks) := by
  unfold headingAttrs
  refine .append (.append ?_ ?_) (.flatMap (fun _ => staysInTag_attr _ _) _)
  · cases marks.id with
    | none => exact .nil
    | some id => exact staysInTag_attr _ _
  · split
    · exact .nil
    · exact staysInTag_attr _ _

end Attributes

/-! ## §3 Events -/

/-- A tag of some name with attributes leads back between tags. -/
theorem after_tag {attributes : Text} (h : Html.StaysInTag attributes) (name : Text) :
    ((Place.name name).after attributes).next '>' = .outside := (h (Place.inTag_name name)).close

/-- What an element begins with leads to the place of the writer. -/
theorem after_start {writer : Writer} (outside : writer.image = none) (element : Element) :
    Place.outside.after (writer.start element).2 = (writer.start element).1.place := by
  cases element with
  | heading level marks =>
    -- The level is read as part of the name of the tag.
    have digits : Html.StaysInTag (Text.ofNat level) :=
      .of_chars fun _ mem => (Html.isTagChar_of_mem_ofNat mem).1
    have whole := after_tag (digits.append (staysInTag_headingAttrs marks)) ['h']
    rw [Place.after_append] at whole
    simp [start, Writer.place, outside, whole, Place.endsName]
  | quote alert =>
    simp [start, Writer.place, outside, after_tag (staysInTag_alertClass alert), Place.endsName]
  | code info =>
    simp [start, Writer.place, outside, after_tag (staysInTag_languageClass info), Place.endsName]
  | list first =>
    match first with
    | none | some 0 | some 1 | some (_ + 2) =>
      simp [start, Writer.place, outside, Place.endsName]
  | tableCell =>
    have styled := after_tag (staysInTag_alignmentStyle (writer.alignments.getD writer.cell .unset))
    cases head : writer.inHead <;>
      simp [start, Writer.place, outside, head, styled, -List.getD_eq_getElem?_getD, Place.endsName]
  | link kind target =>
    have titled := (staysInTag_titleAttr target.title Place.inTag_inside).close
    cases kind <;> simp [start, Writer.place, outside, titled, Place.endsName]
  | paragraph | html | item | glossary | term | definition | footnote _ | table _ | tableHead |
      tableRow | emphasis | strong | strikethrough | image _ | metadata =>
    simp [start, Writer.place, outside, Place.endsName]

/-- So does what an element ends with. -/
theorem after_stop {writer : Writer} (outside : writer.image = none) (element : Element) :
    Place.outside.after (writer.stop element).2 = (writer.stop element).1.place := by
  cases element with
  | list first =>
    cases first <;> simp [stop, Writer.place, outside, Place.endsName]
  | tableCell =>
    cases head : writer.inHead <;> simp [stop, Writer.place, outside, head, Place.endsName]
  | heading level _ =>
    have digits : Html.StaysInTag (Text.ofNat level) :=
      .of_chars fun _ mem => (Html.isTagChar_of_mem_ofNat mem).1
    simp [stop, Writer.place, outside, after_tag digits, Place.endsName]
  | paragraph | quote _ | code _ | html | item | glossary | term | definition | footnote _ | table _ |
      tableHead | tableRow | emphasis | strong | strikethrough | link _ _ | image _ | metadata =>
    simp [stop, Writer.place, outside, Place.endsName]

/-- The tag of a link that leaves the site is whole. -/
theorem after_externalAnchor (target : Target) :
    Place.outside.after (externalAnchor target) = .outside := by
  have tag := after_tag (((staysInTag_attr "href".toList target.dest).append
    (staysInTag_titleAttr target.title)).append ((staysInTag_attr "target".toList "_blank".toList).append
    (staysInTag_attr "rel".toList "noopener noreferrer".toList))) ['a']
  simp only [Place.after_append] at tag
  simp only [externalAnchor, Place.after_append]
  exact tag

/-- What an event is written as between tags leads to the place of the writer, unless it is raw HTML. -/
theorem after_step {writer : Writer} (outside : writer.image = none) {event : Event}
    (noBlock : ∀ raw, event ≠ .html raw) (noInline : ∀ raw, event ≠ .inlineHtml raw) :
    Place.outside.after (writer.step event).2 = (writer.step event).1.place := by
  cases event with
  | start element => exact after_start outside element
  | stop element => exact after_stop outside element
  | html raw => exact absurd rfl (noBlock raw)
  | inlineHtml raw => exact absurd rfl (noInline raw)
  | text text =>
    cases hidden : writer.hidden <;> simp [step, Writer.place, outside, hidden]
  | math displayed text =>
    cases displayed <;> simp [step, Writer.place, outside, Place.endsName]
  | task done =>
    cases done <;> simp [step, Writer.place, outside, Place.endsName]
  | code _ | footnoteReference _ | softBreak | hardBreak | rule =>
    simp [step, Writer.place, outside, Place.endsName]

/-- What an event is written as in the description of an image leads to the place of the writer. -/
theorem after_describe {writer : Writer} {target : Target} {depth : Nat}
    (inside : writer.image = some (target, depth)) (event : Event) :
    (Place.quoted '"').after (writer.describe target depth event).2 =
      (writer.describe target depth event).1.place := by
  cases event with
  | stop element =>
    -- The end of the image itself ends the value of the attribute and the tag.
    have titled := (staysInTag_titleAttr target.title Place.inTag_inside).blank
    by_cases last : depth = 0 <;>
      simp [describe, Writer.place, last, imageEnd, titled]
  | math displayed text =>
    cases displayed <;> simp [describe, Writer.place, inside]
  | task done =>
    cases done <;> simp [describe, Writer.place, inside]
  | start _ | text _ | code _ | html _ | inlineHtml _ | footnoteReference _ | softBreak | hardBreak |
      rule =>
    simp [describe, Writer.place, inside]

/-- **Every event leads to the place of the writer** under the rules of the site. -/
theorem after_write (writer : Writer) (event : Event) :
    writer.place.after (writer.write event.policed).2 = (writer.write event.policed).1.place := by
  cases image : writer.image with
  | some described =>
    simp only [write, image, place_of_image image]
    exact after_describe image _
  | none =>
    simp only [write, image, place_of_no_image image]
    unfold Event.policed
    split
    case h_1 target =>
      -- Only the tag of a link that leaves the site is written as raw HTML, and it is whole.
      split
      · exact after_start image _
      · simp [step, Writer.place, image, after_externalAnchor]
    case h_2 | h_3 =>
      exact after_step image (fun _ => Event.noConfusion) (fun _ => Event.noConfusion)
    case h_4 noLink noBlock noInline => exact after_step image noBlock noInline

end Writer

end DocSite.Markdown
