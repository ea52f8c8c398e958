import DocSite.Proofs.Html.Reading
import DocSite.Proofs.Markdown.Payload

/-!
# The tags of events

Between tags, an element begins and ends with tags whose names are known from the element and from whether
it stands in the head of a table (`Element.opened`, `Element.closed`), and so it is with every other event but
raw HTML (`Event.tagNames`). This is so whatever the attributes of the tags are, which an author may choose: they
are written in a way that cannot end the tag (`hasTags_step`). Of links and images all attributes are known
(`isMarkup_link`, `isMarkup_externalAnchor`, `imageTag`).
-/

namespace DocSite.Markdown

open Html (Adds IsMarkup Leads Reading)

/-! ## §1 Attributes -/

namespace Writer

/-- An attribute with a plain name is read as that name and the escaped value. -/
theorem adds_attr (key : Text) (clean : Html.escapeAttr key = key)
    (plain : key.all Html.isKeyChar = true) (value : Text) :
    Adds (attr key value) [(key, Html.escapeAttr value)] := by
  have whole : attr key value =
      ' ' :: (key ++ ("=\"".toList ++ (Html.escapeAttr value ++ ['"']))) := by
    simp [attr, clean]
  rw [whole]
  exact Html.adds_value key plain (Html.notMem_escapeAttr (Or.inl rfl) value)

/-- An attribute with any name adds some attributes. -/
theorem exists_adds_attr (name value : Text) : ∃ attributes, Adds (attr name value) attributes := by
  have whole : attr name value =
      ' ' :: (Html.escapeAttr name ++ ("=\"".toList ++ (Html.escapeAttr value ++ ['"']))) := by
    simp [attr]
  rw [whole]
  exact Html.exists_adds_value (fun _ => Html.isTagChar_of_mem_escapeAttr)
    (Html.notMem_escapeAttr (Or.inl rfl) value)

/-- The attributes for a title. -/
def titleAttributes (title : Text) : List (Text × Text) :=
  if title.isEmpty then [] else [("title".toList, Html.escapeAttr title)]

theorem adds_titleAttr (title : Text) : Adds (titleAttr title) (titleAttributes title) := by
  unfold titleAttr titleAttributes
  split
  · exact .nil
  · exact adds_attr _ (by decide) (by decide) title

theorem exists_adds_alertClass (alert : Option Alert) :
    ∃ attributes, Adds (alertClass alert) attributes := by
  unfold alertClass
  split
  · exact ⟨[], .nil⟩
  all_goals exact exists_adds_attr _ _

theorem exists_adds_languageClass (info : Option Text) :
    ∃ attributes, Adds (languageClass info) attributes := by
  unfold languageClass
  dsimp only
  split
  · exact ⟨[], .nil⟩
  · exact exists_adds_attr _ _

theorem exists_adds_alignmentStyle (alignment : Alignment) :
    ∃ attributes, Adds (alignmentStyle alignment) attributes := by
  unfold alignmentStyle
  split
  · exact ⟨[], .nil⟩
  all_goals exact exists_adds_attr _ _

theorem exists_adds_headingAttrs (marks : HeadingMarks) :
    ∃ attributes, Adds (headingAttrs marks) attributes := by
  have named : ∃ attributes, Adds ((marks.id.map (attr "id".toList)).getD []) attributes := by
    cases marks.id with
    | none => exact ⟨[], .nil⟩
    | some id => exact exists_adds_attr _ _
  have classed : ∃ attributes, Adds (if marks.classes.isEmpty then []
      else attr "class".toList (Text.join [' '] marks.classes)) attributes := by
    split
    · exact ⟨[], .nil⟩
    · exact exists_adds_attr _ _
  have others : ∃ attributes,
      Adds (marks.attributes.flatMap fun entry => attr entry.1 (entry.2.getD [])) attributes := by
    induction marks.attributes with
    | nil => exact ⟨[], .nil⟩
    | cons entry entries ih =>
      obtain ⟨first, here⟩ := exists_adds_attr entry.1 (entry.2.getD [])
      obtain ⟨rest, behind⟩ := ih
      exact ⟨first ++ rest, here.append behind⟩
  obtain ⟨_, named⟩ := named
  obtain ⟨_, classed⟩ := classed
  obtain ⟨_, others⟩ := others
  exact ⟨_, (named.append classed).append others⟩

end Writer

/-! ## §2 The names of tags -/

/-- A text that is read as tags with some names and leads back between tags. -/
def HasTags (names : List Text) (text : Text) : Prop :=
  ∃ found, IsMarkup text found ∧ found.map (·.name) = names

namespace HasTags

variable {names more : List Text} {s t : Text}

theorem append (hs : HasTags names s) (ht : HasTags more t) : HasTags (names ++ more) (s ++ t) := by
  obtain ⟨_, hs, rfl⟩ := hs
  obtain ⟨_, ht, rfl⟩ := ht
  exact ⟨_, hs.append ht, List.map_append⟩

theorem of_isEscaped (h : Html.IsEscaped t) : HasTags [] t := ⟨[], .of_isEscaped h, rfl⟩

/-- A tag with some attributes. -/
theorem tag (name : Text) {attributes : Text} (plain : name.all Html.isNameChar = true)
    (added : ∃ found, Adds attributes found) :
    HasTags [name] ('<' :: (name ++ attributes) ++ ['>']) := by
  obtain ⟨found, added⟩ := added
  exact ⟨_, .tag name plain added, rfl⟩

/-- A text that is known is read character by character. -/
theorem read (after : Reading.outside.after t = .outside)
    (found : (Html.tags t).map (·.name) = names) : HasTags names t := ⟨_, ⟨after, rfl⟩, found⟩

end HasTags

/-- The name of the tag of a heading. -/
def headingName (level : Nat) : Text := 'h' :: Text.ofNat level

/-- The name of the tag of a cell. -/
def cellName (inHead : Bool) : Text := if inHead then "th".toList else "td".toList

/-- The names of the tags with which an element begins, but for those of an image, whose tag ends with it. -/
def Element.opened (inHead : Bool) : Element → List Text
  | .paragraph => ["p".toList]
  | .heading level _ => [headingName level]
  | .quote _ => ["blockquote".toList]
  | .code _ => ["pre".toList, "code".toList]
  | .list none => ["ul".toList]
  | .list (some _) => ["ol".toList]
  | .item => ["li".toList]
  | .glossary => ["dl".toList]
  | .term => ["dt".toList]
  | .definition => ["dd".toList]
  | .footnote _ => ["div".toList, "sup".toList, "/sup".toList]
  | .table _ => ["table".toList]
  | .tableHead => ["thead".toList, "tr".toList]
  | .tableRow => ["tr".toList]
  | .tableCell => [cellName inHead]
  | .emphasis => ["em".toList]
  | .strong => ["strong".toList]
  | .strikethrough => ["del".toList]
  | .link _ _ => ["a".toList]
  | .html | .image _ | .metadata => []

/-- The names of the tags with which an element ends. -/
def Element.closed (inHead : Bool) : Element → List Text
  | .paragraph => ["/p".toList]
  | .heading level _ => ['/' :: headingName level]
  | .quote _ => ["/blockquote".toList]
  | .code _ => ["/code".toList, "/pre".toList]
  | .list none => ["/ul".toList]
  | .list (some _) => ["/ol".toList]
  | .item => ["/li".toList]
  | .glossary => ["/dl".toList]
  | .term => ["/dt".toList]
  | .definition => ["/dd".toList]
  | .footnote _ => ["/div".toList]
  | .table _ => ["/tbody".toList, "/table".toList]
  | .tableHead => ["/tr".toList, "/thead".toList, "tbody".toList]
  | .tableRow => ["/tr".toList]
  | .tableCell => ['/' :: cellName inHead]
  | .emphasis => ["/em".toList]
  | .strong => ["/strong".toList]
  | .strikethrough => ["/del".toList]
  | .link _ _ => ["/a".toList]
  | .html | .image _ | .metadata => []

/-- The names of the tags as which an event is written between tags. -/
def Event.tagNames (inHead : Bool) : Event → List Text
  | .start element => element.opened inHead
  | .stop element => element.closed inHead
  | .code _ => ["code".toList, "/code".toList]
  | .math _ _ => ["span".toList, "/span".toList]
  | .footnoteReference _ => ["sup".toList, "a".toList, "/a".toList, "/sup".toList]
  | .hardBreak => ["br".toList]
  | .rule => ["hr".toList]
  | .task _ => ["input".toList]
  | .text _ | .html _ | .inlineHtml _ | .softBreak => []

namespace Writer

variable {writer : Writer} {names : List Text} {text : Text}

/-- A line feed is no tag. -/
theorem hasTags_feed : HasTags [] ['\n'] := .read rfl rfl

theorem hasTags_putLine (h : HasTags names text) : HasTags names (writer.putLine text).2 := by
  unfold putLine put
  split
  · exact h
  · exact hasTags_feed.append h

/-- A heading's tags have a name with a number. -/
theorem all_isNameChar_ofNat (n : Nat) : (Text.ofNat n).all Html.isNameChar = true := by
  refine List.all_eq_true.mpr fun c mem => ?_
  have digit : c.isDigit = true := Nat.isDigit_of_mem_toDigits (by decide) (by decide) mem
  have other (d : Char) (no : d.isDigit = false) : c ≠ d := by
    rintro rfl
    rw [digit] at no
    cases no
  simp [Html.isNameChar, other '>' rfl, other '/' rfl, other ' ' rfl, other '\t' rfl, other '\n' rfl,
    other '\r' rfl, other '\x0c' rfl]

theorem all_isNameChar_headingName (level : Nat) : (headingName level).all Html.isNameChar = true := by
  simpa [headingName, Html.isNameChar] using all_isNameChar_ofNat level

theorem all_isNameChar_cellName (inHead : Bool) : (cellName inHead).all Html.isNameChar = true := by
  cases inHead <;> decide

theorem hasTags_ofNat (n : Nat) : HasTags [] (Text.ofNat n) :=
  ⟨[], .of_plain fun mem => (Html.isTagChar_of_mem_ofNat mem).2 rfl, rfl⟩

theorem hasTags_footnote (writer : Writer) (label : Text) : HasTags [] (writer.footnote label).2 := by
  unfold footnote
  split <;> exact hasTags_ofNat _

/-- The tags with which an element begins. -/
theorem hasTags_start (writer : Writer) {element : Element}
    (noLink : ∀ kind target, element ≠ .link kind target) (noImage : ∀ target, element ≠ .image target) :
    HasTags (element.opened writer.inHead) (writer.start element).2 := by
  cases element with
  | link kind target => exact absurd rfl (noLink kind target)
  | image target => exact absurd rfl (noImage target)
  | heading level marks =>
    have tag := HasTags.tag _ (all_isNameChar_headingName level) (exists_adds_headingAttrs marks)
    refine hasTags_putLine ?_
    simpa [Element.opened, headingName] using tag
  | quote alert =>
    have tag := HasTags.tag "blockquote".toList (by decide) (exists_adds_alertClass alert)
    refine hasTags_putLine ?_
    simpa [Element.opened] using tag.append hasTags_feed
  | code info =>
    have block : HasTags ["pre".toList] "<pre>".toList := .read rfl rfl
    have tag := HasTags.tag "code".toList (by decide) (exists_adds_languageClass info)
    refine hasTags_putLine ?_
    simpa [Element.opened] using block.append tag
  | list first =>
    have numbered (n : Nat) :
        HasTags ["ol".toList] ("<ol start=\"".toList ++ Text.ofNat n ++ "\">\n".toList) := by
      have start : Adds (" start=\"".toList ++ (Text.ofNat n ++ ['"'])) [("start".toList, Text.ofNat n)] :=
        Html.adds_value "start".toList (by decide)
          fun mem => absurd (Html.isTagChar_of_mem_ofNat mem).1 (by decide)
      have tag := HasTags.tag "ol".toList (by decide) ⟨_, start⟩
      simpa using tag.append hasTags_feed
    match first with
    | none | some 1 => exact hasTags_putLine (.read rfl rfl)
    | some 0 | some (_ + 2) => exact hasTags_putLine (numbered _)
  | tableCell =>
    have tag := HasTags.tag _ (all_isNameChar_cellName writer.inHead)
      (exists_adds_alignmentStyle (writer.alignments.getD writer.cell .unset))
    cases head : writer.inHead <;>
      simpa [start, put, Element.opened, cellName, head] using tag
  | footnote label =>
    have classed : Adds " class=\"footnote-definition\"".toList
        [("class".toList, "footnote-definition".toList)] :=
      @Html.adds_value "class".toList "footnote-definition".toList (by decide) (by decide)
    have labelled : Adds (" id=\"".toList ++ (Html.escapeAttr label ++ ['"']))
        [("id".toList, Html.escapeAttr label)] :=
      Html.adds_value "id".toList (by decide) (Html.notMem_escapeAttr (Or.inl rfl) label)
    have tag := HasTags.tag "div".toList (by decide) ⟨_, classed.append labelled⟩
    have opened : HasTags ["sup".toList] "<sup class=\"footnote-definition-label\">".toList := .read rfl rfl
    have closed : HasTags ["/sup".toList] "</sup>".toList := .read rfl rfl
    have whole := tag.append (opened.append ((hasTags_footnote writer label).append closed))
    simp only [start]
    refine hasTags_putLine ?_
    simpa [Element.opened] using whole
  | html | metadata => exact .read rfl rfl
  | paragraph | item | glossary | term | definition => exact hasTags_putLine (.read rfl rfl)
  | table _ | tableHead | tableRow | emphasis | strong | strikethrough => exact .read rfl rfl

/-- The tags with which an element ends. -/
theorem hasTags_stop (writer : Writer) (element : Element) :
    HasTags (element.closed writer.inHead) (writer.stop element).2 := by
  cases element with
  | heading level marks =>
    have tag : HasTags ['/' :: headingName level] ('<' :: '/' :: headingName level ++ ['>']) :=
      ⟨_, .closing (all_isNameChar_headingName level), rfl⟩
    simpa [stop, put, Element.closed, headingName] using tag.append hasTags_feed
  | list first => cases first <;> exact .read rfl rfl
  | tableCell =>
    simp only [stop, put]
    cases writer.inHead <;> exact .read rfl rfl
  | paragraph | quote _ | code _ | html | item | glossary | term | definition | footnote _ | table _ |
      tableHead | tableRow | emphasis | strong | strikethrough | link _ _ | image _ | metadata =>
    exact .read rfl rfl

/-! ## §3 Links and images -/

/-- What a link is written as. -/
def hrefOf (kind : LinkKind) (target : Target) : Text :=
  (if kind = .email then "mailto:".toList else []) ++ Html.escapeHref target.dest

/-- The tag of a link that stays in its tab. -/
def linkTag (kind : LinkKind) (target : Target) : Html.Tag where
  name := "a".toList
  attributes := ("href".toList, hrefOf kind target) :: titleAttributes target.title

/-- The tag of a link that leaves the site. -/
def leavingTag (target : Target) : Html.Tag where
  name := "a".toList
  attributes := ("href".toList, Html.escapeAttr target.dest) :: (titleAttributes target.title ++
    [("target".toList, "_blank".toList), ("rel".toList, "noopener noreferrer".toList)])

/-- The tag of a reference to a footnote. -/
def referenceTag (label : Text) : Html.Tag where
  name := "a".toList
  attributes := [("href".toList, '#' :: Html.escapeAttr label)]

/-- The tag of an image with a description as it is written. -/
def imageTag (target : Target) (alt : Text) : Html.Tag where
  name := "img".toList
  attributes := ("src".toList, Html.escapeHref target.dest) :: ("alt".toList, alt) ::
    titleAttributes target.title

theorem quote_notMem_hrefOf (kind : LinkKind) (target : Target) : '"' ∉ hrefOf kind target := by
  have escaped := Html.quote_notMem_escapeHref target.dest
  cases kind <;> simp [hrefOf, escaped]

/-- An address is read as it is written. -/
theorem adds_href {value : Text} (inert : '"' ∉ value) :
    Adds (" href=\"".toList ++ (value ++ ['"'])) [("href".toList, value)] :=
  Html.adds_value "href".toList (by decide) inert

theorem isMarkup_link (writer : Writer) (kind : LinkKind) (target : Target) :
    IsMarkup (writer.start (.link kind target)).2 [linkTag kind target] := by
  have tag := IsMarkup.tag "a".toList (by decide)
    ((adds_href (quote_notMem_hrefOf kind target)).append (adds_titleAttr target.title))
  cases kind <;> simpa [start, put, linkTag, hrefOf] using tag

/-- **The tag of a link that leaves the site** has its attributes and no others, whatever the address and the
title say. -/
theorem isMarkup_externalAnchor (target : Target) :
    IsMarkup (externalAnchor target) [leavingTag target] := by
  have href := adds_attr "href".toList (by decide) (by decide) target.dest
  have blank : Adds (attr "target".toList "_blank".toList) [("target".toList, "_blank".toList)] :=
    adds_attr _ (by decide) (by decide) "_blank".toList
  have rel : Adds (attr "rel".toList "noopener noreferrer".toList)
      [("rel".toList, "noopener noreferrer".toList)] :=
    adds_attr _ (by decide) (by decide) "noopener noreferrer".toList
  have tag := IsMarkup.tag "a".toList (by decide)
    (((href.append (adds_titleAttr target.title)).append blank).append rel)
  simpa [externalAnchor, leavingTag] using tag

/-- The tags of a reference to a footnote, which are those of a link in a superscript. -/
theorem isMarkup_reference (writer : Writer) (label : Text) :
    IsMarkup (writer.step (.footnoteReference label)).2
      [⟨"sup".toList, [("class".toList, "footnote-reference".toList)]⟩, referenceTag label,
        { name := "/a".toList }, { name := "/sup".toList }] := by
  have inert : '"' ∉ '#' :: Html.escapeAttr label := by
    simp [Html.notMem_escapeAttr (Or.inl rfl) label]
  have anchor := IsMarkup.tag "a".toList (by decide) (adds_href inert)
  have opened : IsMarkup "<sup class=\"footnote-reference\">".toList
      [⟨"sup".toList, [("class".toList, "footnote-reference".toList)]⟩] := ⟨rfl, rfl⟩
  have number : IsMarkup (writer.footnote label).2 [] := by
    obtain ⟨found, read, none⟩ := hasTags_footnote writer label
    rwa [List.map_eq_nil_iff.mp none] at read
  have closed : IsMarkup "</a></sup>".toList [{ name := "/a".toList }, { name := "/sup".toList }] :=
    ⟨rfl, rfl⟩
  have whole := opened.append (anchor.append (number.append closed))
  simp only [step]
  simpa [put, referenceTag] using whole

/-- **The tags of an event** that is neither a link nor an image nor raw HTML. -/
theorem hasTags_step (writer : Writer) {event : Event}
    (noLink : ∀ kind target, event ≠ .start (.link kind target))
    (noImage : ∀ target, event ≠ .start (.image target))
    (noBlock : ∀ raw, event ≠ .html raw) (noInline : ∀ raw, event ≠ .inlineHtml raw) :
    HasTags (event.tagNames writer.inHead) (writer.step event).2 := by
  cases event with
  | start element =>
    exact hasTags_start writer (fun kind target same => noLink kind target (same ▸ rfl))
      fun target same => noImage target (same ▸ rfl)
  | stop element => exact hasTags_stop writer element
  | html raw => exact absurd rfl (noBlock raw)
  | inlineHtml raw => exact absurd rfl (noInline raw)
  | text text =>
    unfold step
    dsimp only
    split
    · exact .read rfl rfl
    · exact .of_isEscaped (Html.isEscaped_escapeText text)
  | code text =>
    have opened : HasTags ["code".toList] "<code>".toList := .read rfl rfl
    have closed : HasTags ["/code".toList] "</code>".toList := .read rfl rfl
    have escaped := HasTags.of_isEscaped (Html.isEscaped_escapeText text)
    simpa [step, put, Event.tagNames] using opened.append (escaped.append closed)
  | math displayed text =>
    have closed : HasTags ["/span".toList] "</span>".toList := .read rfl rfl
    have escaped := HasTags.of_isEscaped (Html.isEscaped_escapeAttr text)
    cases displayed with
    | false =>
      have opened : HasTags ["span".toList] "<span class=\"math math-inline\">".toList := .read rfl rfl
      simpa [step, put, Event.tagNames] using opened.append (escaped.append closed)
    | true =>
      have opened : HasTags ["span".toList] "<span class=\"math math-display\">".toList := .read rfl rfl
      simpa [step, put, Event.tagNames] using opened.append (escaped.append closed)
  | footnoteReference label => exact ⟨_, isMarkup_reference writer label, rfl⟩
  | softBreak | hardBreak => exact .read rfl rfl
  | rule => exact hasTags_putLine (.read rfl rfl)
  | task done => cases done <;> exact .read rfl rfl

/-- Where a reader is in the description of an image, some of which has been read. -/
def describing (target : Target) (alt : Text) : Reading :=
  .quoted ⟨"img".toList, [("src".toList, Html.escapeHref target.dest)]⟩ "alt".toList '"' alt

/-- What the tag of an image begins with, in front of its description. -/
def imageStart (target : Target) : Text :=
  "<img src=\"".toList ++ Html.escapeHref target.dest ++ "\" alt=\"".toList

/-- An image begins its description. -/
theorem leads_imageStart (target : Target) :
    Leads .outside (imageStart target) (describing target []) := by
  have src : Adds (" src=\"".toList ++ (Html.escapeHref target.dest ++ ['"']))
      [("src".toList, Html.escapeHref target.dest)] :=
    Html.adds_value "src".toList (by decide) (Html.quote_notMem_escapeHref target.dest)
  have opened : Leads .outside "<img".toList (.name "img".toList) := ⟨rfl, rfl⟩
  obtain ⟨behind, read, held⟩ := src (show (Reading.name "img".toList).Holds ⟨"img".toList, []⟩ from rfl)
  have begun : Leads behind " alt=\"".toList (describing target []) := by
    have key := Html.leads_key "alt".toList (by decide)
      ⟨"img".toList, [("src".toList, Html.escapeHref target.dest)]⟩ []
    exact .cons held.blank (key.append ⟨rfl, rfl⟩)
  have whole : imageStart target =
      "<img".toList ++ (" src=\"".toList ++ (Html.escapeHref target.dest ++ ('"' :: " alt=\"".toList))) := rfl
  have parts := opened.append (read.append begun)
  rw [List.append_assoc, List.append_assoc, List.singleton_append] at parts
  rwa [whole]

theorem leads_image (writer : Writer) (target : Target) :
    Leads .outside (writer.start (.image target)).2 (describing target []) := leads_imageStart target

/-- What is described without quotes is read as it is. -/
theorem leads_describing {text : Text} (inert : '"' ∉ text) (target : Target) (alt : Text) :
    Leads (describing target alt) text (describing target (alt ++ text)) :=
  Html.leads_quoted inert _ _ alt

/-- The end of an image ends its tag. -/
theorem read_imageEnd (target : Target) (alt : Text) :
    (describing target alt).after (imageEnd target) = .outside ∧
    Html.tagsFrom (describing target alt) (imageEnd target) = [imageTag target alt] := by
  let described : Html.Tag :=
    ⟨"img".toList, [("src".toList, Html.escapeHref target.dest), ("alt".toList, alt)]⟩
  have ended : Leads (describing target alt) ['"'] (.inside described []) := ⟨rfl, rfl⟩
  obtain ⟨behind, titled, held⟩ := adds_titleAttr target.title
    (show (Reading.inside described []).Holds described from ⟨rfl, rfl⟩)
  have whole := (ended.append (titled.append held.slash)).close
    (show (Reading.inside (imageTag target alt) []).Holds (imageTag target alt) from ⟨rfl, rfl⟩)
  simpa [imageEnd] using whole

end Writer
end DocSite.Markdown
