import DocSite.Proofs.Markdown.Descriptions

/-!
# Images in a document

As long as no link in the description of an image leaves the site, an image is one tag with its description and
nothing of the description stands anywhere else (`images_of_render`); the images of the page are those of the
document, and its tags are balanced, since a document is made of elements that are (`Block.writes`). A link in a
description that leaves the site breaks all that: its opening tag is written by hand and not counted, its end is,
and so the image ends in the middle of its description (`image_ends_early`).
-/

namespace DocSite.Markdown

open Html (IsMarkup)

/-! ## §1 Balanced tags -/

/-- The names of elements that have no closing tag. -/
def voidNames : List Text :=
  ["area", "base", "br", "col", "embed", "hr", "img", "input", "link", "meta", "source", "track",
    "wbr"].map String.toList

/-- A name of a tag that opens an element with a closing tag. -/
def isOpening (name : Text) : Bool := name.head? ≠ some '/' && !voidNames.contains name

/-- Names of tags as they stand in a page in which every element that is opened is closed again, behind all that
is opened in it. -/
inductive Balanced : List Text → Prop
  | nil : Balanced []
  | void {name : Text} (void : name ∈ voidNames) : Balanced [name]
  | element (name : Text) {inner : List Text} (opening : isOpening name = true)
      (balanced : Balanced inner) : Balanced (name :: (inner ++ ['/' :: name]))
  | append {front back : List Text} (one : Balanced front) (two : Balanced back) : Balanced (front ++ back)

/-- The name of a heading is no name of an element without a closing tag. -/
theorem isOpening_headingName (level : Nat) : isOpening (headingName level) = true := by
  have number : Text.ofNat level ≠ ['r'] := fun same => by
    have mem : 'r' ∈ Text.ofNat level := same ▸ List.mem_singleton_self 'r'
    have digit : 'r'.isDigit = true := Nat.isDigit_of_mem_toDigits (by decide) (by decide) mem
    exact absurd digit (by decide)
  simp [isOpening, headingName, voidNames, number]

/-- **What an element begins and ends with is balanced** around balanced tags. A table is more than that: its
head opens the body that the table closes. -/
theorem Balanced.around {inner : List Text} (balanced : Balanced inner) (inHead : Bool) {element : Element}
    (noTable : ∀ alignments, element ≠ .table alignments) (noHead : element ≠ .tableHead) :
    Balanced (element.opened inHead ++ (inner ++ element.closed inHead)) := by
  have one {name : Text} (opening : isOpening name = true) :
      Balanced ([name] ++ (inner ++ ['/' :: name])) := .element name opening balanced
  cases element with
  | table alignments => exact absurd rfl (noTable alignments)
  | tableHead => exact absurd rfl noHead
  | heading level marks => exact one (isOpening_headingName level)
  | code info =>
    have whole := Balanced.element "pre".toList (by decide)
      (.element "code".toList (by decide) balanced)
    simpa [Element.opened, Element.closed] using whole
  | footnote label =>
    have whole := Balanced.element "div".toList (by decide)
      (.append (.element "sup".toList (by decide) .nil) balanced)
    simpa [Element.opened, Element.closed] using whole
  | list first => cases first <;> exact one (by decide)
  | tableCell => cases inHead <;> exact one (by decide)
  | html | image _ | metadata => simpa [Element.opened, Element.closed] using balanced
  | paragraph | quote _ | item | glossary | term | definition | tableRow | emphasis | strong |
      strikethrough | link _ _ =>
    exact one (by decide)

/-- In balanced tags, a name is closed as often as it is opened. -/
theorem Balanced.count {names : List Text} (h : Balanced names) (name : Text) (opening : isOpening name = true) :
    names.count ('/' :: name) = names.count name := by
  have noSlash {name : Text} (opening : isOpening name = true) (other : Text) : name ≠ '/' :: other := by
    rintro rfl
    simp [isOpening] at opening
  induction h with
  | nil => rfl
  | @void found void =>
    have opened : found ≠ name := by
      rintro rfl
      simp [isOpening, void] at opening
    have closed : found ≠ '/' :: name := by
      rintro rfl
      simp [voidNames] at void
    simp [opened, closed]
  | @element found inner here _ ih =>
    have apart : ('/' :: found == name) = false := by simpa using (noSlash opening found).symm
    have other : (found == '/' :: name) = false := by simpa using noSlash here name
    have same : ('/' :: found == '/' :: name) = (found == name) := by
      rw [Bool.eq_iff_iff]
      simp
    rw [List.count_cons, List.count_append, List.count_singleton, List.count_cons, List.count_append,
      List.count_singleton, ih, apart, other, same]
    simp
  | append _ _ one two => rw [List.count_append, List.count_append, one, two]

/-- A table has a head and a body. -/
theorem Balanced.table {head rows : List Text} (one : Balanced head) (two : Balanced rows) :
    Balanced (["table".toList] ++
      ((["thead".toList, "tr".toList] ++ (head ++ ["/tr".toList, "/thead".toList, "tbody".toList]) ++ rows) ++
        ["/tbody".toList, "/table".toList])) := by
  have whole := Balanced.element "table".toList (by decide)
    ((Balanced.element "thead".toList (by decide) (.element "tr".toList (by decide) one)).append
      (.element "tbody".toList (by decide) two))
  simpa using whole

/-! ## §2 The images of a document -/

mutual

/-- The images in an inline element that do not stand in the description of another, with their descriptions. -/
def Inline.images : Inline → List (Target × List Inline)
  | .text _ | .code _ | .html _ | .softBreak | .hardBreak | .footnoteReference _ => []
  | .emphasis content | .strong content | .strikethrough content => Inline.imagesOf content
  | .link _ _ content => Inline.imagesOf content
  | .image target description => [(target, description)]

def Inline.imagesOf : List Inline → List (Target × List Inline)
  | [] => []
  | inline :: inlines => inline.images ++ Inline.imagesOf inlines

end

/-- The images in the cells of a row. -/
def cellImages (cells : List (List Inline)) : List (Target × List Inline) := cells.flatMap Inline.imagesOf

mutual

/-- The images in a block. -/
def Block.images : Block (List Inline) → List (Target × List Inline)
  | .paragraph _ content | .heading _ _ content => Inline.imagesOf content
  | .task _ | .rule | .code _ _ | .html _ => []
  | .quote content | .footnote _ content => Block.imagesOf content
  | .list _ _ items => Block.itemImages items
  | .table _ head rows => cellImages head ++ rows.flatMap cellImages

def Block.imagesOf : List (Block (List Inline)) → List (Target × List Inline)
  | [] => []
  | block :: blocks => block.images ++ Block.imagesOf blocks

def Block.itemImages : List (List (Block (List Inline))) → List (Target × List Inline)
  | [] => []
  | item :: items => Block.imagesOf item ++ Block.itemImages items

end

/-- No link in the description of an image leaves the site. -/
def KeepsInside (images : List (Target × List Inline)) : Prop :=
  ∀ image ∈ images, StaysOnSite (Inline.eventsOf image.2)

instance (images : List (Target × List Inline)) : Decidable (KeepsInside images) :=
  inferInstanceAs (Decidable (∀ image ∈ images, StaysOnSite (Inline.eventsOf image.2)))

theorem KeepsInside.of_append {front back : List (Target × List Inline)} (h : KeepsInside (front ++ back)) :
    KeepsInside front ∧ KeepsInside back :=
  ⟨fun _ mem => h _ (List.mem_append_left _ mem), fun _ mem => h _ (List.mem_append_right _ mem)⟩

/-- The tag of an image. -/
def isImage (tag : Html.Tag) : Bool := tag.name = "img".toList

/-- A tag shows an image: its attribute holds the plain text of the description, escaped, and nothing else. -/
def ShowsImage (image : Target × List Inline) (tag : Html.Tag) : Prop :=
  ∃ met, tag = Writer.imageTag image.1 (Html.escapeAttr (plainText met (Inline.eventsOf image.2)))

/-- A text with tags that have some names and show some images. -/
def Shows (names : List Text) (images : List (Target × List Inline)) (text : Text) : Prop :=
  ∃ found, IsMarkup text found ∧ found.map (·.name) = names ∧
    List.Forall₂ ShowsImage images (found.filter isImage)

namespace Shows

variable {names more : List Text} {images others : List (Target × List Inline)} {s t : Text}

theorem append (hs : Shows names images s) (ht : Shows more others t) :
    Shows (names ++ more) (images ++ others) (s ++ t) := by
  obtain ⟨_, hs, rfl, one⟩ := hs
  obtain ⟨_, ht, rfl, two⟩ := ht
  exact ⟨_, hs.append ht, List.map_append, by rw [List.filter_append]; exact List.rel_append one two⟩

/-- Tags of which none is that of an image. -/
theorem of_hasTags (h : HasTags names t) (noImage : "img".toList ∉ names) : Shows names [] t := by
  obtain ⟨found, read, rfl⟩ := h
  refine ⟨found, read, rfl, ?_⟩
  have none : found.filter isImage = [] := by
    rw [List.filter_eq_nil_iff]
    intro tag mem image
    exact noImage (List.mem_map.mpr ⟨tag, mem, of_decide_eq_true image⟩)
  rw [none]
  exact .nil

end Shows

/-! ## §3 What is written -/

theorem image_notMem_opened (element : Element) (inHead : Bool) :
    "img".toList ∉ element.opened inHead ∧ "img".toList ∉ element.closed inHead := by
  cases element with
  | list first => cases first <;> simp [Element.opened, Element.closed]
  | tableCell => cases inHead <;> simp [Element.opened, Element.closed, cellName]
  | heading level _ => simp [Element.opened, Element.closed, headingName]
  | paragraph | quote _ | code _ | html | item | glossary | term | definition | footnote _ | table _ |
      tableHead | tableRow | emphasis | strong | strikethrough | link _ _ | image _ | metadata =>
    simp [Element.opened, Element.closed]

/-- The head of a table neither begins nor ends among the events. -/
def NoHead (events : List Event) : Prop :=
  ∀ event ∈ events, event ≠ .start .tableHead ∧ event ≠ .stop .tableHead

namespace Writer

variable {writer : Writer} {front back events : List Event} {images more : List (Target × List Inline)}

/-- The tags with which an element begins under the rules of the site. -/
theorem hasTags_write_start (outside : writer.image = none) {element : Element}
    (noImage : ∀ target, element ≠ .image target) :
    HasTags (element.opened writer.inHead) (writer.write (Event.start element).policed).2 := by
  simp only [write, outside]
  cases element with
  | link kind target =>
    have tag : HasTags ["a".toList] (writer.start (.link kind target)).2 :=
      ⟨_, isMarkup_link writer kind target, rfl⟩
    cases kind with
    | email => exact tag
    | address =>
      simp only [Event.policed]
      split
      · exact tag
      · exact ⟨_, isMarkup_externalAnchor target, rfl⟩
  | image target => exact absurd rfl (noImage target)
  | paragraph | heading _ _ | quote _ | code _ | html | list _ | item | glossary | term | definition | footnote _ |
      tableHead | tableRow | tableCell | emphasis | strong | strikethrough | table _ | metadata =>
    exact hasTags_start writer (fun _ _ => Element.noConfusion) noImage

/-- The tags with which an element ends. -/
theorem hasTags_write_stop (outside : writer.image = none) (element : Element) :
    HasTags (element.closed writer.inHead) (writer.write (Event.stop element).policed).2 := by
  have policed : (Event.stop element).policed = .stop element := rfl
  simp only [write, outside, policed]
  exact hasTags_stop writer element

/-- The tags of an event that neither begins nor ends anything are balanced. -/
theorem balanced_tagNames (inHead : Bool) {event : Event} (plain : event.isPlain = true) :
    Balanced (event.tagNames inHead) ∧ "img".toList ∉ event.tagNames inHead := by
  have pair (name : Text) (opening : isOpening name = true) : Balanced [name, '/' :: name] :=
    .element name opening .nil
  cases event with
  | start | stop => cases plain
  | code _ => exact ⟨pair "code".toList (by decide), by simp [Event.tagNames]⟩
  | math _ _ => exact ⟨pair "span".toList (by decide), by simp [Event.tagNames]⟩
  | footnoteReference _ =>
    exact ⟨.element "sup".toList (by decide) (pair "a".toList (by decide)),
      by simp [Event.tagNames]⟩
  | hardBreak | rule | task _ => exact ⟨.void (by decide), by simp [Event.tagNames]⟩
  | text _ | html _ | inlineHtml _ | softBreak => exact ⟨.nil, List.not_mem_nil⟩

theorem shows_write (outside : writer.image = none) {event : Event} (plain : event.isPlain = true) :
    ∃ names, Balanced names ∧ Shows names [] (writer.write event.policed).2 := by
  have noRaw : (∀ raw, event.policed ≠ .html raw) ∧ ∀ raw, event.policed ≠ .inlineHtml raw := by
    cases event with
    | start | stop => cases plain
    | text | code | math | html | inlineHtml | footnoteReference | softBreak | hardBreak | rule | task =>
      exact ⟨fun _ => Event.noConfusion, fun _ => Event.noConfusion⟩
  have plain := isPlain_policed plain
  have noStart (element : Element) : event.policed ≠ .start element := fun same => by
    rw [same] at plain
    cases plain
  have tags := hasTags_step writer (fun _ _ => noStart _) (fun _ => noStart _) noRaw.1 noRaw.2
  obtain ⟨balanced, noImage⟩ := balanced_tagNames writer.inHead plain
  simp only [write, outside]
  exact ⟨_, balanced, .of_hasTags tags noImage⟩

/-- Events are written between tags as balanced tags that show some images. -/
def Writes (writer : Writer) (events : List Event) (images : List (Target × List Inline)) : Prop :=
  (writer.behind events).image = none ∧
    ∃ names, Balanced names ∧ Shows names images (writer.text events)

namespace Writes

theorem nil (outside : writer.image = none) : Writes writer [] [] :=
  ⟨outside, [], .nil, [], .nil, rfl, .nil⟩

theorem append (one : Writes writer front images) (two : Writes (writer.behind front) back more) :
    Writes writer (front ++ back) (images ++ more) := by
  obtain ⟨-, _, balanced, shows⟩ := one
  obtain ⟨outside, _, balanced', shows'⟩ := two
  rw [Writes, behind_append, text_append]
  exact ⟨outside, _, balanced.append balanced', shows.append shows'⟩

/-- An event that neither begins nor ends anything. -/
theorem single (outside : writer.image = none) {event : Event} (plain : event.isPlain = true) :
    Writes writer [event] [] := by
  refine ⟨(image_write_of_isPlain plain).trans outside, ?_⟩
  rw [text, text, List.append_nil]
  exact shows_write outside plain

/-- An element around what is written in it. -/
theorem element (outside : writer.image = none) {element : Element}
    (noTable : ∀ alignments, element ≠ .table alignments) (noHead : element ≠ .tableHead)
    (noImage : ∀ target, element ≠ .image target)
    (inner : Writes (writer.write (Event.start element).policed).1 events images)
    (same : element.closed ((writer.write (Event.start element).policed).1.behind events).inHead =
      element.closed writer.inHead) : Writes writer (within element events) images := by
  obtain ⟨middle, names, balanced, shows⟩ := inner
  have opened := Shows.of_hasTags (hasTags_write_start outside noImage) (image_notMem_opened element _).1
  have closed := Shows.of_hasTags (hasTags_write_stop middle element) (image_notMem_opened element _).2
  rw [same] at closed
  refine ⟨?_, _, balanced.around writer.inHead noTable noHead, ?_⟩
  · rw [behind_within]
    exact image_write_stop_of_none element middle
  · have whole := opened.append (shows.append closed)
    rw [List.nil_append, List.append_nil] at whole
    rwa [text_within]

/-- An image with a description in which no link leaves the site. -/
theorem image (outside : writer.image = none) {description : List Inline}
    (stays : StaysOnSite (Inline.eventsOf description)) (target : Target) :
    Writes writer (within (.image target) (Inline.eventsOf description)) [(target, description)] := by
  obtain ⟨behind, text⟩ := write_image outside (Inline.nested_eventsOf description) stays target
  rw [Writes, behind, text]
  have void : Balanced ["img".toList] := .void (by decide)
  exact ⟨outside, _, void, _, isMarkup_imageHtml (Html.notMem_escapeAttr (Or.inl rfl) _) target, rfl,
    .cons ⟨_, rfl⟩ .nil⟩

/-- Pieces that do not depend on the writer one after the other. -/
theorem flatMap {α : Type} {pieces : List α} {events : α → List Event}
    {images : α → List (Target × List Inline)}
    (h : ∀ piece ∈ pieces, ∀ {writer : Writer}, writer.image = none →
      Writes writer (events piece) (images piece)) (outside : writer.image = none) :
    Writes writer (pieces.flatMap events) (pieces.flatMap images) := by
  induction pieces generalizing writer with
  | nil => exact nil outside
  | cons piece pieces ih =>
    have first := h piece (List.mem_cons_self ..) outside
    exact first.append (ih (fun _ mem => h _ (List.mem_cons_of_mem _ mem)) first.1)

end Writes

@[simp]
theorem inHead_footnote (writer : Writer) (label : Text) :
    (writer.footnote label).1.inHead = writer.inHead := by
  unfold footnote
  split <;> rfl

/-- Only the head of a table tells the writer that it is in one. -/
theorem inHead_step {event : Event} (noStart : event ≠ .start .tableHead) (noStop : event ≠ .stop .tableHead) :
    (writer.step event).1.inHead = writer.inHead := by
  cases event with
  | start element =>
    cases element with
    | tableHead => exact absurd rfl noStart
    | list first =>
      match first with
      | none | some 0 | some 1 | some (_ + 2) => rfl
    | footnote label => exact inHead_footnote writer label
    | paragraph | heading _ _ | quote _ | code _ | html | item | glossary | term | definition | table _ |
        tableRow | tableCell | emphasis | strong | strikethrough | link _ _ | image _ | metadata =>
      rfl
  | stop element =>
    cases element with
    | tableHead => exact absurd rfl noStop
    | list first => cases first <;> rfl
    | paragraph | heading _ _ | quote _ | code _ | html | item | glossary | term | definition | footnote _ |
        tableRow | tableCell | emphasis | strong | strikethrough | link _ _ | image _ | table _ | metadata =>
      rfl
  | text text =>
    unfold step
    dsimp only
    split <;> rfl
  | footnoteReference label => exact inHead_footnote writer label
  | task done => cases done <;> rfl
  | code _ | math _ _ | html _ | inlineHtml _ | softBreak | hardBreak | rule => rfl

theorem inHead_describe (target : Target) (depth : Nat) (event : Event) :
    (writer.describe target depth event).1.inHead = writer.inHead := by
  cases event with
  | stop element =>
    unfold describe
    dsimp only
    split <;> rfl
  | footnoteReference label => exact inHead_footnote writer label
  | task done => cases done <;> rfl
  | start _ | text _ | code _ | math _ _ | html _ | inlineHtml _ | softBreak | hardBreak | rule => rfl

theorem inHead_write {event : Event} (noStart : event ≠ .start .tableHead) (noStop : event ≠ .stop .tableHead) :
    (writer.write event.policed).1.inHead = writer.inHead := by
  unfold write
  split
  · unfold Event.policed
    split
    case h_1 target =>
      split
      · exact inHead_step (fun same => by cases same) (fun same => by cases same)
      · rfl
    case h_2 | h_3 => exact inHead_step Event.noConfusion Event.noConfusion
    case h_4 => exact inHead_step noStart noStop
  · exact inHead_describe _ _ _

theorem inHead_behind (noHead : NoHead events) :
    (writer.behind events).inHead = writer.inHead := by
  induction events generalizing writer with
  | nil => rfl
  | cons event events ih =>
    obtain ⟨noStart, noStop⟩ := noHead event (List.mem_cons_self ..)
    exact (ih fun _ mem => noHead _ (List.mem_cons_of_mem _ mem)).trans (inHead_write noStart noStop)

end Writer

theorem NoHead.element {element : Element} (other : element ≠ .tableHead) {events : List Event}
    (inner : NoHead events) : NoHead (within element events) := by
  intro event mem
  rcases List.mem_cons.mp mem with rfl | mem
  · simp [other]
  rcases List.mem_append.mp mem with mem | mem
  · exact inner event mem
  · rw [List.mem_singleton.mp mem]
    simp [other]

mutual

/-- There are no tables in inline elements. -/
theorem Inline.noHead : ∀ inline : Inline, NoHead inline.events
  | .text _ | .code _ | .html _ | .softBreak | .hardBreak | .footnoteReference _ => by
    simp [NoHead, Inline.events]
  | .emphasis content | .strong content | .strikethrough content =>
    .element Element.noConfusion (Inline.noHead_eventsOf content)
  | .link _ _ content | .image _ content => .element Element.noConfusion (Inline.noHead_eventsOf content)

theorem Inline.noHead_eventsOf : ∀ inlines : List Inline, NoHead (Inline.eventsOf inlines)
  | [] => by simp [NoHead, Inline.eventsOf]
  | inline :: inlines => by
    intro event mem
    rcases List.mem_append.mp mem with mem | mem
    · exact Inline.noHead inline event mem
    · exact Inline.noHead_eventsOf inlines event mem

end

/-! ## §4 Documents -/

section Documents

open Writer

mutual

/-- Inline elements are written as balanced tags that show the images in them. -/
theorem Inline.writes : ∀ (inline : Inline) {writer : Writer}, writer.image = none →
    KeepsInside inline.images → Writes writer inline.events inline.images
  | .text _, _, outside, _ | .code _, _, outside, _ | .html _, _, outside, _ | .softBreak, _, outside, _
  | .hardBreak, _, outside, _ | .footnoteReference _, _, outside, _ => .single outside rfl
  | .emphasis content, _, outside, keeps | .strong content, _, outside, keeps
  | .strikethrough content, _, outside, keeps | .link _ _ content, _, outside, keeps =>
    .element outside (fun _ => Element.noConfusion) Element.noConfusion (fun _ => Element.noConfusion)
      (Inline.writes_eventsOf content (image_write_start_of_none _ outside rfl) keeps) rfl
  | .image target _, _, outside, keeps => .image outside (keeps _ (List.mem_singleton_self _)) target

theorem Inline.writes_eventsOf : ∀ (inlines : List Inline) {writer : Writer}, writer.image = none →
    KeepsInside (Inline.imagesOf inlines) →
    Writes writer (Inline.eventsOf inlines) (Inline.imagesOf inlines)
  | [], _, outside, _ => .nil outside
  | inline :: inlines, _, outside, keeps => by
    have first := Inline.writes inline outside keeps.of_append.1
    exact first.append (Inline.writes_eventsOf inlines first.1 keeps.of_append.2)

end

variable {writer : Writer}

/-- A cell is closed by the name with which it was opened, since there are no tables in it. -/
theorem writes_cell (outside : writer.image = none) {cell : List Inline}
    (keeps : KeepsInside (Inline.imagesOf cell)) :
    Writes writer (within .tableCell (Inline.eventsOf cell)) (Inline.imagesOf cell) := by
  refine .element outside (fun _ => Element.noConfusion) Element.noConfusion (fun _ => Element.noConfusion)
    (Inline.writes_eventsOf cell (image_write_start_of_none _ outside rfl) keeps) ?_
  rw [inHead_behind (Inline.noHead_eventsOf cell), inHead_write (fun same => by cases same) Event.noConfusion]

theorem writes_cellEvents (outside : writer.image = none) {cells : List (List Inline)}
    (keeps : KeepsInside (cellImages cells)) : Writes writer (cellEvents cells) (cellImages cells) :=
  .flatMap (fun _ mem _ outside =>
    writes_cell outside fun image found => keeps image (List.mem_flatMap.mpr ⟨_, mem, found⟩)) outside

theorem writes_rows (outside : writer.image = none) {rows : List (List (List Inline))}
    (keeps : KeepsInside (rows.flatMap cellImages)) :
    Writes writer (rows.flatMap fun row => within .tableRow (cellEvents row)) (rows.flatMap cellImages) := by
  refine .flatMap (fun row mem writer outside => ?_) outside
  have keeps : KeepsInside (cellImages row) := fun image found =>
    keeps image (List.mem_flatMap.mpr ⟨row, mem, found⟩)
  exact .element outside (fun _ => Element.noConfusion) Element.noConfusion (fun _ => Element.noConfusion)
    (writes_cellEvents (image_write_start_of_none _ outside rfl) keeps) rfl

/-- A table is opened, its head opens its body, and its end closes both. -/
theorem writes_table (outside : writer.image = none) (alignments : List Alignment) {head : List (List Inline)}
    {rows : List (List (List Inline))} (keeps : KeepsInside (cellImages head ++ rows.flatMap cellImages)) :
    Writes writer
      (within (.table alignments)
        (within .tableHead (cellEvents head) ++ rows.flatMap fun row => within .tableRow (cellEvents row)))
      (cellImages head ++ rows.flatMap cellImages) := by
  have opened := image_write_start_of_none (.table alignments) outside rfl
  have begun := image_write_start_of_none .tableHead opened rfl
  obtain ⟨middle, _, one, cells⟩ := writes_cellEvents begun keeps.of_append.1
  have ended := image_write_stop_of_none .tableHead middle
  obtain ⟨last, _, two, body⟩ := writes_rows ended keeps.of_append.2
  refine ⟨?_, _, .table one two, ?_⟩
  · rw [behind_within, behind_append, behind_within]
    exact image_write_stop_of_none _ last
  · have first := Shows.of_hasTags (hasTags_write_start outside (fun _ => Element.noConfusion))
      (image_notMem_opened (.table alignments) _).1
    have second := Shows.of_hasTags (hasTags_write_start opened (fun _ => Element.noConfusion))
      (image_notMem_opened .tableHead _).1
    have third := Shows.of_hasTags (hasTags_write_stop middle .tableHead) (image_notMem_opened _ _).2
    have fourth := Shows.of_hasTags (hasTags_write_stop last (.table alignments)) (image_notMem_opened _ _).2
    have whole := first.append (((second.append (cells.append third)).append body).append fourth)
    rw [text_within, text_append, text_within, behind_append, behind_within]
    simpa [Element.opened, Element.closed] using whole

/-- A run of text may have the box of a task in front. -/
theorem writes_run (outside : writer.image = none) (box : Option Bool) {content : List Inline}
    (keeps : KeepsInside (Inline.imagesOf content)) :
    Writes writer (taskEvents box ++ Inline.eventsOf content) (Inline.imagesOf content) := by
  cases box with
  | none => exact Inline.writes_eventsOf content outside keeps
  | some done =>
    have first : Writes writer [.task done] [] := .single outside rfl
    exact first.append (Inline.writes_eventsOf content first.1 keeps)

mutual

/-- Blocks are written as balanced tags that show the images in them. -/
theorem Block.writes (tight : Bool) : ∀ (block : Block (List Inline)) {writer : Writer},
    writer.image = none → KeepsInside block.images → Writes writer (block.events tight) block.images
  | .paragraph box content, _, outside, keeps => by
    unfold Block.events
    split
    · exact writes_run outside box keeps
    · exact .element outside (fun _ => Element.noConfusion) Element.noConfusion (fun _ => Element.noConfusion)
        (writes_run (image_write_start_of_none _ outside rfl) box keeps) rfl
  | .task _, _, outside, _ | .rule, _, outside, _ => .single outside rfl
  | .heading _ box _, _, outside, keeps =>
    .element outside (fun _ => Element.noConfusion) Element.noConfusion (fun _ => Element.noConfusion)
      (writes_run (image_write_start_of_none _ outside rfl) box keeps) rfl
  | .code info body, _, outside, _ => by
    have begun := image_write_start_of_none (.code info) outside rfl
    have inner {writer : Writer} (outside : writer.image = none) :
        Writes writer (if body.isEmpty then [] else [.text body]) [] := by
      split
      · exact .nil outside
      · exact .single outside rfl
    exact .element outside (fun _ => Element.noConfusion) Element.noConfusion (fun _ => Element.noConfusion)
      (inner begun) rfl
  | .html _, _, outside, _ =>
    .element outside (fun _ => Element.noConfusion) Element.noConfusion (fun _ => Element.noConfusion)
      (.single (image_write_start_of_none _ outside rfl) rfl) rfl
  | .quote content, _, outside, keeps | .footnote _ content, _, outside, keeps =>
    .element outside (fun _ => Element.noConfusion) Element.noConfusion (fun _ => Element.noConfusion)
      (Block.writes_eventsOf false content (image_write_start_of_none _ outside rfl) keeps) rfl
  | .list none tight items, _, outside, keeps | .list (some _) tight items, _, outside, keeps =>
    .element outside (fun _ => Element.noConfusion) Element.noConfusion (fun _ => Element.noConfusion)
      (Block.writes_itemEvents tight items (image_write_start_of_none _ outside rfl) keeps) rfl
  | .table alignments _ _, _, outside, keeps => writes_table outside alignments keeps

theorem Block.writes_eventsOf (tight : Bool) : ∀ (blocks : List (Block (List Inline))) {writer : Writer},
    writer.image = none → KeepsInside (Block.imagesOf blocks) →
    Writes writer (Block.eventsOf tight blocks) (Block.imagesOf blocks)
  | [], _, outside, _ => .nil outside
  | block :: blocks, _, outside, keeps => by
    have first := Block.writes tight block outside keeps.of_append.1
    exact first.append (Block.writes_eventsOf tight blocks first.1 keeps.of_append.2)

theorem Block.writes_itemEvents (tight : Bool) : ∀ (items : List (List (Block (List Inline)))) {writer : Writer},
    writer.image = none → KeepsInside (Block.itemImages items) →
    Writes writer (Block.itemEvents tight items) (Block.itemImages items)
  | [], _, outside, _ => .nil outside
  | item :: items, _, outside, keeps => by
    have inner := Block.writes_eventsOf tight item (image_write_start_of_none .item outside rfl)
      keeps.of_append.1
    have first := Writes.element outside (fun _ => Element.noConfusion) Element.noConfusion
      (fun _ => Element.noConfusion) inner rfl
    exact first.append (Block.writes_itemEvents tight items first.1 keeps.of_append.2)

end

end Documents

/-- **An image with its description is one tag**, and all tags are balanced, unless a link that leaves the site
stands in a description.

Wherever an image stands in a document and not in the description of another, let no link in its description leave
the site. Then it is written as one tag, whose description is the plain text of what stands between the beginning
and the end of the image, escaped, with footnotes numbered as everywhere else; and in front of the tag and behind
it stands what is written for the events in front of the image and behind it, by a writer that knows nothing of the
description but the footnotes in it. The page is read accordingly.

If no link leaves the site from any description of a document, then the tags of images in the page show the images
of the document, one by one and in their order, and all opening and closing tags of the page are balanced. -/
theorem images_of_render (source : Text) :
    (∀ (before after : List Event) (target : Target) (description : List Inline),
      eventsOf source = before ++ (within (.image target) (Inline.eventsOf description) ++ after) →
      before.countP Event.beginsImage = before.countP Event.endsImage →
      StaysOnSite (Inline.eventsOf description) →
      let writer := Writer.behind {} before
      let plain := plainText writer.footnotes (Inline.eventsOf description)
      let rest := ({ writer with
        newline := false
        footnotes := metBehind writer.footnotes (Inline.eventsOf description) } : Writer).writeAll
          (after.map Event.policed)
      render source =
        Writer.text {} before ++ (Writer.imageHtml target (Html.escapeAttr plain) ++ rest) ∧
      Html.tags (render source) =
        Html.tags (Writer.text {} before) ++
          Writer.imageTag target (Html.escapeAttr plain) :: Html.tags rest ∧
      Html.unescape (Html.escapeAttr plain) = plain) ∧
    (KeepsInside (Block.imagesOf (readDocument source)) →
      List.Forall₂ ShowsImage (Block.imagesOf (readDocument source))
        ((Html.tags (render source)).filter isImage) ∧
      Balanced ((Html.tags (render source)).map (·.name))) := by
  constructor
  · intro before after target description split outermost stays writer plain rest
    have outside : writer.image = none :=
      (nested_eventsOf source).no_image_between rfl ⟨_, split.symm⟩ outermost
    obtain ⟨behind, text⟩ :=
      Writer.write_image outside (Inline.nested_eventsOf description) stays target
    have page : render source =
        Writer.text {} before ++ (Writer.imageHtml target (Html.escapeAttr plain) ++ rest) := by
      unfold render htmlOf
      rw [split, Writer.writeAll_append, Writer.writeAll_append, behind, text]
    have front : IsMarkup (Writer.text {} before) (Html.tags (Writer.text {} before)) := by
      have led := Writer.after_text {} before
      rw [Writer.place_of_no_image outside] at led
      exact ⟨Html.Reading.after_outside led, rfl⟩
    have image := Writer.isMarkup_imageHtml (Html.notMem_escapeAttr (Or.inl rfl) plain) target
    refine ⟨page, ?_, Html.unescape_escapeAttr plain⟩
    rw [page, front.tags_append, image.tags_append]
    rfl
  · intro keeps
    obtain ⟨-, names, balanced, found, read, rfl, shown⟩ :=
      @Block.writes_eventsOf false (readDocument source) {} rfl keeps
    have tags : Html.tags (render source) = found := by
      rw [render_eq_text]
      exact read.tags
    rw [tags]
    exact ⟨shown, balanced⟩

/-- An image in whose description stand emphasis, code and a link on the site. -/
def siteLinkInDescription : Text := "See ![a *b* `c` [d](/e)](/f.png \"g\").".toList

/-- Its description is one plain text. -/
theorem images_of_render_picture :
    eventsOf siteLinkInDescription =
      [.start .paragraph, .text "See ".toList] ++
        (within (.image ⟨"/f.png".toList, "g".toList⟩) (Inline.eventsOf
          [.text "a ".toList, .emphasis [.text "b".toList], .text " ".toList, .code "c".toList,
            .text " ".toList, .link .address ⟨"/e".toList, []⟩ [.text "d".toList]]) ++
          [.text ".".toList, .stop .paragraph]) ∧
    render siteLinkInDescription =
      "<p>See ".toList ++
        (Writer.imageHtml ⟨"/f.png".toList, "g".toList⟩ "a b c d".toList ++ ".</p>\n".toList) ∧
    Balanced ((Html.tags (render siteLinkInDescription)).map (·.name)) := by
  have split : eventsOf siteLinkInDescription =
      [.start .paragraph, .text "See ".toList] ++
        (within (.image ⟨"/f.png".toList, "g".toList⟩) (Inline.eventsOf
          [.text "a ".toList, .emphasis [.text "b".toList], .text " ".toList, .code "c".toList,
            .text " ".toList, .link .address ⟨"/e".toList, []⟩ [.text "d".toList]]) ++
          [.text ".".toList, .stop .paragraph]) := by decide +kernel
  obtain ⟨each, all⟩ := images_of_render siteLinkInDescription
  refine ⟨split, ?_, (all (by decide +kernel)).2⟩
  exact (each _ _ _ _ split (by decide) (by decide)).1

/-- An image in whose description a link leaves the site. -/
def leavingLinkInDescription : Text := "![see [site](https://e.com) now](/p.png)".toList

/-- An image in whose description two links leave the site inside emphasis. -/
def leavingLinksInEmphasis : Text := "![*[a](https://x.org) c [b](https://y.org)* d](/p.png)".toList

/-- **An image ends early** where a link in its description leaves the site: the description is cut off behind the
link and holds its tag, so it is not the plain text; and what was open there is closed behind the image, so the
tags are not balanced. -/
theorem image_ends_early :
    ¬ List.Forall₂ ShowsImage
      (Block.imagesOf (readDocument leavingLinkInDescription))
      ((Html.tags (render leavingLinkInDescription)).filter isImage) ∧
    ¬ Balanced ((Html.tags (render leavingLinksInEmphasis)).map (·.name)) := by
  constructor
  · intro shown
    have images : (Block.imagesOf (readDocument leavingLinkInDescription)).map
          (fun image => (image.1, Inline.eventsOf image.2)) =
        [(⟨"/p.png".toList, []⟩, [.text "see ".toList, .start (.link .address ⟨"https://e.com".toList, []⟩),
          .text "site".toList, .stop (.link .address ⟨"https://e.com".toList, []⟩), .text " now".toList])] := by
      decide +kernel
    have shown : List.Forall₂ (fun (image : Target × List Event) tag =>
        ∃ met, tag = Writer.imageTag image.1 (Html.escapeAttr (plainText met image.2)))
        ((Block.imagesOf (readDocument leavingLinkInDescription)).map
          fun image => (image.1, Inline.eventsOf image.2))
        ((Html.tags (render leavingLinkInDescription)).filter isImage) :=
      List.forall₂_map_left_iff.mpr shown
    have tags : (Html.tags (render leavingLinkInDescription)).filter isImage =
        [Writer.imageTag ⟨"/p.png".toList, []⟩ ("see ".toList ++ Html.escapeAttr
          (externalAnchor ⟨"https://e.com".toList, []⟩) ++ "site".toList)] := by decide +kernel
    rw [images, tags] at shown
    obtain _ | ⟨⟨met, same⟩, -⟩ := shown
    have plain : plainText met [.text "see ".toList, .start (.link .address ⟨"https://e.com".toList, []⟩),
        .text "site".toList, .stop (.link .address ⟨"https://e.com".toList, []⟩), .text " now".toList] =
        "see site now".toList := rfl
    rw [plain] at same
    revert same
    decide +kernel
  · intro balanced
    have counted := balanced.count "em".toList (by decide)
    revert counted
    decide +kernel

end DocSite.Markdown
