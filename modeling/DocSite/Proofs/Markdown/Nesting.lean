import DocSite.Proofs.Markdown.Payload

/-!
# Nesting

The events of a document are well nested: an element that begins ends again, behind all that begins and ends in it
(`nested_eventsOf`). The writer counts on that where it looks for the end of an image. Under the rules of the
site it may find it too early, since the beginning of a link that leaves the site is not counted and its end is,
but never too late (`Nested.recedes`). So no description is open where no image is (`Nested.no_image_between`), and
none behind the document: it leads a reader back between tags (`after_render`).
-/

namespace DocSite.Markdown

/-! ## §1 Well nested events -/

/-- The event neither begins nor ends an element. -/
def Event.isPlain : Event → Bool
  | .start _ => false
  | .stop _ => false
  | _ => true

/-- Events that are well nested. -/
inductive Nested : List Event → Prop
  | nil : Nested []
  | single {event : Event} (plain : event.isPlain = true) : Nested [event]
  | append {front back : List Event} (one : Nested front) (two : Nested back) : Nested (front ++ back)
  | element (element : Element) {events : List Event} (inner : Nested events) :
      Nested (within element events)

namespace Nested

/-- Well nested pieces one after the other. -/
theorem flatMap {α : Type} {events : α → List Event} {pieces : List α}
    (h : ∀ piece ∈ pieces, Nested (events piece)) : Nested (pieces.flatMap events) := by
  induction pieces with
  | nil => exact nil
  | cons piece pieces ih =>
    exact (h piece (List.mem_cons_self ..)).append (ih fun _ mem => h _ (List.mem_cons_of_mem _ mem))

end Nested

mutual

theorem Inline.nested : ∀ inline : Inline, Nested inline.events
  | .text _ | .code _ | .html _ | .softBreak | .hardBreak | .footnoteReference _ => .single rfl
  | .emphasis content | .strong content | .strikethrough content => .element _ (Inline.nested_eventsOf content)
  | .link _ _ content | .image _ content => .element _ (Inline.nested_eventsOf content)

theorem Inline.nested_eventsOf : ∀ inlines : List Inline, Nested (Inline.eventsOf inlines)
  | [] => .nil
  | inline :: inlines => (Inline.nested inline).append (Inline.nested_eventsOf inlines)

end

theorem nested_cellEvents (cells : List (List Inline)) : Nested (cellEvents cells) :=
  .flatMap fun cell _ => .element _ (Inline.nested_eventsOf cell)

theorem nested_taskEvents (task : Option Bool) : Nested (taskEvents task) := by
  cases task with
  | none => exact .nil
  | some done => exact .single rfl

mutual

theorem Block.nested (tight : Bool) : ∀ block : Block (List Inline), Nested (block.events tight)
  | .paragraph box content => by
    have whole := (nested_taskEvents box).append (Inline.nested_eventsOf content)
    unfold Block.events
    split
    · exact whole
    · exact .element _ whole
  | .task _ | .rule => .single rfl
  | .heading _ box content =>
    .element _ ((nested_taskEvents box).append (Inline.nested_eventsOf content))
  | .code info body => by
    unfold Block.events
    split
    · exact .element _ .nil
    · exact .element _ (.single rfl)
  | .html _ => .element _ (.single rfl)
  | .quote content | .footnote _ content => .element _ (Block.nested_eventsOf false content)
  | .list _ tight items => .element _ (Block.nested_itemEvents tight items)
  | .table _ head rows =>
    .element _ ((Nested.element _ (nested_cellEvents head)).append
      (.flatMap fun row _ => .element _ (nested_cellEvents row)))

theorem Block.nested_eventsOf (tight : Bool) :
    ∀ blocks : List (Block (List Inline)), Nested (Block.eventsOf tight blocks)
  | [] => .nil
  | block :: blocks => (Block.nested tight block).append (Block.nested_eventsOf tight blocks)

theorem Block.nested_itemEvents (tight : Bool) :
    ∀ items : List (List (Block (List Inline))), Nested (Block.itemEvents tight items)
  | [] => .nil
  | item :: items =>
    (Nested.element _ (Block.nested_eventsOf tight item)).append (Block.nested_itemEvents tight items)

end

/-- **The events of a document are well nested.** -/
theorem nested_eventsOf (text : Text) : Nested (eventsOf text) := Block.nested_eventsOf false _

/-! ## §2 Open images -/

/-- The event begins an image. -/
def Event.beginsImage : Event → Bool
  | .start (.image _) => true
  | _ => false

/-- The event ends an image. -/
def Event.endsImage : Event → Bool
  | .stop (.image _) => true
  | _ => false

theorem Event.beginsImage_eq_false_of_isPlain {event : Event} (plain : event.isPlain = true) :
    event.beginsImage = false ∧ event.endsImage = false := by
  cases event with
  | start | stop => cases plain
  | text | code | math | html | inlineHtml | footnoteReference | softBreak | hardBreak | rule | task =>
    exact ⟨rfl, rfl⟩

/-- An element begins an image if, and only if, it ends one. -/
theorem beginsImage_start (element : Element) :
    (Event.start element).beginsImage = (Event.stop element).endsImage ∧
    (Event.start element).endsImage = false ∧ (Event.stop element).beginsImage = false := by
  cases element <;> exact ⟨rfl, rfl, rfl⟩

namespace Nested

variable {events before : List Event}

/-- As many images end as begin. -/
theorem count_images (h : Nested events) :
    events.countP Event.endsImage = events.countP Event.beginsImage := by
  induction h with
  | nil => rfl
  | single plain =>
    obtain ⟨begins, ends⟩ := Event.beginsImage_eq_false_of_isPlain plain
    simp [begins, ends]
  | append _ _ one two => rw [List.countP_append, List.countP_append, one, two]
  | element element _ inner =>
    obtain ⟨same, ends, begins⟩ := beginsImage_start element
    simp [within, List.countP_cons, inner, same, ends, begins]

/-- A front part of events that follow each other is one of the first, or the first and one of the second. -/
theorem prefix_append_cases {front back : List Event} (h : before <+: front ++ back) :
    before <+: front ∨ ∃ rest, before = front ++ rest ∧ rest <+: back := by
  obtain ⟨behind, whole⟩ := h
  rcases List.append_eq_append_iff.mp whole with ⟨rest, rfl, rfl⟩ | ⟨rest, rfl, rfl⟩
  · exact Or.inl ⟨rest, rfl⟩
  · exact Or.inr ⟨rest, rfl, behind, rfl⟩

/-- A front part of an element is nothing, its beginning with a front part of what is in it, or all of it. -/
theorem prefix_within_cases {element : Element} (h : before <+: within element events) :
    before = [] ∨ (∃ inner, before = .start element :: inner ∧ inner <+: events) ∨
      before = within element events := by
  rcases List.prefix_cons_iff.mp h with rfl | ⟨inner, rfl, rest⟩
  · exact Or.inl rfl
  · rcases List.prefix_concat_iff.mp rest with rfl | rest
    · exact Or.inr (Or.inr rfl)
    · exact Or.inr (Or.inl ⟨inner, rfl, rest⟩)

/-- No more images end than have begun. -/
theorem count_images_le (h : Nested events) (part : before <+: events) :
    before.countP Event.endsImage ≤ before.countP Event.beginsImage := by
  induction h generalizing before with
  | nil =>
    rw [List.prefix_nil.mp part]
    exact Nat.le_refl 0
  | single plain =>
    rcases List.prefix_cons_iff.mp part with rfl | ⟨rest, rfl, nothing⟩
    · exact Nat.le_refl 0
    · rw [List.prefix_nil.mp nothing]
      exact Nat.le_of_eq (count_images (single plain))
  | append first _ one two =>
    rcases prefix_append_cases part with part | ⟨rest, rfl, shorter⟩
    · exact one part
    · rw [List.countP_append, List.countP_append, first.count_images]
      exact Nat.add_le_add_left (two shorter) _
  | element element inner ih =>
    rcases prefix_within_cases part with rfl | ⟨rest, rfl, shorter⟩ | rfl
    · exact Nat.le_refl 0
    · have below := ih shorter
      obtain ⟨-, ends, -⟩ := beginsImage_start element
      rw [List.countP_cons, List.countP_cons, ends]
      exact Nat.le_add_right_of_le below
    · exact Nat.le_of_eq (count_images (.element element inner))

end Nested

/-! ## §3 The writer and its descriptions -/

namespace Writer

variable {writer : Writer} {events before : List Event}

/-- The writer behind events that it writes under the rules of the site. -/
def behind (writer : Writer) : List Event → Writer
  | [] => writer
  | event :: events => (writer.write event.policed).1.behind events

/-- What events are written as under the rules of the site. -/
def text (writer : Writer) : List Event → Text
  | [] => []
  | event :: events => (writer.write event.policed).2 ++ (writer.write event.policed).1.text events

theorem behind_append (writer : Writer) (front back : List Event) :
    writer.behind (front ++ back) = (writer.behind front).behind back := by
  induction front generalizing writer with
  | nil => rfl
  | cons event front ih => exact ih _

theorem text_append (writer : Writer) (front back : List Event) :
    writer.text (front ++ back) = writer.text front ++ (writer.behind front).text back := by
  induction front generalizing writer with
  | nil => rfl
  | cons event front ih =>
    rw [List.cons_append, text, ih, text, List.append_assoc]
    rfl

theorem behind_within (writer : Writer) (element : Element) (events : List Event) :
    writer.behind (within element events) =
      (((writer.write (Event.start element).policed).1.behind events).write (Event.stop element).policed).1 := by
  rw [within, behind, behind_append]
  rfl

theorem text_within (writer : Writer) (element : Element) (events : List Event) :
    writer.text (within element events) = (writer.write (Event.start element).policed).2 ++
      ((writer.write (Event.start element).policed).1.text events ++
        (((writer.write (Event.start element).policed).1.behind events).write
          (Event.stop element).policed).2) := by
  rw [within, text, text_append, text, text, List.append_nil]

/-- Events are written one after the other. -/
theorem writeAll_append (writer : Writer) (front back : List Event) :
    writer.writeAll ((front ++ back).map Event.policed) =
      writer.text front ++ (writer.behind front).writeAll (back.map Event.policed) := by
  induction front generalizing writer with
  | nil => rfl
  | cons event front ih =>
    rw [List.cons_append, List.map_cons, writeAll]
    simp only [ih, text, List.append_assoc]
    rfl

/-- The image that is described now is the one that was, in which no more elements are open, or there is none. -/
def Recedes (before now : Option (Target × Nat)) : Prop :=
  ∀ target depth, now = some (target, depth) → ∃ deeper, before = some (target, deeper) ∧ depth ≤ deeper

theorem Recedes.refl (image : Option (Target × Nat)) : Recedes image image :=
  fun _ depth same => ⟨depth, same, Nat.le_refl depth⟩

theorem Recedes.trans {first second third : Option (Target × Nat)} (one : Recedes first second)
    (two : Recedes second third) : Recedes first third := fun target depth same => by
  obtain ⟨deeper, same, le⟩ := two target depth same
  obtain ⟨deepest, same, deeper⟩ := one target deeper same
  exact ⟨deepest, same, Nat.le_trans le deeper⟩

theorem Recedes.eq_none {now : Option (Target × Nat)} (h : Recedes none now) : now = none := by
  cases now with
  | none => rfl
  | some image =>
    obtain ⟨_, same, -⟩ := h image.1 image.2 rfl
    cases same

/-- Only the beginning of an image begins a description. -/
theorem image_step (outside : writer.image = none) {event : Event}
    (noImage : ∀ target, event ≠ .start (.image target)) : (writer.step event).1.image = none := by
  cases event with
  | start element =>
    cases element with
    | image target => exact absurd rfl (noImage target)
    | list first =>
      match first with
      | none | some 0 | some 1 | some (_ + 2) => exact outside
    | footnote label => exact (image_footnote writer label).trans outside
    | paragraph | heading _ _ | quote _ | code _ | html | item | glossary | term | definition | table _ |
        tableHead | tableRow | tableCell | emphasis | strong | strikethrough | link _ _ | metadata =>
      exact outside
  | stop element =>
    cases element with
    | list first => cases first <;> exact outside
    | paragraph | heading _ _ | quote _ | code _ | html | item | glossary | term | definition | footnote _ |
        tableHead | tableRow | tableCell | emphasis | strong | strikethrough | link _ _ | image _ | table _ |
        metadata =>
      exact outside
  | text text =>
    unfold step
    dsimp only
    split <;> exact outside
  | footnoteReference label => exact (image_footnote writer label).trans outside
  | task done => cases done <;> exact outside
  | code _ | math _ _ | html _ | inlineHtml _ | softBreak | hardBreak | rule => exact outside

/-- In a description, events that neither begin nor end anything leave the image as it is. -/
theorem image_describe (target : Target) (depth : Nat) {event : Event} (plain : event.isPlain = true) :
    (writer.describe target depth event).1.image = writer.image := by
  cases event with
  | start | stop => cases plain
  | footnoteReference label => exact image_footnote writer label
  | task done => cases done <;> rfl
  | text _ | code _ | math _ _ | html _ | inlineHtml _ | softBreak | hardBreak | rule => rfl

theorem isPlain_policed {event : Event} (plain : event.isPlain = true) : event.policed.isPlain = true := by
  cases event with
  | start | stop => cases plain
  | text | code | math | html | inlineHtml | footnoteReference | softBreak | hardBreak | rule | task => rfl

/-- Such events leave the image alone wherever they stand. -/
theorem image_write_of_isPlain {event : Event} (plain : event.isPlain = true) :
    (writer.write event.policed).1.image = writer.image := by
  have plain := isPlain_policed plain
  cases image : writer.image with
  | none =>
    simp only [write, image]
    refine image_step image fun target same => ?_
    rw [same] at plain
    cases plain
  | some described =>
    simp only [write, image]
    exact (image_describe _ _ plain).trans image

/-- Under the rules of the site, an element begins as before or, if it is a link that leaves the site, with a
tag that is raw HTML. -/
theorem policed_start (element : Element) :
    (Event.start element).policed = .start element ∨
      ∃ raw, (Event.start element).policed = .inlineHtml raw := by
  unfold Event.policed
  split
  case h_1 target same =>
    split
    · exact Or.inl same.symm
    · exact Or.inr ⟨_, rfl⟩
  case h_2 same | h_3 same => cases same
  case h_4 => exact Or.inl rfl

/-- An image that is open behind the beginning of an element has begun there, or one more element is open in it
now; the beginning of a link that leaves the site is not counted. -/
theorem image_write_start {element : Element} {target : Target} {depth : Nat}
    (now : (writer.write (Event.start element).policed).1.image = some (target, depth)) :
    (writer.image = none ∧ depth = 0) ∨
      ∃ before, writer.image = some (target, before) ∧ depth ≤ before + 1 := by
  cases image : writer.image with
  | none =>
    refine Or.inl ⟨rfl, ?_⟩
    simp only [write, image] at now
    by_cases begins : ∃ picture, (Event.start element).policed = .start (.image picture)
    · obtain ⟨picture, same⟩ := begins
      rw [same] at now
      cases now
      rfl
    · rw [image_step image fun picture same => begins ⟨picture, same⟩] at now
      cases now
  | some described =>
    refine Or.inr ⟨described.2, ?_⟩
    simp only [write, image] at now
    rcases policed_start element with same | ⟨raw, same⟩
    · rw [same] at now
      cases now
      exact ⟨rfl, Nat.le_refl _⟩
    · rw [same] at now
      have kept : writer.image = some (target, depth) := now
      rw [image] at kept
      cases kept
      exact ⟨rfl, Nat.le_succ _⟩

/-- An element that is no image begins none. -/
theorem image_write_start_of_none (element : Element) (outside : writer.image = none)
    (noImage : (Event.start element).beginsImage = false) :
    (writer.write (Event.start element).policed).1.image = none := by
  simp only [write, outside]
  refine image_step outside fun target same => ?_
  rcases policed_start element with unchanged | ⟨raw, raised⟩
  · rw [unchanged] at same
    rw [same] at noImage
    cases noImage
  · cases raised.symm.trans same

/-- The end of an element ends the image in which no element is open. -/
theorem image_write_stop (writer : Writer) (element : Element) {target : Target} {depth : Nat}
    (image : writer.image = some (target, depth)) :
    (writer.write (Event.stop element).policed).1.image =
      if depth = 0 then none else some (target, depth - 1) := by
  have policed : (Event.stop element).policed = .stop element := rfl
  rw [policed]
  simp only [write, image, describe]
  split <;> rfl

theorem image_write_stop_of_none (element : Element) (image : writer.image = none) :
    (writer.write (Event.stop element).policed).1.image = none := by
  have policed : (Event.stop element).policed = .stop element := rfl
  rw [policed]
  simp only [write, image]
  exact image_step image fun _ => Event.noConfusion

/-- What stands between the beginning and the end of an element does not matter if no image lasts longer for it. -/
theorem recedes_within {middle : Writer} {element : Element}
    (inner : Recedes (writer.write (Event.start element).policed).1.image middle.image) :
    Recedes writer.image (middle.write (Event.stop element).policed).1.image := by
  cases image : middle.image with
  | none =>
    rw [image_write_stop_of_none element image]
    rintro _ _ ⟨⟩
  | some described =>
    obtain ⟨picture, opened⟩ := described
    obtain ⟨deeper, begun, le⟩ := inner picture opened image
    rw [image_write_stop middle element image]
    split
    · rintro _ _ ⟨⟩
    · rintro _ _ ⟨⟩
      rcases image_write_start begun with ⟨-, rfl⟩ | ⟨before, same, deep⟩
      · omega
      · exact ⟨before, same, by omega⟩

end Writer

/-- **No description lasts too long**: behind well nested events, the image that was open is open, with no more
elements in it, or none is. -/
theorem Nested.recedes {events : List Event} (h : Nested events) (writer : Writer) :
    Writer.Recedes writer.image (writer.behind events).image := by
  induction h generalizing writer with
  | nil => exact .refl _
  | single plain =>
    rw [Writer.behind, Writer.behind, Writer.image_write_of_isPlain plain]
    exact .refl _
  | append _ _ one two =>
    rw [Writer.behind_append]
    exact (one writer).trans (two _)
  | element element _ ih =>
    rw [Writer.behind_within]
    exact Writer.recedes_within (ih _)

/-- **No description is open where no image is**: between events of which as many have ended images as have begun
them. -/
theorem Nested.no_image_between {events before : List Event} (h : Nested events) {writer : Writer}
    (outside : writer.image = none) (part : before <+: events)
    (ended : before.countP Event.beginsImage = before.countP Event.endsImage) :
    (writer.behind before).image = none := by
  -- The induction is on the nesting, for all front parts: in an image, one more has begun than ended.
  induction h generalizing writer before with
  | nil =>
    rw [List.prefix_nil.mp part]
    exact outside
  | single plain =>
    rcases List.prefix_cons_iff.mp part with rfl | ⟨rest, rfl, nothing⟩
    · exact outside
    · rw [List.prefix_nil.mp nothing]
      exact (Writer.image_write_of_isPlain plain).trans outside
  | append first _ one two =>
    rcases prefix_append_cases part with part | ⟨rest, rfl, shorter⟩
    · exact one outside part ended
    · have closed := first.recedes writer
      rw [outside] at closed
      rw [Writer.behind_append]
      rw [List.countP_append, List.countP_append, first.count_images] at ended
      exact two closed.eq_none shorter (Nat.add_left_cancel ended)
  | element element inner ih =>
    rcases prefix_within_cases part with rfl | ⟨rest, rfl, shorter⟩ | rfl
    · exact outside
    · have le := inner.count_images_le shorter
      obtain ⟨-, ends, -⟩ := beginsImage_start element
      rw [List.countP_cons, List.countP_cons, ends] at ended
      have none : (Event.start element).beginsImage = false := by
        cases begins : (Event.start element).beginsImage with
        | false => rfl
        | true =>
          simp [begins] at ended
          omega
      rw [Writer.behind]
      exact ih (Writer.image_write_start_of_none element outside none) shorter (by simpa [none] using ended)
    · have closed := (Nested.element element inner).recedes writer
      rw [outside] at closed
      exact closed.eq_none

/-! ## §4 Whole documents -/

/-- What is written leads a reader to the place of the writer. -/
theorem Writer.after_text (writer : Writer) (events : List Event) :
    writer.place.after (writer.text events) = (writer.behind events).place := by
  induction events generalizing writer with
  | nil => rfl
  | cons event events ih =>
    rw [Writer.text, Html.Place.after_append, Writer.after_write, ih]
    rfl

/-- Behind a document no image is open, so nothing is written but its events. -/
theorem render_eq_text (source : Text) : render source = Writer.text {} (eventsOf source) := by
  have closed := ((nested_eventsOf source).recedes {}).eq_none
  have whole := Writer.writeAll_append {} (eventsOf source) []
  rw [List.append_nil] at whole
  unfold render htmlOf
  rw [whole, List.map_nil, Writer.writeAll, closed]
  exact List.append_nil _

/-- **A document leads back between tags.** -/
theorem after_render (source : Text) : Html.Place.outside.after (render source) = .outside := by
  have closed := ((nested_eventsOf source).recedes {}).eq_none
  have led := Writer.after_text {} (eventsOf source)
  rw [Writer.place_of_no_image closed] at led
  rw [render_eq_text]
  exact led

end DocSite.Markdown
