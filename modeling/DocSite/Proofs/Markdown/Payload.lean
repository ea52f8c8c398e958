import DocSite.Proofs.Markdown.Pieces
import Mathlib.Data.List.Forall2

/-!
# Text of authors in HTML

Some events carry text of the author: prose, code and raw HTML. Under the rules of the site, what such an event
carries decides nothing but a piece of text in the HTML of the document, which is escaped there
(`htmlOf_of_alike`). So raw HTML never becomes markup, whatever events a reader hands over, also in the
description of an image and next to a link that leaves the site, whose tag goes the way that raw HTML used to go.
-/

namespace DocSite.Markdown

open Html (Place tagNamesFrom)

/-! ## §1 What events carry -/

/-- The prose that an event carries under the rules of the site, where raw HTML is prose. -/
def Event.prose? : Event → Option Text
  | .text content => some content
  | .html raw => some raw
  | .inlineHtml raw => some raw
  | _ => none

/-- Events that differ at most in the text of an author. -/
inductive Event.Alike : Event → Event → Prop
  | same (event : Event) : Alike event event
  | prose {event other : Event} {text changed : Text} (one : event.prose? = some text)
      (two : other.prose? = some changed) : Alike event other
  | code (text changed : Text) : Alike (.code text) (.code changed)

theorem Event.policed_of_prose? {event : Event} {text : Text} (h : event.prose? = some text) :
    event.policed = .text text := by
  cases event with
  | text | html | inlineHtml =>
    cases h
    rfl
  | start | stop | code | math | footnoteReference | softBreak | hardBreak | rule | task => cases h

/-! ## §2 How text is shown -/

/-- How the text of an author is shown. -/
inductive Showing where
  /-- As text between tags. -/
  | between
  /-- In the value of an attribute, as part of the description of an image. -/
  | value
  /-- Not at all, as metadata. -/
  | nowhere
  deriving DecidableEq, Repr

namespace Showing

/-- What prose is written as. -/
def prose : Showing → Text → Text
  | between, text => Html.escapeText text
  | value, text => Html.escapeAttr text
  | nowhere, _ => []

/-- What code is written as. Code is shown also in metadata. -/
def code : Showing → Text → Text
  | value, text => value.prose text
  | _, text => "<code>".toList ++ between.prose text ++ "</code>".toList

/-- The text of an author is escaped. -/
theorem isEscaped_prose (showing : Showing) (text : Text) : Html.IsEscaped (showing.prose text) := by
  cases showing with
  | between => exact Html.isEscaped_escapeText text
  | value => exact Html.isEscaped_escapeAttr text
  | nowhere => exact .nil

/-- Whoever reads the text of an author finds what the author wrote. -/
theorem unescape_prose {showing : Showing} (shown : showing ≠ nowhere) (text : Text) :
    Html.unescape (showing.prose text) = text := by
  cases showing with
  | between => exact Html.unescape_escapeText text
  | value => exact Html.unescape_escapeAttr text
  | nowhere => exact absurd rfl shown

end Showing

namespace Writer

variable {writer other : Writer}

/-- How the writer shows text. -/
def showing (writer : Writer) : Showing :=
  if writer.image.isSome then .value else if writer.hidden then .nowhere else .between

theorem showing_of_image {described : Target × Nat} (h : writer.image = some described) :
    writer.showing = .value := by
  simp [showing, h]

theorem write_text (writer : Writer) (text : Text) :
    (writer.write (.text text)).2 = writer.showing.prose text := by
  cases image : writer.image <;> cases hidden : writer.hidden <;>
    simp [write, showing, image, hidden, step, describe, putText, Showing.prose]

theorem write_code (writer : Writer) (text : Text) :
    (writer.write (.code text)).2 = writer.showing.code text := by
  cases image : writer.image <;> cases hidden : writer.hidden <;>
    simp [write, showing, image, hidden, step, describe, put, putText, Showing.prose, Showing.code]

/-- Prose leads nowhere from the place of the writer. -/
theorem skips_prose (writer : Writer) (text : Text) :
    Html.Skips writer.place (writer.showing.prose text) := by
  cases image : writer.image with
  | some described =>
    rw [place_of_image image, showing_of_image image]
    exact Html.skips_quoted (Html.notMem_escapeAttr (Or.inl rfl) text)
  | none =>
    rw [place_of_no_image image]
    exact Html.skips_of_isEscaped (writer.showing.isEscaped_prose text)

/-! ## §3 Writers at different lines -/

/-- Writers that agree on everything but whether a line has ended. -/
def Agrees (writer other : Writer) : Prop := ∃ newline, other = { writer with newline }

end Writer

/-- Texts that are equal but for a line feed in front of one of them. -/
def UpToLine (s t : Text) : Prop := s = t ∨ s = '\n' :: t ∨ t = '\n' :: s

namespace Writer

/-- Results of writing that agree. -/
def SameBut (result other : Writer × Text) : Prop :=
  Agrees result.1 other.1 ∧ UpToLine result.2 other.2

namespace Agrees

theorem refl (writer : Writer) : Agrees writer writer := ⟨writer.newline, rfl⟩

theorem symm (h : Agrees writer other) : Agrees other writer := by
  obtain ⟨newline, rfl⟩ := h
  exact ⟨writer.newline, rfl⟩

theorem trans {third : Writer} (h : Agrees writer other) (h' : Agrees other third) :
    Agrees writer third := by
  obtain ⟨newline, rfl⟩ := h
  obtain ⟨newline, rfl⟩ := h'
  exact ⟨newline, rfl⟩

theorem silent (h : Agrees writer other) : SameBut (writer, []) (other, []) := ⟨h, Or.inl rfl⟩

theorem put (h : Agrees writer other) (text : Text) : SameBut (writer.put text) (other.put text) := by
  obtain ⟨newline, rfl⟩ := h
  exact ⟨⟨_, rfl⟩, Or.inl rfl⟩

theorem putText (h : Agrees writer other) (text : Text) :
    SameBut (writer.putText text) (other.putText text) := by
  obtain ⟨newline, rfl⟩ := h
  exact ⟨⟨_, rfl⟩, Or.inl rfl⟩

theorem putLine (h : Agrees writer other) (text : Text) :
    SameBut (writer.putLine text) (other.putLine text) := by
  obtain ⟨newline, rfl⟩ := h
  refine ⟨⟨_, rfl⟩, ?_⟩
  -- The one writer may have to end a line first and the other not.
  cases here : writer.newline <;> cases newline <;> simp [Writer.putLine, Writer.put, UpToLine, here]

theorem footnote (h : Agrees writer other) (label : Text) :
    Agrees (writer.footnote label).1 (other.footnote label).1 ∧
      (writer.footnote label).2 = (other.footnote label).2 := by
  obtain ⟨newline, rfl⟩ := h
  unfold Writer.footnote
  dsimp only
  split <;> exact ⟨⟨_, rfl⟩, rfl⟩

theorem start (h : Agrees writer other) (element : Element) :
    SameBut (writer.start element) (other.start element) := by
  cases element with
  | paragraph | heading _ _ | quote _ | code _ | item | glossary | term | definition =>
    exact h.putLine _
  | html => exact h.silent
  | list first =>
    match first with
    | none | some 0 | some 1 | some (_ + 2) => exact h.putLine _
  | footnote label =>
    obtain ⟨met, number⟩ := h.footnote label
    unfold Writer.start
    dsimp only
    rw [number]
    exact met.putLine _
  | emphasis | strong | strikethrough | link _ _ => exact h.put _
  | table _ | tableHead | tableRow | tableCell | image _ =>
    obtain ⟨newline, rfl⟩ := h
    exact Agrees.put ⟨newline, rfl⟩ _
  | metadata =>
    obtain ⟨newline, rfl⟩ := h
    exact Agrees.silent ⟨newline, rfl⟩

theorem stop (h : Agrees writer other) (element : Element) :
    SameBut (writer.stop element) (other.stop element) := by
  cases element with
  | list first => cases first <;> exact h.put _
  | paragraph | heading _ _ | quote _ | code _ | item | glossary | term | definition => exact h.put _
  | footnote _ | table _ | tableRow | emphasis | strong | strikethrough | link _ _ => exact h.put _
  | html | image _ => exact h.silent
  | tableHead | tableCell =>
    obtain ⟨newline, rfl⟩ := h
    exact Agrees.put ⟨newline, rfl⟩ _
  | metadata =>
    obtain ⟨newline, rfl⟩ := h
    exact Agrees.silent ⟨newline, rfl⟩

theorem step (h : Agrees writer other) (event : Event) :
    SameBut (writer.step event) (other.step event) := by
  cases event with
  | start element => exact h.start element
  | stop element => exact h.stop element
  | text content =>
    have hidden : other.hidden = writer.hidden := by
      obtain ⟨newline, rfl⟩ := h
      rfl
    unfold Writer.step
    dsimp only
    rw [hidden]
    split
    · exact h.silent
    · exact h.putText _
  | footnoteReference label =>
    obtain ⟨met, number⟩ := h.footnote label
    unfold Writer.step
    dsimp only
    rw [number]
    exact met.put _
  | task done => cases done <;> exact h.put _
  | code _ | math _ _ | html _ | inlineHtml _ | softBreak | hardBreak => exact h.put _
  | rule => exact h.putLine _

theorem describe (h : Agrees writer other) (target : Target) (depth : Nat) (event : Event) :
    SameBut (writer.describe target depth event) (other.describe target depth event) := by
  cases event with
  | start element =>
    obtain ⟨newline, rfl⟩ := h
    exact Agrees.silent ⟨newline, rfl⟩
  | stop element =>
    unfold Writer.describe
    dsimp only
    split
    · obtain ⟨newline, rfl⟩ := h
      exact Agrees.put ⟨newline, rfl⟩ _
    · obtain ⟨newline, rfl⟩ := h
      exact Agrees.silent ⟨newline, rfl⟩
  | footnoteReference label =>
    obtain ⟨met, number⟩ := h.footnote label
    unfold Writer.describe
    dsimp only
    rw [number]
    exact met.put _
  | task done => cases done <;> exact h.put _
  | text _ | code _ | inlineHtml _ => exact h.putText _
  | math _ _ | softBreak | hardBreak | rule => exact h.put _
  | html _ => exact h.silent

theorem image (h : Agrees writer other) : other.image = writer.image := by
  obtain ⟨newline, rfl⟩ := h
  rfl

/-- **Writers that agree write the same**, but for where lines begin. -/
theorem write (h : Agrees writer other) (event : Event) :
    SameBut (writer.write event) (other.write event) := by
  unfold Writer.write
  rw [h.image]
  split
  · exact h.step event
  · exact h.describe _ _ event

/-- Prose leaves nothing behind in the writer but whether a line has ended. -/
theorem write_text (writer : Writer) (text : Text) : Agrees writer (writer.write (.text text)).1 := by
  unfold Writer.write
  split
  · unfold Writer.step
    dsimp only
    split
    · exact refl writer
    · exact ⟨_, rfl⟩
  · exact ⟨_, rfl⟩

/-- Neither does code. -/
theorem write_code (writer : Writer) (text : Text) : Agrees writer (writer.write (.code text)).1 := by
  unfold Writer.write
  split
  · exact ⟨_, rfl⟩
  · exact ⟨_, rfl⟩

theorem place (h : Agrees writer other) : other.place = writer.place := by
  rw [Writer.place, h.image, Writer.place]

theorem showing (h : Agrees writer other) : other.showing = writer.showing := by
  obtain ⟨newline, rfl⟩ := h
  rfl

end Agrees

end Writer

/-! ## §4 Documents that differ in text -/

/-- Events that are alike, with what they are written as: text of an author in the same way, and everything
else as the same, but for where lines begin. -/
inductive WrittenAlike : Event × Text → Event × Text → Prop
  | prose {event other : Event} {text changed : Text} (showing : Showing)
      (one : event.prose? = some text) (two : other.prose? = some changed) :
      WrittenAlike (event, showing.prose text) (other, showing.prose changed)
  | code (showing : Showing) (text changed : Text) :
      WrittenAlike (.code text, showing.code text) (.code changed, showing.code changed)
  | same (event : Event) {written other : Text} (noProse : event.prose? = none)
      (noCode : ∀ text, event ≠ .code text) (lines : UpToLine written other) :
      WrittenAlike (event, written) (event, other)

/-- Events that are alike carry prose, or code, or are the same. -/
theorem Event.Alike.cases {event other : Event} (h : event.Alike other) :
    (∃ text changed, event.prose? = some text ∧ other.prose? = some changed) ∨
    (∃ text changed, event = .code text ∧ other = .code changed) ∨
    (event = other ∧ event.prose? = none ∧ ∀ text, event ≠ .code text) := by
  cases h with
  | prose one two => exact Or.inl ⟨_, _, one, two⟩
  | code text changed => exact Or.inr (Or.inl ⟨text, changed, rfl, rfl⟩)
  | same =>
    cases event with
    | text content | html content | inlineHtml content => exact Or.inl ⟨content, content, rfl, rfl⟩
    | code content => exact Or.inr (Or.inl ⟨content, content, rfl, rfl⟩)
    | start | stop | math | footnoteReference | softBreak | hardBreak | rule | task =>
      exact Or.inr (Or.inr ⟨rfl, rfl, fun _ => Event.noConfusion⟩)

namespace Writer

variable {writer other : Writer}

/-- A line feed in front makes no difference to the names of tags. -/
theorem tagNamesFrom_of_upToLine {s t : Text} (h : UpToLine s t) :
    tagNamesFrom writer.place s = tagNamesFrom writer.place t := by
  have feed (text : Text) : tagNamesFrom writer.place ('\n' :: text) = tagNamesFrom writer.place text := by
    unfold place
    split <;> rfl
  rcases h with rfl | rfl | rfl
  · rfl
  · exact feed t
  · exact (feed s).symm

/-- Code is written with the same tags, whatever it says. -/
theorem tagNamesFrom_code (writer : Writer) (text changed : Text) :
    tagNamesFrom writer.place (writer.showing.code text) =
      tagNamesFrom writer.place (writer.showing.code changed) := by
  cases image : writer.image with
  | some described =>
    -- In the description of an image, code is prose.
    have skipped (text : Text) := (writer.skips_prose text).names
    rw [showing_of_image image] at skipped ⊢
    exact (skipped text).trans (skipped changed).symm
  | none =>
    have opened : Place.outside.after "<code>".toList = .outside := by decide
    have named (text : Text) : tagNamesFrom .outside (writer.showing.code text) =
        ["code".toList, "/code".toList] := by
      have shown : writer.showing.code text =
          "<code>".toList ++ (Showing.between.prose text ++ "</code>".toList) := by
        cases hidden : writer.hidden <;> simp [showing, image, hidden, Showing.code]
      have skipped := Html.skips_of_isEscaped (Showing.between.isEscaped_prose text)
      rw [shown, Html.tagNamesFrom_append, opened, skipped.tagNamesFrom_append]
      decide
    rw [place_of_no_image image, named, named]

/-- **One event.** Writers that agree write events that are alike in the same way, with the same tags, and they
agree again behind them. -/
theorem write_of_alike (agrees : Agrees writer other) {event changed : Event}
    (alike : event.Alike changed) :
    Agrees (writer.write event.policed).1 (other.write changed.policed).1 ∧
    WrittenAlike (event, (writer.write event.policed).2) (changed, (other.write changed.policed).2) ∧
    tagNamesFrom writer.place (writer.write event.policed).2 =
      tagNamesFrom writer.place (other.write changed.policed).2 := by
  rcases alike.cases with ⟨text, new, one, two⟩ | ⟨text, new, rfl, rfl⟩ | ⟨rfl, noProse, noCode⟩
  · rw [Event.policed_of_prose? one, Event.policed_of_prose? two, write_text, write_text,
      agrees.showing]
    -- Text changes nothing in a writer but whether a line has ended, so both go on agreeing.
    refine ⟨((Agrees.write_text _ _).symm.trans agrees).trans (Agrees.write_text _ _),
      .prose _ one two, ?_⟩
    rw [(writer.skips_prose text).names, (writer.skips_prose new).names]
  · have same (text : Text) : (Event.code text).policed = .code text := rfl
    rw [same, same, write_code, write_code, agrees.showing]
    exact ⟨((Agrees.write_code _ _).symm.trans agrees).trans (Agrees.write_code _ _),
      .code _ _ _, writer.tagNamesFrom_code text new⟩
  · obtain ⟨again, lines⟩ := agrees.write event.policed
    exact ⟨again, .same event noProse noCode lines, tagNamesFrom_of_upToLine lines⟩

/-- Each event with what it is written as under the rules of the site. -/
def written : Writer → List Event → List (Event × Text)
  | _, [] => []
  | writer, event :: events =>
    let (next, text) := writer.write event.policed
    (event, text) :: next.written events

/-- What is written behind the last event. -/
def ending : Writer → List Event → Text
  | writer, [] => (writer.image.map fun (target, _) => imageEnd target).getD []
  | writer, event :: events => (writer.write event.policed).1.ending events

theorem map_fst_written (writer : Writer) (events : List Event) :
    (writer.written events).map (·.1) = events := by
  induction events generalizing writer with
  | nil => rfl
  | cons event events ih => exact congrArg (event :: ·) (ih _)

/-- The HTML is made of what the events are written as. -/
theorem writeAll_policed (writer : Writer) (events : List Event) :
    writer.writeAll (events.map Event.policed) =
      (writer.written events).flatMap (·.2) ++ writer.ending events := by
  induction events generalizing writer with
  | nil => rfl
  | cons event events ih =>
    simp only [List.map_cons, writeAll, written, ending, List.flatMap_cons, List.append_assoc]
    exact congrArg (_ ++ ·) (ih _)

/-- **All events.** Sequences of events that are alike are written in the same way, with the same tags. -/
theorem written_of_alike (agrees : Agrees writer other) {events others : List Event}
    (alike : List.Forall₂ Event.Alike events others) :
    List.Forall₂ WrittenAlike (writer.written events) (other.written others) ∧
    writer.ending events = other.ending others ∧
    tagNamesFrom writer.place (writer.writeAll (events.map Event.policed)) =
      tagNamesFrom writer.place (other.writeAll (others.map Event.policed)) := by
  -- The induction is on the events, for all writers: behind each event there are two others that agree.
  induction alike generalizing writer other with
  | nil =>
    have ending : writer.ending [] = other.ending [] := by
      rw [Writer.ending, Writer.ending, agrees.image]
    exact ⟨.nil, ending, congrArg (tagNamesFrom _) ending⟩
  | @cons event changed events others head _ ih =>
    obtain ⟨again, alike, tags⟩ := write_of_alike agrees head
    obtain ⟨rest, ending, behind⟩ := ih again
    refine ⟨.cons alike rest, ending, ?_⟩
    -- Both sides lead to the place of their writers, from where the rest is read.
    have here := writer.after_write event
    have there := other.after_write changed
    rw [agrees.place] at there
    simp only [List.map_cons, writeAll, Html.tagNamesFrom_append]
    rw [here, there, tags, again.place, behind]

end Writer

/-- **The text of an author never becomes markup.** Let two sequences of events be alike: they differ at most in
what prose, code and raw HTML say, and in which prose is raw HTML. Then their HTML under the rules of the site, as
`render` writes it, has the same tags. It is made of what the events are written as, one after the other, and of
the same ending; and each event is written as its counterpart is. What an author wrote is written in the same way
on both sides, between tags, in the description of an image or, as metadata, not at all, and all else is the same
on both sides, but for where lines begin. However the text of an author is shown, no bracket of a tag is left in
it, every ampersand begins a reference, and its reader finds what the author wrote. -/
theorem htmlOf_of_alike {events others : List Event} (alike : List.Forall₂ Event.Alike events others) :
    Html.tagNames (htmlOf (events.map Event.policed)) =
      Html.tagNames (htmlOf (others.map Event.policed)) ∧
    (Writer.written {} events).map (·.1) = events ∧
    (Writer.written {} others).map (·.1) = others ∧
    (∃ ending,
      htmlOf (events.map Event.policed) = (Writer.written {} events).flatMap (·.2) ++ ending ∧
      htmlOf (others.map Event.policed) = (Writer.written {} others).flatMap (·.2) ++ ending) ∧
    List.Forall₂ WrittenAlike (Writer.written {} events) (Writer.written {} others) ∧
    ∀ (showing : Showing) (text : Text),
      Html.IsEscaped (showing.prose text) ∧
      (showing ≠ .nowhere → Html.unescape (showing.prose text) = text) := by
  obtain ⟨written, ending, tags⟩ := Writer.written_of_alike (.refl {}) alike
  refine ⟨tags, Writer.map_fst_written {} events, Writer.map_fst_written {} others,
    ⟨_, Writer.writeAll_policed {} events, ?_⟩, written, fun showing text =>
      ⟨showing.isEscaped_prose text, fun shown => Showing.unescape_prose shown text⟩⟩
  rw [ending]
  exact Writer.writeAll_policed {} others

/-- A paragraph with a link that leaves the site and an image, around some text of an author. -/
def paragraphOf (around : Text → Event) (first second third : Text) : List Event :=
  let site : Target := ⟨"https://a.example/".toList, []⟩
  let picture : Target := ⟨"p.png".toList, []⟩
  [.start .paragraph, .start (.link .address site), around first, .stop (.link .address site),
    .start (.image picture), around second, .code third, .stop (.image picture), .stop .paragraph]

/-- Raw HTML that would leave a link and the description of an image makes no tag. -/
theorem htmlOf_of_alike_paragraph :
    List.Forall₂ Event.Alike
      (paragraphOf .inlineHtml "</a><script>".toList "\"><script>".toList "</code>".toList)
      (paragraphOf .text "a".toList "b".toList "c".toList) ∧
    Html.tagNames (htmlOf
        ((paragraphOf .inlineHtml "</a><script>".toList "\"><script>".toList "</code>".toList).map
          Event.policed)) =
      ["p".toList, "a".toList, "/a".toList, "img".toList, "/p".toList] := by
  have alike : List.Forall₂ Event.Alike
      (paragraphOf .inlineHtml "</a><script>".toList "\"><script>".toList "</code>".toList)
      (paragraphOf .text "a".toList "b".toList "c".toList) :=
    .cons (.same _) <| .cons (.same _) <| .cons (.prose rfl rfl) <| .cons (.same _) <|
      .cons (.same _) <| .cons (.prose rfl rfl) <| .cons (.code _ _) <| .cons (.same _) <|
      .cons (.same _) .nil
  refine ⟨alike, ?_⟩
  rw [(htmlOf_of_alike alike).1]
  decide +kernel

end DocSite.Markdown
