import DocSite.Proofs.Markdown.Anchors

/-!
# Descriptions of images

The description of an image is shown as plain text in an attribute: what its text, code and raw HTML say,
without the tags of what is nested in it (`plainText`). If no link in a description leaves the site, the writer
finds the end of the image where it is. Then the image is written as one tag, whose attribute holds the plain
text, escaped, and behind the tag the writer goes on as if there had been no description but for the footnotes
that it met in it (`Writer.write_image`).
-/

namespace DocSite.Markdown

open Html (IsMarkup Leads Reading)

/-! ## §1 Plain text -/

/-- The labels of the footnotes that have been met, with one that is met now. -/
def meet (met : List Text) (label : Text) : List Text :=
  if met.contains label then met else met ++ [label]

/-- The labels of the footnotes that have been met behind an event in a description. -/
def Event.meets (met : List Text) : Event → List Text
  | .footnoteReference label => meet met label
  | _ => met

/-- What an event says as plain text. A footnote is shown by its number: its place among the footnotes that have
been met. -/
def Event.plain (met : List Text) : Event → Text
  | .start _ | .stop _ => []
  | .text content | .code content | .html content | .inlineHtml content => content
  | .math displayed content =>
    let mark := if displayed then "$$".toList else "$".toList
    mark ++ content ++ mark
  | .footnoteReference label => '[' :: (Text.ofNat ((meet met label).idxOf label + 1) ++ [']'])
  | .softBreak | .hardBreak | .rule => [' ']
  | .task true => "[x]".toList
  | .task false => "[ ]".toList

/-- The footnotes that have been met behind events. -/
def metBehind (met : List Text) (events : List Event) : List Text := events.foldl Event.meets met

/-- What events say as plain text. -/
def plainText : List Text → List Event → Text
  | _, [] => []
  | met, event :: events => event.plain met ++ plainText (event.meets met) events

variable (met : List Text)

theorem metBehind_append (front back : List Event) :
    metBehind met (front ++ back) = metBehind (metBehind met front) back := List.foldl_append

theorem plainText_append (front back : List Event) :
    plainText met (front ++ back) = plainText met front ++ plainText (metBehind met front) back := by
  induction front generalizing met with
  | nil => rfl
  | cons event front ih =>
    rw [List.cons_append, plainText, ih, plainText, List.append_assoc]
    rfl

theorem metBehind_within (element : Element) (events : List Event) :
    metBehind met (within element events) = metBehind met events := by
  rw [within, ← List.cons_append, metBehind_append]
  rfl

/-- The beginning and the end of an element say nothing. -/
theorem plainText_within (element : Element) (events : List Event) :
    plainText met (within element events) = plainText met events := by
  rw [within, plainText, plainText_append]
  simp [plainText, Event.plain, Event.meets]

/-! ## §2 Events in a description -/

/-- No link among the events leaves the site. -/
def StaysOnSite (events : List Event) : Prop := ∀ event ∈ events, ¬ event.LeavesSite

instance (events : List Event) : Decidable (StaysOnSite events) :=
  inferInstanceAs (Decidable (∀ event ∈ events, ¬ event.LeavesSite))

namespace StaysOnSite

variable {front back : List Event}

theorem of_append (h : StaysOnSite (front ++ back)) : StaysOnSite front ∧ StaysOnSite back :=
  ⟨fun _ mem => h _ (List.mem_append_left _ mem), fun _ mem => h _ (List.mem_append_right _ mem)⟩

theorem of_within {element : Element} {events : List Event} (h : StaysOnSite (within element events)) :
    ¬ (Event.start element).LeavesSite ∧ StaysOnSite events :=
  ⟨h _ (List.mem_cons_self ..), fun _ mem => h _ (List.mem_cons_of_mem _ (List.mem_append_left _ mem))⟩

end StaysOnSite

/-- An element that does not leave the site begins as before under the rules of the site. -/
theorem policed_of_stays {element : Element} (stays : ¬ (Event.start element).LeavesSite) :
    (Event.start element).policed = .start element := by
  unfold Event.policed
  split
  case h_1 target same =>
    rw [same] at stays
    rw [if_pos, same]
    by_contra leaves
    exact stays ⟨target, rfl, by simpa using leaves⟩
  case h_2 same | h_3 same => cases same
  case h_4 => rfl

namespace Writer

variable {writer : Writer} {target : Target} {depth : Nat} {events : List Event}

/-- The number of a footnote is its place among those that have been met. -/
theorem footnote_eq (writer : Writer) (label : Text) :
    writer.footnote label = ({ writer with footnotes := meet writer.footnotes label },
      Text.ofNat ((meet writer.footnotes label).idxOf label + 1)) := by
  have place := List.idxOf_eq_getD_idxOf? label writer.footnotes
  unfold footnote meet
  split
  case h_1 found same =>
    have mem : label ∈ writer.footnotes := by
      by_contra absent
      rw [List.idxOf?_eq_none_iff.mpr absent] at same
      cases same
    rw [same] at place
    rw [if_pos (List.contains_iff_mem.mpr mem), place]
    rfl
  case h_2 same =>
    have absent := List.idxOf?_eq_none_iff.mp same
    rw [if_neg (by simpa using absent), List.idxOf_append_of_notMem absent]
    simp

theorem escapeAttr_append (s t : Text) :
    Html.escapeAttr (s ++ t) = Html.escapeAttr s ++ Html.escapeAttr t := List.flatMap_append

/-- A number needs no escaping. -/
theorem escapeAttr_ofNat (n : Nat) : Html.escapeAttr (Text.ofNat n) = Text.ofNat n := by
  have kept : ∀ c ∈ Text.ofNat n, Html.attrChar c = [c] := fun c mem => by
    have digit : c.isDigit = true := Nat.isDigit_of_mem_toDigits (by decide) (by decide) mem
    unfold Html.attrChar Html.textChar
    split
    case h_1 | h_2 => exact absurd digit (by decide)
    case h_3 =>
      split
      case h_1 | h_2 | h_3 => exact absurd digit (by decide)
      case h_4 => rfl
  unfold Html.escapeAttr
  rw [List.flatMap_congr kept]
  simp

/-- An event in a description is written as its plain text, escaped. -/
theorem write_plain (inside : writer.image = some (target, depth)) {event : Event}
    (plain : event.isPlain = true) :
    ∃ newline, writer.write event.policed =
      ({ writer with newline, footnotes := event.meets writer.footnotes },
        Html.escapeAttr (event.plain writer.footnotes)) := by
  have written : writer.write event.policed = writer.describe target depth event.policed := by
    simp only [write, inside]
  rw [written]
  cases event with
  | start | stop => cases plain
  | text content | code content | html content | inlineHtml content => exact ⟨_, rfl⟩
  | footnoteReference label =>
    have shown (n : Nat) : Html.escapeAttr ('[' :: (Text.ofNat n ++ [']'])) = '[' :: Text.ofNat n ++ [']'] := by
      rw [← List.singleton_append, escapeAttr_append, escapeAttr_append, escapeAttr_ofNat]
      rfl
    simp only [Event.policed, describe, footnote_eq]
    exact ⟨_, Prod.ext rfl (shown _).symm⟩
  | math displayed content =>
    refine ⟨_, Prod.ext rfl ?_⟩
    cases displayed <;> simp only [Event.plain, escapeAttr_append] <;> rfl
  | softBreak | hardBreak | rule => exact ⟨_, rfl⟩
  | task done => cases done <;> exact ⟨_, rfl⟩

/-- **A description is written as its plain text**, escaped, and leaves the writer where it was, if no link in it
leaves the site. -/
theorem behind_description (nested : Nested events) (stays : StaysOnSite events)
    (inside : writer.image = some (target, depth)) :
    ∃ newline, writer.behind events =
        { writer with newline, footnotes := metBehind writer.footnotes events } ∧
      writer.text events = Html.escapeAttr (plainText writer.footnotes events) := by
  -- The induction is on the nesting, for all writers: inside an element, one more is open.
  induction nested generalizing writer depth with
  | nil => exact ⟨writer.newline, rfl, rfl⟩
  | single plain =>
    obtain ⟨newline, written⟩ := write_plain inside plain
    refine ⟨newline, ?_, ?_⟩
    · rw [behind, behind, written]
      rfl
    · simp [text, plainText, written]
  | append _ _ one two =>
    obtain ⟨middle, first, begun⟩ := one stays.of_append.1 inside
    obtain ⟨newline, second, ended⟩ :=
      @two { writer with newline := middle, footnotes := _ } depth stays.of_append.2 inside
    refine ⟨newline, ?_, ?_⟩
    · rw [behind_append, first, second, metBehind_append]
    · rw [text_append, first, begun, ended, plainText_append, escapeAttr_append]
  | element element _ ih =>
    obtain ⟨stays, inner⟩ := stays.of_within
    have begun : writer.write (Event.start element).policed =
        ({ writer with image := some (target, depth + 1) }, []) := by
      simp only [policed_of_stays stays, write, inside, describe]
    obtain ⟨newline, middle, read⟩ :=
      @ih { writer with image := some (target, depth + 1) } (depth + 1) inner rfl
    have ended (met : List Text) :
        ({ writer with newline, footnotes := met, image := some (target, depth + 1) } : Writer).write
          (Event.stop element).policed = ({ writer with newline, footnotes := met }, []) := by
      have policed : (Event.stop element).policed = .stop element := rfl
      simp [policed, write, describe, inside]
    refine ⟨newline, ?_, ?_⟩
    · rw [metBehind_within, behind_within, begun, middle, ended]
    · rw [plainText_within, text_within, begun, read, middle, ended]
      simp

/-- What an image is written as. -/
def imageHtml (target : Target) (alt : Text) : Text := imageStart target ++ (alt ++ imageEnd target)

/-- An image is read as one tag. -/
theorem isMarkup_imageHtml {alt : Text} (inert : '"' ∉ alt) (target : Target) :
    IsMarkup (imageHtml target alt) [imageTag target alt] := by
  obtain ⟨after, found⟩ := read_imageEnd target alt
  have described := (leads_imageStart target).append (leads_describing inert target [])
  rw [imageHtml, ← List.append_assoc]
  refine ⟨?_, ?_⟩
  · rw [Reading.after_append, described.after]
    exact after
  · rw [Html.tags, Html.tagsFrom_append, described.noTag, described.after]
    exact found

/-- What does not end with a line feed leaves a line unfinished. -/
theorem put_eq (writer : Writer) {text : Text} {last : Char} (ends : text.getLast? = some last)
    (other : last ≠ '\n') : writer.put text = ({ writer with newline := false }, text) := by
  have some : text.isEmpty = false := by
    cases text with
    | nil => cases ends
    | cons => rfl
  simp [put, some, ends, other]

theorem getLast?_imageStart (target : Target) : (imageStart target).getLast? = some '"' := by
  have last : "\" alt=\"".toList.getLast? = some '"' := rfl
  unfold imageStart
  rw [List.getLast?_append, last, Option.some_or]

theorem getLast?_imageEnd (target : Target) : (imageEnd target).getLast? = some '>' := by
  have last : " />".toList.getLast? = some '>' := rfl
  rw [imageEnd, List.getLast?_append, last, Option.some_or]

/-- **An image is one tag with its description**, if no link in the description leaves the site. -/
theorem write_image (outside : writer.image = none) (nested : Nested events) (stays : StaysOnSite events)
    (target : Target) :
    writer.behind (within (.image target) events) =
        { writer with newline := false, footnotes := metBehind writer.footnotes events } ∧
      writer.text (within (.image target) events) =
        imageHtml target (Html.escapeAttr (plainText writer.footnotes events)) := by
  have begun : writer.write (Event.start (.image target)).policed =
      ({ writer with newline := false, image := some (target, 0) }, imageStart target) := by
    have policed : (Event.start (.image target)).policed = .start (.image target) := rfl
    simp only [policed, write, outside, step]
    exact put_eq _ (getLast?_imageStart target) (by decide)
  obtain ⟨newline, middle, read⟩ := @behind_description
    { writer with newline := false, image := some (target, 0) } target 0 events nested stays rfl
  have ended (newline : Bool) (met : List Text) :
      ({ writer with newline, footnotes := met, image := some (target, 0) } : Writer).write
        (Event.stop (.image target)).policed =
        ({ writer with newline := false, footnotes := met }, imageEnd target) := by
    have policed : (Event.stop (.image target)).policed = .stop (.image target) := rfl
    have last := put_eq { writer with newline, footnotes := met } (getLast?_imageEnd target) (by decide)
    simp only [outside] at last
    simp only [policed, write, describe, if_pos, last, outside]
  constructor
  · rw [behind_within, begun, middle, ended]
  · rw [text_within, begun, read, middle, ended, imageHtml]

end Writer

end DocSite.Markdown
