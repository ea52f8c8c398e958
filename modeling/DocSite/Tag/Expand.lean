import DocSite.Tag.Card

/-!
# Block elements as Markdown

A card group becomes a bullet list of its cards; notes and warnings become block quotes with a bold
label. One round replaces card groups, then notes, then warnings; `expand` repeats rounds until one
changes nothing. A round that replaces anything makes the text shorter
(`utf8Length_expandRound_lt`), which is what ends the loop.
-/

namespace DocSite.Tag

/-! ## §1 Rounds -/

/-- The tag around a group of cards. -/
def Kind.cardGroup : Kind := ⟨"CardGroup".toList, .attributes⟩

/-- The tag of a note. -/
def Kind.note : Kind := ⟨"Note".toList, .bare⟩

/-- The tag of a warning. -/
def Kind.warning : Kind := ⟨"Warning".toList, .bare⟩

/-- A card group as a bullet list. -/
def renderGroup (group : Element) : Text :=
  Text.join ['\n'] ((cards group.inner).map Card.toMarkdown)

/-- A note or a warning as a block quote that begins with a bold label. -/
def renderCallout (label : Text) (callout : Element) : Text :=
  "> **".toList ++ label ++ ":** ".toList ++ Text.trim callout.inner

/-- The text with lists in place of its card groups. -/
def expandGroups (text : Text) : Text := replaceElements .cardGroup renderGroup text

/-- The text with block quotes in place of its notes. -/
def expandNotes (text : Text) : Text :=
  replaceElements .note (renderCallout "Note".toList) text

/-- The text with block quotes in place of its warnings. -/
def expandWarnings (text : Text) : Text :=
  replaceElements .warning (renderCallout "Warning".toList) text

/-- One round of replacement. -/
def expandRound (text : Text) : Text := expandWarnings (expandNotes (expandGroups text))

/-- Whether a round finds anything to replace: an element of the text itself, or one that a replacement
made earlier in the round has put together. -/
def roundReplaces (text : Text) : Bool :=
  (findElement? .cardGroup text).isSome || (findElement? .note (expandGroups text)).isSome ||
    (findElement? .warning (expandNotes (expandGroups text))).isSome

/-! ## §2 Sizes -/

theorem utf8Length_renderGroup_lt (group : Element) :
    (renderGroup group).utf8Length < (group.written .cardGroup).utf8Length := by
  have le : (renderGroup group).utf8Length ≤ group.inner.utf8Length :=
    utf8Length_cards_le group.inner
  rw [Element.utf8Length_written]
  omega

theorem utf8Length_renderCallout (label : Text) (callout : Element) :
    (renderCallout label callout).utf8Length ≤ callout.inner.utf8Length + label.utf8Length + 8 := by
  have le := Text.utf8Length_le_of_sublist (Text.trim_sublist callout.inner)
  unfold renderCallout
  simp only [Text.utf8Length_append]
  rw [show Text.utf8Length "> **".toList = 4 from rfl,
    show Text.utf8Length ":** ".toList = 4 from rfl]
  omega

/-- The frame of a note has one byte more than that of its block quote. -/
theorem utf8Length_renderNote_lt (note : Element) :
    (renderCallout "Note".toList note).utf8Length < (note.written .note).utf8Length := by
  have le := utf8Length_renderCallout "Note".toList note
  rw [show Text.utf8Length "Note".toList = 4 from rfl] at le
  rw [Element.utf8Length_written, show Text.utf8Length Kind.note.name = 4 from rfl]
  omega

theorem utf8Length_renderWarning_lt (warning : Element) :
    (renderCallout "Warning".toList warning).utf8Length <
      (warning.written .warning).utf8Length := by
  have le := utf8Length_renderCallout "Warning".toList warning
  rw [show Text.utf8Length "Warning".toList = 7 from rfl] at le
  rw [Element.utf8Length_written, show Text.utf8Length Kind.warning.name = 7 from rfl]
  omega

theorem expandRound_of_not_roundReplaces {text : Text} (h : roundReplaces text = false) :
    expandRound text = text := by
  simp only [roundReplaces, Bool.or_eq_false_iff, Option.isSome_eq_false_iff,
    Option.isNone_iff_eq_none] at h
  obtain ⟨⟨group, note⟩, warning⟩ := h
  have groups : expandGroups text = text := replaceElements_of_none group _
  rw [groups] at note warning
  have notes : expandNotes text = text := replaceElements_of_none note _
  rw [notes] at warning
  have warnings : expandWarnings text = text := replaceElements_of_none warning _
  rw [expandRound, groups, notes, warnings]

/-- A round that replaces anything makes the text shorter. -/
theorem utf8Length_expandRound_lt {text : Text} (h : roundReplaces text = true) :
    (expandRound text).utf8Length < text.utf8Length := by
  have groups : (expandGroups text).utf8Length ≤ text.utf8Length :=
    utf8Length_replaceElements_le utf8Length_renderGroup_lt text
  have notes : (expandNotes (expandGroups text)).utf8Length ≤ (expandGroups text).utf8Length :=
    utf8Length_replaceElements_le utf8Length_renderNote_lt _
  have warnings : (expandRound text).utf8Length ≤ (expandNotes (expandGroups text)).utf8Length :=
    utf8Length_replaceElements_le utf8Length_renderWarning_lt _
  simp only [roundReplaces, Bool.or_eq_true] at h
  rcases h with (group | note) | warning
  · have less : (expandGroups text).utf8Length < text.utf8Length :=
      utf8Length_replaceElements_lt utf8Length_renderGroup_lt group
    omega
  · have less : (expandNotes (expandGroups text)).utf8Length < (expandGroups text).utf8Length :=
      utf8Length_replaceElements_lt utf8Length_renderNote_lt note
    omega
  · have less : (expandRound text).utf8Length < (expandNotes (expandGroups text)).utf8Length :=
      utf8Length_replaceElements_lt utf8Length_renderWarning_lt warning
    omega

/-- Only a round that replaces something changes a text. -/
theorem roundReplaces_iff {text : Text} : roundReplaces text = true ↔ expandRound text ≠ text := by
  constructor
  · intro h same
    have less := utf8Length_expandRound_lt h
    rw [same] at less
    exact Nat.lt_irrefl _ less
  · intro h
    rw [← Bool.not_eq_false]
    exact fun none => h (expandRound_of_not_roundReplaces none)

/-! ## §3 All rounds -/

/-- The text after rounds up to one that changes nothing. -/
def settle (text : Text) : Text :=
  let next := expandRound text
  if next = text then text else settle next
termination_by text.utf8Length
decreasing_by exact utf8Length_expandRound_lt (roundReplaces_iff.2 ‹_›)

/-- The text with Markdown in place of all its block elements. -/
def expand (text : Text) : Text := settle (expandRound text)

end DocSite.Tag
