import DocSite.Proofs.Html.Reading
import DocSite.Proofs.Html.Runs

/-!
# Outlines of tags

The outline of a tag is the tag without the values of its attributes (`Tag.outline`). Which tags a text has, up to
their outlines, does not depend on the values that a reader has read before (`tagsFrom_congr`), and escaped text has
no tags and leaves the outline of the reader alone (`Reading.outline_after_escapeSafe`). So two pages have
the same tags up to their outlines if they differ only in text that is escaped.
-/

namespace DocSite.Html

/-! ## §1 Tags without values -/

namespace Tag

/-- The tag without the values of its attributes. -/
def outline (tag : Tag) : Tag := { tag with attributes := tag.attributes.map fun (key, _) => (key, []) }

@[simp]
theorem outline_outline (tag : Tag) : tag.outline.outline = tag.outline := by simp [outline]

/-- More attributes make no difference to the values of the others. -/
theorem outline_extend_outline (tag : Tag) (attributes : List (Text × Text)) :
    (tag.outline.extend attributes).outline = (tag.extend attributes).outline := by
  simp [outline, extend]

/-- The value of an attribute makes no difference. -/
theorem outline_extend_value (tag : Tag) (key value : Text) :
    (tag.extend [(key, value)]).outline = (tag.extend [(key, [])]).outline := by
  simp [outline, extend]

end Tag

/-! ## §2 Readers without values -/

namespace Reading

/-- What has been read, without the values. -/
def outline : Reading → Reading
  | outside => outside
  | name read => name read
  | inside tag word => inside tag.outline word
  | quoted tag key mark _ => quoted tag.outline key mark []

/-- Values that have been read make no difference to what a character does. -/
theorem outline_next (reading : Reading) (c : Char) :
    (reading.outline.next c).outline = (reading.next c).outline := by
  cases reading with
  | outside | name => rfl
  | inside tag word =>
    simp only [outline, next]
    split_ifs with greater quote ends
    · rfl
    · simp only [Tag.outline_outline]
    · simp only [Tag.outline_extend_outline]
    · simp only [Tag.outline_outline]
  | quoted tag key mark value =>
    simp only [outline, next]
    split_ifs with ends
    · simp only [Tag.outline_extend_outline, Tag.outline_extend_value tag key value]
    · simp only [Tag.outline_outline]

/-- Nor do they to the tag that ends with it. -/
theorem outline_read? (reading : Reading) (c : Char) :
    (reading.outline.read? c).map Tag.outline = (reading.read? c).map Tag.outline := by
  cases reading with
  | outside | name | quoted => rfl
  | inside tag word =>
    simp only [outline, read?]
    split_ifs with ends
    · simp only [Option.map_some, Tag.outline_extend_outline]
    · rfl

end Reading

/-! ## §3 Readers that differ in values -/

section

variable {one two : Reading}

/-- Readers whose values differ read on alike. -/
theorem Reading.outline_after_congr (same : one.outline = two.outline) (text : Text) :
    (one.after text).outline = (two.after text).outline := by
  induction text generalizing one two with
  | nil => exact same
  | cons c text ih =>
    refine ih ?_
    rw [← Reading.outline_next one, ← Reading.outline_next two, same]

/-- **Readers whose values differ find the same tags up to their outlines.** -/
theorem tagsFrom_congr (same : one.outline = two.outline) (text : Text) :
    (tagsFrom one text).map Tag.outline = (tagsFrom two text).map Tag.outline := by
  induction text generalizing one two with
  | nil => rfl
  | cons c text ih =>
    have here : (one.read? c).map Tag.outline = (two.read? c).map Tag.outline := by
      rw [← Reading.outline_read? one, ← Reading.outline_read? two, same]
    have behind := ih (Reading.outline_after_congr same [c])
    rw [tagsFrom, tagsFrom, List.map_append, List.map_append, ← Option.toList_map, ← Option.toList_map, here]
    exact congrArg _ behind

end

/-! ## §4 Escaped text -/

/-- Escaped text between tags or between double quotes has no tags, and it makes no difference to the outline of the
reader. -/
theorem Reading.outline_after_escapeSafe {reading : Reading} (safe : reading.place.IsSafe) (text : Text) :
    (reading.after (escapeSafe text)).outline = reading.outline ∧ tagsFrom reading (escapeSafe text) = [] := by
  cases reading with
  | outside =>
    obtain ⟨after, tags⟩ := IsMarkup.of_isEscaped (isEscaped_escapeSafe text)
    exact ⟨congrArg outline after, tags⟩
  | quoted tag key mark value =>
    obtain rfl : mark = '"' := by
      rcases safe with same | same
      · cases same
      · exact Place.quoted.inj same
    obtain ⟨after, noTag⟩ := leads_quoted (notMem_escapeSafe (Or.inl rfl) text) tag key value
    have same : (quoted tag key '"' (value ++ escapeSafe text)).outline = (quoted tag key '"' value).outline := rfl
    exact ⟨(congrArg outline after).trans same, noTag⟩
  | name | inside => rcases safe with same | same <;> cases same

end DocSite.Html
