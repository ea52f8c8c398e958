import DocSite.Content.Frontmatter
import DocSite.Proofs.Text.Inert
import Mathlib.Data.List.DropRight

/-!
# Frontmatter as it is found and as it is written

A page is cut into its lines. Which of them are delimiters says everything about its frontmatter: the block is
there exactly if the first line is a delimiter and one of the lines behind the second is
(`exists_blockEndsAt_iff`), and it ends at the first of those (`blockEndsAt_of_cutBlock?`). Nothing of the page is
lost between the two lines and the body.

In the other direction, a page that is written with a title and a description, whatever ends its lines, is cut
into the lines it was written with, and each field is found in its own line (`fieldValue?_writtenField`).
-/

namespace DocSite.Text

/-! ## §1 Lines -/

/-- A line feed stands nowhere in a line but at its end. -/
theorem feed_notMem_dropLast {text line : Text} (h : line ∈ fullLines text) : '\n' ∉ line.dropLast := by
  induction text generalizing line with
  | nil => cases h
  | cons c text ih =>
    rw [fullLines] at h
    split at h
    case isTrue =>
      rcases List.mem_cons.mp h with rfl | h
      · simp
      · exact ih h
    case isFalse other =>
      split at h
      case h_1 => simp [List.mem_singleton.mp h]
      case h_2 first rest cut =>
        -- The character joins the first line of the rest.
        rw [cut] at ih
        rcases List.mem_cons.mp h with rfl | h
        · have inside := ih (List.mem_cons_self ..)
          cases first with
          | nil => simp
          | cons d first => simp [List.dropLast_cons_cons, Ne.symm other, inside]
        · exact ih (List.mem_cons_of_mem first h)

/-- The first line ends at the first line feed. -/
theorem fullLines_append_feed {line : Text} (h : '\n' ∉ line) (rest : Text) :
    fullLines (line ++ '\n' :: rest) = (line ++ ['\n']) :: fullLines rest := by
  induction line with
  | nil => simp [fullLines]
  | cons c line ih =>
    rw [List.mem_cons, not_or] at h
    rw [List.cons_append, fullLines, if_neg (Ne.symm h.1), ih h.2]
    rfl

/-- What is dropped at an end is as many copies of the character as stand there. -/
theorem exists_eq_dropEndWhile_append (c : Char) (text : Text) :
    ∃ n, text = dropEndWhile (· = c) text ++ List.replicate n c := by
  have whole := List.rdropWhile_append_rtakeWhile (p := fun d => decide (d = c)) (l := text)
  refine ⟨_, whole.symm.trans (congrArg (dropEndWhile (· = c) text ++ ·) (List.eq_replicate_of_mem ?_))⟩
  intro d mem
  simpa using List.mem_rtakeWhile_imp mem

theorem dropEndWhile_append_replicate {c : Char} {text : Text} (h : text.getLast? ≠ some c) (n : Nat) :
    dropEndWhile (· = c) (text ++ List.replicate n c) = text := by
  rw [dropEndWhile, List.reverse_append, List.reverse_replicate,
    List.dropWhile_append_of_pos fun d mem => by simpa using List.eq_of_mem_replicate mem]
  rw [← List.head?_reverse] at h
  cases mirrored : text.reverse with
  | nil => exact (List.reverse_eq_nil_iff.mp mirrored).symm
  | cons d rest =>
    have other : d ≠ c := by simpa [mirrored] using h
    rw [List.dropWhile_cons, if_neg (by simpa using other), ← mirrored, List.reverse_reverse]

end DocSite.Text

namespace DocSite.Content

/-! ## §2 Delimiters -/

/-- A line that opens or ends a block: `---` with any number of carriage returns behind it, and a line feed unless
the page ends there. -/
def IsDelimiterLine (line : Text) : Prop :=
  ∃ n, line = "---".toList ++ List.replicate n '\r' ∨ line = "---".toList ++ List.replicate n '\r' ++ ['\n']

/-- A line counts as a delimiter if it is one. -/
theorem isDelimiter_iff {line : Text} (h : '\n' ∉ line.dropLast) :
    isDelimiter line = true ↔ IsDelimiterLine line := by
  rw [isDelimiter, decide_eq_true_eq]
  constructor
  · intro dashes
    obtain ⟨feeds, whole⟩ := Text.exists_eq_dropEndWhile_append '\n' line
    obtain ⟨returns, front⟩ := Text.exists_eq_dropEndWhile_append '\r' (Text.dropEndWhile (· = '\n') line)
    rw [dashes] at front
    rw [front] at whole
    refine ⟨returns, ?_⟩
    match feeds with
    | 0 => exact .inl (by simpa using whole)
    | 1 => exact .inr whole
    | feeds + 2 =>
      -- The first of two line feeds is not at the end.
      rw [whole, List.replicate_succ', ← List.append_assoc, List.dropLast_concat] at h
      exact absurd (by simp) h
  · have returns_end (n : Nat) : ("---".toList ++ List.replicate n '\r').getLast? ≠ some '\n' := by
      rw [List.getLast?_append, List.getLast?_replicate]
      split <;> simp
    have dashes (n feeds : Nat) : Text.dropEndWhile (· = '\r') (Text.dropEndWhile (· = '\n')
        ("---".toList ++ List.replicate n '\r' ++ List.replicate feeds '\n')) = "---".toList := by
      have dashes_end : "---".toList.getLast? ≠ some '\r' := by decide
      rw [Text.dropEndWhile_append_replicate (returns_end n), Text.dropEndWhile_append_replicate dashes_end]
    rintro ⟨returns, rfl | rfl⟩
    · simpa using dashes returns 0
    · exact dashes returns 1

/-- The line at a position is a delimiter. -/
def DelimiterAt (lines : List Text) (k : Nat) : Prop := ∃ line, lines[k]? = some line ∧ IsDelimiterLine line

/-- The block of a page ends at a line: the first line is a delimiter, and so is this line as the first one behind
the second line of the page. -/
structure BlockEndsAt (lines : List Text) (k : Nat) : Prop where
  opened : DelimiterAt lines 0
  behind : 2 ≤ k
  closed : DelimiterAt lines k
  first : ∀ j, 2 ≤ j → j < k → ¬ DelimiterAt lines j

/-! ## §3 The block of a page -/

theorem cutAtDelimiter?_eq_none_iff {lines : List Text} :
    cutAtDelimiter? lines = none ↔ ∀ line ∈ lines, isDelimiter line = false := by
  induction lines with
  | nil => simp [cutAtDelimiter?]
  | cons line lines ih =>
    cases delimiter : isDelimiter line <;> simp [cutAtDelimiter?, delimiter, ih]

theorem cutAtDelimiter?_eq_some {lines block body : List Text} (h : cutAtDelimiter? lines = some (block, body)) :
    ∃ closing, lines = block ++ closing :: body ∧ isDelimiter closing = true ∧
      ∀ line ∈ block, isDelimiter line = false := by
  induction lines generalizing block with
  | nil => cases h
  | cons line lines ih =>
    rw [cutAtDelimiter?] at h
    split at h
    case isTrue delimiter =>
      cases h
      exact ⟨line, rfl, delimiter, by simp⟩
    case isFalse other =>
      rw [Option.map_eq_some_iff] at h
      obtain ⟨⟨block, body⟩, found, same⟩ := h
      cases same
      obtain ⟨closing, whole, delimiter, none⟩ := ih found
      refine ⟨closing, by rw [whole, List.cons_append], delimiter, ?_⟩
      exact List.forall_mem_cons.mpr ⟨by simpa using other, none⟩

theorem cutBlock?_eq_some {lines block body : List Text} (h : cutBlock? lines = some (block, body)) :
    ∃ opening closing, lines = opening :: (block ++ closing :: body) ∧ block ≠ [] ∧ isDelimiter opening = true ∧
      isDelimiter closing = true ∧ ∀ line ∈ block.tail, isDelimiter line = false := by
  unfold cutBlock? at h
  split at h
  case h_2 => cases h
  case h_1 opening first lines =>
    split at h
    case isFalse => cases h
    case isTrue delimiter =>
      rw [Option.map_eq_some_iff] at h
      obtain ⟨⟨block, body⟩, found, same⟩ := h
      cases same
      obtain ⟨closing, whole, closes, none⟩ := cutAtDelimiter?_eq_some found
      exact ⟨opening, closing, by rw [whole, List.cons_append], by simp, delimiter, closes, none⟩

section Lines

variable {lines block body : List Text} (proper : ∀ line ∈ lines, '\n' ∉ line.dropLast)

include proper

theorem delimiterAt_iff {k : Nat} :
    DelimiterAt lines k ↔ ∃ line, lines[k]? = some line ∧ isDelimiter line = true :=
  exists_congr fun _ => and_congr_right fun here => (isDelimiter_iff (proper _ (List.mem_of_getElem? here))).symm

/-- A block that is cut off ends at the line behind it. -/
theorem blockEndsAt_of_cutBlock? (h : cutBlock? lines = some (block, body)) :
    BlockEndsAt lines (block.length + 1) := by
  obtain ⟨opening, closing, whole, filled, opens, closes, none⟩ := cutBlock?_eq_some h
  obtain ⟨first, block, rfl⟩ := List.exists_cons_of_ne_nil filled
  refine ⟨?_, by simp, ?_, ?_⟩
  · exact (delimiterAt_iff proper).mpr ⟨opening, by rw [whole]; rfl, opens⟩
  · exact (delimiterAt_iff proper).mpr ⟨closing, by rw [whole]; simp, closes⟩
  · -- A line in between is one of the block, and not its first.
    intro j behind before
    rw [delimiterAt_iff proper]
    rintro ⟨line, here, delimiter⟩
    obtain ⟨j, rfl⟩ := Nat.exists_eq_add_of_le' behind
    rw [whole, List.getElem?_cons_succ, List.cons_append, List.getElem?_cons_succ,
      List.getElem?_append_left (by simpa using before)] at here
    rw [none line (List.mem_of_getElem? here)] at delimiter
    cases delimiter

/-- Without a block that can be cut off, no block ends anywhere. -/
theorem not_delimiterAt_of_cutBlock?_eq_none (h : cutBlock? lines = none) (opened : DelimiterAt lines 0) (k : Nat)
    (behind : 2 ≤ k) : ¬ DelimiterAt lines k := by
  rw [delimiterAt_iff proper] at opened ⊢
  rintro ⟨line, here, delimiter⟩
  obtain ⟨opening, start, opens⟩ := opened
  obtain ⟨k, rfl⟩ := Nat.exists_eq_add_of_le' behind
  match lines, start, here with
  | _ :: first :: lines, rfl, here =>
    rw [cutBlock?, if_pos opens, Option.map_eq_none_iff, cutAtDelimiter?_eq_none_iff] at h
    rw [h line (List.mem_of_getElem? here)] at delimiter
    cases delimiter

end Lines

/-- A block ends at one line only. -/
theorem BlockEndsAt.eq {lines : List Text} {j k : Nat} (hj : BlockEndsAt lines j) (hk : BlockEndsAt lines k) :
    j = k := by
  rcases Nat.lt_trichotomy j k with before | same | behind
  · exact absurd hj.closed (hk.first j hj.behind before)
  · exact same
  · exact absurd hk.closed (hj.first k hk.behind behind)

/-- A block ends somewhere exactly if it begins and there is a delimiter behind the second line. -/
theorem exists_blockEndsAt_iff {lines : List Text} (proper : ∀ line ∈ lines, '\n' ∉ line.dropLast) :
    (∃ k, BlockEndsAt lines k) ↔ DelimiterAt lines 0 ∧ ∃ k, 2 ≤ k ∧ DelimiterAt lines k := by
  constructor
  · rintro ⟨k, h⟩
    exact ⟨h.opened, k, h.behind, h.closed⟩
  · rintro ⟨opened, k, behind, closed⟩
    cases cut : cutBlock? lines with
    | none => exact absurd closed (not_delimiterAt_of_cutBlock?_eq_none proper cut opened k behind)
    | some parts => exact ⟨_, blockEndsAt_of_cutBlock? proper cut⟩

namespace Frontmatter

variable {source : Text}

/-- The lines of a page are proper lines. -/
theorem proper_fullLines (source : Text) : ∀ line ∈ Text.fullLines source, '\n' ∉ line.dropLast :=
  fun _ mem => Text.feed_notMem_dropLast mem

/-- Nothing is lost of a page with a block. -/
theorem extract_of_blockEndsAt {k : Nat} (h : BlockEndsAt (Text.fullLines source) k) :
    ∃ opening closing, (Text.fullLines source)[0]? = some opening ∧ (Text.fullLines source)[k]? = some closing ∧
      source = opening ++ (((Text.fullLines source).take k).drop 1).flatten ++ closing ++ (extract source).2 := by
  cases cut : cutBlock? (Text.fullLines source) with
  | none =>
    exact absurd h.closed (not_delimiterAt_of_cutBlock?_eq_none (proper_fullLines source) cut h.opened k h.behind)
  | some parts =>
    obtain ⟨block, body⟩ := parts
    obtain rfl := h.eq (blockEndsAt_of_cutBlock? (proper_fullLines source) cut)
    obtain ⟨opening, closing, whole, -⟩ := cutBlock?_eq_some cut
    refine ⟨opening, closing, by rw [whole]; rfl, by rw [whole]; simp, ?_⟩
    have rest : (extract source).2 = body.flatten := by rw [extract, cut]
    conv_lhs => rw [← Text.flatten_fullLines source, whole]
    rw [rest, whole]
    simp

theorem extract_of_not_blockEndsAt (h : ¬ ∃ k, BlockEndsAt (Text.fullLines source) k) :
    extract source = ({}, source) := by
  cases cut : cutBlock? (Text.fullLines source) with
  | none => rw [extract, cut]
  | some parts => exact absurd ⟨_, blockEndsAt_of_cutBlock? (proper_fullLines source) cut⟩ h

/-- The body is not the whole page exactly if the page has a block. -/
theorem extract_snd_ne_iff : (extract source).2 ≠ source ↔ ∃ k, BlockEndsAt (Text.fullLines source) k := by
  constructor
  · intro less
    by_contra none
    exact less (by rw [extract_of_not_blockEndsAt none])
  · rintro ⟨k, h⟩ all
    obtain ⟨opening, closing, first, -, whole⟩ := extract_of_blockEndsAt h
    obtain ⟨line, here, n, delimiter⟩ := h.opened
    obtain rfl : opening = line := Option.some.inj (first.symm.trans here)
    -- The opening line takes room.
    have long : 3 ≤ opening.length := by
      rcases delimiter with same | same <;> simp [same]
    have sizes := congrArg List.length whole
    rw [all] at sizes
    simp only [List.length_append] at sizes
    omega

end Frontmatter

/-! ## §4 Writing -/

/-- What may end a line. -/
inductive LineEnd where
  | feed
  | returnFeed
  deriving DecidableEq, Repr

/-- The characters that end the line. -/
def LineEnd.text : LineEnd → Text
  | .feed => ['\n']
  | .returnFeed => ['\r', '\n']

/-- The line that gives a field its value, without the end of the line. -/
def writtenField (key value : Text) : Text := key ++ ": \"".toList ++ value ++ ['"']

/-- A page that says what its title and its description are. -/
def Frontmatter.written (matter : Frontmatter) (ends : Fin 4 → LineEnd) (body : Text) : Text :=
  "---".toList ++ ((ends 0).text ++ (writtenField "title".toList matter.title ++ ((ends 1).text ++
    (writtenField "description".toList matter.description ++ ((ends 2).text ++
      ("---".toList ++ ((ends 3).text ++ body)))))))

theorem fullLines_append_lineEnd {line : Text} (h : '\n' ∉ line) (ending : LineEnd) (rest : Text) :
    Text.fullLines (line ++ (ending.text ++ rest)) = (line ++ ending.text) :: Text.fullLines rest := by
  cases ending with
  | feed => exact Text.fullLines_append_feed h rest
  | returnFeed =>
    have single : '\n' ∉ line ++ ['\r'] := by simpa using h
    simpa [LineEnd.text] using Text.fullLines_append_feed single rest

theorem lineBody_append_lineEnd {c : Char} (other : c ≠ '\r') (line : Text) (ending : LineEnd) :
    Text.lineBody (line ++ [c] ++ ending.text) = line ++ [c] := by
  cases ending with
  | feed => simp [Text.lineBody, LineEnd.text, other]
  | returnFeed => simp [Text.lineBody, LineEnd.text]

theorem isDelimiterLine_lineEnd (ending : LineEnd) : IsDelimiterLine ("---".toList ++ ending.text) := by
  cases ending with
  | feed => exact ⟨0, .inr rfl⟩
  | returnFeed => exact ⟨1, .inr rfl⟩

section Field

variable {c : Char} {key value : Text}

theorem trimStart_writtenField (start : Text.isBlank c = false) :
    Text.trimStart (writtenField (c :: key) value) = writtenField (c :: key) value := by
  simp [Text.trimStart, writtenField, start]

/-- A field has the value that its line gives it. -/
theorem fieldValue?_writtenField (start : Text.isBlank c = false) (inside : '"' ∉ value) :
    fieldValue? (c :: key) (writtenField (c :: key) value) = if value.isEmpty then none else some value := by
  -- The value ends at the quote that was written behind it, for it has none itself.
  have quote : Text.cut? ['"'] (value ++ ['"']) = some (value, []) :=
    Text.cut?_of_inert (Text.inert_of_not_mem inside) []
  have afterKey : Text.after? (c :: key) (writtenField (c :: key) value) =
      some (": \"".toList ++ value ++ ['"']) := by
    rw [writtenField, List.append_assoc, List.append_assoc, Text.after?_append_self, ← List.append_assoc]
  have afterColon : Text.after? [':'] (": \"".toList ++ value ++ ['"']) = some (' ' :: '"' :: (value ++ ['"'])) :=
    rfl
  have opened : Text.after? ['"'] (Text.trimStart (' ' :: '"' :: (value ++ ['"']))) = some (value ++ ['"']) :=
    rfl
  rw [fieldValue?, trimStart_writtenField start, afterKey]
  simp only [Option.bind_eq_bind, Option.bind_some, afterColon, opened, quote]

/-- A line gives no value to a field with another name. -/
theorem fieldValue?_of_clash {other : Text} (start : Text.isBlank c = false)
    (clash : Text.clash other (c :: key) = true) : fieldValue? other (writtenField (c :: key) value) = none := by
  have none : Text.after? other (writtenField (c :: key) value) = none := by
    rw [writtenField, List.append_assoc, List.append_assoc]
    exact Text.after?_of_clash clash _
  rw [fieldValue?, trimStart_writtenField start, none]
  rfl

end Field

namespace Frontmatter

variable {matter : Frontmatter}

/-- A page is cut into the lines that it is written with. -/
theorem fullLines_written (ends : Fin 4 → LineEnd) (body : Text) (title : '\n' ∉ matter.title)
    (description : '\n' ∉ matter.description) :
    Text.fullLines (matter.written ends body) =
      ("---".toList ++ (ends 0).text) :: (writtenField "title".toList matter.title ++ (ends 1).text) ::
        (writtenField "description".toList matter.description ++ (ends 2).text) ::
          ("---".toList ++ (ends 3).text) :: Text.fullLines body := by
  have line {key value : Text} (name : '\n' ∉ key) (text : '\n' ∉ value) : '\n' ∉ writtenField key value := by
    simp [writtenField, name, text]
  rw [written, fullLines_append_lineEnd (by decide), fullLines_append_lineEnd (line (by decide) title),
    fullLines_append_lineEnd (line (by decide) description), fullLines_append_lineEnd (by decide)]

/-- The block of a page that is written holds the lines of its fields. -/
theorem cutBlock?_written (ends : Fin 4 → LineEnd) (body : Text) (title : '\n' ∉ matter.title)
    (description : '\n' ∉ matter.description) :
    cutBlock? (Text.fullLines (matter.written ends body)) =
      some ([writtenField "title".toList matter.title ++ (ends 1).text,
        writtenField "description".toList matter.description ++ (ends 2).text], Text.fullLines body) := by
  have proper := proper_fullLines (matter.written ends body)
  rw [fullLines_written ends body title description] at proper ⊢
  simp only [List.forall_mem_cons] at proper
  obtain ⟨first, -, third, fourth, -⟩ := proper
  have opens := (isDelimiter_iff first).mpr (isDelimiterLine_lineEnd _)
  have closes := (isDelimiter_iff fourth).mpr (isDelimiterLine_lineEnd _)
  have between : isDelimiter (writtenField "description".toList matter.description ++ (ends 2).text) = false := by
    refine Bool.eq_false_iff.mpr fun delimiter => ?_
    -- The line begins with the name of its field.
    obtain ⟨n, same | same⟩ := (isDelimiter_iff third).mp delimiter
    · cases List.head_eq_of_cons_eq same
    · cases List.head_eq_of_cons_eq same
  rw [cutBlock?, if_pos opens, cutAtDelimiter?, if_neg (by rw [between]; decide), cutAtDelimiter?, if_pos closes]
  rfl

/-- **A page is read as it was written.** -/
theorem extract_written (ends : Fin 4 → LineEnd) (body : Text)
    (title : '\n' ∉ matter.title ∧ '"' ∉ matter.title)
    (description : '\n' ∉ matter.description ∧ '"' ∉ matter.description) :
    extract (matter.written ends body) = (matter, body) := by
  have bodyOf (key value : Text) (ending : LineEnd) :
      Text.lineBody (writtenField key value ++ ending.text) = writtenField key value :=
    lineBody_append_lineEnd (by decide) _ ending
  have titleGiven : fieldValue? "title".toList (writtenField "title".toList matter.title) = _ :=
    fieldValue?_writtenField (by decide) title.2
  have titleOnly : fieldValue? "title".toList (writtenField "description".toList matter.description) = none :=
    fieldValue?_of_clash (by decide) (by decide)
  have descriptionGiven :
      fieldValue? "description".toList (writtenField "description".toList matter.description) = _ :=
    fieldValue?_writtenField (by decide) description.2
  have descriptionOnly : fieldValue? "description".toList (writtenField "title".toList matter.title) = none :=
    fieldValue?_of_clash (by decide) (by decide)
  rw [extract, cutBlock?_written ends body title.1 description.1]
  simp only [field, List.findSome?_cons, List.findSome?_nil, bodyOf, titleGiven, titleOnly, descriptionGiven,
    descriptionOnly, Text.flatten_fullLines]
  -- A field that is written empty has no value, which reads the same.
  obtain ⟨heading, summary⟩ := matter
  cases heading <;> cases summary <;> rfl

/-- **Frontmatter is recognised exactly, and nothing is lost.** The body is less than the page exactly if the first
line is a delimiter and a line behind the second one is. The page then is its first line, the lines of the block up
to the first such delimiter, that delimiter and the body; any other page is all body and has no fields. And a page
that is written with a title and a description, with any line ends and any body, is read as these. -/
theorem extract_exact :
    (∀ source : Text,
      ((extract source).2 ≠ source ↔
        DelimiterAt (Text.fullLines source) 0 ∧ ∃ k, 2 ≤ k ∧ DelimiterAt (Text.fullLines source) k) ∧
      (∀ k, BlockEndsAt (Text.fullLines source) k →
        ∃ opening closing, (Text.fullLines source)[0]? = some opening ∧
          (Text.fullLines source)[k]? = some closing ∧
          source =
            opening ++ (((Text.fullLines source).take k).drop 1).flatten ++ closing ++ (extract source).2) ∧
      (¬ (DelimiterAt (Text.fullLines source) 0 ∧ ∃ k, 2 ≤ k ∧ DelimiterAt (Text.fullLines source) k) →
        extract source = (⟨[], []⟩, source))) ∧
    ∀ (matter : Frontmatter) (ends : Fin 4 → LineEnd) (body : Text),
      '\n' ∉ matter.title ∧ '"' ∉ matter.title → '\n' ∉ matter.description ∧ '"' ∉ matter.description →
        extract (matter.written ends body) = (matter, body) := by
  refine ⟨fun source => ?_, fun matter ends body title description => extract_written ends body title description⟩
  rw [← exists_blockEndsAt_iff (proper_fullLines source)]
  exact ⟨extract_snd_ne_iff, fun k => extract_of_blockEndsAt, extract_of_not_blockEndsAt⟩

/-- A title that looks like a field, in a page whose body has a delimiter, and two delimiters that make no
block. -/
theorem extract_exact_pages :
    let matter : Frontmatter := ⟨"description: none".toList, []⟩
    let body : Text := "text\n---\n".toList
    let page := matter.written (fun i => if i = 1 then .feed else .returnFeed) body
    let bare : Text := "---\n---\ntext".toList
    BlockEndsAt (Text.fullLines page) 3 ∧
      ('\n' ∉ matter.title ∧ '"' ∉ matter.title) ∧ ('\n' ∉ matter.description ∧ '"' ∉ matter.description) ∧
      ¬ (DelimiterAt (Text.fullLines bare) 0 ∧ ∃ k, 2 ≤ k ∧ DelimiterAt (Text.fullLines bare) k) ∧
      (∃ opening closing, (Text.fullLines page)[0]? = some opening ∧ (Text.fullLines page)[3]? = some closing ∧
        page = opening ++ (((Text.fullLines page).take 3).drop 1).flatten ++ closing ++ (extract page).2) ∧
      extract page = (matter, body) ∧ extract bare = (⟨[], []⟩, bare) := by
  intro matter body page bare
  have ends : BlockEndsAt (Text.fullLines page) 3 :=
    blockEndsAt_of_cutBlock? (proper_fullLines page) (cutBlock?_written _ body (by decide) (by decide))
  have none : ¬ (DelimiterAt (Text.fullLines bare) 0 ∧ ∃ k, 2 ≤ k ∧ DelimiterAt (Text.fullLines bare) k) := by
    rw [← exists_blockEndsAt_iff (proper_fullLines bare), ← extract_snd_ne_iff]
    decide
  refine ⟨ends, by decide, by decide, none, ?_, ?_, ?_⟩
  · exact (extract_exact.1 page).2.1 3 ends
  · exact extract_exact.2 matter _ body (by decide) (by decide)
  · exact (extract_exact.1 bare).2.2 none

end Frontmatter

end DocSite.Content
