import DocSite.Blog.Block
import DocSite.Proofs.Text.Search
import Mathlib.Data.List.Infix

/-!
# Blocks as they are written

Every block can be written as a text without blank lines: a heading behind its marks, code between two fence
lines, a list with a numbered or a bullet line for each item, and any other text as it is. Such texts, with a
blank line between neighbours, are segmented into the blocks that were written (`segment_write`).

There are two steps to it. The text of a block is *unbroken*: it holds no blank line and ends in no line feed,
so that the first blank line behind it is the separator (`Block.unbroken_write`). And a block is told by how its
text begins, and what is told apart there is undone exactly once (`Block.ofText_write`).
-/

namespace DocSite.Blog

/-! ## §1 Unbroken texts -/

/-- The text between two blocks. -/
def blankLine : Text := "\n\n".toList

/-- No blank line is in the text, and none begins at its end. -/
structure Unbroken (text : Text) : Prop where
  inside : ¬ blankLine <:+: text
  stop : text.getLast? ≠ some '\n'

instance (text : Text) : Decidable (Unbroken text) :=
  decidable_of_iff (¬ blankLine <:+: text ∧ text.getLast? ≠ some '\n')
    ⟨fun h => ⟨h.1, h.2⟩, fun h => ⟨h.1, h.2⟩⟩

section Unbroken

variable {c : Char} {s text : Text}

theorem blankLine_prefix_cons_iff :
    blankLine <+: c :: text ↔ c = '\n' ∧ text.head? = some '\n' := by
  cases text with
  | nil => simp [blankLine, List.prefix_cons_iff]
  | cons d text =>
    show ['\n', '\n'] <+: c :: d :: text ↔ _
    simp [List.cons_prefix_cons, eq_comm]

/-- In an unbroken text, every line feed has something else behind it. -/
theorem unbroken_cons_iff :
    Unbroken (c :: text) ↔ (c = '\n' → text ≠ [] ∧ text.head? ≠ some '\n') ∧ Unbroken text := by
  constructor
  · rintro ⟨inside, stop⟩
    rw [List.infix_cons_iff, not_or, blankLine_prefix_cons_iff] at inside
    refine ⟨fun feed => ⟨?_, fun again => inside.1 ⟨feed, again⟩⟩, inside.2, ?_⟩
    · rintro rfl
      exact stop (by rw [feed]; rfl)
    · intro last
      exact stop (by rw [List.getLast?_cons, last]; rfl)
  · rintro ⟨feed, inside, stop⟩
    refine ⟨?_, ?_⟩
    · rw [List.infix_cons_iff, not_or, blankLine_prefix_cons_iff]
      exact ⟨fun both => (feed both.1).2 both.2, inside⟩
    · cases text with
      | nil => simpa using fun same => (feed same).1 rfl
      | cons d text => simpa [List.getLast?_cons_cons] using stop

/-- A single line is unbroken. -/
theorem unbroken_of_notMem (h : '\n' ∉ text) : Unbroken text := by
  induction text with
  | nil => exact ⟨by decide, by simp⟩
  | cons c text ih =>
    rw [List.mem_cons, not_or] at h
    exact unbroken_cons_iff.mpr ⟨fun feed => absurd feed.symm h.1, ih h.2⟩

/-- A single line may stand in front of an unbroken text. -/
theorem Unbroken.append (line : '\n' ∉ s) (h : Unbroken text) : Unbroken (s ++ text) := by
  induction s with
  | nil => exact h
  | cons c s ih =>
    rw [List.mem_cons, not_or] at line
    exact unbroken_cons_iff.mpr ⟨fun feed => absurd feed.symm line.1, ih line.2⟩

/-- A line feed may stand between two unbroken texts if the second one begins in its line. -/
theorem Unbroken.append_feed (hs : Unbroken s) (h : Unbroken text) (filled : text ≠ [])
    (start : text.head? ≠ some '\n') : Unbroken (s ++ '\n' :: text) := by
  induction s with
  | nil => exact unbroken_cons_iff.mpr ⟨fun _ => ⟨filled, start⟩, h⟩
  | cons c s ih =>
    obtain ⟨feed, rest⟩ := unbroken_cons_iff.mp hs
    refine unbroken_cons_iff.mpr ⟨fun same => ⟨by simp, ?_⟩, ih rest⟩
    obtain ⟨d, s, rfl⟩ := List.exists_cons_of_ne_nil (feed same).1
    exact (feed same).2

/-- Behind an unbroken text, the first blank line begins at its end. -/
theorem Unbroken.first (h : Unbroken text) : ¬ blankLine <:+: text ++ blankLine.dropLast := by
  induction text with
  | nil => decide
  | cons c text ih =>
    obtain ⟨feed, rest⟩ := unbroken_cons_iff.mp h
    rw [List.cons_append, List.infix_cons_iff, not_or, blankLine_prefix_cons_iff]
    refine ⟨?_, ih rest⟩
    rintro ⟨same, again⟩
    obtain ⟨d, s, rfl⟩ := List.exists_cons_of_ne_nil (feed same).1
    exact (feed same).2 again

/-- Lines that are not empty make up an unbroken text. -/
theorem unbroken_join {lines : List Text} (h : ∀ line ∈ lines, line ≠ [] ∧ '\n' ∉ line) :
    Unbroken (Text.join ['\n'] lines) ∧ (Text.join ['\n'] lines).head? ≠ some '\n' := by
  have start (line rest : Text) (filled : line ≠ []) (single : '\n' ∉ line) :
      (line ++ rest).head? ≠ some '\n' := by
    obtain ⟨d, line, rfl⟩ := List.exists_cons_of_ne_nil filled
    simpa using fun same : d = '\n' => single (same ▸ List.mem_cons_self ..)
  fun_induction Text.join ['\n'] lines with
  | case1 => exact ⟨unbroken_of_notMem (by simp), by simp⟩
  | case2 line =>
    obtain ⟨filled, single⟩ := h line (List.mem_singleton_self line)
    exact ⟨unbroken_of_notMem single, by simpa using start line [] filled single⟩
  | case3 line lines more ih =>
    obtain ⟨filled, single⟩ := h line (List.mem_cons_self ..)
    obtain ⟨rest, begins⟩ := ih fun other mem => h other (List.mem_cons_of_mem line mem)
    rw [List.append_assoc]
    refine ⟨(unbroken_of_notMem single).append_feed rest ?_ begins, start line _ filled single⟩
    -- The next line is not empty.
    obtain ⟨next, lines, rfl⟩ := List.exists_cons_of_ne_nil more
    have some := (h next (by simp)).1
    cases lines with
    | nil => exact some
    | cons other lines => simp [Text.join, some]

end Unbroken

/-! ## §2 Writing -/

/-- The lines of code between the lines of its fence; empty code has none. -/
def codeLines (code : Text) : List Text := if code.isEmpty then [] else Text.splitOn ['\n'] code

/-- A block as it is written. The line that opens the fence of code may have any text behind the fence. -/
def Block.write (info : Text) : Block → Text
  | .heading2 text => "## ".toList ++ text
  | .heading3 text => "### ".toList ++ text
  | .code body => Text.join ['\n'] (("```".toList ++ info) :: (codeLines body ++ ["```".toList]))
  | .list true items =>
    Text.join ['\n'] (items.mapIdx fun i item => Text.ofNat (i + 1) ++ ". ".toList ++ item)
  | .list false items => Text.join ['\n'] (items.map fun item => "- ".toList ++ item)
  | .paragraph text => text

/-- What a text must not begin with in order to be a paragraph. -/
def blockMarks : List Text :=
  ["## ".toList, "### ".toList, "```".toList, "1. ".toList, "- ".toList]

/-- Whether a block can be written: it has no blank line and ends in no line feed, a list has items of one line
each, and a paragraph begins like no other block. -/
def Block.Writable : Block → Prop
  | .heading2 text => Unbroken text
  | .heading3 text => Unbroken text
  | .code body => Unbroken body ∧ body.head? ≠ some '\n'
  | .list _ items => items ≠ [] ∧ ∀ item ∈ items, '\n' ∉ item
  | .paragraph text => Unbroken text ∧ ∀ mark ∈ blockMarks, ¬ mark <+: text

instance : (block : Block) → Decidable block.Writable
  | .heading2 text => inferInstanceAs (Decidable (Unbroken text))
  | .heading3 text => inferInstanceAs (Decidable (Unbroken text))
  | .code code => inferInstanceAs (Decidable (Unbroken code ∧ code.head? ≠ some '\n'))
  | .list _ items => inferInstanceAs (Decidable (items ≠ [] ∧ ∀ item ∈ items, '\n' ∉ item))
  | .paragraph text => inferInstanceAs (Decidable (Unbroken text ∧ ∀ mark ∈ blockMarks, ¬ mark <+: text))

/-! ## §3 Code -/

/-- The lines of code with a line feed behind each are the code with one more line feed. -/
theorem flatMap_splitOn_feed (code : Text) :
    (Text.splitOn ['\n'] code).flatMap (· ++ ['\n']) = code ++ ['\n'] := by
  rw [← Text.join_splitOn '\n' (code ++ ['\n']), Text.splitOn_append_singleton, Text.join_concat, List.append_nil]

theorem write_code (info : Text) {code : Text} (filled : code ≠ []) :
    (Block.code code).write info = ("```".toList ++ info) ++ '\n' :: (code ++ '\n' :: "```".toList) := by
  rw [Block.write, codeLines, if_neg (by simpa using filled), ← List.cons_append, Text.join_concat,
    List.flatMap_cons, flatMap_splitOn_feed]
  simp

theorem write_code_nil (info : Text) :
    (Block.code []).write info = ("```".toList ++ info) ++ '\n' :: "```".toList := by
  simp [Block.write, codeLines, Text.join]

theorem fence_notMem {info : Text} (line : '\n' ∉ info) : '\n' ∉ "```".toList ++ info := by
  simpa using line

/-- Between the lines of its fence stands the code. -/
theorem innerLines_write {info : Text} (line : '\n' ∉ info) (code : Text) :
    innerLines ((Block.code code).write info) = code := by
  have first (rest : Text) : Text.cut? ['\n'] (("```".toList ++ info) ++ '\n' :: rest) =
      some ("```".toList ++ info, rest) :=
    Text.cut?_of_inert (Text.inert_of_not_mem (fence_notMem line)) rest
  by_cases empty : code = []
  · subst empty
    rw [write_code_nil, innerLines, first]
    rfl
  · -- From the end, the first line feed is the one in front of the closing fence.
    have last : Text.cut? ['\n'] (code ++ '\n' :: "```".toList).reverse = some ("```".toList, code.reverse) := by
      have fence : Text.Inert ['\n'] "```".toList := Text.inert_of_not_mem (by decide)
      have found := Text.cut?_of_inert fence code.reverse
      rwa [show (code ++ '\n' :: "```".toList).reverse = "```".toList ++ (['\n'] ++ code.reverse) by simp]
    rw [write_code info empty, innerLines, first]
    simp only [last, List.reverse_reverse]

/-! ## §4 Lists -/

theorem dropMarker_bullet (item : Text) : dropMarker ("- ".toList ++ item) = item := rfl

/-- Only the first marker of a line is dropped, however the item begins. -/
theorem dropMarker_number (n : Nat) (item : Text) :
    dropMarker (Text.ofNat n ++ ". ".toList ++ item) = item := by
  have digits (c : Char) (mem : c ∈ Text.ofNat n) : c.isDigit = true :=
    Nat.isDigit_of_mem_toDigits (by decide) (by decide) mem
  obtain ⟨c, rest, number⟩ := List.exists_cons_of_ne_nil (Nat.toDigits_ne_nil (b := 10) (n := n))
  have hyphen : c ≠ '-' := by
    rintro rfl
    cases digits '-' (by rw [Text.ofNat, number]; exact List.mem_cons_self ..)
  have taken : (Text.ofNat n ++ ". ".toList ++ item).takeWhile Char.isDigit = Text.ofNat n := by
    rw [List.append_assoc, List.takeWhile_append_of_pos digits]
    exact List.append_nil _
  have dropped : (Text.ofNat n ++ ". ".toList ++ item).dropWhile Char.isDigit = ". ".toList ++ item := by
    rw [List.append_assoc, List.dropWhile_append_of_pos digits]
    rfl
  unfold dropMarker
  split
  · rename_i same
    rw [Text.ofNat, number] at same
    exact absurd (List.head_eq_of_cons_eq same) hyphen
  · rw [taken, dropped, if_neg (by rw [Text.ofNat, number]; simp)]
    rfl

/-- The lines of a list that is written. -/
def itemLines (ordered : Bool) (items : List Text) : List Text :=
  match ordered with
  | true => items.mapIdx fun i item => Text.ofNat (i + 1) ++ ". ".toList ++ item
  | false => items.map fun item => "- ".toList ++ item

theorem write_list (info : Text) (ordered : Bool) (items : List Text) :
    (Block.list ordered items).write info = Text.join ['\n'] (itemLines ordered items) := by
  cases ordered <;> rfl

theorem map_dropMarker_itemLines (ordered : Bool) (items : List Text) :
    (itemLines ordered items).map dropMarker = items := by
  cases ordered with
  | true =>
    refine List.ext_getElem (by simp [itemLines]) fun i _ _ => ?_
    simp only [itemLines, List.getElem_map, List.getElem_mapIdx, dropMarker_number]
  | false => simp only [itemLines, List.map_map, Function.comp_def, dropMarker_bullet, List.map_id']

theorem itemLines_lines {ordered : Bool} {items : List Text} (h : ∀ item ∈ items, '\n' ∉ item) :
    ∀ line ∈ itemLines ordered items, line ≠ [] ∧ '\n' ∉ line := by
  intro line mem
  cases ordered with
  | true =>
    obtain ⟨i, bound, rfl⟩ := List.mem_mapIdx.mp mem
    have feed : '\n' ∉ Text.ofNat (i + 1) := fun mem => by
      cases Nat.isDigit_of_mem_toDigits (by decide) (by decide) mem
    refine ⟨by simp, ?_⟩
    simp [feed, h _ (List.getElem_mem bound)]
  | false =>
    obtain ⟨item, listed, rfl⟩ := List.mem_map.mp mem
    refine ⟨by simp, ?_⟩
    simp [h item listed]

/-- A list begins with the marker of its kind. -/
theorem exists_itemLines {items : List Text} (filled : items ≠ []) (ordered : Bool) :
    ∃ rest, Text.join ['\n'] (itemLines ordered items) =
      (if ordered then "1. ".toList else "- ".toList) ++ rest := by
  obtain ⟨item, items, rfl⟩ := List.exists_cons_of_ne_nil filled
  have first (line : Text) (lines : List Text) : ∃ rest, Text.join ['\n'] (line :: lines) = line ++ rest := by
    cases lines with
    | nil => exact ⟨[], (List.append_nil line).symm⟩
    | cons next lines => exact ⟨_, List.append_assoc ..⟩
  cases ordered with
  | true =>
    obtain ⟨rest, whole⟩ := first ("1. ".toList ++ item) (items.mapIdx fun i item =>
      Text.ofNat (i + 1 + 1) ++ ". ".toList ++ item)
    exact ⟨item ++ rest, by
      rw [itemLines, List.mapIdx_cons, if_pos rfl, ← List.append_assoc]
      exact whole⟩
  | false =>
    obtain ⟨rest, whole⟩ := first ("- ".toList ++ item) (items.map fun item => "- ".toList ++ item)
    exact ⟨item ++ rest, by
      rw [itemLines, List.map_cons, if_neg (by simp), ← List.append_assoc]
      exact whole⟩

/-! ## §5 Reading back -/

namespace Block

variable {info : Text} {block : Block}

/-- The text of a block is unbroken. -/
theorem unbroken_write (line : '\n' ∉ info) (h : block.Writable) : Unbroken (block.write info) := by
  cases block with
  | heading2 text => exact Unbroken.append (by decide) h
  | heading3 text => exact Unbroken.append (by decide) h
  | code code =>
    have fence : Unbroken ("```".toList ++ info) := unbroken_of_notMem (fence_notMem line)
    have closing : Unbroken "```".toList := by decide
    by_cases empty : code = []
    · rw [empty, write_code_nil]
      exact fence.append_feed closing (by decide) (by decide)
    · rw [write_code info empty]
      refine fence.append_feed (h.1.append_feed closing (by decide) (by decide)) (by simp) ?_
      rw [List.head?_append_of_ne_nil _ empty]
      exact h.2
  | list ordered items =>
    rw [write_list]
    exact (unbroken_join (itemLines_lines h.2)).1
  | paragraph text => exact h.1

/-- **A block is read from the text that it is written as.** -/
theorem ofText_write (line : '\n' ∉ info) (h : block.Writable) : ofText (block.write info) = block := by
  have clash (mark piece : Text) (differ : Text.clash mark piece = true) (rest : Text) :=
    Text.after?_of_clash differ rest
  cases block with
  | heading2 text => simp only [write, ofText, Text.after?_append_self]
  | heading3 text => simp only [write, ofText, clash "## ".toList "### ".toList rfl, Text.after?_append_self]
  | code code =>
    have inner := innerLines_write line code
    obtain ⟨rest, whole⟩ : ∃ rest, (Block.code code).write info = "```".toList ++ rest := by
      by_cases empty : code = []
      · exact ⟨_, by rw [empty, write_code_nil, List.append_assoc]⟩
      · exact ⟨_, by rw [write_code info empty, List.append_assoc]⟩
    rw [whole] at inner ⊢
    simp only [ofText, Text.startsWith, clash "## ".toList "```".toList rfl, clash "### ".toList "```".toList rfl,
      Text.after?_append_self, Option.isSome_some, if_true, inner]
  | list ordered items =>
    obtain ⟨rest, whole⟩ := exists_itemLines h.1 ordered
    have some : itemLines ordered items ≠ [] := by
      cases ordered <;> simpa [itemLines] using h.1
    have lines := Text.splitOn_join some fun line mem => (itemLines_lines h.2 line mem).2
    rw [write_list]
    rw [whole] at lines ⊢
    cases ordered with
    | true =>
      simp only [if_true] at lines ⊢
      simp only [ofText, Text.startsWith, clash "## ".toList "1. ".toList rfl, clash "### ".toList "1. ".toList rfl,
        clash "```".toList "1. ".toList rfl, Text.after?_append_self, Option.isSome_some, Option.isSome_none,
        Bool.false_eq_true, if_false, Bool.true_or, if_true, lines, map_dropMarker_itemLines]
    | false =>
      simp only [Bool.false_eq_true, if_false] at lines ⊢
      simp only [ofText, Text.startsWith, clash "## ".toList "- ".toList rfl, clash "### ".toList "- ".toList rfl,
        clash "```".toList "- ".toList rfl, clash "1. ".toList "- ".toList rfl, Text.after?_append_self,
        Option.isSome_some, Option.isSome_none, Bool.false_eq_true, if_false, Bool.false_or, if_true, lines,
        map_dropMarker_itemLines]
  | paragraph text =>
    have no (mark : Text) (mem : mark ∈ blockMarks) : Text.after? mark text = none :=
      Text.after?_eq_none_iff.mpr (h.2 mark mem)
    simp only [write, ofText, Text.startsWith, no "## ".toList (by decide), no "### ".toList (by decide),
      no "```".toList (by decide), no "1. ".toList (by decide), no "- ".toList (by decide), Option.isSome_none,
      Bool.or_false, Bool.false_eq_true, if_false]

end Block

/-- **Blocks come back from the text that they are written as.** Let blocks that can be written be joined by blank
lines, with any line of text behind the opening fence of each code. Then the text is segmented into these blocks,
whatever empty texts and line feeds at the beginning of texts stand beside the blank lines. -/
theorem segment_write {blocks : List (Text × Block)} (filled : blocks ≠ [])
    (lines : ∀ block ∈ blocks, '\n' ∉ block.1) (h : ∀ block ∈ blocks, block.2.Writable) :
    segment (Text.join blankLine (blocks.map fun block => block.2.write block.1)) = blocks.map Prod.snd := by
  have pieces : Text.splitOn blankLine (Text.join blankLine (blocks.map fun block => block.2.write block.1)) =
      blocks.map fun block => block.2.write block.1 := by
    refine Text.splitOn_join_of_first (by simpa using filled) fun piece mem => ?_
    obtain ⟨block, listed, rfl⟩ := List.mem_map.mp mem
    exact (Block.unbroken_write (lines block listed) (h block listed)).first
  show (Text.splitOn blankLine _).map Block.ofText = _
  rw [pieces, List.map_map]
  exact List.map_congr_left fun block mem => Block.ofText_write (lines block mem) (h block mem)

/-- A post with code, with items that look like markers, and with paragraphs that are empty or begin in a new
line. -/
theorem segment_write_post :
    let blocks : List (Text × Block) :=
      [([], .heading2 "Notes".toList), ("rust".toList, .code "let x;\nlet y;".toList), ([], .paragraph []),
        ([], .paragraph "\nText".toList), ([], .list true ["2. two".toList, "- three".toList]),
        ([], .list false ["- item".toList, []]), ([], .code [])]
    (blocks ≠ [] ∧ (∀ block ∈ blocks, '\n' ∉ block.1) ∧ ∀ block ∈ blocks, block.2.Writable) ∧
      segment (Text.join blankLine (blocks.map fun block => block.2.write block.1)) = blocks.map Prod.snd := by
  intro blocks
  have filled : blocks ≠ [] := by simp [blocks]
  have lines : ∀ block ∈ blocks, '\n' ∉ block.1 := by decide +kernel
  have writable : ∀ block ∈ blocks, block.2.Writable := by decide +kernel
  exact ⟨⟨filled, lines, writable⟩, segment_write filled lines writable⟩

end DocSite.Blog
