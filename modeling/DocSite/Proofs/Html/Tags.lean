import DocSite.Proofs.Html.Reference

/-!
# Tags

Who reads HTML tells tags from text character by character. Here is how as far as the names of the tags go
(`tagNames`): a bracket opens a tag, its name runs up to a blank, a slash or a bracket, and values between quotes
are passed over.

A text is read from some place, and reading on behind it depends on nothing but the place to which it leads
(`tagNamesFrom_append`). Escaped text leads nowhere else, between tags as well as between quotes
(`skips_of_isEscaped`, `skips_quoted`), and what is written as the attributes of a tag stays in it until the
bracket that ends it (`StaysInTag`).
-/

namespace DocSite.Html

/-! ## §1 Reading -/

/-- Where a reader of HTML is. -/
inductive Place where
  /-- Between tags. -/
  | outside
  /-- In the name of a tag, some of which has been read. -/
  | name (read : Text)
  /-- Behind the name of a tag. -/
  | inside
  /-- In a value that a quote has begun. -/
  | quoted (mark : Char)
  deriving DecidableEq, Repr

namespace Place

/-- Whether a character ends the name of a tag. The slash of a closing tag belongs to its name. -/
def endsName (read : Text) (c : Char) : Bool :=
  " \t\n\r\x0c>".toList.contains c || (c = '/' && !read.isEmpty)

/-- The place behind a character. -/
def next : Place → Char → Place
  | outside, c => if c = '<' then name [] else outside
  | name read, c =>
    if c = '>' then outside else if endsName read c then inside else name (read ++ [c])
  | inside, c => if c = '>' then outside else if c = '"' || c = '\x27' then quoted c else inside
  | quoted mark, c => if c = mark then inside else quoted mark

@[simp]
theorem next_outside (c : Char) : outside.next c = if c = '<' then name [] else outside := rfl

@[simp]
theorem next_name (read : Text) (c : Char) :
    (name read).next c =
      if c = '>' then outside else if endsName read c then inside else name (read ++ [c]) := rfl

@[simp]
theorem next_inside (c : Char) :
    inside.next c =
      if c = '>' then outside else if c = '"' || c = '\x27' then quoted c else inside := rfl

@[simp]
theorem next_quoted (mark c : Char) :
    (quoted mark).next c = if c = mark then inside else quoted mark := rfl

/-- The name of a tag that ends with a character. -/
def ended? : Place → Char → Option Text
  | name read, c => if endsName read c then some read else none
  | _, _ => none

/-- The place behind a text. -/
def after (place : Place) (text : Text) : Place := text.foldl next place

end Place

/-- The names of the tags whose names end in a text that is read from a place. -/
def tagNamesFrom (place : Place) : Text → List Text
  | [] => []
  | c :: text => (place.ended? c).toList ++ tagNamesFrom (place.next c) text

/-- The names of the tags in a text, those of closing tags with their slash. -/
def tagNames (text : Text) : List Text := tagNamesFrom .outside text

/-! ## §2 Pieces -/

variable {place : Place} {s t : Text}

@[simp]
theorem Place.after_nil (place : Place) : place.after [] = place := rfl

@[simp]
theorem Place.after_cons (place : Place) (c : Char) (text : Text) :
    place.after (c :: text) = (place.next c).after text := rfl

@[simp]
theorem Place.after_append (place : Place) (s t : Text) :
    place.after (s ++ t) = (place.after s).after t := List.foldl_append

/-- Pieces are read one after the other. -/
theorem tagNamesFrom_append (place : Place) (s t : Text) :
    tagNamesFrom place (s ++ t) = tagNamesFrom place s ++ tagNamesFrom (place.after s) t := by
  induction s generalizing place with
  | nil => rfl
  | cons c s ih =>
    rw [List.cons_append, tagNamesFrom, ih, tagNamesFrom, List.append_assoc]
    rfl

/-- A text that leads back to where it was read from, without the name of a tag on the way. -/
structure Skips (place : Place) (text : Text) : Prop where
  after : place.after text = place
  names : tagNamesFrom place text = []

namespace Skips

theorem of_chars {text : Text} (h : ∀ c ∈ text, place.next c = place ∧ place.ended? c = none) :
    Skips place text := by
  induction text with
  | nil => exact ⟨rfl, rfl⟩
  | cons c text ih =>
    obtain ⟨next, ended⟩ := h c (List.mem_cons_self ..)
    obtain ⟨after, names⟩ := ih fun d hd => h d (List.mem_cons_of_mem c hd)
    exact ⟨by rw [Place.after_cons, next, after],
      by rw [tagNamesFrom, next, ended, names]; rfl⟩

/-- What is skipped makes no difference to what is read. -/
theorem tagNamesFrom_append (h : Skips place s) (t : Text) :
    tagNamesFrom place (s ++ t) = tagNamesFrom place t := by
  rw [Html.tagNamesFrom_append, h.names, h.after, List.nil_append]

end Skips

/-- Text without an opening bracket is skipped between tags. -/
theorem skips_outside {text : Text} (h : '<' ∉ text) : Skips .outside text :=
  .of_chars fun c hc => ⟨if_neg fun same : c = '<' => h (same ▸ hc), rfl⟩

/-- Escaped text is skipped between tags. -/
theorem skips_of_isEscaped {text : Text} (h : IsEscaped text) : Skips .outside text :=
  skips_outside fun mem => (h.ne_of_mem mem).1 rfl

/-- Text without the quote that has begun a value is skipped in that value. -/
theorem skips_quoted {mark : Char} {text : Text} (h : mark ∉ text) : Skips (.quoted mark) text :=
  .of_chars fun c hc => ⟨if_neg fun same : c = mark => h (same ▸ hc), rfl⟩

/-! ## §3 The inside of tags -/

/-- Characters that neither end a tag nor begin a value. -/
def isTagChar (c : Char) : Bool := !">\"\x27".toList.contains c

/-- Such characters are skipped behind the name of a tag. -/
theorem skips_inside {text : Text} (h : ∀ c ∈ text, isTagChar c = true) : Skips .inside text := by
  refine .of_chars fun c hc => ⟨?_, rfl⟩
  have plain := h c hc
  simp [isTagChar] at plain
  simp [plain]

/-- Nothing in the value of an attribute ends the tag or the value. -/
theorem isTagChar_of_mem_escapeAttr {text : Text} {c : Char} (h : c ∈ escapeAttr text) :
    isTagChar c = true := by
  have greater : c ≠ '>' := ((isEscaped_escapeAttr text).ne_of_mem h).2
  have double : c ≠ '"' := fun same => notMem_escapeAttr (Or.inl same) text h
  have single : c ≠ '\x27' := fun same => notMem_escapeAttr (Or.inr same) text h
  simp [isTagChar, greater, double, single]

/-- Digits are neither brackets nor quotes. -/
theorem isTagChar_of_mem_ofNat {n : Nat} {c : Char} (h : c ∈ Text.ofNat n) :
    isTagChar c = true ∧ c ≠ '<' := by
  have digit : c.isDigit = true := Nat.isDigit_of_mem_toDigits (by decide) (by decide) h
  have other (d : Char) (no : d.isDigit = false) : c ≠ d := by
    rintro rfl
    rw [digit] at no
    cases no
  simp [isTagChar, other '>' rfl, other '"' rfl, other '\x27' rfl, other '<' rfl]

namespace Place

/-- The place is in a tag and not in a value. -/
def InTag : Place → Prop
  | name _ => True
  | inside => True
  | _ => False

@[simp]
theorem inTag_name (read : Text) : (name read).InTag := trivial

@[simp]
theorem inTag_inside : inside.InTag := trivial

/-- A bracket ends a tag. -/
theorem InTag.close (h : place.InTag) : place.next '>' = outside := by
  cases place with
  | name | inside => rfl
  | outside | quoted => cases h

/-- A blank leads behind the name of a tag. -/
theorem InTag.blank (h : place.InTag) : place.next ' ' = inside := by
  cases place with
  | name | inside => rfl
  | outside | quoted => cases h

end Place

/-- A text that leads nowhere out of a tag. -/
def StaysInTag (text : Text) : Prop := ∀ ⦃place : Place⦄, place.InTag → (place.after text).InTag

namespace StaysInTag

theorem nil : StaysInTag [] := fun _ h => h

theorem append (hs : StaysInTag s) (ht : StaysInTag t) : StaysInTag (s ++ t) := fun place h => by
  rw [Place.after_append]
  exact ht (hs h)

theorem flatMap {α : Type} {written : α → Text} (h : ∀ entry, StaysInTag (written entry))
    (entries : List α) : StaysInTag (entries.flatMap written) := by
  induction entries with
  | nil => exact nil
  | cons entry entries ih => exact (h entry).append ih

/-- Characters of a tag lead nowhere out of it. -/
theorem of_chars {text : Text} (plain : ∀ c ∈ text, isTagChar c = true) : StaysInTag text := by
  induction text with
  | nil => exact nil
  | cons c text ih =>
    intro place h
    refine ih (fun d hd => plain d (List.mem_cons_of_mem c hd)) ?_
    have plain := plain c (List.mem_cons_self ..)
    simp [isTagChar] at plain
    cases place with
    | outside | quoted => cases h
    | inside => simp [plain]
    | name read =>
      -- The character may end the name, but not the tag.
      rw [Place.next_name, if_neg plain.1]
      split <;> trivial

end StaysInTag

/-! ## §4 What is written in a page -/

namespace Place

@[simp]
theorem after_quoted_escapeAttr (text : Text) :
    (quoted '"').after (escapeAttr text) = quoted '"' :=
  (skips_quoted (notMem_escapeAttr (Or.inl rfl) text)).after

@[simp]
theorem after_quoted_escapeHref (text : Text) :
    (quoted '"').after (escapeHref text) = quoted '"' :=
  (skips_quoted (quote_notMem_escapeHref text)).after

@[simp]
theorem after_outside_escapeText (text : Text) : outside.after (escapeText text) = outside :=
  (skips_of_isEscaped (isEscaped_escapeText text)).after

@[simp]
theorem after_outside_escapeAttr (text : Text) : outside.after (escapeAttr text) = outside :=
  (skips_of_isEscaped (isEscaped_escapeAttr text)).after

@[simp]
theorem after_quoted_ofNat (n : Nat) : (quoted '"').after (Text.ofNat n) = quoted '"' :=
  (skips_quoted fun mem => absurd (isTagChar_of_mem_ofNat mem).1 (by decide)).after

@[simp]
theorem after_outside_ofNat (n : Nat) : outside.after (Text.ofNat n) = outside :=
  (skips_outside fun mem => (isTagChar_of_mem_ofNat mem).2 rfl).after

end Place

end DocSite.Html
