import DocSite.Proofs.Html.Tags

/-!
# Reading tags with their attributes

A reader that keeps what it reads: every tag with its name, and with its attributes and their values as they are
written (`tags`). It goes through the same places as the reader of names (`Reading.place_after`), so
what is known of places holds here too, and it finds the same names (`map_name_tags`).

Most of what is written in a page leads from between tags back to between tags (`IsMarkup`), and such texts are
read one after the other. Text that is escaped has no tags. A tag is read from its name and from its attributes
(`IsMarkup.tag`), and whatever is written as the value of an attribute is read as that value and as nothing else
(`adds_value`).
-/

namespace DocSite.Html

/-! ## §1 Reading -/

/-- A tag. The name of a closing tag begins with a slash. -/
structure Tag where
  name : Text
  /-- The attributes with their values as they are written. -/
  attributes : List (Text × Text) := []
  deriving DecidableEq, Repr

/-- What a word in a tag says that no quote has begun: the name of an attribute, and a value if there is an
equals sign. -/
def wordAttributes (word : Text) : List (Text × Text) :=
  if word.isEmpty then [] else [(word.takeWhile (· ≠ '='), (word.dropWhile (· ≠ '=')).drop 1)]

namespace Tag

/-- The tag with more attributes. -/
def extend (tag : Tag) (attributes : List (Text × Text)) : Tag :=
  { tag with attributes := tag.attributes ++ attributes }

@[simp]
theorem name_extend (tag : Tag) (attributes : List (Text × Text)) :
    (tag.extend attributes).name = tag.name := rfl

@[simp]
theorem extend_nil (tag : Tag) : tag.extend [] = tag := by simp [extend]

@[simp]
theorem extend_extend (tag : Tag) (attributes more : List (Text × Text)) :
    (tag.extend attributes).extend more = tag.extend (attributes ++ more) := by simp [extend]

end Tag

/-- Where a reader of tags is, with what has been read of the tag. -/
inductive Reading where
  /-- Between tags. -/
  | outside
  /-- In the name of a tag. -/
  | name (read : Text)
  /-- Behind the name of a tag and some of its attributes, in a word. -/
  | inside (tag : Tag) (word : Text)
  /-- In the value of an attribute that a quote has begun. -/
  | quoted (tag : Tag) (key : Text) (mark : Char) (value : Text)
  deriving DecidableEq, Repr

namespace Reading

/-- Whether a character ends a word in a tag. -/
def endsWord (c : Char) : Bool := " \t\n\r\x0c/".toList.contains c

/-- What has been read behind a character. -/
def next : Reading → Char → Reading
  | outside, c => if c = '<' then name [] else outside
  | name read, c =>
    if c = '>' then outside
    else if Place.endsName read c then inside { name := read } [] else name (read ++ [c])
  | inside tag word, c =>
    if c = '>' then outside
    else if c = '"' || c = '\x27' then quoted tag (word.takeWhile (· ≠ '=')) c []
    else if endsWord c then inside (tag.extend (wordAttributes word)) [] else inside tag (word ++ [c])
  | quoted tag key mark value, c =>
    if c = mark then inside (tag.extend [(key, value)]) [] else quoted tag key mark (value ++ [c])

/-- The tag that ends with a character. -/
def read? : Reading → Char → Option Tag
  | name read, c => if c = '>' then some { name := read } else none
  | inside tag word, c => if c = '>' then some (tag.extend (wordAttributes word)) else none
  | _, _ => none

/-- What has been read behind a text. -/
def after (reading : Reading) (text : Text) : Reading := text.foldl next reading

/-- The place of the reader. -/
def place : Reading → Place
  | outside => .outside
  | name read => .name read
  | inside _ _ => .inside
  | quoted _ _ mark _ => .quoted mark

/-- The name of the tag that is being read, once it is known. -/
def tagName : Reading → List Text
  | inside tag _ => [tag.name]
  | quoted tag _ _ _ => [tag.name]
  | _ => []

end Reading

/-- The tags that end in a text. -/
def tagsFrom (reading : Reading) : Text → List Tag
  | [] => []
  | c :: text => (reading.read? c).toList ++ tagsFrom (reading.next c) text

/-- The tags in a text. -/
def tags (text : Text) : List Tag := tagsFrom .outside text

/-! ## §2 Places and names -/

variable {reading : Reading} {s t : Text}

namespace Reading

@[simp]
theorem after_nil (reading : Reading) : reading.after [] = reading := rfl

@[simp]
theorem after_cons (reading : Reading) (c : Char) (text : Text) :
    reading.after (c :: text) = (reading.next c).after text := rfl

@[simp]
theorem after_append (reading : Reading) (s t : Text) :
    reading.after (s ++ t) = (reading.after s).after t := List.foldl_append

/-- Every character leads to the same place, whatever has been read. -/
theorem place_next (reading : Reading) (c : Char) : (reading.next c).place = reading.place.next c := by
  cases reading with
  | outside | name | quoted =>
    simp only [next, place, Place.next]
    split_ifs <;> rfl
  | inside tag word =>
    simp only [next, place, Place.next]
    split_ifs <;> rfl

/-- So does every text. -/
theorem place_after (reading : Reading) (text : Text) :
    (reading.after text).place = reading.place.after text := by
  induction text generalizing reading with
  | nil => rfl
  | cons c text ih => rw [after_cons, ih, place_next, Place.after_cons]

theorem eq_outside_of_place (h : reading.place = .outside) : reading = .outside := by
  cases reading with
  | outside => rfl
  | name | inside | quoted => cases h

/-- A text that leads back between tags does so with nothing left of what was read. -/
theorem after_outside (h : Place.outside.after text = .outside) :
    Reading.outside.after text = .outside :=
  eq_outside_of_place (by rw [place_after]; exact h)

end Reading

/-- Pieces are read one after the other. -/
theorem tagsFrom_append (reading : Reading) (s t : Text) :
    tagsFrom reading (s ++ t) = tagsFrom reading s ++ tagsFrom (reading.after s) t := by
  induction s generalizing reading with
  | nil => rfl
  | cons c s ih =>
    rw [List.cons_append, tagsFrom, ih, tagsFrom, List.append_assoc]
    rfl

/-- A character tells a name early or ends a tag late, but both readers find the same names. -/
theorem tagName_next (reading : Reading) (c : Char) :
    reading.tagName ++ (reading.place.ended? c).toList =
      (reading.read? c).toList.map (·.name) ++ (reading.next c).tagName := by
  cases reading with
  | outside | quoted =>
    simp only [Reading.next, Reading.read?, Reading.place, Place.ended?]
    split_ifs <;> rfl
  | inside tag word =>
    simp only [Reading.next, Reading.read?, Reading.place, Place.ended?]
    split_ifs <;> rfl
  | name read =>
    by_cases last : c = '>'
    · -- The bracket ends the name and the tag at once.
      subst last
      rfl
    · simp only [Reading.next, Reading.read?, Reading.place, Place.ended?, last, if_false]
      split_ifs <;> rfl

theorem map_name_tagsFrom (reading : Reading) (text : Text) :
    reading.tagName ++ tagNamesFrom reading.place text =
      (tagsFrom reading text).map (·.name) ++ (reading.after text).tagName := by
  induction text generalizing reading with
  | nil => simp [tagsFrom, tagNamesFrom]
  | cons c text ih =>
    rw [tagNamesFrom, tagsFrom, ← List.append_assoc, tagName_next, List.append_assoc,
      ← Reading.place_next, ih, List.map_append, List.append_assoc, Reading.after_cons]

/-- **Both readers find the same names** in a text without an unfinished tag. -/
theorem map_name_tags (h : Place.outside.after t = .outside) :
    (tags t).map (·.name) = tagNames t := by
  have same := map_name_tagsFrom .outside t
  rw [Reading.after_outside h] at same
  simpa [Reading.tagName, Reading.place, tags, tagNames] using same.symm

/-! ## §3 Pieces between tags -/

/-- A text that is read as some tags and leads from between tags back to between tags. -/
structure IsMarkup (text : Text) (found : List Tag) : Prop where
  after : Reading.outside.after text = .outside
  tags : tags text = found

namespace IsMarkup

variable {found more : List Tag}

theorem nil : IsMarkup [] [] := ⟨rfl, rfl⟩

/-- Tags in front of some text are read apart from it. -/
theorem tags_append (hs : IsMarkup s found) (t : Text) : Html.tags (s ++ t) = found ++ Html.tags t := by
  have front : tagsFrom .outside s = found := hs.tags
  rw [Html.tags, tagsFrom_append, front, hs.after, Html.tags]

theorem append (hs : IsMarkup s found) (ht : IsMarkup t more) : IsMarkup (s ++ t) (found ++ more) :=
  ⟨by rw [Reading.after_append, hs.after, ht.after], by rw [hs.tags_append, ht.tags]⟩

/-- Text without an opening bracket has no tags. -/
theorem of_plain (h : '<' ∉ t) : IsMarkup t [] := by
  induction t with
  | nil => exact nil
  | cons c text ih =>
    have here : c ≠ '<' := fun same => h (same ▸ List.mem_cons_self ..)
    have same : Reading.outside.next c = .outside := if_neg here
    obtain ⟨after, tags⟩ := ih fun mem => h (List.mem_cons_of_mem c mem)
    exact ⟨by rw [Reading.after_cons, same, after],
      by rw [Html.tags, tagsFrom, same]; exact tags⟩

/-- Neither has escaped text. -/
theorem of_isEscaped (h : IsEscaped t) : IsMarkup t [] := of_plain fun mem => (h.ne_of_mem mem).1 rfl

end IsMarkup

/-! ## §4 Pieces of tags -/

/-- A text that leads from one place to another in a tag, which does not end on the way. -/
structure Leads (reading : Reading) (text : Text) (behind : Reading) : Prop where
  after : reading.after text = behind
  noTag : tagsFrom reading text = []

namespace Leads

variable {first second third : Reading}

theorem nil (reading : Reading) : Leads reading [] reading := ⟨rfl, rfl⟩

theorem cons {c : Char} (here : first.next c = second ∧ first.read? c = none)
    (behind : Leads second t third) : Leads first (c :: t) third :=
  ⟨by rw [Reading.after_cons, here.1, behind.after],
    by rw [tagsFrom, here.1, here.2, behind.noTag]; rfl⟩

theorem append (hs : Leads first s second) (ht : Leads second t third) : Leads first (s ++ t) third :=
  ⟨by rw [Reading.after_append, hs.after, ht.after],
    by rw [tagsFrom_append, hs.noTag, hs.after, ht.noTag]; rfl⟩

end Leads

/-- Characters of the name of a tag. -/
def isNameChar (c : Char) : Bool := !" \t\n\r\x0c/>".toList.contains c

/-- Characters of the name of an attribute. -/
def isKeyChar (c : Char) : Bool := !" \t\n\r\x0c/>\"\x27=".toList.contains c

/-- The name of a tag is read. -/
theorem leads_name {text : Text} (plain : text.all isNameChar = true) (read : Text) :
    Leads (.name read) text (.name (read ++ text)) := by
  induction text generalizing read with
  | nil => simpa using Leads.nil (.name read)
  | cons c text ih =>
    obtain ⟨here, behind⟩ : isNameChar c = true ∧ text.all isNameChar = true := by simpa using plain
    simp [isNameChar] at here
    have rest := ih behind (read ++ [c])
    rw [List.append_assoc] at rest
    exact .cons (by simp [Reading.next, Reading.read?, Place.endsName, here]) rest

/-- The name of an attribute is read as a word. -/
theorem leads_key (text : Text) (plain : text.all isKeyChar = true) (tag : Tag) (word : Text) :
    Leads (.inside tag word) text (.inside tag (word ++ text)) := by
  induction text generalizing word with
  | nil => simpa using Leads.nil (.inside tag word)
  | cons c text ih =>
    obtain ⟨here, behind⟩ : isKeyChar c = true ∧ text.all isKeyChar = true := by simpa using plain
    simp [isKeyChar] at here
    have rest := ih behind (word ++ [c])
    rw [List.append_assoc] at rest
    exact .cons (by simp [Reading.next, Reading.read?, Reading.endsWord, here]) rest

/-- A value is read as it is written, up to its quote. -/
theorem leads_quoted {mark : Char} {text : Text} (inert : mark ∉ text) (tag : Tag) (key value : Text) :
    Leads (.quoted tag key mark value) text (.quoted tag key mark (value ++ text)) := by
  induction text generalizing value with
  | nil => simpa using Leads.nil (.quoted tag key mark value)
  | cons c text ih =>
    have here : c ≠ mark := fun same => inert (same ▸ List.mem_cons_self ..)
    have rest := ih (fun mem => inert (List.mem_cons_of_mem c mem)) (value ++ [c])
    rw [List.append_assoc] at rest
    exact .cons ⟨if_neg here, rfl⟩ rest

/-- Words that neither end a tag nor begin a value add some attributes, and the last of them may
be the beginning of another. -/
theorem exists_leads_words {text : Text} (plain : ∀ c ∈ text, isTagChar c = true) (word : Text) :
    ∃ attributes begun, ∀ tag,
      Leads (.inside tag word) text (.inside (tag.extend attributes) begun) := by
  induction text generalizing word with
  | nil => exact ⟨[], word, fun tag => by simpa using Leads.nil (.inside tag word)⟩
  | cons c text ih =>
    have here := plain c (List.mem_cons_self ..)
    simp [isTagChar] at here
    have behind := fun d hd => plain d (List.mem_cons_of_mem c hd)
    by_cases ends : Reading.endsWord c = true
    · obtain ⟨attributes, begun, rest⟩ := ih behind []
      refine ⟨wordAttributes word ++ attributes, begun, fun tag => ?_⟩
      rw [← Tag.extend_extend]
      exact .cons (by simp [Reading.next, Reading.read?, here, ends]) (rest _)
    · obtain ⟨attributes, begun, rest⟩ := ih behind (word ++ [c])
      exact ⟨attributes, begun, fun tag =>
        .cons (by simp [Reading.next, Reading.read?, here, ends]) (rest tag)⟩

/-! ## §5 Tags as they are written -/

namespace Reading

/-- The name of a tag and some of its attributes have been read, and nothing behind them. -/
def Holds (tag : Tag) : Reading → Prop
  | name read => tag = { name := read }
  | inside begun word => tag = begun ∧ word = []
  | _ => False

variable {tag : Tag}

theorem Holds.blank (h : reading.Holds tag) :
    reading.next ' ' = inside tag [] ∧ reading.read? ' ' = none := by
  cases reading with
  | name read =>
    cases h
    exact ⟨rfl, rfl⟩
  | inside begun word =>
    obtain ⟨rfl, rfl⟩ := h
    simp [next, read?, endsWord, wordAttributes]
  | outside | quoted => cases h

theorem Holds.close (h : reading.Holds tag) :
    reading.next '>' = outside ∧ reading.read? '>' = some tag := by
  cases reading with
  | name read =>
    cases h
    exact ⟨rfl, rfl⟩
  | inside begun word =>
    obtain ⟨rfl, rfl⟩ := h
    simp [next, read?, wordAttributes]
  | outside | quoted => cases h

end Reading

/-- A slash in front of the bracket of a tag says nothing. -/
theorem Reading.Holds.slash {tag : Tag} (h : reading.Holds tag) :
    Leads reading [' ', '/'] (.inside tag []) := by
  have behind : Leads (.inside tag []) ['/'] (.inside (tag.extend []) []) := ⟨rfl, rfl⟩
  rw [Tag.extend_nil] at behind
  exact .cons h.blank behind

/-- A text in a tag that gives it some attributes and leaves the reader behind them. -/
def Adds (text : Text) (attributes : List (Text × Text)) : Prop :=
  ∀ ⦃reading : Reading⦄ ⦃tag : Tag⦄, reading.Holds tag →
    ∃ behind, Leads reading text behind ∧ behind.Holds (tag.extend attributes)

namespace Adds

variable {attributes more : List (Text × Text)}

theorem nil : Adds [] [] := fun reading tag h => ⟨reading, .nil reading, by simpa using h⟩

theorem append (hs : Adds s attributes) (ht : Adds t more) : Adds (s ++ t) (attributes ++ more) :=
  fun reading tag h => by
    obtain ⟨middle, front, held⟩ := hs h
    obtain ⟨behind, back, held⟩ := ht held
    rw [Tag.extend_extend] at held
    exact ⟨behind, front.append back, held⟩

end Adds

/-- An equals sign and a value between quotes end an attribute. -/
theorem leads_value {value : Text} (inert : '"' ∉ value) (tag : Tag) (word : Text) :
    Leads (.inside tag word) ("=\"".toList ++ (value ++ ['"']))
      (.inside (tag.extend [((word ++ ['=']).takeWhile (· ≠ '='), value)]) []) := by
  have begun : Leads (.inside tag word) "=\"".toList
      (.quoted tag ((word ++ ['=']).takeWhile (· ≠ '=')) '"' []) :=
    .cons ⟨rfl, rfl⟩ (.cons ⟨rfl, rfl⟩ (.nil _))
  have ended : Leads (.quoted tag ((word ++ ['=']).takeWhile (· ≠ '=')) '"' value) ['"']
      (.inside (tag.extend [((word ++ ['=']).takeWhile (· ≠ '='), value)]) []) :=
    .cons (by simp [Reading.next, Reading.read?]) (.nil _)
  exact begun.append ((leads_quoted inert tag _ []).append ended)

/-- **A value is read as it is written**, whatever is escaped in it. -/
theorem adds_value (key : Text) {value : Text} (plain : key.all isKeyChar = true) (inert : '"' ∉ value) :
    Adds (' ' :: (key ++ ("=\"".toList ++ (value ++ ['"'])))) [(key, value)] := fun reading tag h => by
  have whole : (key ++ ['=']).takeWhile (· ≠ '=') = key := by
    have each : ∀ c ∈ key, c ≠ '=' := by
      rintro c mem rfl
      exact absurd (List.all_eq_true.mp plain _ mem) (by decide)
    rw [List.takeWhile_append_of_pos (by simpa using each)]
    simp
  have read := (leads_key key plain tag []).append (leads_value inert tag key)
  rw [whole] at read
  exact ⟨_, .cons h.blank read, rfl, rfl⟩

/-- An attribute with any name adds some attributes: the name may be read as several. -/
theorem exists_adds_value {key value : Text} (plain : ∀ c ∈ key, isTagChar c = true)
    (inert : '"' ∉ value) :
    ∃ attributes, Adds (' ' :: (key ++ ("=\"".toList ++ (value ++ ['"'])))) attributes := by
  obtain ⟨attributes, begun, read⟩ := exists_leads_words plain []
  refine ⟨attributes ++ [((begun ++ ['=']).takeWhile (· ≠ '='), value)], fun reading tag h => ?_⟩
  rw [← Tag.extend_extend]
  exact ⟨_, .cons h.blank ((read tag).append (leads_value inert _ begun)), rfl, rfl⟩

/-- A bracket ends the tag that has been read. -/
theorem Leads.close {first behind : Reading} {tag : Tag} (read : Leads first t behind)
    (held : behind.Holds tag) :
    first.after (t ++ ['>']) = .outside ∧ tagsFrom first (t ++ ['>']) = [tag] := by
  rw [Reading.after_append, tagsFrom_append, read.after, read.noTag, tagsFrom, Reading.after_cons,
    held.close.1, held.close.2]
  exact ⟨rfl, rfl⟩

theorem IsMarkup.of_leads {behind : Reading} {tag : Tag} (read : Leads .outside t behind)
    (held : behind.Holds tag) : IsMarkup (t ++ ['>']) [tag] := ⟨(read.close held).1, (read.close held).2⟩

/-- **A tag is read from its name and its attributes.** -/
theorem IsMarkup.tag (name : Text) {text : Text} {attributes : List (Text × Text)}
    (plain : name.all isNameChar = true) (added : Adds text attributes) :
    IsMarkup ('<' :: (name ++ text) ++ ['>']) [⟨name, attributes⟩] := by
  obtain ⟨behind, given, held⟩ := added (show (Reading.name name).Holds { name } from rfl)
  exact .of_leads (.cons ⟨rfl, rfl⟩ ((leads_name plain []).append given)) held

/-- A closing tag has a slash in front of its name. -/
theorem IsMarkup.closing {name : Text} (plain : name.all isNameChar = true) :
    IsMarkup ('<' :: '/' :: name ++ ['>']) [{ name := '/' :: name }] := by
  have read : Leads .outside ('<' :: '/' :: name) (.name ('/' :: name)) :=
    .cons ⟨rfl, rfl⟩ (.cons ⟨rfl, rfl⟩ (leads_name plain ['/']))
  exact .of_leads read rfl

end DocSite.Html
