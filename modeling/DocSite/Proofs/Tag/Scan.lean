import DocSite.Proofs.Text.Inert
import DocSite.Tag.Expand

/-!
# Scanning for elements

How the readers and writers of block elements go through a text that is put together from known pieces:
they pass over pieces in which no tag begins, and they stop at an element that is written out.
-/

namespace DocSite.Tag

open Text (Inert)

/-! ## §1 Opening tags -/

/-- Attribute text without quotes is read as it is, and a `>` in it only inside of quotes. -/
theorem cutOpening?_append {quoted : Bool} {piece : Text}
    (h : ∀ c ∈ piece, c ≠ '"' ∧ (c = '>' → quoted = true)) (text : Text) :
    cutOpening? quoted (piece ++ text) =
      (cutOpening? quoted text).map fun (attributes, rest) => (piece ++ attributes, rest) := by
  induction piece with
  | nil => simp
  | cons c piece ih =>
    -- The character in front neither ends the tag nor changes what is quoted behind it.
    rcases h c (List.mem_cons_self ..) with ⟨hquote, hbracket⟩
    have here : (c = '>' && !quoted) = false := by
      by_cases hc : c = '>'
      · simp [hbracket hc]
      · simp [hc]
    simp only [List.cons_append, cutOpening?, here, hquote, Bool.false_eq_true, if_false]
    rw [ih fun d hd => h d (List.mem_cons_of_mem _ hd), Option.map_map]
    simp [Function.comp_def]

/-- Text without a quote and without a `>` does not end an opening tag and does not change whether what
follows is quoted. -/
theorem cutOpening?_append_of_notMem {piece : Text} (quote : '"' ∉ piece) (bracket : '>' ∉ piece)
    (quoted : Bool) (text : Text) :
    cutOpening? quoted (piece ++ text) =
      (cutOpening? quoted text).map fun (attributes, rest) => (piece ++ attributes, rest) := by
  apply cutOpening?_append
  intro c hc
  exact ⟨fun same => quote (same ▸ hc), fun same => absurd (same ▸ hc) bracket⟩

/-- Inside of quotes, everything up to the next quote is attribute text. -/
theorem cutOpening?_quoted {value : Text} (h : '"' ∉ value) (text : Text) :
    cutOpening? false ('"' :: (value ++ '"' :: text)) =
      (cutOpening? false text).map fun (attributes, rest) =>
        ('"' :: (value ++ '"' :: attributes), rest) := by
  have plain : ∀ c ∈ value, c ≠ '"' ∧ (c = '>' → true = true) := by
    intro c hc
    exact ⟨fun same => h (same ▸ hc), fun _ => rfl⟩
  have inside := cutOpening?_append plain ('"' :: text)
  simp [cutOpening?, inside, Option.map_map, Function.comp_def]

/-! ## §2 Elements -/

theorem elementAt?_of_after?_eq_none {tag : Kind} {text : Text}
    (h : Text.after? tag.opening text = none) : elementAt? tag text = none := by
  simp [elementAt?, h]

/-- An element that is written out is read where it stands, if its opening tag is read as it is written
and its closing tag does not begin earlier. -/
theorem elementAt?_written {tag : Kind} {element : Element}
    (read : ∀ rest, tag.form.read? (element.attributes ++ '>' :: rest) =
      some (element.attributes, rest))
    (inner : Inert tag.closing element.inner) (rest : Text) :
    elementAt? tag (element.written tag ++ rest) = some (element, rest) := by
  have shape : element.written tag ++ rest = tag.opening ++
      (element.attributes ++ '>' :: (element.inner ++ (tag.closing ++ rest))) := by
    simp [Element.written]
  rw [shape, elementAt?, Text.after?_append_self]
  simp only [Option.bind_eq_bind, Option.bind_some, read, Text.cut?_of_inert inner]
  rfl

theorem findElement?_append_of_inert {tag : Kind} {piece : Text} (h : Inert tag.opening piece)
    (text : Text) :
    findElement? tag (piece ++ text) = (findElement? tag text).map
      fun (before, element, rest) => (piece ++ before, element, rest) := by
  induction piece with
  | nil => simp
  | cons c piece ih =>
    simp only [List.cons_append, findElement?, elementAt?_of_after?_eq_none (h.head text),
      ih h.tail, Option.map_map]
    rfl

theorem findElement?_of_elementAt? {tag : Kind} {text rest : Text} {element : Element}
    (h : elementAt? tag text = some (element, rest)) :
    findElement? tag text = some ([], element, rest) := by
  cases text with
  | nil => simp [elementAt?, Text.after?, Kind.opening] at h
  | cons c text => simp [findElement?, h]

/-! ## §3 Replacement -/

section Replacement

variable {tag : Kind} (render : Element → Text)

/-- Replacement passes over a piece in which no opening tag begins. -/
theorem replaceElements_append_of_inert {piece : Text} (h : Inert tag.opening piece)
    (text : Text) :
    replaceElements tag render (piece ++ text) = piece ++ replaceElements tag render text := by
  have found := findElement?_append_of_inert h text
  cases hfind : findElement? tag text with
  | none =>
    rw [hfind] at found
    rw [replaceElements_of_none hfind, replaceElements_of_none found]
  | some triple =>
    rcases triple with ⟨before, element, rest⟩
    rw [hfind] at found
    rw [replaceElements_of_some hfind, replaceElements_of_some found]
    simp only [List.append_assoc]

/-- Replacement of an element goes on behind it. -/
theorem replaceElements_of_elementAt? {text rest : Text} {element : Element}
    (h : elementAt? tag text = some (element, rest)) :
    replaceElements tag render text = render element ++ replaceElements tag render rest := by
  rw [replaceElements_of_some (findElement?_of_elementAt? h)]
  rfl

end Replacement

/-! ## §4 Cards -/

/-- An attribute is read as it is written if its value holds no quote. -/
theorem Attribute.at?_written {c : Char} {name value : Text} (hc : isNameStart c = true)
    (hname : name.all isNameRest = true) (hvalue : '"' ∉ value) (rest : Text) :
    Attribute.at? (Attribute.written ⟨c :: name, value⟩ ++ rest) =
      some (⟨c :: name, value⟩, rest) := by
  have shape : Attribute.written ⟨c :: name, value⟩ ++ rest =
      c :: (name ++ ("=\"".toList ++ (value ++ (['"'] ++ rest)))) := by
    simp only [Attribute.written, List.cons_append, List.append_assoc]
  have rests := List.all_eq_true.mp hname
  have stop : isNameRest '=' = false := by decide
  have taken (more : Text) : (name ++ ("=\"".toList ++ more)).takeWhile isNameRest = name := by
    rw [List.takeWhile_append_of_pos rests]
    show name ++ List.takeWhile isNameRest ('=' :: _) = name
    rw [List.takeWhile_cons_of_neg (by simp [stop]), List.append_nil]
  have dropped (more : Text) :
      (name ++ ("=\"".toList ++ more)).dropWhile isNameRest = "=\"".toList ++ more := by
    rw [List.dropWhile_append_of_pos rests]
    show List.dropWhile isNameRest ('=' :: _) = _
    rw [List.dropWhile_cons_of_neg (by simp [stop])]
    rfl
  rw [shape, Attribute.at?, if_pos hc, taken, dropped, Text.after?_append_self]
  simp only [Option.bind_eq_bind, Option.bind_some, Text.cut?_of_inert (Text.inert_of_not_mem hvalue)]
  rfl

theorem Card.at?_of_after?_eq_none {text : Text}
    (h : Text.after? Kind.card.opening text = none) : Card.at? text = none := by
  simp [Card.at?, elementAt?_of_after?_eq_none h]

theorem cards_append_of_inert {piece : Text} (h : Inert Kind.card.opening piece) (text : Text) :
    cards (piece ++ text) = cards text := by
  induction piece with
  | nil => rfl
  | cons c piece ih =>
    have here : Card.at? (c :: (piece ++ text)) = none := Card.at?_of_after?_eq_none (h.head text)
    rw [List.cons_append, cards]
    split
    · rename_i h'
      rw [here] at h'
      cases h'
    · exact ih h.tail

theorem cards_of_at? {text rest : Text} {card : Card} (h : Card.at? text = some (card, rest)) :
    cards text = card :: cards rest := by
  cases text with
  | nil => simp [Card.at?, elementAt?, Text.after?, Kind.opening] at h
  | cons c text =>
    rw [cards]
    split
    · rename_i h'
      rw [h] at h'
      cases h'
      rfl
    · rename_i h'
      rw [h] at h'
      cases h'

end DocSite.Tag
