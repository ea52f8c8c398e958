import DocSite.Tag.Element

/-!
# Cards

A card is a link with a title and a description, written as a `<Card>` element inside a card
group. The attributes of an opening tag are the `name="value"` pairs found in its attribute text
from left to right; whatever stands between them is passed over.
-/

namespace DocSite.Tag

/-! ## §1 Attributes -/

/-- Letters of the English alphabet. -/
def isNameStart (c : Char) : Bool := c.isAlpha

/-- Characters that may follow the first one in the name of an attribute. -/
def isNameRest (c : Char) : Bool := c.isAlphanum || c = '_' || c = '-'

/-- An attribute of an opening tag. -/
structure Attribute where
  name : Text
  value : Text
  deriving DecidableEq, Repr

/-- The attribute that starts a text, and the text behind its closing quote. -/
def Attribute.at? : Text → Option (Attribute × Text)
  | [] => none
  | c :: text =>
    if isNameStart c then do
      let quoted ← Text.after? "=\"".toList (text.dropWhile isNameRest)
      let (value, rest) ← Text.cut? ['"'] quoted
      return (⟨c :: text.takeWhile isNameRest, value⟩, rest)
    else none

/-- The leftmost attribute of a text, between the text before and the text behind it. -/
def Attribute.find? : Text → Option (Text × Attribute × Text)
  | [] => none
  | c :: text =>
    match Attribute.at? (c :: text) with
    | some (attr, rest) => some ([], attr, rest)
    | none => (Attribute.find? text).map fun (before, found) => (c :: before, found)

/-- The attribute as it is written in an opening tag. -/
def Attribute.written (attr : Attribute) : Text :=
  attr.name ++ "=\"".toList ++ attr.value ++ ['"']

theorem Attribute.utf8Length_written (attr : Attribute) :
    attr.written.utf8Length = attr.name.utf8Length + attr.value.utf8Length + 3 := by
  simp only [Attribute.written, Text.utf8Length_append]
  rw [show Text.utf8Length "=\"".toList = 2 from rfl, show Text.utf8Length ['"'] = 1 from rfl]
  omega

/-- A text in which an attribute is read begins with the attribute as it is written. -/
theorem Attribute.eq_of_at? {text rest : Text} {attr : Attribute}
    (h : Attribute.at? text = some (attr, rest)) : text = attr.written ++ rest := by
  cases text with
  | nil => simp [Attribute.at?] at h
  | cons c text =>
    simp only [Attribute.at?] at h
    split at h
    · simp only [Option.bind_eq_bind, Option.bind_eq_some_iff, Prod.exists, pure,
        Option.some.injEq, Prod.mk.injEq] at h
      obtain ⟨q, hq, v, r, hv, rfl, rfl⟩ := h
      have behind : text.dropWhile isNameRest = "=\"".toList ++ (v ++ ['"'] ++ r) := by
        rw [← Text.cut?_eq_some hv]
        exact Text.after?_eq_some_iff.1 hq
      have whole := List.takeWhile_append_dropWhile (p := isNameRest) (l := text)
      rw [behind] at whole
      simpa [Attribute.written] using whole.symm
    · simp at h

/-- A text in which an attribute is found is the text before it, the attribute as it is written, and the
text behind it. -/
theorem Attribute.eq_of_find? {text before rest : Text} {attr : Attribute}
    (h : Attribute.find? text = some (before, attr, rest)) :
    text = before ++ attr.written ++ rest := by
  induction text generalizing before attr rest with
  | nil => simp [Attribute.find?] at h
  | cons c text ih =>
    simp only [Attribute.find?] at h
    split at h
    · rename_i hr
      simp only [Option.some.injEq, Prod.mk.injEq] at h
      obtain ⟨rfl, rfl, rfl⟩ := h
      simpa using Attribute.eq_of_at? hr
    · simp only [Option.map_eq_some_iff, Prod.mk.injEq, Prod.exists] at h
      obtain ⟨b, a, r, hb, rfl, rfl, rfl⟩ := h
      simp [ih hb]

theorem Attribute.length_of_find? {text before rest : Text} {attr : Attribute}
    (h : Attribute.find? text = some (before, attr, rest)) : rest.length < text.length := by
  rw [Attribute.eq_of_find? h]
  simp only [Attribute.written, List.length_append, List.length_cons]
  omega

/-- All attributes of a text, from left to right. -/
def Attribute.all (text : Text) : List Attribute :=
  match _h : Attribute.find? text with
  | none => []
  | some (_, attr, rest) => attr :: Attribute.all rest
termination_by text.length
decreasing_by exact Attribute.length_of_find? _h

/-- A text has room for each of its attributes. -/
theorem Attribute.utf8Length_le_of_mem_all {text : Text} {attr : Attribute}
    (h : attr ∈ Attribute.all text) : attr.written.utf8Length ≤ text.utf8Length := by
  fun_induction Attribute.all text with
  | case1 => simp at h
  | case2 text before first rest found ih =>
    rw [Attribute.eq_of_find? found]
    simp only [Text.utf8Length_append]
    rcases List.mem_cons.1 h with rfl | h
    · omega
    · have := ih h
      omega

/-! ## §2 Cards -/

/-- The tag of a single card. -/
def Kind.card : Kind := ⟨"Card".toList, .spaced⟩

/-- A link with a description. -/
structure Card where
  title : Text
  href : Text
  body : Text
  deriving DecidableEq, Repr

/-- The card that an element describes: `title` has to be its first attribute, with nothing but
blank space before it, and `href` a later one. -/
def Card.ofElement? (element : Element) : Option Card := do
  let (before, first, rest) ← Attribute.find? element.attributes
  if first.name = "title".toList ∧ before.all Text.isBlank then
    let href ← (Attribute.all rest).find? (·.name = "href".toList)
    return ⟨first.value, href.value, Text.trim element.inner⟩
  else none

/-- A card as an item of a bullet list. -/
def Card.toMarkdown (card : Card) : Text :=
  "- [**".toList ++ card.title ++ "**](".toList ++ card.href ++ ") — ".toList ++ card.body

/-- The usable card at the start of a text, and the text behind its closing tag. -/
def Card.at? (text : Text) : Option (Card × Text) := do
  let (element, rest) ← elementAt? .card text
  let card ← Card.ofElement? element
  return (card, rest)

theorem Card.length_of_at? {text rest : Text} {card : Card}
    (h : Card.at? text = some (card, rest)) : rest.length < text.length := by
  simp only [Card.at?, Option.bind_eq_bind, Option.bind_eq_some_iff, Prod.exists, pure,
    Option.some.injEq, Prod.mk.injEq] at h
  obtain ⟨e, r, he, c, -, -, rfl⟩ := h
  exact length_of_elementAt? he

/-- The usable cards of a text, from left to right: the first one, then the first one behind it,
and so on. A card that cannot be used hides nothing that starts inside it. -/
def cards : Text → List Card
  | [] => []
  | c :: text =>
    match _h : Card.at? (c :: text) with
    | some (card, rest) => card :: cards rest
    | none => cards text
termination_by text => text.length
decreasing_by
  · exact Card.length_of_at? _h
  · simp

/-! ## §3 Sizes -/

theorem Card.utf8Length_toMarkdown (card : Card) :
    card.toMarkdown.utf8Length =
      card.title.utf8Length + card.href.utf8Length + card.body.utf8Length + 15 := by
  unfold Card.toMarkdown
  simp only [Text.utf8Length_append]
  rw [show Text.utf8Length "- [**".toList = 5 from rfl,
    show Text.utf8Length "**](".toList = 4 from rfl,
    show Text.utf8Length ") — ".toList = 6 from rfl]
  omega

/-- An item of a list with its line feed is shorter than the card that it stands for. -/
theorem Card.utf8Length_of_ofElement? {element : Element} {card : Card}
    (h : Card.ofElement? element = some card) :
    card.toMarkdown.utf8Length + 1 < (element.written .card).utf8Length := by
  simp only [Card.ofElement?, Option.bind_eq_bind, Option.bind_eq_some_iff, Prod.exists] at h
  obtain ⟨before, title, rest, found, h⟩ := h
  split at h
  · rename_i named
    simp only [Option.bind_eq_some_iff, pure, Option.some.injEq] at h
    obtain ⟨href, hfind, rfl⟩ := h
    have called : href.name = "href".toList := by simpa using List.find?_some hfind
    have room := Attribute.utf8Length_le_of_mem_all (List.mem_of_find?_eq_some hfind)
    have body := Text.utf8Length_le_of_sublist (Text.trim_sublist element.inner)
    have attributes := congrArg Text.utf8Length (Attribute.eq_of_find? found)
    rw [Attribute.utf8Length_written, called, show Text.utf8Length "href".toList = 4 from rfl]
      at room
    rw [Text.utf8Length_append, Text.utf8Length_append, Attribute.utf8Length_written, named.1,
      show Text.utf8Length "title".toList = 5 from rfl] at attributes
    rw [Card.utf8Length_toMarkdown, Element.utf8Length_written,
      show Text.utf8Length Kind.card.name = 4 from rfl]
    dsimp only
    omega
  · simp at h

theorem Card.utf8Length_of_at? {text rest : Text} {card : Card}
    (h : Card.at? text = some (card, rest)) :
    card.toMarkdown.utf8Length + 1 + rest.utf8Length < text.utf8Length := by
  simp only [Card.at?, Option.bind_eq_bind, Option.bind_eq_some_iff, Prod.exists, pure,
    Option.some.injEq, Prod.mk.injEq] at h
  obtain ⟨element, r, read, c, usable, rfl, rfl⟩ := h
  have shorter := Card.utf8Length_of_ofElement? usable
  rw [eq_of_elementAt? read, Text.utf8Length_append]
  omega

/-- A list of cards takes no more room than the text that they were found in. -/
theorem utf8Length_cards_le (text : Text) :
    (Text.join ['\n'] ((cards text).map Card.toMarkdown)).utf8Length ≤ text.utf8Length := by
  refine Nat.le_trans (Text.utf8Length_join_le _ _) ?_
  fun_induction cards text with
  | case1 => simp
  | case2 c text card rest found ih =>
    have shorter := Card.utf8Length_of_at? found
    have feed : Text.utf8Length ['\n'] = 1 := rfl
    simp only [List.map_cons, List.flatMap_cons, Text.utf8Length_append, feed] at ih ⊢
    omega
  | case3 c text _ ih => exact Nat.le_trans ih (Text.utf8Length_cons c text ▸ Nat.le_add_left _ _)

end DocSite.Tag
