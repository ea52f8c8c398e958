import DocSite.Proofs.Text.Inert
import DocSite.Text.Digit

/-!
# XML documents

When a text is a well-formed document of XML 1.0, and which texts the elements of a name hold in it, told by the
productions of the grammar. Documents with a document type declaration are left out, so that the only entities
are the five that every document has.

An element that holds nothing but text is written as long as the text or longer, and as long only if the text is
written as it is (`Content.length_of_text`). The elements of a name that hold nothing but text stand apart from
each other, in the order of their texts (`Yields.spans`).
-/

namespace DocSite.Xml

/-! ## §1 Characters and names -/

/-- Whether the code point of a character is in one of some ranges. -/
def isIn (ranges : List (Nat × Nat)) (c : Char) : Bool :=
  ranges.any fun (first, last) => first ≤ c.toNat && c.toNat ≤ last

/-- The characters that a document may have. -/
def isCharacter (c : Char) : Bool :=
  isIn [(0x9, 0xA), (0xD, 0xD), (0x20, 0xD7FF), (0xE000, 0xFFFD), (0x10000, 0x10FFFF)] c

/-- White space. -/
def isSpace (c : Char) : Bool := c = ' ' || c = '\t' || c = '\n' || c = '\r'

/-- The characters that may begin a name. -/
def nameStarts : List (Nat × Nat) :=
  [(0x3A, 0x3A), (0x41, 0x5A), (0x5F, 0x5F), (0x61, 0x7A), (0xC0, 0xD6), (0xD8, 0xF6), (0xF8, 0x2FF),
    (0x370, 0x37D), (0x37F, 0x1FFF), (0x200C, 0x200D), (0x2070, 0x218F), (0x2C00, 0x2FEF), (0x3001, 0xD7FF),
    (0xF900, 0xFDCF), (0xFDF0, 0xFFFD), (0x10000, 0xEFFFF)]

/-- The characters that may only follow the first one of a name. -/
def nameRests : List (Nat × Nat) :=
  [(0x2D, 0x2E), (0x30, 0x39), (0xB7, 0xB7), (0x300, 0x36F), (0x203F, 0x2040)]

/-- Whether a text is a name. -/
def isName : Text → Bool
  | [] => false
  | c :: name => isIn nameStarts c && name.all (isIn (nameStarts ++ nameRests))

/-- The text with a line feed for every carriage return, and for every one with a line feed behind it: what a
document is read as. -/
def unifyBreaks : Text → Text
  | [] => []
  | c :: text =>
    -- The line feed behind a carriage return is kept, so that the return itself can go.
    if c = '\r' then if text.head? = some '\n' then unifyBreaks text else '\n' :: unifyBreaks text
    else c :: unifyBreaks text

/-! ## §2 Markup -/

/-- The entities that every document has. -/
def entities : List (Text × Char) :=
  [("amp".toList, '&'), ("lt".toList, '<'), ("gt".toList, '>'), ("quot".toList, '"'), ("apos".toList, '\x27')]

/-- What stands between `&` and `;` in a reference to a character. -/
inductive Refers : Text → Char → Prop where
  | entity {name : Text} {c : Char} (listed : (name, c) ∈ entities) : Refers name c
  | decimal {digits : Text} {c : Char} (filled : digits ≠ []) (digit : digits.all Char.isDigit = true)
      (value : Text.ofDigits 10 digits = c.toNat) (legal : isCharacter c = true) : Refers ('#' :: digits) c
  | hexadecimal {digits : Text} {c : Char} (filled : digits ≠ []) (digit : digits.all Text.isHexDigit = true)
      (value : Text.ofDigits 16 digits = c.toNat) (legal : isCharacter c = true) :
      Refers ('#' :: 'x' :: digits) c

/-- What may stand between two quotes as the value of an attribute. -/
inductive IsValue (quote : Char) : Text → Prop where
  | nil : IsValue quote []
  | character {c : Char} {rest : Text} (plain : c ≠ '<' ∧ c ≠ '&' ∧ c ≠ quote) (more : IsValue quote rest) :
      IsValue quote (c :: rest)
  | reference {name rest : Text} {c : Char} (refers : Refers name c) (more : IsValue quote rest) :
      IsValue quote ('&' :: (name ++ ';' :: rest))

/-- What may stand behind the name in an opening tag: attributes with different names, here with their values as
they are written. -/
inductive IsAttributes : Text → List (Text × Text) → Prop where
  | none (space : Text) (blank : space.all isSpace = true) : IsAttributes space []
  | next {space name before behind value rest : Text} {quote : Char} {more : List (Text × Text)}
      (apart : space ≠ []) (blank : (space ++ before ++ behind).all isSpace = true)
      (named : isName name = true) (fresh : ∀ other ∈ more, other.1 ≠ name)
      (quotes : quote = '"' ∨ quote = '\x27') (proper : IsValue quote value) (others : IsAttributes rest more) :
      IsAttributes (space ++ (name ++ (before ++ '=' :: (behind ++ quote :: (value ++ quote :: rest)))))
        ((name, value) :: more)

/-- Comments and processing instructions. -/
inductive IsRemark : Text → Prop where
  | comment {inner : Text} (single : ¬ "--".toList <:+: inner ++ ['-']) :
      IsRemark ("<!--".toList ++ (inner ++ "-->".toList))
  | instruction {target inner : Text} (named : isName target = true)
      (other : target.map Char.toLower ≠ "xml".toList) (apart : ∀ c ∈ inner.head?, isSpace c = true)
      (unclosed : ¬ "?>".toList <:+: inner) : IsRemark ("<?".toList ++ (target ++ (inner ++ "?>".toList)))

/-! ## §3 Content -/

/-- What a document is made of. Comments and processing instructions are left out, and so are attributes. -/
inductive Node where
  -- One by one, whether a character is written as it is, by a reference or in a section.
  | character (c : Char)
  | element (name : Text) (children : List Node)

/-- Text that stands for itself. -/
structure IsData (text : Text) : Prop where
  unmarked : ∀ c ∈ text, c ≠ '<' ∧ c ≠ '&'
  unended : ¬ "]]>".toList <:+: text

/-- What the content of an element stands for. -/
inductive Content : Text → List Node → Prop where
  | nil : Content [] []
  /-- Text reaches up to the next markup. -/
  | data {run rest : Text} {nodes : List Node} (plain : IsData run)
      (whole : ∀ c ∈ rest.head?, c = '<' ∨ c = '&') (more : Content rest nodes) :
      Content (run ++ rest) (run.map .character ++ nodes)
  | reference {name rest : Text} {c : Char} {nodes : List Node} (refers : Refers name c)
      (more : Content rest nodes) : Content ('&' :: (name ++ ';' :: rest)) (.character c :: nodes)
  | literal {run rest : Text} {nodes : List Node} (unended : ¬ "]]>".toList <:+: run) (more : Content rest nodes) :
      Content ("<![CDATA[".toList ++ (run ++ ("]]>".toList ++ rest))) (run.map .character ++ nodes)
  | remark {remark rest : Text} {nodes : List Node} (remarks : IsRemark remark) (more : Content rest nodes) :
      Content (remark ++ rest) nodes
  | element {name inside inner rest : Text} {attributes : List (Text × Text)} {children nodes : List Node}
      (named : isName name = true) (tagged : IsAttributes inside attributes) (content : Content inner children)
      (space : Text) (blank : space.all isSpace = true) (more : Content rest nodes) :
      Content ('<' :: (name ++ (inside ++ '>' :: (inner ++ ("</".toList ++ (name ++ (space ++ '>' :: rest)))))))
        (.element name children :: nodes)
  | empty {name inside rest : Text} {attributes : List (Text × Text)} {nodes : List Node}
      (named : isName name = true) (tagged : IsAttributes inside attributes) (more : Content rest nodes) :
      Content ('<' :: (name ++ (inside ++ ("/>".toList ++ rest)))) (.element name [] :: nodes)

/-! ## §4 Documents -/

/-- The declaration that may begin a document. The text has been read from UTF-8, so no other encoding may be
declared. -/
inductive IsDeclaration : Text → Prop where
  | absent : IsDeclaration []
  | present {inside : Text} (digits : Text) (encoding standalone : List (Text × Text)) (filled : digits ≠ [])
      (digit : digits.all Char.isDigit = true)
      (utf8 : encoding = [] ∨ encoding = [("encoding".toList, "UTF-8".toList)])
      (answer : standalone = [] ∨ standalone = [("standalone".toList, "yes".toList)] ∨
        standalone = [("standalone".toList, "no".toList)])
      (tagged : IsAttributes inside (("version".toList, "1.".toList ++ digits) :: (encoding ++ standalone))) :
      IsDeclaration ("<?xml".toList ++ (inside ++ "?>".toList))

/-- What may stand in front of the root of a document and behind it. -/
inductive IsMisc : Text → Prop where
  | nil : IsMisc []
  | space {c : Char} {rest : Text} (blank : isSpace c = true) (more : IsMisc rest) : IsMisc (c :: rest)
  | remark {remark rest : Text} (remarks : IsRemark remark) (more : IsMisc rest) : IsMisc (remark ++ rest)

/-- A text is a well-formed document with a root of some name and with some children. -/
structure IsDocument (text name : Text) (children : List Node) : Prop where
  legal : ∀ c ∈ text, isCharacter c = true
  -- Remarks beside the root may be told with it as well as with what stands around it.
  written : ∃ declaration before root behind, unifyBreaks text = declaration ++ (before ++ (root ++ behind)) ∧
    IsDeclaration declaration ∧ IsMisc before ∧ Content root [.element name children] ∧ IsMisc behind

/-- All elements of a name hold nothing but text, and these are their texts, in order. -/
inductive Holds (name : Text) : List Node → List Text → Prop where
  | nil : Holds name [] []
  | character {c : Char} {nodes : List Node} {texts : List Text} (more : Holds name nodes texts) :
      Holds name (.character c :: nodes) texts
  -- There is no case for an element of the name with elements in it: it holds more than text.
  | named {text : Text} {nodes : List Node} {texts : List Text} (more : Holds name nodes texts) :
      Holds name (.element name (text.map .character) :: nodes) (text :: texts)
  | other {kind : Text} {children nodes : List Node} {inner texts : List Text} (ne : kind ≠ name)
      (inside : Holds name children inner) (more : Holds name nodes texts) :
      Holds name (.element kind children :: nodes) (inner ++ texts)

/-- A text is a well-formed document in which the elements of a name hold some texts, in order. -/
def Yields (name text : Text) (texts : List Text) : Prop :=
  ∃ kind children, IsDocument text kind children ∧ Holds name [.element kind children] texts

/-- Text that stands for itself wherever it is put between two tags of a document. -/
structure IsPlain (text : Text) : Prop extends IsData text where
  legal : ∀ c ∈ text, isCharacter c = true
  unbroken : '\r' ∉ text

/-! ## §5 Line breaks -/

theorem unifyBreaks_of_notMem {text : Text} (h : '\r' ∉ text) : unifyBreaks text = text := by
  induction text with
  | nil => rfl
  | cons c text ih =>
    simp only [List.mem_cons, not_or] at h
    rw [unifyBreaks, if_neg (Ne.symm h.1), ih h.2]

/-- Line breaks do not go across the end of a text with something else than a line feed behind it. -/
theorem unifyBreaks_append {behind : Text} (h : behind.head? ≠ some '\n') (text : Text) :
    unifyBreaks (text ++ behind) = unifyBreaks text ++ unifyBreaks behind := by
  induction text with
  | nil => rfl
  | cons c text ih =>
    have next : (text ++ behind).head? = some '\n' ↔ text.head? = some '\n' := by
      cases text <;> simp [h]
    simp only [List.cons_append, unifyBreaks, next, ih]
    by_cases breaks : c = '\r'
    · by_cases feed : text.head? = some '\n' <;> simp [breaks, feed]
    · simp [breaks]

theorem unifyBreaks_append_of_notMem {text : Text} (h : '\r' ∉ text) (behind : Text) :
    unifyBreaks (text ++ behind) = text ++ unifyBreaks behind := by
  induction text with
  | nil => rfl
  | cons c text ih =>
    simp only [List.mem_cons, not_or] at h
    rw [List.cons_append, unifyBreaks, if_neg (Ne.symm h.1), ih h.2, List.cons_append]

theorem length_unifyBreaks_le (text : Text) : (unifyBreaks text).length ≤ text.length := by
  induction text with
  | nil => exact Nat.le.refl
  | cons c text ih =>
    rw [unifyBreaks]
    split <;> [split; skip] <;> simp <;> omega

theorem notMem_unifyBreaks (text : Text) : '\r' ∉ unifyBreaks text := by
  induction text with
  | nil => exact List.not_mem_nil
  | cons c text ih =>
    rw [unifyBreaks]
    split
    · split
      · exact ih
      · simp [ih]
    · rename_i other
      simp [ih, Ne.symm other]

/-! ## §6 Text in elements -/

/-- Nodes that begin with characters and are text as a whole go on with text. -/
theorem exists_of_characters {run text : Text} {nodes : List Node}
    (h : run.map .character ++ nodes = text.map .character) :
    ∃ rest, text = run ++ rest ∧ nodes = rest.map .character := by
  obtain ⟨front, rest, rfl, same, left⟩ := List.map_eq_append_iff.mp h.symm
  obtain rfl : front = run := List.map_injective_iff.mpr (fun _ _ => Node.character.inj) same
  exact ⟨rest, rfl, left.symm⟩

/-- What holds nothing but text is written at least as long as the text, and longer than the text unless it is
written as it is. -/
theorem Content.length_of_text {inner text : Text} {nodes : List Node} (h : Content inner nodes)
    (only : nodes = text.map .character) :
    text.length ≤ inner.length ∧ (text.length = inner.length → inner = text ∧ IsData text) := by
  induction h generalizing text with
  | nil =>
    obtain rfl : text = [] := List.map_eq_nil_iff.mp only.symm
    exact ⟨Nat.le.refl, fun _ => ⟨rfl, by simp, by decide⟩⟩
  | @data run rest nodes plain whole more ih =>
    obtain ⟨_, rfl, left⟩ := exists_of_characters only
    obtain ⟨le, equal⟩ := ih left
    simp only [List.length_append]
    refine ⟨by omega, fun lengths => ?_⟩
    obtain ⟨rfl, data⟩ := equal (by omega)
    -- Text that goes on behind the run would begin with markup.
    cases rest with
    | nil => exact ⟨rfl, by simpa using plain⟩
    | cons c rest => exact absurd (whole c rfl) (not_or.mpr (data.unmarked c List.mem_cons_self))
  | @reference name rest c nodes refers more ih =>
    cases text with
    | nil => cases only
    | cons d text =>
      obtain ⟨-, left⟩ := List.cons.inj only
      obtain ⟨le, -⟩ := ih left
      simp only [List.length_append, List.length_cons]
      omega
  | @literal run rest nodes unended more ih =>
    obtain ⟨_, rfl, left⟩ := exists_of_characters only
    obtain ⟨le, -⟩ := ih left
    have opening : "<![CDATA[".toList.length = 9 := rfl
    simp only [List.length_append]
    omega
  | @remark remark rest nodes remarks more ih =>
    obtain ⟨le, -⟩ := ih only
    have long : 0 < remark.length := by cases remarks <;> simp
    simp only [List.length_append]
    omega
  | element =>
    cases text <;> cases only
  | empty =>
    cases text <;> cases only

/-! ## §7 Writing content -/

/-- A value without a quote, `<` and `&` may be put between quotes. -/
theorem isValue_of_plain {quote : Char} {value : Text}
    (h : value.all (fun c => c ≠ '<' && c ≠ '&' && c ≠ quote) = true) : IsValue quote value := by
  induction value with
  | nil => exact .nil
  | cons c value ih =>
    simp only [List.all_cons, Bool.and_eq_true, decide_eq_true_eq, and_assoc] at h
    exact .character ⟨h.1, h.2.1, h.2.2.1⟩ (ih h.2.2.2)

/-- An attribute in double quotes whose value stands for itself. -/
theorem IsAttributes.quoted (name value : Text) {rest : Text} {more : List (Text × Text)} (named : isName name = true)
    (fresh : ∀ other ∈ more, other.1 ≠ name)
    (plain : value.all (fun c => c ≠ '<' && c ≠ '&' && c ≠ '"') = true) (others : IsAttributes rest more) :
    IsAttributes (' ' :: (name ++ '=' :: '"' :: (value ++ '"' :: rest))) ((name, value) :: more) :=
  @IsAttributes.next [' '] name [] [] value rest '"' more (by simp) (by decide) named fresh (.inl rfl)
    (isValue_of_plain plain) others

/-- Text that stands for itself, as all of some content. -/
theorem IsData.content {text : Text} (h : IsData text) : Content text (text.map .character) := by
  have content := Content.data h (by simp) .nil
  simpa only [List.append_nil] using content

/-- An element without attributes. -/
theorem Content.bare (name : Text) {inner rest : Text} {children nodes : List Node} (named : isName name = true)
    (content : Content inner children) (more : Content rest nodes) :
    Content ('<' :: (name ++ '>' :: (inner ++ ("</".toList ++ (name ++ '>' :: rest)))))
      (.element name children :: nodes) :=
  .element named (.none [] rfl) content [] rfl more

/-! ## §8 Elements of a name -/

/-- What is held behind characters is held with them. -/
theorem holds_characters_iff {name : Text} {nodes : List Node} {texts : List Text} (run : Text) :
    Holds name (run.map .character ++ nodes) texts ↔ Holds name nodes texts := by
  induction run with
  | nil => rfl
  | cons c run ih =>
    rw [← ih]
    constructor
    · intro h
      cases h with
      | character more => exact more
    · exact .character

/-- A text has room for elements of a name that hold nothing but text, one behind the other. Each is an element
whose inner text is as long as what it holds or longer, or one without anything in it. -/
inductive Spans (name : Text) : Text → List Text → Prop where
  | none (text : Text) : Spans name text []
  | element (before : Text) {tag inner behind text : Text} {texts : List Text} (tagged : tag ≠ [])
      (long : text.length ≤ inner.length) (equal : text.length = inner.length → inner = text ∧ IsData text)
      (more : Spans name behind texts) :
      Spans name (before ++ ('<' :: (name ++ (tag ++ (inner ++ ("</".toList ++ (name ++ behind)))))))
        (text :: texts)
  | empty (before : Text) {tag behind : Text} {texts : List Text} (tagged : tag ≠ [])
      (more : Spans name behind texts) :
      Spans name (before ++ ('<' :: (name ++ (tag ++ behind)))) ([] :: texts)

variable {name : Text}

theorem Spans.behind {text : Text} {texts : List Text} (h : Spans name text texts) (before : Text) :
    Spans name (before ++ text) texts := by
  cases h with
  | none => exact .none _
  | element _ tagged long equal more =>
    rw [← List.append_assoc]
    exact .element _ tagged long equal more
  | empty _ tagged more =>
    rw [← List.append_assoc]
    exact .empty _ tagged more

theorem Spans.append {text text' : Text} {texts texts' : List Text} (h : Spans name text texts)
    (h' : Spans name text' texts') : Spans name (text ++ text') (texts ++ texts') := by
  induction h with
  | none text => exact h'.behind text
  | element _ tagged long equal more ih =>
    simp only [List.append_assoc, List.cons_append]
    exact .element _ tagged long equal ih
  | empty _ tagged more ih =>
    simp only [List.append_assoc, List.cons_append]
    exact .empty _ tagged ih

/-- The elements of a name in some content stand apart from each other. -/
theorem Content.spans {text : Text} {nodes : List Node} {texts : List Text} (h : Content text nodes)
    (holds : Holds name nodes texts) : Spans name text texts := by
  induction h generalizing texts with
  | nil =>
    cases holds
    exact .none []
  | @data run rest nodes plain whole more ih =>
    exact (ih ((holds_characters_iff run).mp holds)).behind run
  | @reference name rest c nodes refers more ih =>
    cases holds with
    | character holds =>
      have spans := (ih holds).behind ('&' :: (name ++ [';']))
      simpa only [List.cons_append, List.append_assoc, List.nil_append] using spans
  | @literal run rest nodes unended more ih =>
    rw [← List.append_assoc, ← List.append_assoc]
    exact (ih ((holds_characters_iff run).mp holds)).behind _
  | remark remarks more ih => exact (ih holds).behind _
  | @element kind inside inner rest attributes children nodes _ _ content space _ _ ihInner ihRest =>
    cases holds with
    | @named text _ texts more =>
      obtain ⟨long, equal⟩ := content.length_of_text rfl
      have tagged : inside ++ ['>'] ≠ [] := by simp
      have spans := Spans.element [] tagged long equal ((ihRest more).behind (space ++ ['>']))
      simpa only [List.append_assoc, List.cons_append, List.nil_append] using spans
    | other _ held more =>
      have spans := ((ihInner held).append ((ihRest more).behind ("</".toList ++ (kind ++ (space ++ ['>']))))).behind
        ('<' :: (kind ++ (inside ++ ['>'])))
      simpa only [List.append_assoc, List.cons_append, List.nil_append] using spans
  | @empty kind inside rest attributes nodes _ _ _ ih =>
    generalize children : ([] : List Node) = none at holds
    cases holds with
    | named more =>
      obtain rfl := List.map_eq_nil_iff.mp children.symm
      have tagged : inside ++ "/>".toList ≠ [] := by simp
      have spans := Spans.empty [] tagged (ih more)
      simpa only [List.append_assoc, List.nil_append] using spans
    | other _ held more =>
      subst children
      cases held
      have spans := (ih more).behind ('<' :: (kind ++ (inside ++ "/>".toList)))
      simpa only [List.append_assoc, List.cons_append, List.nil_append] using spans

theorem Yields.spans {text : Text} {texts : List Text} (h : Yields name text texts) :
    Spans name (unifyBreaks text) texts := by
  obtain ⟨kind, children, ⟨_, declaration, before, root, behind, whole, _, _, content, _⟩, holds⟩ := h
  have spans := (content.spans holds).append (.none behind)
  rw [List.append_nil] at spans
  rw [whole, ← List.append_assoc]
  exact spans.behind _

end DocSite.Xml
