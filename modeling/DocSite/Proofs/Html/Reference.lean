import DocSite.Html.Escape
import DocSite.Proofs.Text.Inert
import DocSite.Text.Digit

/-!
# Character references

What is written into a page is escaped: characters with a meaning in markup are written as references. Who reads
the page resolves the references again. Here is how (`unescape`), and the two ways cancel out: however a text
is escaped, its reader gets the text (`unescape_escapeText`, `unescape_escapeAttr`, `unescape_escapeSafe`).

What is escaped is no markup (`IsEscaped`), and it ends no value that a quote has begun (`notMem_escapeAttr`,
`notMem_escapeSafe`, `quote_notMem_escapeHref`).
-/

namespace DocSite.Html

/-! ## §1 Reading references -/

/-- The characters that have a name in every kind of markup. -/
def namedChars : List (Text × Char) :=
  [("amp".toList, '&'), ("lt".toList, '<'), ("gt".toList, '>'), ("quot".toList, '"'),
    ("apos".toList, '\x27')]

/-- The character with a number that is written in a base, if there is one. -/
def numbered? (base : Nat) (isBaseDigit : Char → Bool) (digits : Text) : Option Char :=
  if !digits.isEmpty && digits.all isBaseDigit && (Text.ofDigits base digits).isValidChar then
    some (Char.ofNat (Text.ofDigits base digits))
  else none

/-- The character that a reference stands for, by what is written between `&` and `;`. -/
def referenced? : Text → Option Char
  | '#' :: 'x' :: digits => numbered? 16 Text.isHexDigit digits
  | '#' :: digits => numbered? 10 Char.isDigit digits
  | name => (namedChars.find? (·.1 = name)).map (·.2)

/-- The text with its references resolved. What is no reference stands for itself. -/
def unescape : Text → Text
  | [] => []
  | c :: text =>
    match _h : Text.cut? [';'] text with
    | none => c :: unescape text
    | some (name, rest) =>
      match if c = '&' then referenced? name else none with
      | some found => found :: unescape rest
      | none => c :: unescape text
termination_by text => text.length
decreasing_by
  all_goals simp only [List.length_cons]
  · omega
  · have := Text.length_of_cut? _h
    omega
  · omega

theorem unescape_cons_of_ne {c : Char} (h : c ≠ '&') (text : Text) :
    unescape (c :: text) = c :: unescape text := by
  rw [unescape]
  split
  · rfl
  · rw [if_neg h]

/-- What begins no reference is read as it stands. -/
theorem unescape_append {plain : Text} (h : '&' ∉ plain) (text : Text) :
    unescape (plain ++ text) = plain ++ unescape text := by
  induction plain with
  | nil => rfl
  | cons c plain ih =>
    have here : c ≠ '&' := fun same => h (same ▸ List.mem_cons_self ..)
    rw [List.cons_append, unescape_cons_of_ne here, ih fun mem => h (List.mem_cons_of_mem c mem),
      List.cons_append]

/-- A reference is read as its character. -/
theorem unescape_reference {name : Text} {c : Char} (h : referenced? name = some c)
    (ends : ';' ∉ name) (rest : Text) :
    unescape ('&' :: (name ++ ';' :: rest)) = c :: unescape rest := by
  -- The semicolon behind the name is the first one.
  have cut : Text.cut? [';'] (name ++ ';' :: rest) = some (name, rest) :=
    Text.cut?_of_inert (Text.inert_of_not_mem ends) rest
  rw [unescape]
  split
  case h_1 none => cases cut.symm.trans none
  case h_2 found =>
    cases cut.symm.trans found
    rw [if_pos rfl, h]

/-! ## §2 Reading what was escaped -/

/-- What stands for a character is read as the character. -/
def Stands (written : Text) (c : Char) : Prop :=
  ∀ rest, unescape (written ++ rest) = c :: unescape rest

/-- A character stands for itself if it begins no reference. -/
theorem stands_self {c : Char} (h : c ≠ '&') : Stands [c] c := unescape_cons_of_ne h

theorem stands_of_referenced? {name : Text} {c : Char} (h : referenced? name = some c)
    (ends : ';' ∉ name) : Stands ('&' :: (name ++ [';'])) c := fun rest => by
  rw [List.cons_append, List.append_assoc]
  exact unescape_reference h ends rest

/-- **A text is read from the characters that stand for its own.** -/
theorem unescape_flatMap {written : Char → Text} (h : ∀ c, Stands (written c) c) (text : Text) :
    unescape (text.flatMap written) = text := by
  induction text with
  | nil => rw [List.flatMap_nil, unescape]
  | cons c text ih => rw [List.flatMap_cons, h c, ih]

theorem stands_textChar (c : Char) : Stands (textChar c) c := by
  unfold textChar
  split
  · exact @stands_of_referenced? "amp".toList _ (by decide) (by decide)
  · exact @stands_of_referenced? "lt".toList _ (by decide) (by decide)
  · exact @stands_of_referenced? "gt".toList _ (by decide) (by decide)
  case h_4 amp _ _ => exact stands_self amp

theorem stands_attrChar (c : Char) : Stands (attrChar c) c := by
  unfold attrChar
  split
  · exact @stands_of_referenced? "quot".toList _ (by decide) (by decide)
  · exact @stands_of_referenced? "#39".toList _ (by decide) (by decide)
  · exact stands_textChar _

theorem stands_safeChar (c : Char) : Stands (safeChar c) c := by
  unfold safeChar
  split
  · exact @stands_of_referenced? "quot".toList _ (by decide) (by decide)
  · exact @stands_of_referenced? "#x27".toList _ (by decide) (by decide)
  · exact @stands_of_referenced? "#x2f".toList _ (by decide) (by decide)
  · exact stands_textChar _

/-- **Text between tags is read as it was.** -/
theorem unescape_escapeText (text : Text) : unescape (escapeText text) = text :=
  unescape_flatMap stands_textChar text

/-- **Text in the value of an attribute is read as it was.** -/
theorem unescape_escapeAttr (text : Text) : unescape (escapeAttr text) = text :=
  unescape_flatMap stands_attrChar text

/-- **Text anywhere in a page is read as it was.** -/
theorem unescape_escapeSafe (text : Text) : unescape (escapeSafe text) = text :=
  unescape_flatMap stands_safeChar text

/-! ## §3 Escaped text -/

/-- The characters between the ampersand and the semicolon of a reference. -/
def isReferenceChar (c : Char) : Bool := c.isAlphanum || c = '#'

/-- No bracket of a tag stands in a text, and every ampersand in it begins a reference. -/
inductive IsEscaped : Text → Prop
  | nil : IsEscaped []
  | plain {c : Char} {rest : Text} (less : c ≠ '<') (greater : c ≠ '>') (ampersand : c ≠ '&')
      (behind : IsEscaped rest) : IsEscaped (c :: rest)
  | reference {name rest : Text} {c : Char} (named : referenced? name = some c)
      (simple : name.all isReferenceChar = true) (behind : IsEscaped rest) :
      IsEscaped ('&' :: (name ++ ';' :: rest))

namespace IsEscaped

theorem append {s t : Text} (hs : IsEscaped s) (ht : IsEscaped t) : IsEscaped (s ++ t) := by
  induction hs with
  | nil => exact ht
  | plain less greater ampersand _ ih => exact .plain less greater ampersand ih
  | reference named simple _ ih =>
    rw [List.cons_append, List.append_assoc, List.cons_append]
    exact .reference named simple ih

/-- A text is escaped if its characters are. -/
theorem flatMap {written : Char → Text} (h : ∀ c, IsEscaped (written c)) (text : Text) :
    IsEscaped (text.flatMap written) := by
  induction text with
  | nil => exact .nil
  | cons c text ih => exact (h c).append ih

/-- No bracket of a tag stands in a text that is escaped. -/
theorem ne_of_mem {text : Text} (h : IsEscaped text) {d : Char} (mem : d ∈ text) :
    d ≠ '<' ∧ d ≠ '>' := by
  induction h with
  | nil => cases mem
  | plain less greater _ _ ih =>
    rcases List.mem_cons.mp mem with rfl | mem
    · exact ⟨less, greater⟩
    · exact ih mem
  | reference _ simple _ ih =>
    rcases List.mem_cons.mp mem with rfl | mem
    · decide
    rcases List.mem_append.mp mem with mem | mem
    · -- The brackets are no characters of references.
      have simple := List.all_eq_true.mp simple d mem
      constructor
      · rintro rfl
        exact absurd simple (by decide)
      · rintro rfl
        exact absurd simple (by decide)
    rcases List.mem_cons.mp mem with rfl | mem
    · decide
    · exact ih mem

end IsEscaped

theorem isEscaped_textChar (c : Char) : IsEscaped (textChar c) := by
  unfold textChar
  split
  · exact @IsEscaped.reference "amp".toList [] _ rfl (by decide) .nil
  · exact @IsEscaped.reference "lt".toList [] _ rfl (by decide) .nil
  · exact @IsEscaped.reference "gt".toList [] _ rfl (by decide) .nil
  case h_4 ampersand less greater => exact .plain less greater ampersand .nil

theorem isEscaped_attrChar (c : Char) : IsEscaped (attrChar c) := by
  unfold attrChar
  split
  · exact @IsEscaped.reference "quot".toList [] _ rfl (by decide) .nil
  · exact @IsEscaped.reference "#39".toList [] '\x27' (by decide) (by decide) .nil
  · exact isEscaped_textChar _

theorem isEscaped_safeChar (c : Char) : IsEscaped (safeChar c) := by
  unfold safeChar
  split
  · exact @IsEscaped.reference "quot".toList [] _ rfl (by decide) .nil
  · exact @IsEscaped.reference "#x27".toList [] '\x27' (by decide) (by decide) .nil
  · exact @IsEscaped.reference "#x2f".toList [] '/' (by decide) (by decide) .nil
  · exact isEscaped_textChar _

/-- **Nothing between tags is markup.** -/
theorem isEscaped_escapeText (text : Text) : IsEscaped (escapeText text) :=
  .flatMap isEscaped_textChar text

/-- **Nothing in the value of an attribute is markup.** -/
theorem isEscaped_escapeAttr (text : Text) : IsEscaped (escapeAttr text) :=
  .flatMap isEscaped_attrChar text

/-- **Nothing that is escaped for any place is markup.** -/
theorem isEscaped_escapeSafe (text : Text) : IsEscaped (escapeSafe text) :=
  .flatMap isEscaped_safeChar text

/-! ## §4 Values between quotes -/

/-- A quote is written between tags only for itself. -/
theorem eq_of_mem_textChar {c d : Char} (h : d ∈ textChar c) (quote : d = '"' ∨ d = '\x27') :
    c = d := by
  have reference {name : Text} (double : '"' ∉ name) (single : '\x27' ∉ name) (mem : d ∈ name) :
      c = d := by
    rcases quote with rfl | rfl
    · exact absurd mem double
    · exact absurd mem single
  unfold textChar at h
  split at h
  · exact reference (by decide) (by decide) h
  · exact reference (by decide) (by decide) h
  · exact reference (by decide) (by decide) h
  · exact (List.mem_singleton.mp h).symm

/-- No quote is written in the value of an attribute. -/
theorem notMem_escapeAttr {d : Char} (quote : d = '"' ∨ d = '\x27') (text : Text) :
    d ∉ escapeAttr text := by
  intro mem
  obtain ⟨c, -, mem⟩ := List.mem_flatMap.mp mem
  unfold attrChar at mem
  split at mem
  case h_1 | h_2 => rcases quote with rfl | rfl <;> exact absurd mem (by decide)
  case h_3 double single => rcases quote with rfl | rfl <;> grind [eq_of_mem_textChar]

/-- Nor is one written anywhere in a page. -/
theorem notMem_escapeSafe {d : Char} (quote : d = '"' ∨ d = '\x27') (text : Text) :
    d ∉ escapeSafe text := by
  intro mem
  obtain ⟨c, -, mem⟩ := List.mem_flatMap.mp mem
  unfold safeChar at mem
  split at mem
  case h_1 | h_2 | h_3 => rcases quote with rfl | rfl <;> exact absurd mem (by decide)
  case h_4 double single _ => rcases quote with rfl | rfl <;> grind [eq_of_mem_textChar]

/-- The code of a byte has a percent sign and digits, some of which are letters. -/
theorem eq_percent_or_isAlphanum {byte : UInt8} {d : Char} (h : d ∈ percentByte byte) :
    d = '%' ∨ d.isAlphanum = true := by
  have digit : ∀ n : Fin 16, (upperHexDigit n).isAlphanum = true := by decide
  have bound : byte.toNat < 256 := byte.toNat_lt
  rcases List.mem_cons.mp h with rfl | h
  · exact Or.inl rfl
  rcases List.mem_cons.mp h with rfl | h
  · exact Or.inr (digit ⟨byte.toNat / 16, by omega⟩)
  · obtain rfl := List.mem_singleton.mp h
    exact Or.inr (digit ⟨byte.toNat % 16, by omega⟩)

/-- No double quote is written in an address. -/
theorem quote_notMem_escapeHref (text : Text) : '"' ∉ escapeHref text := by
  intro mem
  obtain ⟨c, -, mem⟩ := List.mem_flatMap.mp mem
  unfold hrefChar at mem
  split at mem
  case isTrue plain =>
    obtain rfl := List.mem_singleton.mp mem
    exact absurd plain (by decide)
  split at mem
  case isTrue => exact absurd mem (by decide)
  split at mem
  case isTrue => exact absurd mem (by decide)
  case isFalse =>
    -- What is left are the codes of bytes.
    obtain ⟨byte, -, mem⟩ := List.mem_flatMap.mp mem
    exact absurd (eq_percent_or_isAlphanum mem) (by decide)

end DocSite.Html
