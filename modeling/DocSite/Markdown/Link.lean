import DocSite.Markdown.Basic
import DocSite.Markdown.Cursor
import DocSite.Text.CaseFold

/-!
# Links

The parts of links and link definitions: addresses between angle brackets, destinations, titles and
labels. A reader of this module takes a place in a passage and gives the place behind what it has read.
-/

namespace DocSite.Markdown

/-! ## §1 Addresses between angle brackets -/

/-- The address whose `<` has just been read, and the place behind its `>`. -/
def address? (passage : Passage) (place : Nat) : Option (Text × Nat) :=
  let isSchemeRest (c : Char) : Bool := c.isAlphanum || c = '.' || c = '-' || c = '+'
  let colon := passage.skip isSchemeRest place
  let length := colon - place
  if (passage.get? place).any Char.isAlpha && 2 ≤ length && length ≤ 32 &&
      passage.has colon ':' then
    let isInner (c : Char) : Bool := 0x20 < c.toNat && c ≠ '<' && c ≠ '>'
    let stop := passage.skip isInner colon
    if passage.has stop '>' then some (passage.slice place stop, stop + 1) else none
  else none

/-- The place behind the labels of a domain and the `>` that ends it; `fuel` is more than the number of
labels. -/
def afterDomain? (passage : Passage) : (fuel : Nat) → (place : Nat) → Option Nat
  | 0, _ => none
  | fuel + 1, place =>
    let stop := passage.skip (fun c => c.isAlphanum || c = '-') place
    if stop = place || place + 63 < stop || passage.has place '-' || passage.has (stop - 1) '-' then
      none
    else if passage.has stop '.' then afterDomain? passage fuel (stop + 1)
    else if passage.has stop '>' then some (stop + 1)
    else none

/-- The e-mail address whose `<` has just been read, and the place behind its `>`. -/
def email? (passage : Passage) (place : Nat) : Option (Text × Nat) :=
  let isLocal (c : Char) : Bool :=
    c.isAlphanum || ".!#$%&'*+/=?^_\x60\x7b|\x7d~-".toList.contains c
  let sign := passage.skip isLocal place
  if place < sign && passage.has sign '@' then
    (afterDomain? passage (passage.stop - sign + 1) (sign + 1)).map fun behind =>
      (passage.slice place (behind - 1), behind)
  else none

/-! ## §2 Destinations and titles -/

/-- Whether a backslash at a place escapes the character behind it. -/
def isEscape (passage : Passage) (place : Nat) : Bool :=
  passage.has place '\\' && (passage.get? (place + 1)).any Text.isAsciiPunctuation

/-- The place of the `>` that ends a destination between angle brackets; `fuel` is more than the number of
characters that are left. -/
def pointedEnd? (passage : Passage) : (fuel : Nat) → (place : Nat) → Option Nat
  | 0, _ => none
  | fuel + 1, place =>
    match passage.get? place with
    | none => none
    | some '>' => some place
    | some c =>
      if c = '\n' ∨ c = '\r' ∨ c = '<' then none
      else pointedEnd? passage fuel (if isEscape passage place then place + 2 else place + 1)

/-- How deep parentheses may be nested in a destination. -/
def maxParentheses : Nat := 32

/-- The place at which a destination without angle brackets ends, inside `depth` parentheses; `fuel` is more
than the number of characters that are left. -/
def bareEnd? (passage : Passage) : (fuel depth : Nat) → (place : Nat) → Option Nat
  | 0, _, _ => none
  | fuel + 1, depth, place =>
    match passage.get? place with
    | none => if depth = 0 then some place else none
    | some '(' => if maxParentheses < depth then none else bareEnd? passage fuel (depth + 1) (place + 1)
    | some ')' => if depth = 0 then some place else bareEnd? passage fuel (depth - 1) (place + 1)
    | some c =>
      if c.toNat ≤ 0x20 then if depth = 0 then some place else none
      else bareEnd? passage fuel depth (if isEscape passage place then place + 2 else place + 1)

/-- A destination as it is written, and the place behind it. -/
def dest? (passage : Passage) (place : Nat) : Option (Text × Nat) :=
  let fuel := passage.stop - place + 1
  if passage.has place '<' then
    (pointedEnd? passage fuel (place + 1)).map fun stop => (passage.slice (place + 1) stop, stop + 1)
  else (bareEnd? passage fuel 0 place).map fun stop => (passage.slice place stop, min stop passage.stop)

/-- The mark that closes a title. -/
def titleEnd? (opening : Char) : Option Char :=
  match opening with
  | '"' | '\x27' => some opening
  | '(' => some ')'
  | _ => none

/-! ## §3 Labels -/

/-- What has been read of a label. -/
structure Label where
  /-- The characters, last one first. -/
  chars : Text := []
  /-- What counts against the limit for labels: blank characters, escapes, and the bytes of characters
  beyond ASCII. -/
  weight : Nat := 0
  /-- Whether there is more than blank space in it. -/
  filled : Bool := false

/-- The most that may count against the limit for labels. -/
def maxLabelWeight : Nat := 1000

/-- The place behind blank space in a label, with at most one line break in it. `within?` gives the place
behind the marks at the start of a line, if the label may go on there. -/
def afterLabelBlank? (passage : Passage) (within? : Nat → Option Nat) (place : Nat) : Option Nat :=
  let inner := passage.skip isSpace place
  match passage.get? inner with
  | none => some inner
  | some _ =>
    match passage.afterBreak? inner with
    | none => some inner
    | some behind => do
      let inner := passage.skip isSpace (← within? behind)
      if inner < passage.stop && passage.isEnd inner then none else some inner

/-- The label up to its closing bracket, and the place behind that; `fuel` is more than the number of
characters that are left. -/
def labelFrom? (passage : Passage) (inTable : Bool) (within? : Nat → Option Nat) :
    (fuel : Nat) → (label : Label) → (place : Nat) → Option (Label × Nat)
  | 0, _, _ => none
  | fuel + 1, label, place =>
    if maxLabelWeight ≤ label.weight then none
    else
      match passage.get? place with
      | none => none
      | some '[' => none
      | some ']' => some (label, place + 1)
      | some '\\' =>
        match passage.get? (place + 1) with
        | none => none
        | some c =>
          -- In a table, the backslash is there for the bar only.
          let chars := if inTable && c = '|' then '|' :: label.chars else c :: '\\' :: label.chars
          let label := ⟨chars, label.weight + 1 + c.utf8Size, true⟩
          labelFrom? passage inTable within? fuel label (place + 2)
      | some c =>
        if isSpaceOrBreak c then do
          let behind ← afterLabelBlank? passage within? place
          let label :=
            { label with chars := ' ' :: label.chars, weight := label.weight + (behind - place) }
          labelFrom? passage inTable within? fuel label behind
        else
          -- Of two backslashes before a bar in a table, one is there for the bar.
          let chars := if inTable && c = '|' && passage.before? place = some '\\' then
            '|' :: label.chars.drop 1 else c :: label.chars
          let weight := if c.toNat < 0x80 then 0 else c.utf8Size
          labelFrom? passage inTable within? fuel ⟨chars, label.weight + weight, true⟩ (place + 1)

/-- The label whose opening bracket stands before a place, and the place behind its closing bracket. Blank
space in it is as good as a single space, and none at its ends counts. -/
def label? (passage : Passage) (inTable : Bool) (within? : Nat → Option Nat) (place : Nat) :
    Option (Text × Nat) := do
  let (label, behind) ← labelFrom? passage inTable within? (passage.stop - place + 1) {} place
  if label.filled then
    let isSpace (c : Char) : Bool := c = ' '
    return ((label.chars.dropWhile isSpace).reverse.dropWhile isSpace, behind)
  else none

/-- The label of a footnote whose `[^` stands before a place, and the place behind its closing bracket. It
stands on one line. -/
def footnoteLabel? (passage : Passage) (inTable : Bool) (place : Nat) : Option (Text × Nat) :=
  label? passage inTable (fun _ => none) place

/-- The label of the footnote that is defined at a place, and the place behind the colon. -/
def footnoteStart? (passage : Passage) (place : Nat) : Option (Text × Nat) := do
  let inner ← passage.behind? "[^".toList place
  let (label, behind) ← footnoteLabel? passage false inner
  if passage.has behind ':' then some (label, behind + 1) else none

/-! ## §4 References -/

/-- What a document defines for its links and footnotes to refer to. Labels are held in folded
case. -/
structure References where
  /-- The targets of link labels; of two definitions of a label, the first one counts. -/
  targets : List (Text × Target) := []
  /-- The labels of footnotes. -/
  footnotes : List Text := []
  deriving Repr, Inhabited

/-- The target of a link label. -/
def References.target? (references : References) (label : Text) : Option Target :=
  let folded := Text.foldCase label
  (references.targets.find? (·.1 = folded)).map (·.2)

/-- Whether there is a footnote with a label. -/
def References.hasFootnote (references : References) (label : Text) : Bool :=
  references.footnotes.contains (Text.foldCase label)

/-- The references with one more link definition. -/
def References.define (references : References) (label : Text) (target : Target) : References :=
  if (references.target? label).isSome then references
  else { references with targets := references.targets ++ [(Text.foldCase label, target)] }

/-- The references with one more footnote. -/
def References.addFootnote (references : References) (label : Text) : References :=
  { references with footnotes := Text.foldCase label :: references.footnotes }

end DocSite.Markdown
