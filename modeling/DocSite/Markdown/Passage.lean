import DocSite.Markdown.Entity

/-!
# Passages

A document is read by the places of its characters: whether a mark means something may depend on the
character before it, and a line may have to be looked at before it is known what it belongs to. A passage is
the text of a document up to some place.
-/

namespace DocSite.Markdown

/-- The text of a document up to some place. -/
structure Passage where
  chars : Array Char
  /-- The first place that is not read. -/
  stop : Nat
  deriving Repr, Inhabited

namespace Passage

/-- A whole text. -/
def ofText (text : Text) : Passage := ⟨text.toArray, text.length⟩

/-- The passage up to an earlier place. -/
def upTo (passage : Passage) (place : Nat) : Passage :=
  { passage with stop := min place passage.stop }

/-! ## §1 Characters -/

/-- The character at a place. -/
def get? (passage : Passage) (place : Nat) : Option Char :=
  if place < passage.stop then passage.chars[place]? else none

/-- Whether a character stands at a place. -/
def has (passage : Passage) (place : Nat) (c : Char) : Bool := passage.get? place == some c

/-- The character before a place. -/
def before? (passage : Passage) (place : Nat) : Option Char :=
  if place = 0 then none else passage.chars[place - 1]?

/-- The text from one place to another. -/
def slice (passage : Passage) (first stop : Nat) : Text :=
  (passage.chars.extract first (min stop passage.stop)).toList

/-- The first place from some place on at which no character of a kind stands. -/
def skip (passage : Passage) (kind : Char → Bool) (place : Nat) : Nat :=
  if place < passage.stop then
    match passage.chars[place]? with
    | some c => if kind c then passage.skip kind (place + 1) else place
    | none => place
  else place
termination_by passage.stop - place

/-- How often a character stands at a place without another one between. -/
def count (passage : Passage) (c : Char) (place : Nat) : Nat := passage.skip (· == c) place - place

/-- The place before the characters of a kind that stand before a place, but none before `first`. -/
def skipBack (passage : Passage) (kind : Char → Bool) (first : Nat) : (place : Nat) → Nat
  | 0 => 0
  | place + 1 =>
    if place < first then place + 1
    else if (passage.chars[place]?).any kind then passage.skipBack kind first place
    else place + 1

/-- The place behind a text that stands at a place. -/
def behind? (passage : Passage) : (text : Text) → (place : Nat) → Option Nat
  | [], place => some place
  | c :: text, place => if passage.has place c then passage.behind? text (place + 1) else none

/-- The place behind the first occurrence of a text from some place on. -/
def behindNext? (passage : Passage) (text : Text) (place : Nat) : Option Nat :=
  if place < passage.stop then
    match passage.behind? text place with
    | some behind => some behind
    | none => passage.behindNext? text (place + 1)
  else none
termination_by passage.stop - place

/-! ## §2 Lines -/

/-- The place behind the line break at a place: a line feed, a carriage return or both. The end of the
passage ends a line, too. -/
def afterBreak? (passage : Passage) (place : Nat) : Option Nat :=
  match passage.get? place with
  | none => some place
  | some '\n' => some (place + 1)
  | some '\r' => some (if passage.has (place + 1) '\n' then place + 2 else place + 1)
  | some _ => none

/-- Whether a line ends at a place. -/
def isEnd (passage : Passage) (place : Nat) : Bool := (passage.afterBreak? place).isSome

/-- The place behind the rest of a line, if the rest is blank. -/
def afterBlank? (passage : Passage) (place : Nat) : Option Nat :=
  passage.afterBreak? (passage.skip isSpace place)

/-- Whether the rest of a line is blank. -/
def isBlank (passage : Passage) (place : Nat) : Bool := (passage.afterBlank? place).isSome

/-- The place behind the next line feed. -/
def nextLine (passage : Passage) (place : Nat) : Nat :=
  min (passage.skip (· != '\n') place + 1) passage.stop

/-- The characters that the reference at a place stands for, and the place behind it. No reference is longer
than forty characters. -/
def reference? (passage : Passage) (place : Nat) : Option (Text × Nat) :=
  let text := passage.slice (place + 1) (place + 41)
  (DocSite.Markdown.reference? text).map fun (value, rest) =>
    (value, place + 1 + (text.length - rest.length))

end Passage

end DocSite.Markdown
