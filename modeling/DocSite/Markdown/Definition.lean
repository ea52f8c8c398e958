import DocSite.Markdown.Line
import DocSite.Markdown.Link
import DocSite.Markdown.RawHtml

/-!
# Link definitions

What interrupts a paragraph, and the link definitions that may stand at its start. A definition may go over
several lines as long as none of them interrupts it.
-/

namespace DocSite.Markdown

/-! ## §1 What interrupts a paragraph -/

/-- Whether the rest of a line at a place, other than the head of a table, interrupts a paragraph or a table.
`current` tells whether the line belongs into all of their frames. -/
def interruptsText (passage : Passage) (inTable current : Bool) (place : Nat) : Bool :=
  passage.isEnd place || (afterRule? passage place).isSome || (headingLevel? passage place).isSome ||
    (fence? passage place).isSome || passage.has place '>' ||
    itemInterrupts passage inTable current place ||
    (passage.has place '<' && (interruptingHtml? passage (place + 1)).isSome) ||
    (footnoteStart? passage place).isSome

/-- The number of bars in a line that have no backslash before them, the place of the last one and the end of
the line; `escaped` tells whether there is a backslash before the place. -/
def bars (passage : Passage) (escaped : Bool) (count last place : Nat) : Nat × Nat × Nat :=
  if place < passage.stop then
    match passage.chars[place]? with
    | none => (count, last, place)
    | some c =>
      if c = '\n' ∨ c = '\r' then (count, last, place)
      else if c = '\\' then bars passage true count last (place + 1)
      else if c = '|' ∧ escaped = false then bars passage false (count + 1) place (place + 1)
      else bars passage false count last (place + 1)
  else (count, last, place)
termination_by passage.stop - place

/-- The alignments of the table whose head is the line at a place, and the place behind the row below the head.
The head has `count` bars that bound columns, the last of them at `last`, and its line ends at `stop`. -/
def tableBelow? (passage : Passage) (nesting : Nesting) (place count last stop : Nat) :
    Option (List Alignment × Nat) := do
  let below ← passage.afterBreak? stop
  let (current, cursor) := nesting.enter passage below
  if !current then none
  else
    let (alignments, behind) ← delimiterRow? passage cursor.place
    if alignments.length = headColumns passage place count last then some (alignments, behind) else none

/-- Whether a line that begins with a bar is the head of a table. -/
def beginsTable (passage : Passage) (nesting : Nesting) (place : Nat) : Bool :=
  passage.has place '|' &&
    let (count, last, stop) := bars passage false 0 place place
    stop < passage.stop && (tableBelow? passage nesting place count last stop).isSome

/-- Whether the rest of a line at a place interrupts a paragraph. -/
def interrupts (passage : Passage) (nesting : Nesting) (current : Bool) (place : Nat) : Bool :=
  interruptsText passage nesting.inTable current place || beginsTable passage nesting place

/-! ## §2 Definitions -/

/-- The place behind the marks and the indentation of a line, if a definition may go on there. -/
def goesOn? (passage : Passage) (nesting : Nesting) (place : Nat) : Option Nat :=
  let (current, cursor) := nesting.enter passage place
  match cursor.skip passage 4 with
  -- A line that is indented this far interrupts nothing.
  | (0, cursor) => some cursor.place
  | (_, cursor) =>
    if interrupts passage nesting current cursor.place || (underline? passage cursor.place).isSome then
      none
    else some cursor.place

/-- The place behind blank space with at most one line break in it, and whether there is one. -/
def definitionSpace? (passage : Passage) (nesting : Nesting) (place : Nat) : Option (Nat × Bool) :=
  let inner := passage.skip isSpace place
  match passage.afterBreak? inner with
  | none => some (inner, false)
  | some behind => do
    let inner := passage.skip isSpace (← goesOn? passage nesting behind)
    if passage.isEnd inner then none else some (inner, true)

/-- The characters of a title in a definition up to its closing mark, and the place behind that. Line breaks
are line feeds. Parentheses hold no opening one. `fuel` is more than the number of characters that are left. -/
def definitionTitle? (passage : Passage) (nesting : Nesting) (close : Char) :
    (fuel : Nat) → (place : Nat) → Option (Text × Nat)
  | 0, _ => none
  | fuel + 1, place =>
    match passage.get? place with
    | none => none
    | some c =>
      if c = close then some ([], place + 1)
      else if c = '(' ∧ close = ')' then none
      else
        let go (written : Text) (place : Nat) : Option (Text × Nat) :=
          (definitionTitle? passage nesting close fuel place).map fun (title, behind) =>
            (written ++ title, behind)
        match passage.afterBreak? place with
        | some behind => do
          let inner ← goesOn? passage nesting behind
          if passage.isBlank inner then none else go ['\n'] inner
        | none =>
          match c, passage.get? (place + 1) with
          | '\\', some next =>
            if next = '\n' ∨ next = '\r' then go ['\\'] (place + 1) else go ['\\', next] (place + 2)
          | _, _ => go [c] (place + 1)

/-- The title at a place, and the place behind it. -/
def titleAt? (passage : Passage) (nesting : Nesting) (place : Nat) : Option (Text × Nat) := do
  let close ← titleEnd? (← passage.get? place)
  definitionTitle? passage nesting close (passage.stop - place + 1) (place + 1)

/-- The label and the target of the link definition at a place, and the place behind it. A title that is not
followed by the end of its line does not count if it stands on a line of its own, and spoils the definition
otherwise. -/
def definition? (passage : Passage) (nesting : Nesting) (place : Nat) :
    Option ((Text × Target) × Nat) := do
  let inner ← passage.behind? ['['] place
  let (label, behind) ← label? passage nesting.inTable (goesOn? passage nesting) inner
  let behind ← passage.behind? [':'] behind
  let (first, _) ← definitionSpace? passage nesting behind
  let (written, stop) ← dest? passage first
  if stop = first then none
  else
    let dest := unescape nesting.inTable written
    let bare : (Text × Target) × Nat := ((label, ⟨dest, []⟩), stop)
    match definitionSpace? passage nesting stop with
    | none => some bare
    | some (inner, broken) =>
      let titled : Option ((Text × Target) × Nat) := do
        let (title, behind) ← titleAt? passage nesting inner
        if passage.isBlank behind then
          some ((label, ⟨dest, unescape nesting.inTable title⟩), behind)
        else none
      if inner = stop then none
      else titled.orElse fun _ => if broken then some bare else none

end DocSite.Markdown
