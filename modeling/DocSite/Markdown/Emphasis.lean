import DocSite.Markdown.Basic

/-!
# Emphasis

Runs of `*`, `_` and `~` become emphasis, strong emphasis and struck-out text where a run that can
close meets an earlier one that can open. What finds no partner stays text.

`resolve` reads the pieces of a run of text from left to right. It keeps a stack of the opening runs
that are still unmatched, each with the elements read since.
-/

namespace DocSite.Markdown

/-! ## §1 Pieces -/

/-- A piece of a run of text: a complete element, a line break, or a run of delimiters that may be
emphasis. -/
inductive Piece where
  | element (element : Inline)
  /-- A line break made by blank space or by a backslash. -/
  | hardBreak (backslash : Bool)
  /-- `count` marks, as they are written. -/
  | delimiters (mark : Char) (count : Nat) (written : Text) (canOpen canClose : Bool)
  deriving Repr, Inhabited

/-- Whether a piece is a run of delimiters. -/
def Piece.isDelimiters : Piece → Bool
  | .delimiters .. => true
  | _ => false

/-! ## §2 Matching -/

/-- An opening run that is still unmatched. -/
structure Opener where
  mark : Char
  /-- How many of its marks are unmatched. -/
  count : Nat
  /-- How many marks the run had. -/
  run : Nat
  /-- Whether the run could also have closed. -/
  both : Bool
  /-- The elements behind it, last one first. -/
  inner : List Inline
  deriving Repr

/-- Whether a closing run may match an opening one. Of runs that could do both, the lengths must not
add up to a multiple of three unless each is one; runs of `~` must have the same length. -/
def Opener.matches (opener : Opener) (mark : Char) (run : Nat) (both : Bool) : Bool :=
  opener.mark = mark && (mark != '~' || run = opener.run) &&
    (!both && !opener.both || (run + opener.run) % 3 ≠ 0 || run % 3 = 0)

/-- Unmatched marks as text. -/
def markText (mark : Char) (count : Nat) : Inline := .text (List.replicate count mark)

/-- The stack of unmatched openers, innermost first, on top of the elements before all of them. -/
structure Resolver where
  openers : List Opener := []
  /-- The elements before the outermost opener, last one first. -/
  base : List Inline := []
  /-- How many of the outermost openers a run of `~` no longer looks at. -/
  floor : Nat := 0

/-- One more element at the end. -/
def Resolver.push (state : Resolver) (element : Inline) : Resolver :=
  match state.openers with
  | [] => { state with base := element :: state.base }
  | opener :: openers =>
    { state with openers := { opener with inner := element :: opener.inner } :: openers }

/-- The elements of openers that find no match, last one first, innermost opener first. -/
def flattenOpeners (openers : List Opener) : List Inline :=
  openers.flatMap fun opener => opener.inner ++ [markText opener.mark opener.count]

/-- The openers above the innermost match, that match, and the openers below it. -/
def findMatch? (mark : Char) (run : Nat) (both : Bool) (floor : Nat) :
    List Opener → Option (List Opener × Opener × List Opener)
  | [] => none
  | opener :: below =>
    -- Below the floor a run of this kind has found nothing before.
    if mark = '~' ∧ below.length < floor then none
    else if opener.matches mark run both then some ([], opener, below)
    else
      (findMatch? mark run both floor below).map fun (above, found, below) =>
        (opener :: above, found, below)

/-- Content inside `count` pairs of marks: two pairs make strong emphasis, a single one emphasis; pairs
further in are taken first. -/
def wrap (mark : Char) : (count : Nat) → List Inline → List Inline
  | 0, content => content
  | 1, content => [if mark = '~' then .strikethrough content else .emphasis content]
  | count + 2, content =>
    wrap mark count [if mark = '~' then .strikethrough content else .strong content]

/-- The state after a closing run has been matched as often as possible, and how many of its marks are
left; `fuel` is at least their number. -/
def Resolver.close (mark : Char) (run : Nat) (both : Bool) :
    (fuel : Nat) → Resolver → (count : Nat) → Resolver × Nat
  | 0, state, count => (state, count)
  | fuel + 1, state, count =>
    if count = 0 then (state, 0)
    else
      match findMatch? mark run both state.floor state.openers with
      | none =>
        (if mark = '~' then { state with floor := state.openers.length } else state, count)
      | some (above, found, below) =>
        let paired := min count found.count
        -- Openers inside the pair stay without a match.
        let content := (flattenOpeners above ++ found.inner).reverse
        let rest : List Opener :=
          -- Marks that are left of the opening run may match a later run.
          if paired < found.count then
            { found with count := found.count - paired, inner := [] } :: below
          else below
        let state : Resolver := { state with openers := rest, floor := min state.floor below.length }
        let state := (wrap mark paired content).foldl Resolver.push state
        state.close mark run both fuel (count - paired)

/-- The state after one more piece. -/
def Resolver.step (state : Resolver) : Piece → Resolver
  | .element element => state.push element
  | .hardBreak _ => state.push .hardBreak
  | .delimiters mark count written canOpen canClose =>
    let both := canOpen && canClose
    let (state, left) := if canClose then state.close mark count both count count else (state, count)
    if left = 0 then state
    else if canOpen then { state with openers := ⟨mark, left, count, both, []⟩ :: state.openers }
    else state.push (.text (written.drop (count - left)))

/-- The elements that pieces make up. -/
def resolve (pieces : List Piece) : List Inline :=
  let state := pieces.foldl Resolver.step {}
  (flattenOpeners state.openers ++ state.base).reverse

/-- Pieces that no line break ends: a backslash at their end is text. -/
def withoutLastBreak (pieces : List Piece) : List Piece :=
  match pieces.getLast? with
  | some (.hardBreak backslash) =>
    pieces.dropLast ++ [.element (.text (if backslash then ['\\'] else []))]
  | _ => pieces

end DocSite.Markdown
