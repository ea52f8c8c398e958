import DocSite.Markdown.Token

/-!
# Open containers

While a document is read, the blocks that hold other blocks stay open as long as the lines continue
them. The open ones form a list, innermost first. This module says which of them a line continues, how
one is closed, and how lists begin, go on and end.
-/

namespace DocSite.Markdown

/-- An open block that holds other blocks; what it holds is kept last one first. -/
inductive Container where
  | quote (content : List (Block Run))
  | list (marker : ListMarker) (tight : Bool) (items : List (List (Block Run)))
  /-- An item, inside its list. Further lines of it are indented. -/
  | item (indent : Nat) (content : List (Block Run))
  | footnote (label : Text) (content : List (Block Run))
  deriving Repr, Inhabited

namespace Container

/-- What the lines inside a container show of it. A list shows nothing but its items. -/
def frame? : Container → Option Frame
  | .quote _ => some .quote
  | .list .. => none
  | .item indent _ => some (.item indent)
  | .footnote .. => some .footnote

/-- The frames that some containers make up, innermost container first. -/
def nesting (containers : List Container) : Nesting :=
  { frames := containers.reverse.filterMap frame? }

/-- How many of the containers a line continues, counted from the outermost one, and the place behind
their marks. -/
def continuedBy (passage : Passage) (cursor : Cursor) : List Container → Nat × Cursor
  | [] => (0, cursor)
  | container :: outer =>
    match continuedBy passage cursor outer with
    | (count, cursor) =>
      -- A line that leaves a container leaves all those inside it.
      if count = outer.length then
        match container.frame? with
        | none => (count + 1, cursor)
        | some frame =>
          match frame.continued? passage cursor with
          | some cursor => (count + 1, cursor)
          | none => (count, cursor)
      else (count, cursor)

end Container

/-- What has been read of a document: the blocks that are done and the containers that are open. -/
structure Outline where
  /-- The finished blocks of the document, last one first. -/
  done : List (Block Run) := []
  /-- The open containers, innermost first. -/
  containers : List Container := []
  /-- Whether the line before was blank. -/
  lastBlank : Bool := false
  /-- Whether the innermost item began with a blank line and has nothing in it yet. -/
  freshItem : Bool := false
  deriving Repr, Inhabited

namespace Outline

/-- The outline with one more block in the innermost container. -/
def add (outline : Outline) (block : Block Run) : Outline :=
  match outline.containers with
  | [] => { outline with done := block :: outline.done }
  | .quote content :: outer => { outline with containers := .quote (block :: content) :: outer }
  | .item indent content :: outer =>
    { outline with containers := .item indent (block :: content) :: outer }
  | .footnote label content :: outer =>
    { outline with containers := .footnote label (block :: content) :: outer }
  | .list marker tight items :: outer =>
    { outline with containers := .list marker tight ([block] :: items) :: outer }

/-- The outline with its innermost container closed. -/
def close (outline : Outline) : Outline :=
  match outline.containers with
  | [] => outline
  | .quote content :: outer => { outline with containers := outer }.add (.quote content.reverse)
  | .footnote label content :: outer =>
    { outline with containers := outer }.add (.footnote label content.reverse)
  | .list marker tight items :: outer =>
    let outline := { outline with
      containers := outer, freshItem := outline.freshItem && !tight }
    outline.add (.list marker.number tight items.reverse)
  | .item _ content :: .list marker tight items :: outer =>
    { outline with containers := .list marker tight (content.reverse :: items) :: outer }
  | .item _ content :: outer =>
    content.foldr (fun block outline => outline.add block) { outline with containers := outer }

/-- The outline with containers closed until `count` are left. -/
def closeTo (outline : Outline) (count : Nat) : Outline :=
  Nat.repeat close (outline.containers.length - count) outline

/-- The outline with one more container open. -/
def push (outline : Outline) (container : Container) : Outline :=
  { outline with containers := container :: outline.containers }

/-! ## §1 Lists -/

/-- An item that begins with two blank lines ends there. -/
def endFreshItem (outline : Outline) : Outline :=
  let ended :=
    match outline.freshItem && outline.lastBlank, outline.containers with
    | true, .item _ _ :: _ => outline.close
    | _, _ => outline
  { ended with freshItem := false }

/-- The list around the innermost container is loose: its items are paragraphs. -/
def loosen (outline : Outline) : Outline :=
  match outline.containers with
  | inner :: .list marker _ items :: outer =>
    { outline with containers := inner :: .list marker false items :: outer }
  | _ => outline

/-- Ends a list that no further item follows. A blank line before a block that stands in an item makes
the list of that item loose. -/
def endList (outline : Outline) : Outline :=
  let outline := outline.endFreshItem
  let outline :=
    match outline.containers with
    | .list .. :: _ => outline.close
    | _ => outline
  { (if outline.lastBlank then outline.loosen else outline) with lastBlank := false }

/-- Makes room for an item: in the innermost list if it has the same mark, and otherwise in a new list.
A blank line between two items makes their list loose. -/
def beginItem (outline : Outline) (marker : ListMarker) : Outline :=
  let outline := outline.endFreshItem
  match outline.containers with
  | .list first tight items :: outer =>
    if first.mark = marker.mark then
      { outline with
        containers := .list first (tight && !outline.lastBlank) items :: outer
        lastBlank := false }
    else { outline.endList.push (.list marker true []) with lastBlank := false }
  | _ => { outline.endList.push (.list marker true []) with lastBlank := false }

/-- What a blank line means to the innermost container: an item that began with a blank line is not
continued by indentation. -/
def blankLine (outline : Outline) : Outline :=
  match outline.containers with
  | .quote _ :: _ => outline
  | .item indent content :: outer =>
    { outline with
      -- An item that is still empty takes no indented line after a blank one.
      containers := .item (if outline.freshItem then 0 else indent) content :: outer
      lastBlank := true }
  | _ => { outline with lastBlank := true }

end Outline

end DocSite.Markdown
