import DocSite.Markdown.Document

/-!
# Events

A document as a sequence of events: elements begin and end, and text stands between. This is the form
in which a document is changed and written. Some events come up in no document here, since the site does not
ask for them when a document is read: alerts, marks of headings, glossaries, formulas and metadata.
-/

namespace DocSite.Markdown

/-! ## §1 Elements and events -/

/-- What a quote that is an alert calls attention to. -/
inductive Alert where
  | note
  | tip
  | important
  | warning
  | caution
  deriving DecidableEq, Repr

/-- What a heading says of itself. -/
structure HeadingMarks where
  id : Option Text := none
  classes : List Text := []
  /-- Other attributes, some of which have a value. -/
  attributes : List (Text × Option Text) := []
  deriving DecidableEq, Repr

/-- An element that holds others. -/
inductive Element where
  | paragraph
  | heading (level : Nat) (marks : HeadingMarks)
  | quote (alert : Option Alert)
  /-- Code, with the info string of its fence if there is one. -/
  | code (info : Option Text)
  | html
  /-- A list; a numbered one has a first number. -/
  | list (start : Option Nat)
  | item
  /-- A list of terms with their definitions. -/
  | glossary
  | term
  | definition
  | footnote (label : Text)
  | table (alignments : List Alignment)
  | tableHead
  | tableRow
  | tableCell
  | emphasis
  | strong
  | strikethrough
  | link (kind : LinkKind) (target : Target)
  | image (target : Target)
  /-- Facts about the document, which are no part of its text. -/
  | metadata
  deriving DecidableEq, Repr

/-- A step through a document. -/
inductive Event where
  | start (element : Element)
  | stop (element : Element)
  | text (text : Text)
  | code (text : Text)
  /-- A formula, which may be displayed by itself. -/
  | math (displayed : Bool) (text : Text)
  /-- Raw HTML in a block of its own. -/
  | html (raw : Text)
  /-- Raw HTML inside a run of text. -/
  | inlineHtml (raw : Text)
  | footnoteReference (label : Text)
  | softBreak
  | hardBreak
  | rule
  /-- The box of a task. -/
  | task (done : Bool)
  deriving DecidableEq, Repr

/-- The events of an element with some events inside. -/
def within (element : Element) (events : List Event) : List Event :=
  .start element :: (events ++ [.stop element])

/-! ## §2 The events of a document -/

mutual

/-- The events of an inline element. -/
def Inline.events : Inline → List Event
  | .text content => [.text content]
  | .code content => [.code content]
  | .html raw => [.inlineHtml raw]
  | .softBreak => [.softBreak]
  | .hardBreak => [.hardBreak]
  | .emphasis content => within .emphasis (Inline.eventsOf content)
  | .strong content => within .strong (Inline.eventsOf content)
  | .strikethrough content => within .strikethrough (Inline.eventsOf content)
  | .link kind target content => within (.link kind target) (Inline.eventsOf content)
  | .image target description => within (.image target) (Inline.eventsOf description)
  | .footnoteReference label => [.footnoteReference label]

/-- The events of inline elements one after the other. -/
def Inline.eventsOf : List Inline → List Event
  | [] => []
  | inline :: inlines => inline.events ++ Inline.eventsOf inlines

end

/-- The events of the cells of a row. -/
def cellEvents (cells : List (List Inline)) : List Event :=
  cells.flatMap fun cell => within .tableCell (Inline.eventsOf cell)

/-- The events of the box of a task. -/
def taskEvents (task : Option Bool) : List Event := (task.map Event.task).toList

mutual

/-- The events of a block. A paragraph is bare text where it stands directly in an item of a tight
list. -/
def Block.events (tight : Bool) : Block (List Inline) → List Event
  | .paragraph box content =>
    let events := taskEvents box ++ Inline.eventsOf content
    if tight then events else within .paragraph events
  | .task isDone => [.task isDone]
  | .heading level box content =>
    within (.heading level {}) (taskEvents box ++ Inline.eventsOf content)
  | .rule => [.rule]
  | .code info body => within (.code info) (if body.isEmpty then [] else [.text body])
  | .html raw => within .html [.html raw]
  | .quote content => within (.quote none) (Block.eventsOf false content)
  | .list start tight items => within (.list start) (Block.itemEvents tight items)
  | .footnote label content => within (.footnote label) (Block.eventsOf false content)
  | .table alignments head rows =>
    within (.table alignments)
      (within .tableHead (cellEvents head) ++
        rows.flatMap fun row => within .tableRow (cellEvents row))

/-- The events of blocks one after the other. -/
def Block.eventsOf (tight : Bool) : List (Block (List Inline)) → List Event
  | [] => []
  | block :: blocks => block.events tight ++ Block.eventsOf tight blocks

/-- The events of the items of a list. -/
def Block.itemEvents (tight : Bool) : List (List (Block (List Inline))) → List Event
  | [] => []
  | item :: items => within .item (Block.eventsOf tight item) ++ Block.itemEvents tight items

end

/-- The events of a document. -/
def eventsOf (text : Text) : List Event := Block.eventsOf false (readDocument text)

end DocSite.Markdown
