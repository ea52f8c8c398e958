import DocSite.Text.Basic

/-!
# Markdown documents

The structure of a Markdown document: blocks that hold other blocks or a run of text, and inline
elements that make up the runs.
-/

namespace DocSite.Markdown

/-! ## §1 Inline elements -/

/-- Where a link leads or an image lies. -/
structure Target where
  dest : Text
  /-- The advisory title, empty if there is none. -/
  title : Text
  deriving DecidableEq, Repr, Inhabited

/-- What kind of address a link has. -/
inductive LinkKind where
  /-- An e-mail address between angle brackets. -/
  | email
  /-- Any other link. -/
  | address
  deriving DecidableEq, Repr

/-- An inline element. -/
inductive Inline where
  | text (text : Text)
  | code (code : Text)
  /-- Raw HTML. -/
  | html (raw : Text)
  | softBreak
  | hardBreak
  | emphasis (content : List Inline)
  | strong (content : List Inline)
  | strikethrough (content : List Inline)
  | link (kind : LinkKind) (target : Target) (content : List Inline)
  | image (target : Target) (description : List Inline)
  | footnoteReference (label : Text)
  deriving Repr, Inhabited

/-! ## §2 Blocks -/

/-- The alignment of a table column. -/
inductive Alignment where
  | unset
  | left
  | center
  | right
  deriving DecidableEq, Repr

/-- A block, with runs of text of some kind: as they are read, or as elements. -/
inductive Block (run : Type) where
  /-- A paragraph, which may begin with the box of a task. -/
  | paragraph (task : Option Bool) (content : run)
  /-- The box of a task with nothing behind it. -/
  | task (done : Bool)
  /-- A heading; one that is underlined may begin with the box of a task. -/
  | heading (level : Nat) (task : Option Bool) (content : run)
  | rule
  /-- Code with the info string of its fence, or indented code. -/
  | code (info : Option Text) (code : Text)
  /-- Raw HTML. -/
  | html (raw : Text)
  | quote (content : List (Block run))
  /-- A list; a numbered one has a first number. In a tight list, paragraphs are bare text. -/
  | list (start : Option Nat) (tight : Bool) (items : List (List (Block run)))
  | footnote (label : Text) (content : List (Block run))
  | table (alignments : List Alignment) (head : List run) (rows : List (List run))
  deriving Repr, Inhabited

end DocSite.Markdown
