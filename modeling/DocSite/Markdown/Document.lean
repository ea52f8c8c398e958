import DocSite.Markdown.BlockReader
import DocSite.Markdown.InlineReader

/-!
# Reading documents

The blocks of a document are read first, because a link may be defined behind the place that refers to it.
Then the runs of text in them are read in the order in which they stand.
-/

namespace DocSite.Markdown

mutual

/-- A block with its runs of text read. -/
def Block.read (passage : Passage) (references : References) :
    Block Run → StateM Nat (Block (List Inline))
  | .paragraph box content => return .paragraph box (← readInlines passage references content)
  | .task isDone => return .task isDone
  | .heading level box content =>
    return .heading level box (← readInlines passage references content)
  | .rule => return .rule
  | .code info body => return .code info body
  | .html raw => return .html raw
  | .quote content => return .quote (← Block.readAll passage references content)
  | .list start tight items => return .list start tight (← Block.readItems passage references items)
  | .footnote label content => return .footnote label (← Block.readAll passage references content)
  | .table alignments head rows => do
    let head ← head.mapM (readInlines passage references)
    let rows ← rows.mapM fun row => row.mapM (readInlines passage references)
    return .table alignments head rows

/-- Blocks with their runs of text read. -/
def Block.readAll (passage : Passage) (references : References) :
    List (Block Run) → StateM Nat (List (Block (List Inline)))
  | [] => return []
  | block :: blocks => do
    let block ← block.read passage references
    return block :: (← Block.readAll passage references blocks)

/-- The items of a list with their runs of text read. -/
def Block.readItems (passage : Passage) (references : References) :
    List (List (Block Run)) → StateM Nat (List (List (Block (List Inline))))
  | [] => return []
  | item :: items => do
    let item ← Block.readAll passage references item
    return item :: (← Block.readItems passage references items)

end

/-- How many bytes the targets of references may take at least, however short the document is. -/
def minTargetBytes : Nat := 100000

/-- The blocks of a document. -/
def readDocument (text : Text) : List (Block (List Inline)) :=
  let passage := Passage.ofText text
  let (references, blocks) := readBlocks passage
  let budget := max (Text.utf8Length text) minTargetBytes
  (Block.readAll passage references blocks budget).1

end DocSite.Markdown
