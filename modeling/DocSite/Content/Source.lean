import DocSite.Content.Shelf
import DocSite.Files.Access

/-!
# Where docs pages come from

The sources of the docs lie on a shelf in memory or in a folder of a disk. Both try the candidate paths
of a page in order and take the first that can be read as text.
-/

namespace DocSite.Content

open Files

/-- What was found of a docs page. -/
structure Found where
  /-- The source of the page, if there is one. -/
  source : Option Text := none
  /-- The candidates before it that are there and cannot be read as text. -/
  unreadable : List (Path × FileError) := []
  deriving DecidableEq, Repr

/-- The first of several files that can be read as text. -/
def findReadable (disk : Disk) : List Path → Found
  | [] => {}
  | path :: paths =>
    match disk.readText path with
    | .ok source => { source := some source }
    | .error .notFound => findReadable disk paths
    | .error failure =>
      let found := findReadable disk paths
      { found with unreadable := (path, failure) :: found.unreadable }

/-- The page with these slug segments in a folder of docs. -/
def findDoc (disk : Disk) (root : Path) (segments : List Text) : Found :=
  findReadable disk ((candidatePaths segments).map root.join)

/-- The place of the sources of the docs. -/
inductive Source where
  | shelf (shelf : Shelf)
  | folder (root : Path)

/-- The source of the page with these slug segments. -/
def Source.load? (source : Source) (disk : Disk) (segments : List Text) : Option Text :=
  match source with
  | .shelf pages => pages.load? segments
  | .folder root => (findDoc disk root segments).source

end DocSite.Content
