import DocSite.Content.Slug

/-!
# Pages in memory

A shelf holds the sources of docs pages under their file paths.
-/

namespace DocSite.Content

/-- Sources of pages under their paths; a path has at most one. -/
structure Shelf where
  files : List (Text × Text)
  deriving DecidableEq, Repr

namespace Shelf

/-- The shelf without pages. -/
def empty : Shelf := ⟨[]⟩

/-- The shelf with a source at a path, in place of any source that was there. -/
def insert (shelf : Shelf) (path source : Text) : Shelf :=
  ⟨(path, source) :: shelf.files.filter (·.1 ≠ path)⟩

/-- The source at a path. -/
def get? (shelf : Shelf) (path : Text) : Option Text :=
  (shelf.files.find? (·.1 = path)).map (·.2)

/-- The source of the page with these slug segments. -/
def load? (shelf : Shelf) (segments : List Text) : Option Text :=
  (candidatePaths segments).findSome? shelf.get?

end Shelf

end DocSite.Content
