import DocSite.Blog.Store
import DocSite.Files.Access

/-!
# The dataset file

The posts of a site lie in one file. It is read as a whole or not at all.
-/

namespace DocSite.Blog

open Files

/-- Why the posts cannot be loaded. -/
inductive DatasetError where
  /-- The file cannot be read. -/
  | unreadable (path : Path) (failure : FileError)
  /-- The file holds no dataset. -/
  | malformed
  deriving DecidableEq, Repr

/-- The wording of the error. -/
def DatasetError.message : DatasetError → Text
  | .unreadable path failure =>
    "Failed to read posts from ".toList ++ path ++ ": ".toList ++ failure.message
  | .malformed => "Invalid posts dataset".toList

/-- What was loaded. -/
structure Loaded where
  store : Except DatasetError Store
  /-- The keys and declared slugs of records whose slug gives way to their key. -/
  renamed : List (Text × Text) := []

/-- Loads the posts from a file. -/
def load (disk : Disk) (path : Path) : Loaded :=
  match disk.readText path with
  | .error failure => { store := .error (.unreadable path failure) }
  | .ok text =>
    let reading := Store.ofDataset text
    match reading.store with
    | none => { store := .error .malformed, renamed := reading.renamed }
    | some store => { store := .ok store, renamed := reading.renamed }

/-- What is said of a record whose slug gives way to its key. -/
def renamedNote (key declared : Text) : Text :=
  "Blog post keyed '".toList ++ key ++ "' declares slug '".toList ++ declared ++
    "', using the key".toList

end DocSite.Blog
