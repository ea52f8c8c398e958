import DocSite.Files.Path
import DocSite.Server.MediaTable
import DocSite.Text.CaseFold

/-!
# Media types

The kind of content that a file has, by the ending of its name.
-/

namespace DocSite.Files

/-- The name at the end of a path; `none` if it ends at a folder without naming an entry of it. -/
def Path.lastName? (path : Path) : Option Text :=
  match path.names.reverse.find? (· ≠ ['.']) with
  | none => none
  | some name => if name = ['.', '.'] then none else some name

/-- The ending of the name at the end of a path: what stands behind its last dot. A name that begins with
its only dot has none. -/
def Path.extension? (path : Path) : Option Text :=
  match path.lastName? with
  | none => none
  | some name =>
    match name.reverse.dropWhile (· ≠ '.') with
    | _ :: _ :: _ => some (name.reverse.takeWhile (· ≠ '.')).reverse
    | _ => none

end DocSite.Files

namespace DocSite.Server

/-- The media type of content of which nothing is known. -/
def unknownMediaType : Text := "application/octet-stream".toList

/-- Whether an ending is one of those that stand in a row of the table. -/
def hasEnding (endings : String) (ending : Text) : Bool :=
  (Text.splitOn [' '] endings.toList).contains ending

/-- The media type of a file. The case of the ending does not count. -/
def mediaType (path : Files.Path) : Text :=
  match path.extension? with
  | none => unknownMediaType
  | some ending =>
    let ending := Text.foldCase ending
    match mediaTypes.find? fun (_, endings) => hasEnding endings ending with
    | some (type, _) => type.toList
    | none => unknownMediaType

end DocSite.Server
