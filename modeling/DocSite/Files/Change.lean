import DocSite.Files.Access

/-!
# Changes of files

What people and their editors do to files, what it does to the disk, and what a system that watches the
files reports of it.
-/

namespace DocSite.Files

/-- What is reported of a file. -/
inductive NoticeKind where
  | created
  /-- Its content, its attributes or its name has changed. -/
  | modified
  | removed
  /-- It was opened, read or closed. -/
  | accessed
  /-- Anything else, such as reports that were lost. -/
  | other
  deriving DecidableEq, Repr

/-- A change of what is at a path. -/
inductive Change where
  /-- A finished file moves to the path, in place of any file that was there. -/
  | replace (path : Path) (content : Bytes)
  /-- A finished file appears at the path. -/
  | create (path : Path) (content : Bytes)
  /-- A file is emptied and written anew where it is. -/
  | overwrite (path : Path) (content : Bytes)
  /-- The attributes of the file change. -/
  | touch (path : Path)
  /-- The file moves somewhere else. -/
  | moveAway (path : Path)
  | delete (path : Path)
  | makeFolder (path : Path)

namespace Change

/-- The path of a change. -/
def path : Change → Path
  | replace path _ | create path _ | overwrite path _ | touch path | moveAway path | delete path
  | makeFolder path => path

/-- The disk without what is at a path. -/
def removeAt (disk : Disk) (path : Path) : Disk :=
  match disk.locate path with
  | .ok place => disk.remove place
  | .error _ => disk

/-- The disk after a change. One that cannot be made changes nothing. -/
def apply (disk : Disk) : Change → Disk
  | replace path content | create path content | overwrite path content =>
    match disk.write path content with
    | .ok changed => changed
    | .error _ => disk
  | touch _ => disk
  | moveAway path | delete path => removeAt disk path
  | .makeFolder path =>
    match disk.makeFolder path with
    | .ok changed => changed
    | .error _ => disk

/-- Whether what was at the path is no longer there afterwards. -/
def displaces : Change → Bool
  | replace .. | moveAway _ | delete _ => true
  | _ => false

/-- What is reported of a change, in order, to who watches the folder of the path. -/
def notices (disk : Disk) : Change → List NoticeKind
  | replace .. => [.modified]
  | create .. => [.created]
  | overwrite path _ =>
    if disk.hasEntry path then [.accessed, .modified, .modified, .accessed]
    else [.created, .accessed, .modified, .accessed]
  | touch _ => [.modified]
  | moveAway _ => [.modified]
  | delete _ => [.removed]
  | .makeFolder _ => [.created]

/-- What is reported of a change, in order, to who watches the path itself. A file that is deleted loses its
name before it is gone. -/
def ownNotices (disk : Disk) (change : Change) : List NoticeKind :=
  match change with
  | delete path => if disk.hasFile path then [.modified, .removed] else [.removed]
  | change => change.notices disk

end Change

/-- What is reported when one disk has turned into another, entry by entry. -/
def Disk.reports (before after : Disk) : List (NoticeKind × Place) :=
  let arrived := after.entries.filterMap fun (place, entry) =>
    match before.at? place with
    | none => some (.created, place)
    | some old => if old = entry then none else some (.modified, place)
  let gone := before.entries.filterMap fun (place, _) =>
    if (after.at? place).isNone then some (.removed, place) else none
  arrived ++ gone

end DocSite.Files
