import DocSite.Files.Change
import DocSite.Server.MediaType

/-!
# The watcher

The development server watches the folders that the site is made from. Many notices may come of one
save, so the watcher takes no notice for a while after it has taken one. What it takes it passes on as an
event that says what kind of file has changed.
-/

namespace DocSite.Server

open Files

/-! ## §1 Events -/

/-- A change of the site. -/
inductive WatchEvent where
  /-- A page was modified. -/
  | contentModified (path : Path)
  /-- A file of data was modified. -/
  | dataModified (path : Path)
  | created (path : Path)
  | deleted (path : Path)
  /-- Any other file was modified. -/
  | modified (path : Path)
  deriving DecidableEq, Repr

namespace WatchEvent

/-- The file that an event is about. -/
def path : WatchEvent → Path
  | contentModified path | dataModified path | created path | deleted path | modified path => path

/-- Whether the event says that a file is gone. -/
def isDeletion : WatchEvent → Bool
  | deleted _ => true
  | _ => false

/-- The event of a file of which something is reported. -/
def ofNotice? (kind : NoticeKind) (path : Path) : Option WatchEvent :=
  match kind with
  | .created => some (created path)
  | .removed => some (deleted path)
  | .modified =>
    if path.extension? = some "md".toList then some (contentModified path)
    else if path.extension? = some "json".toList then some (dataModified path)
    else some (modified path)
  | .accessed | .other => none

end WatchEvent

/-! ## §2 Notices and time -/

/-- A report of a change, and the millisecond at which it comes. -/
structure Notice where
  kind : NoticeKind
  paths : List Path
  time : Nat
  deriving DecidableEq, Repr

/-- The milliseconds after a notice for which others are not taken. -/
def quietTime : Nat := 100

/-- The state of the watcher. -/
structure Watcher where
  /-- The files and folders that are watched. -/
  watched : List Path
  /-- When the watcher took its last notice, or else when it began. -/
  last : Nat
  deriving DecidableEq, Repr

/-- What is logged of a path that is watched. -/
def watchingNote (path : Path) : Text := "Watching ".toList ++ path

namespace Watcher

/-- A watcher that begins at some time to watch those of the paths at which something is. -/
def start (disk : Disk) (paths : List Path) (time : Nat) : Watcher :=
  { watched := paths.filter disk.hasEntry, last := time }

/-- Whether one path leads to a place at or below the end of another. -/
def reaches (root path : Path) : Bool :=
  root.isAbsolute = path.isAbsolute && Path.names root <+: Path.names path

/-- Whether changes at a path are reported to the watcher. -/
def covers (watcher : Watcher) (path : Path) : Bool := watcher.watched.any (reaches · path)

/-- Whether a path is watched itself and not for the sake of a folder above it. -/
def isOwn (watcher : Watcher) (path : Path) : Bool :=
  watcher.watched.any fun root => reaches root path && reaches path root

/-- Whether a notice comes too early to be taken. -/
def ignores (watcher : Watcher) (notice : Notice) : Bool := notice.time - watcher.last < quietTime

/-- The watcher after a notice, and the events that it passes on. -/
def take (watcher : Watcher) (notice : Notice) : Watcher × List WatchEvent :=
  if watcher.ignores notice then (watcher, [])
  else
    ({ watcher with last := notice.time },
      notice.paths.filterMap (WatchEvent.ofNotice? notice.kind))

/-- The watcher after several notices, and the events that it passes on. -/
def takeAll (watcher : Watcher) : List Notice → Watcher × List WatchEvent
  | [] => (watcher, [])
  | notice :: notices =>
    let (watcher, events) := watcher.take notice
    let (watcher, later) := watcher.takeAll notices
    (watcher, events ++ later)

/-- The notices of a change that are reported to the watcher. -/
def noticesOf (watcher : Watcher) (disk : Disk) (change : Change) (time : Nat) : List Notice :=
  let kinds :=
    if watcher.isOwn change.path then change.ownNotices disk
    else if watcher.covers change.path then change.notices disk
    else []
  kinds.map fun kind => { kind, paths := [change.path], time }

/-- The watcher after a change: it has lost sight of what is no longer at its path. -/
def follow (watcher : Watcher) (change : Change) : Watcher :=
  if change.displaces then
    { watcher with watched := watcher.watched.filter fun root =>
        !(reaches root change.path && reaches change.path root) }
  else watcher

end Watcher

end DocSite.Server
