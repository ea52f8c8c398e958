import DocSite.Files.Disk

/-!
# Reaching files by path

A path is followed name by name from the top or from the working folder. Every operation says why it
cannot be done by a `FileError`; one that fails changes nothing, except `makeFolders`, which keeps the
folders it has made so far.
-/

namespace DocSite.Files

/-! ## §1 Failures -/

/-- Why a file cannot be reached or changed. -/
inductive FileError where
  | notFound
  /-- Something is at the place where a folder shall be made. -/
  | alreadyThere
  /-- The path leads through a file. -/
  | notFolder
  /-- A folder is where a file is wanted. -/
  | isFolder
  /-- A name of the path, or the path, is longer than names and paths can be. -/
  | nameTooLong
  /-- The path holds the character with code zero. -/
  | nullCharacter
  /-- The content is not text in UTF-8. -/
  | notText
  deriving DecidableEq, Repr

/-- The wording of the failure. -/
def FileError.message : FileError → Text
  | .notFound => "No such file or directory (os error 2)".toList
  | .alreadyThere => "File exists (os error 17)".toList
  | .notFolder => "Not a directory (os error 20)".toList
  | .isFolder => "Is a directory (os error 21)".toList
  | .nameTooLong => "File name too long (os error 36)".toList
  | .nullCharacter => "file name contained an unexpected NUL byte".toList
  | .notText => "stream did not contain valid UTF-8".toList

/-- The greatest number of bytes in a path. -/
def maxPathSize : Nat := 4095

namespace Disk

/-! ## §2 Following a path -/

/-- The place to which a name leads from a place. -/
def enter (disk : Disk) (place : Place) (name : Text) : Except FileError Place :=
  match disk.at? place with
  | none => .error .notFound
  | some (.file _) => .error .notFolder
  | some .folder =>
    if name = ['.'] then .ok place
    -- The top is its own parent.
    else if name = ['.', '.'] then .ok place.dropLast
    else if maxNameSize < Text.utf8Length name then .error .nameTooLong
    else if (disk.at? (place ++ [name])).isSome then .ok (place ++ [name])
    else .error .notFound

/-- The place to which names lead from a place. -/
def walk (disk : Disk) (place : Place) : List Text → Except FileError Place
  | [] => .ok place
  | name :: names =>
    match disk.enter place name with
    | .ok next => disk.walk next names
    | .error failure => .error failure

/-- What keeps a path from being followed at all. -/
def pathFault? (path : Path) : Option FileError :=
  if path.contains '\x00' then some .nullCharacter
  else if path.isEmpty then some .notFound
  else if maxPathSize < Text.utf8Length path then some .nameTooLong
  else none

theorem nullCharacter_notMem {path : Path} (h : pathFault? path = none) : '\x00' ∉ path := by
  unfold pathFault? at h
  split at h
  · cases h
  · rename_i null
    simpa using null

/-- The place at which a path begins. -/
def start (disk : Disk) (path : Path) : Place := if path.isAbsolute then [] else disk.here

/-- The place to which a path leads. A slash at its end demands a folder. -/
def locate (disk : Disk) (path : Path) : Except FileError Place :=
  match pathFault? path with
  | some failure => .error failure
  | none =>
    -- Entering `.` fails at a file, so the slash does.
    disk.walk (disk.start path) (path.names ++ if path.endsInSlash then [['.']] else [])

/-- What stands at a path. -/
def find? (disk : Disk) (path : Path) : Option Entry :=
  match disk.locate path with
  | .ok place => disk.at? place
  | .error _ => none

/-- Whether something is at a path. -/
def hasEntry (disk : Disk) (path : Path) : Bool := (disk.find? path).isSome

/-- Whether a folder is at a path. -/
def hasFolder (disk : Disk) (path : Path) : Bool := disk.find? path = some .folder

/-- Whether a file is at a path. -/
def hasFile (disk : Disk) (path : Path) : Bool :=
  match disk.find? path with
  | some (.file _) => true
  | _ => false

/-! ## §3 Reading -/

/-- The content of the file at a path. -/
def read (disk : Disk) (path : Path) : Except FileError Bytes :=
  match disk.locate path with
  | .error failure => .error failure
  | .ok place =>
    match disk.at? place with
    | some (.file content) => .ok content
    | some .folder => .error .isFolder
    | none => .error .notFound

/-- The text in the file at a path. -/
def readText (disk : Disk) (path : Path) : Except FileError Text :=
  match disk.read path with
  | .error failure => .error failure
  | .ok content =>
    match Text.ofBytes? content with
    | some text => .ok text
    | none => .error .notText

/-- The places of the files below the folder at a path, relative to it. -/
def filesUnder (disk : Disk) (path : Path) : List Place :=
  match disk.locate path with
  | .ok folder => disk.filesBelow folder
  | .error _ => []

/-! ## §4 Changing -/

/-- A name in a folder of the disk. -/
structure Slot (disk : Disk) where
  folder : Place
  name : Text
  inFolder : disk.at? folder = some .folder
  proper : Path.isName name = true

/-- The place of the slot. -/
def Slot.place {disk : Disk} (slot : Slot disk) : Place := slot.folder ++ [slot.name]

/-- The slot that a path names, whether or not something is there. A path that ends at a folder without
naming an entry of it fails as `unnamed` says. -/
def slot (disk : Disk) (path : Path) (unnamed : FileError) : Except FileError (Slot disk) :=
  match fault : pathFault? path with
  | some failure => .error failure
  | none =>
    match disk.walk (disk.start path) path.names.dropLast with
    | .error failure => .error failure
    | .ok folder =>
      match inFolder : disk.at? folder, last : path.names.getLast? with
      | none, _ => .error .notFound
      | some (.file _), _ => .error .notFolder
      | some .folder, none => .error unnamed
      | some .folder, some name =>
        if dots : Path.isDots name then .error unnamed
        else if long : maxNameSize < Text.utf8Length name then .error .nameTooLong
        else
          .ok ⟨folder, name, inFolder,
            Path.isName_of_mem_names (List.mem_of_getLast? last) (by simpa using dots)
              (nullCharacter_notMem fault) (Nat.le_of_not_lt long)⟩

/-- The disk with a new folder at a path. -/
def makeFolder (disk : Disk) (path : Path) : Except FileError Disk :=
  match disk.slot path .alreadyThere with
  | .error failure => .error failure
  | .ok slot =>
    if (disk.at? slot.place).isSome then .error .alreadyThere
    else .ok (disk.put slot.folder slot.name .folder slot.inFolder slot.proper fun _ => rfl)

/-- The disk with a folder at a path and at every path above it, as far as this is possible. -/
def makeFolders (disk : Disk) (path : Path) : Except FileError Unit × Disk :=
  if path.isEmpty then (.ok (), disk)
  else
    match disk.makeFolder path with
    | .ok made => (.ok (), made)
    | .error .notFound =>
      match _h : path.parent? with
      | none => (.error .notFound, disk)
      | some parent =>
        match disk.makeFolders parent with
        | (.error failure, above) => (.error failure, above)
        | (.ok (), above) =>
          match above.makeFolder path with
          | .ok made => (.ok (), made)
          | .error failure =>
            -- A path such as `a/.` is there once `a` is.
            (if above.hasFolder path then .ok () else .error failure, above)
    | .error failure => (if disk.hasFolder path then .ok () else .error failure, disk)
termination_by path.length
decreasing_by exact Path.length_of_parent? _h

/-- The disk with a file at a path, in place of any file that was there. -/
def write (disk : Disk) (path : Path) (content : Bytes) : Except FileError Disk :=
  match disk.slot path .isFolder with
  | .error failure => .error failure
  | .ok slot =>
    if path.endsInSlash then .error .isFolder
    else if free : disk.at? slot.place = some .folder then .error .isFolder
    else
      .ok (disk.put slot.folder slot.name (.file content) slot.inFolder slot.proper fun taken =>
        absurd taken free)

/-- The disk with the content of one file in another. The target is emptied before the content is read,
so a file copied onto itself loses its content. -/
def copy (disk : Disk) (source target : Path) : Except FileError Disk :=
  match disk.read source with
  | .error failure => .error failure
  | .ok _ =>
    match disk.write target .empty with
    | .error failure => .error failure
    | .ok emptied =>
      match emptied.read source with
      | .error failure => .error failure
      | .ok content => emptied.write target content

end Disk

end DocSite.Files
