import DocSite.Proofs.Files.Folders
import Mathlib.Data.List.Nodup

/-!
# Files put into folders

A file is put in its place by making the folders above it and then writing it. What comes of this is known
from the disk before (`deposit_spec`). So two files can be put in their places in either order, with the same
outcome and the same disk in the end, if neither is in the way of the other (`deposit_comm`), and many files in
any order (`depositAll_perm`).
-/

namespace DocSite.Files

namespace Disk

variable {disk : Disk}

/-! ## §1 Disks with the same entries -/

/-- No place comes before itself, so none has two entries. -/
theorem nodup_places (disk : Disk) : (disk.entries.map (·.1)).Nodup := by
  refine List.pairwise_map.mpr (disk.sorted.imp fun {x y} before same => ?_)
  rw [same, Place.isOrder_before.irrefl] at before
  cases before

/-- The entries of a disk are what stands at its places. -/
theorem mem_entries_iff {place : Place} {entry : Entry} :
    (place, entry) ∈ disk.entries ↔ place ≠ [] ∧ disk.at? place = some entry := by
  constructor
  · intro mem
    have filled : place ≠ [] := (disk.named _ mem).1
    refine ⟨filled, ?_⟩
    simp only [at?, lookup, List.isEmpty_iff, filled, if_false, Option.map_eq_some_iff]
    cases find : disk.entries.find? (·.1 = place) with
    | none => exact absurd (List.find?_eq_none.mp find _ mem) (by simp)
    | some found =>
      have same : found.1 = place := by simpa using List.find?_some find
      have only : found = (place, entry) :=
        List.inj_on_of_nodup_map disk.nodup_places (List.mem_of_find?_eq_some find) mem same
      exact ⟨found, rfl, by rw [only]⟩
  · rintro ⟨filled, there⟩
    simp only [at?, lookup, List.isEmpty_iff, filled, if_false, Option.map_eq_some_iff] at there
    obtain ⟨found, find, rfl⟩ := there
    have same : found.1 = place := by simpa using List.find?_some find
    rw [← same]
    exact List.mem_of_find?_eq_some find

/-- **Two disks are the same** if the same stands at all places. -/
theorem ext_at? {other : Disk} (here : other.here = disk.here)
    (same : ∀ place, other.at? place = disk.at? place) : other = disk := by
  have mem (x : Place × Entry) : x ∈ other.entries ↔ x ∈ disk.entries := by
    obtain ⟨place, entry⟩ := x
    rw [mem_entries_iff, mem_entries_iff, same]
  have perm : other.entries.Perm disk.entries :=
    (List.perm_ext_iff_of_nodup (List.Nodup.of_map _ other.nodup_places)
      (List.Nodup.of_map _ disk.nodup_places)).mpr mem
  have entries : other.entries = disk.entries := by
    refine List.Perm.eq_of_pairwise (fun x y _ _ front back => ?_) other.sorted disk.sorted perm
    have loop := Place.isOrder_before.trans front back
    rw [Place.isOrder_before.irrefl] at loop
    cases loop
  cases other
  cases disk
  simp_all

/-! ## §2 Putting a file in its place -/

/-- The disk with the folders above a path, as far as they can be made. A path without a folder above it
needs none. -/
def makeAbove (disk : Disk) (path : Path) : Except FileError Unit × Disk :=
  match path.parent? with
  | none => (.ok (), disk)
  | some parent => disk.makeFolders parent

/-- Whether a file can be written, and the disk afterwards. -/
def settle (disk : Disk) (path : Path) (content : Bytes) : Bool × Disk :=
  match disk.write path content with
  | .ok written => (true, written)
  | .error _ => (false, disk)

/-- Whether a file can be put in its place, and the disk with the file and the folders above it, as far as
they can be made. -/
def deposit (disk : Disk) (path : Path) (content : Bytes) : Bool × Disk :=
  match disk.makeAbove path with
  | (.error _, above) => (false, above)
  | (.ok (), above) => above.settle path content

/-- A path that ends in a name that a file can have. -/
structure IsFile (path : Path) : Prop where
  trimmed : Path.Trimmed path
  names : ∃ name, path.names = path.names.dropLast ++ [name] ∧ Path.isDots name = false ∧
    Text.utf8Length name ≤ maxNameSize

/-- A path that ends in the name of an entry is one that a file can have. -/
theorem isFile_join (folder : Path) {name : Text} (named : Path.isName name = true) :
    IsFile (folder.join name) := by
  obtain ⟨plain, short⟩ := Path.plain_of_isName named
  have relative := Path.isAbsolute_eq_false plain.slash
  refine ⟨?trimmed, name, ?names, plain.dots, short⟩
  case names =>
    rw [Path.names_join relative, Path.names_eq_singleton plain.filled plain.slash, List.dropLast_concat]
  case trimmed =>
    obtain ⟨front, ending⟩ : ∃ front, folder.join name = front ++ name := by
      rw [Path.join, if_neg (by simp [relative])]
      split
      · exact ⟨folder, rfl⟩
      · exact ⟨folder ++ ['/'], by simp⟩
    rw [Path.Trimmed, ending, List.reverse_append]
    have slash : '/' ∉ name.reverse := by simpa using plain.slash
    have filled : name.reverse ≠ [] := by simpa using plain.filled
    have dot : name.reverse ≠ ['.'] := by
      intro same
      have dots := plain.dots
      rw [List.reverse_eq_iff.mp same] at dots
      cases dots
    generalize name.reverse = reversed at slash filled dot
    obtain ⟨last, more, rfl⟩ := List.exists_cons_of_ne_nil filled
    -- What stands at the end is neither a slash nor a single dot behind one.
    rw [Path.trimReversed]
    · intro c rest same
      exact slash ((List.cons.inj same).1 ▸ List.mem_cons_self ..)
    · intro rest same
      obtain ⟨rfl, behind⟩ := List.cons.inj same
      cases more with
      | nil => exact dot rfl
      | cons d more =>
        obtain ⟨rfl, -⟩ := List.cons.inj behind
        exact slash (List.mem_cons_of_mem _ (List.mem_cons_self ..))

/-- What has to hold for a file to be put in its place: the way to it can be passed, and there is no folder
where it goes. -/
structure Accepts (disk : Disk) (path : Path) : Prop where
  fault : pathFault? path = none
  start : disk.at? (disk.start path) = some .folder
  all : disk.passable (disk.start path) path.names.dropLast = path.names.dropLast
  apart : disk.resolve path ∉ Place.trail (disk.start path) path.names.dropLast
  free : disk.at? (disk.resolve path) ≠ some .folder

/-- Whether the folder at a place is one of those that are made on the way to a file. They are made even if
the file cannot be put in its place, unless the path cannot be followed at all. -/
structure Paves (disk : Disk) (path : Path) (place : Place) : Prop where
  start : disk.at? (disk.start path) = some .folder
  sound : ∀ parent, path.parent? = some parent → parent = [] ∨ pathFault? parent = none
  passed : place ∈
    Place.trail (disk.start path) (disk.passable (disk.start path) path.names.dropLast)

open scoped Classical in
/-- What putting a file in its place comes to. -/
structure Deposited (disk : Disk) (path : Path) (content : Bytes) (done : Bool) (after : Disk) :
    Prop where
  here : after.here = disk.here
  done_iff : done = true ↔ disk.Accepts path
  at? : ∀ place, after.at? place =
    if disk.Accepts path ∧ place = disk.resolve path then some (.file content)
    else if disk.Paves path place then some .folder
    else disk.at? place

section Deposit

variable {path parent : Path}

/-- A path of a file has a folder above it. -/
theorem IsFile.exists_parent (file : IsFile path) :
    ∃ parent, path.parent? = some parent ∧ Path.IsParent parent path := by
  obtain ⟨name, names, -⟩ := file.names
  cases found : path.parent? with
  | none =>
    rw [names_of_parent?_eq_none file.trimmed found] at names
    simp at names
  | some parent => exact ⟨parent, rfl, Path.isParent_of_parent? found⟩

/-- The names in front of the last are those of the folder above, besides dots. -/
theorem IsFile.exists_dots (file : IsFile path) (isParent : Path.IsParent parent path) :
    ∃ middle, path.names.dropLast = parent.names ++ middle ∧ ∀ dot ∈ middle, dot = ['.'] := by
  obtain ⟨middle, name, dots, names, onlyMiddle, -, noDots⟩ := isParent.names
  rw [noDots file.trimmed] at names
  exact ⟨middle, by rw [names, List.dropLast_concat], onlyMiddle⟩

theorem paves_iff
    (sound : ∀ parent, path.parent? = some parent → parent = [] ∨ pathFault? parent = none)
    (start : disk.at? (disk.start path) = some .folder) {place : Place} :
    disk.Paves path place ↔
      place ∈ Place.trail (disk.start path) (disk.passable (disk.start path) path.names.dropLast) :=
  ⟨fun h => h.passed, fun h => ⟨start, sound, h⟩⟩

/-- Nothing is put in a place, and nothing is changed, if nothing can be done on the way. -/
theorem deposited_of_unchanged {content : Bytes} (refused : ¬ disk.Accepts path)
    (unpaved : ∀ place, disk.Paves path place → disk.at? place = some .folder) :
    Deposited disk path content false disk := by
  refine ⟨rfl, by simpa using refused, fun place => ?_⟩
  rw [if_neg fun h => refused h.1]
  split
  · exact unpaved place ‹_›
  · rfl

theorem write_of_error {content : Bytes} {failure : FileError}
    (h : (disk.slot path .isFolder).map (fun slot => (slot.folder, slot.name)) = .error failure) :
    disk.write path content = .error failure := by
  rw [write, slot_eq_error h]

/-- A file is written where there is a folder above and none in its place. -/
theorem write_of_slot (content : Bytes) {folder : Place} {name : Text}
    (h : (disk.slot path .isFolder).map (fun slot => (slot.folder, slot.name)) = .ok (folder, name))
    (slash : path.endsInSlash = false) :
    (disk.at? (folder ++ [name]) = some .folder → disk.write path content = .error .isFolder) ∧
    (disk.at? (folder ++ [name]) ≠ some .folder → ∃ written,
      disk.write path content = .ok written ∧ written.here = disk.here ∧
        ∀ place, written.at? place =
          if place = folder ++ [name] then some (.file content) else disk.at? place) := by
  obtain ⟨slot, named, rfl, rfl⟩ := exists_slot h
  unfold write
  rw [named]
  dsimp only
  rw [if_neg (by simp [slash])]
  constructor
  · intro taken
    exact dif_pos taken
  · intro free
    exact ⟨_, dif_neg free, rfl, fun place => at?_put ..⟩

/-- A path that cannot be followed, or that begins at no folder, names no slot. -/
theorem slot_fails (disk : Disk) (path : Path) (unnamed : FileError)
    (h : pathFault? path ≠ none ∨ disk.at? (disk.start path) ≠ some .folder) :
    ∃ failure, (disk.slot path unnamed).map (fun slot => (slot.folder, slot.name)) =
      .error failure := by
  rw [map_slot]
  cases fault : pathFault? path with
  | some failure => exact ⟨failure, rfl⟩
  | none =>
    obtain ⟨failure, failed⟩ : ∃ failure,
        disk.reach (disk.start path) path.names.dropLast = .error failure :=
      reach_of_not_folder (h.resolve_left (by simp [fault]))
    exact ⟨failure, by rw [failed]⟩

theorem settle_of_error {content : Bytes} {failure : FileError}
    (h : disk.write path content = .error failure) : disk.settle path content = (false, disk) := by
  rw [settle, h]

/-- Where all folders above a file are made, writing it decides. -/
theorem deposited_of_lays {content : Bytes} {above : Disk} (file : IsFile path)
    (sound : ∀ parent, path.parent? = some parent → parent = [] ∨ pathFault? parent = none)
    (start : disk.at? (disk.start path) = some .folder)
    (lays : Lays disk (disk.start path) path.names.dropLast (.ok ()) above) :
    Deposited disk path content (above.settle path content).1 (above.settle path content).2 := by
  obtain ⟨name, names, plain, short⟩ := file.names
  have slash := endsInSlash_of_trimmed file.trimmed (by rw [names]; simp)
  have sameStart : above.start path = disk.start path := by
    rw [Disk.start, Disk.start, lays.here]
  obtain ⟨-, all, laid⟩ := lays.laid start
  have begins : above.at? (disk.start path) = some .folder := by
    rw [lays.at?]
    split
    · rfl
    · exact start
  have place : Place.lead (disk.start path) path.names.dropLast ++ [name] = disk.resolve path := by
    rw [resolve]
    conv_rhs => rw [names]
    rw [Place.lead_append]
    exact (Place.step_of_not_dots plain).symm
  -- A file that cannot be written leaves the folders.
  have refused {failure : FileError} (no : ¬ disk.Accepts path)
      (failed : above.write path content = .error failure) :
      Deposited disk path content (above.settle path content).1 (above.settle path content).2 := by
    rw [settle_of_error failed]
    refine ⟨lays.here, by simpa using no, fun other => ?_⟩
    rw [if_neg fun h => no h.1, lays.at?]
    simp only [paves_iff sound start]
  cases fault : pathFault? path with
  | some failure =>
    obtain ⟨failure, failed⟩ := slot_fails above path .isFolder (.inl (by simp [fault]))
    exact refused (fun h => by simp [h.fault] at fault) (write_of_error failed)
  | none =>
    have last : path.names.getLast? = some name := by rw [names, List.getLast?_concat]
    have parts := map_slot above path .isFolder
    rw [fault, sameStart, reach_of_laid begins all laid, last] at parts
    simp only [plain, Bool.false_eq_true, if_false, if_neg (Nat.not_lt.mpr short)] at parts
    obtain ⟨whenTaken, whenFree⟩ := write_of_slot content parts slash
    rw [place] at whenTaken whenFree
    by_cases taken : above.at? (disk.resolve path) = some .folder
    · refine refused (fun h => ?_) (whenTaken taken)
      -- The folder was there before, or it is one of those that were made.
      rw [lays.at?, h.all, if_neg h.apart] at taken
      exact h.free taken
    · obtain ⟨written, done, here, at?⟩ := whenFree taken
      have outside : disk.resolve path ∉ Place.trail (disk.start path) path.names.dropLast :=
        fun passed => taken (by rw [lays.at?, lays.ok_iff.mp rfl, if_pos passed])
      have accepts : disk.Accepts path := by
        refine ⟨fault, start, lays.ok_iff.mp rfl, outside, fun folder => taken ?_⟩
        rw [lays.at?]
        split
        · rfl
        · exact folder
      rw [settle, done]
      refine ⟨here.trans lays.here, by simpa using accepts, fun other => ?_⟩
      simp only [at?, lays.at?, paves_iff sound start, accepts, true_and]

/-- **Putting a file in its place**: it is put there if the way can be passed and no folder is there, and
nothing else is changed but for the folders on the way. -/
theorem deposit_spec (disk : Disk) (content : Bytes) (file : IsFile path) :
    Deposited disk path content (disk.deposit path content).1 (disk.deposit path content).2 := by
  obtain ⟨parent, above, isParent⟩ := file.exists_parent
  obtain ⟨middle, folders, onlyDots⟩ := file.exists_dots isParent
  have sameStart : disk.start parent = disk.start path := by
    rw [Disk.start, Disk.start, isParent.absolute]
  have deposit_eq : disk.deposit path content =
      match disk.makeFolders parent with
      | (.error _, above) => (false, above)
      | (.ok (), above) => above.settle path content := by
    rw [deposit, makeAbove, above]
  by_cases start : disk.at? (disk.start path) = some .folder
  case neg =>
    -- Nothing can be done where the path begins.
    have unchanged : disk.deposit path content = (false, disk) := by
      obtain ⟨same, -⟩ := makeFolders_of_not_folder disk parent (sameStart ▸ start)
      obtain ⟨failure, failed⟩ := slot_fails disk path .isFolder (.inr start)
      rw [deposit_eq]
      rcases made : disk.makeFolders parent with ⟨_ | _, above⟩
      all_goals
        rw [made] at same
        obtain rfl : above = disk := same
      · rfl
      · exact settle_of_error (write_of_error failed)
    rw [unchanged]
    exact deposited_of_unchanged (fun h => start h.start) fun _ h => absurd h.start start
  by_cases sound : parent = [] ∨ pathFault? parent = none
  case neg =>
    obtain ⟨filled, fault⟩ := not_or.mp sound
    obtain ⟨failure, fault⟩ := Option.ne_none_iff_exists'.mp fault
    have unchanged : disk.deposit path content = (false, disk) := by
      rw [deposit_eq, makeFolders_of_fault disk filled fault]
    rw [unchanged]
    refine deposited_of_unchanged (fun h => sound ?_) fun _ h => absurd (h.sound parent above) sound
    exact pathFault?_of_isPrefix h.fault isParent.leads
  have soundParent : ∀ other, path.parent? = some other → other = [] ∨ pathFault? other = none := by
    intro other same
    cases above.symm.trans same
    exact sound
  have lays := makeFolders_lays disk parent isParent.trimmed sound (sameStart ▸ start)
  rw [sameStart] at lays
  rw [deposit_eq]
  rcases made : disk.makeFolders parent with ⟨failure | _, after⟩
  all_goals rw [made] at lays
  case error =>
    have front : Lays disk (disk.start path) path.names.dropLast (.error failure) after := by
      rw [folders]
      exact lays.append_of_error
    have refused : ¬ disk.Accepts path := by
      intro h
      cases front.ok_iff.mpr h.all
    refine ⟨front.here, by simpa using refused, fun place => ?_⟩
    rw [if_neg fun h => refused h.1, front.at?]
    simp only [paves_iff soundParent start]
  case ok =>
    obtain ⟨dots, -⟩ := lays_dots (lays.laid start).1 onlyDots
    refine deposited_of_lays file soundParent start ?_
    rw [folders]
    exact lays.append (open_of_folder start) dots

end Deposit

/-! ## §3 Two files -/

/-- The folders on the way to a file, as far as its names go. -/
def folders (disk : Disk) (path : Path) : List Place :=
  Place.trail (disk.start path) path.names.dropLast

/-- Two paths begin at one place, or both of them at a folder. -/
def Begin (disk : Disk) (p q : Path) : Prop :=
  disk.start p = disk.start q ∨
    (disk.at? (disk.start p) = some .folder ∧ disk.at? (disk.start q) = some .folder)

/-- Neither of two files is needed as a folder by the other, unless it is a folder anyway. -/
structure Clear (disk : Disk) (p q : Path) : Prop where
  begins : disk.Begin p q
  left : disk.resolve p ∈ disk.folders q → disk.at? (disk.resolve p) = some .folder
  right : disk.resolve q ∈ disk.folders p → disk.at? (disk.resolve q) = some .folder

/-- Neither of two files is at the place of the other, nor at one of the folders above it. -/
structure Beside (disk : Disk) (p q : Path) : Prop where
  left : ¬ disk.resolve p <+: disk.resolve q
  right : ¬ disk.resolve q <+: disk.resolve p

theorem Beside.symm {p q : Path} (h : disk.Beside p q) : disk.Beside q p := ⟨h.right, h.left⟩

theorem beside_of_here {next : Disk} (here : next.here = disk.here) {p q : Path} :
    next.Beside p q ↔ disk.Beside p q := by
  have parts (other : Disk) : other.Beside p q ↔
      ¬ other.resolve p <+: other.resolve q ∧ ¬ other.resolve q <+: other.resolve p :=
    ⟨fun h => ⟨h.left, h.right⟩, fun h => ⟨h.1, h.2⟩⟩
  rw [parts, parts, resolve_of_here here, resolve_of_here here]

/-- Where folders have been made, a file that is beside another one can only be where there is a folder, if it
is on the way to it at all. -/
theorem folder_of_mem_folders {base p q : Path} {more : List Text}
    (absolute : Path.isAbsolute q = Path.isAbsolute base) (names : Path.names q = Path.names base ++ more)
    (plain : ∀ name ∈ more, Path.isDots name = false)
    (laid : disk.Laid (disk.start base) (Path.names base)) (beside : disk.Beside p q)
    (passed : disk.resolve p ∈ disk.folders q) : disk.at? (disk.resolve p) = some .folder := by
  have start : disk.start q = disk.start base := by rw [Disk.start, Disk.start, absolute]
  have way : disk.resolve p ∈ disk.onWay q :=
    Place.trail_subset_of_isPrefix (List.dropLast_prefix _) passed
  rw [onWay, start, names, Place.trail_append] at way
  rcases List.mem_append.mp way with upper | lower
  · exact laid _ upper
  · refine absurd ?_ beside.left
    rw [resolve, resolve, start, names, Place.lead_append, Place.lead_of_not_dots plain]
    exact Place.mem_trail_of_not_dots plain lower

theorem Begin.symm {p q : Path} (h : disk.Begin p q) : disk.Begin q p :=
  h.imp Eq.symm And.symm

theorem Clear.symm {p q : Path} (h : disk.Clear p q) : disk.Clear q p :=
  ⟨h.begins.symm, h.right, h.left⟩

section Later

variable {next : Disk} (here : next.here = disk.here)
  (kept : ∀ place, disk.at? place = some .folder → next.at? place = some .folder)
include here

theorem start_of_here (path : Path) : next.start path = disk.start path := by
  rw [Disk.start, Disk.start, here]

theorem folders_of_here (path : Path) : next.folders path = disk.folders path := by
  rw [folders, folders, start_of_here here]

include kept

theorem Begin.onward {p q : Path} (h : disk.Begin p q) : next.Begin p q := by
  rw [Begin, start_of_here here, start_of_here here]
  exact h.imp_right fun both => ⟨kept _ both.1, kept _ both.2⟩

/-- Files that are clear of each other stay so as long as no folder is lost. -/
theorem Clear.onward {p q : Path} (h : disk.Clear p q) : next.Clear p q := by
  refine ⟨h.begins.onward here kept, ?_, ?_⟩
  all_goals rw [resolve_of_here here, folders_of_here here]
  · exact fun passed => kept _ (h.left passed)
  · exact fun passed => kept _ (h.right passed)

end Later

section Deposited

variable {p q : Path} {content other : Bytes} {done : Bool} {after : Disk}

/-- No folder is lost. -/
theorem Deposited.kept (h : Deposited disk p content done after) (place : Place)
    (folder : disk.at? place = some .folder) : after.at? place = some .folder := by
  rw [h.at?]
  split
  case isTrue taken => exact absurd (taken.2 ▸ folder) taken.1.free
  case isFalse =>
    split
    · rfl
    · exact folder

/-- The folders that are made are on the way, and no file is lost for them. -/
theorem Paves.mem_folders {place : Place} (h : disk.Paves p place) :
    place ∈ disk.folders p ∧ disk.isFileAt place = false :=
  ⟨Place.trail_subset_of_isPrefix passable_isPrefix h.passed,
    (open_of_folder h.start).isFileAt_of_mem_trail h.passed⟩

/-- Nothing is changed but the place of the file, and places where nothing was. -/
theorem Deposited.confined (h : Deposited disk p content done after) :
    Confined (· = disk.resolve p) (fun _ => True) disk after := by
  refine ⟨h.here, h.kept, fun place out => ?_⟩
  rw [h.at?, if_neg fun taken => out taken.2]
  split
  case isTrue paved =>
    have noFile := paved.mem_folders.2
    rw [isFileAt] at noFile
    rcases entry : disk.at? place with _ | _ | found
    · exact Or.inr ⟨trivial, rfl, rfl⟩
    · exact Or.inl rfl
    · simp [entry] at noFile
  case isFalse => exact Or.inl rfl

/-- Nothing is done for a path that begins at no folder. -/
theorem Deposited.at?_of_not_folder (h : Deposited disk p content done after)
    (start : disk.at? (disk.start p) ≠ some .folder) (place : Place) :
    after.at? place = disk.at? place := by
  rw [h.at?, if_neg fun taken => start taken.1.start, if_neg fun paved => start paved.start]

/-- A path begins at a folder before if it does so after another one. -/
theorem Deposited.start_iff (h : Deposited disk p content done after) (begins : disk.Begin p q) :
    after.at? (disk.start q) = some .folder ↔ disk.at? (disk.start q) = some .folder := by
  refine ⟨fun folder => ?_, h.kept _⟩
  rcases begins with same | ⟨-, folder⟩
  · by_contra none
    rw [h.at?_of_not_folder (same ▸ none)] at folder
    exact none folder
  · exact folder

/-- On the way to a file, files are where they were after another one that is clear of it. -/
theorem Deposited.isFileAt_eq (h : Deposited disk p content done after) (clear : disk.Clear p q)
    {place : Place} (passed : place ∈ disk.folders q) :
    after.isFileAt place = disk.isFileAt place := by
  have at? := h.at? place
  split at at?
  case isTrue taken =>
    obtain ⟨accepts, rfl⟩ := taken
    exact absurd (clear.left passed) accepts.free
  case isFalse =>
    split at at?
    case isTrue paved => rw [paved.mem_folders.2, isFileAt_of_folder at?]
    case isFalse => rw [isFileAt, isFileAt, at?]

theorem Deposited.passable_eq (h : Deposited disk p content done after) (clear : disk.Clear p q) :
    after.passable (disk.start q) q.names.dropLast = disk.passable (disk.start q) q.names.dropLast :=
  passable_congr fun _ passed => h.isFileAt_eq clear passed

/-- Where a file goes, there is a folder after another one that is clear of it just if there was one. -/
theorem Deposited.folder_iff (h : Deposited disk p content done after) (clear : disk.Clear p q) :
    after.at? (disk.resolve q) = some .folder ↔ disk.at? (disk.resolve q) = some .folder := by
  refine ⟨fun folder => ?_, h.kept _⟩
  rw [h.at?] at folder
  split at folder
  · cases folder
  split at folder
  case isTrue paved => exact clear.right paved.mem_folders.1
  case isFalse => exact folder

/-- **A file is put in its place after another one just if it is before**, and its folders are the same. -/
theorem Deposited.accepts_iff (h : Deposited disk p content done after) (clear : disk.Clear p q) :
    after.Accepts q ↔ disk.Accepts q := by
  have start := start_of_here h.here q
  have place := resolve_of_here h.here q
  constructor
  · intro accepts
    refine ⟨accepts.fault, ?_, ?_, ?_, ?_⟩
    · exact (h.start_iff clear.begins).mp (start ▸ accepts.start)
    · rw [← h.passable_eq clear, ← start]
      exact accepts.all
    · rw [← start, ← place]
      exact accepts.apart
    · intro folder
      refine accepts.free ?_
      rw [place]
      exact h.kept _ folder
  · intro accepts
    refine ⟨accepts.fault, ?_, ?_, ?_, ?_⟩
    · rw [start]
      exact h.kept _ accepts.start
    · rw [start, h.passable_eq clear]
      exact accepts.all
    · rw [start, place]
      exact accepts.apart
    · rw [place]
      exact fun folder => accepts.free ((h.folder_iff clear).mp folder)

theorem Deposited.paves_iff (h : Deposited disk p content done after) (clear : disk.Clear p q)
    {place : Place} : after.Paves q place ↔ disk.Paves q place := by
  have start := start_of_here h.here q
  constructor
  · intro paves
    refine ⟨(h.start_iff clear.begins).mp (start ▸ paves.start), paves.sound, ?_⟩
    rw [← h.passable_eq clear, ← start]
    exact paves.passed
  · intro paves
    refine ⟨by rw [start]; exact h.kept _ paves.start, paves.sound, ?_⟩
    rw [start, h.passable_eq clear]
    exact paves.passed

/-- **Two files are put in their places in either order**, if they are clear of each other, and have different
places or the same content. -/
theorem deposit_comm (disk : Disk) (fileP : IsFile p) (fileQ : IsFile q) (clear : disk.Clear p q)
    {content other : Bytes} (agree : disk.resolve p ≠ disk.resolve q ∨ content = other) :
    ((disk.deposit p content).2.deposit q other).2 = ((disk.deposit q other).2.deposit p content).2 := by
  have first := deposit_spec disk content fileP
  have second := deposit_spec disk other fileQ
  have firstThen := deposit_spec (disk.deposit p content).2 other fileQ
  have secondThen := deposit_spec (disk.deposit q other).2 content fileP
  refine ext_at? ?_ fun place => ?_
  · rw [firstThen.here, first.here, secondThen.here, second.here]
  rw [firstThen.at?, first.at?, secondThen.at?, second.at?]
  rw [first.accepts_iff clear, first.paves_iff clear, second.accepts_iff clear.symm,
    second.paves_iff clear.symm, resolve_of_here first.here, resolve_of_here second.here]
  -- Where a file goes, no folder is made for the other one.
  have apartP (goes : disk.Accepts p ∧ place = disk.resolve p) : ¬ disk.Paves q place := by
    rintro paved
    rw [goes.2] at paved
    exact goes.1.free (clear.left paved.mem_folders.1)
  have apartQ (goes : disk.Accepts q ∧ place = disk.resolve q) : ¬ disk.Paves p place := by
    rintro paved
    rw [goes.2] at paved
    exact goes.1.free (clear.right paved.mem_folders.1)
  by_cases goesP : disk.Accepts p ∧ place = disk.resolve p
  · by_cases goesQ : disk.Accepts q ∧ place = disk.resolve q
    · have same : content = other := agree.resolve_left (not_not.mpr (goesP.2.symm.trans goesQ.2))
      rw [if_pos goesQ, if_pos goesP, same]
    · rw [if_neg goesQ, if_neg (apartP goesP), if_pos goesP, if_pos goesP]
  · by_cases goesQ : disk.Accepts q ∧ place = disk.resolve q
    · rw [if_pos goesQ, if_neg goesP, if_neg (apartQ goesQ), if_pos goesQ]
    · rw [if_neg goesP, if_neg goesQ, if_neg goesQ, if_neg goesP]
      split <;> split <;> rfl

end Deposited

/-! ## §4 Many files -/

/-- A file to be put in its place. -/
structure Job where
  path : Path
  content : Bytes

/-- The disk after all of several files have been tried to be put in their places, one after the other. -/
def depositAll (disk : Disk) (jobs : List Job) : Disk :=
  jobs.foldl (fun disk job => (disk.deposit job.path job.content).2) disk

/-- Several files are put in their places up to the first that cannot be. -/
def depositEach (disk : Disk) : List Job → Bool × Disk
  | [] => (true, disk)
  | job :: jobs =>
    match disk.deposit job.path job.content with
    | (true, after) => after.depositEach jobs
    | (false, after) => (false, after)

/-- Two files do not stand in the way of each other. -/
structure Apart (disk : Disk) (p q : Path) : Prop where
  left : disk.resolve p ∉ disk.folders q
  right : disk.resolve q ∉ disk.folders p

theorem Apart.symm {p q : Path} (h : disk.Apart p q) : disk.Apart q p := ⟨h.right, h.left⟩

theorem Apart.clear {p q : Path} (h : disk.Apart p q) (begins : disk.Begin p q) : disk.Clear p q :=
  ⟨begins, fun passed => absurd passed h.left, fun passed => absurd passed h.right⟩

theorem apart_of_here {next : Disk} (here : next.here = disk.here) {p q : Path} :
    next.Apart p q ↔ disk.Apart p q := by
  have parts (other : Disk) : other.Apart p q ↔
      other.resolve p ∉ other.folders q ∧ other.resolve q ∉ other.folders p :=
    ⟨fun h => ⟨h.left, h.right⟩, fun h => ⟨h.1, h.2⟩⟩
  rw [parts, parts, resolve_of_here here, resolve_of_here here, folders_of_here here,
    folders_of_here here]

/-- Two files that are put in their places one after the other do not stand in the way of each other. -/
theorem Deposited.apart {p q : Path} {content : Bytes} {after : Disk}
    (h : Deposited disk p content true after) (accepts : after.Accepts q) : disk.Apart p q := by
  have first := h.done_iff.mp rfl
  constructor
  · intro passed
    -- The first file would be in the way of the second one.
    have file : after.isFileAt (disk.resolve p) = true := by
      rw [isFileAt, h.at?, if_pos ⟨first, rfl⟩]
    rw [← folders_of_here h.here, folders, ← accepts.all] at passed
    rw [(open_of_folder accepts.start).isFileAt_of_mem_trail passed] at file
    cases file
  · intro passed
    -- The second file would be where there is a folder for the first one.
    have paves : disk.Paves p (disk.resolve q) := by
      refine ⟨first.start, fun parent found => ?_, by rw [first.all]; exact passed⟩
      exact pathFault?_of_isPrefix first.fault (Path.isParent_of_parent? found).leads
    have ne : disk.resolve q ≠ disk.resolve p := fun same => first.apart (same ▸ passed)
    refine accepts.free ?_
    rw [resolve_of_here h.here, h.at?, if_neg fun taken => ne taken.2, if_pos paves]

section Jobs

variable {jobs others : List Job}

theorem depositEach_singleton (disk : Disk) (job : Job) :
    (disk.depositEach [job]).1 = (disk.deposit job.path job.content).1 := by
  rw [depositEach]
  rcases disk.deposit job.path job.content with ⟨_ | _, after⟩
  · rfl
  · rfl

theorem depositAll_append (disk : Disk) (jobs others : List Job) :
    disk.depositAll (jobs ++ others) = (disk.depositAll jobs).depositAll others :=
  List.foldl_append

theorem depositEach_append_iff (disk : Disk) (jobs others : List Job) :
    (disk.depositEach (jobs ++ others)).1 = true ↔
      (disk.depositEach jobs).1 = true ∧ ((disk.depositAll jobs).depositEach others).1 = true := by
  induction jobs generalizing disk with
  | nil => simp [depositEach, depositAll]
  | cons job jobs ih =>
    rw [List.cons_append, depositEach, depositEach, depositAll, List.foldl_cons]
    rcases disk.deposit job.path job.content with ⟨_ | _, after⟩
    · simp
    · exact ih after

/-- Nothing is changed but the places of the files, and places where nothing was. -/
theorem depositAll_confined (disk : Disk) (files : ∀ job ∈ jobs, IsFile job.path) :
    Confined (fun place => ∃ job ∈ jobs, place = disk.resolve job.path) (fun _ => True) disk
      (disk.depositAll jobs) := by
  induction jobs generalizing disk with
  | nil => exact .refl ..
  | cons job jobs ih =>
    have spec := deposit_spec disk job.content (files job (List.mem_cons_self ..))
    have first : Confined (fun place => ∃ other ∈ job :: jobs, place = disk.resolve other.path)
        (fun _ => True) disk (disk.deposit job.path job.content).2 :=
      spec.confined.mono (fun _ same => ⟨job, List.mem_cons_self .., same⟩) fun _ _ => .inr trivial
    apply first.trans
    have rest := ih (disk.deposit job.path job.content).2 fun other mem =>
      files other (List.mem_cons_of_mem _ mem)
    apply rest.mono
    · rintro place ⟨other, mem, rfl⟩
      exact ⟨other, List.mem_cons_of_mem _ mem, resolve_of_here spec.here other.path⟩
    · exact fun _ _ => .inr trivial

/-- **Several files are put in their places** if each of them could be put there alone, and none stands in the way
of another one. -/
theorem depositEach_iff (files : ∀ job ∈ jobs, IsFile job.path)
    (begins : ∀ x ∈ jobs, ∀ y ∈ jobs, disk.Begin x.path y.path) :
    (disk.depositEach jobs).1 = true ↔
      (∀ job ∈ jobs, disk.Accepts job.path) ∧
        jobs.Pairwise (fun x y => disk.Apart x.path y.path) := by
  induction jobs generalizing disk with
  | nil => simp [depositEach]
  | cons job jobs ih =>
    have spec := deposit_spec disk job.content (files job (List.mem_cons_self ..))
    rw [depositEach, List.forall_mem_cons, List.pairwise_cons]
    rcases run : disk.deposit job.path job.content with ⟨_ | _, after⟩
    all_goals rw [run] at spec
    · have refused : ¬ disk.Accepts job.path := fun h => by cases spec.done_iff.mpr h
      simp [refused]
    have accepts := spec.done_iff.mp rfl
    have rest := @ih after (fun other mem => files other (List.mem_cons_of_mem _ mem))
      fun x hx y hy => Begin.onward spec.here spec.kept
        (begins x (List.mem_cons_of_mem _ hx) y (List.mem_cons_of_mem _ hy))
    simp only [apart_of_here spec.here] at rest
    -- A file that does not stand in the way of the first one is accepted after it just if it is before.
    have same (other : Job) (mem : other ∈ jobs) (apart : disk.Apart job.path other.path) :
        after.Accepts other.path ↔ disk.Accepts other.path :=
      spec.accepts_iff
        (apart.clear (begins _ (List.mem_cons_self ..) _ (List.mem_cons_of_mem _ mem)))
    refine rest.trans ⟨?_, ?_⟩
    · rintro ⟨all, pairwise⟩
      have apart (other : Job) (mem : other ∈ jobs) := spec.apart (all other mem)
      exact ⟨⟨accepts, fun other mem => (same other mem (apart other mem)).mp (all other mem)⟩,
        apart, pairwise⟩
    · rintro ⟨⟨-, all⟩, apart, pairwise⟩
      exact ⟨fun other mem => (same other mem (apart other mem)).mpr (all other mem), pairwise⟩

/-- Whether several files are put in their places does not depend on their order. -/
theorem depositEach_perm (perm : jobs.Perm others) (files : ∀ job ∈ jobs, IsFile job.path)
    (begins : ∀ x ∈ jobs, ∀ y ∈ jobs, disk.Begin x.path y.path) :
    (disk.depositEach jobs).1 = (disk.depositEach others).1 := by
  have mem (job : Job) : job ∈ others ↔ job ∈ jobs := perm.mem_iff.symm
  rw [Bool.eq_iff_iff, depositEach_iff files begins, depositEach_iff]
  · simp only [mem, perm.pairwise_iff fun {x y} h => Apart.symm h]
  · simpa only [mem] using files
  · simpa only [mem] using begins

/-- Two files that can be put in their places in either order. -/
structure Commutes (disk : Disk) (x y : Job) : Prop where
  clear : disk.Clear x.path y.path
  agree : disk.resolve x.path ≠ disk.resolve y.path ∨ x.content = y.content

theorem Commutes.symm {x y : Job} (h : disk.Commutes x y) : disk.Commutes y x :=
  ⟨h.clear.symm, h.agree.imp Ne.symm Eq.symm⟩

theorem Commutes.onward {next : Disk} (here : next.here = disk.here)
    (kept : ∀ place, disk.at? place = some .folder → next.at? place = some .folder) {x y : Job}
    (h : disk.Commutes x y) : next.Commutes x y := by
  refine ⟨h.clear.onward here kept, ?_⟩
  rw [resolve_of_here here, resolve_of_here here]
  exact h.agree

/-- **Files of which any two can be put in their places in either order can be put there in any order.** -/
theorem depositAll_perm (perm : jobs.Perm others) (files : ∀ job ∈ jobs, IsFile job.path)
    (commute : jobs.Pairwise disk.Commutes) : disk.depositAll jobs = disk.depositAll others := by
  induction perm generalizing disk with
  | nil => rfl
  | cons job perm ih =>
    have spec := deposit_spec disk job.content (files job (List.mem_cons_self ..))
    apply ih fun other mem => files other (List.mem_cons_of_mem _ mem)
    exact (List.pairwise_cons.mp commute).2.imp fun h => h.onward spec.here spec.kept
  | swap x y jobs =>
    obtain ⟨clear, agree⟩ := (List.pairwise_cons.mp commute).1 x (List.mem_cons_self ..)
    have swap := deposit_comm disk (files y (List.mem_cons_self ..))
      (files x (List.mem_cons_of_mem _ (List.mem_cons_self ..))) clear agree
    rw [depositAll, depositAll, List.foldl_cons, List.foldl_cons, List.foldl_cons, List.foldl_cons,
      swap]
  | trans first second ihFirst ihSecond =>
    refine (ihFirst files commute).trans (ihSecond ?_ ?_)
    · exact fun job mem => files job (first.mem_iff.mpr mem)
    · exact (first.pairwise_iff fun {x y} h => h.symm).mp commute

end Jobs

end Disk

end DocSite.Files
