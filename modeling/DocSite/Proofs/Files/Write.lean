import DocSite.Files.Access

/-!
# Files that have been written

A file that is written is there afterwards: reading its path gives what was written. The path leads to the
same place as before, since a file only ever takes a place at which there is no folder, and a path leads
through folders only.
-/

namespace DocSite.Files

namespace Disk

variable {disk : Disk}

/-! ## §1 Ways through folders -/

theorem walk_append (disk : Disk) (place : Place) (names more : List Text) :
    disk.walk place (names ++ more) =
      match disk.walk place names with
      | .ok next => disk.walk next more
      | .error failure => .error failure := by
  induction names generalizing place with
  | nil => rfl
  | cons name names ih =>
    simp only [List.cons_append, walk]
    cases disk.enter place name with
    | ok next => exact ih next
    | error failure => rfl

/-- What holds if a name leads somewhere. -/
theorem at?_of_enter {place next : Place} {name : Text} (h : disk.enter place name = .ok next) :
    disk.at? place = some .folder := by
  unfold enter at h
  split at h
  · cases h
  · cases h
  · assumption

section Kept

variable {after : Disk}
  (folders : ∀ place, disk.at? place = some .folder → after.at? place = some .folder)

include folders

/-- A name that leads somewhere leads there as long as no folder is lost and something is still there. -/
theorem enter_of_kept {place next : Place} {name : Text} (there : (after.at? next).isSome = true)
    (h : disk.enter place name = .ok next) : after.enter place name = .ok next := by
  have isFolder := at?_of_enter h
  unfold enter at h ⊢
  rw [isFolder] at h
  rw [folders place isFolder]
  dsimp only at h ⊢
  -- Only the last case looks at more than the name, and what it finds is still there.
  by_cases dot : name = ['.']
  · rwa [if_pos dot] at h ⊢
  by_cases dots : name = ['.', '.']
  · rwa [if_neg dot, if_pos dots] at h ⊢
  by_cases long : maxNameSize < Text.utf8Length name
  · rw [if_neg dot, if_neg dots, if_pos long] at h
    cases h
  rw [if_neg dot, if_neg dots, if_neg long] at h ⊢
  split at h
  · cases h
    rw [if_pos there]
  · cases h

/-- Names that lead somewhere lead there as long as no folder is lost and something is still there. -/
theorem walk_of_kept {place last : Place} {names : List Text} (there : (after.at? last).isSome = true)
    (h : disk.walk place names = .ok last) : after.walk place names = .ok last := by
  induction names generalizing place with
  | nil => exact h
  | cons name names ih =>
    rw [walk] at h ⊢
    cases entered : disk.enter place name with
    | error failure =>
      rw [entered] at h
      cases h
    | ok next =>
      rw [entered] at h
      -- On the way there are folders.
      have thereNext : (after.at? next).isSome = true := by
        cases names with
        | nil =>
          cases h
          exact there
        | cons other names =>
          dsimp only at h
          rw [walk] at h
          cases enteredOther : disk.enter next other with
          | error failure =>
            rw [enteredOther] at h
            cases h
          | ok _ => rw [folders next (at?_of_enter enteredOther), Option.isSome_some]
      rw [enter_of_kept folders thereNext entered]
      exact ih h

end Kept

/-- A new file leaves all folders as they are. -/
theorem at?_put_of_folder {folder : Place} {name : Text} {content : Bytes}
    {inFolder : disk.at? folder = some .folder} {proper : Path.isName name = true}
    {free : disk.at? (folder ++ [name]) = some .folder → Entry.file content = .folder}
    {place : Place} (h : disk.at? place = some .folder) :
    (disk.put folder name (.file content) inFolder proper free).at? place = some .folder := by
  rw [at?_put]
  split
  · rename_i same
    exact absurd (free (same ▸ h)) (by simp)
  · exact h

/-! ## §2 Slots -/

/-- What holds of a path that names a slot. -/
theorem slot_eq_ok {path : Path} {unnamed : FileError} {slot : Slot disk}
    (h : disk.slot path unnamed = .ok slot) :
    pathFault? path = none ∧
    disk.walk (disk.start path) path.names.dropLast = .ok slot.folder ∧
    path.names.getLast? = some slot.name ∧ Path.isDots slot.name = false ∧
    Text.utf8Length slot.name ≤ maxNameSize := by
  unfold Disk.slot at h
  split at h
  · cases h
  rename_i proper
  split at h
  · cases h
  rename_i folder reached
  split at h
  · cases h
  · cases h
  · cases h
  · rename_i name inFolder last
    split at h
    · cases h
    rename_i dots
    split at h
    · cases h
    rename_i long
    cases h
    exact ⟨proper, reached, last, by simpa using dots, Nat.le_of_not_lt long⟩

/-- **What is written can be read**: the path of a file that has been written leads to its content. -/
theorem read_of_write {path : Path} {content : Bytes} {written : Disk}
    (h : disk.write path content = .ok written) : written.read path = .ok content := by
  unfold write at h
  split at h
  · cases h
  rename_i slot named
  split at h
  · cases h
  rename_i slash
  split at h
  · cases h
  rename_i free
  rcases slot_eq_ok named with ⟨proper, reached, last, dots, short⟩
  cases h
  have names : path.names = path.names.dropLast ++ [slot.name] := by
    obtain ⟨front, hfront⟩ := List.getLast?_eq_some_iff.mp last
    rw [hfront, List.dropLast_concat]
  let after := disk.put slot.folder slot.name (.file content) slot.inFolder slot.proper
    fun taken => absurd taken free
  have file : after.at? slot.place = some (.file content) := by
    rw [at?_put]
    exact if_pos rfl
  -- The way to the folder is the old one, and the last step enters the file.
  have stays : after.at? slot.folder = some .folder := at?_put_of_folder slot.inFolder
  have way : after.walk (after.start path) path.names.dropLast = .ok slot.folder :=
    walk_of_kept (fun _ => at?_put_of_folder) (by rw [stays]; rfl) reached
  have step : after.enter slot.folder slot.name = .ok slot.place := by
    simp only [Path.isDots, Bool.or_eq_false_iff, beq_eq_false_iff_ne] at dots
    have there : (after.at? (slot.folder ++ [slot.name])).isSome = true := by
      rw [show slot.folder ++ [slot.name] = slot.place from rfl, file]
      rfl
    unfold enter
    rw [stays]
    dsimp only
    rw [if_neg dots.1, if_neg dots.2, if_neg (Nat.not_lt.mpr short), if_pos there]
    rfl
  have located : after.locate path = .ok slot.place := by
    unfold locate
    rw [proper]
    dsimp only
    rw [if_neg slash, List.append_nil, names, walk_append, way]
    simp [walk, step]
  show after.read path = .ok content
  rw [read, located]
  dsimp only
  rw [file]

end Disk

end DocSite.Files
