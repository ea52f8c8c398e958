import DocSite.Proofs.Files.Lookup

/-!
# What is seen at a path

A path is followed through the folders on its way, so it leads on wherever these are there (`walk_of_laid`). What
stands at the place of a path is therefore seen at the path if its names lead nowhere back up (`hasEntry_of_at?`),
and folders that have been made are seen there, and making them again does nothing (`makeFolders_again`).
-/

namespace DocSite.Files

variable {place : Place} {names : List Text}

/-! ## §1 Names that lead nowhere back up -/

/-- The name that leads to the folder above. -/
def parentName : Text := ['.', '.']

theorem Place.staysBelow_of_notMem (depth : Nat) (ahead : parentName ∉ names) :
    Place.staysBelow depth names = true := by
  induction names generalizing depth with
  | nil => rfl
  | cons name names ih =>
    obtain ⟨first, rest⟩ : name ≠ parentName ∧ parentName ∉ names := by
      simpa [eq_comm] using ahead
    obtain ⟨next, level⟩ : ∃ next, Place.level? depth name = some next := by
      have onward : ¬ name = ['.', '.'] := first
      rw [Place.level?, if_neg onward]
      split
      · exact ⟨_, rfl⟩
      · exact ⟨_, rfl⟩
    rw [Place.staysBelow, level]
    exact ih next rest

namespace Disk

variable {disk : Disk} {path : Path}

/-- On the way to a folder that leads nowhere back up, there are folders. -/
theorem laid_of_folder (ahead : parentName ∉ names) (there : disk.at? (Place.lead place names) = some .folder) :
    disk.at? place = some .folder ∧ disk.Laid place names := by
  have above {upper : Place} (prefixed : upper <+: Place.lead place names) : disk.at? upper = some .folder := by
    by_cases same : upper = Place.lead place names
    · rw [same, there]
    · exact folder_above there prefixed same
  refine ⟨above (Place.prefix_lead (Place.staysBelow_of_notMem 0 ahead)), ?_⟩
  induction names generalizing place with
  | nil =>
    intro passed mem
    cases mem
  | cons name names ih =>
    have rest : parentName ∉ names := fun mem => ahead (List.mem_cons_of_mem _ mem)
    intro passed mem
    rcases List.mem_cons.mp mem with rfl | mem
    · exact above (Place.prefix_lead (Place.staysBelow_of_notMem 0 rest))
    · exact ih rest there above passed mem

/-! ## §2 Ways through folders that are there -/

/-- Names lead on through folders. -/
theorem walk_of_laid (start : disk.at? place = some .folder) (laid : disk.Laid place names) :
    disk.walk place names = .ok (Place.lead place names) := by
  induction names generalizing place with
  | nil => rfl
  | cons name names ih =>
    have next := laid _ (List.mem_cons_self ..)
    have entered : disk.enter place name = .ok (Place.step place name) := by
      rw [enter_of_folder start]
      split
      · rfl
      · rename_i plain
        rw [Place.step_of_not_dots (by simpa using plain)] at next ⊢
        have proper := isName_of_at? next (List.mem_append_right place (List.mem_singleton_self name))
        rw [if_neg (Nat.not_lt.mpr (Path.plain_of_isName proper).2), if_pos (by rw [next]; rfl)]
    rw [walk, entered]
    exact ih next fun passed mem => laid passed (List.mem_cons_of_mem _ mem)

theorem walk_of_reach {folder : Place} (h : disk.reach place names = .ok folder) :
    disk.walk place names = .ok folder := by
  rw [reach] at h
  split at h
  · cases h
  rename_i last walked
  split at h
  · cases h
  · cases h
  · rw [walked, Except.ok.inj h]

/-- A folder is seen at a path whose names lead to it. -/
theorem hasFolder_of_walk (fault : pathFault? path = none)
    (walked : disk.walk (disk.start path) path.names = .ok place) (there : disk.at? place = some .folder) :
    disk.hasFolder path = true := by
  have located : disk.locate path = .ok place := by
    rw [locate, fault]
    dsimp only
    rw [walk_append, walked]
    dsimp only
    split
    · have entered : disk.enter place ['.'] = .ok place := by
        rw [enter_of_folder there]
        rfl
      rw [walk, entered]
      rfl
    · rfl
  rw [hasFolder, find?, located]
  simp [there]

/-- What stands at the place of a path that can be written to is seen at the path, if the path leads nowhere back
up. -/
theorem hasEntry_of_at? {unnamed : FileError} {other : Disk} {slot : Slot other} {entry : Entry}
    (named : other.slot path unnamed = .ok slot) (slash : path.endsInSlash = false)
    (ahead : parentName ∉ path.names) (there : disk.at? (disk.resolve path) = some entry) :
    disk.hasEntry path = true := by
  obtain ⟨fault, -, last, plain, short⟩ := slot_eq_ok named
  obtain ⟨front, names⟩ := List.getLast?_eq_some_iff.mp last
  let folder := Place.lead (disk.start path) front
  have place : disk.resolve path = folder ++ [slot.name] := by
    rw [resolve, names, Place.lead_append]
    exact Place.step_of_not_dots plain
  have inFolder : disk.at? folder = some .folder := by
    rw [← at?_dropLast there, place, List.dropLast_concat]
  obtain ⟨start, laid⟩ := laid_of_folder (fun mem => ahead (names ▸ List.mem_append_left _ mem)) inFolder
  have entered : disk.enter folder slot.name = .ok (disk.resolve path) := by
    rw [enter_of_folder inFolder, if_neg (by simp [plain]), if_neg (Nat.not_lt.mpr short),
      if_pos (by rw [← place, there]; rfl), place]
  have located : disk.locate path = .ok (disk.resolve path) := by
    rw [locate, fault]
    dsimp only
    rw [slash, if_neg (by simp), List.append_nil, names, walk_append, walk_of_laid start laid]
    simp [walk, show Place.lead (disk.start path) front = folder from rfl, entered]
  rw [hasEntry, find?, located]
  dsimp only
  rw [there]
  rfl

/-- A folder stands at a path if something is seen at a path that leads on from there. -/
theorem hasFolder_of_hasEntry {lower : Path} {name : Text} {more : List Text} (h : disk.hasEntry lower = true)
    (fault : pathFault? path = none) (absolute : lower.isAbsolute = path.isAbsolute)
    (named : lower.names = path.names ++ name :: more) : disk.hasFolder path = true := by
  rw [hasEntry, find?] at h
  cases located : disk.locate lower with
  | error failure =>
    rw [located] at h
    cases h
  | ok place =>
    rw [locate] at located
    split at located
    · cases located
    rw [named, List.append_assoc, List.cons_append, walk_append_cons, start, absolute, ← start] at located
    cases reached : disk.reach (disk.start path) path.names with
    | error failure =>
      rw [reached] at located
      cases located
    | ok folder => exact hasFolder_of_walk fault (walk_of_reach reached) (at?_of_reach reached)

theorem hasEntry_of_hasFolder (h : disk.hasFolder path = true) : disk.hasEntry path = true := by
  have found : disk.find? path = some .folder := by simpa [hasFolder] using h
  rw [hasEntry, found]
  rfl

/-! ## §3 Folders that have been made -/

/-- A folder that has been made is seen at its path. -/
theorem hasFolder_of_makeFolder {made : Disk} (h : disk.makeFolder path = .ok made) :
    made.hasFolder path = true := by
  have laid := laid_of_makeFolder h
  have kept := (makeFolder_confined h).folders
  have here := (makeFolder_confined h).here
  obtain ⟨slot, named, -, -⟩ := makeFolder_eq_ok h
  obtain ⟨fault, walked, last, -, -⟩ := slot_eq_ok named
  have filled : path.names ≠ [] := by
    rintro empty
    rw [empty] at last
    cases last
  have reached : disk.reach (disk.start path) path.names.dropLast = .ok slot.folder := by
    rw [reach, walked]
    dsimp only
    rw [slot.inFolder]
  have start : made.at? (made.start path) = some .folder := by
    rw [Disk.start, here]
    exact kept _ (start_of_reach reached)
  exact hasFolder_of_walk fault (walk_of_laid start laid) (laid _ (Place.lead_mem_trail filled))

/-- Once the folders of a path have been made, the last of them is seen there. -/
theorem hasFolder_of_makeFolders {after : Disk} (h : disk.makeFolders path = (.ok (), after)) (filled : path ≠ []) :
    after.hasFolder path = true := by
  fun_induction disk.makeFolders path with
  | case1 path empty => exact absurd (List.isEmpty_iff.mp empty) filled
  | case2 path _ made done =>
    cases h
    exact hasFolder_of_makeFolder done
  | case3 => cases h
  | case4 => cases h
  | case5 path _ missing parent isAbove above made final done ih =>
    cases h
    exact hasFolder_of_makeFolder done
  | case6 path _ missing parent isAbove above made failure failed ih =>
    split at h
    · cases h
      assumption
    · cases h
  | case7 path _ failure ne failed =>
    split at h
    · cases h
      assumption
    · cases h

/-- Nothing is missing above a folder that is there. -/
theorem makeFolder_ne_notFound (h : disk.hasFolder path = true) : disk.makeFolder path ≠ .error .notFound := by
  obtain ⟨located, -⟩ := locate_of_hasFolder h
  have fault : pathFault? path = none := by
    rw [locate] at located
    split at located
    · cases located
    · assumption
  obtain ⟨folder, above⟩ : ∃ folder, disk.reach (disk.start path) path.names.dropLast = .ok folder := by
    have reached := reach_of_hasFolder h
    rcases List.eq_nil_or_concat path.names with empty | ⟨front, last, names⟩
    · rw [empty] at reached ⊢
      exact ⟨_, reached⟩
    · rw [List.concat_eq_append] at names
      rw [names, List.dropLast_concat]
      cases course (start_of_reach reached) front with
      | arrives reached => exact ⟨_, reached⟩
      | missing failed => cases (hasFolder_of_reach_error names failed).symm.trans h
      | stops failure _ failed => cases (hasFolder_of_reach_error names failed).symm.trans h
  have parts := map_slot disk path .alreadyThere
  rw [fault, above] at parts
  dsimp only at parts
  intro missing
  rw [makeFolder] at missing
  split at missing
  · rename_i failure failed
    cases missing
    rw [failed] at parts
    split at parts
    · cases parts
    · split at parts
      · cases parts
      · split at parts
        · cases parts
        · cases parts
  · split at missing
    · cases missing
    · cases missing

/-- Where there is a folder, none is made. -/
theorem makeFolders_of_hasFolder (h : disk.hasFolder path = true) : disk.makeFolders path = (.ok (), disk) := by
  obtain ⟨-, there⟩ := locate_of_hasFolder h
  rw [makeFolders]
  split
  · rfl
  have refused : ∀ made, disk.makeFolder path ≠ .ok made := by
    intro made done
    obtain ⟨slot, named, free, -⟩ := makeFolder_eq_ok done
    rw [slot_place named, there] at free
    cases free
  split
  · rename_i made done
    exact absurd done (refused made)
  · rename_i missing
    exact absurd missing (makeFolder_ne_notFound h)
  · rfl

/-- **Folders that have been made stay made**: making them again does nothing, as long as no folder is lost. -/
theorem makeFolders_again {above later : Disk} (h : disk.makeFolders path = (.ok (), above))
    (here : later.here = above.here)
    (kept : ∀ place, above.at? place = some .folder → later.at? place = some .folder) :
    later.makeFolders path = (.ok (), later) := by
  by_cases empty : path = []
  · rw [makeFolders, if_pos (by simp [empty])]
  · obtain ⟨located, there⟩ := locate_of_hasFolder (hasFolder_of_makeFolders h empty)
    have folder := kept _ there
    have again := locate_of_kept here kept (by rw [folder]; rfl) located
    apply makeFolders_of_hasFolder
    rw [hasFolder, find?, again]
    simp [folder]

end Disk

end DocSite.Files
