import DocSite.Proofs.Files.Folders

/-!
# Files found below a folder

A path that leads downwards from a folder leads to what stands at its place, and nothing above matters
(`read_eq_ok_iff`). So a file that is below a folder is found there as long as nothing changes at its place
(`Confined.read_iff`), whatever is added elsewhere.
-/

namespace DocSite.Files

namespace Disk

/-! ## §1 Files below a folder -/

variable {disk : Disk} {place folder : Place} {names : List Text} {root path : Path}

/-- Names that lead downwards lead to what stands there. -/
theorem walk_down_iff (h : disk.at? place = some .folder)
    (plain : ∀ name ∈ names, Path.isDots name = false) {entry : Entry} :
    (∃ last, disk.walk place names = .ok last ∧ disk.at? last = some entry) ↔
      disk.at? (place ++ names) = some entry := by
  induction names generalizing place with
  | nil => simp [walk]
  | cons name names ih =>
    have onward : place ++ name :: names = (place ++ [name]) ++ names := by simp
    have first := plain name (List.mem_cons_self ..)
    rw [walk, enter_of_folder h, if_neg (by simp [first])]
    by_cases long : maxNameSize < Text.utf8Length name
    · rw [if_pos long]
      refine ⟨(by rintro ⟨_, failed, _⟩; cases failed), fun there => ?_⟩
      have proper := isName_of_at? there (List.mem_append_right _ (List.mem_cons_self ..))
      exact absurd (Path.plain_of_isName proper).2 (Nat.not_le_of_lt long)
    rw [if_neg long, onward]
    rcases next : disk.at? (place ++ [name]) with _ | _ | content
    · -- Nothing stands below nothing.
      refine ⟨(by rintro ⟨_, failed, _⟩; cases failed), fun there => ?_⟩
      by_cases last : names = []
      · rw [last, List.append_nil, next] at there
        cases there
      · have above := folder_above there (List.prefix_append ..) (by simpa using last)
        cases next.symm.trans above
    · exact ih next fun other mem => plain other (List.mem_cons_of_mem _ mem)
    · dsimp only [Option.isSome_some, if_true]
      cases names with
      | nil => simp [walk]
      | cons other names =>
        -- Nothing stands below a file.
        rw [if_pos rfl]
        dsimp only
        rw [walk, enter, next]
        refine ⟨(by rintro ⟨_, failed, _⟩; cases failed), fun there => ?_⟩
        have above := folder_above there (List.prefix_append ..) (by simp)
        cases next.symm.trans above

/-- A path to a folder can be followed to it. -/
theorem exists_reach_of_hasFolder (h : disk.hasFolder root = true) :
    ∃ folder, disk.reach (disk.start root) root.names = .ok folder := by
  rw [hasFolder, find?, locate] at h
  cases fault : pathFault? root with
  | some failure => simp [fault] at h
  | none =>
    rw [fault] at h
    dsimp only at h
    by_cases slash : root.endsInSlash = true
    · rw [if_pos slash, walk_append_cons] at h
      cases reached : disk.reach (disk.start root) root.names with
      | error failure => simp [reached] at h
      | ok folder => exact ⟨folder, rfl⟩
    · rw [if_neg slash, List.append_nil] at h
      cases walked : disk.walk (disk.start root) root.names with
      | error failure => simp [walked] at h
      | ok folder =>
        rw [walked] at h
        have there : disk.at? folder = some .folder := by simpa using h
        exact ⟨folder, by rw [reach, walked]; dsimp only; rw [there]⟩

/-- A folder at a path stands at the place of the path. -/
theorem locate_of_hasFolder {path : Path} (h : disk.hasFolder path = true) :
    disk.locate path = .ok (disk.resolve path) ∧ disk.at? (disk.resolve path) = some .folder := by
  rw [hasFolder, find?] at h
  cases located : disk.locate path with
  | error failure => simp [located] at h
  | ok place =>
    rw [← locate_eq_ok located]
    exact ⟨rfl, by simpa [located] using h⟩

/-- A folder at a path is there as long as no folder is lost. -/
theorem hasFolder_of_kept {after : Disk} (here : after.here = disk.here)
    (folders : ∀ place, disk.at? place = some .folder → after.at? place = some .folder)
    (h : disk.hasFolder path = true) : after.hasFolder path = true := by
  obtain ⟨located, there⟩ := locate_of_hasFolder h
  have kept := folders _ there
  rw [hasFolder, find?, locate_of_kept here folders (by rw [kept]; rfl) located]
  simp [kept]

theorem at?_of_reach (h : disk.reach place names = .ok folder) : disk.at? folder = some .folder := by
  unfold reach at h
  split at h
  · cases h
  split at h
  · cases h
  · cases h
  · cases h
    assumption

/-- A folder at a path is reached by following the names of the path. -/
theorem reach_of_hasFolder (h : disk.hasFolder root = true) :
    disk.reach (disk.start root) root.names = .ok (disk.resolve root) := by
  obtain ⟨folder, reached⟩ := exists_reach_of_hasFolder h
  cases walked : disk.walk (disk.start root) root.names with
  | error failure => simp [reach, walked] at reached
  | ok last =>
    have same : folder = last := by
      rw [reach, walked] at reached
      dsimp only at reached
      split at reached
      · cases reached
      · cases reached
      · exact (Except.ok.inj reached).symm
    rw [reached, same, walk_eq_ok walked, resolve]

/-- What is needed to follow a path downwards from a folder. -/
structure LeadsDown (root path : Path) (steps : List Text) : Prop where
  absolute : path.isAbsolute = root.isAbsolute
  named : path.names = root.names ++ steps
  filled : steps ≠ []
  plain : ∀ name ∈ steps, Path.isDots name = false
  slash : path.endsInSlash = false

/-- **A file below a folder is read** if it stands at its place and its path can be followed at all. -/
theorem read_eq_ok_iff (reached : disk.reach (disk.start root) root.names = .ok folder)
    (down : LeadsDown root path names) {content : Bytes} :
    disk.read path = .ok content ↔
      pathFault? path = none ∧ disk.at? (folder ++ names) = some (.file content) := by
  rw [← walk_down_iff (at?_of_reach reached) down.plain, read, locate]
  cases fault : pathFault? path with
  | some failure => simp
  | none =>
    obtain ⟨name, rest, split⟩ := List.exists_cons_of_ne_nil down.filled
    have walk : disk.walk (disk.start path) path.names = disk.walk folder names := by
      rw [start, down.absolute, down.named, split, walk_append_cons, ← start, reached]
    dsimp only
    rw [down.slash, if_neg (by simp), List.append_nil, walk]
    cases disk.walk folder names with
    | error failure => simp
    | ok last =>
      rcases entry : disk.at? last with _ | _ | found
      all_goals simp [entry]

theorem toOption_readText (disk : Disk) (path : Path) :
    (disk.readText path).toOption = (disk.read path).toOption.bind Text.ofBytes? := by
  rw [Disk.readText]
  cases disk.read path with
  | error failure => rfl
  | ok content => cases decoded : Text.ofBytes? content <;> simp [Except.toOption, decoded]

section Confined

variable {area way : Place → Prop} {after : Disk}

theorem Confined.hasFolder (h : Confined area way disk after) (folder : disk.hasFolder path = true) :
    after.hasFolder path = true :=
  hasFolder_of_kept h.here h.folders folder

/-- Names that lead to a folder lead there as long as no folder is lost. -/
theorem Confined.reach (h : Confined area way disk after) (start : disk.at? place = some .folder)
    (reached : disk.reach place names = .ok folder) : after.reach place names = .ok folder := by
  cases course start names with
  | arrives arrived all laid =>
    cases arrived.symm.trans reached
    have laidAfter : after.Laid place names := fun passed hp => h.folders passed (laid passed hp)
    refine reach_of_laid (h.folders place start) ?_ laidAfter
    rw [passable_congr fun passed hp => ?_]
    · exact all
    · rw [isFileAt_of_folder (laidAfter passed hp), isFileAt_of_folder (laid passed hp)]
  | missing failed => cases failed.symm.trans reached
  | stops failure _ failed => cases failed.symm.trans reached

/-- **A file below a folder is read as before** if it is outside of the area of a change. -/
theorem Confined.read_iff (h : Confined area way disk after)
    (start : disk.at? (disk.start root) = some .folder)
    (reached : disk.reach (disk.start root) root.names = .ok folder)
    (down : LeadsDown root path names) (out : ¬ area (folder ++ names)) {content : Bytes} :
    after.read path = .ok content ↔ disk.read path = .ok content := by
  have sameStart : after.start root = disk.start root := by rw [Disk.start, Disk.start, h.here]
  have reachedAfter := h.reach start reached
  rw [← sameStart] at reachedAfter
  rw [read_eq_ok_iff reached down, read_eq_ok_iff reachedAfter down]
  rcases h.outside _ out with same | ⟨-, free, made⟩
  · rw [same]
  · simp [free, made]

end Confined

/-- A path that can be followed to a folder begins at one. -/
theorem start_of_reach (h : disk.reach place names = .ok folder) :
    disk.at? place = some .folder := by
  by_contra none
  obtain ⟨failure, failed⟩ : ∃ failure, disk.reach place names = .error failure := reach_of_not_folder none
  cases failed.symm.trans h

/-! ## §2 Folders that are there -/

/-- On the way to a folder there are folders. -/
theorem laid_of_reach (h : disk.reach place names = .ok folder) : disk.Laid place names := by
  cases course (start_of_reach h) names with
  | arrives _ _ laid => exact laid
  | missing failed => cases failed.symm.trans h
  | stops failure _ failed => cases failed.symm.trans h

theorem laid_of_hasFolder (h : disk.hasFolder path = true) :
    disk.Laid (disk.start path) path.names := by
  obtain ⟨folder, reached⟩ := exists_reach_of_hasFolder h
  exact laid_of_reach reached

theorem laid_of_makeFolder {made : Disk} (h : disk.makeFolder path = .ok made) :
    made.Laid (made.start path) path.names := by
  have confined := makeFolder_confined h
  obtain ⟨slot, named, free, rfl⟩ := makeFolder_eq_ok h
  obtain ⟨-, walked, last, dots, -⟩ := slot_eq_ok named
  obtain ⟨front, split⟩ := List.getLast?_eq_some_iff.mp last
  rw [split, List.dropLast_concat] at walked
  have reached : disk.reach (disk.start path) front = .ok slot.folder := by
    rw [reach, walked]
    dsimp only
    rw [slot.inFolder]
  intro passed hp
  rw [split, Place.trail_append] at hp
  rcases List.mem_append.mp hp with hp | hp
  · exact confined.folders passed (laid_of_reach reached passed hp)
  · -- The last step leads to the new folder.
    have leads : Place.lead (disk.start path) front = slot.folder := (walk_eq_ok walked).symm
    have same : passed = Place.step (Place.lead (disk.start path) front) slot.name :=
      List.mem_singleton.mp hp
    rw [same, leads, Place.step_of_not_dots dots, at?_put, if_pos rfl]

/-- **Once folders are made, they are there**, all along the path. -/
theorem laid_of_makeFolders {after : Disk} (h : disk.makeFolders path = (.ok (), after)) :
    after.Laid (after.start path) path.names := by
  fun_induction disk.makeFolders path with
  | case1 path empty =>
    rw [List.isEmpty_iff.mp empty, Path.names_nil]
    intro passed hp
    cases hp
  | case2 path filled made done =>
    cases h
    exact laid_of_makeFolder done
  | case3 => cases h
  | case4 => cases h
  | case5 path filled missing parent isAbove above made final done ih =>
    cases h
    exact laid_of_makeFolder done
  | case6 path filled missing parent isAbove above made failure failed ih =>
    split at h
    · cases h
      exact laid_of_hasFolder ‹_›
    · cases h
  | case7 path filled failure ne failed =>
    split at h
    · cases h
      exact laid_of_hasFolder ‹_›
    · cases h

/-! ## §3 The same folders on the way -/

section Trail

variable {after : Disk} {content other : Bytes}

/-- Names that lead somewhere lead there on another disk, if the folders on the way are there as well. -/
theorem walk_of_trail {last : Place}
    (folders : ∀ passed ∈ place :: Place.trail place names, disk.at? passed = some .folder →
      after.at? passed = some .folder)
    (there : (after.at? last).isSome = true) (h : disk.walk place names = .ok last) :
    after.walk place names = .ok last := by
  induction names generalizing place with
  | nil => exact h
  | cons name names ih =>
    rw [walk] at h ⊢
    cases entered : disk.enter place name with
    | error failure =>
      rw [entered] at h
      cases h
    | ok next =>
      rw [entered] at h
      dsimp only at h
      have start := at?_of_enter entered
      have rest : ∀ passed ∈ next :: Place.trail next names, disk.at? passed = some .folder →
          after.at? passed = some .folder := by
        intro passed mem
        rw [enter_eq_ok entered] at mem
        exact folders passed (List.mem_cons_of_mem _ mem)
      -- Behind the last name, something is there, and behind every other one, a folder.
      have thereNext : (after.at? next).isSome = true := by
        cases names with
        | nil =>
          cases h
          exact there
        | cons other names =>
          rw [walk] at h
          split at h
          · rw [rest next (List.mem_cons_self ..) (at?_of_enter ‹_›), Option.isSome_some]
          · cases h
      have enteredAfter : after.enter place name = .ok next := by
        rw [enter_of_folder start] at entered
        rw [enter_of_folder (folders place (List.mem_cons_self ..) start)]
        split at entered
        · rw [if_pos ‹_›, entered]
        · split at entered
          · cases entered
          · split at entered
            · cases entered
              rw [if_neg ‹_›, if_neg ‹_›, if_pos thereNext]
            · cases entered
      rw [enteredAfter]
      exact ih rest h

/-- A file that is read is read on another disk as well, if it is there and so are the folders on the way. -/
theorem read_of_trail (here : after.here = disk.here)
    (folders : ∀ passed ∈ disk.start path :: disk.onWay path, disk.at? passed = some .folder →
      after.at? passed = some .folder)
    (file : after.at? (disk.resolve path) = some (.file content)) (read : disk.read path = .ok other) :
    after.read path = .ok content := by
  obtain ⟨located, -⟩ := locate_of_read read
  refine read_of_locate ?_ file
  rw [locate] at located ⊢
  split at located
  · cases located
  have start : after.start path = disk.start path := by rw [Disk.start, Disk.start, here]
  rw [start]
  refine walk_of_trail (fun passed mem => folders passed ?_) (by rw [file]; rfl) located
  -- The dot that stands for a slash at the end leads nowhere.
  rw [Place.trail_append, ← List.cons_append] at mem
  rcases List.mem_append.mp mem with mem | mem
  · exact mem
  · split at mem
    · obtain rfl : passed = disk.resolve path := by simpa [Place.trail, Place.step, resolve] using mem
      by_cases empty : path.names = []
      · rw [resolve, empty]
        exact List.mem_cons_self ..
      · exact List.mem_cons_of_mem _ (resolve_mem_onWay empty)
    · cases mem

end Trail

end Disk

end DocSite.Files
