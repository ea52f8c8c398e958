import DocSite.Proofs.Files.Deposit

/-!
# The shape of a disk

Which files and folders there are, and whether a path can be followed, a folder made or a file written, has
nothing to do with what the files hold. The shape of a disk is the disk with all of its files empty, and every
operation does to the shape what it does to the disk.
-/

namespace DocSite.Files

/-- A folder, or a file without content. -/
def Entry.shape : Entry → Entry
  | .folder => .folder
  | .file _ => .file .empty

namespace Disk

theorem lookup_map_shape (entries : List (Place × Entry)) (place : Place) :
    lookup (entries.map fun x => (x.1, x.2.shape)) place = (lookup entries place).map Entry.shape := by
  rw [lookup, lookup]
  split
  · rfl
  · rw [List.find?_map, Option.map_map, Option.map_map]
    rfl

/-- The disk with all of its files empty. -/
def shape (disk : Disk) : Disk where
  entries := disk.entries.map fun x => (x.1, x.2.shape)
  here := disk.here
  grounded := by
    intro entry mem
    obtain ⟨x, listed, rfl⟩ := List.mem_map.mp mem
    rw [lookup_map_shape, disk.grounded x listed]
    rfl
  named := by
    intro entry mem
    obtain ⟨x, listed, rfl⟩ := List.mem_map.mp mem
    exact disk.named x listed
  sorted := List.pairwise_map.mpr disk.sorted

section Shape

variable (disk : Disk)

theorem at?_shape (place : Place) : disk.shape.at? place = (disk.at? place).map Entry.shape :=
  lookup_map_shape disk.entries place

/-! ## §1 Following a path -/

theorem enter_shape (place : Place) (name : Text) : disk.shape.enter place name = disk.enter place name := by
  rw [enter, enter, at?_shape]
  rcases disk.at? place with _ | _ | content
  · rfl
  · simp only [Option.map_some, Entry.shape, at?_shape, Option.isSome_map]
  · rfl

theorem walk_shape (place : Place) (names : List Text) :
    disk.shape.walk place names = disk.walk place names := by
  induction names generalizing place with
  | nil => rfl
  | cons name names ih =>
    rw [walk, walk, enter_shape]
    cases disk.enter place name with
    | error failure => rfl
    | ok next => exact ih next

theorem locate_shape (path : Path) : disk.shape.locate path = disk.locate path := by
  rw [locate, locate]
  cases pathFault? path with
  | some failure => rfl
  | none => exact walk_shape disk _ _

theorem reach_shape (place : Place) (names : List Text) :
    disk.shape.reach place names = disk.reach place names := by
  rw [reach, reach, walk_shape]
  cases disk.walk place names with
  | error failure => rfl
  | ok last =>
    dsimp only
    rw [at?_shape]
    rcases disk.at? last with _ | _ | content
    all_goals rfl

theorem folder_shape_iff (place : Place) :
    disk.shape.at? place = some .folder ↔ disk.at? place = some .folder := by
  rw [at?_shape]
  rcases disk.at? place with _ | _ | content
  · simp
  · simp [Entry.shape]
  · simp [Entry.shape]

theorem hasFolder_shape (path : Path) : disk.shape.hasFolder path = disk.hasFolder path := by
  rw [hasFolder, hasFolder, find?, find?, locate_shape]
  cases disk.locate path with
  | error failure => rfl
  | ok place => exact decide_eq_decide.mpr (folder_shape_iff disk place)

theorem read_shape (path : Path) :
    disk.shape.read path = (disk.read path).map fun _ => .empty := by
  rw [read, read, locate_shape]
  cases disk.locate path with
  | error failure => rfl
  | ok place =>
    dsimp only
    rw [at?_shape]
    rcases disk.at? place with _ | _ | content
    all_goals rfl

theorem filesUnder_shape (path : Path) : disk.shape.filesUnder path = disk.filesUnder path := by
  have places : disk.shape.filePlaces = disk.filePlaces := by
    rw [filePlaces, filePlaces, shape, List.filterMap_map]
    congr 2
    funext x
    obtain ⟨place, _ | content⟩ := x
    · rfl
    · rfl
  rw [filesUnder, filesUnder, locate_shape]
  cases disk.locate path with
  | error failure => rfl
  | ok folder =>
    dsimp only
    rw [filesBelow, filesBelow, places]

/-! ## §2 Changes -/

theorem map_slot_shape (path : Path) (unnamed : FileError) :
    (disk.shape.slot path unnamed).map (fun slot => (slot.folder, slot.name)) =
      (disk.slot path unnamed).map (fun slot => (slot.folder, slot.name)) := by
  rw [map_slot, map_slot]
  cases pathFault? path with
  | some failure => rfl
  | none =>
    rw [show disk.shape.start path = disk.start path from rfl, reach_shape]

/-- The slot of a path is at the same place in the shape. -/
theorem slot_shape (path : Path) (unnamed : FileError) :
    (∃ failure, disk.slot path unnamed = .error failure ∧ disk.shape.slot path unnamed = .error failure) ∨
    ∃ slot slot', disk.slot path unnamed = .ok slot ∧ disk.shape.slot path unnamed = .ok slot' ∧
      slot'.place = slot.place := by
  have same := map_slot_shape disk path unnamed
  cases named : disk.slot path unnamed with
  | error failure =>
    rw [named] at same
    exact .inl ⟨failure, rfl, slot_eq_error same⟩
  | ok slot =>
    rw [named] at same
    obtain ⟨slot', named', folder, name⟩ := exists_slot same
    exact .inr ⟨slot, slot', rfl, named', by rw [Slot.place, Slot.place, folder, name]⟩

variable {disk} in
theorem shape_put {slot : Slot disk} {slot' : Slot disk.shape} (place : slot'.place = slot.place)
    {entry entry' : Entry} (shape : entry' = entry.shape)
    {free : disk.at? (slot.folder ++ [slot.name]) = some .folder → entry = .folder}
    {free' : disk.shape.at? (slot'.folder ++ [slot'.name]) = some .folder → entry' = .folder} :
    disk.shape.put slot'.folder slot'.name entry' slot'.inFolder slot'.proper free' =
      (disk.put slot.folder slot.name entry slot.inFolder slot.proper free).shape := by
  refine ext_at? rfl fun other => ?_
  rw [Slot.place, Slot.place] at place
  rw [at?_shape, at?_put, at?_put, at?_shape, place, shape]
  split
  · rfl
  · rfl

theorem makeFolder_shape (path : Path) :
    disk.shape.makeFolder path = (disk.makeFolder path).map shape := by
  rw [makeFolder, makeFolder]
  rcases slot_shape disk path .alreadyThere with ⟨failure, named, named'⟩ | ⟨slot, slot', named, named', place⟩
  · rw [named, named']
    rfl
  · rw [named, named']
    dsimp only
    have there : (disk.shape.at? slot'.place).isSome = (disk.at? slot.place).isSome := by
      rw [place, at?_shape, Option.isSome_map]
    by_cases taken : (disk.at? slot.place).isSome = true
    · rw [if_pos taken, if_pos (there.trans taken)]
      rfl
    · rw [if_neg taken, if_neg (there ▸ taken)]
      exact congrArg Except.ok (shape_put place (by rfl))

theorem write_shape (path : Path) (content : Bytes) :
    disk.shape.write path .empty = (disk.write path content).map shape := by
  rw [write, write]
  rcases slot_shape disk path .isFolder with ⟨failure, named, named'⟩ | ⟨slot, slot', named, named', place⟩
  · rw [named, named']
    rfl
  · rw [named, named']
    dsimp only
    split
    · rfl
    have there : disk.shape.at? slot'.place = some .folder ↔ disk.at? slot.place = some .folder := by
      rw [place, folder_shape_iff]
    by_cases taken : disk.at? slot.place = some .folder
    · rw [dif_pos taken, dif_pos (there.mpr taken)]
      rfl
    · rw [dif_neg taken, dif_neg (mt there.mp taken)]
      exact congrArg Except.ok (shape_put place (by rfl))

theorem copy_shape (source target : Path) :
    disk.shape.copy source target = (disk.copy source target).map shape := by
  rw [copy, copy, read_shape]
  cases disk.read source with
  | error failure => rfl
  | ok content =>
    dsimp only [Except.map]
    rw [write_shape disk target .empty]
    cases disk.write target .empty with
    | error failure => rfl
    | ok emptied =>
      dsimp only [Except.map]
      rw [read_shape]
      cases emptied.read source with
      | error failure => rfl
      | ok content => exact write_shape emptied target content

theorem seeToFolder_shape (path : Path) :
    disk.shape.seeToFolder path = ((disk.seeToFolder path).1, (disk.seeToFolder path).2.shape) := by
  rw [seeToFolder, seeToFolder, makeFolder_shape]
  cases disk.makeFolder path with
  | error failure =>
    dsimp only [Except.map]
    rw [hasFolder_shape]
  | ok made => rfl

/-- If something is missing above a path, it is made first. -/
theorem makeFolders_of_missing {disk : Disk} {path parent : Path} (filled : ¬ path.isEmpty = true)
    (missing : disk.makeFolder path = .error .notFound) (isAbove : path.parent? = some parent) :
    disk.makeFolders path =
      match disk.makeFolders parent with
      | (.error failure, above) => (.error failure, above)
      | (.ok (), above) => above.seeToFolder path := by
  rw [makeFolders, if_neg filled, missing]
  dsimp only
  split
  · rename_i top
    cases top.symm.trans isAbove
  · rename_i other found
    obtain rfl := Option.some.inj (found.symm.trans isAbove)
    rcases disk.makeFolders other with ⟨failure | _, above⟩
    · rfl
    · rfl

theorem makeFolders_shape (path : Path) :
    disk.shape.makeFolders path = ((disk.makeFolders path).1, (disk.makeFolders path).2.shape) := by
  have missingShape {path : Path} (missing : disk.makeFolder path = .error .notFound) :
      disk.shape.makeFolder path = .error .notFound := by
    rw [makeFolder_shape, missing]
    rfl
  fun_induction disk.makeFolders path with
  | case1 path empty => rw [makeFolders, if_pos empty]
  | case2 path filled made done =>
    rw [makeFolders, if_neg filled, makeFolder_shape, done]
    rfl
  | case3 path filled missing top =>
    rw [makeFolders, if_neg filled, missingShape missing]
    dsimp only
    split
    · rfl
    · rename_i parent found
      cases top.symm.trans found
  | case4 path filled missing parent isAbove failure above made ih =>
    rw [makeFolders_of_missing filled (missingShape missing) isAbove, ih, made]
  | case5 path filled missing parent isAbove above made final done ih =>
    rw [makeFolders_of_missing filled (missingShape missing) isAbove, ih, made]
    refine (seeToFolder_shape above path).trans ?_
    rw [seeToFolder, done]
  | case6 path filled missing parent isAbove above made failure failed ih =>
    rw [makeFolders_of_missing filled (missingShape missing) isAbove, ih, made]
    refine (seeToFolder_shape above path).trans ?_
    rw [seeToFolder, failed]
  | case7 path filled failure ne failed =>
    rw [makeFolders, if_neg filled, makeFolder_shape, failed, hasFolder_shape]
    cases failure with
    | notFound => exact absurd rfl ne
    | _ => rfl

theorem deposit_shape (path : Path) (content : Bytes) :
    disk.shape.deposit path .empty = ((disk.deposit path content).1, (disk.deposit path content).2.shape) := by
  have above : disk.shape.makeAbove path = ((disk.makeAbove path).1, (disk.makeAbove path).2.shape) := by
    rw [makeAbove, makeAbove]
    cases path.parent? with
    | none => rfl
    | some parent => exact makeFolders_shape disk parent
  rw [deposit, deposit, above]
  rcases disk.makeAbove path with ⟨failure | _, made⟩
  · rfl
  show made.shape.settle path .empty = ((made.settle path content).1, (made.settle path content).2.shape)
  rw [settle, settle, write_shape made path content]
  cases made.write path content with
  | error failure => rfl
  | ok written => rfl

/-- A file without content. -/
def Job.shape (job : Job) : Job := ⟨job.path, .empty⟩

theorem depositAll_shape (jobs : List Job) :
    disk.shape.depositAll (jobs.map Job.shape) = (disk.depositAll jobs).shape := by
  induction jobs generalizing disk with
  | nil => rfl
  | cons job jobs ih =>
    rw [List.map_cons, depositAll, depositAll, List.foldl_cons, List.foldl_cons]
    rw [show (disk.shape.deposit job.shape.path job.shape.content).2 =
      (disk.deposit job.path job.content).2.shape from congrArg Prod.snd (deposit_shape disk ..)]
    exact ih _

end Shape

/-! ## §3 Views -/

/-- What a view shows of a disk is enough to know what comes of the operations on it, as far as the view shows
that. -/
structure Shows {γ : Type} (view : Disk → γ) : Prop where
  hasFolder : ∀ {now other : Disk} (path : Path), view now = view other →
    now.hasFolder path = other.hasFolder path
  filesUnder : ∀ {now other : Disk} (path : Path), view now = view other →
    now.filesUnder path = other.filesUnder path
  makeFolders : ∀ {now other : Disk} (path : Path), view now = view other →
    (now.makeFolders path).1 = (other.makeFolders path).1 ∧
      view (now.makeFolders path).2 = view (other.makeFolders path).2
  write : ∀ {now other : Disk} (path : Path) (content : Bytes), view now = view other →
    (now.write path content).map view = (other.write path content).map view
  copy : ∀ {now other : Disk} (source target : Path), view now = view other →
    (now.copy source target).map view = (other.copy source target).map view

/-- The whole disk shows enough. -/
theorem shows_id : Shows (id : Disk → Disk) where
  hasFolder path same := congrArg (fun disk : Disk => disk.hasFolder path) same
  filesUnder path same := congrArg (fun disk : Disk => disk.filesUnder path) same
  makeFolders path same :=
    ⟨congrArg (fun disk : Disk => (disk.makeFolders path).1) same,
      congrArg (fun disk : Disk => (disk.makeFolders path).2) same⟩
  write path content same := congrArg (fun disk : Disk => (disk.write path content).map id) same
  copy source target same := congrArg (fun disk : Disk => (disk.copy source target).map id) same

/-- The shape of a disk shows enough. -/
theorem shows_shape : Shows shape where
  hasFolder {now other} path same := by
    rw [← hasFolder_shape now, ← hasFolder_shape other, same]
  filesUnder {now other} path same := by
    rw [← filesUnder_shape now, ← filesUnder_shape other, same]
  makeFolders {now other} path same := by
    have both := makeFolders_shape now path
    rw [same, makeFolders_shape other path] at both
    exact ⟨(congrArg Prod.fst both).symm, (congrArg Prod.snd both).symm⟩
  write {now other} path content same := by
    rw [← write_shape now, ← write_shape other, same]
  copy {now other} source target same := by
    rw [← copy_shape now, ← copy_shape other, same]

end Disk

end DocSite.Files
