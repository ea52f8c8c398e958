import DocSite.Proofs.Files.Lookup
import DocSite.Proofs.Files.Shape
import Mathlib.Data.List.Pairwise

/-!
# Files put in their places again

Where a file stands and folders lead to it (`Holds`), another one can be put in its place, and nothing else is
changed. Of several files with one place, the last is left there (`lastAt?`). So files that have all been put in
their places can be put there once more, and the disk is the same afterwards (`depositAll_again`). The order
does not matter, as long as the same file comes last in every place (`SameFiles`).
-/

namespace DocSite.Files

namespace Disk

variable {disk after : Disk} {path : Path} {content other : Bytes} {place : Place} {jobs others : List Job}

/-! ## §1 One file -/

/-- Where a file has been written, another one can be written, as if the first had not been there. -/
theorem write_again {written : Disk} (h : disk.write path content = .ok written) (other : Bytes) :
    ∃ again, written.write path other = .ok again ∧ disk.write path other = .ok again := by
  obtain ⟨slot, taken, named, slash, free, rfl⟩ := write_eq_ok h
  obtain ⟨fault, walked, -⟩ := slot_eq_ok named
  have reached : disk.reach (disk.start path) path.names.dropLast = .ok slot.folder := by
    rw [reach, walked]
    dsimp only
    rw [slot.inFolder]
  have parts : (disk.slot path .isFolder).map (fun slot => (slot.folder, slot.name)) =
      .ok (slot.folder, slot.name) := by
    rw [named]
    rfl
  -- The new file is not on its own way.
  have confined := @put_confined disk slot.folder slot.name (.file content) slot.inFolder slot.proper taken
  have partsAgain := map_slot (disk.put slot.folder slot.name (.file content) slot.inFolder slot.proper taken)
    path .isFolder
  rw [start_of_here confined.here, confined.reach (start_of_reach reached) reached, ← reached, ← map_slot,
    parts] at partsAgain
  have freeAgain : (disk.put slot.folder slot.name (.file content) slot.inFolder slot.proper taken).at?
      (slot.folder ++ [slot.name]) ≠ some .folder := by
    rw [at?_put, if_pos rfl]
    simp
  obtain ⟨direct, done, here, at?⟩ := (write_of_slot other parts slash).2 free
  obtain ⟨again, doneAgain, hereAgain, atAgain⟩ := (write_of_slot other partsAgain slash).2 freeAgain
  refine ⟨again, doneAgain, done.trans (congrArg Except.ok ?_)⟩
  refine ext_at? (here.trans (hereAgain.trans confined.here).symm) fun place => ?_
  rw [at?, atAgain, at?_put]
  split
  · rfl
  · rfl

/-- **A copy is written like any other file**, if it is not a copy onto itself. -/
theorem copy_eq_write {source target : Path} (read : disk.read source = .ok content)
    (ne : disk.resolve source ≠ disk.resolve target) : disk.copy source target = disk.write target content := by
  rw [copy, read]
  dsimp only
  cases first : disk.write target .empty with
  | error failure =>
    -- Why a file cannot be written has nothing to do with what it shall hold.
    have shapes : (disk.write target .empty).map shape = (disk.write target content).map shape := by
      rw [← write_shape, ← write_shape]
    rw [first] at shapes
    cases direct : disk.write target content with
    | error other =>
      rw [direct] at shapes
      exact congrArg Except.error (Except.error.inj shapes)
    | ok written =>
      rw [direct] at shapes
      cases shapes
  | ok emptied =>
    dsimp only
    rw [(write_confined first).read ne read]
    obtain ⟨again, filled, direct⟩ := write_again first content
    rw [direct]
    exact filled

/-- The folders above a file are made where nothing was. -/
theorem makeAbove_confined (disk : Disk) (path : Path) :
    Confined (fun _ => False) (fun _ => True) disk (disk.makeAbove path).2 := by
  rw [makeAbove]
  cases path.parent? with
  | none => exact .refl ..
  | some parent => exact (makeFolders_confined disk parent).mono (fun _ no => no.elim) fun _ _ => .inr trivial

theorem isFileAt_iff : disk.isFileAt place = true ↔ ∃ content, disk.at? place = some (.file content) := by
  rw [isFileAt]
  rcases disk.at? place with _ | _ | content
  · simp
  · simp
  · simp

/-- Nothing is lost but what files hold. -/
structure Keeps (before after : Disk) : Prop where
  here : after.here = before.here
  folders : ∀ place, before.at? place = some .folder → after.at? place = some .folder
  files : ∀ place, before.isFileAt place = true → after.isFileAt place = true

theorem Keeps.refl (disk : Disk) : Keeps disk disk := ⟨rfl, fun _ => id, fun _ => id⟩

theorem Keeps.trans {middle : Disk} (first : Keeps disk middle) (second : Keeps middle after) :
    Keeps disk after :=
  ⟨second.here.trans first.here, fun place h => second.folders place (first.folders place h),
    fun place h => second.files place (first.files place h)⟩

/-- A file stands at the place of a path, and there are folders on the way to it. -/
structure Holds (disk : Disk) (path : Path) : Prop where
  fault : pathFault? path = none
  start : disk.at? (disk.start path) = some .folder
  laid : disk.Laid (disk.start path) path.names.dropLast
  file : disk.isFileAt (disk.resolve path) = true

/-- Names that lead through folders can be passed. -/
theorem passable_of_laid {names : List Text} (laid : disk.Laid place names) :
    disk.passable place names = names := by
  induction names generalizing place with
  | nil => rfl
  | cons name names ih =>
    have next := laid _ (List.mem_cons_self ..)
    have pass : disk.passes place name = true := by
      cases dots : Path.isDots name with
      | true => simp [passes, dots]
      | false =>
        rw [Place.step_of_not_dots dots] at next
        have proper := isName_of_at? next (List.mem_append_right place (List.mem_singleton_self name))
        simp [passes, isFileAt_of_folder next, (Path.plain_of_isName proper).2]
    rw [passable, if_pos pass, ih fun passed mem => laid passed (List.mem_cons_of_mem _ mem)]

theorem Holds.accepts (h : disk.Holds path) : disk.Accepts path := by
  have noFolder : disk.at? (disk.resolve path) ≠ some .folder := by
    intro folder
    have file := h.file
    rw [isFileAt_of_folder folder] at file
    cases file
  exact ⟨h.fault, h.start, passable_of_laid h.laid, fun passed => noFolder (h.laid _ passed), noFolder⟩

theorem Holds.onward (h : disk.Holds path) (keeps : Keeps disk after) : after.Holds path := by
  refine ⟨h.fault, ?_, ?_, ?_⟩
  · rw [start_of_here keeps.here]
    exact keeps.folders _ h.start
  · rw [start_of_here keeps.here]
    exact fun passed mem => keeps.folders _ (h.laid passed mem)
  · rw [resolve_of_here keeps.here]
    exact keeps.files _ h.file

/-- A file is put where one is already, and nothing else is changed. -/
theorem Holds.deposit (h : disk.Holds path) (file : IsFile path) (content : Bytes) :
    (disk.deposit path content).1 = true ∧ ∀ place, (disk.deposit path content).2.at? place =
      if place = disk.resolve path then some (.file content) else disk.at? place := by
  have spec := deposit_spec disk content file
  refine ⟨spec.done_iff.mpr h.accepts, fun place => ?_⟩
  rw [spec.at?]
  simp only [h.accepts, true_and]
  split
  · rfl
  · split
    case isTrue paved => exact (h.laid place paved.mem_folders.1).symm
    case isFalse => rfl

theorem Deposited.keeps {done : Bool} (h : Deposited disk path content done after) : Keeps disk after := by
  refine ⟨h.here, h.kept, fun place file => ?_⟩
  have notPaved : ¬ disk.Paves path place := by
    intro paved
    rw [paved.mem_folders.2] at file
    cases file
  by_cases taken : disk.Accepts path ∧ place = disk.resolve path
  · exact isFileAt_iff.mpr ⟨content, by rw [h.at?, if_pos taken]⟩
  · rw [isFileAt, h.at?, if_neg taken, if_neg notPaved, ← isFileAt]
    exact file

/-- A file that has been put in its place stands there. -/
theorem Deposited.holds (h : Deposited disk path content true after) : after.Holds path := by
  have accepts := h.done_iff.mp rfl
  have sound (parent : Path) (found : path.parent? = some parent) : parent = [] ∨ pathFault? parent = none :=
    pathFault?_of_isPrefix accepts.fault (Path.isParent_of_parent? found).leads
  refine ⟨accepts.fault, ?_, fun place passed => ?_, ?_⟩
  · rw [start_of_here h.here]
    exact h.kept _ accepts.start
  · rw [start_of_here h.here] at passed
    have elsewhere : ¬ (disk.Accepts path ∧ place = disk.resolve path) :=
      fun taken => accepts.apart (taken.2 ▸ passed)
    rw [h.at?, if_neg elsewhere, if_pos]
    exact ⟨accepts.start, sound, by rwa [accepts.all]⟩
  · rw [resolve_of_here h.here]
    exact isFileAt_iff.mpr ⟨content, by rw [h.at?, if_pos ⟨accepts, rfl⟩]⟩

/-! ## §2 The last of several files -/

/-- The content of the last of several files that goes to a place. -/
def lastAt? (disk : Disk) (jobs : List Job) (place : Place) : Option Bytes :=
  (jobs.filter (disk.resolve ·.path = place)).getLast?.map (·.content)

theorem lastAt?_append (disk : Disk) (jobs others : List Job) (place : Place) :
    disk.lastAt? (jobs ++ others) place = (disk.lastAt? others place).or (disk.lastAt? jobs place) := by
  rw [lastAt?, List.filter_append, List.getLast?_append, Option.map_or]
  rfl

theorem lastAt?_cons (disk : Disk) (job : Job) (jobs : List Job) (place : Place) :
    disk.lastAt? (job :: jobs) place =
      (disk.lastAt? jobs place).or (if disk.resolve job.path = place then some job.content else none) := by
  rw [← List.singleton_append, lastAt?_append]
  congr 1
  by_cases same : disk.resolve job.path = place
  · simp [lastAt?, same]
  · simp [lastAt?, same]

theorem lastAt?_of_here {next : Disk} (here : next.here = disk.here) (jobs : List Job) (place : Place) :
    next.lastAt? jobs place = disk.lastAt? jobs place := by
  simp only [lastAt?, resolve_of_here here]

theorem lastAt?_eq_none_iff :
    disk.lastAt? jobs place = none ↔ ∀ job ∈ jobs, disk.resolve job.path ≠ place := by
  simp [lastAt?]

theorem exists_of_lastAt? (h : disk.lastAt? jobs place = some content) :
    ∃ job ∈ jobs, disk.resolve job.path = place ∧ job.content = content := by
  obtain ⟨job, last, rfl⟩ := Option.map_eq_some_iff.mp h
  obtain ⟨mem, same⟩ := List.mem_filter.mp (List.mem_of_getLast? last)
  exact ⟨job, mem, by simpa using same, rfl⟩

/-- Two lists of the same files, in which the same file comes last in every place. -/
structure SameFiles (disk : Disk) (jobs others : List Job) : Prop where
  mem_iff : ∀ job, job ∈ others ↔ job ∈ jobs
  last : ∀ place, disk.lastAt? others place = disk.lastAt? jobs place

namespace SameFiles

theorem refl (disk : Disk) (jobs : List Job) : SameFiles disk jobs jobs := ⟨fun _ => .rfl, fun _ => rfl⟩

theorem append {more others' : List Job} (first : SameFiles disk jobs others)
    (second : SameFiles disk more others') : SameFiles disk (jobs ++ more) (others ++ others') := by
  refine ⟨fun job => ?_, fun place => ?_⟩
  · rw [List.mem_append, List.mem_append, first.mem_iff, second.mem_iff]
  · rw [lastAt?_append, lastAt?_append, first.last, second.last]

/-- The order of files does not matter if those with one place have the same content. -/
theorem of_mem_iff (mem_iff : ∀ job, job ∈ others ↔ job ∈ jobs)
    (agree : ∀ x ∈ jobs, ∀ y ∈ jobs, disk.resolve x.path = disk.resolve y.path → x.content = y.content) :
    SameFiles disk jobs others := by
  refine ⟨mem_iff, fun place => ?_⟩
  cases last : disk.lastAt? jobs place with
  | none => exact lastAt?_eq_none_iff.mpr fun job mem => lastAt?_eq_none_iff.mp last job ((mem_iff job).mp mem)
  | some content =>
    obtain ⟨job, mem, rfl, rfl⟩ := exists_of_lastAt? last
    cases found : disk.lastAt? others (disk.resolve job.path) with
    | none => exact absurd rfl (lastAt?_eq_none_iff.mp found job ((mem_iff job).mpr mem))
    | some content =>
      obtain ⟨other, mem', same, rfl⟩ := exists_of_lastAt? found
      rw [agree other ((mem_iff other).mp mem') job mem same]

/-- Files with different places can be put there in any order. -/
theorem of_perm (perm : others.Perm jobs)
    (distinct : jobs.Pairwise fun x y => disk.resolve x.path ≠ disk.resolve y.path) :
    SameFiles disk jobs others := by
  have : Std.Symm fun x y : Job => disk.resolve x.path ≠ disk.resolve y.path := ⟨fun _ _ => Ne.symm⟩
  refine of_mem_iff (fun _ => perm.mem_iff) fun x mem y mem' same => ?_
  by_contra differ
  exact distinct.forall mem mem' (fun equal => differ (by rw [equal])) same

end SameFiles

/-! ## §3 Several files -/

theorem keeps_depositAll (files : ∀ job ∈ jobs, IsFile job.path) : Keeps disk (disk.depositAll jobs) := by
  induction jobs generalizing disk with
  | nil => exact .refl _
  | cons job jobs ih =>
    have first := (deposit_spec disk job.content (files job (List.mem_cons_self ..))).keeps
    exact first.trans (ih fun other mem => files other (List.mem_cons_of_mem _ mem))

/-- Files that stand in their places can be put there, and the last of them are left there. -/
theorem depositAll_of_holds (files : ∀ job ∈ jobs, IsFile job.path) (holds : ∀ job ∈ jobs, disk.Holds job.path) :
    (disk.depositEach jobs).1 = true ∧ ∀ place, (disk.depositAll jobs).at? place =
      ((disk.lastAt? jobs place).map Entry.file).or (disk.at? place) := by
  induction jobs generalizing disk with
  | nil => exact ⟨rfl, fun place => rfl⟩
  | cons job jobs ih =>
    have file := files job (List.mem_cons_self ..)
    have keeps := (deposit_spec disk job.content file).keeps
    obtain ⟨done, first⟩ := (holds job (List.mem_cons_self ..)).deposit file job.content
    obtain ⟨doneRest, rest⟩ := @ih (disk.deposit job.path job.content).2
      (fun other mem => files other (List.mem_cons_of_mem _ mem))
      fun other mem => (holds other (List.mem_cons_of_mem _ mem)).onward keeps
    constructor
    · rw [depositEach]
      rcases run : disk.deposit job.path job.content with ⟨_ | _, next⟩
      all_goals rw [run] at done doneRest
      · cases done
      · exact doneRest
    · intro place
      rw [depositAll, List.foldl_cons]
      refine (rest place).trans ?_
      rw [lastAt?_of_here keeps.here, lastAt?_cons, first, Option.map_or, Option.or_assoc]
      congr 1
      by_cases same : disk.resolve job.path = place
      · rw [if_pos same, if_pos same.symm]
        rfl
      · rw [if_neg same, if_neg (Ne.symm same)]
        rfl

/-- Once files have all been put in their places, they stand there, and the last of them are left there. -/
theorem holds_of_depositEach (files : ∀ job ∈ jobs, IsFile job.path) (done : (disk.depositEach jobs).1 = true) :
    (∀ job ∈ jobs, (disk.depositAll jobs).Holds job.path) ∧ ∀ place content,
      disk.lastAt? jobs place = some content → (disk.depositAll jobs).at? place = some (.file content) := by
  induction jobs generalizing disk with
  | nil => exact ⟨fun job mem => absurd mem List.not_mem_nil, fun place content last => by cases last⟩
  | cons job jobs ih =>
    have rest : ∀ other ∈ jobs, IsFile other.path := fun other mem => files other (List.mem_cons_of_mem _ mem)
    have spec := deposit_spec disk job.content (files job (List.mem_cons_self ..))
    rw [depositEach] at done
    rw [depositAll, List.foldl_cons]
    rcases run : disk.deposit job.path job.content with ⟨_ | _, next⟩
    all_goals rw [run] at done spec
    · cases done
    obtain ⟨holds, last⟩ := ih rest done
    refine ⟨List.forall_mem_cons.mpr ⟨spec.holds.onward (keeps_depositAll rest), holds⟩, fun place content => ?_⟩
    rw [lastAt?_cons, ← lastAt?_of_here spec.here]
    intro found
    cases behind : next.lastAt? jobs place with
    | some later =>
      rw [behind] at found
      obtain rfl := Option.some.inj found
      exact last place later behind
    | none =>
      -- No file behind the first one goes to its place.
      rw [behind, Option.none_or] at found
      split at found
      case isFalse => cases found
      case isTrue same =>
        obtain rfl := Option.some.inj found
        have there : next.at? place = some (.file job.content) := by
          rw [spec.at?, if_pos ⟨spec.done_iff.mp rfl, same.symm⟩]
        refine ((depositAll_confined next rest).file_iff ?_).mpr there
        rintro ⟨other, mem, rfl⟩
        exact lastAt?_eq_none_iff.mp behind other mem rfl

/-- Of files that have all been put in their places, one is found there if no other content goes to its place. -/
theorem at?_depositAll_of_mem (files : ∀ job ∈ jobs, IsFile job.path) (done : (disk.depositEach jobs).1 = true)
    {job : Job} (mem : job ∈ jobs)
    (agree : ∀ other ∈ jobs, disk.resolve other.path = disk.resolve job.path → other.content = job.content) :
    (disk.depositAll jobs).at? (disk.resolve job.path) = some (.file job.content) := by
  cases last : disk.lastAt? jobs (disk.resolve job.path) with
  | none => exact absurd rfl (lastAt?_eq_none_iff.mp last job mem)
  | some content =>
    obtain ⟨other, listed, same, rfl⟩ := exists_of_lastAt? last
    rw [(holds_of_depositEach files done).2 _ _ last, agree other listed same]

/-- **Files that have all been put in their places can be put there again**, and nothing is changed by it. -/
theorem depositAll_again (files : ∀ job ∈ jobs, IsFile job.path) (done : (disk.depositEach jobs).1 = true)
    (same : SameFiles disk jobs others) :
    ((disk.depositAll jobs).depositEach others).1 = true ∧
      (disk.depositAll jobs).depositAll others = disk.depositAll jobs := by
  obtain ⟨holds, last⟩ := holds_of_depositEach files done
  have here : (disk.depositAll jobs).here = disk.here := (keeps_depositAll files).here
  have filesAgain : ∀ job ∈ others, IsFile job.path := fun job mem => files job ((same.mem_iff job).mp mem)
  obtain ⟨doneAgain, again⟩ := depositAll_of_holds filesAgain fun job mem => holds job ((same.mem_iff job).mp mem)
  refine ⟨doneAgain, ext_at? (keeps_depositAll filesAgain).here fun place => ?_⟩
  rw [again, lastAt?_of_here here, same.last]
  cases found : disk.lastAt? jobs place with
  | none => rfl
  | some content => exact (last place content found).symm

/-- Putting files where files are already changes what they hold, and nothing else. -/
theorem shape_depositAll (files : ∀ job ∈ jobs, IsFile job.path) (holds : ∀ job ∈ jobs, disk.Holds job.path) :
    (disk.depositAll jobs).shape = disk.shape := by
  refine ext_at? (keeps_depositAll files).here fun place => ?_
  rw [at?_shape, at?_shape, (depositAll_of_holds files holds).2]
  cases last : disk.lastAt? jobs place with
  | none => rfl
  | some content =>
    obtain ⟨job, mem, rfl, -⟩ := exists_of_lastAt? last
    obtain ⟨before, there⟩ := isFileAt_iff.mp (holds job mem).file
    rw [there]
    rfl

/-- No folder is added by files for which all folders are there. -/
theorem folder_of_depositAll (files : ∀ job ∈ jobs, IsFile job.path)
    (laid : ∀ job ∈ jobs, disk.Laid (disk.start job.path) job.path.names.dropLast)
    (folder : (disk.depositAll jobs).at? place = some .folder) : disk.at? place = some .folder := by
  induction jobs generalizing disk with
  | nil => exact folder
  | cons job jobs ih =>
    have spec := deposit_spec disk job.content (files job (List.mem_cons_self ..))
    have next := @ih (disk.deposit job.path job.content).2
      (fun other mem => files other (List.mem_cons_of_mem _ mem))
      (fun other mem passed hp => spec.kept _ (laid other (List.mem_cons_of_mem _ mem) passed
        (by rwa [start_of_here spec.here] at hp)))
      folder
    rw [spec.at?] at next
    split at next
    · cases next
    split at next
    case isTrue paved => exact laid job (List.mem_cons_self ..) place paved.mem_folders.1
    case isFalse => exact next

/-! ## §4 Files below a folder -/

section Below

variable {root : Path}

/-- A file that goes to a place below a folder. -/
structure Job.IsIn (root : Path) (job : Job) : Prop where
  file : IsFile job.path
  below : Path.IsBelow root job.path

section JoinAll

variable {names : List Text} (filled : names ≠ []) (proper : ∀ name ∈ names, Path.isName name = true)
include filled proper

theorem isFile_joinAll (root : Path) : IsFile (root.joinAll names) := by
  obtain ⟨front, last, rfl⟩ := (List.eq_nil_or_concat names).resolve_left filled
  rw [List.concat_eq_append] at proper ⊢
  rw [Path.joinAll, List.foldl_append]
  exact isFile_join _ (proper last (by simp))

theorem leadsDown_joinAll (root : Path) : LeadsDown root (root.joinAll names) names := by
  have plain (name : Text) (mem : name ∈ names) : Path.Plain name := (Path.plain_of_isName (proper name mem)).1
  have named : (root.joinAll names).names = root.names ++ names := Path.names_joinAll plain
  refine ⟨Path.isAbsolute_joinAll plain, named, filled, fun name mem => (plain name mem).dots, ?_⟩
  exact endsInSlash_of_trimmed (isFile_joinAll filled proper root).trimmed (by simp [named, filled])

theorem isIn_joinAll (root : Path) (content : Bytes) : Job.IsIn root ⟨root.joinAll names, content⟩ :=
  ⟨isFile_joinAll filled proper root,
    Path.isBelow_joinAll fun name mem => (Path.plain_of_isName (proper name mem)).1⟩

end JoinAll

theorem depositAll_below (below : ∀ job ∈ jobs, job.IsIn root) :
    Confined (disk.resolve root <+: ·) (fun _ => True) disk (disk.depositAll jobs) := by
  refine (depositAll_confined disk fun job mem => (below job mem).file).mono ?_ fun _ _ => .inr trivial
  rintro place ⟨job, mem, rfl⟩
  exact resolve_prefix_of_isBelow (below job mem).below

/-- Once there are folders on the way to a folder, files that go below it change nothing elsewhere. -/
theorem at?_depositAll_of_out (below : ∀ job ∈ jobs, job.IsIn root)
    (laid : disk.Laid (disk.start root) root.names) (out : ¬ disk.resolve root <+: place) :
    (disk.depositAll jobs).at? place = disk.at? place := by
  induction jobs generalizing disk with
  | nil => rfl
  | cons job jobs ih =>
    have first := below job (List.mem_cons_self ..)
    have spec := deposit_spec disk job.content first.file
    have kept : (disk.deposit job.path job.content).2.Laid
        ((disk.deposit job.path job.content).2.start root) root.names := by
      rw [start_of_here spec.here]
      exact fun passed mem => spec.kept _ (laid passed mem)
    have rest := ih (fun other mem => below other (List.mem_cons_of_mem _ mem)) kept
      (by rwa [resolve_of_here spec.here])
    have elsewhere : place ≠ disk.resolve job.path :=
      fun same => out (same ▸ resolve_prefix_of_isBelow first.below)
    rw [depositAll, List.foldl_cons]
    refine rest.trans ?_
    rw [spec.at?, if_neg fun taken => elsewhere taken.2]
    split
    case isTrue paved =>
      have passed : place ∈ disk.onWay job.path :=
        Place.trail_subset_of_isPrefix (List.dropLast_prefix _) paved.mem_folders.1
      exact (laid place ((mem_onWay_of_isBelow first.below passed).resolve_right out)).symm
    case isFalse => rfl

end Below

end Disk

end DocSite.Files
