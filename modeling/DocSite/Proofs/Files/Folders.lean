import DocSite.Proofs.Files.Way
import Mathlib.Data.List.Induction

/-!
# Folders made along a way

Folders are made from the end of a path: the last one first, and those above it only if it turns out that they
are missing. What comes of this is said from the beginning of the path (`makeFolders_lays`): there is a folder
wherever the names pass up to the first that cannot be passed, because a file is in the way or because it is
too long, and nothing else is changed.
-/

namespace DocSite.Files

namespace Disk

variable {disk : Disk}

/-! ## §1 Names that can be passed -/

/-- Whether a file is at a place. -/
def isFileAt (disk : Disk) (place : Place) : Bool :=
  match disk.at? place with
  | some (.file _) => true
  | _ => false

/-- Whether a name leads on from a place once the missing folders are made. -/
def passes (disk : Disk) (place : Place) (name : Text) : Bool :=
  Path.isDots name ||
    Text.utf8Length name ≤ maxNameSize && !disk.isFileAt (place ++ [name])

/-- The names in front of the first that cannot be passed. -/
def passable (disk : Disk) (place : Place) : List Text → List Text
  | [] => []
  | name :: names =>
    if disk.passes place name then name :: disk.passable (Place.step place name) names else []

/-- All places that names pass are folders. -/
def Laid (disk : Disk) (place : Place) (names : List Text) : Prop :=
  ∀ passed ∈ Place.trail place names, disk.at? passed = some .folder

variable {place : Place} {name : Text} {names more : List Text}

theorem isFileAt_of_folder (h : disk.at? place = some .folder) : disk.isFileAt place = false := by
  rw [isFileAt, h]

theorem passable_append :
    disk.passable place (names ++ more) =
      if disk.passable place names = names then
        names ++ disk.passable (Place.lead place names) more
      else disk.passable place names := by
  induction names generalizing place with
  | nil => rfl
  | cons name names ih =>
    rw [List.cons_append, passable, passable]
    by_cases pass : disk.passes place name = true
    · rw [if_pos pass, if_pos pass, ih]
      by_cases rest : disk.passable (Place.step place name) names = names
      · rw [if_pos rest, if_pos (by rw [rest]), List.cons_append]
        rfl
      · rw [if_neg rest, if_neg fun same => rest (List.cons.inj same).2]
    · rw [if_neg pass, if_neg pass, if_neg (by simp)]

/-- What can be passed depends on the files on the way alone. -/
theorem passable_congr {other : Disk}
    (h : ∀ passed ∈ Place.trail place names, other.isFileAt passed = disk.isFileAt passed) :
    other.passable place names = disk.passable place names := by
  induction names generalizing place with
  | nil => rfl
  | cons name names ih =>
    have rest := @ih (Place.step place name) fun passed hp => h passed (List.mem_cons_of_mem _ hp)
    have same : other.passes place name = disk.passes place name := by
      cases dots : Path.isDots name with
      | true => simp [passes, dots]
      | false =>
        have first := h _ (List.mem_cons_self ..)
        rw [Place.step_of_not_dots dots] at first
        rw [passes, passes, first]
    rw [passable, passable, same, rest]

theorem passable_isPrefix : disk.passable place names <+: names := by
  induction names generalizing place with
  | nil => exact List.prefix_rfl
  | cons name names ih =>
    rw [passable]
    split
    · exact List.cons_prefix_cons.mpr ⟨rfl, ih⟩
    · exact List.nil_prefix

/-- Above whatever there is, there are folders. -/
theorem folder_above {entry : Entry} (h : disk.at? place = some entry) {upper : Place}
    (above : upper <+: place) (ne : upper ≠ place) : disk.at? upper = some .folder := by
  induction place using List.reverseRecOn generalizing entry with
  | nil => exact absurd (List.prefix_nil.mp above) ne
  | append_singleton front name ih =>
    have outer := at?_dropLast h
    rw [List.dropLast_concat] at outer
    rcases List.prefix_concat_iff.mp above with same | above
    · exact absurd same ne
    by_cases same : upper = front
    · rwa [same]
    · exact ih outer above same

/-- No file is at a place or above it. -/
def Open (disk : Disk) (place : Place) : Prop := ∀ upper, upper <+: place → disk.isFileAt upper = false

theorem open_of_folder (h : disk.at? place = some .folder) : disk.Open place := by
  intro upper above
  by_cases same : upper = place
  · exact isFileAt_of_folder (same ▸ h)
  · exact isFileAt_of_folder (folder_above h above same)

theorem Open.step (h : disk.Open place) (pass : disk.passes place name = true) :
    disk.Open (Place.step place name) := by
  by_cases dots : Path.isDots name = true
  · intro upper above
    refine h upper (above.trans ?_)
    rw [Place.step]
    split
    · exact List.prefix_rfl
    · have two : name = ['.', '.'] := by
        simp only [Path.isDots, Bool.or_eq_true, beq_iff_eq] at dots
        exact dots.resolve_left ‹_›
      rw [if_pos two]
      exact List.dropLast_prefix _
  · have plain : Path.isDots name = false := by simpa using dots
    rw [Place.step_of_not_dots plain]
    intro upper above
    rcases List.prefix_concat_iff.mp above with same | above
    · rw [same]
      simp only [passes, plain, Bool.false_or, Bool.and_eq_true, Bool.not_eq_true'] at pass
      exact pass.2
    · exact h upper above

/-- There is no file where names can be passed. -/
theorem Open.isFileAt_of_mem_trail (h : disk.Open place) {passed : Place}
    (hp : passed ∈ Place.trail place (disk.passable place names)) : disk.isFileAt passed = false := by
  induction names generalizing place with
  | nil => cases hp
  | cons name names ih =>
    rw [passable] at hp
    split at hp
    case isFalse => cases hp
    case isTrue pass =>
      rcases List.mem_cons.mp hp with rfl | hp
      · exact h.step pass _ List.prefix_rfl
      · exact ih (h.step pass) hp

/-! ## §2 Following names to a folder -/

/-- The folder to which names lead from a place. -/
def reach (disk : Disk) (place : Place) (names : List Text) : Except FileError Place :=
  match disk.walk place names with
  | .error failure => .error failure
  | .ok last =>
    match disk.at? last with
    | none => .error .notFound
    | some (.file _) => .error .notFolder
    | some .folder => .ok last

theorem reach_nil (h : disk.at? place = some .folder) : disk.reach place [] = .ok place := by
  rw [reach, walk]
  dsimp only
  rw [h]

/-- Only from a folder can a name be followed. -/
theorem walk_append_cons :
    disk.walk place (names ++ name :: more) =
      match disk.reach place names with
      | .error failure => .error failure
      | .ok last => disk.walk last (name :: more) := by
  rw [walk_append, reach]
  cases disk.walk place names with
  | error failure => rfl
  | ok last =>
    dsimp only
    rcases entry : disk.at? last with _ | _ | content
    · simp only [walk, enter, entry]
    · rfl
    · simp only [walk, enter, entry]

theorem enter_of_folder (h : disk.at? place = some .folder) :
    disk.enter place name =
      if Path.isDots name then .ok (Place.step place name)
      else if maxNameSize < Text.utf8Length name then .error .nameTooLong
      else if (disk.at? (place ++ [name])).isSome then .ok (place ++ [name])
      else .error .notFound := by
  rw [enter, h]
  dsimp only
  by_cases dot : name = ['.']
  · simp [dot, Path.isDots, Place.step]
  by_cases dots : name = ['.', '.']
  · simp [dots, Path.isDots, Place.step]
  · simp [dot, dots, Path.isDots]

/-- Dots lead to a folder. -/
theorem at?_step_of_dots (h : disk.at? place = some .folder) (dots : Path.isDots name = true) :
    disk.at? (Place.step place name) = some .folder := by
  rw [Place.step]
  split
  · exact h
  · have two : name = ['.', '.'] := by
      simp only [Path.isDots, Bool.or_eq_true, beq_iff_eq] at dots
      exact dots.resolve_left ‹_›
    rw [if_pos two]
    exact at?_dropLast h

theorem reach_cons (h : disk.at? place = some .folder) :
    disk.reach place (name :: names) =
      if Path.isDots name then disk.reach (Place.step place name) names
      else if maxNameSize < Text.utf8Length name then .error .nameTooLong
      else
        match disk.at? (place ++ [name]) with
        | none => .error .notFound
        | some (.file _) => .error .notFolder
        | some .folder => disk.reach (place ++ [name]) names := by
  rw [reach, walk, enter_of_folder h]
  by_cases dots : Path.isDots name = true
  · rw [if_pos dots, if_pos dots]
    rfl
  by_cases long : maxNameSize < Text.utf8Length name
  · rw [if_neg dots, if_neg dots, if_pos long, if_pos long]
  rw [if_neg dots, if_neg dots, if_neg long, if_neg long]
  rcases next : disk.at? (place ++ [name]) with _ | _ | content
  · rfl
  · rfl
  -- A file is entered, but only if no name is left.
  · dsimp only [Option.isSome_some, if_true]
    cases names with
    | nil => simp only [walk, if_true, next]
    | cons first names => simp only [walk, enter, if_true, next]

/-- Nothing is reached from a place where there is no folder. -/
theorem reach_of_not_folder (h : disk.at? place ≠ some .folder) :
    ∃ failure, disk.reach place names = .error failure := by
  cases names with
  | nil =>
    rw [reach, walk]
    dsimp only
    rcases entry : disk.at? place with _ | _ | content
    · exact ⟨_, rfl⟩
    · exact absurd entry h
    · exact ⟨_, rfl⟩
  | cons name names =>
    rw [reach, walk, enter]
    rcases entry : disk.at? place with _ | _ | content
    · exact ⟨_, rfl⟩
    · exact absurd entry h
    · exact ⟨_, rfl⟩

/-- What following names can come to. -/
inductive Course (disk : Disk) (place : Place) (names : List Text) : Prop where
  /-- All names can be passed, and the folders are there. -/
  | arrives (reached : disk.reach place names = .ok (Place.lead place names))
      (all : disk.passable place names = names) (laid : disk.Laid place names)
  | missing (failed : disk.reach place names = .error .notFound)
  /-- Some name cannot be passed, and the folders in front of it are there. -/
  | stops (failure : FileError) (ne : failure ≠ .notFound)
      (failed : disk.reach place names = .error failure)
      (some : disk.passable place names ≠ names)
      (laid : disk.Laid place (disk.passable place names))

/-- A name that leads to a folder leaves the rest to what comes of the other names. -/
theorem Course.cons (next : disk.at? (Place.step place name) = some .folder)
    (pass : disk.passes place name = true)
    (same : disk.reach place (name :: names) = disk.reach (Place.step place name) names)
    (rest : Course disk (Place.step place name) names) : Course disk place (name :: names) := by
  have passable : disk.passable place (name :: names) =
      name :: disk.passable (Place.step place name) names := by
    rw [Disk.passable, if_pos pass]
  have laid {front : List Text} (rest : disk.Laid (Place.step place name) front) :
      disk.Laid place (name :: front) := by
    intro passed hp
    rcases List.mem_cons.mp hp with rfl | hp
    · exact next
    · exact rest passed hp
  cases rest with
  | arrives reached all rest => exact .arrives (same.trans reached) (by rw [passable, all]) (laid rest)
  | missing failed => exact .missing (same.trans failed)
  | stops failure ne failed some rest =>
    refine .stops failure ne (same.trans failed) ?_ ?_
    · rw [passable]
      exact fun all => some (List.cons.inj all).2
    · rw [passable]
      exact laid rest

/-- A name that cannot be passed stops the course where it begins. -/
theorem Course.stop (block : disk.passes place name = false) {failure : FileError}
    (ne : failure ≠ .notFound) (failed : disk.reach place (name :: names) = .error failure) :
    Course disk place (name :: names) := by
  have passable : disk.passable place (name :: names) = [] := by
    rw [Disk.passable, if_neg (by simp [block])]
  refine .stops failure ne failed (by simp [passable]) ?_
  rw [passable]
  exact fun _ hp => by cases hp

theorem course (h : disk.at? place = some .folder) (names : List Text) : Course disk place names := by
  induction names generalizing place with
  | nil => exact .arrives (reach_nil h) rfl fun _ hp => by cases hp
  | cons name names ih =>
    have first : disk.reach place (name :: names) = _ := reach_cons h
    by_cases dots : Path.isDots name = true
    · rw [if_pos dots] at first
      have next := at?_step_of_dots h dots
      exact .cons next (by simp [passes, dots]) first (ih next)
    have plain : Path.isDots name = false := by simpa using dots
    rw [if_neg dots] at first
    by_cases long : maxNameSize < Text.utf8Length name
    · rw [if_pos long] at first
      exact .stop (by simp [passes, plain, Nat.not_le_of_lt long]) (by simp) first
    rw [if_neg long] at first
    rcases entry : disk.at? (place ++ [name]) with _ | _ | content
    all_goals rw [entry] at first
    · exact .missing first
    · have pass : disk.passes place name = true := by
        simp [passes, isFileAt_of_folder entry, Nat.le_of_not_lt long]
      rw [← Place.step_of_not_dots plain] at first entry
      exact .cons entry pass first (ih entry)
    · exact .stop (by simp [passes, plain, isFileAt, entry]) (by simp) first

/-- Names that can be passed lead on if the folders are there. -/
theorem reach_of_laid (h : disk.at? place = some .folder) (all : disk.passable place names = names)
    (laid : disk.Laid place names) : disk.reach place names = .ok (Place.lead place names) := by
  induction names generalizing place with
  | nil => exact reach_nil h
  | cons name names ih =>
    rw [passable] at all
    split at all
    case isFalse => cases all
    case isTrue pass =>
      have next := laid _ (List.mem_cons_self ..)
      have onward := ih next (List.cons.inj all).2 fun passed hp =>
        laid passed (List.mem_cons_of_mem _ hp)
      rw [reach_cons h]
      by_cases dots : Path.isDots name = true
      · rw [if_pos dots]
        exact onward
      · have plain : Path.isDots name = false := by simpa using dots
        have short : Text.utf8Length name ≤ maxNameSize := by
          simp only [passes, plain, Bool.false_or, Bool.and_eq_true, decide_eq_true_eq] at pass
          exact pass.1
        rw [if_neg dots, if_neg (Nat.not_lt.mpr short), ← Place.step_of_not_dots plain, next]
        exact onward

/-! ## §3 The last step of a path -/

/-- The folder and the name of a slot, without the proofs that it holds. -/
theorem map_slot (disk : Disk) (path : Path) (unnamed : FileError) :
    (disk.slot path unnamed).map (fun slot => (slot.folder, slot.name)) =
      match pathFault? path with
      | some failure => .error failure
      | none =>
        match disk.reach (disk.start path) path.names.dropLast with
        | .error failure => .error failure
        | .ok folder =>
          match path.names.getLast? with
          | none => .error unnamed
          | some name =>
            if Path.isDots name then .error unnamed
            else if maxNameSize < Text.utf8Length name then .error .nameTooLong
            else .ok (folder, name) := by
  unfold Disk.slot reach
  split
  case h_1 failure fault => simp only [fault, Except.map]
  case h_2 fault =>
    simp only [fault]
    cases disk.walk (disk.start path) path.names.dropLast with
    | error failure => rfl
    | ok folder =>
      dsimp only
      split
      case h_1 entry => simp only [entry, Except.map]
      case h_2 content entry => simp only [entry, Except.map]
      case h_3 entry last => simp only [entry, last, Except.map]
      case h_4 name entry last =>
        simp only [entry, last]
        split
        · rfl
        split
        · rfl
        · rfl

theorem slot_eq_error {path : Path} {unnamed failure : FileError}
    (h : (disk.slot path unnamed).map (fun slot => (slot.folder, slot.name)) = .error failure) :
    disk.slot path unnamed = .error failure := by
  cases named : disk.slot path unnamed with
  | error other =>
    rw [named] at h
    exact congrArg _ (Except.error.inj h)
  | ok slot =>
    rw [named] at h
    cases h

theorem exists_slot {path : Path} {unnamed : FileError} {folder : Place}
    (h : (disk.slot path unnamed).map (fun slot => (slot.folder, slot.name)) = .ok (folder, name)) :
    ∃ slot, disk.slot path unnamed = .ok slot ∧ slot.folder = folder ∧ slot.name = name := by
  cases named : disk.slot path unnamed with
  | error other =>
    rw [named] at h
    cases h
  | ok slot =>
    rw [named] at h
    cases h
    exact ⟨slot, rfl, rfl, rfl⟩

/-- A path with names that has been trimmed ends in no slash. -/
theorem endsInSlash_of_trimmed {path : Path} (trimmed : Path.Trimmed path)
    (filled : path.names ≠ []) : Path.endsInSlash path = false := by
  by_contra slash
  obtain ⟨front, rfl⟩ : ∃ front, path = front ++ ['/'] :=
    List.getLast?_eq_some_iff.mp (by simpa [Path.endsInSlash] using slash)
  rw [Path.Trimmed, List.reverse_append] at trimmed
  cases rest : front.reverse with
  | nil =>
    rw [List.reverse_eq_nil_iff.mp rest] at filled
    exact filled (by rw [Path.names_append_slash, Path.names_nil]; rfl)
  | cons c above =>
    rw [rest] at trimmed
    have shorter := Path.length_trimReversed_le (c :: above)
    simp only [List.reverse_cons, List.reverse_nil, List.nil_append, List.singleton_append,
      Path.trimReversed] at trimmed
    rw [trimmed] at shorter
    simp only [List.length_cons] at shorter
    omega

section LastStep

variable {path : Path} {front : List Text} {last : Text}

theorem hasFolder_of_reach_error {failure : FileError} (names : path.names = front ++ [last])
    (h : disk.reach (disk.start path) front = .error failure) : disk.hasFolder path = false := by
  have locate : ∃ other, disk.locate path = .error other := by
    unfold Disk.locate
    split
    · exact ⟨_, rfl⟩
    · rw [names, List.append_assoc, List.singleton_append, walk_append_cons, h]
      exact ⟨_, rfl⟩
  obtain ⟨other, locate⟩ := locate
  rw [hasFolder, find?, locate]
  rfl

/-- The disk with a folder at a path if there is one above. A folder that is there is as good as a new one. -/
def seeToFolder (disk : Disk) (path : Path) : Except FileError Unit × Disk :=
  match disk.makeFolder path with
  | .ok made => (.ok (), made)
  | .error failure => (if disk.hasFolder path then .ok () else .error failure, disk)

end LastStep

/-! ## §4 Folders along a way -/

/-- What making folders comes to: there are folders wherever the names can be passed, and it succeeds if all of
them can be. -/
structure Lays (disk : Disk) (place : Place) (names : List Text) (outcome : Except FileError Unit)
    (after : Disk) : Prop where
  here : after.here = disk.here
  ok_iff : outcome = .ok () ↔ disk.passable place names = names
  at? : ∀ other, after.at? other =
    if other ∈ Place.trail place (disk.passable place names) then some .folder else disk.at? other

namespace Lays

variable {middle after : Disk} {outcome : Except FileError Unit}

/-- Where the folders are there, nothing needs to be made. -/
theorem of_laid (laid : disk.Laid place (disk.passable place names))
    (ok_iff : outcome = .ok () ↔ disk.passable place names = names) :
    Lays disk place names outcome disk := by
  refine ⟨rfl, ok_iff, fun other => ?_⟩
  split
  · exact laid other ‹_›
  · rfl

/-- A name that leads to a folder needs nothing. -/
theorem of_there (pass : disk.passes place name = true)
    (there : disk.at? (Place.step place name) = some .folder) :
    Lays disk place [name] (.ok ()) disk := by
  have all : disk.passable place [name] = [name] := by
    rw [passable, if_pos pass, passable]
  refine of_laid ?_ (by simp [all])
  rw [all]
  intro passed hp
  rw [List.mem_singleton.mp hp]
  exact there

/-- A name that cannot be passed gets nothing. -/
theorem of_blocked (block : disk.passes place name = false) (failure : FileError) :
    Lays disk place [name] (.error failure) disk := by
  have none : disk.passable place [name] = [] := by
    rw [passable, if_neg (by simp [block])]
  refine of_laid ?_ (by simp [none])
  rw [none]
  exact fun _ hp => by cases hp

/-- The files stay. -/
theorem isFileAt_eq (lays : Lays disk place names outcome after) (free : disk.Open place)
    (other : Place) : after.isFileAt other = disk.isFileAt other := by
  have at? := lays.at? other
  split at at?
  case isTrue passed => rw [free.isFileAt_of_mem_trail passed, isFileAt_of_folder at?]
  case isFalse => rw [isFileAt, isFileAt, at?]

/-- Where all names can be passed, they lead to a folder afterwards. -/
theorem laid (h : disk.at? place = some .folder) (lays : Lays disk place names (.ok ()) after) :
    after.at? (Place.lead place names) = some .folder ∧ after.passable place names = names ∧
      after.Laid place names := by
  have all := lays.ok_iff.mp rfl
  have laid : after.Laid place names := by
    intro passed hp
    rw [lays.at?, all, if_pos hp]
  refine ⟨?_, ?_, laid⟩
  · cases names with
    | nil =>
      have same := lays.at? place
      rw [show Place.lead place [] = place from rfl]
      simpa [passable, Place.trail, h] using same
    | cons name names => exact laid _ (Place.lead_mem_trail (by simp))
  · rw [passable_congr fun passed _ => lays.isFileAt_eq (open_of_folder h) passed]
    exact all

/-- More names go on where the first ones have led. -/
theorem append (free : disk.Open place) (first : Lays disk place names (.ok ()) middle)
    (second : Lays middle (Place.lead place names) more outcome after) :
    Lays disk place (names ++ more) outcome after := by
  have all := first.ok_iff.mp rfl
  have same : middle.passable (Place.lead place names) more =
      disk.passable (Place.lead place names) more :=
    passable_congr fun passed _ => first.isFileAt_eq free passed
  have passable : disk.passable place (names ++ more) =
      names ++ disk.passable (Place.lead place names) more := by
    rw [passable_append, if_pos all]
  refine ⟨second.here.trans first.here, ?_, fun other => ?_⟩
  · rw [second.ok_iff, passable, same, List.append_cancel_left_eq]
  · rw [second.at?, first.at?, same, passable, all, Place.trail_append]
    by_cases early : other ∈ Place.trail place names
    · simp [early]
    · simp [early]

/-- After a failure, more names come to nothing. -/
theorem append_of_error {failure other : FileError}
    (first : Lays disk place names (.error failure) after) :
    Lays disk place (names ++ more) (.error other) after := by
  have some : disk.passable place names ≠ names := fun all => by
    cases first.ok_iff.mpr all
  have passable : disk.passable place (names ++ more) = disk.passable place names := by
    rw [passable_append, if_neg some]
  refine ⟨first.here, ⟨by simp, fun all => ?_⟩, ?_⟩
  · -- What can be passed is no longer than the first names.
    rw [passable] at all
    have short := (@passable_isPrefix disk place names).length_le
    rw [all, List.length_append] at short
    have empty : more = [] := List.length_eq_zero_iff.mp (by omega)
    rw [empty, List.append_nil] at all
    exact absurd all some
  · rw [passable]
    exact first.at?

end Lays

section MakeFolders

variable {path : Path} {front : List Text} {last : Text} {folder : Place}

/-- The last step of a path makes its folder. -/
theorem seeToFolder_lays (fault : pathFault? path = none) (trimmed : Path.Trimmed path)
    (names : path.names = front ++ [last])
    (reached : disk.reach (disk.start path) front = .ok folder) :
    Lays disk folder [last] (disk.seeToFolder path).1 (disk.seeToFolder path).2 := by
  have inFolder : disk.at? folder = some .folder := by
    unfold reach at reached
    split at reached
    · cases reached
    split at reached
    · cases reached
    · cases reached
    · cases reached
      assumption
  have slash : Path.endsInSlash path = false := endsInSlash_of_trimmed trimmed (by simp [names])
  -- What is at the path is what is behind the last step.
  have found : disk.find? path = (disk.enter folder last).toOption.bind disk.at? := by
    rw [find?, locate, fault]
    dsimp only
    rw [slash, names, if_neg (by simp), List.append_nil, walk_append_cons, reached]
    dsimp only
    rw [walk]
    cases disk.enter folder last with
    | error failure => rfl
    | ok next => rfl
  have parts := map_slot disk path .alreadyThere
  rw [fault, names, List.dropLast_concat, List.getLast?_concat, reached] at parts
  dsimp only at parts
  rw [enter_of_folder inFolder] at found
  rw [seeToFolder]
  by_cases dots : Path.isDots last = true
  · rw [if_pos dots] at parts found
    have step := at?_step_of_dots inFolder dots
    have there : disk.hasFolder path = true := by
      rw [hasFolder, found]
      simp [step, Except.toOption]
    rw [makeFolder, slot_eq_error parts]
    dsimp only
    rw [if_pos there]
    exact .of_there (by simp [passes, dots]) step
  have plain : Path.isDots last = false := by simpa using dots
  rw [if_neg dots] at parts found
  by_cases long : maxNameSize < Text.utf8Length last
  · rw [if_pos long] at parts found
    have missing : disk.hasFolder path = false := by
      rw [hasFolder, found]
      rfl
    rw [makeFolder, slot_eq_error parts]
    dsimp only
    rw [missing]
    exact .of_blocked (by simp [passes, plain, Nat.not_le_of_lt long]) _
  rw [if_neg long] at parts
  obtain ⟨slot, named, rfl, rfl⟩ := exists_slot parts
  have place : slot.folder ++ [slot.name] = slot.place := rfl
  have step : Place.step slot.folder slot.name = slot.place := Place.step_of_not_dots plain
  rw [if_neg long, place] at found
  have passes_eq : disk.passes slot.folder slot.name = !disk.isFileAt slot.place := by
    rw [passes, plain, place]
    simp [Nat.le_of_not_lt long]
  rw [makeFolder, named]
  dsimp only
  rcases entry : disk.at? slot.place with _ | _ | content
  · -- Nothing is there yet, so the folder is made.
    rw [if_neg (by simp)]
    have pass : disk.passes slot.folder slot.name = true := by
      rw [passes_eq, isFileAt, entry]
      rfl
    have all : disk.passable slot.folder [slot.name] = [slot.name] := by
      rw [passable, if_pos pass, passable]
    refine ⟨rfl, by simp [all], fun other => ?_⟩
    rw [at?_put, all, Place.trail, Place.trail, step, place]
    simp only [List.mem_singleton]
  · have there : disk.hasFolder path = true := by
      rw [hasFolder, found, entry]
      simp [entry, Except.toOption]
    rw [if_pos (by simp)]
    dsimp only
    rw [if_pos there]
    refine .of_there ?_ (step ▸ entry)
    rw [passes_eq, isFileAt, entry]
    rfl
  · have missing : disk.hasFolder path = false := by
      rw [hasFolder, found, entry]
      simp [entry, Except.toOption]
    rw [if_pos (by simp)]
    dsimp only
    rw [missing]
    refine .of_blocked ?_ _
    rw [passes_eq, isFileAt, entry]
    rfl

/-- Dots behind a folder need nothing. -/
theorem lays_dots (h : disk.at? place = some .folder) {dots : List Text}
    (only : ∀ dot ∈ dots, dot = ['.']) :
    Lays disk place dots (.ok ()) disk ∧ Place.lead place dots = place := by
  induction dots with
  | nil => exact ⟨.of_laid (fun _ hp => by cases hp) (by simp [passable]), rfl⟩
  | cons dot dots ih =>
    obtain rfl := only dot (List.mem_cons_self ..)
    obtain ⟨rest, same⟩ := ih fun other hother => only other (List.mem_cons_of_mem _ hother)
    have step : Place.step place ['.'] = place := if_pos rfl
    have first : Lays disk place [['.']] (.ok ()) disk := .of_there rfl (step ▸ h)
    refine ⟨first.append (open_of_folder h) ?_, ?_⟩
    · rw [Place.lead, List.foldl_cons, List.foldl_nil, step]
      exact rest
    · rw [Place.lead, List.foldl_cons, step]
      exact same

/-- If the folder above a path has been made, only the last step is left. -/
theorem lays_of_above {above : Disk} (fault : pathFault? path = none) (trimmed : Path.Trimmed path)
    (names : path.names = front ++ [last]) (h : disk.at? (disk.start path) = some .folder)
    (upper : Lays disk (disk.start path) front (.ok ()) above) :
    Lays disk (disk.start path) path.names (above.seeToFolder path).1 (above.seeToFolder path).2 := by
  obtain ⟨-, all, laid⟩ := upper.laid h
  have start : above.start path = disk.start path := by rw [start, start, upper.here]
  have begins : above.at? (disk.start path) = some .folder := by
    rw [upper.at?]
    split
    · rfl
    · exact h
  have reached := reach_of_laid begins all laid
  rw [← start] at reached
  rw [names]
  have step := seeToFolder_lays fault trimmed names reached
  rw [start] at step
  exact upper.append (open_of_folder h) step

/-- A path that has been trimmed and has no folder above it has no names. -/
theorem names_of_parent?_eq_none (trimmed : Path.Trimmed path) (h : Path.parent? path = none) :
    path.names = [] := by
  unfold Path.parent? at h
  rw [trimmed] at h
  split at h
  case h_1 empty =>
    rw [List.reverse_eq_nil_iff.mp empty, Path.names_nil]
  case h_2 slash =>
    rw [List.reverse_eq_iff.mp slash, List.reverse_singleton,
      show (['/'] : Path) = [] ++ '/' :: [] from rfl, Path.names_append_slash, Path.names_nil]
    rfl
  case h_3 => cases h

/-- A path without names leads to where it begins. -/
theorem seeToFolder_of_no_names (fault : pathFault? path = none) (names : path.names = [])
    (h : disk.at? (disk.start path) = some .folder) :
    disk.makeFolder path = .error .alreadyThere ∧ disk.hasFolder path = true := by
  constructor
  · have parts := map_slot disk path .alreadyThere
    rw [fault, names] at parts
    simp only [List.dropLast_nil, reach_nil h, List.getLast?_nil] at parts
    rw [makeFolder, slot_eq_error parts]
  · have entered : disk.enter (disk.start path) ['.'] = .ok (disk.start path) := by
      rw [enter_of_folder h]
      rfl
    rw [hasFolder, find?, locate, fault, names]
    dsimp only
    split
    · simp [walk, entered, h]
    · simp [walk, h]

/-- A part of a path that can be followed is empty, or it can be followed as well. -/
theorem pathFault?_of_isPrefix {parent : Path} (fault : pathFault? path = none)
    (leads : parent <+: path) : parent = [] ∨ pathFault? parent = none := by
  obtain ⟨rest, rfl⟩ := leads
  by_cases empty : parent = []
  · exact Or.inl empty
  have null := nullCharacter_notMem fault
  have short : Text.utf8Length (parent ++ rest) ≤ maxPathSize := by
    unfold pathFault? at fault
    split at fault
    · cases fault
    split at fault
    · cases fault
    split at fault
    · cases fault
    · exact Nat.le_of_not_lt ‹_›
  rw [Text.utf8Length_append] at short
  refine Or.inr ?_
  have absent : '\x00' ∉ parent := fun hc => null (List.mem_append_left _ hc)
  rw [pathFault?, if_neg (by simpa using absent), if_neg (by simpa using empty), if_neg (by omega)]

theorem makeFolder_of_reach_error {failure : FileError} (fault : pathFault? path = none)
    (names : path.names = front ++ [last])
    (h : disk.reach (disk.start path) front = .error failure) :
    disk.makeFolder path = .error failure := by
  have parts := map_slot disk path .alreadyThere
  rw [fault, names, List.dropLast_concat, h] at parts
  rw [makeFolder, slot_eq_error parts]

/-- A folder that can be made, or cannot be made though nothing is missing above it, is made in one step. -/
theorem seeToFolder_lays_of_not_missing (fault : pathFault? path = none)
    (trimmed : Path.Trimmed path) (h : disk.at? (disk.start path) = some .folder)
    (ne : disk.makeFolder path ≠ .error .notFound) :
    Lays disk (disk.start path) path.names (disk.seeToFolder path).1 (disk.seeToFolder path).2 := by
  rcases List.eq_nil_or_concat path.names with empty | ⟨front, last, names⟩
  · obtain ⟨failed, there⟩ := seeToFolder_of_no_names fault empty h
    rw [seeToFolder, failed, empty]
    dsimp only
    rw [if_pos there]
    exact .of_laid (fun _ hp => by cases hp) (by simp [passable])
  rw [List.concat_eq_append] at names
  cases course h front with
  | arrives reached all laid =>
    exact lays_of_above fault trimmed names h (.of_laid (by rwa [all]) (by simp [all]))
  | missing failed => exact absurd (makeFolder_of_reach_error fault names failed) ne
  | stops failure _ failed some laid =>
    have missing := hasFolder_of_reach_error names failed
    rw [seeToFolder, makeFolder_of_reach_error fault names failed, names]
    dsimp only
    rw [missing]
    have upper : Lays disk (disk.start path) front (.error failure) disk := .of_laid laid (by simp [some])
    exact upper.append_of_error

/-- After the folder that holds the last entry of a path, only the last step is left. -/
theorem lays_of_parent {parent : Path} {above : Disk} (isParent : Path.IsParent parent path)
    (fault : pathFault? path = none) (trimmed : Path.Trimmed path)
    (h : disk.at? (disk.start path) = some .folder)
    (upper : Lays disk (disk.start path) parent.names (.ok ()) above) :
    Lays disk (disk.start path) path.names (above.seeToFolder path).1 (above.seeToFolder path).2 := by
  obtain ⟨middle, name, dots, names, onlyMiddle, -, noDots⟩ := isParent.names
  rw [noDots trimmed] at names
  obtain ⟨middleLays, -⟩ := lays_dots (upper.laid h).1 onlyMiddle
  exact lays_of_above fault trimmed names h (upper.append (open_of_folder h) middleLays)

/-- **Making folders** puts folders wherever the names of the path can be passed, changes nothing else, and
succeeds if all of them can be. -/
theorem makeFolders_lays (disk : Disk) (path : Path) (trimmed : Path.Trimmed path)
    (fault : path = [] ∨ pathFault? path = none) (h : disk.at? (disk.start path) = some .folder) :
    Lays disk (disk.start path) path.names (disk.makeFolders path).1 (disk.makeFolders path).2 := by
  fun_induction disk.makeFolders path with
  | case1 path empty =>
    rw [List.isEmpty_iff.mp empty, Path.names_nil]
    exact .of_laid (fun _ hp => by cases hp) (by simp [passable])
  | case2 path filled made done =>
    replace fault := fault.resolve_left (by simpa using filled)
    have lays := seeToFolder_lays_of_not_missing fault trimmed h (by simp [done])
    rw [seeToFolder, done] at lays
    exact lays
  | case3 path filled missing top =>
    -- The top is not missing.
    replace fault := fault.resolve_left (by simpa using filled)
    obtain ⟨there, -⟩ := seeToFolder_of_no_names fault (names_of_parent?_eq_none trimmed top) h
    rw [missing] at there
    cases there
  | case4 path filled missing parent isAbove failure above made ih =>
    have isParent := Path.isParent_of_parent? isAbove
    replace fault := fault.resolve_left (by simpa using filled)
    have start : disk.start parent = disk.start path := by
      rw [Disk.start, Disk.start, isParent.absolute]
    have upper := ih isParent.trimmed (pathFault?_of_isPrefix fault isParent.leads) (start ▸ h)
    obtain ⟨middle, name, dots, names, -⟩ := isParent.names
    rw [made, start] at upper
    rw [names, List.append_assoc]
    exact upper.append_of_error
  | case5 path filled missing parent isAbove above made final done ih =>
    have isParent := Path.isParent_of_parent? isAbove
    replace fault := fault.resolve_left (by simpa using filled)
    have start : disk.start parent = disk.start path := by
      rw [Disk.start, Disk.start, isParent.absolute]
    have upper := ih isParent.trimmed (pathFault?_of_isPrefix fault isParent.leads) (start ▸ h)
    rw [made, start] at upper
    have lays := lays_of_parent isParent fault trimmed h upper
    rw [seeToFolder, done] at lays
    exact lays
  | case6 path filled missing parent isAbove above made failure failed ih =>
    have isParent := Path.isParent_of_parent? isAbove
    replace fault := fault.resolve_left (by simpa using filled)
    have start : disk.start parent = disk.start path := by
      rw [Disk.start, Disk.start, isParent.absolute]
    have upper := ih isParent.trimmed (pathFault?_of_isPrefix fault isParent.leads) (start ▸ h)
    rw [made, start] at upper
    have lays := lays_of_parent isParent fault trimmed h upper
    rw [seeToFolder, failed] at lays
    exact lays
  | case7 path filled failure ne failed =>
    replace fault := fault.resolve_left (by simpa using filled)
    have lays := seeToFolder_lays_of_not_missing fault trimmed h (by simpa [failed] using ne)
    rw [seeToFolder, failed] at lays
    exact lays

theorem makeFolder_of_not_folder (h : disk.at? (disk.start path) ≠ some .folder) :
    (∃ failure, disk.makeFolder path = .error failure) ∧ disk.hasFolder path = false := by
  constructor
  · have parts := map_slot disk path .alreadyThere
    cases fault : pathFault? path with
    | some failure =>
      rw [fault] at parts
      exact ⟨failure, by rw [makeFolder, slot_eq_error parts]⟩
    | none =>
      obtain ⟨failure, failed⟩ : ∃ failure,
        disk.reach (disk.start path) path.names.dropLast = .error failure := reach_of_not_folder h
      rw [fault, failed] at parts
      exact ⟨failure, by rw [makeFolder, slot_eq_error parts]⟩
  · have located : ∀ place, disk.locate path = .ok place → disk.at? place ≠ some .folder := by
      intro place located
      unfold locate at located
      split at located
      · cases located
      cases steps : path.names ++ if path.endsInSlash then [['.']] else [] with
      | nil =>
        rw [steps] at located
        cases located
        exact h
      | cons name names =>
        rw [steps, walk] at located
        cases entered : disk.enter (disk.start path) name with
        | error failure =>
          rw [entered] at located
          cases located
        | ok next => exact absurd (at?_of_enter entered) h
    rw [hasFolder, find?]
    cases reached : disk.locate path with
    | error failure => rfl
    | ok place => exact decide_eq_false (located place reached)

/-- Nothing is made where a path begins at no folder. -/
theorem makeFolders_of_not_folder (disk : Disk) (path : Path)
    (h : disk.at? (disk.start path) ≠ some .folder) :
    (disk.makeFolders path).2 = disk ∧ (path ≠ [] → (disk.makeFolders path).1 ≠ .ok ()) := by
  fun_induction disk.makeFolders path with
  | case1 path empty => exact ⟨rfl, fun filled => absurd (List.isEmpty_iff.mp empty) filled⟩
  | case2 path filled made done =>
    obtain ⟨⟨failure, failed⟩, -⟩ := makeFolder_of_not_folder h
    cases failed.symm.trans done
  | case3 path filled missing top => exact ⟨rfl, fun _ => by simp⟩
  | case4 path filled missing parent isAbove failure above made ih =>
    have absolute := (Path.isParent_of_parent? isAbove).absolute
    obtain ⟨same, -⟩ := ih (by rwa [start, absolute])
    rw [made] at same
    exact ⟨same, fun _ => by simp⟩
  | case5 path filled missing parent isAbove above made final done ih =>
    have absolute := (Path.isParent_of_parent? isAbove).absolute
    obtain ⟨same, -⟩ := ih (by rwa [start, absolute])
    rw [made] at same
    obtain rfl : above = disk := same
    cases missing.symm.trans done
  | case6 path filled missing parent isAbove above made failure failed ih =>
    have absolute := (Path.isParent_of_parent? isAbove).absolute
    obtain ⟨same, -⟩ := ih (by rwa [start, absolute])
    rw [made] at same
    obtain rfl : above = disk := same
    rw [if_neg (by simp [(makeFolder_of_not_folder h).2])]
    exact ⟨rfl, fun _ => by simp⟩
  | case7 path filled failure ne failed =>
    rw [if_neg (by simp [(makeFolder_of_not_folder h).2])]
    exact ⟨rfl, fun _ => by simp⟩

/-- Nothing is made at a path that cannot be followed. -/
theorem makeFolders_of_fault (disk : Disk) {failure : FileError} (filled : path ≠ [])
    (fault : pathFault? path = some failure) :
    disk.makeFolders path = (.error failure, disk) := by
  have ne : failure ≠ .notFound := by
    rintro rfl
    unfold pathFault? at fault
    simp only [List.isEmpty_iff, filled, if_false] at fault
    split at fault
    · cases fault
    split at fault
    · cases fault
    · cases fault
  have parts := map_slot disk path .alreadyThere
  rw [fault] at parts
  have failed : disk.makeFolder path = .error failure := by rw [makeFolder, slot_eq_error parts]
  have missing : disk.hasFolder path = false := by
    rw [hasFolder, find?, locate, fault]
    rfl
  rw [makeFolders, if_neg (by simpa using filled), failed, missing]
  cases failure with
  | notFound => exact absurd rfl ne
  | _ => rfl

end MakeFolders

end Disk

end DocSite.Files
