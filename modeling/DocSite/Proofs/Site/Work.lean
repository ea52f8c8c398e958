import DocSite.Proofs.Files.Shape
import DocSite.Site.Work

/-!
# Runs of work

What a piece of work does to a world, from what its steps do: work goes on where the work before it ended,
and not at all after a failure. Work stays in an area if each of its steps does (`StaysIn`), and the files that
it puts in their places are those of its steps (`Puts`).
-/

namespace DocSite.Site

open Files

namespace Work

variable {ε ε' α β : Type}

/-! ## §1 Steps -/

/-- Work goes on with what came of the work before it. -/
theorem run_bind_of_ok {work : Work ε α} {next : α → Work ε β} {world after : World} {result : α}
    (h : work world = (.ok result, after)) : (work >>= next) world = next result after := by
  simp only [bind, ExceptT.bind, ExceptT.mk, StateT.bind, h]
  rfl

/-- Work behind a failure is not done. -/
theorem run_bind_of_error {work : Work ε α} {next : α → Work ε β} {world after : World}
    {failure : ε} (h : work world = (.error failure, after)) :
    (work >>= next) world = (.error failure, after) := by
  simp only [bind, ExceptT.bind, ExceptT.mk, StateT.bind, h]
  rfl

/-- Work goes on with what came of the work before it, unless that was a failure. -/
theorem run_bind (work : Work ε α) (next : α → Work ε β) (world : World) :
    (work >>= next) world =
      match work world with
      | (.ok result, after) => next result after
      | (.error failure, after) => (.error failure, after) := by
  rcases h : work world with ⟨_ | _, after⟩
  case error failure => rw [run_bind_of_error h]
  case ok result => rw [run_bind_of_ok h]

/-- Work in two steps is done if both are. -/
theorem exists_of_run_bind {work : Work ε α} {next : α → Work ε β} {world after : World} {result : β}
    (h : (work >>= next) world = (.ok result, after)) :
    ∃ found middle, work world = (.ok found, middle) ∧ next found middle = (.ok result, after) := by
  rw [run_bind] at h
  rcases run : work world with ⟨failure | found, middle⟩
  all_goals rw [run] at h
  · cases h
  · exact ⟨found, middle, rfl, h⟩

/-- Lines that are logged one after the other stand at the end of the log. -/
theorem run_forM_log (entries : List α) (level : Level) (message : α → Text) (world : World) :
    (entries.forM fun entry => (log level (message entry) : Work ε Unit)) world =
      (.ok (), { world with log := world.log ++ entries.map fun e => ⟨level, message e⟩ }) := by
  induction entries generalizing world with
  | nil =>
    rw [List.map_nil, List.append_nil]
    rfl
  | cons entry entries ih =>
    have first : (log level (message entry) : Work ε Unit) world =
        (.ok (), { world with log := world.log ++ [⟨level, message entry⟩] }) := rfl
    have rest := ih { world with log := world.log ++ [⟨level, message entry⟩] }
    rw [List.append_assoc, List.singleton_append] at rest
    exact (run_bind_of_ok first).trans rest

variable {blame : FileError → ε} {operation : Disk → Except FileError Disk} {world : World}

theorem run_change_of_ok {changed : Disk} (h : operation world.disk = .ok changed) :
    change blame operation world = (.ok (), { world with disk := changed }) := by
  have read : (disk : Work ε Disk) world = (.ok world.disk, world) := rfl
  refine (run_bind_of_ok read).trans ?_
  rw [h]
  rfl

theorem run_change_of_error {failure : FileError} (h : operation world.disk = .error failure) :
    change blame operation world = (.error (blame failure), world) := by
  have read : (disk : Work ε Disk) world = (.ok world.disk, world) := rfl
  refine (run_bind_of_ok read).trans ?_
  rw [h]
  rfl

/-- Whether or not all folders can be made, those that can are there afterwards. -/
theorem run_makeFolders (blame : FileError → ε) (path : Path) (world : World) :
    makeFolders blame path world =
      ((world.disk.makeFolders path).1.mapError blame,
        { world with disk := (world.disk.makeFolders path).2 }) := by
  have read : (disk : Work ε Disk) world = (.ok world.disk, world) := rfl
  refine (run_bind_of_ok read).trans ?_
  rcases world.disk.makeFolders path with ⟨_ | _, above⟩
  case error => rfl
  case ok => rfl

/-- Results that are all there are given in order. -/
theorem run_mapM_ofExcept (results : List α) (world : World) :
    ((results.map Except.ok).mapM fun outcome => MonadExcept.ofExcept outcome : Work ε (List α))
      world = (.ok results, world) := by
  induction results with
  | nil => rfl
  | cons result results ih =>
    rw [List.map_cons, List.mapM_cons]
    have first : (MonadExcept.ofExcept (.ok result) : Work ε α) world = (.ok result, world) := rfl
    exact (run_bind_of_ok first).trans (run_bind_of_ok ih)

/-- One failure among results is enough. -/
theorem exists_run_mapM_ofExcept {outcomes : List (Except ε α)} {failure : ε}
    (mem : .error failure ∈ outcomes) (world : World) :
    ∃ first, (outcomes.mapM fun outcome => MonadExcept.ofExcept outcome : Work ε (List α)) world =
      (.error first, world) := by
  induction outcomes with
  | nil => cases mem
  | cons outcome outcomes ih =>
    rw [List.mapM_cons]
    cases outcome with
    | error first => exact ⟨first, rfl⟩
    | ok result =>
      have here : (MonadExcept.ofExcept (.ok result) : Work ε α) world = (.ok result, world) := rfl
      obtain ⟨first, rest⟩ := ih (by simpa using mem)
      exact ⟨first, (run_bind_of_ok here).trans (run_bind_of_error rest)⟩

/-! ## §2 Work that stays in an area -/

/-- Whatever becomes of the work, it changes nothing but the files in an area, and it adds folders on some way.
What the area is may depend on where the working folder of the disk is. -/
def StaysIn (base : Disk) (area way : Place → Prop) (work : Work ε α) : Prop :=
  ∀ world, world.disk.here = base.here → Disk.Confined area way world.disk (work world).2.disk

/-- A result that the work can have. -/
def Gives (work : Work ε α) (result : α) : Prop := ∃ world, (work world).1 = .ok result

/-- Work in two steps stays where both steps do. -/
theorem confined_bind {area way : Place → Prop} {work : Work ε α} {next : α → Work ε β}
    {world : World}
    (first : Disk.Confined area way world.disk (work world).2.disk)
    (second : ∀ result after, work world = (.ok result, after) →
      Disk.Confined area way after.disk (next result after).2.disk) :
    Disk.Confined area way world.disk ((work >>= next) world).2.disk := by
  rw [run_bind]
  rcases run : work world with ⟨_ | _, after⟩
  all_goals rw [run] at first
  case error failure => exact first
  case ok result => exact first.trans (second result after run)

namespace StaysIn

variable {base : Disk} {area way : Place → Prop} {work : Work ε α} {next : α → Work ε β}

/-- Work that leaves the disk as it is stays in every area. -/
theorem of_disk_eq (h : ∀ world, (work world).2.disk = world.disk) : StaysIn base area way work := by
  intro world _
  rw [h world]
  exact .refl ..

theorem pure (result : α) : StaysIn base area way (pure result : Work ε α) :=
  of_disk_eq fun _ => rfl

theorem throw (failure : ε) : StaysIn base area way (throw failure : Work ε α) :=
  of_disk_eq fun _ => rfl

theorem disk : StaysIn base area way (disk : Work ε Disk) :=
  of_disk_eq fun _ => rfl

theorem log (level : Level) (message : Text) :
    StaysIn base area way (log level message : Work ε Unit) :=
  of_disk_eq fun _ => rfl

theorem ofExcept (result : Except ε α) :
    StaysIn base area way (MonadExcept.ofExcept result : Work ε α) := by
  cases result with
  | ok result => exact pure result
  | error failure => exact throw failure

/-- The working folder stays where it is. -/
theorem here_of_run (h : StaysIn base area way work) {world after : World} {result : Except ε α}
    (here : world.disk.here = base.here) (run : work world = (result, after)) :
    after.disk.here = base.here := by
  have moved := (h world here).here
  rw [run] at moved
  exact moved.trans here

/-- Work in two steps stays where both steps do, the second one for every result that the first one can
have. -/
theorem bind (first : StaysIn base area way work)
    (second : ∀ result, Gives work result → StaysIn base area way (next result)) :
    StaysIn base area way (work >>= next) :=
  fun world here => confined_bind (first world here) fun result after run =>
    second result ⟨world, by rw [run]⟩ after (first.here_of_run here run)

theorem attempt (h : StaysIn base area way work) :
    StaysIn base area way (attempt work : Work ε' (Except ε α)) :=
  h

theorem forM {list : List β} {step : β → Work ε Unit}
    (h : ∀ item ∈ list, StaysIn base area way (step item)) :
    StaysIn base area way (list.forM step) := by
  induction list with
  | nil => exact pure ()
  | cons item list ih =>
    refine bind (h item (List.mem_cons_self ..)) fun _ _ => ?_
    exact ih fun other hother => h other (List.mem_cons_of_mem _ hother)

theorem mapM {list : List β} {step : β → Work ε α}
    (h : ∀ item ∈ list, StaysIn base area way (step item)) :
    StaysIn base area way (list.mapM step) := by
  induction list with
  | nil =>
    rw [List.mapM_nil]
    exact pure []
  | cons item list ih =>
    rw [List.mapM_cons]
    refine bind (h item (List.mem_cons_self ..)) fun _ _ => ?_
    refine bind (ih fun other hother => h other (List.mem_cons_of_mem _ hother)) fun _ _ => ?_
    exact pure _

/-- A change stays where its operation does. -/
theorem change {blame : FileError → ε} {operation : Disk → Except FileError Disk}
    (h : ∀ disk changed, disk.here = base.here → operation disk = .ok changed →
      Disk.Confined area way disk changed) :
    StaysIn base area way (change blame operation) := by
  intro world here
  cases done : operation world.disk with
  | error failure =>
    rw [run_change_of_error done]
    exact .refl ..
  | ok changed =>
    rw [run_change_of_ok done]
    exact h world.disk changed here done

theorem makeFolders (blame : FileError → ε) {path : Path}
    (h : ∀ place ∈ base.onWay path, area place ∨ way place) :
    StaysIn base area way (makeFolders blame path) := by
  intro world here
  have made := Disk.makeFolders_confined world.disk path
  rw [Disk.onWay_of_here here] at made
  rw [run_makeFolders]
  exact made.mono (fun _ no => no.elim) h

theorem makeParent {blame : Path → FileError → ε} {path : Path}
    (h : ∀ place ∈ base.onWay path, area place ∨ way place) :
    StaysIn base area way (makeParent blame path) := by
  unfold Work.makeParent
  split
  · exact pure ()
  · rename_i parent found
    exact makeFolders _ fun place hp =>
      h place (Disk.onWay_subset_of_isParent (Path.isParent_of_parent? found) hp)

end StaysIn

/-! ## §3 Work that sees only so much -/

/-- What becomes of the work depends on nothing but what a view shows of the disk. In particular, it does not
depend on the log. -/
def Sees {γ : Type} (view : Disk → γ) (work : Work ε α) : Prop :=
  ∀ world other, view world.disk = view other.disk →
    (work world).1 = (work other).1 ∧ view (work world).2.disk = view (work other).2.disk

namespace Sees

variable {γ : Type} {view : Disk → γ} {work : Work ε α} {next : α → Work ε β}

theorem pure (result : α) : Sees view (pure result : Work ε α) := fun _ _ same => ⟨rfl, same⟩

theorem throw (failure : ε) : Sees view (throw failure : Work ε α) := fun _ _ same => ⟨rfl, same⟩

theorem log (level : Level) (message : Text) : Sees view (log level message : Work ε Unit) :=
  fun _ _ same => ⟨rfl, same⟩

theorem bind (first : Sees view work) (second : ∀ result, Sees view (next result)) :
    Sees view (work >>= next) := by
  intro world other same
  obtain ⟨result, disk⟩ := first world other same
  rw [run_bind, run_bind]
  rcases run : work world with ⟨outcome, after⟩
  rcases runOther : work other with ⟨outcome', after'⟩
  rw [run, runOther] at result disk
  obtain rfl : outcome = outcome' := result
  cases outcome with
  | error failure => exact ⟨rfl, disk⟩
  | ok result => exact second result after after' disk

theorem forM {list : List β} {step : β → Work ε Unit} (h : ∀ item, Sees view (step item)) :
    Sees view (list.forM step) := by
  induction list with
  | nil => exact pure ()
  | cons item list ih => exact bind (h item) fun _ => ih

/-- The disk may be read if what is done then depends on the view alone. -/
theorem read {next : Disk → Work ε β} (same : ∀ now other, view now = view other → next now = next other)
    (h : ∀ now, Sees view (next now)) : Sees view (disk >>= next) := by
  intro world other shown
  have run (world : World) : (disk >>= next) world = next world.disk world :=
    run_bind_of_ok (ε := ε) rfl
  rw [run, run, same _ _ shown]
  exact h other.disk world other shown

theorem change (blame : FileError → ε) {operation : Disk → Except FileError Disk}
    (same : ∀ now other, view now = view other →
      (operation now).map view = (operation other).map view) : Sees view (change blame operation) := by
  intro world other shown
  have both := same _ _ shown
  cases done : operation world.disk with
  | error failure =>
    cases done' : operation other.disk with
    | error failure' =>
      rw [done, done'] at both
      cases both
      rw [run_change_of_error done, run_change_of_error done']
      exact ⟨rfl, shown⟩
    | ok changed' =>
      rw [done, done'] at both
      cases both
  | ok changed =>
    cases done' : operation other.disk with
    | error failure' =>
      rw [done, done'] at both
      cases both
    | ok changed' =>
      rw [done, done'] at both
      rw [run_change_of_ok done, run_change_of_ok done']
      exact ⟨rfl, Except.ok.inj both⟩

theorem makeFolders (shows : Disk.Shows view) (blame : FileError → ε) (path : Path) :
    Sees view (makeFolders blame path) := by
  intro world other shown
  obtain ⟨outcome, made⟩ := shows.makeFolders path shown
  rw [run_makeFolders, run_makeFolders, outcome]
  exact ⟨rfl, made⟩

theorem makeParent (shows : Disk.Shows view) (blame : Path → FileError → ε) (path : Path) :
    Sees view (makeParent blame path) := by
  rw [Work.makeParent]
  cases path.parent? with
  | none => exact pure ()
  | some parent => exact makeFolders shows _ parent

end Sees

/-! ## §4 Work that puts files in their places -/

/-- Work that comes to putting files in their places on a disk: if it is able to be done at all, it has its result
if all files can be put there, and it leaves the disk with these files. -/
structure Puts (work : Work ε α) (world : World) (base : Disk) (able : Prop) (jobs : List Disk.Job) (result : α) :
    Prop where
  outcome : ∀ made, (work world).1 = .ok made ↔ made = result ∧ able ∧ (base.depositEach jobs).1 = true
  disk : able → (base.depositEach jobs).1 = true → (work world).2.disk = base.depositAll jobs

namespace Puts

variable {work : Work ε α} {next : α → Work ε β} {world after : World} {base : Disk} {able able' : Prop}
  {jobs more : List Disk.Job} {result : α} {final : β}

/-- Work that leaves the disk as it is puts no file anywhere. -/
theorem of_run (run : work world = (.ok result, after)) (same : after.disk = world.disk) :
    Puts work world world.disk True [] result := by
  refine ⟨fun made => ?_, fun _ _ => ?_⟩
  · rw [run]
    simp [Disk.depositEach, eq_comm]
  · rw [run]
    exact same

/-- The files of work in two steps are those of both steps. -/
theorem bind (first : Puts work world base able jobs result)
    (second : ∀ after, after.disk = base.depositAll jobs →
      Puts (next result) after (base.depositAll jobs) able' more final) :
    Puts (work >>= next) world base (able ∧ able') (jobs ++ more) final := by
  rcases run : work world with ⟨failure | found, after⟩
  · have fails : ¬ (able ∧ (base.depositEach jobs).1 = true) := by
      intro done
      have made := (first.outcome result).mpr ⟨rfl, done⟩
      rw [run] at made
      cases made
    constructor
    all_goals rw [Disk.depositEach_append_iff]
    · rw [run_bind_of_error run]
      exact fun made => ⟨nofun, fun done => absurd ⟨done.2.1.1, done.2.2.1⟩ fails⟩
    · exact fun able done => absurd ⟨able.1, done.1⟩ fails
  · obtain ⟨rfl, can, done⟩ := (first.outcome found).mp (by rw [run])
    have left := first.disk can done
    rw [run] at left
    have rest := second after left
    constructor
    all_goals rw [Disk.depositEach_append_iff, run_bind_of_ok run]
    · intro made
      rw [rest.outcome]
      simp only [can, done, true_and]
    · rw [Disk.depositAll_append]
      exact fun able done => rest.disk able.2 done.2

theorem of_eq {other : Work ε α} (same : work world = other world) (h : Puts other world base able jobs result) :
    Puts work world base able jobs result := by
  constructor
  · rw [same]
    exact h.outcome
  · rw [same]
    exact h.disk

theorem congr (h : Puts work world base able jobs result) (same : able ↔ able') (files : jobs = more) :
    Puts work world base able' more result := by
  rw [← propext same, ← files]
  exact h

/-- Work that nothing but its files can fail at adds these to the files of the work behind it. -/
theorem seq (first : Puts work world base True jobs result)
    (second : ∀ after, after.disk = base.depositAll jobs →
      Puts (next result) after (base.depositAll jobs) able more final) :
    Puts (work >>= next) world base able (jobs ++ more) final :=
  (first.bind second).congr (iff_of_eq (true_and able)) rfl

/-- Nothing is put anywhere by a second step that leaves the disk as it is. -/
theorem bind_of_run (first : Puts work world base able jobs result)
    (second : ∀ after, ∃ last, next result after = (.ok final, last) ∧ last.disk = after.disk) :
    Puts (work >>= next) world base able jobs final := by
  refine (first.bind fun after same => ?_).congr (iff_of_eq (and_true able)) (List.append_nil jobs)
  obtain ⟨last, run, kept⟩ := second after
  rw [← same]
  exact of_run run kept

/-- Files are put in their places one by one by work on each item of a list. -/
theorem forM {step : β → Work ε Unit} {can : β → Prop} {job : β → Disk.Job} {list : List β} {kept : Disk → Prop}
    (steps : ∀ item ∈ list, ∀ world, kept world.disk →
      Puts (step item) world world.disk (can item) [job item] ())
    (keeps : ∀ item ∈ list, ∀ disk, kept disk → kept (disk.depositAll [job item])) (start : kept world.disk) :
    Puts (list.forM step) world world.disk (∀ item ∈ list, can item) (list.map job) () := by
  induction list generalizing world with
  | nil =>
    have nothing : Puts ([].forM step) world world.disk True [] () := of_run rfl rfl
    exact nothing.congr (by simp) rfl
  | cons item list ih =>
    have first := List.mem_cons_self (a := item) (l := list)
    have rest (other : β) (mem : other ∈ list) := List.mem_cons_of_mem item mem
    refine (bind (steps item first world start) fun after same => ?_).congr List.forall_mem_cons.symm rfl
    rw [← same]
    refine ih (fun other mem => steps other (rest other mem)) (fun other mem => keeps other (rest other mem)) ?_
    rw [same]
    exact keeps item first _ start

end Puts

end Work

end DocSite.Site
