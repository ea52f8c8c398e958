import DocSite.Proofs.Files.Seen
import DocSite.Proofs.Site.Assets
import DocSite.Site.Scaffold

/-!
# What scaffolding leaves alone

A new site is made file by file, and what it does to the files that are there is said for one file first
(`Placed`): it is spared, or folders are made on its way and then it is written, or this fails midway. Whatever is at
the path of a file that leads nowhere back up is seen there (`hasEntry_of_at?`), so it is spared unless it may be
replaced. The main statement, `scaffold_frame`, puts this together for all files of a new site.

The path of the configuration file may lead back up, through a folder that is not there yet. Then the check in front
of the write sees nothing, the missing folder is made, and the write replaces the file to which the path leads now
(`scaffold_replaces_notes`).
-/

namespace DocSite

namespace Site

open Files

/-! ## §1 One file -/

/-- What becomes of a disk when one file of a new site is made. -/
inductive Placed (file : StarterFile) (overwrite : Bool) (before : Disk) : Except ScaffoldError Unit → Disk → Prop
  /-- Something is there already and stays. -/
  | spared (there : before.hasEntry file.path = true) (keep : overwrite = false) :
    Placed file overwrite before (.ok ()) before
  /-- Some folders on the way may have been made, but the file has not been written. -/
  | failed {above : Disk} (failure : ScaffoldError)
      (made : Disk.Confined (fun _ => False) (· ∈ before.onWay file.path) before above) :
    Placed file overwrite before (.error failure) above
  | written {above after : Disk} (free : overwrite = false → before.hasEntry file.path = false)
      (made : Disk.Confined (fun _ => False) (· ∈ before.onWay file.path) before above)
      (write : above.write file.path file.content.toBytes = .ok after) :
    Placed file overwrite before (.ok ()) after

theorem StarterFile.placed (file : StarterFile) (overwrite : Bool) (world : World) :
    Placed file overwrite world.disk (file.place overwrite world).1 (file.place overwrite world).2.disk := by
  let make : Work ScaffoldError Unit := do
    Work.makeParent .folder file.path
    Work.change (.file file.path) (·.write file.path file.content.toBytes)
    Work.log .info ("Created ".toList ++ file.path)
  have read : (Work.disk : Work ScaffoldError Disk) world = (.ok world.disk, world) := rfl
  have begins : file.place overwrite world =
      (if (world.disk.hasEntry file.path && !overwrite) = true then pure () else make) world :=
    Work.run_bind_of_ok read
  rw [begins]
  split
  · rename_i spared
    obtain ⟨there, keep⟩ : world.disk.hasEntry file.path = true ∧ overwrite = false := by simpa using spared
    exact .spared there keep
  · rename_i unspared
    have free : overwrite = false → world.disk.hasEntry file.path = false := by
      rintro rfl
      simpa using unspared
    have made : Disk.Confined (fun _ => False) (· ∈ world.disk.onWay file.path) world.disk
        ((Work.makeParent ScaffoldError.folder file.path) world).2.disk :=
      Work.StaysIn.makeParent (fun _ passed => .inr passed) world rfl
    rw [show make = Work.makeParent .folder file.path >>= _ from rfl, Work.run_bind]
    rcases above : (Work.makeParent ScaffoldError.folder file.path) world with ⟨failure | _, middle⟩
    all_goals rw [above] at made
    · exact .failed failure made
    dsimp only
    rw [Work.run_bind]
    cases write : middle.disk.write file.path file.content.toBytes with
    | error failure =>
      rw [Work.run_change_of_error write]
      exact .failed _ made
    | ok changed =>
      rw [Work.run_change_of_ok write]
      exact .written free made write

/-- Whether a path leads back up to a place, but nothing is seen there yet, as a folder on the way is missing. -/
def Strays (disk : Disk) (path : Path) (place : Place) : Prop :=
  place = disk.resolve path ∧ parentName ∈ path.names ∧ disk.hasEntry path = false

namespace Placed

variable {file : StarterFile} {overwrite : Bool} {before after : Disk} {outcome : Except ScaffoldError Unit}

theorem confined (h : Placed file overwrite before outcome after) :
    Disk.Confined (· = before.resolve file.path) (· ∈ before.onWay file.path) before after := by
  cases h with
  | spared => exact .refl ..
  | failed failure made => exact made.mono (fun _ no => no.elim) fun _ passed => .inr passed
  | @written above after free made write =>
    have writing := Disk.write_confined write
    rw [Disk.resolve_of_here made.here] at writing
    exact (made.mono (fun _ no => no.elim) fun _ passed => .inr passed).trans
      (writing.mono (fun _ => id) fun _ no => no.elim)

/-- A file that is not spared stands at the place of its path. -/
theorem at?_of_free (h : Placed file overwrite before (.ok ()) after) (free : before.hasEntry file.path = false) :
    after.at? (before.resolve file.path) = some (.file file.content.toBytes) := by
  cases h with
  | spared there => cases free.symm.trans there
  | written _ made write =>
    obtain ⟨-, there⟩ := Disk.locate_of_read (Disk.read_of_write write)
    rwa [Disk.resolve_of_here ((Disk.write_confined write).here.trans made.here)] at there

/-- What is there is kept, unless the path leads back up to it on a way that is not there yet. -/
theorem kept (h : Placed file false before outcome after) {place : Place} {content : Bytes}
    (there : before.at? place = some (.file content)) :
    after.at? place = some (.file content) ∨
      Strays before file.path place ∧ after.at? place = some (.file file.content.toBytes) := by
  have placed := h
  have madeKeeps {above : Disk} (made : Disk.Confined (fun _ => False) (· ∈ before.onWay file.path) before above) :
      above.at? place = some (.file content) :=
    (made.file_iff fun no => no).mpr there
  cases h with
  | spared => exact .inl there
  | failed failure made => exact .inl (madeKeeps made)
  | @written above after free made write =>
    have closed := free rfl
    by_cases other : place = before.resolve file.path
    · refine .inr ⟨⟨other, ?_, closed⟩, ?_⟩
      · -- Otherwise the check would have seen what is there.
        by_contra ahead
        obtain ⟨slot, -, named, slash, -⟩ := Disk.write_eq_ok write
        have seen := Disk.hasEntry_of_at? named slash ahead (other ▸ there)
        cases closed.symm.trans seen
      · rw [other]
        exact placed.at?_of_free closed
    · refine .inl (((Disk.write_confined write).file_iff ?_).mpr (madeKeeps made))
      rw [Disk.resolve_of_here made.here]
      exact other

/-- A file that has been made or spared is seen at its path. -/
theorem hasEntry (h : Placed file overwrite before (.ok ()) after) : after.hasEntry file.path = true := by
  cases h with
  | spared there => exact there
  | written free made write =>
    obtain ⟨located, there⟩ := Disk.locate_of_read (Disk.read_of_write write)
    simp [Disk.hasEntry, Disk.find?, located, there]

end Placed

/-! ## §2 All files -/

/-- The files of a new site whose paths do not depend on where the configuration file is. -/
def contentFiles : List StarterFile := (starterFiles []).tail

theorem parentName_notMem_contentFiles : ∀ file ∈ contentFiles, parentName ∉ file.path.names := by
  decide +kernel

variable {overwrite : Bool} {world after : World} {outcome : Except ScaffoldError Unit}

/-- Making files stays at their places and on the ways to them. -/
theorem forM_place_staysIn (base : Disk) (files : List StarterFile) (overwrite : Bool) :
    Work.StaysIn base (fun place => ∃ file ∈ files, place = base.resolve file.path)
      (fun place => ∃ file ∈ files, place ∈ base.onWay file.path) (files.forM (·.place overwrite)) := by
  refine .forM fun file mem world here => ?_
  have placed := (file.placed overwrite world).confined
  rw [Disk.resolve_of_here here, Disk.onWay_of_here here] at placed
  exact placed.mono (fun place same => ⟨file, mem, same⟩) fun place passed => .inr ⟨file, mem, passed⟩

/-- Files whose paths lead nowhere back up replace nothing, unless they may. -/
theorem kept_forM_place {files : List StarterFile} (ahead : ∀ file ∈ files, parentName ∉ file.path.names)
    {place : Place} {content : Bytes} (there : world.disk.at? place = some (.file content)) :
    ((files.forM (·.place false)) world).2.disk.at? place = some (.file content) := by
  induction files generalizing world with
  | nil => exact there
  | cons file files ih =>
    have kept := ((file.placed false world).kept there).resolve_right fun ⟨⟨_, back, _⟩, _⟩ =>
      ahead file (List.mem_cons_self ..) back
    show ((file.place false >>= fun _ => files.forM (·.place false)) world).2.disk.at? place = _
    rw [Work.run_bind]
    rcases run : file.place false world with ⟨failure | _, middle⟩
    all_goals rw [run] at kept
    · exact kept
    · exact ih (fun other mem => ahead other (List.mem_cons_of_mem _ mem)) kept

/-- Once all files are there, so is the folder of the docs. -/
theorem hasFolder_of_forM_place {settings : Path}
    (run : ((starterFiles settings).forM (·.place overwrite)) world = (.ok (), after)) :
    after.disk.hasFolder starterDocs = true := by
  -- The first page of the docs comes second, and no folder is lost while the others are made.
  obtain ⟨_, configured, _, run⟩ := Work.exists_of_run_bind run
  obtain ⟨_, opened, first, run⟩ := Work.exists_of_run_bind run
  have names : (starterDocs.join "index.md".toList).names = starterDocs.names ++ ["index.md".toList] := by
    decide +kernel
  have placed := StarterFile.placed ⟨starterDocs.join "index.md".toList, starterIndex⟩ overwrite configured
  rw [show StarterFile.place _ overwrite configured = (.ok (), opened) from first] at placed
  have docs : opened.disk.hasFolder starterDocs = true :=
    Disk.hasFolder_of_hasEntry placed.hasEntry (by decide +kernel) (by decide +kernel) names
  have rest := forM_place_staysIn opened.disk (contentFiles.tail) overwrite opened rfl
  rw [show (contentFiles.tail.forM (·.place overwrite)) opened = (.ok (), after) from run] at rest
  exact rest.hasFolder docs

/-! ## §3 Scaffolding -/

/-- What scaffolding a site does to the files of a world, whether or not it succeeds. -/
structure Scaffolded (settings : Path) (overwrite : Bool) (before : World) (outcome : Except ScaffoldError Unit)
    (after : World) : Prop where
  /-- Nothing is changed but the configuration file and the files of the content, and folders are added on the ways
  to these alone, where nothing was before. -/
  confined : Disk.Confined (fun place => ∃ file ∈ starterFiles settings, place = before.disk.resolve file.path)
    (fun place => ∃ file ∈ starterFiles settings, place ∈ before.disk.onWay file.path) before.disk after.disk
  /-- A file that is there keeps its content unless it may be replaced, or the path of the configuration file leads
  back up to it without showing it. -/
  kept : overwrite = false → ∀ place content, before.disk.at? place = some (.file content) →
    after.disk.at? place = some (.file content) ∨
      Strays before.disk settings place ∧ after.disk.at? place = some (.file starterSettings.toBytes)
  /-- Where the path of the configuration file shows nothing, a success puts the file at its place, whatever was
  there. -/
  configured : overwrite = false → outcome = .ok () → before.disk.hasEntry starterDocs = false →
    before.disk.hasEntry settings = false →
      after.disk.at? (before.disk.resolve settings) = some (.file starterSettings.toBytes)
  /-- Where there are docs, nothing is made. -/
  idle : overwrite = false → before.disk.hasEntry starterDocs = true → outcome = .ok () ∧ after.disk = before.disk
  /-- After a success there are docs, so that scaffolding changes nothing from then on, wherever the configuration
  file shall be. -/
  settled : outcome = .ok () → ∀ config,
    (scaffold config false after).1 = .ok () ∧ (scaffold config false after).2.disk = after.disk

theorem run_scaffold (settings : Path) (overwrite : Bool) (world : World) :
    scaffold settings overwrite world =
      if (world.disk.hasEntry starterDocs && !overwrite) = true then
        (.ok (), { world with
          log := world.log ++ [⟨.warn, starterDocs ++ " already exists. Use --yes to overwrite.".toList⟩] })
      else (starterFiles settings).forM (·.place overwrite) world := by
  have read : (Work.disk : Work ScaffoldError Disk) world = (.ok world.disk, world) := rfl
  refine (Work.run_bind_of_ok read).trans ?_
  split
  · rfl
  · rfl

/-- Where there are docs, a site is scaffolded by a warning. -/
theorem scaffold_of_docs (docs : world.disk.hasEntry starterDocs = true) (settings : Path) :
    (scaffold settings false world).1 = .ok () ∧ (scaffold settings false world).2.disk = world.disk := by
  rw [run_scaffold, if_pos (by simp [docs])]
  exact ⟨rfl, rfl⟩

/-- What is kept while the configuration file is made is kept while the other files are made. -/
theorem kept_starterFiles {settings : Path} {place : Place} {content : Bytes}
    (there : world.disk.at? place = some (.file content)) :
    ((starterFiles settings).forM (·.place false) world).2.disk.at? place = some (.file content) ∨
      Strays world.disk settings place ∧
        ((starterFiles settings).forM (·.place false) world).2.disk.at? place =
          some (.file starterSettings.toBytes) := by
  let first : StarterFile := ⟨settings, starterSettings⟩
  have steps : (starterFiles settings).forM (·.place false) =
      first.place false >>= fun _ => contentFiles.forM (·.place false) := rfl
  have kept := (first.placed false world).kept there
  rw [steps, Work.run_bind]
  rcases run : first.place false world with ⟨failure | _, middle⟩
  all_goals rw [run] at kept
  · exact kept
  · exact kept.imp (kept_forM_place parentName_notMem_contentFiles) fun ⟨strays, made⟩ =>
      ⟨strays, kept_forM_place parentName_notMem_contentFiles made⟩

/-- A configuration file that is not seen at its path is made, and stays while the other files are made. -/
theorem at?_settings_of_free {settings : Path} (free : world.disk.hasEntry settings = false)
    (run : ((starterFiles settings).forM (·.place false)) world = (.ok (), after)) :
    after.disk.at? (world.disk.resolve settings) = some (.file starterSettings.toBytes) := by
  obtain ⟨_, middle, first, rest⟩ := Work.exists_of_run_bind run
  have placed := StarterFile.placed ⟨settings, starterSettings⟩ false world
  rw [show StarterFile.place _ false world = (.ok (), middle) from first] at placed
  have made := kept_forM_place parentName_notMem_contentFiles (placed.at?_of_free free)
  rwa [show contentFiles.forM (·.place false) middle = (.ok (), after) from rest] at made

/-- **Scaffolding a site keeps to its own files**, and it replaces none that is there unless it may, or unless the
path of the configuration file leads back up through a folder that is not there yet. -/
theorem scaffold_frame (settings : Path) (overwrite : Bool) (world : World) :
    Scaffolded settings overwrite world (scaffold settings overwrite world).1
      (scaffold settings overwrite world).2 := by
  rw [run_scaffold]
  split
  · rename_i there
    have docs : world.disk.hasEntry starterDocs = true := (Bool.and_eq_true_iff.mp there).1
    exact {
      confined := .refl ..
      kept := fun _ place content there => .inl there
      configured := fun _ _ absent _ => absurd docs (by simp [absent])
      idle := fun _ _ => ⟨rfl, rfl⟩
      settled := fun _ => scaffold_of_docs docs }
  · rename_i free
    exact {
      confined := forM_place_staysIn world.disk (starterFiles settings) overwrite world rfl
      kept := by
        rintro rfl place content there
        exact kept_starterFiles there
      configured := by
        rintro rfl done _ free
        exact at?_settings_of_free free (Prod.ext done rfl)
      idle := by
        rintro rfl docs
        exact absurd (by simp [docs]) free
      settled := by
        intro done config
        exact scaffold_of_docs (Disk.hasEntry_of_hasFolder (hasFolder_of_forM_place (Prod.ext done rfl))) config }

/-- A disk with one file. -/
def notesWorld : World where
  disk :=
    { entries := [(["notes.txt".toList], .file (Text.toBytes "mine".toList))]
      grounded := by decide +kernel }

/-- A path that leads to the file on that disk through a folder that is missing. -/
def straySettings : Path := "new/../notes.txt".toList

/-- A file is replaced although none may be, as the path of the configuration file leads to it through a folder that
is not there yet. -/
theorem scaffold_replaces_notes :
    (scaffold straySettings false notesWorld).1 = .ok () ∧
      notesWorld.disk.at? ["notes.txt".toList] = some (.file (Text.toBytes "mine".toList)) ∧
      (scaffold straySettings false notesWorld).2.disk.at? ["notes.txt".toList] =
        some (.file starterSettings.toBytes) ∧
      starterSettings.toBytes ≠ Text.toBytes "mine".toList := by
  have free : notesWorld.disk.hasEntry straySettings = false := by decide +kernel
  have place : notesWorld.disk.resolve straySettings = ["notes.txt".toList] := by decide +kernel
  have runs : scaffold straySettings false notesWorld =
      (starterFiles straySettings).forM (·.place false) notesWorld := by
    rw [run_scaffold, if_neg (by decide +kernel)]
  have done : (scaffold straySettings false notesWorld).1 = .ok () := by decide +kernel
  refine ⟨done, by decide +kernel, ?_, ?_⟩
  · rw [runs] at done ⊢
    rw [← place]
    exact at?_settings_of_free free (Prod.ext done rfl)
  · intro same
    exact absurd (Text.toBytes_inj same) (by decide +kernel)

end Site

end DocSite
