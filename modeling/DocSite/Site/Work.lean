import DocSite.Files.Access
import DocSite.Site.Log

/-!
# Work on a site

Commands read and change the files of a disk and write a log, and they may fail. What they did before
they fail stays done.
-/

namespace DocSite.Site

open Files

/-- What work changes: the files, and the log, newest line last. -/
structure World where
  disk : Disk
  log : List LogLine := []

/-- A piece of work that gives an `α` or fails with an `ε`. -/
abbrev Work (ε α : Type) := ExceptT ε (StateM World) α

namespace Work

variable {ε ε' α : Type}

/-- The disk as it is now. -/
def disk : Work ε Disk := return (← get).disk

/-- Writes a line to the log. -/
def log (level : Level) (message : Text) : Work ε Unit :=
  modify fun world => { world with log := world.log ++ [⟨level, message⟩] }

/-- Changes the disk; a failure is put into the words of the work. -/
def change (blame : FileError → ε) (operation : Disk → Except FileError Disk) : Work ε Unit := do
  match operation (← disk) with
  | .ok changed => modify fun world => { world with disk := changed }
  | .error failure => throw (blame failure)

/-- Sees to it that a folder and all folders above it are there. -/
def makeFolders (blame : FileError → ε) (path : Path) : Work ε Unit := do
  let (outcome, changed) := (← disk).makeFolders path
  modify fun world => { world with disk := changed }
  match outcome with
  | .ok () => return ()
  | .error failure => throw (blame failure)

/-- Sees to it that the folder above a path is there. -/
def makeParent (blame : Path → FileError → ε) (path : Path) : Work ε Unit :=
  match path.parent? with
  | none => return ()
  | some parent => makeFolders (blame parent) parent

/-- Work with its failure as a result. -/
def attempt (work : Work ε α) : Work ε' (Except ε α) := fun world =>
  let (outcome, world) := work world
  (.ok outcome, world)

/-- Work with its failure in other words. -/
def blaming (blame : ε → ε') (work : Work ε α) : Work ε' α := fun world =>
  let (outcome, world) := work world
  (outcome.mapError blame, world)

end Work

end DocSite.Site
