import DocSite.Site.Starter
import DocSite.Site.Work

/-!
# Scaffolding a new site

A new site begins with its starter files. Files that are there already stay as they are unless they may be
replaced, and where there are docs already nothing is made at all.
-/

namespace DocSite.Site

open Files

/-- Why a site cannot be scaffolded. -/
inductive ScaffoldError where
  | folder (path : Path) (failure : FileError)
  | file (path : Path) (failure : FileError)
  deriving DecidableEq, Repr

/-- The wording of the error. -/
def ScaffoldError.message : ScaffoldError → Text
  | .folder path _ => "Failed to create ".toList ++ path
  | .file path _ => "Failed to write ".toList ++ path

/-- Makes one file of the new site. -/
def StarterFile.place (file : StarterFile) (overwrite : Bool) : Work ScaffoldError Unit := do
  unless (← Work.disk).hasEntry file.path && !overwrite do
    Work.makeParent .folder file.path
    Work.change (.file file.path) (·.write file.path file.content.toBytes)
    Work.log .info ("Created ".toList ++ file.path)

/-- Makes the files of a new site whose configuration file is at a path. -/
def scaffold (settings : Path) (overwrite : Bool) : Work ScaffoldError Unit := do
  if (← Work.disk).hasEntry starterDocs && !overwrite then
    Work.log .warn (starterDocs ++ " already exists. Use --yes to overwrite.".toList)
  else
    (starterFiles settings).forM (·.place overwrite)

end DocSite.Site
