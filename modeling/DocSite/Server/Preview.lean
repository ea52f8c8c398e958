import DocSite.Server.Folder
import DocSite.Site.Work

/-!
# Previewing a built site

A site that has been built can be looked at before it is put anywhere. The preview serves the files of the
site as they are, and its page for addresses at which there is nothing.
-/

namespace DocSite.Server

open Files Site

/-! ## §1 Answers -/

/-- Answers any request with one file, as a page that was not found. -/
def serveMissing (disk : Disk) (path : Path) (changed : Nat) (request : Request) : Response :=
  match disk.read path with
  | .ok content => { serveFile path content changed request with status := 404 }
  | .error _ => { status := 404 }

/-- The answer of the preview of a folder whose files were last changed at some time. -/
def preview (disk : Disk) (folder : Path) (changed : Nat) (request : Request) : Response :=
  (serveFolder disk folder changed request
    (serveMissing disk (folder.join "404.html".toList) changed request)).fitTo request

/-! ## §2 Starting -/

/-- Why a preview cannot be started. -/
inductive PreviewError where
  /-- There is nothing to be looked at. -/
  | nothingThere (folder : Path)
  /-- Another server listens at the address. -/
  | occupied (address : Text)
  deriving DecidableEq, Repr

/-- The wording of the error. -/
def PreviewError.message : PreviewError → Text
  | .nothingThere folder =>
    "Directory not found: ".toList ++ folder ++ ". Run 'quire build' first.".toList
  | .occupied address => "Failed to bind to ".toList ++ address

/-- Starts the preview of a folder. `taken` tells whether another server listens at the port. -/
def startPreview (folder : Path) (port : Nat) (taken : Bool) : Work PreviewError Unit := do
  unless (← Work.disk).hasEntry folder do throw (.nothingThere folder)
  let address := "127.0.0.1:".toList ++ Text.ofNat port
  Work.log .info ("Serving ".toList ++ folder ++ " at http://".toList ++ address)
  if taken then throw (.occupied address)

end DocSite.Server
