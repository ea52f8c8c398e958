import DocSite.Command.Arguments
import DocSite.Server.Development
import DocSite.Server.Preview
import DocSite.Site.Build
import DocSite.Site.Scaffold
import DocSite.Site.Settings

/-!
# Running a command

A run reads the arguments, does what they ask for, and reports. Everything but the help and the complaints
goes to the log. A run that starts a server leaves the server behind.
-/

namespace DocSite.Command

open Files Site

/-! ## §1 Failures and results -/

/-- Why a command fails. -/
inductive CommandError where
  | settings (error : SettingsError)
  | catalog (error : Nav.CatalogError)
  | scaffold (error : ScaffoldError)
  | build (error : BuildError)
  | development (error : Server.ServerError)
  | preview (error : Server.PreviewError)
  deriving DecidableEq, Repr

/-- The wording of the error. -/
def CommandError.message : CommandError → Text
  | .settings error => error.message
  | .catalog _ => Settings.catalogFault
  | .scaffold error => error.message
  | .build error => error.message
  | .development error => error.message
  | .preview error => error.message

/-- What a command that succeeds leaves behind. -/
inductive Result where
  | nothing
  | site (built : Built)
  | development (server : Server.Development)
  /-- A preview of a folder. -/
  | preview (folder : Path)

/-- The last lines of the log. `duration` is the time that the command took, in milliseconds. -/
def Result.lines (duration : Text) : Result → List LogLine
  | .site built =>
    let counts :=
      "Built ".toList ++ Text.ofNat built.pages ++ " docs pages and ".toList ++
        Text.ofNat built.posts ++ " blog posts in ".toList ++ duration ++ "ms".toList
    let skipped :=
      "Skipped ".toList ++ Text.ofNat built.skipped.length ++
        " docs pages without content: ".toList ++ Text.join ", ".toList built.skipped
    ⟨.info, counts⟩ :: (if built.skipped.isEmpty then [] else [⟨.warn, skipped⟩]) ++
      [⟨.info, "Output: ".toList ++ built.output⟩]
  | _ => []

/-! ## §2 Tasks -/

/-- What a command cannot find out from the files. -/
structure Surroundings where
  /-- The ports at which other servers listen. -/
  taken : List Nat := []
  /-- The millisecond at which the command begins. -/
  time : Nat := 0

/-- Loads the settings from a file. -/
def loadSettings (path : Path) : Work CommandError Settings := do
  match Settings.load (← Work.disk) path with
  | .error error => throw (.settings error)
  | .ok settings =>
    if (← Work.disk).hasEntry path then
      Work.log .info ("Loaded config from ".toList ++ path)
    else
      Work.log .debug ("No ".toList ++ path ++ " found, using defaults".toList)
    return settings

/-- Loads the settings and makes the catalog of the docs. -/
def loadSite (path : Path) : Work CommandError (Settings × Nav.Catalog) := do
  let settings ← loadSettings path
  match settings.catalog with
  | .ok catalog => return (settings, catalog)
  | .error error => throw (.catalog error)

/-- The plan of a build. Options count more than settings. -/
def buildPlan (settings : Settings) (disk : Disk) (output : Option Path) (keepWhole : Bool) :
    Plan where
  docs := settings.docs
  posts := some settings.posts
  assets := settings.assetsFolder? disk
  output := output.getD settings.output
  minify := settings.minify && !keepWhole
  url := settings.url
  title := settings.title

/-- The plan of the development server. -/
def developmentPlan (settings : Settings) (disk : Disk) (port : Nat) : Server.DevelopmentPlan where
  docs := settings.docs
  posts := some settings.posts
  assets := settings.assetsFolder? disk
  title := settings.title
  port := port

/-- Does what a command shall do, with the settings at a path. -/
def Task.perform (task : Task) (config : Path) (surroundings : Surroundings) :
    Work CommandError Result :=
  match task with
  | .init overwrite => do
    Work.log .info "Initializing quire...".toList
    Work.blaming .scaffold (scaffold config overwrite)
    Work.log .info "Initialization complete!".toList
    Work.log .info "Run 'quire dev' to start the development server.".toList
    return .nothing
  | .build output keepWhole => do
    Work.log .info "Building static site...".toList
    let (settings, catalog) ← loadSite config
    let plan := buildPlan settings (← Work.disk) output keepWhole
    return .site (← Work.blaming .build (plan.build catalog))
  | .dev port _ => do
    let (settings, catalog) ← loadSite config
    Work.log .info ("Starting development server on port ".toList ++ Text.ofNat port)
    let plan := developmentPlan settings (← Work.disk) port
    return .development (← Work.blaming .development
      (Server.Development.start plan catalog (surroundings.taken.contains port) surroundings.time))
  | .serve port folder => do
    Work.blaming .preview (Server.startPreview folder port (surroundings.taken.contains port))
    return .preview folder

/-! ## §3 Runs -/

/-- What came of a run. -/
inductive Outcome where
  /-- There is no command to run. -/
  | stopped (stop : Stop)
  | failed (error : CommandError) (verbose : Bool)
  | done (result : Result) (verbose : Bool)

/-- Runs the program with arguments on the files of a disk. -/
def run (arguments : List Text) (disk : Disk) (surroundings : Surroundings) : Outcome × World :=
  match readArguments arguments with
  | .error stop => (.stopped stop, { disk })
  | .ok request =>
    match (request.task.perform request.config surroundings).run.run { disk } with
    | (.ok result, world) => (.done result request.verbose, world)
    | (.error error, world) => (.failed error request.verbose, world)

/-! ## §4 Reports -/

/-- What a run shows to who called it. -/
structure Report where
  /-- The exit code: 0 when all is well, 1 when the command failed, and 2 when the arguments make no sense. -/
  exit : Nat
  log : List LogLine := []
  /-- The lines of the output besides the log. -/
  output : List Text := []
  /-- The lines of the complaint. -/
  complaint : List Text := []
  deriving DecidableEq, Repr

/-- The log as far as it is shown. -/
def shownLog (verbose : Bool) (log : List LogLine) : List LogLine :=
  log.filter fun line => verbose || line.level ≠ .debug

/-- The report of a run that took some time, in milliseconds. -/
def Outcome.report (outcome : Outcome) (log : List LogLine) (duration : Text) : Report :=
  match outcome with
  | .stopped (.help topic) => { exit := 0, output := helpLines topic }
  | .stopped .version =>
    { exit := 0, output := [programName ++ ' ' :: programVersion] }
  | .stopped .nothing => { exit := 2, complaint := helpLines .program }
  | .stopped (.fault error) =>
    { exit := 2, complaint := Text.lines ("error: ".toList ++ error.message) }
  | .failed error verbose =>
    { exit := 1, log := shownLog verbose log
      complaint := Text.lines ("Error: ".toList ++ error.message) }
  | .done result verbose =>
    { exit := 0, log := shownLog verbose (log ++ result.lines duration) }

end DocSite.Command
