import DocSite.Text.Basic

/-!
# Commands and their options

What the program can be asked to do, and the options that each command takes. The reader of arguments
and the help are both made from these tables.
-/

namespace DocSite.Command

/-- The name of the program. -/
def programName : Text := "quire".toList

/-- The version of the program. -/
def programVersion : Text := "0.1.0".toList

/-! ## §1 Options -/

/-- The values that an option takes. -/
inductive ValueKind where
  | path
  /-- A number from 0 to 65535. -/
  | port
  deriving DecidableEq, Repr

/-- A value of an option: its kind, its name in the help, and what the help says of its default. -/
structure ValueSpec where
  kind : ValueKind
  name : Text
  shown : Option Text := none
  deriving DecidableEq, Repr

/-- What an option is for. -/
inductive OptionUse where
  /-- The option sets something. -/
  | setting
  | help
  | version
  deriving DecidableEq, Repr

/-- An option of a command. -/
structure OptionSpec where
  long : Text
  short : Option Char := none
  about : Text
  value : Option ValueSpec := none
  use : OptionUse := .setting
  deriving DecidableEq, Repr

/-- The option as messages name it. -/
def OptionSpec.label (spec : OptionSpec) : Text :=
  "--".toList ++ spec.long ++
    match spec.value with
    | none => []
    | some value => " <".toList ++ value.name ++ ['>']

/-! ## §2 Commands -/

/-- The commands. -/
inductive Verb where
  | init | dev | build | serve
  deriving DecidableEq, Repr

namespace Verb

/-- All commands, in the order of the help. -/
def all : List Verb := [.init, .dev, .build, .serve]

/-- The name of a command. -/
def name : Verb → Text
  | .init => "init".toList
  | .dev => "dev".toList
  | .build => "build".toList
  | .serve => "serve".toList

/-- What a command does. -/
def about : Verb → Text
  | .init => "Scaffold a config file, starter docs and a blog dataset".toList
  | .dev => "Start development server with live reload".toList
  | .build => "Build static site".toList
  | .serve => "Preview the built site".toList

/-- The command with a name. -/
def ofName? (name : Text) : Option Verb := all.find? (·.name = name)

end Verb

/-- An option without value. -/
def flag (long : String) (short : Option Char) (about : String) : OptionSpec :=
  { long := long.toList, short, about := about.toList }

/-- The option for the configuration file. -/
def configOption : OptionSpec where
  long := "config".toList
  short := some 'c'
  about := "Path to quire.toml config file".toList
  value := some ⟨.path, "CONFIG".toList, some "quire.toml".toList⟩

/-- The option for a port. -/
def portOption (standard : Nat) : OptionSpec where
  long := "port".toList
  short := some 'p'
  about := "Port to listen on".toList
  value := some ⟨.port, "PORT".toList, some (Text.ofNat standard)⟩

/-- The options that every command takes. -/
def sharedOptions : List OptionSpec :=
  [configOption, flag "verbose" (some 'v') "Enable verbose output",
    { flag "help" (some 'h') "Print help" with use := .help }]

/-- The options before the command. -/
def programOptions : List OptionSpec :=
  sharedOptions ++ [{ flag "version" (some 'V') "Print version" with use := .version }]

/-- The port of the development server unless another is asked for. -/
def standardDevPort : Nat := 3000

/-- The port of the preview unless another is asked for. -/
def standardServePort : Nat := 4000

/-- The options that a command takes. -/
def Verb.options : Verb → List OptionSpec
  | .init => flag "yes" (some 'y') "Overwrite existing files" :: sharedOptions
  | .dev =>
    portOption standardDevPort :: flag "no-open" none "Do not open browser" :: sharedOptions
  | .build =>
    { long := "output".toList, short := some 'o', value := some ⟨.path, "OUTPUT".toList, none⟩
      about := "Output directory (defaults to config or \"dist\")".toList } ::
      flag "no-minify" none "Skip minification" :: sharedOptions
  | .serve =>
    portOption standardServePort ::
      { long := "dir".toList, short := some 'd', about := "Directory to serve".toList
        value := some ⟨.path, "DIR".toList, some "dist".toList⟩ } :: sharedOptions

end DocSite.Command
