import DocSite.Command.Spec

/-!
# Help

What the program says about itself and its commands.
-/

namespace DocSite.Command

/-- What help can be asked for. -/
inductive Topic where
  /-- The whole program. -/
  | program
  | verb (verb : Verb)
  /-- The command that prints help. -/
  | help
  deriving DecidableEq, Repr

/-- What the help command does. -/
def helpAbout : Text := "Print this message or the help of the given subcommand(s)".toList

/-- Rows of two columns, indented by two spaces; the second column begins two spaces behind the longest
entry of the first. -/
def columns (rows : List (Text × Text)) : List Text :=
  let width := rows.foldl (fun width row => max width row.1.length) 0
  rows.map fun (left, right) =>
    "  ".toList ++ left ++ List.replicate (width - left.length + 2) ' ' ++ right

/-- The row of an option. -/
def OptionSpec.row (spec : OptionSpec) : Text × Text :=
  let short := match spec.short with
    | some c => ['-', c, ',', ' ']
    | none => "    ".toList
  let standard := match spec.value.bind (·.shown) with
    | some shown => " [default: ".toList ++ shown ++ [']']
    | none => []
  (short ++ spec.label, spec.about ++ standard)

/-- A help text without its last line break, line by line. -/
def helpLines : Topic → List Text
  | .program =>
    ["Docs and blog site generator with custom Markdown tags".toList, [],
      "Usage: ".toList ++ programName ++ " [OPTIONS] <COMMAND>".toList, [], "Commands:".toList] ++
    columns (Verb.all.map (fun verb => (verb.name, verb.about)) ++ [("help".toList, helpAbout)]) ++
    [[], "Options:".toList] ++ columns (programOptions.map OptionSpec.row)
  | .verb verb =>
    [verb.about, [],
      "Usage: ".toList ++ programName ++ ' ' :: verb.name ++ " [OPTIONS]".toList, [],
      "Options:".toList] ++ columns (verb.options.map OptionSpec.row)
  | .help =>
    [helpAbout, [], "Usage: ".toList ++ programName ++ " help [COMMAND]...".toList, [],
      "Arguments:".toList] ++
    columns [("[COMMAND]...".toList, "Print help for the subcommand(s)".toList)]

end DocSite.Command
