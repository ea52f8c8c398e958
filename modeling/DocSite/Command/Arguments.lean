import DocSite.Command.Help
import DocSite.Text.Digit

/-!
# Reading arguments

The arguments of the program name a command and set options, before the command or behind it. The reader
stops at the first argument that asks for help or cannot be understood.
-/

namespace DocSite.Command

/-! ## §1 What is asked for -/

/-- Why a number is refused. -/
inductive NumberFault where
  | empty
  | notDigits
  | tooLarge
  | tooSmall
  /-- The number is not the number of a port. -/
  | outOfRange (value : Int)
  deriving DecidableEq, Repr

/-- The wording of the fault. -/
def NumberFault.message : NumberFault → Text
  | .empty => "cannot parse integer from empty string".toList
  | .notDigits => "invalid digit found in string".toList
  | .tooLarge => "number too large to fit in target type".toList
  | .tooSmall => "number too small to fit in target type".toList
  | .outOfRange value => (toString value).toList ++ " is not in 0..=65535".toList

/-- Why arguments are refused. -/
inductive UsageError where
  | missingCommand
  | unknownCommand (name : Text)
  | unexpectedArgument (argument : Text)
  | missingValue (option : OptionSpec)
  | unexpectedValue (value : Text) (option : OptionSpec)
  | invalidNumber (value : Text) (option : OptionSpec) (fault : NumberFault)
  | repeated (option : OptionSpec)
  deriving DecidableEq, Repr

/-- The wording of the error. -/
def UsageError.message : UsageError → Text
  | .missingCommand =>
    '\x27' :: programName ++ "' requires a subcommand but one was not provided".toList
  | .unknownCommand name => "unrecognized subcommand '".toList ++ name ++ ['\x27']
  | .unexpectedArgument argument => "unexpected argument '".toList ++ argument ++ "' found".toList
  | .missingValue option =>
    "a value is required for '".toList ++ option.label ++ "' but none was supplied".toList
  | .unexpectedValue value option =>
    "unexpected value '".toList ++ value ++ "' for '".toList ++ option.label ++
      "' found; no more were expected".toList
  | .invalidNumber value option fault =>
    "invalid value '".toList ++ value ++ "' for '".toList ++ option.label ++ "': ".toList ++
      fault.message
  | .repeated option =>
    "the argument '".toList ++ option.label ++ "' cannot be used multiple times".toList

/-- Why reading stops before there is a command to run. -/
inductive Stop where
  | help (topic : Topic)
  | version
  /-- There are no arguments at all. -/
  | nothing
  | fault (error : UsageError)
  deriving DecidableEq, Repr

/-! ## §2 Values -/

/-- The greatest number that is read at all. -/
def maxNumber : Int := 9223372036854775807

/-- The least number that is read at all. -/
def minNumber : Int := -9223372036854775808

/-- The number that digits with a sign continue. -/
def readDigits (negative : Bool) (value : Int) : Text → Except NumberFault Int
  | [] => .ok value
  | c :: digits =>
    if !c.isDigit then .error .notDigits
    else
      let digit : Int := c.toNat - 48
      let next := value * 10 + (if negative then -digit else digit)
      if maxNumber < next then .error .tooLarge
      else if next < minNumber then .error .tooSmall
      else readDigits negative next digits

/-- The number that a text stands for. -/
def readNumber (text : Text) : Except NumberFault Int :=
  match text with
  | [] => .error .empty
  | ['+'] => .error .notDigits
  | ['-'] => .error .notDigits
  | '+' :: digits => readDigits false 0 digits
  | '-' :: digits => readDigits true 0 digits
  | digits => readDigits false 0 digits

/-- The port that a text stands for. -/
def readPort (text : Text) : Except NumberFault Nat :=
  match readNumber text with
  | .error fault => .error fault
  | .ok value => if 0 ≤ value ∧ value ≤ 65535 then .ok value.toNat else .error (.outOfRange value)

/-- What is wrong with the value of an option. -/
def valueFault? (option : OptionSpec) (value : Text) : Option UsageError :=
  match option.value.map ValueSpec.kind with
  | none => none
  | some .path => if value.isEmpty then some (.missingValue option) else none
  | some .port =>
    match readPort value with
    | .ok _ => none
    | .error fault => some (.invalidNumber value option fault)

/-! ## §3 Options -/

/-- What has been read of the options of one command. -/
structure Reader where
  /-- The options that the command takes. -/
  options : List OptionSpec
  topic : Topic
  /-- The options that are set, with their values. -/
  given : List (Text × Text) := []
  /-- An option whose value is an argument of its own, and that value once it is there. -/
  pending : Option (OptionSpec × Option Text) := none

namespace Reader

/-- Sets an option. -/
def set (reader : Reader) (option : OptionSpec) (value : Text) : Except Stop Reader :=
  -- An option may be set once for each command.
  if reader.given.any (·.1 = option.long) then .error (.fault (.repeated option))
  else
    match valueFault? option value with
    | some error => .error (.fault error)
    | none => .ok { reader with given := reader.given ++ [(option.long, value)] }

/-- Settles the option that waits. -/
def settle (reader : Reader) : Except Stop Reader :=
  match reader.pending with
  | none => .ok reader
  | some (option, none) => .error (.fault (.missingValue option))
  | some (option, some value) => { reader with pending := none }.set option value

/-- Whether the next argument is the value of an option unless it looks like an option itself. -/
def awaitsValue (reader : Reader) : Bool :=
  match reader.pending with
  | some (_, none) => true
  | _ => false

/-- Reads an option that has no value. -/
def readFlag (reader : Reader) (option : OptionSpec) : Except Stop Reader := do
  let reader ← reader.settle
  match option.use with
  | .help => throw (.help reader.topic)
  | .version => throw .version
  | .setting => reader.set option []

/-- Reads an option that has a value, which may be part of the argument. -/
def readOption (reader : Reader) (option : OptionSpec) (attached : Option Text) :
    Except Stop Reader := do
  let reader ← reader.settle
  match attached with
  | some value => reader.set option value
  | none => return { reader with pending := some (option, none) }

/-- Reads an option by its long name, behind the two hyphens. -/
def readLong (reader : Reader) (argument : Text) : Except Stop Reader :=
  let (name, attached) := match Text.cut? ['='] argument with
    | some (name, value) => (name, some value)
    | none => (argument, none)
  match reader.options.find? (·.long = name) with
  | none => .error (.fault (.unexpectedArgument ('-' :: '-' :: name)))
  | some option =>
    match option.value, attached with
    | some _, attached => reader.readOption option attached
    | none, none => reader.readFlag option
    | none, some value => .error (.fault (.unexpectedValue value option))

/-- Reads options by their letters, behind the hyphen. An option with a value takes the rest of the
argument. -/
def readShort (reader : Reader) : Text → Except Stop Reader
  | [] => .ok reader
  | c :: letters =>
    match reader.options.find? (·.short = some c) with
    | none => .error (.fault (.unexpectedArgument ['-', c]))
    | some option =>
      -- Letters without values may stand together; the first one with a value ends them.
      match option.value, letters with
      | none, letters => do readShort (← reader.readFlag option) letters
      | some _, [] => reader.readOption option none
      | some _, '=' :: value => reader.readOption option (some value)
      | some _, value => reader.readOption option (some value)

/-- Reads an argument that is no command. `unknown` says what is wrong with one that is no option
either. -/
def step (unknown : Text → UsageError) (reader : Reader) (argument : Text) : Except Stop Reader :=
  let other : Except Stop Reader :=
    match reader.pending with
    | some (option, none) => .ok { reader with pending := some (option, some argument) }
    | _ => .error (.fault (unknown argument))
  match argument with
  | '-' :: '-' :: long => reader.readLong long
  | '-' :: c :: letters => reader.readShort (c :: letters)
  | _ => other

/-- Reads the arguments behind the command. -/
def readAll (reader : Reader) : List Text → Except Stop Reader
  | [] => reader.settle
  | argument :: rest =>
    if argument = ['-', '-'] then
      -- Two hyphens end the options, and no command takes anything else.
      match rest with
      | [] => reader.settle
      | argument :: _ => .error (.fault (.unexpectedArgument argument))
    else
      match reader.step .unexpectedArgument argument with
      | .ok next => next.readAll rest
      | .error stop => .error stop

/-- The value of an option. -/
def value? (reader : Reader) (long : String) : Option Text :=
  (reader.given.find? (·.1 = long.toList)).map (·.2)

/-- Whether an option is set. -/
def has (reader : Reader) (long : String) : Bool := (reader.value? long).isSome

/-- The port that is asked for. -/
def portOr (reader : Reader) (standard : Nat) : Nat :=
  match (reader.value? "port").map readPort with
  | some (.ok port) => port
  | _ => standard

end Reader

/-! ## §4 Requests -/

/-- What a command shall do. -/
inductive Task where
  | init (overwrite : Bool)
  | dev (port : Nat) (openBrowser : Bool)
  | build (output : Option Text) (keepWhole : Bool)
  | serve (port : Nat) (folder : Text)
  deriving DecidableEq, Repr

/-- What the program is asked to do. -/
structure Request where
  task : Task
  /-- The path of the configuration file. -/
  config : Text := "quire.toml".toList
  verbose : Bool := false
  deriving DecidableEq, Repr

/-- The task of a command with its options. -/
def Reader.task (reader : Reader) : Verb → Task
  | .init => .init (reader.has "yes")
  | .dev => .dev (reader.portOr standardDevPort) (!reader.has "no-open")
  | .build => .build (reader.value? "output") (reader.has "no-minify")
  | .serve =>
    .serve (reader.portOr standardServePort) ((reader.value? "dir").getD "dist".toList)

/-- The help that the arguments of the help command ask for. -/
def readHelp : List Text → Stop
  | [] => .help .program
  | name :: rest =>
    match Verb.ofName? name, rest with
    | some verb, [] => .help (.verb verb)
    | some _, other :: _ => .fault (.unknownCommand other)
    | none, rest =>
      if name = "help".toList then
        match rest with
        | [] => .help .help
        | other :: _ => .fault (.unknownCommand other)
      else .fault (.unknownCommand name)

/-- Reads the arguments of a command. An option that is set behind the command counts more than one that
is set before it. -/
def readVerb (before : Reader) (verb : Verb) (arguments : List Text) : Except Stop Request := do
  let reader : Reader := { options := verb.options, topic := .verb verb }
  let behind ← reader.readAll arguments
  -- What is wrong behind the command is told before what is wrong in front of it.
  let before ← before.settle
  return {
    task := behind.task verb
    config :=
      ((behind.value? "config").or (before.value? "config")).getD "quire.toml".toList
    verbose := behind.has "verbose" || before.has "verbose" }

/-- Reads the arguments up to the command, and the command. -/
def readProgram (reader : Reader) : List Text → Except Stop Request
  | [] => do
    let reader ← reader.settle
    throw (if reader.given.isEmpty then .nothing else .fault .missingCommand)
  | argument :: rest =>
    -- The name of a command may also be the value of an option.
    match if reader.awaitsValue then none else Verb.ofName? argument with
    | some verb => readVerb reader verb rest
    | none =>
      if argument = "help".toList && !reader.awaitsValue then .error (readHelp rest)
      else if argument = ['-', '-'] then
        match rest with
        | [] => do
          let reader ← reader.settle
          throw (if reader.given.isEmpty then .nothing else .fault .missingCommand)
        | argument :: _ =>
          .error (.fault
            (if (Verb.ofName? argument).isSome ∨ argument = "help".toList then
              .unexpectedArgument argument
            else .unknownCommand argument))
      else
        match reader.step .unknownCommand argument with
        | .ok next => readProgram next rest
        | .error stop => .error stop

/-- What the program is asked to do, or why it does nothing. -/
def readArguments (arguments : List Text) : Except Stop Request :=
  readProgram { options := programOptions, topic := .program } arguments

end DocSite.Command
