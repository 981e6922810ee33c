import MockScaffold.Configuration.Basic
import MockScaffold.Text.Plain

/-!
How arguments spell a command. The first names the command; those behind it are
its options and its one plain argument, in any order. An option is written with
two dashes and its name or with one dash and its letter. A value follows the
name behind `=` or as the next argument, and the letter also directly. Behind
`--` every argument is plain. The first fault met is reported; a value that
stands in an argument of its own is looked at when the argument after it is
taken, or at the end.
-/

namespace MockScaffold.CommandLine

/-- What the program is asked to do. -/
inductive Command where
  /-- Show how a signature is understood, perhaps as a tree. -/
  | parseType (signature : String) (tree : Bool)
  /-- Scaffold tests for what a path stands for. -/
  | scaffold (path : String) (mocker : Option Mocker) (config : Option String)
  /-- Write a default configuration, perhaps over one that is there. -/
  | init (directory : Option String) (force : Bool)
  deriving DecidableEq, Repr

/-- Why arguments spell no command. -/
inductive UsageError where
  /-- Nothing was asked for. -/
  | nothingGiven
  | helpWanted
  | versionWanted
  | unknownCommand (given : String)
  | unknownArgument (given : String)
  /-- An option was given twice. -/
  | repeated (option : String)
  /-- An option that needs a value has none. -/
  | valueMissing (option : String)
  /-- An option that takes no value has one. -/
  | valueUnwanted (option : String)
  | valueInvalid (option : String) (value : String) (reason : DecodeError)
  /-- The plain argument is missing. -/
  | argumentMissing (name : String)

/-- The words for a fault, with the way to help behind it. -/
def faultWords (words : String) : String :=
  "error: " ++ words ++ "\n\nFor more information, try '" ++ Text.emphasised "--help" ++ "'."

open Text (emphasised) in
/-- The words for arguments that spell no command, as a terminal takes them. -/
def UsageError.words : UsageError → String
  | .nothingGiven | .helpWanted =>
    "usage: parse-type [--tree] SIGNATURE\n" ++
    "       scaffold [--mocker MOCKER] [--config FILE] PATH\n" ++
    "       init [--cwd DIRECTORY] [--force]"
  | .versionWanted => "0.1.0"
  | .unknownCommand given => faultWords ("unrecognized subcommand '" ++ emphasised given ++ "'")
  | .unknownArgument given => faultWords ("unexpected argument '" ++ emphasised given ++ "' found")
  | .repeated option =>
    faultWords ("the argument '" ++ emphasised option ++ "' cannot be used multiple times")
  | .valueMissing option =>
    faultWords ("a value is required for '" ++ emphasised option ++ "' but none was supplied")
  | .valueUnwanted option => faultWords ("no value is expected for '" ++ emphasised option ++ "'")
  | .valueInvalid option value reason =>
    faultWords ("invalid value '" ++ emphasised value ++ "' for '" ++ emphasised option ++ "': " ++
      reason.message)
  | .argumentMissing name =>
    faultWords ("the argument " ++ emphasised ("<" ++ name ++ ">") ++ " was not provided")

/-- What is said of arguments that spell no command: the words alone, without what a terminal would
act on. -/
def UsageError.message (e : UsageError) : String := Text.plain e.words

/-- What an option stands for. -/
inductive OptionKind where
  | help
  | tree
  | mocker
  | config
  | workingDirectory
  | force
  deriving DecidableEq, Repr

/-- An option of a command. -/
structure OptionSpec where
  kind : OptionKind
  name : String
  letter : Option Char
  takesValue : Bool
  deriving DecidableEq, Repr

def OptionSpec.shown (o : OptionSpec) : String :=
  "--" ++ o.name ++ (if o.takesValue then " <" ++ o.name.toUpper ++ ">" else "")

/-- What the arguments of a command may be. -/
structure CommandSpec where
  /-- The names of the command. -/
  names : List String
  /-- The name of the plain argument, if there is one; it must be given. -/
  plain : Option String
  options : List OptionSpec

/-- Every command has help. -/
def helpOption : OptionSpec := ⟨.help, "help", some 'h', false⟩

def parseTypeSpec : CommandSpec :=
  ⟨["parse-type", "p"], some "SIGNATURE", [⟨.tree, "tree", some 't', false⟩, helpOption]⟩

def scaffoldSpec : CommandSpec :=
  ⟨["scaffold", "s"], some "PATH",
    [⟨.mocker, "mocker", some 'm', true⟩, ⟨.config, "config", some 'c', true⟩, helpOption]⟩

def initSpec : CommandSpec :=
  ⟨["init"], none,
    [⟨.workingDirectory, "cwd", none, true⟩, ⟨.force, "force", some 'f', false⟩, helpOption]⟩

/-! ## Taking arguments -/

/-- What the arguments so far have set. -/
structure Progress where
  plain : Option String := none
  /-- The options taken, each with its value. -/
  options : List (OptionKind × String) := []
  /-- The last option, whose value has not been looked at yet or is still to come. -/
  pending : Option (OptionSpec × Option String) := none
  /-- Whether `--` has been read. -/
  literal : Bool := false

namespace Progress

/-- The value of an option that was taken. -/
def value? (progress : Progress) (kind : OptionKind) : Option String :=
  (progress.options.find? fun (other, _) => other = kind).map (·.2)

def has (progress : Progress) (kind : OptionKind) : Bool := (progress.value? kind).isSome

/-- Takes an option with its value. -/
def accept (progress : Progress) (o : OptionSpec) (value : String) :
    Except UsageError Progress := do
  if o.kind = .help then throw .helpWanted
  if progress.has o.kind then throw (.repeated o.shown)
  if o.kind = .mocker ∧ (Mocker.ofName? value).isNone then
    throw (.valueInvalid o.shown value (.unknownName value (Mocker.all.map Mocker.name)))
  return { progress with options := progress.options ++ [(o.kind, value)] }

/-- Takes the option that is pending. -/
def settle (progress : Progress) : Except UsageError Progress :=
  match progress.pending with
  | none => .ok progress
  | some (o, none) => .error (.valueMissing o.shown)
  | some (o, some value) => { progress with pending := none }.accept o value

/-- Takes an option and its value, behind what is pending. -/
def takeOption (progress : Progress) (o : OptionSpec) (value : String) :
    Except UsageError Progress := do
  (← progress.settle).accept o value

/-- Waits for the value of an option, behind what is pending. -/
def await (progress : Progress) (o : OptionSpec) : Except UsageError Progress := do
  return { ← progress.settle with pending := some (o, none) }

/-- Takes a plain argument. -/
def takePlain (spec : CommandSpec) (progress : Progress) (text : String) :
    Except UsageError Progress := do
  if spec.plain.isNone ∨ progress.plain.isSome then throw (.unknownArgument text)
  return { ← progress.settle with plain := some text }

/-- Takes an option written with its name, and its value if one stands behind `=`. -/
def takeNamed (spec : CommandSpec) (progress : Progress) (name : String) (value : Option String) :
    Except UsageError Progress :=
  match spec.options.find? (·.name = name), value with
  | none, _ => .error (.unknownArgument ("--" ++ name))
  | some o, none => if o.takesValue then progress.await o else progress.takeOption o ""
  | some o, some value =>
    if o.takesValue then progress.takeOption o value else .error (.valueUnwanted o.shown)

/-- Takes options written with their letters. The first that needs a value takes what is left. -/
def takeLetters (spec : CommandSpec) (progress : Progress) : List Char → Except UsageError Progress
  | [] => .ok progress
  | letter :: rest =>
    match spec.options.find? (·.letter = some letter) with
    | none => .error (.unknownArgument (String.ofList ['-', letter]))
    | some o =>
      if o.takesValue then
        match rest with
        | [] => progress.await o
        | '=' :: value | value => progress.takeOption o (String.ofList value)
      else do
        takeLetters spec (← progress.takeOption o "") rest

/-- Takes the next argument. -/
def take (spec : CommandSpec) (progress : Progress) (argument : String) :
    Except UsageError Progress :=
  if progress.literal then progress.takePlain spec argument
  else
    match argument.toList with
    | ['-', '-'] => .ok { progress with literal := true }
    | '-' :: '-' :: rest =>
      let (name, behind) := rest.span (· ≠ '=')
      progress.takeNamed spec (String.ofList name)
        (match behind with
          | [] => none
          | _ :: value => some (String.ofList value))
    | '-' :: letter :: rest => progress.takeLetters spec (letter :: rest)
    | _ =>
      match progress.pending with
      | some (o, none) => .ok { progress with pending := some (o, some argument) }
      | _ => progress.takePlain spec argument

end Progress

/-- What all arguments of a command set. -/
def CommandSpec.read (spec : CommandSpec) (arguments : List String) :
    Except UsageError Progress := do
  let progress ← (← arguments.foldlM (Progress.take spec) {}).settle
  match spec.plain with
  | some name => if progress.plain.isNone then throw (.argumentMissing name)
  | none => pure ()
  return progress

/-- The commands, each with how it is read off its arguments. -/
def commands : List (CommandSpec × (Progress → Command)) :=
  [(parseTypeSpec, fun p => .parseType (p.plain.getD "") (p.has .tree)),
   (scaffoldSpec, fun p =>
     .scaffold (p.plain.getD "") ((p.value? .mocker).bind Mocker.ofName?) (p.value? .config)),
   (initSpec, fun p => .init (p.value? .workingDirectory) (p.has .force))]

def command? (name : String) : Option (CommandSpec × (Progress → Command)) :=
  commands.find? fun (spec, _) => name ∈ spec.names

/-- The name under which help is asked for as a command. -/
def helpName : String := "help"

/-- What the arguments behind `help` come to: help for a command, or for help itself. -/
def helpFor : List String → UsageError
  | [] => .helpWanted
  | [name] => if (command? name).isSome ∨ name = helpName then .helpWanted else .unknownCommand name
  | name :: other :: _ =>
    if (command? name).isSome ∨ name = helpName then .unknownCommand other else .unknownCommand name

/-- What an option in the place of the command comes to. -/
def optionInFront : List Char → UsageError
  | '-' :: '-' :: rest =>
    let (name, behind) := rest.span (· ≠ '=')
    let name := String.ofList name
    if name ∈ ["help", "version"] then
      if behind ≠ [] then .valueUnwanted ("--" ++ name)
      else if name = "help" then .helpWanted
      else .versionWanted
    else .unknownArgument ("--" ++ name)
  | '-' :: 'h' :: _ => .helpWanted
  | '-' :: 'V' :: _ => .versionWanted
  | given => .unknownArgument (String.ofList given)

/-- The command that arguments spell. -/
def Command.ofArguments : List String → Except UsageError Command
  | [] | ["--"] => .error .nothingGiven
  | "--" :: name :: _ =>
    if (command? name).isSome ∨ name = helpName then .error (.unknownArgument name)
    else .error (.unknownCommand name)
  | name :: arguments =>
    match command? name with
    | some (spec, command) => (spec.read arguments).map command
    | none =>
      if name = helpName then .error (helpFor arguments)
      else
        match name.toList with
        | '-' :: letter :: rest => .error (optionInFront ('-' :: letter :: rest))
        | _ => .error (.unknownCommand name)

end MockScaffold.CommandLine
