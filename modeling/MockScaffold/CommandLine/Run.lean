import MockScaffold.CommandLine.Arguments
import MockScaffold.Metadata.Collection
import MockScaffold.Metadata.Loading
import MockScaffold.Scaffold.Generation
import MockScaffold.TypeExpr.Printer

/-!
What each command prints and changes, as a function of the file system that it
finds. A file that does not load is reported and left out; it stops no other
file. The path of a report is a text, so a report can always be printed.
-/

namespace MockScaffold.CommandLine

/-- What a command leaves behind. -/
structure Outcome where
  /-- What it prints. -/
  output : String := ""
  /-- What it reports on the way, line by line. -/
  reports : List String := []
  /-- Why it failed, the outermost reason first; nothing if it succeeded. -/
  causes : List String := []
  files : FileSystem

def Outcome.ok (outcome : Outcome) : Bool := outcome.causes.isEmpty

/-- What is said of a command that failed: the outermost reason, and those behind it. -/
def Outcome.failure? (outcome : Outcome) : Option String :=
  match outcome.causes with
  | [] => none
  | [cause] => some ("Error: " ++ cause)
  | cause :: deeper =>
    some ("Error: " ++ cause ++ "\n\nCaused by:" ++ String.join (deeper.map ("\n    " ++ ·)))

/-- Lines, each with its end. -/
def lines (texts : List String) : String := String.join (texts.map (· ++ "\n"))

/-- How a type is understood: as a tree, or in both spellings. -/
def describe (signature : String) (tree : Bool) (t : TypeExpr) : List String :=
  if tree then t.treeLines
  else
    ["🔍 Parsing: " ++ signature,
     "   Nullable:     " ++ t.text,
     "   Non-nullable: " ++ t.plainText]

/-- Shows how a signature is understood. -/
def runParseType (fs : FileSystem) (signature : String) (tree : Bool) : Outcome :=
  match TypeExpr.parse signature with
  | .ok t => { output := lines (describe signature tree t), files := fs }
  | .error e => { causes := [e.message], files := fs }

/-- Why a metadata file was left out. -/
inductive FileError where
  | unreadable (reason : ReadError)
  | invalid (reason : LoadError)

/-- What is said of a metadata file that was left out, without the place of a fault of its text. -/
def FileError.message (p : Path) : FileError → String
  | .unreadable reason => "Failed to read " ++ p.text ++ ": " ++ reason.message
  | .invalid reason =>
    "Invalid metadata in " ++ p.text ++ ": " ++ reason.message ++ ": " ++ reason.reason

/-- What was made of one metadata file. -/
structure FileReport where
  path : Path
  scaffold : FileScaffold
  skipped : List SkippedEntry

/-- The value that states a report; what was skipped is left out if nothing was. -/
def FileReport.toJson (report : FileReport) : Json :=
  .object <|
    ("path", .string report.path.text) :: report.scaffold.members ++
    (if report.skipped.isEmpty then []
     else [("skipped", .array (report.skipped.map (·.toJson)))])

/-- Scaffolds the tests for one metadata file. -/
def scaffoldPath (fs : FileSystem) (config : Configuration) (p : Path) :
    Except FileError FileReport :=
  match fs.readText p with
  | .error reason => .error (.unreadable reason)
  | .ok text =>
    match SourceFile.loadText text with
    | .error reason => .error (.invalid reason)
    | .ok loaded => .ok ⟨p, scaffoldFile config .kotlin loaded.file, loaded.skipped⟩

/-- What is reported of a metadata file: each entry that was skipped, or why the file was. -/
def fileReports (p : Path) : Except FileError FileReport → List String
  | .ok report =>
    report.skipped.map fun skipped =>
      "⚠️  " ++ p.text ++ ": skipped " ++ skipped.entry ++ ": " ++ skipped.reason.message
  | .error e => ["❌ " ++ p.text ++ ": " ++ e.message p]

/-- Where the search for a configuration starts: at a directory itself, and for a file in the
directory that its path names. -/
def searchStart (fs : FileSystem) (p : Path) : Path :=
  let start := if fs.isDirectory p then p else p.parent?.getD p
  (fs.resolve? start).getD start

/-- The configuration for a path: that of a given file, or the one that counts there. -/
def configurationFor (fs : FileSystem) (p : Path) :
    Option String → Except (List String) Configuration
  | some file =>
    match Configuration.loadFile fs (.ofText file) with
    | .ok config => .ok config
    | .error e => .error ["Failed to load config from " ++ file, e.message]
  | none =>
    match Configuration.discover fs (searchStart fs p) with
    | .ok config => .ok config
    | .error e => .error [e.message]

/-- A configuration for another framework, if one is given. -/
def withMocker (mocker : Option Mocker) (config : Configuration) : Configuration :=
  { config with mocker := mocker.getD config.mocker }

/-- Scaffolds the tests for metadata files. -/
def scaffoldAll (fs : FileSystem) (config : Configuration) (paths : List Path) : Outcome :=
  let outcomes := paths.map fun p => (p, scaffoldPath fs config p)
  let reports := outcomes.flatMap fun (p, outcome) => fileReports p outcome
  let made := outcomes.filterMap fun (_, outcome) => outcome.toOption
  if made.isEmpty then
    { reports, causes := ["All " ++ toString paths.length ++ " metadata file(s) failed"],
      files := fs }
  else { output := lines [(Json.array (made.map (·.toJson))).pretty], reports, files := fs }

/-- Scaffolds the tests for what a path stands for. -/
def runScaffold (fs : FileSystem) (path : String) (mocker : Option Mocker)
    (file : Option String) : Outcome :=
  let p := Path.ofText path
  if !fs.exists? p then { causes := ["Path not found: " ++ path], files := fs }
  else
    match configurationFor fs p file with
    | .error causes => { causes, files := fs }
    | .ok config =>
      match metadataFiles fs p with
      | [] => { causes := ["No metadata files found in " ++ path], files := fs }
      | paths => scaffoldAll fs (withMocker mocker config) paths

/-- The directory that a configuration is written to, free of dots. -/
def configurationDirectory? (fs : FileSystem) : Option String → Option Path
  | none => some (.ofNames fs.workingDirectory)
  | some directory => fs.resolve? (.ofText directory)

/-- Writes the default configuration into a directory, unless there is one and it is to be kept. -/
def runInit (fs : FileSystem) (directory : Option String) (force : Bool) : Outcome :=
  match configurationDirectory? fs directory with
  | none => { causes := ["Failed to canonicalize project root"], files := fs }
  | some parent =>
    let p := parent.join Configuration.mainFileName
    if fs.exists? p && !force then
      { output := lines
          ["❌ Config already exists at: " ++ p.text, "   Use --force to overwrite"],
        files := fs }
    else
      match Configuration.defaults.saveFile? fs p with
      | none => { causes := ["Failed to write config to " ++ p.text, "IO error"], files := fs }
      | some files => { output := lines ["✅ Created config: " ++ p.text], files }

/-- The paths that a command looks at, each with whether it looks at what is below, too. -/
def Command.footprint : Command → List (Path × Bool)
  | .parseType _ _ => []
  | .scaffold path _ config =>
    (.ofText path, true) :: (config.map fun file => (Path.ofText file, false)).toList
  | .init directory _ => (directory.map fun text => (Path.ofText text, false)).toList

/-- Carries out a command. -/
def Command.run (fs : FileSystem) : Command → Outcome
  | .parseType signature tree => runParseType fs signature tree
  | .scaffold path mocker config => runScaffold fs path mocker config
  | .init directory force => runInit fs directory force

end MockScaffold.CommandLine
