import MockScaffold.Configuration.Basic
import MockScaffold.Files.Tree

/-!
A configuration stands in a file of one of two names. The one that counts is the
nearest: in the directory where the search starts, or else in the first of its
parents that holds one. A file that is found must load; there is no falling back
to one that is farther away.
-/

namespace MockScaffold

/-- Why a configuration file does not load. -/
inductive ConfigError where
  | unreadable (reason : ReadError)
  | invalid (reason : DecodeError)

def ConfigError.message : ConfigError → String
  | .unreadable _ => "IO error"
  | .invalid reason => "Configuration error: Failed to parse config: " ++ reason.message

namespace Configuration

/-- The name under which a configuration is written. -/
def mainFileName : String := ".testit.json"

/-- The names under which a configuration is looked for, the preferred one first. -/
def fileNames : List String := [mainFileName, "testit.json"]

def loadFile (fs : FileSystem) (p : Path) : Except ConfigError Configuration :=
  match fs.readText p with
  | .error reason => .error (.unreadable reason)
  | .ok text =>
    match ofText text with
    | .error reason => .error (.invalid reason)
    | .ok config => .ok config

/-- Writes a configuration into a file. -/
def saveFile? (c : Configuration) (fs : FileSystem) (p : Path) : Option FileSystem :=
  fs.writeText? p c.text

/-- The paths at which a configuration is looked for from a path on, in order: at the path itself
and at each of its parents, under every name. -/
def candidates (start : Path) : List Path :=
  start.chain.flatMap fun directory => fileNames.map directory.join

/-- The path of the configuration that counts. -/
def findFile? (fs : FileSystem) (start : Path) : Option Path :=
  (candidates start).find? fs.exists?

/-- The configuration that counts from a path on, which is the default if there is none. -/
def discover (fs : FileSystem) (start : Path) : Except ConfigError Configuration :=
  match findFile? fs start with
  | none => .ok defaults
  | some p => loadFile fs p

end Configuration
end MockScaffold
