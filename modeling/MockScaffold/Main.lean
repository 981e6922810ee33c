import MockScaffold.CommandLine.Run

/-!
Copies the files that a command looks at into a tree, carries out the command on
it, prints what it says and writes the files that it changed.
-/

namespace MockScaffold.Program
open CommandLine

/-- The names along which a path leads from a directory, as far as each of its pieces. -/
def trail (start : List String) (p : Path) : List (List String) :=
  p.pieces.foldl
    (fun passed piece =>
      let here := passed.getLast?.getD start
      if piece = "" ∨ piece = "." then passed
      else if piece = ".." then passed ++ [here.dropLast]
      else passed ++ [here ++ [piece]])
    [if p.absolute then [] else start]

/-- A file or a directory. Of a directory that is copied as a whole, metadata files are kept. -/
partial def copy (whole : Bool) (path : String) : IO (Option FileTree) := do
  let here := (← IO.currentDir) / path
  if ← here.isDir then
    if whole then
      let children ← (← here.readDir).toList.filterMapM fun entry => do
        let below := here / entry.fileName
        if isMetadataName entry.fileName || (← below.isDir) then
          return (← copy true (path ++ "/" ++ entry.fileName)).map (entry.fileName, ·)
        else return none
      return some (.directory children)
    else return some (.directory [])
  else if ← here.pathExists then
    try return some (.file (← IO.FS.readBinFile here))
    catch _ => return none
  else return none

/-- Copies what stands at the end of names into a tree. -/
def copyInto (whole : Bool) (tree : FileTree) (names : List String) : IO FileTree := do
  match ← copy whole (Path.ofNames names).text with
  | some leaf => return FileTree.graft leaf names tree
  | none => return tree

/-- Copies a place, the directories above it and the configurations in all of these. -/
def copyPlace (tree : FileTree) (names : List String) : IO FileTree := do
  let places := (List.range (names.length + 1)).map fun n => names.take n
  places.foldlM
    (fun tree place => do
      let tree ← copyInto false tree place
      (Configuration.fileNames.map fun name => place ++ [name]).foldlM (copyInto false) tree)
    tree

/-- The files that a command looks at, seen from a directory. -/
def copyFor (start : List String) (command : Command) : IO FileTree := do
  let tree ← copyPlace (.directory []) start
  command.footprint.foldlM
    (fun tree (p, whole) => do
      let passed := trail start p
      let tree ← passed.foldlM copyPlace tree
      match passed.getLast? with
      | some place => if whole then copyInto true tree place else return tree
      | none => return tree)
    tree

/-- Carries out a command and says with which code to end. Nothing is printed before all is
written. -/
def carryOut (command : Command) : IO UInt32 := do
  let start := (Path.ofText (← IO.currentDir).toString).pieces
  let fs : FileSystem := ⟨← copyFor start command, start⟩
  let outcome := command.run fs
  (fs.root.changes outcome.files.root).forM fun (names, contents) =>
    IO.FS.writeBinFile (Path.ofNames names).text contents
  outcome.reports.forM fun line => IO.eprintln line
  IO.print outcome.output
  match outcome.failure? with
  | none => return 0
  | some text =>
    IO.eprintln text
    return 1

end MockScaffold.Program

open MockScaffold MockScaffold.CommandLine in
/-- Reads the command off the arguments and carries it out. -/
def main (arguments : List String) : IO UInt32 := do
  match Command.ofArguments arguments with
  | .ok command => Program.carryOut command
  | .error .helpWanted =>
    IO.println UsageError.helpWanted.message
    return 0
  | .error .versionWanted =>
    IO.println UsageError.versionWanted.message
    return 0
  | .error e =>
    IO.eprintln e.message
    return 2
