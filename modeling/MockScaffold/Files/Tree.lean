import MockScaffold.Files.Path
import MockScaffold.Keyed

/-!
Files and directories as a tree, without links, and how paths lead through it
from a working directory. Names are texts: an entry whose name is not UTF-8 is
left out of the tree, and so are the cases in which a file of such a name is
collected or cannot be printed in a report.
-/

namespace MockScaffold

/-- A file, or a directory with its entries in any order. -/
inductive FileTree where
  | file (contents : ByteArray)
  | directory (entries : List (String × FileTree))

namespace FileTree

/-- The entry of a directory with a name. -/
def child? : FileTree → String → Option FileTree
  | .file _, _ => none
  | .directory entries, name => Keyed.lookup? name entries

/-- What names lead to, from directory to entry. -/
def find? (tree : FileTree) : List String → Option FileTree
  | [] => some tree
  | name :: names => (tree.child? name).bind (·.find? names)

def isDirectory : FileTree → Bool
  | .directory _ => true
  | .file _ => false

mutual

/-- The names that lead to the files of a tree. -/
def files : FileTree → List (List String)
  | .file _ => [[]]
  | .directory entries => filesOf entries

def filesOf : List (String × FileTree) → List (List String)
  | [] => []
  | (name, tree) :: entries => (files tree).map (name :: ·) ++ filesOf entries

end

/-- What stands at the end of names once a file was written there. Directories are neither made nor
replaced. -/
def write? (contents : ByteArray) : List String → Option FileTree → Option FileTree
  | [], some (.directory _) => none
  | [], _ => some (.file contents)
  | name :: names, some (.directory entries) =>
    (write? contents names (Keyed.lookup? name entries)).map fun tree =>
      .directory (Keyed.put name tree entries)
  | _ :: _, _ => none

/-- The tree with another tree at the end of names. Directories are made on the way, in place of
files if need be; an empty directory leaves a directory that is there as it is. -/
def graft (leaf : FileTree) : List String → FileTree → FileTree
  | [], tree =>
    match leaf, tree with
    | .directory [], .directory entries => .directory entries
    | leaf, _ => leaf
  | name :: names, tree =>
    let entries := match tree with
      | .directory entries => entries
      | .file _ => []
    let child := (Keyed.lookup? name entries).getD (.directory [])
    .directory (Keyed.put name (graft leaf names child) entries)

/-- The contents of the file at the end of names. -/
def contents? (tree : FileTree) (names : List String) : Option ByteArray :=
  match tree.find? names with
  | some (.file contents) => some contents
  | _ => none

/-- The files of a tree that another tree does not have with the same contents. -/
def changes (before after : FileTree) : List (List String × ByteArray) :=
  after.files.filterMap fun names =>
    (after.contents? names).bind fun contents =>
      if (before.contents? names).any (·.data = contents.data) then none
      else some (names, contents)

end FileTree

/-- A tree and the directory in it that relative paths start from. -/
structure FileSystem where
  root : FileTree
  /-- The names that lead from the root to the working directory. -/
  workingDirectory : List String

/-- Why a file could not be read as text. -/
inductive ReadError where
  | missing
  | nameTooLong
  | isDirectory
  | notText
  deriving DecidableEq, Repr

def ReadError.message : ReadError → String
  | .missing => "No such file or directory (os error 2)"
  | .nameTooLong => "File name too long (os error 36)"
  | .isDirectory => "Is a directory (os error 21)"
  | .notText => "stream did not contain valid UTF-8"

namespace FileSystem

/-- Follows pieces of a path from where names lead. Each piece must stand behind a directory. -/
def follow (root : FileTree) (here : List String) : List String → Option (List String)
  | [] => some here
  | piece :: pieces =>
    match root.find? here with
    | some (.directory entries) =>
      if piece = "" ∨ piece = "." then follow root here pieces
      else if piece = ".." then follow root here.dropLast pieces
      else if (Keyed.lookup? piece entries).isSome then follow root (here ++ [piece]) pieces
      else none
    | _ => none

/-- The names that lead from the root to what a path leads to, if that exists. -/
def locate? (fs : FileSystem) (p : Path) : Option (List String) :=
  if p.isEmpty then none
  else follow fs.root (if p.absolute then [] else fs.workingDirectory) p.pieces

/-- What a path leads to, if it is short enough. -/
def get? (fs : FileSystem) (p : Path) : Option FileTree :=
  if p.fits then (fs.locate? p).bind fs.root.find? else none

def exists? (fs : FileSystem) (p : Path) : Bool := (fs.get? p).isSome

def isDirectory (fs : FileSystem) (p : Path) : Bool := (fs.get? p).any (·.isDirectory)

/-- The path from the root to what a path leads to, free of dots. It is found piece by piece, so any
path is short enough. -/
def resolve? (fs : FileSystem) (p : Path) : Option Path := (fs.locate? p).map Path.ofNames

/-- The text of a file. -/
def readText (fs : FileSystem) (p : Path) : Except ReadError String :=
  match fs.get? p with
  | none => .error (if p.fits then .missing else .nameTooLong)
  | some (.directory _) => .error .isDirectory
  | some (.file contents) =>
    match String.fromUTF8? contents with
    | some text => .ok text
    | none => .error .notText

/-- Writes a text into the file that a path names. The file is made if there is none, but its
directory must be there. -/
def writeText? (fs : FileSystem) (p : Path) (text : String) : Option FileSystem := do
  let name ← p.pieces.getLast?
  if p.fits && Path.isFileName name then
    let start := if p.absolute then [] else fs.workingDirectory
    let directory ← follow fs.root start p.pieces.dropLast
    let root ← FileTree.write? text.toUTF8 (directory ++ [name]) fs.root
    return { fs with root }
  else none

end FileSystem
end MockScaffold
