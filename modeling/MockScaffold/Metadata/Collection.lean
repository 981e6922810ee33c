import MockScaffold.Configuration.Discovery

/-!
The metadata files that a path stands for: a file stands for itself, and a
directory for all files below it whose names end in `.json`, configurations
apart, in the order of their names, directory by directory. What is in a
directory whose path is too long is not seen.
-/

namespace MockScaffold

/-- Whether a file of a directory is taken for metadata, by its name. -/
def isMetadataName (name : String) : Bool :=
  Path.extension? name = some "json" && name ∉ Configuration.fileNames

/-- Whether names lead to a file that is taken for metadata. -/
def isMetadataPath (names : List String) : Bool := names.getLast?.any isMetadataName

/-- Names before names: the first that differ decide, by code points. -/
def namesLe : List String → List String → Bool
  | [], _ => true
  | _ :: _, [] => false
  | name :: names, other :: others =>
    if name = other then namesLe names others else name < other

/-- What leads from a directory to the metadata files below it, in order. -/
def metadataBelow (tree : FileTree) : List (List String) :=
  (tree.files.filter isMetadataPath).mergeSort namesLe

/-- Whether the directory of what names lead to from a path can be looked into. -/
def isOpen (p : Path) (names : List String) : Bool := (p.joinAll names.dropLast).fits

/-- The paths of the metadata files that a path stands for. -/
def metadataFiles (fs : FileSystem) (p : Path) : List Path :=
  match fs.get? p with
  | none => []
  | some (.file _) => [p]
  | some (.directory entries) =>
    ((metadataBelow (.directory entries)).filter (isOpen p)).map p.joinAll

end MockScaffold
