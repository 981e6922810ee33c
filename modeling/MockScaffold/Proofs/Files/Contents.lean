import MockScaffold.Metadata.Collection

/-!
Where paths lead and which files there are is told by the names in a tree alone,
whatever the files contain. So file systems that differ in the contents of one
file are the same to everything that does not read this file.
-/

namespace MockScaffold

namespace FileTree

mutual

/-- The tree with nothing in its files. -/
def emptied : FileTree → FileTree
  | .file _ => .file .empty
  | .directory entries => .directory (emptiedOf entries)

def emptiedOf : List (String × FileTree) → List (String × FileTree)
  | [] => []
  | (name, tree) :: entries => (name, emptied tree) :: emptiedOf entries

end

theorem lookup?_emptiedOf (name : String) (entries : List (String × FileTree)) :
    Keyed.lookup? name (emptiedOf entries) = (Keyed.lookup? name entries).map emptied := by
  induction entries with
  | nil => rw [emptiedOf]; rfl
  | cons entry entries ih =>
    obtain ⟨other, tree⟩ := entry
    rw [emptiedOf, Keyed.lookup?, Keyed.lookup?]
    split
    · rfl
    · exact ih

/-- Emptying files changes nothing on the way to them. -/
theorem find?_emptied (tree : FileTree) (names : List String) :
    tree.emptied.find? names = (tree.find? names).map emptied := by
  induction names generalizing tree with
  | nil => rfl
  | cons name names ih =>
    rw [find?, find?]
    cases tree with
    | file contents => rw [emptied]; rfl
    | directory entries =>
      rw [emptied, child?, child?, lookup?_emptiedOf]
      cases Keyed.lookup? name entries with
      | none => rfl
      | some child => exact ih child

mutual

/-- An emptied tree has the same files. -/
theorem files_emptied : ∀ tree : FileTree, tree.emptied.files = tree.files
  | .file _ => rfl
  | .directory entries => by rw [emptied, files, files, filesOf_emptiedOf entries]

theorem filesOf_emptiedOf : ∀ entries : List (String × FileTree),
    filesOf (emptiedOf entries) = filesOf entries
  | [] => rfl
  | (name, tree) :: entries => by
    rw [emptiedOf, filesOf, filesOf, files_emptied tree, filesOf_emptiedOf entries]

end

/-- Trees that are the same but for what is in their files are two files, or two directories with
files at the same places. -/
theorem emptied_cases {tree tree' : FileTree} (alike : tree'.emptied = tree.emptied) :
    (∃ contents contents', tree = .file contents ∧ tree' = .file contents') ∨
      ∃ entries entries', tree = .directory entries ∧ tree' = .directory entries' ∧
        tree'.files = tree.files := by
  have files : tree'.files = tree.files := by rw [← files_emptied, alike, files_emptied]
  cases tree with
  | file contents =>
    cases tree' with
    | file contents' => exact .inl ⟨contents, contents', rfl, rfl⟩
    | directory entries' => cases alike
  | directory entries =>
    cases tree' with
    | file contents' => cases alike
    | directory entries' => exact .inr ⟨entries, entries', rfl, rfl, files⟩

theorem isDirectory_emptied (tree : FileTree) : tree.emptied.isDirectory = tree.isDirectory := by
  cases tree <;> rfl

end FileTree

namespace FileSystem

/-- Paths are followed without a look into files. -/
theorem follow_emptied (root : FileTree) (here pieces : List String) :
    follow root.emptied here pieces = follow root here pieces := by
  induction pieces generalizing here with
  | nil => rfl
  | cons piece pieces ih =>
    rw [follow, follow, FileTree.find?_emptied]
    cases root.find? here with
    | none => rfl
    | some tree =>
      cases tree with
      | file contents => rfl
      | directory entries =>
        simp only [Option.map_some, FileTree.emptied, FileTree.lookup?_emptiedOf,
          Option.isSome_map, ih]

/-- File systems that differ at most in the contents of the file at one place. -/
structure SameBut (place : List String) (fs fs' : FileSystem) : Prop where
  workingDirectory : fs'.workingDirectory = fs.workingDirectory
  names : fs'.root.emptied = fs.root.emptied
  others : ∀ other, other ≠ place → fs'.root.contents? other = fs.root.contents? other

section
variable {place : List String} {fs fs' : FileSystem} (same : SameBut place fs fs')
include same

theorem SameBut.follow (here pieces : List String) :
    follow fs'.root here pieces = follow fs.root here pieces := by
  rw [← follow_emptied, same.names, follow_emptied]

/-- Every path leads to the same place. -/
theorem SameBut.locate? (p : Path) : fs'.locate? p = fs.locate? p := by
  rw [FileSystem.locate?, FileSystem.locate?, same.workingDirectory]
  simp only [same.follow]

theorem SameBut.resolve? (p : Path) : fs'.resolve? p = fs.resolve? p := by
  rw [FileSystem.resolve?, FileSystem.resolve?, same.locate?]

/-- A path leads to the same, contents apart. -/
theorem SameBut.get? (p : Path) :
    (fs'.get? p).map FileTree.emptied = (fs.get? p).map FileTree.emptied := by
  rw [FileSystem.get?, FileSystem.get?, same.locate?]
  split
  · rw [Option.map_bind, Option.map_bind]
    refine Option.bind_congr fun names _ => ?_
    rw [Function.comp_apply, Function.comp_apply, ← FileTree.find?_emptied, same.names,
      FileTree.find?_emptied]
  · rfl

/-- The same paths exist. -/
theorem SameBut.exists? (p : Path) : fs'.exists? p = fs.exists? p := by
  have leads := congrArg Option.isSome (same.get? p)
  rwa [Option.isSome_map, Option.isSome_map] at leads

theorem SameBut.isDirectory (p : Path) : fs'.isDirectory p = fs.isDirectory p := by
  have leads := congrArg (Option.any (·.isDirectory)) (same.get? p)
  simpa only [FileSystem.isDirectory, Option.any_map, Function.comp_def,
    FileTree.isDirectory_emptied] using leads

/-- A file elsewhere has the same contents. -/
theorem SameBut.contents {p : Path} {contents contents' : ByteArray}
    (elsewhere : fs.locate? p ≠ some place) (file : fs.get? p = some (.file contents))
    (file' : fs'.get? p = some (.file contents')) : contents' = contents := by
  rw [FileSystem.get?] at file file'
  split at file
  · rename_i fits
    rw [if_pos fits, same.locate?] at file'
    obtain ⟨names, located, at_names⟩ := Option.bind_eq_some_iff.1 file
    rw [located, Option.bind_some] at file'
    have other : names ≠ place := by
      rintro rfl
      exact elsewhere located
    have kept := same.others names other
    rw [FileTree.contents?, FileTree.contents?, file', at_names] at kept
    exact Option.some.inj kept
  · cases file

/-- A file at another place reads as before. -/
theorem SameBut.readText {p : Path} (elsewhere : fs.locate? p ≠ some place) :
    fs'.readText p = fs.readText p := by
  have leads := same.get? p
  rw [FileSystem.readText, FileSystem.readText]
  cases at_p : fs.get? p with
  | none =>
    rw [at_p, Option.map_none, Option.map_eq_none_iff] at leads
    rw [leads]
  | some tree =>
    rw [at_p, Option.map_some] at leads
    obtain ⟨tree', at_p', alike⟩ := Option.map_eq_some_iff.1 leads
    rw [at_p']
    rcases FileTree.emptied_cases alike with ⟨contents, contents', rfl, rfl⟩ | ⟨_, _, rfl, rfl, -⟩
    · rw [same.contents elsewhere at_p at_p']
    · rfl

/-- The same files are collected. -/
theorem SameBut.metadataFiles (p : Path) :
    MockScaffold.metadataFiles fs' p = MockScaffold.metadataFiles fs p := by
  have leads := same.get? p
  rw [MockScaffold.metadataFiles, MockScaffold.metadataFiles]
  cases at_p : fs.get? p with
  | none =>
    rw [at_p, Option.map_none, Option.map_eq_none_iff] at leads
    rw [leads]
  | some tree =>
    rw [at_p, Option.map_some] at leads
    obtain ⟨tree', at_p', alike⟩ := Option.map_eq_some_iff.1 leads
    rw [at_p']
    rcases FileTree.emptied_cases alike with ⟨_, _, rfl, rfl⟩ | ⟨entries, entries', rfl, rfl, files⟩
    · rfl
    · dsimp only
      rw [metadataBelow, metadataBelow, files]

end

end FileSystem
end MockScaffold
