import Mathlib.Data.List.Nodup
import MockScaffold.Proofs.Files.Writing

namespace MockScaffold
open MockScaffold.Path (IsName)

namespace FileTree

/-- Every entry of a directory has a name of its own. -/
inductive Proper : FileTree → Prop
  | file (contents : ByteArray) : Proper (.file contents)
  | directory {entries : List (String × FileTree)} (once : (entries.map (·.1)).Nodup)
      (named : ∀ entry ∈ entries, IsName entry.1) (each : ∀ entry ∈ entries, Proper entry.2) :
      Proper (.directory entries)

section
variable {tree tree' : FileTree} {names : List String}

/-- What is in a proper tree is reached by names, and proper as well. -/
theorem Proper.find? (proper : tree.Proper) (found : tree.find? names = some tree') :
    tree'.Proper ∧ ∀ name ∈ names, IsName name := by
  induction names generalizing tree with
  | nil =>
    obtain rfl := Option.some.inj found
    exact ⟨proper, by simp⟩
  | cons name names ih =>
    rw [FileTree.find?, Option.bind_eq_some_iff] at found
    obtain ⟨child, entry, below⟩ := found
    cases proper with
    | file contents => cases entry
    | directory once named each =>
      have among := Keyed.mem_of_lookup? entry
      obtain ⟨inside, others⟩ := ih (each _ among) below
      exact ⟨inside, List.forall_mem_cons.2 ⟨named _ among, others⟩⟩

/-- A proper tree lists exactly the places where a file stands. -/
theorem Proper.mem_files_iff (proper : tree.Proper) :
    names ∈ tree.files ↔ ∃ contents, tree.find? names = some (.file contents) := by
  simp only [← contents?_eq_some_iff]
  refine ⟨fun listed => ?_, fun ⟨contents, found⟩ => mem_files_of_contents? found⟩
  induction names generalizing tree with
  | nil =>
    cases proper with
    | file contents => exact ⟨contents, rfl⟩
    | directory once named each =>
      rw [files, mem_filesOf_iff] at listed
      obtain ⟨entry, -, below, -, impossible⟩ := listed
      cases impossible
  | cons name names ih =>
    cases proper with
    | file contents => simp [files] at listed
    | directory once named each =>
      rw [files, mem_filesOf_iff] at listed
      obtain ⟨entry, among, below, inside, same⟩ := listed
      obtain ⟨rfl, rfl⟩ := List.cons.inj same
      rw [contents?_cons_directory, (Keyed.lookup?_eq_some_iff_mem once).2 among]
      exact ih (each entry among) inside

/-- If names are unique within directories, no file is listed twice. -/
theorem Proper.nodup_files (proper : tree.Proper) : tree.files.Nodup := by
  induction proper with
  | file contents => simp [files]
  | @directory entries once named each ih =>
    rw [files, filesOf_eq, List.nodup_flatMap]
    refine ⟨fun entry among => (ih entry among).map (List.cons_injective), ?_⟩
    refine (List.pairwise_map.1 once).imp fun {a b} different => ?_
    intro names first second
    obtain ⟨_, -, rfl⟩ := List.mem_map.1 first
    obtain ⟨_, -, same⟩ := List.mem_map.1 second
    exact different (List.cons.inj same).1.symm

end

mutual

/-- Trees that are the same but for the order in which directories list their entries. -/
inductive Reordered : FileTree → FileTree → Prop
  | file (contents : ByteArray) : Reordered (.file contents) (.file contents)
  | directory {entries middle entries' : List (String × FileTree)}
      (each : ReorderedOf entries middle) (order : middle.Perm entries') :
      Reordered (.directory entries) (.directory entries')

/-- Entries in the same order, whose trees are reordered. -/
inductive ReorderedOf : List (String × FileTree) → List (String × FileTree) → Prop
  | nil : ReorderedOf [] []
  | cons {name : String} {tree tree' : FileTree} {entries middle : List (String × FileTree)}
      (first : Reordered tree tree') (rest : ReorderedOf entries middle) :
      ReorderedOf ((name, tree) :: entries) ((name, tree') :: middle)

end

section
variable {tree tree' : FileTree} {entries middle : List (String × FileTree)}

theorem ReorderedOf.map_fst (each : ReorderedOf entries middle) :
    middle.map (·.1) = entries.map (·.1) := by
  induction entries generalizing middle with
  | nil => cases each; rfl
  | cons entry entries ih =>
    cases each with
    | cons first rest => rw [List.map_cons, List.map_cons, ih rest]

theorem ReorderedOf.lookup? (each : ReorderedOf entries middle) (name : String) :
    Option.Rel Reordered (Keyed.lookup? name entries) (Keyed.lookup? name middle) := by
  induction entries generalizing middle with
  | nil => cases each; exact .none
  | cons entry entries ih =>
    cases each with
    | cons first rest =>
      rw [Keyed.lookup?, Keyed.lookup?]
      split
      · exact .some first
      · exact ih rest

/-- The same names lead to the same, up to the order of entries. -/
theorem Reordered.find? (reordered : Reordered tree tree') (proper : tree.Proper)
    (names : List String) : Option.Rel Reordered (tree.find? names) (tree'.find? names) := by
  induction names generalizing tree tree' with
  | nil => exact .some reordered
  | cons name names ih =>
    cases reordered with
    | file contents => exact .none
    | @directory entries middle entries' each order =>
      cases proper with
      | directory once named proper =>
        have entry := each.lookup? name
        rw [← Keyed.lookup?_perm order (each.map_fst ▸ once)] at entry
        rw [FileTree.find?, FileTree.find?, child?, child?]
        generalize listed : Keyed.lookup? name entries = child at entry
        generalize Keyed.lookup? name entries' = child' at entry
        cases entry with
        | none => exact .none
        | some below => exact ih below (proper _ (Keyed.mem_of_lookup? listed))

/-- The same names lead to directories. -/
theorem Reordered.directoryAt_iff (reordered : Reordered tree tree') (proper : tree.Proper)
    (names : List String) : tree'.DirectoryAt names ↔ tree.DirectoryAt names := by
  have leads := reordered.find? proper names
  rw [DirectoryAt, DirectoryAt]
  generalize tree.find? names = found, tree'.find? names = found' at leads
  cases leads with
  | none => simp
  | some below => cases below <;> simp

theorem Reordered.isSome_find?_iff (reordered : Reordered tree tree') (proper : tree.Proper)
    (names : List String) : (tree'.find? names).isSome ↔ (tree.find? names).isSome := by
  have leads := reordered.find? proper names
  generalize tree.find? names = found, tree'.find? names = found' at leads
  cases leads <;> simp

end

mutual

/-- The same files are listed. -/
theorem Reordered.files : ∀ {tree tree' : FileTree}, Reordered tree tree' →
    tree.files.Perm tree'.files
  | _, _, .file _ => .refl _
  | _, _, .directory each order => by
    rw [FileTree.files, FileTree.files]
    refine each.filesOf.trans ?_
    rw [filesOf_eq, filesOf_eq]
    exact order.flatMap_right _

theorem ReorderedOf.filesOf : ∀ {entries middle : List (String × FileTree)},
    ReorderedOf entries middle → (FileTree.filesOf entries).Perm (FileTree.filesOf middle)
  | _, _, .nil => .refl _
  | _, _, .cons first rest => by
    rw [FileTree.filesOf, FileTree.filesOf]
    exact (first.files.map _).append rest.filesOf

end

end FileTree

namespace FileSystem

theorem proper_of_get? {fs : FileSystem} {p : Path} {tree : FileTree} (proper : fs.root.Proper)
    (there : fs.get? p = some tree) : tree.Proper := by
  rw [get?] at there
  split at there
  · obtain ⟨names, -, found⟩ := Option.bind_eq_some_iff.1 there
    exact (proper.find? found).1
  · cases there

/-- File systems that differ at most in the order of the entries of directories. -/
structure Reordered (fs fs' : FileSystem) : Prop where
  workingDirectory : fs'.workingDirectory = fs.workingDirectory
  root : fs.root.Reordered fs'.root

section
variable {fs fs' : FileSystem} (reordered : fs.Reordered fs') (proper : fs.root.Proper)
include reordered proper

/-- Paths lead to the same places in reordered file systems. -/
theorem Reordered.locate? (p : Path) : fs'.locate? p = fs.locate? p := by
  have led (here pieces : List String) :
      follow fs'.root here pieces = follow fs.root here pieces :=
    follow_congr (reordered.root.directoryAt_iff proper) (reordered.root.isSome_find?_iff proper)
      here pieces
  rw [FileSystem.locate?, FileSystem.locate?, reordered.workingDirectory]
  simp only [led]

/-- A path leads to the same, up to the order of entries. -/
theorem Reordered.get? (p : Path) : Option.Rel FileTree.Reordered (fs.get? p) (fs'.get? p) := by
  rw [FileSystem.get?, FileSystem.get?, reordered.locate? proper]
  split
  · cases fs.locate? p with
    | none => exact .none
    | some names => exact reordered.root.find? proper names
  · exact .none

end

end FileSystem
end MockScaffold
