import Mathlib.Data.List.Lex
import Mathlib.Data.List.Nodup
import Mathlib.Data.String.Basic
import MockScaffold.Metadata.Collection
import MockScaffold.Proofs.Files.Reordering
import MockScaffold.Proofs.Text.Bytes
import MockScaffold.Proofs.Text.Marks

namespace MockScaffold
open MockScaffold.Path (IsName)

namespace Path

variable {p : Path} {name : String} {names others : List String}

/-- An extension is behind the last dot, which is not the first character. -/
theorem extension?_eq_some_iff {extension : String} :
    extension? name = some extension ↔
      '.' ∉ extension.toList ∧ ∃ stem, stem ≠ "" ∧ name = stem ++ "." ++ extension := by
  constructor
  · intro found
    rw [extension?] at found
    cases cut : name.toList.reverse.span (· ≠ '.') with
    | mk reversed rest =>
      obtain ⟨undotted, parts, stops⟩ := Text.span_ne_eq_iff.1 cut
      rw [cut] at found
      match rest, found with
      | dot :: c :: cs, found =>
        obtain rfl := Option.some.inj found
        obtain rfl : dot = '.' := stops dot rfl
        refine ⟨by simpa using undotted, String.ofList (c :: cs).reverse, ?_, ?_⟩
        · simp [← String.toList_inj]
        · rw [← String.toList_inj, ← List.reverse_inj, parts]
          simp
  · rintro ⟨undotted, stem, nonempty, rfl⟩
    have cut : (stem ++ "." ++ extension).toList.reverse.span (· ≠ '.') =
        (extension.toList.reverse, '.' :: stem.toList.reverse) := by
      refine Text.span_ne_eq_iff.2 ⟨by simpa using undotted, by simp, by simp⟩
    rw [extension?, cut]
    cases reversed : stem.toList.reverse with
    | nil =>
      rw [List.reverse_eq_nil_iff, ← String.toList_empty, String.toList_inj] at reversed
      exact absurd reversed nonempty
    | cons c cs =>
      dsimp only
      rw [List.reverse_reverse, String.ofList_toList]

/-- The components of a path: a slash or a dot that it starts with, and the pieces that have a
meaning of their own. -/
def components (p : Path) : List String :=
  (if p.absolute then ["/"] else if p.pieces.head? = some "." then ["."] else []) ++
    p.pieces.filter fun piece => piece ∉ ["", "."]

/-- A name that is joined adds one component. -/
theorem components_join (named : IsName name) :
    (p.join name).components = p.components ++ [name] := by
  have noDot : name ≠ "." := named.2.1
  have kept : [name].filter (fun piece => piece ∉ ["", "."]) = [name] := by
    simp [named.1, noDot]
  by_cases slashed : p.pieces.getLast? = some ""
  · obtain ⟨front, cut⟩ := List.getLast?_eq_some_iff.1 slashed
    rw [components, components, join, if_pos slashed, cut, List.dropLast_concat]
    dsimp only
    rw [List.filter_append, List.filter_append, kept, ← List.append_assoc]
    cases front <;> simp [noDot]
  · rw [components, components, join, if_neg slashed]
    dsimp only
    rw [List.filter_append, kept, ← List.append_assoc]
    cases p.pieces <;> simp [noDot]

/-- What names lead to from a directory has the names behind the components of the directory. -/
theorem components_joinAll (named : ∀ name ∈ names, IsName name) :
    (p.joinAll names).components = p.components ++ names := by
  induction names generalizing p with
  | nil => exact (List.append_nil _).symm
  | cons name names ih =>
    obtain ⟨first, others⟩ := List.forall_mem_cons.1 named
    rw [List.append_cons, ← components_join first]
    exact ih others

/-- A path is before another one: the first components that differ decide, by their bytes. -/
def Before (p q : Path) : Prop :=
  List.Lex (List.Lex (· < ·)) (p.components.map Text.bytes) (q.components.map Text.bytes)

theorem Before.ne {q : Path} (before : p.Before q) : p ≠ q := by
  rintro rfl
  have irrefl (bytes : List UInt8) : ¬ List.Lex (· < ·) bytes bytes :=
    List.lex_irrefl UInt8.lt_irrefl bytes
  exact List.lex_irrefl irrefl _ before

/-- Names by code points are in the order of their bytes. -/
theorem lex_bytes (less : names < others) :
    List.Lex (List.Lex (· < ·)) (names.map Text.bytes) (others.map Text.bytes) := by
  induction less with
  | nil => exact .nil
  | cons _ ih => exact .cons ih
  | rel less => exact .rel (Text.bytes_lex less)

/-- Below one directory, paths are in the order of their names. -/
theorem before_joinAll (named : ∀ name ∈ names, IsName name)
    (named' : ∀ name ∈ others, IsName name) (less : names < others) :
    (p.joinAll names).Before (p.joinAll others) := by
  rw [Before, components_joinAll named, components_joinAll named', List.map_append,
    List.map_append]
  exact (lex_bytes less).append_left _ _

end Path

section
variable {names others : List String} {tree tree' : FileTree}

theorem namesLe_iff : namesLe names others ↔ names ≤ others := by
  rw [le_iff_lt_or_eq]
  fun_induction namesLe names others with
  | case1 others => cases others <;> simp
  | case2 name names => simp
  | case3 name names others ih =>
    rw [ih, List.cons_lt_cons_iff, List.cons_inj_right]
    simp only [lt_irrefl, true_and, false_or]
  | case4 name names other others different =>
    rw [List.cons_lt_cons_iff, decide_eq_true_eq, List.cons.injEq]
    simp only [different, false_and, or_false]

theorem sorted_metadataBelow (tree : FileTree) :
    (metadataBelow tree).Pairwise (· ≤ ·) := by
  refine (List.pairwise_mergeSort ?_ ?_ _).imp namesLe_iff.1
  · intro a b c
    simp only [namesLe_iff]
    exact le_trans
  · intro a b
    simp only [Bool.or_eq_true, namesLe_iff]
    exact le_total a b

/-- A file name that is taken for metadata: its extension is `json`, and no configuration has it. -/
def NamesMetadata (name : String) : Prop :=
  (∃ stem, stem ≠ "" ∧ name = stem ++ ".json") ∧ name ∉ Configuration.fileNames

/-- The check of a file name, by what the name is. -/
theorem isMetadataName_iff {name : String} : isMetadataName name ↔ NamesMetadata name := by
  have undotted : '.' ∉ "json".toList := by decide
  have joined (stem : String) : stem ++ "." ++ "json" = stem ++ ".json" := String.append_assoc
  rw [isMetadataName, NamesMetadata, Bool.and_eq_true, decide_eq_true_eq, decide_eq_true_eq,
    Path.extension?_eq_some_iff]
  simp only [joined, undotted, not_false_eq_true, true_and]

theorem isMetadataPath_iff :
    isMetadataPath names ↔ ∃ front name, names = front ++ [name] ∧ NamesMetadata name := by
  rcases List.eq_nil_or_concat names with rfl | ⟨front, name, rfl⟩
  · simp [isMetadataPath]
  · simp [isMetadataPath, isMetadataName_iff]

theorem mem_metadataBelow_iff :
    names ∈ metadataBelow tree ↔ names ∈ tree.files ∧ isMetadataPath names := by
  rw [metadataBelow, List.mem_mergeSort, List.mem_filter]

/-- With unique names the metadata files below a directory ascend, each listed once. -/
theorem ascending_metadataBelow (proper : tree.Proper) :
    (metadataBelow tree).Pairwise (· < ·) := by
  have once : (metadataBelow tree).Nodup :=
    (List.mergeSort_perm _ _).nodup_iff.2 (proper.nodup_files.filter _)
  exact ((sorted_metadataBelow tree).and once).imp fun ⟨before, different⟩ =>
    lt_of_le_of_ne before different

/-- The order in which files are met does not count. -/
theorem metadataBelow_congr (files : tree.files.Perm tree'.files) :
    metadataBelow tree' = metadataBelow tree := by
  have same : (metadataBelow tree').Perm (metadataBelow tree) :=
    ((List.mergeSort_perm _ _).trans (files.symm.filter _)).trans (List.mergeSort_perm _ _).symm
  exact same.eq_of_pairwise (fun _ _ _ _ => le_antisymm) (sorted_metadataBelow tree')
    (sorted_metadataBelow tree)

end

/-- A path leads from a directory along names to a file that is taken for metadata. -/
structure LeadsToMetadata (p : Path) (tree : FileTree) (front : List String) (name : String)
    (q : Path) : Prop where
  file : ∃ contents, tree.find? (front ++ [name]) = some (.file contents)
  named : NamesMetadata name
  path : q = p.joinAll (front ++ [name])

section
variable {fs fs' : FileSystem} {p q : Path} {entries : List (String × FileTree)}

theorem metadataFiles_eq (there : fs.get? p = some (.directory entries)) :
    metadataFiles fs p =
      ((metadataBelow (.directory entries)).filter (isOpen p)).map p.joinAll := by
  rw [metadataFiles, there]

/-- A path is collected exactly if it leads to a metadata file whose directory can be opened. -/
theorem mem_metadataFiles_iff (proper : fs.root.Proper)
    (there : fs.get? p = some (.directory entries)) :
    q ∈ metadataFiles fs p ↔ ∃ front name,
      LeadsToMetadata p (.directory entries) front name q ∧ (p.joinAll front).fits := by
  have inside := FileSystem.proper_of_get? proper there
  rw [metadataFiles_eq there, List.mem_map]
  simp only [List.mem_filter, mem_metadataBelow_iff, inside.mem_files_iff, isMetadataPath_iff]
  constructor
  · rintro ⟨_, ⟨⟨file, front, name, rfl, named⟩, opens⟩, rfl⟩
    rw [isOpen, List.dropLast_concat] at opens
    exact ⟨front, name, ⟨file, named, rfl⟩, opens⟩
  · rintro ⟨front, name, ⟨file, named, rfl⟩, opens⟩
    refine ⟨_, ⟨⟨file, front, name, rfl, named⟩, ?_⟩, rfl⟩
    rwa [isOpen, List.dropLast_concat]

/-- Collected paths ascend by their components. -/
theorem ascending_metadataFiles (proper : fs.root.Proper)
    (there : fs.get? p = some (.directory entries)) :
    (metadataFiles fs p).Pairwise Path.Before := by
  have inside := FileSystem.proper_of_get? proper there
  have named {names : List String} (below : names ∈ metadataBelow (.directory entries)) :
      ∀ name ∈ names, IsName name := by
    obtain ⟨contents, found⟩ := inside.mem_files_iff.1 (mem_metadataBelow_iff.1 below).1
    exact (inside.find? found).2
  rw [metadataFiles_eq there, List.pairwise_map]
  refine ((ascending_metadataBelow inside).filter _).imp_of_mem ?_
  intro names others among among' less
  exact Path.before_joinAll (named (List.mem_filter.1 among).1)
    (named (List.mem_filter.1 among').1) less

/-- The order in which directories list their entries does not count. -/
theorem metadataFiles_reordered (proper : fs.root.Proper) (reordered : fs.Reordered fs') :
    metadataFiles fs' p = metadataFiles fs p := by
  have leads := reordered.get? proper p
  rw [metadataFiles, metadataFiles]
  generalize fs.get? p = found, fs'.get? p = found' at leads
  cases leads with
  | none => rfl
  | some same =>
    cases same with
    | file contents => rfl
    | directory each order =>
      dsimp only
      rw [metadataBelow_congr (FileTree.Reordered.directory each order).files]

end

/-- What is collected for a directory is ascending by the components of the paths, so nothing is
collected twice. It is exactly the files below the directory that are named like metadata and whose
directory has a path short enough to be opened, and these are all such files if every directory can
be opened. In whichever order directories list their entries, the same is collected. -/
theorem metadataFiles_exact (fs : FileSystem) (p : Path) (entries : List (String × FileTree))
    (proper : fs.root.Proper) (there : fs.get? p = some (.directory entries)) :
    (metadataFiles fs p).Pairwise Path.Before ∧ (metadataFiles fs p).Nodup ∧
      (∀ q, q ∈ metadataFiles fs p ↔ ∃ front name,
        LeadsToMetadata p (.directory entries) front name q ∧ (p.joinAll front).fits) ∧
      ((∀ names, (FileTree.directory entries).DirectoryAt names → (p.joinAll names).fits) →
        ∀ q, q ∈ metadataFiles fs p ↔ ∃ front name,
          LeadsToMetadata p (.directory entries) front name q) ∧
      ∀ fs', fs.Reordered fs' → metadataFiles fs' p = metadataFiles fs p := by
  have ascending := ascending_metadataFiles proper there
  refine ⟨ascending, ascending.imp Path.Before.ne, fun q => mem_metadataFiles_iff proper there,
    fun opens q => ?_, fun fs' reordered => metadataFiles_reordered proper reordered⟩
  rw [mem_metadataFiles_iff proper there]
  refine exists_congr fun front => exists_congr fun name => and_iff_left_of_imp fun leads => ?_
  obtain ⟨contents, found⟩ := leads.file
  exact opens front (FileTree.directoryAt_of_below (Option.isSome_iff_exists.2 ⟨_, found⟩))

/-- Two files, one in a directory, whose paths have another order by characters. -/
def scattered : FileSystem where
  root := .directory [
    ("b-c.json", .file .empty),
    ("b", .directory [("notes.txt", .file .empty), ("c.json", .file .empty)]),
    (".testit.json", .file .empty)]
  workingDirectory := []

def rearranged : FileSystem where
  root := .directory [
    (".testit.json", .file .empty),
    ("b-c.json", .file .empty),
    ("b", .directory [("c.json", .file .empty), ("notes.txt", .file .empty)])]
  workingDirectory := []

theorem proper_scattered : scattered.root.Proper := by
  refine .directory (by decide) (by decide) ?_
  simp only [List.forall_mem_cons]
  refine ⟨.file _, .directory (by decide) (by decide) ?_, .file _, by simp⟩
  simp only [List.forall_mem_cons]
  exact ⟨.file _, .file _, by simp⟩

theorem reordered_scattered : scattered.Reordered rearranged where
  workingDirectory := rfl
  root := by
    have inner : FileTree.Reordered
        (.directory [("notes.txt", .file .empty), ("c.json", .file .empty)])
        (.directory [("c.json", .file .empty), ("notes.txt", .file .empty)]) :=
      .directory (.cons (.file _) (.cons (.file _) .nil)) (.swap _ _ _)
    refine .directory (.cons (.file _) (.cons inner (.cons (.file _) .nil))) ?_
    exact ((List.Perm.swap _ _ _).cons _).trans (.swap _ _ _)

/-- Of two files, one in a directory, the paths ascend in either listing. -/
theorem metadataFiles_exact_scattered :
    .ofText "/b/c.json" ∈ metadataFiles rearranged (.ofText "/") ∧
      metadataFiles rearranged (.ofText "/") = metadataFiles scattered (.ofText "/") ∧
      (metadataFiles scattered (.ofText "/")).Pairwise Path.Before := by
  obtain ⟨ascending, -, exact, -, same⟩ :=
    metadataFiles_exact scattered (.ofText "/") _ proper_scattered rfl
  refine ⟨?_, same _ reordered_scattered, ascending⟩
  rw [same _ reordered_scattered, exact]
  exact ⟨["b"], "c.json", ⟨⟨_, rfl⟩, ⟨⟨"c", by decide, rfl⟩, by decide⟩, rfl⟩, rfl⟩

end MockScaffold
