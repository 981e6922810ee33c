import Mathlib.Data.List.Find
import Mathlib.Data.List.Infix
import MockScaffold.CommandLine.Run
import MockScaffold.Proofs.Configuration.Discovery
import MockScaffold.Proofs.Decoding.Values
import MockScaffold.Proofs.Files.Following
import MockScaffold.Proofs.Json.Tokens

/-!
The configuration for a file is looked for in its directory and in all directories
above. The search knows the directory from the spelling of the file: whatever
stands before the name is followed, so any spelling with a slash starts the search
in the directory itself. Before a bare name there is nothing to follow. There the
search sees the working directory alone, and nothing above it.
-/

namespace MockScaffold
open FileSystem
open MockScaffold.Path (IsName)

namespace Path

theorem cutFrom_ne_nil (piece cs : List Char) : cutFrom piece cs ≠ [] := by
  fun_induction cutFrom piece cs with
  | case1 => simp
  | case2 => simp
  | case3 _ _ _ _ ih => exact ih

/-- A text is one piece, or what stands before its first slash and the pieces behind. -/
theorem cutFrom_cases (piece cs : List Char) :
    '/' ∉ cs ∧ cutFrom piece cs = [String.ofList (piece.reverse ++ cs)] ∨
      ∃ before after, cs = before ++ '/' :: after ∧
        cutFrom piece cs = String.ofList (piece.reverse ++ before) :: cutFrom [] after := by
  fun_induction cutFrom piece cs with
  | case1 piece => exact .inl ⟨by simp, by simp⟩
  | case2 piece cs => exact .inr ⟨[], cs, rfl, by simp⟩
  | case3 piece c cs other ih =>
    rcases ih with ⟨none, whole⟩ | ⟨before, after, rfl, cut⟩
    · refine .inl ⟨?_, by simpa using whole⟩
      rw [List.mem_cons, not_or]
      exact ⟨Ne.symm other, none⟩
    · exact .inr ⟨c :: before, after, rfl, by simpa using cut⟩

/-- A text without slashes is a path of one piece. -/
theorem ofText_bare {text : String} (bare : '/' ∉ text.toList) :
    ofText text = ⟨false, [text]⟩ := by
  rw [ofText]
  split
  · rename_i rest spelled
    rw [spelled] at bare
    simp at bare
  · rcases cutFrom_cases [] text.toList with ⟨-, whole⟩ | ⟨before, after, split, -⟩
    · rw [whole]
      simp
    · rw [split] at bare
      simp at bare

/-- A relative path that is spelled with a slash has a piece in front that is not empty. -/
theorem ofText_slash {text : String} (slash : '/' ∈ text.toList)
    (relative : (ofText text).absolute = false) :
    ∃ first rest, (ofText text).pieces = first :: rest ∧ first ≠ "" ∧ rest ≠ [] := by
  revert relative
  rw [ofText]
  split
  · intro absolute
    cases absolute
  · rename_i notSlash
    intro _
    rcases cutFrom_cases [] text.toList with ⟨bare, -⟩ | ⟨before, after, split, cut⟩
    · exact absurd slash bare
    · refine ⟨_, _, cut, ?_, cutFrom_ne_nil [] after⟩
      cases before with
      | nil => exact absurd split (notSlash after)
      | cons c before => simp

theorem ofText_pieces_ne_nil (text : String) : (ofText text).pieces ≠ [] := by
  rw [ofText]
  split
  · exact cutFrom_ne_nil _ _
  · exact cutFrom_ne_nil _ _

/-- Something is left of what stands before the last slash. -/
theorem isEmpty_front {text name : String} {front : List String} (slash : '/' ∈ text.toList)
    (cut : (ofText text).pieces = front ++ [name]) :
    isEmpty ⟨(ofText text).absolute,
      (dropIdle (ofText text).absolute front.reverse).reverse⟩ = false := by
  rw [isEmpty]
  cases relative : (ofText text).absolute with
  | true => rfl
  | false =>
    obtain ⟨first, rest, spelled, nonempty, more⟩ := ofText_slash slash relative
    rw [spelled] at cut
    -- The first piece is not the last one, so it stands in front, where it is never left out.
    have starts : front.reverse.getLast? = some first := by
      rw [List.getLast?_reverse]
      cases front with
      | nil => exact absurd (List.tail_eq_of_cons_eq cut) more
      | cons other front => rw [List.head_eq_of_cons_eq cut, List.head?_cons]
    have kept := getLast?_dropIdle starts nonempty
    rw [← List.head?_reverse] at kept
    cases remaining : (dropIdle false front.reverse).reverse with
    | nil =>
      rw [remaining] at kept
      cases kept
    | cons other rest =>
      rw [remaining] at kept
      obtain rfl := Option.some.inj kept
      simp [nonempty]

end Path

/-- A path that leads to a file leads to no directory. -/
theorem FileSystem.isDirectory_of_file {fs : FileSystem} {p : Path} {names : List String}
    {contents : ByteArray} (located : fs.locate? p = some names)
    (file : fs.root.find? names = some (.file contents)) : fs.isDirectory p = false := by
  rw [isDirectory, get?, located, Option.bind_some, file]
  split <;> rfl

namespace CommandLine

variable {fs : FileSystem} {text : String} {names : List String} {contents : ByteArray}
  (located : fs.locate? (.ofText text) = some names)
  (file : fs.root.find? names = some (.file contents))
include located file

/-- Before the name of a file that is spelled with a slash stands the way to its directory. -/
theorem searchStart_slash (slash : '/' ∈ text.toList) :
    searchStart fs (.ofText text) = .ofNames names.dropLast := by
  obtain ⟨front, name, directory, cut, named, led, -, rfl⟩ :=
    follow_file (follow_of_locate? located) file (Path.ofText_pieces_ne_nil text)
  have whole : Path.ofText text = ⟨(Path.ofText text).absolute, front ++ [name]⟩ := by rw [← cut]
  have way : (Path.ofText text).parent? = some ⟨(Path.ofText text).absolute,
      (Path.dropIdle (Path.ofText text).absolute front.reverse).reverse⟩ := by
    rw [whole]
    exact Path.parent?_name named
  have written := Path.isEmpty_front slash cut
  rw [← List.reverse_reverse front] at led
  have reached := follow_dropIdle (Path.ofText text).absolute led
  rw [searchStart, isDirectory_of_file located file, way]
  simp only [Bool.false_eq_true, if_false, Option.getD_some, resolve?, locate?, written, reached,
    Option.map_some, List.dropLast_concat]

/-- Before a bare name stands nothing. The file is in the working directory. -/
theorem searchStart_bare (bare : '/' ∉ text.toList) :
    searchStart fs (.ofText text) = ⟨false, []⟩ ∧ names = fs.workingDirectory ++ [text] ∧
      fs.root.DirectoryAt fs.workingDirectory := by
  have single := Path.ofText_bare bare
  obtain ⟨front, name, directory, cut, named, led, stands, rfl⟩ :=
    follow_file (follow_of_locate? located) file (Path.ofText_pieces_ne_nil text)
  rw [single] at cut led
  obtain ⟨rfl, rfl⟩ : front = [] ∧ text = name := by
    cases front with
    | nil => exact ⟨rfl, List.head_eq_of_cons_eq cut⟩
    | cons other front => simp at cut
  obtain rfl : fs.workingDirectory = directory := Option.some.inj led
  refine ⟨?_, rfl, stands⟩
  rw [searchStart, isDirectory_of_file located file, single, ← List.nil_append [text],
    Path.parent?_name named]
  rfl

end CommandLine

namespace Configuration

/-- The names that lead to where a configuration for a directory may stand: in the directory itself
or in one above it, the nearest first. -/
def places (directory : List String) : List (List String) :=
  directory.inits.reverse.flatMap fun above => fileNames.map fun name => above ++ [name]

/-- The configuration at the nearest place where there is something, or else the default. -/
def nearest (fs : FileSystem) (directory : List String) : Except ConfigError Configuration :=
  match (places directory).find? fun place => fs.exists? (.ofNames place) with
  | none => .ok defaults
  | some place => loadFile fs (.ofNames place)

theorem inits_concat_reverse (names : List String) (name : String) :
    (names ++ [name]).inits.reverse = (names ++ [name]) :: names.inits.reverse := by
  simp [List.inits_append]

/-- The first places are those in the directory itself. -/
theorem places_eq (directory : List String) : ∃ above,
    places directory = (fileNames.map fun name => directory ++ [name]) ++ above := by
  rcases List.eq_nil_or_concat directory with rfl | ⟨front, last, rfl⟩
  · exact ⟨[], rfl⟩
  · rw [List.concat_eq_append, places, inits_concat_reverse]
    exact ⟨_, rfl⟩

section
variable {directory : List String} (proper : ∀ name ∈ directory, IsName name)
include proper

/-- On the way up from an absolute path of names, the last name is dropped again and again. -/
theorem chain_ofNames :
    (Path.ofNames directory).chain = directory.inits.reverse.map Path.ofNames := by
  induction directory using List.reverseRecOn with
  | nil => rw [Path.chain_of_root rfl]; rfl
  | append_singleton front name ih =>
    obtain ⟨others, named⟩ := List.forall_mem_append.1 proper
    have above : (Path.ofNames (front ++ [name])).parent? = some (.ofNames front) := by
      rw [Path.ofNames, Path.parent?_name (named name List.mem_cons_self),
        Path.dropIdle_of_names (by simpa using others), List.reverse_reverse, Path.ofNames]
    rw [Path.chain_of_parent above, ih others, inits_concat_reverse, List.map_cons]

theorem join_ofNames (name : String) :
    (Path.ofNames directory).join name = .ofNames (directory ++ [name]) := by
  have last : directory.getLast? ≠ some "" := fun empty =>
    (proper "" (List.mem_of_getLast? empty)).1 rfl
  rw [Path.ofNames, Path.join, if_neg last]
  rfl

/-- From the absolute path of a directory on, a configuration is looked for at all its places. -/
theorem candidates_ofNames :
    candidates (.ofNames directory) = (places directory).map Path.ofNames := by
  rw [candidates, chain_ofNames proper, places, List.map_flatMap, List.flatMap_map]
  refine List.flatMap_congr fun above member => ?_
  rw [List.map_map]
  refine List.map_congr_left fun name _ => ?_
  have start : above <+: directory := (List.mem_inits _ _).1 (List.mem_reverse.1 member)
  exact join_ofNames (fun name member => proper name (start.subset member)) name

/-- From there the nearest configuration is discovered. -/
theorem discover_ofNames (fs : FileSystem) :
    discover fs (.ofNames directory) = nearest fs directory := by
  rw [discover, findFile?, candidates_ofNames proper, List.find?_map, nearest]
  cases found : (places directory).find? fun place => fs.exists? (.ofNames place) with
  | none => rw [Function.comp_def, found]; rfl
  | some place => rw [Function.comp_def, found]; rfl

end

/-- A configuration in the directory itself is the nearest one. -/
theorem nearest_of_found {fs : FileSystem} {directory : List String} {name : String}
    (found : (fileNames.find? fun name => fs.exists? (.ofNames (directory ++ [name]))) =
      some name) : nearest fs directory = loadFile fs (.ofNames (directory ++ [name])) := by
  obtain ⟨above, split⟩ := places_eq directory
  rw [nearest, split, List.find?_append, List.find?_map, Function.comp_def, found]
  rfl

/-- Paths that lead to the same are read alike. -/
theorem loadFile_of_get? {fs : FileSystem} {p q : Path} (short : p.fits) (short' : q.fits)
    (same : fs.get? p = fs.get? q) : loadFile fs p = loadFile fs q := by
  rw [loadFile, loadFile, readText, readText, same, short, short']

theorem fits_bare {name : String} (member : name ∈ fileNames) :
    Path.fits ⟨false, [name]⟩ ∧ name ≠ "" := by
  rw [fileNames, mainFileName, List.mem_cons, List.mem_singleton] at member
  rcases member with rfl | rfl
  · decide
  · decide

section
variable {fs : FileSystem} (proper : ∀ name ∈ fs.workingDirectory, IsName name)
  (stands : fs.root.DirectoryAt fs.workingDirectory)
  (short : ∀ name ∈ fileNames, (Path.ofNames (fs.workingDirectory ++ [name])).fits)
include proper stands short

theorem get?_bare {name : String} (member : name ∈ fileNames) :
    fs.get? ⟨false, [name]⟩ = fs.get? (.ofNames (fs.workingDirectory ++ [name])) := by
  obtain ⟨fits, nonempty⟩ := fits_bare member
  -- The absolute path goes through the working directory, where the bare name starts.
  have way := follow_directory proper stands
  refine get?_congr fits (short name member) ?_
  simp [locate?, Path.isEmpty, Path.ofNames, follow_append, way, nonempty]

/-- A bare name loads what the working directory has under it. -/
theorem loadFile_bare {name : String} (member : name ∈ fileNames) :
    loadFile fs ⟨false, [name]⟩ =
      loadFile fs (.ofNames (fs.workingDirectory ++ [name])) :=
  loadFile_of_get? (fits_bare member).1 (short name member)
    (get?_bare proper stands short member)

/-- From the empty path on, only the working directory is looked at. -/
theorem discover_bare :
    discover fs ⟨false, []⟩ =
      match fileNames.find? fun name => fs.exists? (.ofNames (fs.workingDirectory ++ [name])) with
      | none => .ok defaults
      | some name => loadFile fs (.ofNames (fs.workingDirectory ++ [name])) := by
  have lone : candidates ⟨false, []⟩ = fileNames.map fun name => ⟨false, [name]⟩ := by
    rw [candidates, Path.chain_of_root rfl]
    rfl
  have seen : (fileNames.find? fun name => fs.exists? ⟨false, [name]⟩) =
      fileNames.find? fun name => fs.exists? (.ofNames (fs.workingDirectory ++ [name])) := by
    refine List.find?_congr fun name member => ?_
    rw [exists?, exists?, get?_bare proper stands short member]
  rw [discover, findFile?, lone, List.find?_map, Function.comp_def, seen]
  cases found : fileNames.find? fun name =>
      fs.exists? (.ofNames (fs.workingDirectory ++ [name])) with
  | none => rfl
  | some name => exact loadFile_bare proper stands short (List.mem_of_find?_eq_some found)

end

end Configuration

/-! ## The configuration for a file -/

namespace CommandLine
open MockScaffold.Configuration (fileNames nearest)

theorem configurationFor_none (fs : FileSystem) (p : Path) :
    configurationFor fs p none =
      (Configuration.discover fs (searchStart fs p)).mapError fun e => [e.message] := by
  rw [configurationFor]
  cases Configuration.discover fs (searchStart fs p) <;> rfl

theorem mapError_eq_ok_iff {ε δ α : Type} {x : Except ε α} {f : ε → δ} {a : α} :
    x.mapError f = .ok a ↔ x = .ok a := by
  cases x <;> simp [Except.mapError]

/-- The configuration for a file is the nearest one if its spelling has a slash. For a bare name it
is the nearest one only if that stands in the working directory, or says nothing else than the
default does. -/
theorem configurationFor_eq_nearest_iff (fs : FileSystem) (text : String) (names : List String)
    (contents : ByteArray) (proper : ∀ name ∈ fs.workingDirectory, IsName name)
    (located : fs.locate? (.ofText text) = some names)
    (file : fs.root.find? names = some (.file contents))
    (short : ∀ name ∈ fileNames, (Path.ofNames (names.dropLast ++ [name])).fits) :
    configurationFor fs (.ofText text) none =
        (nearest fs names.dropLast).mapError (fun e => [e.message]) ↔
      '/' ∈ text.toList ∨
        (∃ name ∈ fileNames, fs.exists? (.ofNames (names.dropLast ++ [name]))) ∨
        nearest fs names.dropLast = .ok .defaults := by
  rw [configurationFor_none]
  by_cases slash : '/' ∈ text.toList
  · have inside : ∀ name ∈ names.dropLast, IsName name := by
      intro name member
      refine follow_proper (follow_of_locate? located) ?_ name (List.dropLast_subset _ member)
      split
      · simp
      · exact proper
    rw [searchStart_slash located file slash, Configuration.discover_ofNames inside]
    simp [slash]
  · -- The search sees what stands in the working directory, and takes the default for the rest.
    obtain ⟨start, rfl, stands⟩ := searchStart_bare located file slash
    rw [List.dropLast_concat] at short ⊢
    rw [start, Configuration.discover_bare proper stands short]
    cases found : fileNames.find? fun name =>
        fs.exists? (.ofNames (fs.workingDirectory ++ [name])) with
    | some name =>
      have member := List.mem_of_find?_eq_some found
      have there := List.find?_some found
      rw [Configuration.nearest_of_found found]
      exact iff_of_true rfl (.inr (.inl ⟨name, member, there⟩))
    | none =>
      have absent : ¬ ∃ name ∈ fileNames,
          fs.exists? (.ofNames (fs.workingDirectory ++ [name])) := by
        simpa using found
      simp only [slash, absent, false_or]
      exact eq_comm.trans mapError_eq_ok_iff

/-- A working directory with a file, and a configuration above it. -/
def belowConfiguration : FileSystem where
  root := .directory
    [(".testit.json", .file "\x7b\"mocker\":\"mockito\"\x7d".toUTF8),
     ("w", .directory [("m.json", .file "\x7b\x7d".toUTF8)])]
  workingDirectory := ["w"]

theorem nearest_belowConfiguration :
    nearest belowConfiguration ["w"] = .ok { mocker := .mockito } := by
  have found : (Configuration.places ["w"]).find?
      (fun place => belowConfiguration.exists? (.ofNames place)) = some [".testit.json"] := rfl
  have read : belowConfiguration.readText (.ofNames [".testit.json"]) =
      .ok "\x7b\"mocker\":\"mockito\"\x7d" := rfl
  have decoded : Configuration.ofText "\x7b\"mocker\":\"mockito\"\x7d" =
      .ok { mocker := .mockito } := by
    have written : Json.read "\x7b\"mocker\":\"mockito\"\x7d" =
        ⟨.object [(.ok "mocker", .string (.ok "mockito"))] none, false⟩ := by
      rw [Json.read_eq]
      cbv
    refine Decoding.ofText_eq_ok_iff.2 ?_
    rw [written]
    exact ⟨rfl, rfl⟩
  rw [nearest, found]
  simp only [Configuration.loadFile, read, decoded]

/-- With a dot in front, the configuration above the file is found. -/
theorem configurationFor_dotted :
    belowConfiguration.locate? (.ofText "./m.json") = some ["w", "m.json"] ∧
      configurationFor belowConfiguration (.ofText "./m.json") none =
        .ok { mocker := .mockito } := by
  have located : belowConfiguration.locate? (.ofText "./m.json") = some ["w", "m.json"] := rfl
  have found := (configurationFor_eq_nearest_iff belowConfiguration "./m.json" ["w", "m.json"]
    "\x7b\x7d".toUTF8 (by decide) located rfl (by decide)).2 (.inl (by simp))
  refine ⟨located, ?_⟩
  rw [found]
  exact congrArg _ nearest_belowConfiguration

/-- The same file under its bare name: the configuration above is not seen. -/
theorem configurationFor_bare :
    belowConfiguration.locate? (.ofText "m.json") = some ["w", "m.json"] ∧
      belowConfiguration.root.find? ["w", "m.json"] = some (.file "\x7b\x7d".toUTF8) ∧
      nearest belowConfiguration ["w"] = .ok { mocker := .mockito } ∧
      configurationFor belowConfiguration (.ofText "m.json") none = .ok .defaults ∧
      (Configuration.defaults : Configuration) ≠ { mocker := .mockito } := by
  have located : belowConfiguration.locate? (.ofText "m.json") = some ["w", "m.json"] := rfl
  refine ⟨located, rfl, nearest_belowConfiguration, ?_, by decide⟩
  rw [configurationFor_none, (searchStart_bare located rfl (by simp)).1,
    Configuration.discover_bare (by decide) ⟨_, rfl⟩ (by decide)]
  rfl

end CommandLine
end MockScaffold
