import Mathlib.Data.List.Forall2
import MockScaffold.Proofs.CommandLine.Reports
import MockScaffold.Proofs.Configuration.Nearest
import MockScaffold.Proofs.Configuration.Saving
import MockScaffold.Proofs.Files.Contents
import MockScaffold.Proofs.Metadata.Saving

/-!
What a run says of a metadata file depends on this file and on the configuration.
A file that does not load has one message in place of a report and changes nothing
of what is said of the others. Only when no file loads does the run fail.
-/

namespace MockScaffold
open FileSystem
open MockScaffold.Path (IsName)

namespace CommandLine

/-- The configuration for a path: the one in the file that is given, or else the one in the file
that is found, or else the default. -/
inductive Chosen (fs : FileSystem) (p : Path) : Option String → Configuration → Prop
  | given {file : String} {config : Configuration}
      (loads : Configuration.loadFile fs (.ofText file) = .ok config) :
      Chosen fs p (some file) config
  | found {place : Path} {config : Configuration}
      (first : Configuration.findFile? fs (searchStart fs p) = some place)
      (loads : Configuration.loadFile fs place = .ok config) : Chosen fs p none config
  | default (absent : Configuration.findFile? fs (searchStart fs p) = none) :
      Chosen fs p none .defaults

theorem configurationFor_eq_ok_iff {fs : FileSystem} {p : Path} {file : Option String}
    {config : Configuration} :
    configurationFor fs p file = .ok config ↔ Chosen fs p file config := by
  constructor
  · intro chosen
    rw [configurationFor.eq_def] at chosen
    cases file with
    | some file =>
      dsimp only at chosen
      split at chosen
      · rename_i loads
        cases chosen
        exact .given loads
      · cases chosen
    | none =>
      simp only [Configuration.discover] at chosen
      split at chosen
      · rename_i config found
        obtain rfl := Except.ok.inj chosen
        split at found
        · rename_i absent
          obtain rfl := Except.ok.inj found
          exact .default absent
        · rename_i place first
          exact .found first found
      · cases chosen
  · rintro (⟨loads⟩ | ⟨first, loads⟩ | ⟨absent⟩)
    · simp only [configurationFor, loads]
    · simp only [configurationFor, Configuration.discover, first, loads]
    · simp only [configurationFor, Configuration.discover, absent]

/-- A metadata file holds a text that loads. -/
def Loads (fs : FileSystem) (p : Path) : Prop :=
  ∃ contents text loaded, fs.get? p = some (.file contents) ∧
    String.fromUTF8? contents = some text ∧ SourceFile.loadText text = .ok loaded

/-- What a run has of one metadata file: perhaps a report, and its messages. -/
structure Part where
  report : Option FileReport
  messages : List String

/-- What a metadata file contributes on its own: a report with the scaffolds of all classes and of
the top-level functions, if there are any, and a warning for each entry that was skipped; or else
one message. -/
inductive Contributes (fs : FileSystem) (config : Configuration) (p : Path) : Part → Prop
  | made {text : String} {loaded : LoadedFile} (read : fs.readText p = .ok text)
      (loads : SourceFile.loadText text = .ok loaded) :
      Contributes fs config p
        ⟨some ⟨p, ⟨loaded.file.classes.map (scaffoldClass config .kotlin),
            (loaded.file.topLevel.filter fun decls => !decls.functions.isEmpty).map
              (scaffoldTopLevel config .kotlin)⟩, loaded.skipped⟩,
          loaded.skipped.map fun skipped =>
            "⚠️  " ++ p.text ++ ": skipped " ++ skipped.entry ++ ": " ++ skipped.reason.message⟩
  | invalid {text : String} {reason : LoadError} (read : fs.readText p = .ok text)
      (fails : SourceFile.loadText text = .error reason) :
      Contributes fs config p
        ⟨none, ["❌ " ++ p.text ++ ": " ++ ("Invalid metadata in " ++ p.text ++ ": " ++
          reason.message ++ ": " ++ reason.reason)]⟩
  | unreadable {reason : ReadError} (fails : fs.readText p = .error reason) :
      Contributes fs config p
        ⟨none, ["❌ " ++ p.text ++ ": " ++ ("Failed to read " ++ p.text ++ ": " ++
          reason.message)]⟩

/-- The part that a run makes of a file. -/
def partOf (fs : FileSystem) (config : Configuration) (p : Path) : Part :=
  ⟨(scaffoldPath fs config p).toOption, fileReports p (scaffoldPath fs config p)⟩

section
variable {fs : FileSystem} {config : Configuration} {p : Path} {part : Part}

/-- What is made of a file is what it contributes. -/
theorem contributes_partOf : Contributes fs config p (partOf fs config p) := by
  rw [partOf, scaffoldPath]
  cases read : fs.readText p with
  | error reason => exact .unreadable read
  | ok text =>
    dsimp only
    cases loads : SourceFile.loadText text with
    | error reason => exact .invalid read loads
    | ok loaded => exact .made read loads

/-- A file contributes one part only. -/
theorem contributes_iff : Contributes fs config p part ↔ part = partOf fs config p := by
  constructor
  · rintro (⟨read, loads⟩ | ⟨read, fails⟩ | ⟨fails⟩)
    · simp only [partOf, scaffoldPath, read, loads]
      rfl
    · simp only [partOf, scaffoldPath, read, fails]
      rfl
    · simp only [partOf, scaffoldPath, fails]
      rfl
  · rintro rfl
    exact contributes_partOf

/-- There is a report of exactly the files that load. -/
theorem Contributes.loads_iff (contributes : Contributes fs config p part) :
    part.report.isSome ↔ Loads fs p := by
  cases contributes with
  | made read loads =>
    obtain ⟨contents, file, spelled⟩ := readText_eq_ok_iff.1 read
    exact iff_of_true rfl ⟨contents, _, _, file, spelled, loads⟩
  | invalid read fails =>
    refine iff_of_false Bool.false_ne_true ?_
    rintro ⟨contents, text, loaded, file, spelled, loads⟩
    rw [readText_eq_ok_iff.2 ⟨contents, file, spelled⟩] at read
    obtain rfl := Except.ok.inj read
    rw [loads] at fails
    cases fails
  | unreadable fails =>
    refine iff_of_false Bool.false_ne_true ?_
    rintro ⟨contents, text, loaded, file, spelled, loads⟩
    rw [readText_eq_ok_iff.2 ⟨contents, file, spelled⟩] at fails
    cases fails

end

/-- A run over metadata files puts their parts together, in order. If some file loads, it succeeds,
and whoever reads what it prints finds a list of the reports of all files that load. It fails only
because none does, and leaves all files as they are. -/
structure Scaffolds (fs : FileSystem) (config : Configuration) (paths : List Path)
    (parts : List Part) (outcome : Outcome) : Prop where
  each : List.Forall₂ (Contributes fs config) paths parts
  messages : outcome.reports = parts.flatMap (·.messages)
  succeeds : (∃ p ∈ paths, Loads fs p) → outcome.causes = [] ∧
    outcome.output =
      lines [(Json.array ((parts.filterMap (·.report)).map (·.toJson))).pretty] ∧
    ∃ items, Json.parse outcome.output = .ok (.array items) ∧
      List.Forall₂ FileReport.StatedBy (parts.filterMap (·.report)) items
  fails : (∀ p ∈ paths, ¬ Loads fs p) → outcome.output = "" ∧
    outcome.causes = ["All " ++ toString paths.length ++ " metadata file(s) failed"]
  unchanged : outcome.files = fs

/-- A run over files is read off the parts that are made of them. -/
theorem scaffoldAll_eq (fs : FileSystem) (config : Configuration) (paths : List Path) :
    scaffoldAll fs config paths =
      if ((paths.map (partOf fs config)).filterMap (·.report)).isEmpty then
        { reports := (paths.map (partOf fs config)).flatMap (·.messages),
          causes := ["All " ++ toString paths.length ++ " metadata file(s) failed"], files := fs }
      else
        { output := lines [(Json.array
            (((paths.map (partOf fs config)).filterMap (·.report)).map (·.toJson))).pretty],
          reports := (paths.map (partOf fs config)).flatMap (·.messages), files := fs } := by
  simp only [scaffoldAll, List.filterMap_map, List.flatMap_map]
  rfl

theorem scaffoldAll_scaffolds (fs : FileSystem) (config : Configuration) (paths : List Path) :
    Scaffolds fs config paths (paths.map (partOf fs config)) (scaffoldAll fs config paths) := by
  have each : List.Forall₂ (Contributes fs config) paths (paths.map (partOf fs config)) :=
    List.forall₂_map_right_iff.2 (List.forall₂_same.2 fun p _ => contributes_partOf)
  have nothing : (paths.map (partOf fs config)).filterMap (·.report) = [] ↔
      ∀ p ∈ paths, ¬ Loads fs p := by
    simp only [List.filterMap_eq_nil_iff, List.forall_mem_map, ← Option.not_isSome_iff_eq_none,
      contributes_partOf.loads_iff]
  rw [scaffoldAll_eq]
  by_cases none : ∀ p ∈ paths, ¬ Loads fs p
  · rw [nothing.2 none]
    refine ⟨each, rfl, ?_, fun _ => ⟨rfl, rfl⟩, rfl⟩
    rintro ⟨p, member, loads⟩
    exact absurd loads (none p member)
  · rw [if_neg (by rwa [List.isEmpty_iff, nothing])]
    exact ⟨each, rfl, fun _ => ⟨rfl, rfl, parse_reports _⟩, fun all => absurd all none, rfl⟩

/-! ## Other contents of one file -/

/-- Whatever a path starts with, the last of the names joined to it is its last piece. -/
theorem pieces_joinAll (p : Path) (front : List String) (name : String) :
    ∃ before, (p.joinAll (front ++ [name])).pieces = before ++ [name] := by
  rw [Path.joinAll, List.foldl_append]
  exact ⟨_, rfl⟩

/-- A collected file is the one that was asked for, or is named like metadata. -/
theorem collected_cases {fs : FileSystem} {p q : Path} (member : q ∈ metadataFiles fs p) :
    metadataFiles fs p = [q] ∨
      ∃ before name, q.pieces = before ++ [name] ∧ isMetadataName name := by
  unfold metadataFiles at member ⊢
  split at member
  · cases member
  · exact .inl (by rw [List.mem_singleton.1 member])
  · obtain ⟨names, found, rfl⟩ := List.mem_map.1 member
    have below := (List.mem_filter.1 found).1
    rw [metadataBelow, List.mem_mergeSort] at below
    have named := (List.mem_filter.1 below).2
    rw [isMetadataPath] at named
    rcases List.eq_nil_or_concat names with rfl | ⟨front, name, rfl⟩
    · cases named
    · rw [List.concat_eq_append] at named ⊢
      rw [List.getLast?_concat] at named
      obtain ⟨before, cut⟩ := pieces_joinAll p front name
      exact .inr ⟨before, name, cut, named⟩

theorem isName_of_isMetadataName {name : String} (metadata : isMetadataName name) :
    IsName name := by
  have unlike : ∀ other, isMetadataName other = false → name ≠ other := by
    rintro other no rfl
    rw [no] at metadata
    cases metadata
  exact ⟨unlike "" rfl, unlike "." rfl, unlike ".." rfl⟩

/-- Where a configuration is looked for, the last piece is one of the two names. -/
theorem candidate_cases {start place : Path}
    (candidate : place ∈ Configuration.candidates start) :
    ∃ before name, place.pieces = before ++ [name] ∧ name ∈ Configuration.fileNames := by
  obtain ⟨directory, -, listed⟩ := List.mem_flatMap.1 candidate
  obtain ⟨name, member, rfl⟩ := List.mem_map.1 listed
  exact ⟨_, name, rfl, member⟩

section
variable {place : List String} {fs fs' : FileSystem} (same : SameBut place fs fs')
include same

/-- The same configuration is found, since to look for one is not to read any. -/
theorem findFile?_congr (start : Path) :
    Configuration.findFile? fs' start = Configuration.findFile? fs start := by
  rw [Configuration.findFile?, Configuration.findFile?]
  exact congrArg (List.find? · _) (funext same.exists?)

theorem searchStart_congr (p : Path) : searchStart fs' p = searchStart fs p := by
  simp only [searchStart, same.isDirectory, same.resolve?]

/-- A configuration at another place is not affected by the change. -/
theorem loadFile_congr {p : Path} (elsewhere : fs.locate? p ≠ some place) :
    Configuration.loadFile fs' p = Configuration.loadFile fs p := by
  rw [Configuration.loadFile, Configuration.loadFile, same.readText elsewhere]

/-- Other contents of a collected file change no configuration that is found for several files: no
file with the name of a configuration is collected along with others. -/
theorem configurationFor_congr {p q r : Path} (file : Option String)
    (collected : q ∈ metadataFiles fs p) (at_q : fs.locate? q = some place)
    (other : r ∈ metadataFiles fs p) (elsewhere : fs.locate? r ≠ some place) :
    configurationFor fs' p file = configurationFor fs p file ∨
      ∃ given, file = some given ∧ fs.locate? (.ofText given) = some place := by
  cases file with
  | some given =>
    by_cases there : fs.locate? (.ofText given) = some place
    · exact .inr ⟨given, rfl, there⟩
    · simp only [configurationFor, loadFile_congr same there]
      exact .inl trivial
  | none =>
    refine .inl ?_
    simp only [configurationFor, Configuration.discover, searchStart_congr same,
      findFile?_congr same]
    cases first : Configuration.findFile? fs (searchStart fs p) with
    | none => rfl
    | some found =>
      -- The last names of the two places are of different kinds.
      have apart : fs.locate? found ≠ some place := by
        intro located
        rcases collected_cases collected with alone | ⟨before, name, cut, metadata⟩
        · rw [alone, List.mem_singleton] at other
          exact elsewhere (other ▸ at_q)
        · obtain ⟨_, config, cut', listed⟩ :=
            candidate_cases (List.mem_of_find?_eq_some first)
          have proper : ∀ name ∈ Configuration.fileNames, IsName name := by decide
          have last := locate?_name at_q cut (isName_of_isMetadataName metadata)
          rw [locate?_name located cut' (proper config listed)] at last
          obtain rfl := Option.some.inj last
          rw [isMetadataName, Bool.and_eq_true, decide_eq_true_eq (p := _ ∉ _)] at metadata
          exact metadata.2 listed
      simp only [loadFile_congr same apart]

/-- Nor is the part that is made of a file at another place. -/
theorem partOf_congr {p : Path} (config : Configuration)
    (elsewhere : fs.locate? p ≠ some place) : partOf fs' config p = partOf fs config p := by
  simp only [partOf, scaffoldPath, same.readText elsewhere]

end

/-! ## Runs -/

/-- With a configuration and some metadata files, the command runs over these. -/
theorem runScaffold_eq {fs : FileSystem} {path : String} (mocker : Option Mocker)
    {file : Option String} {config : Configuration} {files : List Path}
    (there : fs.exists? (.ofText path)) (chosen : Chosen fs (.ofText path) file config)
    (collected : metadataFiles fs (.ofText path) = files) (nonempty : files ≠ []) :
    runScaffold fs path mocker file =
      scaffoldAll fs { config with mocker := mocker.getD config.mocker } files := by
  have configured := configurationFor_eq_ok_iff.2 chosen
  rw [runScaffold]
  simp only [there, Bool.not_true, Bool.false_eq_true, if_false, configured, collected]
  rfl

/-- A run over a path for which there are metadata files and a configuration puts together what each
file contributes on its own. Other contents of one of the files do not change what another one
contributes under a configuration; and unless the configuration was given in that very file, they do
not change the part of the other one in the run. -/
theorem runScaffold_parts (fs : FileSystem) (path : String) (mocker : Option Mocker)
    (file : Option String) (config : Configuration) (files : List Path)
    (there : fs.exists? (.ofText path)) (chosen : Chosen fs (.ofText path) file config)
    (collected : metadataFiles fs (.ofText path) = files) (nonempty : files ≠ []) :
    ∃ parts,
      Scaffolds fs { config with mocker := mocker.getD config.mocker } files parts
        (runScaffold fs path mocker file) ∧
      ∀ fs' place, SameBut place fs fs' →
        ∀ q ∈ files, fs.locate? q = some place → ∀ r ∈ files, fs.locate? r ≠ some place →
          (∀ setting part, Contributes fs' setting r part ↔ Contributes fs setting r part) ∧
          ((∀ given, file = some given → fs.locate? (.ofText given) ≠ some place) →
            ∃ parts',
              Scaffolds fs' { config with mocker := mocker.getD config.mocker } files parts'
                (runScaffold fs' path mocker file) ∧
              ∀ i : Nat, files[i]? = some r → parts'[i]? = parts[i]?) := by
  refine ⟨_, runScaffold_eq mocker there chosen collected nonempty ▸
    scaffoldAll_scaffolds _ _ _, ?_⟩
  intro fs' place same q collected_q at_q r collected_r elsewhere
  refine ⟨fun setting part => ?_, fun apart => ?_⟩
  · rw [contributes_iff, contributes_iff, partOf_congr same setting elsewhere]
  have chosen' : Chosen fs' (.ofText path) file config := by
    rw [← configurationFor_eq_ok_iff] at chosen ⊢
    rw [← collected] at collected_q collected_r
    rcases configurationFor_congr same file collected_q at_q collected_r elsewhere with
      kept | ⟨given, rfl, located⟩
    · rw [kept, chosen]
    · exact absurd located (apart given rfl)
  have collected' : metadataFiles fs' (.ofText path) = files := by
    rw [same.metadataFiles, collected]
  have run' := runScaffold_eq mocker (by rwa [same.exists?]) chosen' collected' nonempty
  refine ⟨_, run' ▸ scaffoldAll_scaffolds _ _ _, fun i at_i => ?_⟩
  rw [List.getElem?_map, List.getElem?_map, at_i, Option.map_some, Option.map_some,
    partOf_congr same _ elsewhere]

def twoFiles (first second : ByteArray) : FileSystem where
  root := .directory [("a.json", .file first), ("b.json", .file second)]
  workingDirectory := []

theorem sameBut_twoFiles (first first' second : ByteArray) :
    SameBut ["a.json"] (twoFiles first second) (twoFiles first' second) := by
  refine ⟨rfl, rfl, fun other apart => ?_⟩
  match other with
  | [] => rfl
  | name :: below =>
    by_cases a : "a.json" = name
    · subst a
      cases below with
      | nil => exact absurd rfl apart
      | cons next below => rfl
    · simp [twoFiles, FileTree.contents?, FileTree.find?, FileTree.child?, Keyed.lookup?, a]

theorem metadataFiles_twoFiles (first second : ByteArray) :
    metadataFiles (twoFiles first second) (.ofText ".") =
      [.ofText "./a.json", .ofText "./b.json"] := by
  have leads : (twoFiles first second).get? (.ofText ".") = some (.directory
      [("a.json", .file first), ("b.json", .file second)]) := rfl
  have named : [["a.json"], ["b.json"]].filter isMetadataPath = [["a.json"], ["b.json"]] := rfl
  have sorted : [["a.json"], ["b.json"]].Pairwise (namesLe · ·) := by decide
  rw [metadataFiles, leads]
  dsimp only [metadataBelow, FileTree.files, FileTree.filesOf, List.map]
  rw [List.append_nil, List.singleton_append, named, List.mergeSort_of_pairwise sorted]
  rfl

def oneClass : SourceFile := ⟨[⟨"p", .empty, "C", false, [], []⟩], none⟩

theorem readText_written {fs : FileSystem} {p : Path} {text : String}
    (there : fs.get? p = some (.file text.toUTF8)) : fs.readText p = .ok text :=
  readText_eq_ok_iff.2 ⟨_, there, dif_pos (String.isValidUTF8 _)⟩

theorem loadText_oneClass : SourceFile.loadText oneClass.toJson.compact = .ok ⟨oneClass, []⟩ := by
  have readable : ∀ t ∈ oneClass.types, t.Readable := by
    simp [oneClass, SourceFile.types, ClassDecl.types]
  exact (SourceFile.reloads_of_readable readable _ List.mem_cons_self).2

/-- A directory with a file and one that holds a class. -/
def besideClass (contents : ByteArray) : FileSystem :=
  twoFiles contents oneClass.toJson.compact.toUTF8

theorem contributes_oneClass (contents : ByteArray) (config : Configuration) :
    Contributes (besideClass contents) config (.ofText "./b.json")
      ⟨some ⟨.ofText "./b.json", ⟨[scaffoldClass config .kotlin ⟨"p", .empty, "C", false, [], []⟩],
        none⟩, []⟩, []⟩ :=
  .made (readText_written rfl) loadText_oneClass

/-- A file with no more than an opening brace stops no other one, and neither does anything else
that might stand in it. -/
theorem runScaffold_besideClass :
    (runScaffold (besideClass "\x7b".toUTF8) "." none none).causes = [] ∧
      ∀ contents, ∃ parts,
        Scaffolds (besideClass contents) .defaults [.ofText "./a.json", .ofText "./b.json"] parts
          (runScaffold (besideClass contents) "." none none) := by
  have start : searchStart (besideClass "\x7b".toUTF8) (.ofText ".") = .ofNames [] := rfl
  have chosen : Chosen (besideClass "\x7b".toUTF8) (.ofText ".") none .defaults := by
    refine .default ?_
    rw [start, Configuration.findFile?, Configuration.candidates_ofNames (by simp)]
    rfl
  have at_b : (besideClass "\x7b".toUTF8).locate? (.ofText "./b.json") = some ["b.json"] := rfl
  obtain ⟨parts, scaffolds, isolated⟩ := runScaffold_parts (besideClass "\x7b".toUTF8) "." none
    none .defaults _ rfl chosen (metadataFiles_twoFiles _ _) (by simp)
  have loads := (contributes_oneClass "\x7b".toUTF8 .defaults).loads_iff.1 rfl
  refine ⟨(scaffolds.succeeds ⟨_, by simp, loads⟩).1, fun contents => ?_⟩
  obtain ⟨-, run⟩ := isolated (besideClass contents) ["a.json"] (sameBut_twoFiles _ _ _)
    (.ofText "./a.json") (by simp) rfl (.ofText "./b.json") (by simp) (by rw [at_b]; decide)
  obtain ⟨parts', scaffolds', -⟩ := run (by simp)
  exact ⟨parts', scaffolds'⟩

def stating (mocker : Mocker) : ByteArray :=
  (Json.object [("mocker", .string mocker.name)]).compact.toUTF8

/-- The file given for the configuration is the one that the directory holds. -/
theorem chosen_stating (mocker : Mocker) :
    Chosen (besideClass (stating mocker)) (.ofText ".") (some "a.json") { mocker } := by
  have plain : Json.Plain 1 (.object [("mocker", .string mocker.name)]) :=
    .object (by simp [Json.Plain.string])
  have stated := (Configuration.ofText_compact_iff plain (c := { mocker })).2
    (by cases mocker <;> rfl)
  exact .given (Configuration.loadFile_eq_ok_iff.2 ⟨_, readText_written rfl, stated⟩)

/-- Whatever framework the file states, the run with it succeeds part by part. -/
theorem scaffolds_stating (mocker : Mocker) :
    Scaffolds (besideClass (stating mocker)) { mocker } [.ofText "./a.json", .ofText "./b.json"]
      ([.ofText "./a.json", .ofText "./b.json"].map
        (partOf (besideClass (stating mocker)) { mocker }))
      (runScaffold (besideClass (stating mocker)) "." none (some "a.json")) := by
  rw [runScaffold_eq none rfl (chosen_stating mocker) (metadataFiles_twoFiles _ _)
    (List.cons_ne_nil _ _)]
  exact scaffoldAll_scaffolds _ _ _

/-- A file that is given as the configuration may be collected as well. What stands in it then
decides on the report of another file. -/
theorem runScaffold_given_collected :
    SameBut ["a.json"] (besideClass (stating .mockK)) (besideClass (stating .mockito)) ∧
    (∀ mocker,
      Chosen (besideClass (stating mocker)) (.ofText ".") (some "a.json") { mocker } ∧
      metadataFiles (besideClass (stating mocker)) (.ofText ".") =
        [.ofText "./a.json", .ofText "./b.json"] ∧
      (besideClass (stating mocker)).locate? (.ofText "./a.json") = some ["a.json"] ∧
      (besideClass (stating mocker)).locate? (.ofText "./b.json") = some ["b.json"]) ∧
    ∃ parts parts',
      Scaffolds (besideClass (stating .mockK)) { mocker := .mockK }
        [.ofText "./a.json", .ofText "./b.json"] parts
        (runScaffold (besideClass (stating .mockK)) "." none (some "a.json")) ∧
      Scaffolds (besideClass (stating .mockito)) { mocker := .mockito }
        [.ofText "./a.json", .ofText "./b.json"] parts'
        (runScaffold (besideClass (stating .mockito)) "." none (some "a.json")) ∧
      parts[1]? ≠ parts'[1]? := by
  refine ⟨sameBut_twoFiles _ _ _,
    fun mocker => ⟨chosen_stating mocker, metadataFiles_twoFiles _ _, rfl, rfl⟩,
    _, _, scaffolds_stating .mockK, scaffolds_stating .mockito, fun same => ?_⟩
  have part (mocker : Mocker) :=
    contributes_iff.1 (contributes_oneClass (stating mocker) { mocker })
  have same := Option.some.inj same
  rw [← part .mockK, ← part .mockito] at same
  have runners := congrArg (fun part => part.report.map (·.scaffold.classes.map (·.runner))) same
  cases runners

end CommandLine
end MockScaffold
