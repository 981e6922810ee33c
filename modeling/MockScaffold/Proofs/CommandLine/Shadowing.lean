import MockScaffold.CommandLine.Run
import MockScaffold.Proofs.Configuration.Discovery
import MockScaffold.Proofs.Configuration.Nearest
import MockScaffold.Proofs.Configuration.Saving

namespace MockScaffold
open MockScaffold.Path (IsName)

namespace Path

/-- The spelling of a path ends with its last piece. -/
theorem text_concat (absolute : Bool) (front : List String) (name : String) :
    text ⟨absolute, front ++ [name]⟩ = text ⟨absolute, front ++ [""]⟩ ++ name := by
  cases front with
  | nil => simp [text]
  | cons first front =>
    rw [text, text, String.intercalate_append_of_ne_nil (by simp) (by simp),
      String.intercalate_append_of_ne_nil (by simp) (by simp)]
    simp [String.append_assoc]

/-- The path to an entry with a shorter name is shorter. -/
theorem fits_join_of_le {p : Path} {name other : String}
    (shorter : other.utf8ByteSize ≤ name.utf8ByteSize) (fits : (p.join name).fits) :
    (p.join other).fits := by
  have size (last : String) (front : List String) :
      Path.size ⟨p.absolute, front ++ [last]⟩ =
        Path.size ⟨p.absolute, front ++ [""]⟩ + last.utf8ByteSize := by
    rw [Path.size, text_concat, String.utf8ByteSize_append, Path.size]
  rw [Path.fits, decide_eq_true_eq, join, size] at fits ⊢
  omega

end Path

namespace FileSystem

/-- A name exists in a directory if its path is short enough and something stands there. -/
theorem exists?_ofNames_concat_iff {fs : FileSystem} {names : List String} {name : String}
    (proper : ∀ name ∈ names, IsName name) (named : IsName name) :
    fs.exists? (.ofNames (names ++ [name])) ↔
      (Path.ofNames (names ++ [name])).fits ∧ (fs.root.find? (names ++ [name])).isSome := by
  rw [exists?_iff]
  refine and_congr_right fun _ => ?_
  simp only [locate?_concat_iff (p := .ofNames (names ++ [name])) rfl named]
  constructor
  · rintro ⟨place, ⟨directory, led, -, rfl, -⟩, there⟩
    obtain rfl := follow_names_eq proper led
    exact there
  · intro there
    have stands := FileTree.directoryAt_of_below there
    exact ⟨_, ⟨names, follow_directory proper stands, stands, rfl, there⟩, there⟩

end FileSystem

namespace Configuration
open FileSystem

/-- No path that ends with the other name leads to a main file. -/
theorem locate?_other_ne (fs : FileSystem) (directory : Path) (names : List String) :
    fs.locate? (directory.join otherFileName) ≠ some (names ++ [mainFileName]) := by
  intro located
  have named : IsName otherFileName := by decide
  have last := locate?_name located rfl named
  rw [List.getLast?_concat] at last
  exact absurd last (by decide)

/-- Where an entry of one name is looked for, one of another name is looked for too. -/
theorem locate?_join_of_locate? {fs : FileSystem} {directory : Path} {names : List String}
    {name other : String} (named : IsName name) (named' : IsName other)
    (located : fs.locate? (directory.join name) = some (names ++ [name]))
    (there : (fs.root.find? (names ++ [other])).isSome) :
    fs.locate? (directory.join other) = some (names ++ [other]) := by
  obtain ⟨reached, led, stands, same, -⟩ := (locate?_concat_iff rfl named).1 located
  obtain ⟨rfl, -⟩ := List.append_inj' same rfl
  exact (locate?_concat_iff rfl named').2 ⟨names, led, stands, rfl, there⟩

section
variable {fs after : FileSystem} {names : List String}
  (written : Written (names ++ [mainFileName]) defaults.text.toUTF8 fs after)
  (new : ¬ (fs.root.find? (names ++ [mainFileName])).isSome)
  (other : (fs.root.find? (names ++ [otherFileName])).isSome)
include written

/-- A configuration that does not stand where the main file was written loads as before. -/
theorem loadFile_elsewhere {p : Path}
    (elsewhere : after.locate? p ≠ some (names ++ [mainFileName])) :
    loadFile after p = loadFile fs p := by
  rw [loadFile, loadFile, written.readText_elsewhere elsewhere]

/-- What was written loads as the default configuration. -/
theorem loadFile_main {p : Path} (short : p.fits)
    (located : after.locate? p = some (names ++ [mainFileName])) :
    loadFile after p = .ok defaults :=
  loadFile_eq_ok_iff.2 ⟨defaults.text, written.readText short located, defaults.ofText_text⟩

include new

/-- A path to where the main file was written did not exist before. -/
theorem not_exists?_main {p : Path} (located : after.locate? p = some (names ++ [mainFileName])) :
    ¬ fs.exists? p := by
  intro there
  obtain ⟨-, place, located', stands⟩ := exists?_iff.1 there
  obtain rfl := Option.some.inj ((written.locate?_mono located').symm.trans located)
  exact new stands

/-- A path under which nothing was written leads to what it led to. -/
theorem unwritten {p : Path}
    (unseen : ¬ (after.exists? p ∧ after.locate? p = some (names ++ [mainFileName]))) :
    after.exists? p = fs.exists? p ∧ (fs.exists? p → loadFile after p = loadFile fs p) := by
  by_cases located : after.locate? p = some (names ++ [mainFileName])
  · have before := not_exists?_main written new located
    have behind : ¬ after.exists? p := fun there => unseen ⟨there, located⟩
    exact ⟨by rw [Bool.eq_false_of_not_eq_true before, Bool.eq_false_of_not_eq_true behind],
      fun there => absurd there before⟩
  · exact ⟨written.exists?_elsewhere located, fun _ => loadFile_elsewhere written located⟩

include other

/-- The default now counts where the other file did. -/
theorem discoverAlong_shadowed {directory : Path} (directories : List Path)
    (short : (directory.join mainFileName).fits)
    (located : after.locate? (directory.join mainFileName) = some (names ++ [mainFileName])) :
    discoverAlong after (directory :: directories) = .ok defaults ∧
      (directory.join otherFileName).fits ∧
      fs.locate? (directory.join otherFileName) = some (names ++ [otherFileName]) ∧
      discoverAlong fs (directory :: directories) =
        loadFile fs (directory.join otherFileName) := by
  have main : after.exists? (directory.join mainFileName) := by
    refine exists?_iff.2 ⟨short, _, located, ?_⟩
    rw [FileTree.isSome_find?_iff, written.contents?_place]
    exact .inr rfl
  have short' : (directory.join otherFileName).fits := Path.fits_join_of_le (by decide) short
  have beside : fs.locate? (directory.join otherFileName) = some (names ++ [otherFileName]) := by
    rw [← written.locate?_elsewhere (locate?_other_ne after directory names)]
    exact locate?_join_of_locate? (by decide) (by decide) located (written.stands other)
  refine ⟨?_, short', beside, ?_⟩
  · rw [discoverAlong, if_pos main, loadFile_main written short located]
  · rw [discoverAlong, if_neg (not_exists?_main written new located),
      if_pos (exists?_iff.2 ⟨short', _, beside, other⟩)]

/-- Along any directories the same configuration counts as before, or else the default does in place
of the other file. -/
theorem discoverAlong_written (directories : List Path) :
    discoverAlong after directories = discoverAlong fs directories ∨
      discoverAlong after directories = .ok defaults ∧
        ∃ p, p.fits ∧ fs.locate? p = some (names ++ [otherFileName]) ∧
          discoverAlong fs directories = loadFile fs p := by
  induction directories with
  | nil => exact .inl rfl
  | cons directory directories ih =>
    by_cases seen : after.exists? (directory.join mainFileName) ∧
        after.locate? (directory.join mainFileName) = some (names ++ [mainFileName])
    · obtain ⟨shadowed, rest⟩ := discoverAlong_shadowed written new other directories
        (exists?_iff.1 seen.1).1 seen.2
      exact .inr ⟨shadowed, _, rest⟩
    · obtain ⟨main, loads⟩ := unwritten written new seen
      have elsewhere := locate?_other_ne after directory names
      rw [discoverAlong, discoverAlong, main, written.exists?_elsewhere elsewhere,
        loadFile_elsewhere written elsewhere]
      split
      · exact .inl (loads ‹_›)
      · split
        · exact .inl rfl
        · exact ih

end

end Configuration

/-! ## Initialising a directory -/

namespace CommandLine
open FileSystem
open MockScaffold.Configuration (fileNames mainFileName otherFileName loadFile defaults discover
  discover_eq_along discoverAlong_shadowed discoverAlong_written loadFile_of_get?)

/-- Nothing is written into a directory that holds a main file, nor where its path is too long. -/
def Guarded (fs : FileSystem) (parent : Path) : Prop :=
  fs.exists? (parent.join mainFileName) ∨ ¬ (parent.join mainFileName).fits

section
variable {fs : FileSystem} {directory : Option String} {parent : Path}

/-- Without force, a main file is kept and a missing one is written. -/
theorem runInit_files (resolved : configurationDirectory? fs directory = some parent) :
    (runInit fs directory false).files =
      if fs.exists? (parent.join mainFileName) then fs
      else (defaults.saveFile? fs (parent.join mainFileName)).getD fs := by
  rw [runInit, resolved]
  by_cases main : fs.exists? (parent.join mainFileName)
  · simp [main]
  · cases saved : defaults.saveFile? fs (parent.join mainFileName) <;> simp [main, saved]

/-- A configuration is written into a directory that is told by names alone. -/
theorem configurationDirectory?_names (proper : ∀ name ∈ fs.workingDirectory, IsName name)
    (resolved : configurationDirectory? fs directory = some parent) :
    ∃ names, (∀ name ∈ names, IsName name) ∧ parent = .ofNames names := by
  cases directory with
  | none => exact ⟨_, proper, (Option.some.inj resolved).symm⟩
  | some text =>
    obtain ⟨names, located, rfl⟩ := Option.map_eq_some_iff.1 resolved
    refine ⟨names, follow_proper (follow_of_locate? located) ?_, rfl⟩
    split
    · simp
    · exact proper

/-- Where the directory is guarded, nothing changes. -/
theorem runInit_guarded (resolved : configurationDirectory? fs directory = some parent)
    (guarded : Guarded fs parent) : (runInit fs directory false).files = fs := by
  rw [runInit_files resolved]
  split
  · rfl
  · rename_i new
    have long := guarded.resolve_left new
    cases saved : defaults.saveFile? fs (parent.join mainFileName) with
    | none => rfl
    | some after =>
      obtain ⟨place, accepts, -⟩ := written_of_writeText? saved
      exact absurd accepts.1 long

/-- Without a main file the default is written beside the other file. -/
theorem runInit_unguarded {names : List String} (proper : ∀ name ∈ names, IsName name)
    (resolved : configurationDirectory? fs directory = some (.ofNames names))
    (unguarded : ¬ Guarded fs (.ofNames names))
    (held : ∃ name ∈ fileNames, fs.exists? ((Path.ofNames names).join name)) :
    Written (names ++ [mainFileName]) defaults.text.toUTF8 fs (runInit fs directory false).files ∧
      ¬ (fs.root.find? (names ++ [mainFileName])).isSome ∧
      (fs.root.find? (names ++ [otherFileName])).isSome ∧
      ((Path.ofNames names).join mainFileName).fits ∧
      (runInit fs directory false).files.locate? ((Path.ofNames names).join mainFileName) =
        some (names ++ [mainFileName]) := by
  have main : IsName mainFileName := by decide
  have second : IsName otherFileName := by decide
  rw [Guarded, not_or, not_not, Configuration.join_ofNames proper,
    exists?_ofNames_concat_iff proper main] at unguarded
  obtain ⟨absent, short⟩ := unguarded
  have new : ¬ (fs.root.find? (names ++ [mainFileName])).isSome :=
    fun there => absent ⟨short, there⟩
  have other : (fs.root.find? (names ++ [otherFileName])).isSome := by
    obtain ⟨name, listed, there⟩ := held
    rw [Configuration.join_ofNames proper] at there
    rcases List.mem_cons.1 listed with rfl | last
    · exact absurd ((exists?_ofNames_concat_iff proper main).1 there) absent
    · obtain rfl : name = otherFileName := List.mem_singleton.1 last
      exact ((exists?_ofNames_concat_iff proper second).1 there).2
  have stands := FileTree.directoryAt_of_below other
  have led := follow_directory proper stands
  have accepts : fs.Accepts (.ofNames (names ++ [mainFileName])) (names ++ [mainFileName]) :=
    ⟨short, names, mainFileName, names, rfl, by decide, led, stands,
      fun taken => new (FileTree.isSome_find?_iff.2 (.inl taken)), rfl⟩
  obtain ⟨after, saved⟩ := Option.isSome_iff_exists.1
    ((isSome_writeText?_iff defaults.text).2 ⟨_, accepts⟩)
  obtain ⟨place, accepts', written⟩ := written_of_writeText? saved
  obtain rfl := accepts.unique accepts'
  have absent' : ¬ fs.exists? (.ofNames (names ++ [mainFileName])) :=
    fun there => absent ((exists?_ofNames_concat_iff proper main).1 there)
  rw [runInit_files resolved, Configuration.join_ofNames proper, if_neg absent',
    Configuration.saveFile?, saved]
  exact ⟨written, new, other, short, written.locate? accepts⟩

/-- Without a main file the default is written, and counts in place of the other file. -/
theorem runInit_shadows (proper : ∀ name ∈ fs.workingDirectory, IsName name)
    (resolved : configurationDirectory? fs directory = some parent)
    (unguarded : ¬ Guarded fs parent)
    (held : ∃ name ∈ fileNames, fs.exists? (parent.join name)) :
    FileTree.changes fs.root (runInit fs directory false).files.root ≠ [] ∧
      discover (runInit fs directory false).files parent = .ok defaults ∧
      discover fs parent = loadFile fs (parent.join otherFileName) := by
  obtain ⟨names, inside, rfl⟩ := configurationDirectory?_names proper resolved
  obtain ⟨written, new, other, short, located⟩ := runInit_unguarded inside resolved unguarded held
  obtain ⟨above, chain⟩ := Path.chain_eq_cons (.ofNames names)
  obtain ⟨now, -, -, before⟩ := discoverAlong_shadowed written new other above short located
  have absent : fs.root.contents? (names ++ [mainFileName]) = none := by
    rw [FileTree.isSome_find?_iff, not_or] at new
    exact Option.not_isSome_iff_eq_none.1 new.2
  rw [discover_eq_along, discover_eq_along, chain]
  exact ⟨List.ne_nil_of_mem (FileTree.mem_changes absent written.contents?_place), now, before⟩

/-- The default counts afterwards at most where the other file of the directory did. -/
theorem discover_runInit (proper : ∀ name ∈ fs.workingDirectory, IsName name)
    (resolved : configurationDirectory? fs directory = some parent)
    (held : ∃ name ∈ fileNames, fs.exists? (parent.join name)) (start : Path) :
    discover (runInit fs directory false).files start = discover fs start ∨
      discover (runInit fs directory false).files start = .ok defaults ∧
        discover fs start = loadFile fs (parent.join otherFileName) := by
  by_cases guarded : Guarded fs parent
  · rw [runInit_guarded resolved guarded]
    exact .inl rfl
  · obtain ⟨names, inside, rfl⟩ := configurationDirectory?_names proper resolved
    obtain ⟨written, new, other, short, located⟩ := runInit_unguarded inside resolved guarded held
    obtain ⟨-, short', beside, -⟩ := discoverAlong_shadowed written new other [] short located
    rw [discover_eq_along, discover_eq_along]
    refine (discoverAlong_written written new other start.chain).imp_right ?_
    rintro ⟨now, p, fits, located', before⟩
    refine ⟨now, before.trans (loadFile_of_get? fits short' (get?_congr fits short' ?_))⟩
    rw [located', beside]

end

/-- A directory that holds a configuration is left as it is if the main file is there, or could not
be written. Otherwise a default is written, which counts in place of the other file, so that the
configurations for the directory and for others stay the same only if that file states the default
as well. -/
theorem runInit_keeps_iff (fs : FileSystem) (directory : Option String) (parent : Path)
    (proper : ∀ name ∈ fs.workingDirectory, IsName name)
    (resolved : configurationDirectory? fs directory = some parent)
    (held : ∃ name ∈ fileNames, fs.exists? (parent.join name)) :
    (Guarded fs parent → (runInit fs directory false).files = fs) ∧
    (FileTree.changes fs.root (runInit fs directory false).files.root = [] ↔
      Guarded fs parent) ∧
    (discover (runInit fs directory false).files parent = discover fs parent ↔
      Guarded fs parent ∨ loadFile fs (parent.join otherFileName) = .ok defaults) ∧
    ∀ start, discover (runInit fs directory false).files start = discover fs start ∨
      discover (runInit fs directory false).files start = .ok defaults ∧
        discover fs start = loadFile fs (parent.join otherFileName) := by
  by_cases guarded : Guarded fs parent
  · have same := runInit_guarded resolved guarded
    rw [same]
    simp [guarded, FileTree.changes_self]
  · obtain ⟨changed, now, before⟩ := runInit_shadows proper resolved guarded held
    refine ⟨fun h => absurd h guarded, iff_of_false changed guarded, ?_,
      discover_runInit proper resolved held⟩
    rw [now, before, or_iff_right guarded]
    exact eq_comm

def initialised : FileSystem := ⟨.directory [(".testit.json", .file .empty)], []⟩

/-- In a directory with a main file, the file is kept. -/
theorem runInit_keeps_initialised :
    configurationDirectory? initialised none = some (.ofNames []) ∧
      initialised.exists? ((Path.ofNames []).join mainFileName) ∧
      (runInit initialised none false).files = initialised := by
  have main : initialised.exists? ((Path.ofNames []).join mainFileName) := rfl
  have keeps := runInit_keeps_iff initialised none (.ofNames []) (by decide) rfl
    ⟨mainFileName, List.mem_cons_self, main⟩
  exact ⟨rfl, main, keeps.1 (.inl main)⟩

/-- A directory whose configuration stands in the other file alone. -/
def otherwiseNamed : FileSystem :=
  ⟨.directory [("testit.json",
    .file (Json.object [("mocker", .string "mockito")]).compact.toUTF8)], []⟩

/-- There the default that is written takes the place of another configuration. -/
theorem runInit_shadows_otherwiseNamed :
    otherwiseNamed.exists? ((Path.ofNames []).join otherFileName) ∧
      discover otherwiseNamed (.ofNames []) = .ok { mocker := .mockito } ∧
      FileTree.changes otherwiseNamed.root (runInit otherwiseNamed none false).files.root ≠ [] ∧
      discover (runInit otherwiseNamed none false).files (.ofNames []) = .ok defaults ∧
      defaults ≠ { mocker := .mockito } := by
  have other : otherwiseNamed.exists? ((Path.ofNames []).join otherFileName) := rfl
  have unguarded : ¬ Guarded otherwiseNamed (.ofNames []) := by
    rw [Guarded, not_or, not_not]
    exact ⟨Bool.false_ne_true, rfl⟩
  have plain : Json.Plain 1 (.object [("mocker", .string "mockito")]) :=
    .object (by simp [Json.Plain.string])
  have loaded : loadFile otherwiseNamed ((Path.ofNames []).join otherFileName) =
      .ok { mocker := .mockito } :=
    Configuration.loadFile_eq_ok_iff.2
      ⟨_, readText_eq_ok_iff.2 ⟨_, rfl, dif_pos (String.isValidUTF8 _)⟩,
        (Configuration.ofText_compact_iff plain).2 rfl⟩
  have proper : ∀ name ∈ otherwiseNamed.workingDirectory, IsName name := by decide
  have resolved : configurationDirectory? otherwiseNamed none = some (.ofNames []) := rfl
  obtain ⟨changed, now, before⟩ := runInit_shadows proper resolved unguarded
    ⟨otherFileName, .tail _ List.mem_cons_self, other⟩
  exact ⟨other, before.trans loaded, changed, now, by decide⟩

end CommandLine
end MockScaffold
