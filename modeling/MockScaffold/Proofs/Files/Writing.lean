import Mathlib.Data.List.Induction
import MockScaffold.Proofs.Files.Following
import MockScaffold.Proofs.Keyed

/-!
A text that is written at a path stands in the file to which the path leads from then on. No other
file and no directory has changed, so other paths lead to the same as before.
-/

namespace MockScaffold
open MockScaffold.Path (IsName)

namespace FileTree

variable {names : List String} {name : String} {contents : ByteArray} {tree after : FileTree}
  {before : Option FileTree}

/-- Below a directory, a file is found through the entry of the first name. -/
theorem contents?_cons_directory (entries : List (String × FileTree)) (name : String)
    (names : List String) :
    (directory entries).contents? (name :: names) =
      (Keyed.lookup? name entries).bind (·.contents? names) := by
  rw [contents?, find?, child?]
  cases Keyed.lookup? name entries <;> rfl

theorem not_directoryAt_file (contents : ByteArray) (names : List String) :
    ¬ (file contents).DirectoryAt names := by
  rintro ⟨entries, found⟩
  cases names <;> cases found

theorem directoryAt_nil_directory (entries : List (String × FileTree)) :
    (directory entries).DirectoryAt [] := ⟨entries, rfl⟩

theorem directoryAt_cons_directory {entries : List (String × FileTree)} :
    (directory entries).DirectoryAt (name :: names) ↔
      ∃ child ∈ Keyed.lookup? name entries, child.DirectoryAt names := by
  simp only [DirectoryAt, find?, child?, Option.bind_eq_some_iff, Option.mem_def]
  constructor
  · rintro ⟨entries, child, found, inside⟩
    exact ⟨child, found, entries, inside⟩
  · rintro ⟨child, found, entries, inside⟩
    exact ⟨entries, child, found, inside⟩

/-- The file at the end of the names has the contents, and every other one has those it had. -/
theorem contents?_write? (written : write? contents names before = some after)
    (other : List String) :
    after.contents? other =
      if other = names then some contents else before.bind (·.contents? other) := by
  induction names generalizing before after other with
  | nil =>
    rw [write?.eq_def] at written
    cases before with
    | none =>
      obtain rfl := Option.some.inj written
      cases other <;> rfl
    | some tree =>
      cases tree with
      | directory entries => cases written
      | file old =>
        obtain rfl := Option.some.inj written
        cases other <;> rfl
  | cons name names ih =>
    cases before with
    | none => cases written
    | some tree =>
      cases tree with
      | file old => cases written
      | directory entries =>
        rw [write?, Option.map_eq_some_iff] at written
        obtain ⟨child, below, rfl⟩ := written
        cases other with
        | nil => rfl
        | cons first rest =>
          rw [Option.bind_some, contents?_cons_directory, contents?_cons_directory,
            Keyed.lookup?_put]
          by_cases same : name = first
          · subst same
            simpa using ih below rest
          · simp [same, Ne.symm same]

/-- No directory is made, and none goes. -/
theorem directoryAt_write? (written : write? contents names before = some after)
    (other : List String) :
    after.DirectoryAt other ↔ ∃ tree ∈ before, tree.DirectoryAt other := by
  induction names generalizing before after other with
  | nil =>
    rw [write?.eq_def] at written
    cases before with
    | none =>
      obtain rfl := Option.some.inj written
      simp [not_directoryAt_file]
    | some tree =>
      cases tree with
      | directory entries => cases written
      | file old =>
        obtain rfl := Option.some.inj written
        simp [not_directoryAt_file]
  | cons name names ih =>
    cases before with
    | none => cases written
    | some tree =>
      cases tree with
      | file old => cases written
      | directory entries =>
        rw [write?, Option.map_eq_some_iff] at written
        obtain ⟨child, below, rfl⟩ := written
        cases other with
        | nil => simp [directoryAt_nil_directory]
        | cons first rest =>
          simp only [Option.mem_some, exists_eq_left', directoryAt_cons_directory,
            Keyed.lookup?_put]
          by_cases same : name = first
          · subst same
            simpa using ih below rest
          · simp [same]

/-- A file can be written in a directory where no directory has its name. -/
theorem isSome_write?_iff {place : List String} :
    (write? contents (place ++ [name]) (some tree)).isSome ↔
      tree.DirectoryAt place ∧ ¬ tree.DirectoryAt (place ++ [name]) := by
  induction place generalizing tree with
  | nil =>
    cases tree with
    | file old => simp [write?, not_directoryAt_file]
    | directory entries =>
      rw [List.nil_append, write?, Option.isSome_map]
      cases found : Keyed.lookup? name entries with
      | none => simp [write?, directoryAt_nil_directory, directoryAt_cons_directory, found]
      | some child =>
        cases child <;> simp [write?, directoryAt_nil_directory, directoryAt_cons_directory,
          found, not_directoryAt_file]
  | cons first place ih =>
    cases tree with
    | file old => simp [write?, not_directoryAt_file]
    | directory entries =>
      rw [List.cons_append, write?, Option.isSome_map]
      cases found : Keyed.lookup? first entries with
      | none =>
        have nowhere : write? contents (place ++ [name]) none = none := by
          cases place <;> rfl
        simp [nowhere, directoryAt_cons_directory, found]
      | some child => simp [ih, directoryAt_cons_directory, found]

theorem filesOf_eq (entries : List (String × FileTree)) :
    filesOf entries = entries.flatMap fun entry => entry.2.files.map (entry.1 :: ·) := by
  induction entries with
  | nil => rw [filesOf]; rfl
  | cons entry entries ih => rw [filesOf, List.flatMap_cons, ih]

theorem mem_filesOf_iff {entries : List (String × FileTree)} :
    names ∈ filesOf entries ↔
      ∃ entry ∈ entries, ∃ below ∈ entry.2.files, entry.1 :: below = names := by
  simp only [filesOf_eq, List.mem_flatMap, List.mem_map]

theorem mem_files_of_contents? (found : tree.contents? names = some contents) :
    names ∈ tree.files := by
  induction names generalizing tree with
  | nil =>
    cases tree with
    | file old => simp [files]
    | directory entries => cases found
  | cons name names ih =>
    cases tree with
    | file old => cases found
    | directory entries =>
      rw [contents?_cons_directory, Option.bind_eq_some_iff] at found
      obtain ⟨child, entry, inside⟩ := found
      rw [files]
      exact mem_filesOf_iff.2 ⟨_, Keyed.mem_of_lookup? entry, names, ih inside, rfl⟩

theorem changes_self (tree : FileTree) : changes tree tree = [] := by
  rw [changes, List.filterMap_eq_nil_iff]
  intro names _
  cases found : tree.contents? names <;> simp

/-- A file that was not there before is among the changes. -/
theorem mem_changes (new : tree.contents? names = none)
    (there : after.contents? names = some contents) : (names, contents) ∈ changes tree after := by
  rw [changes, List.mem_filterMap]
  exact ⟨names, mem_files_of_contents? there, by simp [new, there]⟩

end FileTree

namespace FileSystem

variable {fs fs' : FileSystem} {p : Path} {here names pieces place : List String}
  {contents : ByteArray}

/-- The contents of the file at one place are written, and nothing else has changed. -/
structure Written (place : List String) (contents : ByteArray) (fs fs' : FileSystem) : Prop where
  workingDirectory : fs'.workingDirectory = fs.workingDirectory
  directories : ∀ names, fs'.root.DirectoryAt names ↔ fs.root.DirectoryAt names
  contents : ∀ names, fs'.root.contents? names =
    if names = place then some contents else fs.root.contents? names

section
variable (written : Written place contents fs fs')
include written

theorem Written.contents?_place : fs'.root.contents? place = some contents :=
  (written.contents place).trans (if_pos rfl)

theorem Written.stands (there : (fs.root.find? names).isSome) :
    (fs'.root.find? names).isSome := by
  rw [FileTree.isSome_find?_iff, written.directories, written.contents]
  refine (FileTree.isSome_find?_iff.1 there).imp_right fun file => ?_
  split
  · rfl
  · exact file

/-- Apart from the place, the same names lead to something. -/
theorem Written.stands_iff (elsewhere : names ≠ place) :
    (fs'.root.find? names).isSome ↔ (fs.root.find? names).isSome := by
  rw [FileTree.isSome_find?_iff, FileTree.isSome_find?_iff, written.directories,
    written.contents, if_neg elsewhere]

/-- What could be followed before still leads to the same names. -/
theorem Written.follow (led : follow fs.root here pieces = some names) :
    follow fs'.root here pieces = some names :=
  follow_mono (fun names => (written.directories names).2) (fun _ => written.stands) led

/-- A path that leads elsewhere leads there without the file as well. -/
theorem Written.follow_iff (elsewhere : names ≠ place) :
    FileSystem.follow fs'.root here pieces = some names ↔
      FileSystem.follow fs.root here pieces = some names := by
  refine ⟨fun led => ?_, written.follow⟩
  induction pieces using List.reverseRecOn generalizing names with
  | nil => exact led
  | append_singleton front piece ih =>
    rw [follow_append] at led ⊢
    obtain ⟨directory, front_led, last_led⟩ := Option.bind_eq_some_iff.1 led
    obtain ⟨stands, reached⟩ := follow_piece_iff.1 last_led
    have other : directory ≠ place := by
      rintro rfl
      have file := written.contents?_place
      rw [stands.contents?_eq_none] at file
      cases file
    refine Option.bind_eq_some_iff.2 ⟨directory, ih other front_led, ?_⟩
    rw [written.directories] at stands
    refine follow_piece_iff.2 ⟨stands, reached.imp_right (Or.imp_right fun down => ?_)⟩
    exact ⟨down.1, down.2.1, (written.stands_iff elsewhere).1 down.2.2⟩

theorem Written.locate?_mono (located : fs.locate? p = some names) :
    fs'.locate? p = some names := by
  rw [locate?] at located ⊢
  split at located
  · cases located
  · rename_i spelled
    rw [if_neg spelled, written.workingDirectory]
    exact written.follow located

/-- A path that does not lead to the place leads where it did. -/
theorem Written.locate?_elsewhere (elsewhere : fs'.locate? p ≠ some place) :
    fs'.locate? p = fs.locate? p := by
  rw [locate?, written.workingDirectory] at elsewhere ⊢
  rw [locate?]
  split
  · rfl
  · rename_i spelled
    rw [if_neg spelled] at elsewhere
    refine Option.ext fun names => ?_
    by_cases at_place : names = place
    · subst at_place
      exact iff_of_false elsewhere fun led => elsewhere (written.follow led)
    · exact written.follow_iff at_place

/-- It exists as before. -/
theorem Written.exists?_elsewhere (elsewhere : fs'.locate? p ≠ some place) :
    fs'.exists? p = fs.exists? p := by
  have located := written.locate?_elsewhere elsewhere
  rw [exists?, exists?, get?, get?, located]
  split
  · cases found : fs.locate? p with
    | none => rfl
    | some names =>
      have other : names ≠ place := by
        rintro rfl
        exact elsewhere (located.trans found)
      exact Bool.eq_iff_iff.2 (written.stands_iff other)
  · rfl

/-- It reads as before. -/
theorem Written.readText_elsewhere (elsewhere : fs'.locate? p ≠ some place) :
    fs'.readText p = fs.readText p := by
  have located := written.locate?_elsewhere elsewhere
  rw [readText, readText, get?, get?, located]
  cases found : fs.locate? p with
  | none => simp
  | some names =>
    have other : names ≠ place := by
      rintro rfl
      exact elsewhere (located.trans found)
    have file := written.contents names
    rw [if_neg other] at file
    rw [Option.bind_some, Option.bind_some]
    rcases FileTree.find?_alike (written.directories names) file with
      ⟨nothing', nothing⟩ | ⟨_, file', file⟩ | ⟨⟨_, found'⟩, _, found⟩
    · rw [nothing', nothing]
    · rw [file', file]
    · rw [found', found]
      cases p.fits <;> rfl

end

/-! ## Writing at a path -/

/-- A file can be written at a path: it ends with a name for a file, behind the way to a directory
in which no directory has that name. -/
def Accepts (fs : FileSystem) (p : Path) (place : List String) : Prop :=
  p.fits ∧ ∃ front name directory, p.pieces = front ++ [name] ∧ Path.isFileName name ∧
    follow fs.root (if p.absolute then [] else fs.workingDirectory) front = some directory ∧
    fs.root.DirectoryAt directory ∧ ¬ fs.root.DirectoryAt (directory ++ [name]) ∧
    place = directory ++ [name]

/-- A path names one place for a file. -/
theorem Accepts.unique {other : List String} (accepts : fs.Accepts p place)
    (accepts' : fs.Accepts p other) : place = other := by
  obtain ⟨-, front, name, directory, cut, -, led, -, -, rfl⟩ := accepts
  obtain ⟨-, front', name', directory', cut', -, led', -, -, rfl⟩ := accepts'
  obtain ⟨rfl, same⟩ := List.append_inj' (cut.symm.trans cut') rfl
  rw [same, Option.some.inj (led.symm.trans led')]

theorem isName_of_isFileName {name : String} (file : Path.isFileName name) : IsName name := by
  rw [Path.isFileName, Bool.and_assoc, Bool.and_eq_true] at file
  simpa [IsName] using file.1

/-- A text is written where the path is accepted. -/
theorem writeText?_eq_some_iff {text : String} :
    fs.writeText? p text = some fs' ↔
      ∃ place root, fs.Accepts p place ∧
        FileTree.write? text.toUTF8 place (some fs.root) = some root ∧ fs' = { fs with root } := by
  rcases List.eq_nil_or_concat p.pieces with nothing | ⟨front, name, cut⟩
  · simp [writeText?, Accepts, nothing]
  rw [List.concat_eq_append] at cut
  rw [writeText?, cut, List.getLast?_concat, List.dropLast_concat]
  simp only [Option.bind_eq_bind, Option.bind_some]
  constructor
  · intro made
    split at made
    · rename_i named
      rw [Bool.and_eq_true] at named
      obtain ⟨directory, led, made⟩ := Option.bind_eq_some_iff.1 made
      obtain ⟨root, inside, same⟩ := Option.bind_eq_some_iff.1 made
      obtain ⟨stands, free⟩ := FileTree.isSome_write?_iff.1 (Option.isSome_of_eq_some inside)
      exact ⟨_, root, ⟨named.1, front, name, directory, cut, named.2, led, stands, free, rfl⟩,
        inside, (Option.some.inj same).symm⟩
    · cases made
  · rintro ⟨place, root, ⟨short, front', name', directory, cut', named, led, -, -, rfl⟩, inside,
      rfl⟩
    obtain ⟨rfl, same⟩ := List.append_inj' (cut.symm.trans cut') rfl
    obtain rfl := List.singleton_inj.1 same
    rw [short, named, Bool.and_self, if_pos rfl, led, Option.bind_some, inside]
    rfl

/-- Writing succeeds exactly at paths that accept a file. -/
theorem isSome_writeText?_iff (text : String) :
    (fs.writeText? p text).isSome ↔ ∃ place, fs.Accepts p place := by
  simp only [Option.isSome_iff_exists, writeText?_eq_some_iff]
  constructor
  · rintro ⟨_, place, root, accepts, -⟩
    exact ⟨place, accepts⟩
  · rintro ⟨place, accepts⟩
    obtain ⟨-, front, name, directory, -, -, -, stands, free, rfl⟩ := id accepts
    obtain ⟨root, inside⟩ := Option.isSome_iff_exists.1
      (FileTree.isSome_write?_iff.2 ⟨stands, free⟩)
    exact ⟨_, _, root, accepts, inside, rfl⟩

/-- If it succeeds, the text is what the place holds, and nothing else has changed. -/
theorem written_of_writeText? {text : String} (made : fs.writeText? p text = some fs') :
    ∃ place, fs.Accepts p place ∧ Written place text.toUTF8 fs fs' := by
  obtain ⟨place, root, accepts, inside, rfl⟩ := writeText?_eq_some_iff.1 made
  refine ⟨place, accepts, rfl, fun names => ?_, FileTree.contents?_write? inside⟩
  simpa using FileTree.directoryAt_write? inside names

/-- The path that was written to leads to the place. -/
theorem Written.locate? (written : Written place contents fs fs') (accepts : fs.Accepts p place) :
    fs'.locate? p = some place := by
  obtain ⟨-, front, name, directory, cut, named, led, stands, -, rfl⟩ := accepts
  rw [locate?_concat_iff cut (isName_of_isFileName named), written.workingDirectory]
  refine ⟨directory, written.follow led, (written.directories _).2 stands, rfl, ?_⟩
  rw [FileTree.isSome_find?_iff, written.contents?_place]
  exact .inr rfl

/-- What was written is read again. -/
theorem Written.readText {text : String} (written : Written place text.toUTF8 fs fs')
    (short : p.fits) (located : fs'.locate? p = some place) : fs'.readText p = .ok text := by
  have file := FileTree.contents?_eq_some_iff.1 written.contents?_place
  refine readText_eq_ok_iff.2 ⟨text.toUTF8, ?_, ?_⟩
  · rw [get?, short, if_pos rfl, located, Option.bind_some, file]
  · exact dif_pos text.isValidUTF8

end FileSystem
end MockScaffold
