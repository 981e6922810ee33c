import MockScaffold.Configuration.Discovery

namespace MockScaffold

namespace Path

/-- The path that is a number of parents away. -/
def ancestor? : Path → Nat → Option Path
  | p, 0 => some p
  | p, n + 1 => p.parent?.bind fun q => q.ancestor? n

theorem chain_of_root {p : Path} (root : p.parent? = none) : p.chain = [p] := by
  rw [chain]
  split
  · rfl
  · rename_i q above
    rw [root] at above
    cases above

theorem chain_of_parent {p q : Path} (above : p.parent? = some q) : p.chain = p :: q.chain := by
  rw [chain]
  split
  · rename_i root
    rw [above] at root
    cases root
  · rename_i other same
    rw [above] at same
    rw [Option.some.inj same]

theorem chain_eq_cons (p : Path) : ∃ above, p.chain = p :: above := by
  cases above : p.parent? with
  | none => exact ⟨[], chain_of_root above⟩
  | some q => exact ⟨_, chain_of_parent above⟩

/-- The chain of a path lists the path and its parents by their distance. -/
theorem getElem?_chain (p : Path) (n : Nat) : p.chain[n]? = p.ancestor? n := by
  induction n generalizing p with
  | zero =>
    cases above : p.parent? with
    | none => rw [chain_of_root above]; rfl
    | some q => rw [chain_of_parent above]; rfl
  | succ n ih =>
    rw [ancestor?]
    cases above : p.parent? with
    | none => rw [chain_of_root above]; rfl
    | some q => rw [chain_of_parent above, List.getElem?_cons_succ, ih q, Option.bind_some]

/-- A path has no more parents than pieces. -/
theorem ancestor?_eq_none {p : Path} {n : Nat} (beyond : p.pieces.length < n) :
    p.ancestor? n = none := by
  induction n generalizing p with
  | zero => cases beyond
  | succ n ih =>
    rw [ancestor?]
    cases above : p.parent? with
    | none => rfl
    | some q =>
      have shorter := length_pieces_of_parent? above
      exact ih (by omega)

end Path

namespace Configuration

variable {present : Path → Bool} {directory start p : Path}

/-- A directory holds a configuration of some name. -/
def Holds (present : Path → Bool) (directory : Path) : Prop :=
  ∃ name ∈ fileNames, present (directory.join name)

/-- The name that counts in a directory: `.testit.json`, or else `testit.json`. -/
def Preferred (present : Path → Bool) (directory : Path) (name : String) : Prop :=
  present (directory.join name) ∧
    (name = ".testit.json" ∨ name = "testit.json" ∧ ¬ present (directory.join ".testit.json"))

theorem find?_names_eq_none_iff :
    (fileNames.map directory.join).find? present = none ↔ ¬ Holds present directory := by
  simp [Holds]

/-- Of the paths for the names in a directory, the one with the preferred name is found. -/
theorem find?_names_eq_some_iff :
    (fileNames.map directory.join).find? present = some p ↔
      ∃ name, Preferred present directory name ∧ p = directory.join name := by
  have names : fileNames.map directory.join =
      [directory.join ".testit.json", directory.join "testit.json"] := rfl
  rw [names]
  by_cases first : present (directory.join ".testit.json")
  · rw [List.find?_cons_of_pos first, Option.some_inj]
    constructor
    · rintro rfl
      exact ⟨_, ⟨first, .inl rfl⟩, rfl⟩
    · rintro ⟨name, ⟨-, rfl | ⟨-, notFirst⟩⟩, rfl⟩
      · rfl
      · exact absurd first notFirst
  · rw [List.find?_cons_of_neg first, List.find?_singleton]
    constructor
    · intro found
      split at found
      · rename_i second
        exact ⟨_, ⟨second, .inr ⟨rfl, first⟩⟩, (Option.some.inj found).symm⟩
      · cases found
    · rintro ⟨name, ⟨there, rfl | ⟨rfl, -⟩⟩, rfl⟩
      · exact absurd there first
      · rw [if_pos there]

/-- The path is the one that counts in the nearest directory that holds a configuration. -/
def IsNearest (present : Path → Bool) (start p : Path) : Prop :=
  ∃ n directory name, start.ancestor? n = some directory ∧ Preferred present directory name ∧
    p = directory.join name ∧
    ∀ m < n, ∀ nearer, start.ancestor? m = some nearer → ¬ Holds present nearer

/-- The first success, told by its place in the list. -/
theorem findSome?_eq_some_iff_getElem? {α β : Type} {f : α → Option β} {xs : List α} {b : β} :
    xs.findSome? f = some b ↔
      ∃ (n : Nat) (x : α), xs[n]? = some x ∧ f x = some b ∧
        ∀ m < n, ∀ y, xs[m]? = some y → f y = none := by
  rw [List.findSome?_eq_some_iff]
  constructor
  · rintro ⟨before, x, after, rfl, found, none⟩
    refine ⟨before.length, x, by simp, found, fun m earlier y stands => none y ?_⟩
    rw [List.getElem?_append_left earlier] at stands
    exact List.mem_of_getElem? stands
  · rintro ⟨n, x, stands, found, none⟩
    obtain ⟨inside, rfl⟩ := List.getElem?_eq_some_iff.1 stands
    refine ⟨xs.take n, _, xs.drop (n + 1), ?_, found, fun y among => ?_⟩
    · rw [List.getElem_cons_drop, List.take_append_drop]
    · obtain ⟨m, stands⟩ := List.getElem?_of_mem among
      rw [List.getElem?_take] at stands
      split at stands
      · exact none m ‹_› y stands
      · cases stands

/-- The path that is found is the one in the nearest directory that holds a configuration. -/
theorem find?_candidates_eq_some_iff :
    (candidates start).find? present = some p ↔ IsNearest present start p := by
  rw [candidates, List.find?_flatMap, findSome?_eq_some_iff_getElem?]
  simp only [Path.getElem?_chain, find?_names_eq_some_iff, find?_names_eq_none_iff]
  constructor
  · rintro ⟨n, directory, above, ⟨name, preferred, rfl⟩, nearest⟩
    exact ⟨n, directory, name, above, preferred, rfl, nearest⟩
  · rintro ⟨n, directory, name, above, preferred, rfl, nearest⟩
    exact ⟨n, directory, above, ⟨name, preferred, rfl⟩, nearest⟩

/-- None is found exactly if no directory on the way up holds one. -/
theorem find?_candidates_eq_none_iff :
    (candidates start).find? present = none ↔
      ¬ ∃ n directory, start.ancestor? n = some directory ∧ Holds present directory := by
  rw [candidates, List.find?_flatMap, List.findSome?_eq_none_iff]
  simp only [find?_names_eq_none_iff, List.mem_iff_getElem?, Path.getElem?_chain]
  constructor
  · rintro none ⟨n, directory, above, holds⟩
    exact none directory ⟨n, above⟩ holds
  · rintro none directory ⟨n, above⟩ holds
    exact none ⟨n, directory, above, holds⟩

theorem discover_cases (fs : FileSystem) (start : Path) :
    findFile? fs start = none ∧ discover fs start = .ok defaults ∨
      ∃ p, findFile? fs start = some p ∧ discover fs start = loadFile fs p := by
  rw [discover]
  cases findFile? fs start with
  | none => exact .inl ⟨rfl, rfl⟩
  | some p => exact .inr ⟨p, rfl, rfl⟩

/-- The name under which a configuration is looked for besides the main one. -/
def otherFileName : String := "testit.json"

/-- The configuration that counts along directories, the first of which counts most. -/
def discoverAlong (fs : FileSystem) : List Path → Except ConfigError Configuration
  | [] => .ok defaults
  | directory :: directories =>
    if fs.exists? (directory.join mainFileName) then loadFile fs (directory.join mainFileName)
    else if fs.exists? (directory.join otherFileName) then
      loadFile fs (directory.join otherFileName)
    else discoverAlong fs directories

/-- To discover a configuration is to go up along the directories of the chain. -/
theorem discover_eq_along (fs : FileSystem) (start : Path) :
    discover fs start = discoverAlong fs start.chain := by
  rw [discover, findFile?, candidates]
  induction start.chain with
  | nil => rfl
  | cons directory directories ih =>
    have names : fileNames.map directory.join =
        [directory.join mainFileName, directory.join otherFileName] := rfl
    rw [List.flatMap_cons, names, discoverAlong, ← ih]
    by_cases first : fs.exists? (directory.join mainFileName)
    · simp [first]
    · by_cases second : fs.exists? (directory.join otherFileName)
      · simp [first, second]
      · simp [first, second]

/-- Among whatever paths, the search ends with the preferred file of the nearest directory that
holds one, or with none if there is no such directory. The configuration is the default in that
case, and otherwise what the file says, be that an error. -/
theorem discover_nearest :
    (∀ (present : Path → Bool) (start : Path),
      start.ancestor? (start.pieces.length + 1) = none ∧
      (∀ p, (candidates start).find? present = some p ↔ IsNearest present start p) ∧
      ((candidates start).find? present = none ↔
        ¬ ∃ n directory, start.ancestor? n = some directory ∧ Holds present directory)) ∧
    ∀ (fs : FileSystem) (start : Path),
      findFile? fs start = (candidates start).find? fs.exists? ∧
      (findFile? fs start = none ∧ discover fs start = .ok defaults ∨
        ∃ p, findFile? fs start = some p ∧ discover fs start = loadFile fs p) ∧
      ∀ reason, discover fs start = .error reason ↔
        ∃ p, IsNearest fs.exists? start p ∧ loadFile fs p = .error reason := by
  refine ⟨fun present start => ⟨Path.ancestor?_eq_none (Nat.lt_succ_self _), ?_, ?_⟩,
    fun fs start => ⟨rfl, discover_cases fs start, fun reason => ?_⟩⟩
  · exact fun p => find?_candidates_eq_some_iff
  · exact find?_candidates_eq_none_iff
  · have found (p : Path) : IsNearest fs.exists? start p ↔ findFile? fs start = some p :=
      find?_candidates_eq_some_iff.symm
    rcases discover_cases fs start with ⟨none, same⟩ | ⟨p, only, same⟩
    · simp [found, same, none]
    · simp [found, same, only]

end Configuration
end MockScaffold
