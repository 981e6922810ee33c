import Mathlib.Data.List.Basic
import MockScaffold.Files.Tree

/-!
A path is followed piece by piece, so where it leads is told by where its front
leads and by its last piece. A path that leads to a file ends with the name of
that file: every other piece leads to a directory.
-/

namespace MockScaffold

/-- A piece that is followed from a directory to its entry of that name. -/
def Path.IsName (piece : String) : Prop := piece ≠ "" ∧ piece ≠ "." ∧ piece ≠ ".."

instance (piece : String) : Decidable (Path.IsName piece) :=
  inferInstanceAs (Decidable (_ ∧ _))

namespace FileTree

/-- Names are followed one after the other. -/
theorem find?_append (tree : FileTree) (names more : List String) :
    tree.find? (names ++ more) = (tree.find? names).bind (·.find? more) := by
  induction names generalizing tree with
  | nil => rfl
  | cons name names ih =>
    rw [List.cons_append, find?, find?, Option.bind_assoc]
    exact congrArg _ (funext ih)

theorem find?_name (tree : FileTree) (name : String) : tree.find? [name] = tree.child? name := by
  rw [find?]
  cases tree.child? name <;> rfl

/-- Names lead to a directory. -/
def DirectoryAt (tree : FileTree) (names : List String) : Prop :=
  ∃ entries, tree.find? names = some (.directory entries)

/-- What stands at the end of names is a directory or a file. -/
theorem isSome_find?_iff {tree : FileTree} {names : List String} :
    (tree.find? names).isSome ↔ tree.DirectoryAt names ∨ (tree.contents? names).isSome := by
  rw [contents?, DirectoryAt]
  cases tree.find? names with
  | none => simp
  | some found => cases found <;> simp

theorem contents?_eq_some_iff {tree : FileTree} {names : List String} {contents : ByteArray} :
    tree.contents? names = some contents ↔ tree.find? names = some (.file contents) := by
  rw [contents?]
  cases tree.find? names with
  | none => simp
  | some found => cases found <;> simp

theorem DirectoryAt.contents?_eq_none {tree : FileTree} {names : List String}
    (directory : tree.DirectoryAt names) : tree.contents? names = none := by
  obtain ⟨entries, found⟩ := directory
  rw [contents?, found]

/-- Trees that agree on the directories and on the contents at a place have the same there. -/
theorem find?_alike {tree tree' : FileTree} {names : List String}
    (directory : tree'.DirectoryAt names ↔ tree.DirectoryAt names)
    (file : tree'.contents? names = tree.contents? names) :
    tree'.find? names = none ∧ tree.find? names = none ∨
      (∃ contents, tree'.find? names = some (.file contents) ∧
        tree.find? names = some (.file contents)) ∨
      tree'.DirectoryAt names ∧ tree.DirectoryAt names := by
  by_cases inside : tree.DirectoryAt names
  · exact .inr (.inr ⟨directory.2 inside, inside⟩)
  · have outside := mt directory.1 inside
    simp only [DirectoryAt, contents?] at inside outside file
    cases found : tree.find? names with
    | none =>
      cases found' : tree'.find? names with
      | none => exact .inl ⟨rfl, rfl⟩
      | some tree' => cases tree' <;> simp_all
    | some tree =>
      cases found' : tree'.find? names with
      | none => cases tree <;> simp_all
      | some tree' => cases tree <;> cases tree' <;> simp_all

/-- What stands above anything is a directory. -/
theorem directoryAt_of_below {tree : FileTree} {names : List String} {name : String}
    (below : (tree.find? (names ++ [name])).isSome) : tree.DirectoryAt names := by
  obtain ⟨last, found⟩ := Option.isSome_iff_exists.1 below
  rw [find?_append] at found
  obtain ⟨above, at_names, child⟩ := Option.bind_eq_some_iff.1 found
  rw [find?_name] at child
  cases above with
  | file contents => cases child
  | directory entries => exact ⟨entries, at_names⟩

/-- What stands above a directory is a directory. -/
theorem DirectoryAt.dropLast {tree : FileTree} {names : List String}
    (directory : tree.DirectoryAt names) : tree.DirectoryAt names.dropLast := by
  rcases List.eq_nil_or_concat names with rfl | ⟨front, name, rfl⟩
  · exact directory
  · rw [List.concat_eq_append] at directory ⊢
    rw [List.dropLast_concat]
    obtain ⟨entries, found⟩ := directory
    exact directoryAt_of_below (Option.isSome_iff_exists.2 ⟨_, found⟩)

end FileTree

namespace FileSystem
open MockScaffold.Path (IsName)

variable {root : FileTree} {here place names pieces : List String} {piece name : String}

theorem follow_of_locate? {fs : FileSystem} {p : Path} (located : fs.locate? p = some place) :
    follow fs.root (if p.absolute then [] else fs.workingDirectory) p.pieces = some place := by
  rw [locate?] at located
  split at located
  · cases located
  · exact located

theorem follow_nil (root : FileTree) (here : List String) : follow root here [] = some here := rfl

theorem follow_cons (root : FileTree) (here : List String) (piece : String)
    (pieces : List String) :
    follow root here (piece :: pieces) =
      (follow root here [piece]).bind (follow root · pieces) := by
  rw [follow, follow]
  cases root.find? here with
  | none => rfl
  | some tree =>
    cases tree with
    | file contents => rfl
    | directory entries =>
      dsimp only
      split
      · rfl
      · split
        · rfl
        · split <;> rfl

/-- Pieces can be followed in two parts. -/
theorem follow_append (root : FileTree) (here pieces more : List String) :
    follow root here (pieces ++ more) =
      (follow root here pieces).bind (follow root · more) := by
  induction pieces generalizing here with
  | nil => rfl
  | cons piece pieces ih =>
    rw [List.cons_append, follow_cons, follow_cons root here piece pieces, Option.bind_assoc]
    exact congrArg _ (funext fun place => ih place)

/-- Whatever piece is followed, it stands behind a directory. -/
theorem directoryAt_of_follow (led : follow root here (piece :: pieces) = some place) :
    root.DirectoryAt here := by
  rw [follow] at led
  split at led
  · rename_i entries at_here
    exact ⟨entries, at_here⟩
  · cases led

/-- One piece is followed from a directory only: it stays there, leads up or leads to an entry. -/
theorem follow_piece_iff :
    follow root here [piece] = some place ↔
      root.DirectoryAt here ∧
        ((piece = "" ∨ piece = ".") ∧ place = here ∨ piece = ".." ∧ place = here.dropLast ∨
          IsName piece ∧ place = here ++ [piece] ∧ (root.find? place).isSome) := by
  by_cases directory : root.DirectoryAt here
  · rw [and_iff_right directory]
    obtain ⟨entries, at_here⟩ := directory
    have entry : (root.find? (here ++ [piece])).isSome = (Keyed.lookup? piece entries).isSome := by
      rw [FileTree.find?_append, at_here, Option.bind_some, FileTree.find?_name, FileTree.child?]
    rw [follow, at_here]
    dsimp only
    by_cases idle : piece = "" ∨ piece = "."
    · have noName : ¬ IsName piece := fun named => not_or.2 ⟨named.1, named.2.1⟩ idle
      have notUp : piece ≠ ".." := by
        rintro rfl
        simp at idle
      rw [if_pos idle, follow_nil, Option.some_inj, @eq_comm _ here]
      simp [idle, noName, notUp]
    · by_cases up : piece = ".."
      · subst up
        have noName : ¬ IsName ".." := by decide
        rw [if_neg idle, if_pos rfl, follow_nil, Option.some_inj, @eq_comm _ here.dropLast]
        simp [noName]
      · have named : IsName piece := ⟨(not_or.1 idle).1, (not_or.1 idle).2, up⟩
        rw [if_neg idle, if_neg up]
        constructor
        · intro led
          split at led
          · rename_i there
            obtain rfl := Option.some.inj led
            exact .inr (.inr ⟨named, rfl, entry.trans there⟩)
          · cases led
        · rintro (⟨blank, -⟩ | ⟨upwards, -⟩ | ⟨-, rfl, there⟩)
          · exact absurd blank idle
          · exact absurd upwards up
          · rw [if_pos (entry.symm.trans there), follow_nil]
  · exact iff_of_false (fun led => directory (directoryAt_of_follow led))
      fun led => directory led.1

/-- A piece stays, goes up or goes down, and always from a directory. -/
theorem follow_piece (led : follow root here [piece] = some place) :
    root.DirectoryAt here ∧
      ((piece = "" ∨ piece = ".") ∧ place = here ∨ piece = ".." ∧ place = here.dropLast ∨
        IsName piece ∧ place = here ++ [piece]) := by
  obtain ⟨directory, reached⟩ := follow_piece_iff.1 led
  exact ⟨directory, reached.imp_right (Or.imp_right fun down => ⟨down.1, down.2.1⟩)⟩

/-- Where there is more, a path still leads to where it led. -/
theorem follow_mono {root' : FileTree}
    (directories : ∀ names, root.DirectoryAt names → root'.DirectoryAt names)
    (stands : ∀ names, (root.find? names).isSome → (root'.find? names).isSome)
    (led : follow root here pieces = some place) : follow root' here pieces = some place := by
  induction pieces generalizing here with
  | nil => exact led
  | cons piece pieces ih =>
    rw [follow_cons] at led ⊢
    obtain ⟨next, first, rest⟩ := Option.bind_eq_some_iff.1 led
    refine Option.bind_eq_some_iff.2 ⟨next, ?_, ih rest⟩
    rw [follow_piece_iff] at first ⊢
    obtain ⟨directory, reached⟩ := first
    refine ⟨directories _ directory, reached.imp_right (Or.imp_right fun down => ?_)⟩
    exact ⟨down.1, down.2.1, stands _ down.2.2⟩

/-- Paths lead to the same where the same directories and the same entries stand. -/
theorem follow_congr {root' : FileTree}
    (directories : ∀ names, root'.DirectoryAt names ↔ root.DirectoryAt names)
    (stands : ∀ names, (root'.find? names).isSome ↔ (root.find? names).isSome)
    (here pieces : List String) : follow root' here pieces = follow root here pieces := by
  refine Option.ext fun place => ⟨follow_mono ?_ ?_, follow_mono ?_ ?_⟩
  · exact fun names => (directories names).1
  · exact fun names => (stands names).1
  · exact fun names => (directories names).2
  · exact fun names => (stands names).2

/-- A path is followed along names as far as there is something. -/
theorem follow_names (proper : ∀ name ∈ names, IsName name)
    (stands : (root.find? (here ++ names)).isSome) :
    follow root here names = some (here ++ names) := by
  induction names generalizing here with
  | nil => rw [List.append_nil, follow]
  | cons name names ih =>
    obtain ⟨named, others⟩ := List.forall_mem_cons.1 proper
    rw [List.append_cons] at stands ⊢
    have entry : (root.find? (here ++ [name])).isSome := by
      rw [FileTree.find?_append] at stands
      exact Option.isSome_of_isSome_bind stands
    have first : follow root here [name] = some (here ++ [name]) :=
      follow_piece_iff.2 ⟨FileTree.directoryAt_of_below entry, .inr (.inr ⟨named, rfl, entry⟩)⟩
    rw [follow_cons, first, Option.bind_some, ih others stands]

/-- Names lead nowhere else than along themselves. -/
theorem follow_names_eq (proper : ∀ name ∈ names, IsName name)
    (led : follow root here names = some place) : place = here ++ names := by
  induction names generalizing here with
  | nil => simpa using (Option.some.inj led).symm
  | cons name names ih =>
    obtain ⟨⟨nonempty, noDot, noDots⟩, others⟩ := List.forall_mem_cons.1 proper
    rw [follow_cons] at led
    obtain ⟨next, first, rest⟩ := Option.bind_eq_some_iff.1 led
    rcases (follow_piece first).2 with ⟨empty | dot, -⟩ | ⟨up, -⟩ | ⟨-, rfl⟩
    · exact absurd empty nonempty
    · exact absurd dot noDot
    · exact absurd up noDots
    · simpa using ih others rest

/-- Names that lead to a directory are a path to it. -/
theorem follow_directory (proper : ∀ name ∈ names, IsName name)
    (stands : root.DirectoryAt names) : follow root [] names = some names := by
  obtain ⟨entries, found⟩ := stands
  exact follow_names proper (Option.isSome_of_eq_some found)

/-- Where a path leads is told by names alone. -/
theorem follow_proper (led : follow root here pieces = some place)
    (proper : ∀ name ∈ here, IsName name) : ∀ name ∈ place, IsName name := by
  induction pieces generalizing here with
  | nil =>
    obtain rfl := Option.some.inj led
    exact proper
  | cons piece pieces ih =>
    rw [follow_cons] at led
    obtain ⟨next, first, rest⟩ := Option.bind_eq_some_iff.1 led
    refine ih rest ?_
    rcases (follow_piece first).2 with ⟨-, rfl⟩ | ⟨-, rfl⟩ | ⟨named, rfl⟩
    · exact proper
    · exact fun name member => proper name (List.dropLast_subset here member)
    · intro name member
      rcases List.mem_append.1 member with before | last
      · exact proper name before
      · rwa [List.mem_singleton.1 last]

/-- A path to a file leads to its directory and then to its name. -/
theorem follow_file {contents : ByteArray} (led : follow root here pieces = some place)
    (file : root.find? place = some (.file contents)) (some_piece : pieces ≠ []) :
    ∃ front name directory, pieces = front ++ [name] ∧ IsName name ∧
      follow root here front = some directory ∧ root.DirectoryAt directory ∧
      place = directory ++ [name] := by
  obtain ⟨front, last, rfl⟩ := (List.eq_nil_or_concat pieces).resolve_left some_piece
  rw [List.concat_eq_append] at led ⊢
  rw [follow_append] at led
  obtain ⟨directory, front_led, last_led⟩ := Option.bind_eq_some_iff.1 led
  obtain ⟨stands, reached⟩ := follow_piece last_led
  have elsewhere : ¬ root.DirectoryAt place := by
    rintro ⟨entries, found⟩
    rw [file] at found
    cases found
  rcases reached with ⟨-, rfl⟩ | ⟨-, rfl⟩ | ⟨named, rfl⟩
  · exact absurd stands elsewhere
  · exact absurd stands.dropLast elsewhere
  · exact ⟨front, last, directory, rfl, named, front_led, stands, rfl⟩

/-- Behind the way to a directory, the name of an entry leads to that entry. -/
theorem locate?_concat_iff {fs : FileSystem} {p : Path} {front : List String}
    (cut : p.pieces = front ++ [name]) (named : IsName name) :
    fs.locate? p = some place ↔ ∃ directory,
      follow fs.root (if p.absolute then [] else fs.workingDirectory) front = some directory ∧
        fs.root.DirectoryAt directory ∧ place = directory ++ [name] ∧
          (fs.root.find? place).isSome := by
  have spelled : p.isEmpty = false := by
    rw [Path.isEmpty, cut]
    cases front <;> simp [named.1]
  rw [locate?, spelled, cut, follow_append]
  simp only [Bool.false_eq_true, if_false, Option.bind_eq_some_iff, follow_piece_iff]
  refine exists_congr fun directory => and_congr_right fun _ => and_congr_right fun _ => ?_
  have noBlank : ¬ (name = "" ∨ name = ".") := not_or.2 ⟨named.1, named.2.1⟩
  simp [noBlank, named.2.2, named]

/-- Whatever a path ends with stands at the end of where it leads. -/
theorem locate?_name {fs : FileSystem} {p : Path} {front : List String}
    (located : fs.locate? p = some place) (cut : p.pieces = front ++ [name])
    (named : IsName name) : place.getLast? = some name := by
  have led := follow_of_locate? located
  rw [cut, follow_append] at led
  obtain ⟨directory, -, last_led⟩ := Option.bind_eq_some_iff.1 led
  rcases (follow_piece last_led).2 with ⟨empty | dot, -⟩ | ⟨up, -⟩ | ⟨-, rfl⟩
  · exact absurd empty named.1
  · exact absurd dot named.2.1
  · exact absurd up named.2.2
  · exact List.getLast?_concat

theorem get?_congr {fs : FileSystem} {p q : Path} (short : p.fits) (short' : q.fits)
    (same : fs.locate? p = fs.locate? q) : fs.get? p = fs.get? q := by
  rw [get?, get?, short, short', same]

/-- A path exists if it is short enough and leads to something. -/
theorem exists?_iff {fs : FileSystem} {p : Path} :
    fs.exists? p ↔ p.fits ∧ ∃ place, fs.locate? p = some place ∧ (fs.root.find? place).isSome := by
  rw [exists?, get?]
  cases p.fits with
  | false => simp
  | true => cases fs.locate? p <;> simp

/-- A text is read from a file, whose contents it spells. -/
theorem readText_eq_ok_iff {fs : FileSystem} {p : Path} {text : String} :
    fs.readText p = .ok text ↔
      ∃ contents, fs.get? p = some (.file contents) ∧
        String.fromUTF8? contents = some text := by
  rw [readText]
  cases at_p : fs.get? p with
  | none => simp
  | some tree =>
    cases tree with
    | directory entries => simp
    | file contents =>
      cases spelled : String.fromUTF8? contents with
      | none => simp [spelled]
      | some other => simp [spelled]

/-- Pieces without a meaning of their own can be left out at the end. -/
theorem follow_dropIdle (absolute : Bool)
    (led : follow root here pieces.reverse = some place) :
    follow root here (Path.dropIdle absolute pieces).reverse = some place := by
  induction pieces with
  | nil => exact led
  | cons piece before ih =>
    rw [Path.dropIdle]
    split
    · rename_i idle
      rw [List.reverse_cons, follow_append] at led
      obtain ⟨front, front_led, last_led⟩ := Option.bind_eq_some_iff.1 led
      have blank : piece = "" ∨ piece = "." := idle.imp_right And.left
      rcases (follow_piece last_led).2 with ⟨-, rfl⟩ | ⟨rfl, -⟩ | ⟨named, -⟩
      · exact ih front_led
      · exact absurd blank (by decide)
      · exact absurd blank (not_or.2 ⟨named.1, named.2.1⟩)
    · exact led

end FileSystem

namespace Path

variable {absolute : Bool} {name : String} {front pieces : List String}

theorem IsName.dropIdle (named : IsName name) (before : List String) :
    dropIdle absolute (name :: before) = name :: before := by
  rw [Path.dropIdle, if_neg]
  rintro (empty | ⟨dot, -⟩)
  · exact named.1 empty
  · exact named.2.1 dot

/-- Proper names all carry meaning. -/
theorem dropIdle_of_names (proper : ∀ name ∈ pieces, IsName name) :
    dropIdle absolute pieces = pieces := by
  cases pieces with
  | nil => rfl
  | cons name before => exact (proper name List.mem_cons_self).dropIdle before

/-- The parent of a path that ends with a name is what has a meaning in front of that. -/
theorem parent?_name (named : IsName name) :
    parent? ⟨absolute, front ++ [name]⟩ =
      some ⟨absolute, (dropIdle absolute front.reverse).reverse⟩ := by
  rw [parent?, List.reverse_append, List.reverse_singleton, List.singleton_append]
  dsimp only
  rw [named.dropIdle]

/-- What a relative path starts with is never left out. -/
theorem getLast?_dropIdle {first : String} (starts : pieces.getLast? = some first)
    (nonempty : first ≠ "") : (dropIdle false pieces).getLast? = some first := by
  induction pieces with
  | nil => cases starts
  | cons piece before ih =>
    rw [dropIdle]
    split
    · rename_i idle
      cases before with
      | nil =>
        obtain rfl : piece = first := Option.some.inj starts
        simp [nonempty] at idle
      | cons other rest => exact ih (by rwa [List.getLast?_cons_cons] at starts)
    · exact starts

end Path
end MockScaffold
