import Mathlib.Data.List.Lex
import MockScaffold.Proofs.TypeExpr.Cursor

/-!
The cursor never goes back: the places of all open lists, outermost first, are a
clock that every moment sets forward. What is found does not change from one
moment to the next, and it is what the segments of the text say.
-/

namespace MockScaffold.TypeExpr
open Text

variable {fallback s : String} {list : Scan} {m m' : Moment}

/-- The places of the lists that wait, outermost first. -/
def ticks (waiting : List Scan) : List Nat :=
  (waiting.map fun outer => 2 * outer.position + 1).reverse

/-- The places of all open lists, outermost first. At one place a list is entered first, then read,
and left last. -/
def Moment.clock : Moment → List Nat
  | .enters start _ waiting => ticks waiting ++ [2 * start]
  | .reads list waiting => ticks waiting ++ [2 * list.position + 1]
  | .leaves _ stop _ waiting => ticks waiting ++ [2 * stop + 2]
  | .refuses => []

theorem ticks_cons (outer : Scan) (waiting : List Scan) :
    ticks (outer :: waiting) = ticks waiting ++ [2 * outer.position + 1] := by
  simp [ticks]

theorem lt_of_lex {times : List Nat} {n n' : Nat}
    (less : List.Lex (· < ·) (times ++ [n]) (times ++ [n'])) : n < n' := by
  induction times with
  | nil =>
    cases less with
    | rel less => exact less
    | cons less => cases less
  | cons time times ih =>
    cases less with
    | rel less => exact absurd less (Nat.lt_irrefl time)
    | cons less => exact ih less

theorem lex_last (times : List Nat) {n n' : Nat} (less : n < n') (rest : List Nat) :
    List.Lex (· < ·) (times ++ n :: rest) (times ++ [n']) :=
  List.Lex.append_left _ (.rel less) times

/-- Every moment but a refusal is later than the one before. -/
theorem Moment.Sound.clock_next (sound : m.Sound s) :
    ∀ m' ∈ m.next? fallback s, m' ≠ .refuses → List.Lex (· < ·) m.clock m'.clock := by
  fun_cases Moment.next? fallback s m with
  | case1 | case5 | case7 | case9 => rintro _ ⟨⟩ other; exact absurd rfl other
  | case2 start => rintro _ ⟨⟩ -; exact lex_last _ (Nat.lt_succ_self (2 * start)) []
  | case3 => rintro _ ⟨⟩ -; exact lex_last _ (by dsimp only; omega) []
  | case4 list waiting =>
    rintro _ ⟨⟩ -
    rw [clock, clock, ticks_cons, List.append_assoc]
    exact List.Lex.append_left _ (.cons .nil) _
  | case6 list waiting marked read placed | case8 list waiting marked read placed
  | case10 list waiting marked read placed =>
    obtain ⟨types, -, rfl⟩ := Scan.placed?_eq_some_iff.1 placed
    rintro _ ⟨⟩ -
    exact lex_last _ (by dsimp only [Scan.onward, Scan.holding]; omega) []
  | case11 inner stop mark outer waiting =>
    -- The list inside started behind the cursor that waited for it.
    obtain ⟨-, -, forward, -, -, -, start, -, -⟩ := sound
    rintro _ ⟨⟩ -
    rw [clock, clock, ticks_cons, List.append_assoc]
    exact lex_last _ (by dsimp only [Scan.onward]; omega) _
  | case12 | case13 => rintro _ ⟨⟩

/-- While reading goes on, the clock goes forward. -/
theorem Moment.Occurs.clock_run (occurs : m.Occurs fallback s)
    (run : Relation.TransGen (Leads fallback s) m m') :
    m' ≠ .refuses → List.Lex (· < ·) m.clock m'.clock := by
  induction run with
  | single leads => exact occurs.sound.clock_next _ leads
  | @tail between last run leads ih =>
    have later : between.Occurs fallback s := occurs.trans run.to_reflTransGen
    have going : between ≠ .refuses := by
      rintro rfl
      cases leads
    intro other
    exact List.lex_trans Nat.lt_trans (ih going) (later.sound.clock_next _ leads other)

/-- Whatever lies between two moments at which one list is read, its cursor has moved forward. -/
theorem Moment.Occurs.position_lt {list' : Scan} {waiting : List Scan}
    (occurs : (reads list waiting).Occurs fallback s)
    (run : Relation.TransGen (Leads fallback s) (reads list waiting) (reads list' waiting)) :
    list.position < list'.position := by
  have less := lt_of_lex (occurs.clock_run run (by rintro ⟨⟩))
  omega

/-- Where a label ends, the text can be cut around it. -/
theorem Scan.Sound.cut (sound : list.Sound s) (boundary : IsBoundary s list.position) :
    ∃ run back, Unmarked run ∧ charsFrom list.labelStart s.toList = run ++ back ∧
      charsFrom list.position s.toList = back ∧
      slice? s list.labelStart list.position = some (.ofList run) := by
  obtain ⟨front, more, split, first⟩ := isBoundary_iff.1 sound.label
  obtain ⟨front', back, split', last⟩ := isBoundary_iff.1 boundary
  obtain ⟨run, rfl, rfl⟩ := exists_append_of_width_le (split.symm.trans split')
    (by rw [first, last]; exact sound.reached)
  refine ⟨run, back, unmarked_of_markAt? split ?_, ?_, ?_, slice?_eq_some split first last⟩
  · rw [first, last]
    exact sound.plain
  · rw [← first, split, charsFrom_width]
  · rw [← last, split', charsFrom_width]

theorem Scan.label_eq {run : List Char}
    (cut : slice? s list.labelStart list.position = some (.ofList run)) :
    list.label fallback s = trim run := by
  rw [label, cut, Option.getD_some, String.toList_ofList]

theorem Moment.Sound.labelled (sound : m.Sound s) (labelled : m.labelled? s = some list) :
    list.Sound s ∧ IsBoundary s list.position := by
  unfold labelled? at labelled
  split at labelled
  · obtain ⟨sound, -⟩ := sound
    split at labelled
    · cases labelled
    · cases labelled
    · rename_i mark _ marked
      cases labelled
      exact ⟨sound, sound.isBoundary marked⟩
  · obtain ⟨-, -, -, -, sound, marked, -⟩ := sound
    cases labelled
    exact ⟨sound, sound.isBoundary marked⟩
  · cases labelled

/-- The next moment depends on no label but the one that is cut out. -/
theorem Moment.next?_congr {fallback' : String}
    (same : ∀ list, m.labelled? s = some list → list.label fallback' s = list.label fallback s) :
    m.next? fallback' s = m.next? fallback s := by
  cases m with
  | enters => rfl
  | reads list waiting =>
    cases marked : markAt? s list.position with
    | none => simp only [next?, marked]
    | some mark =>
      cases mark with
      | opens => simp only [next?, marked]
      | separates | closes | ends =>
        have label := same list (by simp only [labelled?, marked])
        simp only [next?, marked, Scan.placed?, label]
  | leaves list stop mark waiting =>
    cases waiting with
    | nil => rfl
    | cons outer waiting => simp only [next?, Scan.resumed, Scan.frame, same outer rfl]
  | refuses => rfl

/-- The text that stands in for labels which cannot be cut is never used. -/
theorem Moment.Occurs.next?_eq (occurs : m.Occurs fallback s) (fallback' : String) :
    m.next? fallback' s = m.next? fallback s := by
  apply next?_congr
  intro list labelled
  obtain ⟨sound, boundary⟩ := occurs.sound.labelled labelled
  obtain ⟨run, -, -, -, -, cut⟩ := sound.cut boundary
  rw [Scan.label_eq cut, Scan.label_eq cut]

/-! ## What is found -/

/-- A label and the mark behind it are the next segment. -/
theorem Scan.Sound.segments_mark (sound : list.Sound s) {mark : Mark}
    (marked : markAt? s list.position = some mark) (inside : mark ≠ .ends) :
    segments (charsFrom list.labelStart s.toList) =
      ⟨list.label fallback s, mark⟩ :: segments (charsFrom (list.position + 1) s.toList) := by
  obtain ⟨front, c, back, split, there, char⟩ := (markAt?_char_iff inside).1 marked
  obtain ⟨run, more, plain, from_label, from_mark, cut⟩ := sound.cut (sound.isBoundary marked)
  have behind : charsFrom (list.position + 1) s.toList = back := by
    have next : width (front ++ [c]) = list.position + 1 := by
      simp [there, Mark.utf8Size_eq char]
    rw [← next, split, List.append_cons front c back, charsFrom_width]
  rw [← there, split, charsFrom_width] at from_mark
  rw [from_label, ← from_mark, segments_marked plain char, label_eq cut, behind]

theorem Scan.Sound.charsFrom_end (sound : list.Sound s)
    (ended : markAt? s list.position = some .ends) : charsFrom list.position s.toList = [] := by
  have all := charsFrom_width s.toList []
  rw [List.append_nil, ← utf8ByteSize_eq, ← sound.at_end ended] at all
  exact all

/-- The label at the end of the text is the last segment. -/
theorem Scan.Sound.segments_end (sound : list.Sound s)
    (ended : markAt? s list.position = some .ends) :
    segments (charsFrom list.labelStart s.toList) = [⟨list.label fallback s, .ends⟩] := by
  obtain ⟨run, back, plain, from_label, from_end, cut⟩ := sound.cut (sound.isBoundary ended)
  rw [sound.charsFrom_end ended] at from_end
  rw [from_label, ← from_end, List.append_nil, segments_unmarked plain, label_eq cut]

/-- At the end of the text, a list is closed with all that wait. -/
theorem readFrom_nothing (frames : List Frame) (before : List Outline) :
    readFrom frames before (segments []) = some (closeAll before frames) := by
  have empty : segments [] = [⟨[], .ends⟩] := rfl
  rw [empty, readFrom, place_nil]
  rfl

/-- The lists that wait, as they go on once the list inside has ended. -/
def framesOf (fallback s : String) (waiting : List Scan) : List Frame :=
  waiting.map (Scan.frame fallback s)

/-- The types that are found if the segments of the rest are read from a moment on, last first. -/
def Moment.outcome (fallback s : String) : Moment → Option (List Outline)
  | .enters start depth waiting =>
    if depth ≤ maxOpen then
      readFrom (framesOf fallback s waiting) [] (segments (charsFrom start s.toList))
    else none
  | .reads list waiting =>
    readFrom (framesOf fallback s waiting) list.before
      (segments (charsFrom list.labelStart s.toList))
  | .leaves list _ _ [] => some list.before
  | .leaves list stop _ (outer :: waiting) =>
    readFrom (framesOf fallback s waiting) ((outer.frame fallback s).resume list.before)
      (segments (charsFrom stop s.toList))
  | .refuses => none

theorem Moment.outcome_reads (waiting : List Scan) :
    (reads list waiting).outcome fallback s =
      readFrom (framesOf fallback s waiting) list.before
        (segments (charsFrom list.labelStart s.toList)) := rfl

/-- What is found stays the same from one moment to the next. -/
theorem Moment.Sound.outcome_next (sound : m.Sound s) :
    ∀ m' ∈ m.next? fallback s, m'.outcome fallback s = m.outcome fallback s := by
  fun_cases Moment.next? fallback s m with
  | case1 start depth waiting deep =>
    rintro _ ⟨⟩
    exact (if_neg (Nat.not_le.2 deep)).symm
  | case2 start depth waiting shallow =>
    rintro _ ⟨⟩
    exact (if_pos (Nat.not_lt.1 shallow)).symm
  | case3 => rintro _ ⟨⟩; rfl
  | case4 list waiting marked =>
    obtain ⟨sound, waits⟩ := sound
    have around : (framesOf fallback s waiting).length = list.depth := by
      rw [framesOf, List.length_map, waits.length]
    rintro _ ⟨⟩
    rw [outcome_reads, sound.segments_mark marked (by decide), readFrom, around]
    rfl
  | case5 list waiting marked placed | case7 list waiting marked placed =>
    obtain ⟨sound, -⟩ := sound
    have unplaced := Scan.placed?_eq_none_iff.1 placed
    rintro _ ⟨⟩
    rw [outcome_reads, sound.segments_mark marked (by decide), readFrom, unplaced]
    rfl
  | case6 list waiting marked read placed =>
    obtain ⟨sound, -⟩ := sound
    obtain ⟨types, found, rfl⟩ := Scan.placed?_eq_some_iff.1 placed
    rintro _ ⟨⟩
    rw [outcome_reads, outcome_reads, sound.segments_mark marked (by decide), readFrom, found]
    rfl
  | case8 list waiting marked read placed =>
    obtain ⟨sound, -⟩ := sound
    obtain ⟨types, found, rfl⟩ := Scan.placed?_eq_some_iff.1 placed
    rintro _ ⟨⟩
    rw [outcome_reads, sound.segments_mark marked (by decide), readFrom, found]
    cases waiting with
    | nil => rfl
    | cons outer waiting => rfl
  | case9 list waiting marked placed =>
    obtain ⟨sound, -⟩ := sound
    have unplaced := Scan.placed?_eq_none_iff.1 placed
    rintro _ ⟨⟩
    rw [outcome_reads, sound.segments_end marked, readFrom, unplaced]
    rfl
  | case10 list waiting marked read placed =>
    obtain ⟨sound, -⟩ := sound
    obtain ⟨types, found, rfl⟩ := Scan.placed?_eq_some_iff.1 placed
    rintro _ ⟨⟩
    rw [outcome_reads, sound.segments_end marked, readFrom, found]
    cases waiting with
    | nil => rfl
    | cons outer waiting =>
      -- The lists around come to the end of the text in turn, each with nothing more to read.
      rw [outcome, Scan.holding, sound.charsFrom_end marked, readFrom_nothing]
      rfl
  | case11 => rintro _ ⟨⟩; rfl
  | case12 | case13 => rintro _ ⟨⟩

/-- What is still to be found at a moment is what the text lists. -/
theorem Moment.Occurs.outcome_eq (occurs : m.Occurs fallback s) :
    m.outcome fallback s = readFrom [] [] (segments s.toList) := by
  induction occurs with
  | refl =>
    rw [outcome, if_pos (Nat.zero_le _), charsFrom]
    rfl
  | tail occurs leads ih => rw [← ih, Sound.outcome_next (Occurs.sound occurs) _ leads]

theorem Moment.types?_of_last (fallback s : String) (m : Moment) :
    m.next? fallback s = none → m.types? = (m.outcome fallback s).map List.reverse := by
  fun_cases Moment.next? fallback s m with
  | case12 | case13 => intro _; rfl
  | _ => intro still; cases still

/-- Reading comes to an end, and the last moment holds what the segments say. -/
theorem Moment.exists_occurs_last (fallback s : String) :
    ∃ m : Moment, m.Occurs fallback s ∧ m.next? fallback s = none ∧
      m.types? = outlines? s.toList := by
  obtain ⟨m, occurs, still⟩ := exists_last fallback s (.enters 0 0 [])
  refine ⟨m, occurs, still, ?_⟩
  rw [types?_of_last fallback s m still, Occurs.outcome_eq occurs, outlines?]

/-- Whatever a text is, and whatever stands in for a label that cannot be cut out of it, reading it
with a cursor comes to an end and finds what its segments say. Every list starts at a boundary
inside of the text. A list that has been read ends inside of the text and not before its start,
and behind its start if a `>` has ended it. From one byte that the cursor of a list looks at to any
later one, it has moved forward, also across the lists inside. At most one list more than `maxOpen`
is open below the outermost one. Every label is cut out between two boundaries of the text that are
in order, so nothing ever stands in for one. -/
theorem cursor_sound (fallback s : String) :
    (∃ m : Moment, m.Occurs fallback s ∧ m.next? fallback s = none ∧
      m.types? = outlines? s.toList) ∧
    (∀ start depth waiting, (Moment.enters start depth waiting).Occurs fallback s →
      start ≤ s.utf8ByteSize ∧ IsBoundary s start ∧ waiting.length = depth) ∧
    (∀ list stop mark waiting, (Moment.leaves list stop mark waiting).Occurs fallback s →
      list.start ≤ stop ∧ stop ≤ s.utf8ByteSize ∧ (mark = .closes → list.start < stop)) ∧
    (∀ list list' waiting, (Moment.reads list waiting).Occurs fallback s →
      Relation.TransGen (Moment.Leads fallback s) (.reads list waiting) (.reads list' waiting) →
        list.position < list'.position) ∧
    (∀ m : Moment, m.Occurs fallback s → m.waiting.length ≤ maxOpen + 1) ∧
    (∀ (m : Moment) (list : Scan), m.Occurs fallback s → m.labelled? s = some list →
      list.labelStart ≤ list.position ∧ list.position ≤ s.utf8ByteSize ∧
        IsBoundary s list.labelStart ∧ IsBoundary s list.position ∧
        (slice? s list.labelStart list.position).isSome) ∧
    ∀ (m : Moment) (fallback' : String), m.Occurs fallback s →
      m.next? fallback' s = m.next? fallback s := by
  refine ⟨Moment.exists_occurs_last fallback s, ?_, ?_, ?_, ?_, ?_, ?_⟩
  · intro start depth waiting occurs
    obtain ⟨boundary, waits⟩ := occurs.sound
    exact ⟨boundary.le, boundary, waits.length⟩
  · intro list stop mark waiting occurs
    obtain ⟨-, boundary, forward, closed, -⟩ := occurs.sound
    exact ⟨forward, boundary.le, closed⟩
  · intro list list' waiting occurs run
    exact occurs.position_lt run
  · intro m occurs
    exact occurs.sound.length_waiting_le
  · intro m list occurs labelled
    obtain ⟨sound, boundary⟩ := occurs.sound.labelled labelled
    obtain ⟨run, -, -, -, -, cut⟩ := sound.cut boundary
    exact ⟨sound.reached, sound.inside, sound.label, boundary, Option.isSome_iff_exists.2 ⟨_, cut⟩⟩
  · intro m fallback' occurs
    exact occurs.next?_eq fallback'

/-- A list inside, entered behind a character of two bytes and ended by its `>`. -/
theorem cursor_sound_accented :
    (Moment.leaves ⟨3, 1, 3, 3, []⟩ 4 .closes [⟨0, 0, 0, 2, []⟩]).Occurs "" "é<>" ∧ 3 < 4 ∧
      IsBoundary "é<>" 3 ∧ ¬ IsBoundary "é<>" 1 ∧ IsBoundary "é<>" 2 ∧
      (slice? "é<>" 0 2).isSome := by
  have whole : (Moment.enters 0 0 []).Leads "" "é<>" (.reads ⟨0, 0, 0, 0, []⟩ []) := rfl
  have half : (Moment.reads ⟨0, 0, 0, 0, []⟩ []).Leads "" "é<>" (.reads ⟨0, 0, 0, 1, []⟩ []) := rfl
  have label : (Moment.reads ⟨0, 0, 0, 1, []⟩ []).Leads "" "é<>" (.reads ⟨0, 0, 0, 2, []⟩ []) := rfl
  have opens : (Moment.reads ⟨0, 0, 0, 2, []⟩ []).Leads "" "é<>"
      (.enters 3 1 [⟨0, 0, 0, 2, []⟩]) := rfl
  have inside : (Moment.enters 3 1 [⟨0, 0, 0, 2, []⟩]).Leads "" "é<>"
      (.reads ⟨3, 1, 3, 3, []⟩ [⟨0, 0, 0, 2, []⟩]) := rfl
  have closes : (Moment.reads ⟨3, 1, 3, 3, []⟩ [⟨0, 0, 0, 2, []⟩]).Leads "" "é<>"
      (.leaves ⟨3, 1, 3, 3, []⟩ 4 .closes [⟨0, 0, 0, 2, []⟩]) := rfl
  have entered : (Moment.enters 3 1 [⟨0, 0, 0, 2, []⟩]).Occurs "" "é<>" :=
    .head whole (.head half (.head label (.head opens .refl)))
  have left : (Moment.leaves ⟨3, 1, 3, 3, []⟩ 4 .closes [⟨0, 0, 0, 2, []⟩]).Occurs "" "é<>" :=
    .tail (.tail entered inside) closes
  obtain ⟨-, enters, leaves, -, -, labels, -⟩ := cursor_sound "" "é<>"
  obtain ⟨-, start, -⟩ := enters 3 1 _ entered
  obtain ⟨-, -, forward⟩ := leaves _ 4 _ _ left
  obtain ⟨-, -, -, cut, found⟩ := labels _ ⟨0, 0, 0, 2, []⟩ left rfl
  exact ⟨left, forward rfl, start, by decide, cut, found⟩

end MockScaffold.TypeExpr
