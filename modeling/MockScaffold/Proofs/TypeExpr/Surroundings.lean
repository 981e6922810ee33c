import Mathlib.Data.List.DropRight
import MockScaffold.Proofs.TypeExpr.RoundTrip

namespace MockScaffold.TypeExpr
open Text

/-- Two signatures come out alike: they spell one type, or each is refused with its own text. -/
def SameOutcome (s t : String) : Prop :=
  (∃ u, parse s = .ok u ∧ parse t = .ok u) ∨ (parse s = .error ⟨s⟩ ∧ parse t = .error ⟨t⟩)

theorem sameOutcome_of_parseChars? {s t : String}
    (same : parseChars? s.toList = parseChars? t.toList) : SameOutcome s t := by
  cases read : parseChars? t.toList with
  | none =>
    rw [read] at same
    exact .inr ⟨parse_eq_error_iff.2 ⟨same, rfl⟩, parse_eq_error_iff.2 ⟨read, rfl⟩⟩
  | some u =>
    rw [read] at same
    exact .inl ⟨u, parse_eq_ok_iff.2 same, parse_eq_ok_iff.2 read⟩

theorem SameOutcome.parse_eq {s t : String} {u : TypeExpr} (same : SameOutcome s t)
    (read : parse t = .ok u) : parse s = .ok u := by
  rcases same with ⟨v, first, second⟩ | ⟨-, refused⟩
  · rw [read] at second
    cases second
    exact first
  · rw [read] at refused
    cases refused

/-- Whether a character is part of a label. -/
def isPlain (c : Char) : Bool := (Mark.ofChar? c).isNone

/-- The part of a text behind its last mark. -/
def lastRun (cs : List Char) : List Char := cs.rtakeWhile isPlain

def firstRun (cs : List Char) : List Char := cs.takeWhile isPlain

theorem isPlain_iff {c : Char} : isPlain c = true ↔ Mark.ofChar? c = none := by simp [isPlain]

theorem unmarked_lastRun (cs : List Char) : Unmarked (lastRun cs) := by
  intro c member
  exact isPlain_iff.1 (List.mem_rtakeWhile_imp member)

theorem lastRun_mark {c : Char} {mark : Mark} (marked : Mark.ofChar? c = some mark)
    (cs : List Char) : lastRun (cs ++ [c]) = [] := by
  apply List.rtakeWhile_concat_neg
  simp [isPlain, marked]

theorem lastRun_plain {c : Char} (plain : Mark.ofChar? c = none) (cs : List Char) :
    lastRun (cs ++ [c]) = lastRun cs ++ [c] := by
  apply List.rtakeWhile_concat_pos
  simp [isPlain, plain]

theorem firstRun_mark {c : Char} {mark : Mark} (marked : Mark.ofChar? c = some mark)
    (cs : List Char) : firstRun (c :: cs) = [] := by
  apply List.takeWhile_cons_of_neg
  simp [isPlain, marked]

theorem firstRun_plain {c : Char} (plain : Mark.ofChar? c = none) (cs : List Char) :
    firstRun (c :: cs) = c :: firstRun cs := by
  apply List.takeWhile_cons_of_pos
  simp [isPlain, plain]

/-- What stands before a place keeps its segments, but for the label that has begun there. -/
theorem segments_before (front : List Char) :
    ∃ done, ∀ back, segments (front ++ back) = done ++ segments (lastRun front ++ back) := by
  induction front using List.reverseRecOn with
  | nil => exact ⟨[], fun back => rfl⟩
  | append_singleton front c ih =>
    obtain ⟨done, split⟩ := ih
    cases marked : Mark.ofChar? c with
    | none =>
      refine ⟨done, fun back => ?_⟩
      rw [lastRun_plain marked, List.append_assoc, split, List.append_assoc]
    | some mark =>
      refine ⟨done ++ [⟨trim (lastRun front), mark⟩], fun back => ?_⟩
      rw [lastRun_mark marked, List.append_assoc, split, List.singleton_append,
        segments_marked (unmarked_lastRun front) marked]
      simp

/-- What stands behind a place keeps its segments, but for the label that ends there. -/
theorem segments_behind (back : List Char) :
    ∃ mark more, ∀ run, Unmarked run →
      segments (run ++ back) = ⟨trim (run ++ firstRun back), mark⟩ :: more := by
  induction back with
  | nil =>
    refine ⟨.ends, [], fun run unmarked => ?_⟩
    simp [firstRun, segments_unmarked unmarked]
  | cons c back ih =>
    cases marked : Mark.ofChar? c with
    | none =>
      obtain ⟨mark, more, split⟩ := ih
      refine ⟨mark, more, fun run unmarked => ?_⟩
      have longer : Unmarked (run ++ [c]) := unmarked_concat unmarked marked
      rw [firstRun_plain marked, List.append_cons run c back,
        List.append_cons run c (firstRun back), split _ longer]
    | some mark =>
      refine ⟨mark, segments back, fun run unmarked => ?_⟩
      rw [segments_marked unmarked marked, firstRun_mark marked, List.append_nil]

/-- A run without structure that is put in at a place becomes part of the label there. -/
theorem segments_around (front back : List Char) :
    ∃ done mark more, ∀ run, Unmarked run →
      segments (front ++ (run ++ back)) =
        done ++ ⟨trim (lastRun front ++ run ++ firstRun back), mark⟩ :: more := by
  obtain ⟨done, before⟩ := segments_before front
  obtain ⟨mark, more, behind⟩ := segments_behind back
  refine ⟨done, mark, more, fun run unmarked => ?_⟩
  have whole := behind _ (unmarked_append (unmarked_lastRun front) unmarked)
  rw [before, ← List.append_assoc, whole]

/-- What is read alike wherever it stands is read alike behind any segments. -/
theorem readFrom_append_congr {segs others : List Segment}
    (same : ∀ frames before, readFrom frames before segs = readFrom frames before others)
    (done : List Segment) (frames : List Frame) (before : List Outline) :
    readFrom frames before (done ++ segs) = readFrom frames before (done ++ others) := by
  induction done generalizing frames before with
  | nil => exact same frames before
  | cons s done ih =>
    obtain ⟨label, mark⟩ := s
    cases mark with
    | opens => simp only [List.cons_append, readFrom, ih]
    | separates => simp only [List.cons_append, readFrom, ih]
    | closes => simp only [List.cons_append, readFrom, ih]
    | ends => rfl

theorem parseChars?_congr {cs ds : List Char}
    (same : readFrom [] [] (segments cs) = readFrom [] [] (segments ds)) :
    parseChars? cs = parseChars? ds := by
  rw [parseChars?, parseChars?, outlines?, outlines?, same]

end MockScaffold.TypeExpr
