import Mathlib.Data.List.Infix
import MockScaffold.Proofs.TypeExpr.Places
import MockScaffold.Proofs.TypeExpr.Surroundings

/-!
A comma beside another mark, and a `>` at the end of a signature, add a label
that is empty, and an empty label places nothing. The end of a text closes what
is open just as `>` does; where nothing is open, a `>` ends the part that counts.
-/

namespace MockScaffold.TypeExpr
open Text

/-- Where a text begins or ends, directly behind a mark, or directly before `,` or `>`. -/
def ForComma (front back : List Char) : Prop :=
  (∀ c ∈ front.getLast?, c ∈ ['<', ',', '>']) ∨ ∀ c ∈ back.head?, c ∈ [',', '>']

theorem lastRun_eq_nil {front : List Char} (marks : ∀ c ∈ front.getLast?, c ∈ ['<', ',', '>']) :
    lastRun front = [] := by
  rcases List.eq_nil_or_concat front with rfl | ⟨front, c, rfl⟩
  · rfl
  · rw [List.concat_eq_append] at marks ⊢
    have last : c ∈ ['<', ',', '>'] := marks c (by simp)
    simp only [List.mem_cons, List.not_mem_nil, or_false] at last
    rcases last with rfl | rfl | rfl
    · exact lastRun_mark rfl front
    · exact lastRun_mark rfl front
    · exact lastRun_mark rfl front

theorem follows_of_head? {back : List Char} (marks : ∀ c ∈ back.head?, c ∈ [',', '>']) :
    Follows back := by
  cases back with
  | nil => exact .nothing
  | cons c back =>
    have first : c ∈ [',', '>'] := marks c rfl
    simp only [List.mem_cons, List.not_mem_nil, or_false] at first
    rcases first with rfl | rfl
    · exact .comma back
    · exact .close back

/-- A comma behind nothing places nothing. -/
theorem readFrom_empty_separates (frames : List Frame) (before : List Outline)
    (segs : List Segment) :
    readFrom frames before (⟨[], .separates⟩ :: segs) = readFrom frames before segs := by
  simp [readFrom, place_nil]

/-- A comma behind a label places it, which the mark behind the comma would have done. -/
theorem readFrom_separates_empty {mark : Mark} (other : mark ≠ .opens) (label : List Char)
    (frames : List Frame) (before : List Outline) (more : List Segment) :
    readFrom frames before (⟨label, .separates⟩ :: ⟨[], mark⟩ :: more) =
      readFrom frames before (⟨label, mark⟩ :: more) := by
  cases placed : place label before with
  | none =>
    cases mark with
    | opens => exact absurd rfl other
    | separates => simp [readFrom, placed]
    | closes => simp [readFrom, placed]
    | ends => simp [readFrom, placed]
  | some list =>
    rw [readFrom_placed other placed, readFrom, placed]
    rfl

theorem readFrom_comma_inserted {front back : List Char} (place : ForComma front back)
    (frames : List Frame) (before : List Outline) :
    readFrom frames before (segments (front ++ ',' :: back)) =
      readFrom frames before (segments (front ++ back)) := by
  obtain ⟨done, split⟩ := segments_before front
  rw [split, split, segments_marked (unmarked_lastRun front) rfl]
  apply readFrom_append_congr
  intro frames before
  rcases place with behind | ahead
  · rw [lastRun_eq_nil behind]
    exact readFrom_empty_separates frames before (segments back)
  · obtain ⟨mark, more, other, segmented⟩ := (follows_of_head? ahead).segments_eq
    have bare : segments back = ⟨[], mark⟩ :: more := segmented [] unmarked_nil
    rw [segmented _ (unmarked_lastRun front), bare]
    exact readFrom_separates_empty other _ frames before more

/-- A `>` at the end closes the innermost list, and the end of the text all the others. -/
theorem readFrom_closes_ends (label : List Char) (frames : List Frame) (before : List Outline) :
    readFrom frames before [⟨label, .closes⟩, ⟨[], .ends⟩] =
      readFrom frames before [⟨label, .ends⟩] := by
  cases placed : place label before with
  | none => simp [readFrom, placed]
  | some list =>
    cases frames with
    | nil => simp [readFrom, placed, closeAll]
    | cons frame frames => simp [readFrom, placed, place_nil, closeAll]

/-- A closing bracket at the end changes nothing. -/
theorem parseChars?_close (cs : List Char) : parseChars? (cs ++ ['>']) = parseChars? cs := by
  obtain ⟨done, split⟩ := segments_before cs
  have plain := unmarked_lastRun cs
  have closed : segments (cs ++ ['>']) = done ++ [⟨trim (lastRun cs), .closes⟩, ⟨[], .ends⟩] := by
    rw [split, segments_marked plain rfl, segments_unmarked unmarked_nil]
    rfl
  have ended : segments cs = done ++ [⟨trim (lastRun cs), .ends⟩] := by
    have whole := split []
    rwa [List.append_nil, List.append_nil, segments_unmarked plain] at whole
  apply parseChars?_congr
  rw [closed, ended]
  exact readFrom_append_congr (readFrom_closes_ends _) done [] []

theorem parseChars?_closers (cs : List Char) (k : Nat) :
    parseChars? (cs ++ List.replicate k '>') = parseChars? cs := by
  induction k with
  | zero => simp
  | succ k ih => rw [List.replicate_succ', ← List.append_assoc, parseChars?_close, ih]

/-- No `<` stays open: each is closed by a `>` behind it. -/
def AllClosed (cs : List Char) : Prop := ∀ t ∈ cs.tails, t.count '<' ≤ t.count '>'

instance (cs : List Char) : Decidable (AllClosed cs) := List.decidableBAll _ _

theorem AllClosed.tail {c : Char} {cs : List Char} (closed : AllClosed (c :: cs)) :
    AllClosed cs := by
  intro t member
  apply closed t
  rw [List.mem_tails] at member ⊢
  exact member.trans (List.suffix_cons c cs)

theorem AllClosed.count_le {cs : List Char} (closed : AllClosed cs) :
    cs.count '<' ≤ cs.count '>' := closed cs ((List.mem_tails cs cs).2 List.suffix_rfl)

/-- Behind a text that closes all lists, those open before it included, a `>` closes none. -/
theorem scopeFrom_closed {opened : Nat} {cs : List Char} (closed : AllClosed cs)
    (enough : opened + cs.count '<' ≤ cs.count '>') (rest : List Char) :
    scopeFrom opened (cs ++ '>' :: rest) = scopeFrom opened cs := by
  induction cs generalizing opened with
  | nil =>
    obtain rfl : opened = 0 := by simpa using enough
    rfl
  | cons c cs ih =>
    by_cases opens : c = '<'
    · subst opens
      have more : opened + 1 + cs.count '<' ≤ cs.count '>' := by
        simp at enough
        omega
      rw [List.cons_append, scopeFrom, scopeFrom, ih closed.tail more]
    · by_cases closes : c = '>'
      · subst closes
        cases opened with
        | zero => rfl -- an unmatched closer has ended the part that counts already
        | succ opened =>
          have fewer : opened + cs.count '<' ≤ cs.count '>' := by
            simp at enough
            omega
          rw [List.cons_append, scopeFrom, scopeFrom, ih closed.tail fewer]
      · have same : opened + cs.count '<' ≤ cs.count '>' := by
          simpa [opens, closes] using enough
        rw [List.cons_append, scopeFrom_plain opens closes, scopeFrom_plain opens closes,
          ih closed.tail same]

theorem parseChars?_scope (cs : List Char) : parseChars? (scope cs) = parseChars? cs :=
  parseChars?_congr (readFrom_scope cs)

/-- Nor does what stands behind a bracket that closes nothing. -/
theorem parseChars?_unmatched {cs : List Char} (closed : AllClosed cs) (rest : List Char) :
    parseChars? (cs ++ '>' :: rest) = parseChars? cs := by
  have enough : 0 + cs.count '<' ≤ cs.count '>' := by
    rw [Nat.zero_add]
    exact closed.count_le
  rw [← parseChars?_scope, scope, scopeFrom_closed closed enough, ← scope, parseChars?_scope]

/-- A comma at either end of a signature, behind a mark, or before `,` or `>` changes nothing;
nor does any number of `>` at the end; nor does a `>` where no `<` is open, with any text. -/
theorem parse_redundant (s : String) :
    (∀ front back, front ++ back = s → ForComma front.toList back.toList →
      SameOutcome (front ++ "," ++ back) s) ∧
    (∀ k, SameOutcome (s ++ String.ofList (List.replicate k '>')) s) ∧
    (AllClosed s.toList → ∀ rest, SameOutcome (s ++ ">" ++ rest) s) := by
  refine ⟨?_, ?_, ?_⟩
  · rintro front back rfl place
    apply sameOutcome_of_parseChars?
    have inserted := parseChars?_congr (readFrom_comma_inserted place [] [])
    simpa using inserted
  · intro k
    apply sameOutcome_of_parseChars?
    have closed := parseChars?_closers s.toList k
    simpa using closed
  · intro closed rest
    apply sameOutcome_of_parseChars?
    have ended := parseChars?_unmatched closed rest.toList
    simpa using ended

/-- A `?` marks the list before it also behind a comma. -/
theorem parse_redundant_marker :
    ForComma "Map<List<A>".toList "?>".toList ∧ AllClosed "Map<List<A>?>".toList ∧
      ∀ signature ∈ ["Map<List<A>,?>", "Map<List<A>?>>>", "Map<List<A>?>>, ??<"],
        parse signature = .ok (.node "Map" false [.node "List" true [.node "A" false []]]) := by
  have place : ForComma "Map<List<A>".toList "?>".toList := .inl (by simp)
  have closed : AllClosed "Map<List<A>?>".toList := by decide +kernel
  have bare : parse "Map<List<A>?>" =
      .ok (.node "Map" false [.node "List" true [.node "A" false []]]) := by cbv
  obtain ⟨comma, closers, unmatched⟩ := parse_redundant "Map<List<A>?>"
  have first := (comma "Map<List<A>" "?>" (by simp) place).parse_eq bare
  have second := (closers 2).parse_eq bare
  have third := (unmatched closed ", ??<").parse_eq bare
  have two : String.ofList (List.replicate 2 '>') = ">>" := rfl
  rw [two] at second
  simp only [String.reduceAppend] at first second third
  refine ⟨place, closed, ?_⟩
  simp only [List.forall_mem_cons, List.not_mem_nil, false_imp_iff, implies_true, and_true]
  exact ⟨first, second, third⟩

end MockScaffold.TypeExpr
