import Mathlib.Data.Nat.Count
import MockScaffold.Proofs.TypeExpr.Written

/-!
A `?` is written in two places: at the end of a label, and alone behind a type.
Both make the same node nullable, and a type may have one of each, though not two
of a kind. So a signature that is read as a whole holds one `?` for each nullable
node, and one more for each lone `?` behind a type whose own label ends with `?`.
-/

namespace MockScaffold
open Text

namespace Text
variable {c : Char} (solid : isBlank c = false)
include solid

theorem count_trimStart (cs : List Char) : (trimStart cs).count c = cs.count c := by
  rw [trimStart]
  induction cs with
  | nil => rfl
  | cons d cs ih =>
    by_cases blank : isBlank d = true
    · have other : d ≠ c := by
        rintro rfl
        rw [solid] at blank
        cases blank
      rw [List.dropWhile_cons_of_pos blank, ih, List.count_cons_of_ne other]
    · rw [List.dropWhile_cons_of_neg blank]

theorem count_trimEnd (cs : List Char) : (trimEnd cs).count c = cs.count c := by
  have kept := count_trimStart solid cs.reverse
  rw [List.count_reverse] at kept
  rw [trimEnd, List.count_reverse]
  exact kept

theorem count_trim (cs : List Char) : (trim cs).count c = cs.count c := by
  rw [trim, count_trimEnd solid, count_trimStart solid]

end Text

namespace TypeExpr

/-- The markers of a text are those of its pieces. -/
theorem count_pieces (cs : List Char) : (pieces cs).flatten.count '?' = cs.count '?' := by
  have cut : ∀ label : List Char,
      ((cs.splitOnPPrepend (· ∈ ['<', ',', '>']) label).map trim).flatten.count '?' =
        label.count '?' + cs.count '?' := by
    induction cs with
    | nil => intro label; simp [List.splitOnPPrepend, count_trim (c := '?') (by decide)]
    | cons c cs ih =>
      intro label
      rw [List.splitOnPPrepend]
      by_cases mark : c ∈ ['<', ',', '>']
      · have other : c ≠ '?' := by
          rintro rfl
          revert mark
          decide
        rw [if_pos (by simpa using mark), List.map_cons, List.flatten_cons, List.count_append, ih,
          count_trim (by decide), List.count_reverse, List.count_nil, Nat.zero_add,
          List.count_cons_of_ne other]
      · rw [if_neg (by simpa using mark), ih, List.count_cons, List.count_cons]
        omega
  have whole := cut []
  rwa [List.count_nil, Nat.zero_add] at whole

/-- Whether a stroke is a lone `?` behind a label that ends with `?`. -/
def Stroke.repeats : Stroke → Bool
  | label _ => false
  | marker owner => owner.getLast? = some '?'

/-- A label whose name holds no `?` has one at its end or none. -/
theorem count_label {label name : List Char} {asked : Bool}
    (cut : splitMarker label = (name, asked)) (bare : '?' ∉ name) :
    label.count '?' = asked.toNat ∧ asked = decide (label.getLast? = some '?') := by
  unfold splitMarker at cut
  split at cut
  · rename_i last
    cases cut
    have front : label.dropLast.count '?' = 0 := by
      rw [← count_trimEnd (by decide), List.count_eq_zero]
      exact bare
    have split : label.dropLast ++ ['?'] = label := List.dropLast_append_getLast? '?' last
    refine ⟨?_, by simp [last]⟩
    rw [← split, List.count_append, front]
    rfl
  · rename_i unasked
    cases cut
    exact ⟨List.count_eq_zero.2 bare, by simpa using unasked⟩

/-- The markers that strokes hold. -/
def markers (written : List Stroke) : Nat := (written.flatMap Stroke.text).count '?'

theorem markers_append (written more : List Stroke) :
    markers (written ++ more) = markers written + markers more := by
  simp [markers]

mutual

/-- An outline that stands for a type holds a marker for each nullable node, and one more for each
that is repeated. -/
theorem markers_of_settled : ∀ (o : Outline) {t : TypeExpr}, o.toTypeExpr? = some t →
    markers o.written = t.walk.countP (·.nullable) + o.written.countP Stroke.repeats
  | .node label marked inner, t, settled => by
    rw [Outline.toTypeExpr?] at settled
    cases cut : splitMarker label with
    | mk name asked =>
      rw [cut] at settled
      simp only [Option.ite_none_left_eq_some, Bool.or_eq_true, List.contains_iff_mem, not_or,
        Option.map_eq_some_iff] at settled
      obtain ⟨⟨-, bare⟩, arguments, converted, rfl⟩ := settled
      obtain ⟨own, last⟩ := count_label cut bare
      have others := markers_of_settledAll inner converted
      have front : markers (.label label :: Outline.writtenAll inner) =
          asked.toNat + markers (Outline.writtenAll inner) := by
        simp [markers, Stroke.text, own]
      have behind : markers (if marked then [.marker label] else []) = marked.toNat := by
        cases marked <;> rfl
      have repeated : (if marked then [.marker label] else []).countP Stroke.repeats =
          (asked && marked).toNat := by
        cases marked <;> simp [Stroke.repeats, ← last, Bool.toNat]
      -- A node with both markers is nullable once, and repeats once.
      have both : asked.toNat + marked.toNat =
          (asked || marked).toNat + (asked && marked).toNat := by
        cases asked <;> cases marked <;> rfl
      have node : (walk (.node (String.ofList name) (asked || marked) arguments)).countP
          (·.nullable) = (walkAll arguments).countP (·.nullable) + (asked || marked).toNat := by
        rw [walk, List.countP_cons, nullable_node]
        cases asked || marked <;> rfl
      have labels : (Stroke.label label :: Outline.writtenAll inner).countP Stroke.repeats =
          (Outline.writtenAll inner).countP Stroke.repeats :=
        List.countP_cons_of_neg (by simp [Stroke.repeats])
      rw [Outline.written, ← List.cons_append, markers_append, List.countP_append, front, behind,
        repeated, labels, node, others]
      omega

theorem markers_of_settledAll : ∀ (os : List Outline) {ts : List TypeExpr},
    Outline.toTypeExprs? os = some ts →
      markers (Outline.writtenAll os) =
        (walkAll ts).countP (·.nullable) + (Outline.writtenAll os).countP Stroke.repeats
  | [], ts, settled => by
    cases settled
    rfl
  | o :: os, ts, settled => by
    rw [Outline.toTypeExprs?] at settled
    split at settled
    · cases settled
    · rename_i t converted
      obtain ⟨ts, rest, rfl⟩ := Option.map_eq_some_iff.1 settled
      have first := markers_of_settled o converted
      have others := markers_of_settledAll os rest
      rw [Outline.writtenAll, markers_append, first, others, walkAll, List.countP_append,
        List.countP_append]
      omega

end

/-- The last token so far of the list at level `d` has a label. -/
def LastLabel (segs : List Segment) (d n : Nat) (label : List Char) : Prop :=
  ∃ j s, LastToken segs d n j ∧ segs[j]? = some s ∧ s.label = label

/-- Segment `k` is a lone `?` behind a type whose own label ends with `?`. -/
def Repeats (segs : List Segment) (k : Nat) : Prop :=
  IsMarker segs k ∧ ∃ label, LastLabel segs (level segs k) k label ∧ label.getLast? = some '?'

section
variable (segs : List Segment) (d n j : Nat)

instance : Decidable (IsToken segs j) :=
  inferInstanceAs (Decidable (∃ s, s ∈ segs[j]? ∧ _))

instance : Decidable (IsMarker segs j) :=
  inferInstanceAs (Decidable (∃ s, s ∈ segs[j]? ∧ _))

instance : Decidable (InList segs d n j) :=
  decidable_of_iff
    (j < n ∧ level segs j = d ∧ ∀ k ∈ List.range n.succ, j < k → d ≤ level segs k) <| by
    simp only [InList, List.mem_range, Nat.lt_succ_iff]
    exact and_congr_right fun _ => and_congr_right fun _ => forall_congr' fun _ => imp.swap

instance : Decidable (LastToken segs d n j) :=
  decidable_of_iff
    (InList segs d n j ∧ IsToken segs j ∧
      ∀ k ∈ List.range n, j < k → InList segs d n k → ¬ IsToken segs k) <| by
    refine and_congr_right fun _ => and_congr_right fun _ => forall_congr' fun k => ?_
    exact ⟨fun last after inside => last (List.mem_range.2 inside.1) after inside,
      fun last _ after inside => last after inside⟩

instance (k : Nat) : Decidable (Repeats segs k) :=
  decidable_of_iff
    (IsMarker segs k ∧ ∃ j ∈ List.range k, LastToken segs (level segs k) k j ∧
      ∃ s, s ∈ segs[j]? ∧ s.label.getLast? = some '?') <| by
    refine and_congr_right fun _ => ⟨?_, ?_⟩
    · rintro ⟨j, -, last, s, at_j, ends⟩
      exact ⟨s.label, ⟨j, s, last, at_j, rfl⟩, ends⟩
    · rintro ⟨_, ⟨j, s, last, at_j, rfl⟩, ends⟩
      exact ⟨j, List.mem_range.2 last.1.1, last, s, at_j, ends⟩

end

section
variable {segs : List Segment} {d n : Nat} {s : Segment} {label : List Char}

theorem LastLabel.unique {other : List Char} (first : LastLabel segs d n label)
    (second : LastLabel segs d n other) : label = other := by
  obtain ⟨j, s, last, at_j, rfl⟩ := first
  obtain ⟨k, t, lastToo, at_k, rfl⟩ := second
  obtain rfl := last.unique lastToo
  rw [at_j] at at_k
  rw [Option.some.inj at_k]

/-- A segment that is no token of a list leaves its last token the last. -/
theorem LastLabel.idle (stillOpen : d ≤ level segs (n + 1))
    (idle : level segs n = d → ¬ IsToken segs n) (last : LastLabel segs d n label) :
    LastLabel segs d (n + 1) label := by
  obtain ⟨j, s, ⟨inside, token, final⟩, at_j, rfl⟩ := last
  refine ⟨j, s, ⟨(inList_succ stillOpen).2 (.inl inside), token, ?_⟩, at_j, rfl⟩
  intro k after laterInside
  rcases (inList_succ stillOpen).1 laterInside with before | ⟨rfl, same⟩
  · exact final k after before
  · exact idle same

theorem lastLabel_token (at_n : segs[n]? = some s) (stillOpen : d ≤ level segs (n + 1))
    (same : level segs n = d) (token : IsToken segs n) : LastLabel segs d (n + 1) s.label := by
  refine ⟨n, s, ⟨(inList_succ stillOpen).2 (.inr ⟨rfl, same⟩), token, ?_⟩, at_n, rfl⟩
  intro k after inside
  have := inside.1
  omega

/-- The last type of a list, given last first, has the label that the places tell. -/
def Headed (segs : List Segment) (d n : Nat) : List Outline → Prop
  | [] => True
  | .node label _ _ :: _ => LastLabel segs d n label

theorem Headed.idle (stillOpen : d ≤ level segs (n + 1))
    (idle : level segs n = d → ¬ IsToken segs n) {list : List Outline}
    (headed : Headed segs d n list) : Headed segs d (n + 1) list := by
  cases list with
  | nil => trivial
  | cons o rest =>
    obtain ⟨label, marked, inner⟩ := o
    exact LastLabel.idle stillOpen idle headed

theorem Headed.place (at_n : segs[n]? = some s) (notOpens : s.mark ≠ .opens)
    (same : level segs n = d) (stillOpen : d ≤ level segs (n + 1)) {before list : List Outline}
    (headed : Headed segs d n before) (placed : place s.label before = some list) :
    Headed segs d (n + 1) list := by
  rcases place_cases placed with ⟨empty, rfl⟩ | ⟨owner, inner, earlier, lone, rfl, rfl⟩ |
    ⟨nonempty, plain, rfl⟩
  · exact headed.idle stillOpen fun _ => not_isToken_of_label_nil at_n empty
  · have marker : IsMarker segs n := ⟨s, at_n, notOpens, lone⟩
    exact LastLabel.idle stillOpen (fun _ => marker.not_isToken) headed
  · have notLone : s.label ≠ ['?'] := by
      intro lone
      rw [lone] at plain
      exact plain rfl
    exact lastLabel_token at_n stillOpen same ⟨s, at_n, nonempty, .inr notLone⟩

/-- The owners of the lists that wait are the last tokens of the lists around. -/
def OwnersLast (segs : List Segment) (n : Nat) : List Frame → Prop
  | [] => True
  | frame :: frames => LastLabel segs frames.length n frame.owner ∧ OwnersLast segs n frames

theorem OwnersLast.succ {frames : List Frame} (deeper : frames.length ≤ level segs n)
    (stillOpen : frames.length ≤ level segs (n + 1)) (owners : OwnersLast segs n frames) :
    OwnersLast segs (n + 1) frames := by
  induction frames with
  | nil => trivial
  | cons frame frames ih =>
    rw [List.length_cons] at deeper stillOpen
    exact ⟨owners.1.idle (by omega) (by omega), ih (by omega) (by omega) owners.2⟩

/-- What is written in placing a label repeats a marker exactly if the places tell so. -/
theorem countP_strokes (at_n : segs[n]? = some s) (notOpens : s.mark ≠ .opens)
    {before list : List Outline} (headed : Headed segs (level segs n) n before)
    (placed : MockScaffold.TypeExpr.place s.label before = some list) :
    (strokes s.label before).countP Stroke.repeats = if Repeats segs n then 1 else 0 := by
  have unmarked : s.label ≠ ['?'] → ¬ Repeats segs n := fun other repeated =>
    not_isMarker_of_label_ne at_n other repeated.1
  rcases place_cases placed with ⟨empty, rfl⟩ | ⟨owner, inner, earlier, lone, rfl, rfl⟩ |
    ⟨nonempty, plain, rfl⟩
  · rw [if_neg (unmarked (by simp [empty])), empty]
    rfl
  · have repeats_iff : Repeats segs n ↔ owner.getLast? = some '?' := by
      constructor
      · rintro ⟨-, label, last, ends⟩
        rwa [LastLabel.unique headed last]
      · exact fun ends => ⟨⟨s, at_n, notOpens, lone⟩, owner, headed, ends⟩
    simp [lone, strokes, Stroke.repeats, repeats_iff, List.countP_cons]
  · have notLone : s.label ≠ ['?'] := by
      intro lone
      rw [lone] at plain
      exact plain rfl
    rw [if_neg (unmarked notLone), strokes_label nonempty plain]
    rfl

end

/-! ## Markers of a text -/

/-- In front of segment `n`, the places tell which types are the last of their lists and how many
markers were repeated. -/
structure Tallies (segs : List Segment) (n : Nat) (frames : List Frame) (before : List Outline) :
    Prop where
  counted : Counted segs n frames.length
  owned : ∀ frame ∈ frames, frame.owner ≠ []
  headed : Headed segs frames.length n before
  owners : OwnersLast segs n frames
  repeated : (writtenIn frames before).countP Stroke.repeats = Nat.count (Repeats segs) n

section
variable {segs : List Segment} {n : Nat} {s : Segment} {frames : List Frame}
  {before list : List Outline}

theorem Tallies.place (tallies : Tallies segs n frames before) (at_n : segs[n]? = some s)
    (notOpens : s.mark ≠ .opens) (placed : TypeExpr.place s.label before = some list) :
    (writtenIn frames list).countP Stroke.repeats = Nat.count (Repeats segs) (n + 1) := by
  have headed := tallies.headed
  rw [← tallies.counted.level_eq] at headed
  rw [writtenIn_place tallies.owned placed, List.countP_append, tallies.repeated,
    countP_strokes at_n notOpens headed placed, Nat.count_succ]

theorem Tallies.stays (tallies : Tallies segs n frames before) (at_n : segs[n]? = some s)
    (notOpens : s.mark ≠ .opens) (notCloses : s.mark ≠ .closes)
    (placed : TypeExpr.place s.label before = some list) : Tallies segs (n + 1) frames list := by
  have counted := tallies.counted.stays at_n notOpens notCloses
  have level_n := tallies.counted.level_eq
  have stillOpen : frames.length ≤ level segs (n + 1) := Nat.le_of_eq counted.level_eq.symm
  exact ⟨counted, tallies.owned, tallies.headed.place at_n notOpens level_n stillOpen placed,
    tallies.owners.succ (Nat.le_of_eq level_n.symm) stillOpen,
    tallies.place at_n notOpens placed⟩

theorem Tallies.closes {frame : Frame} (tallies : Tallies segs n (frame :: frames) before)
    (at_n : segs[n]? = some s) (mark : s.mark = .closes)
    (placed : TypeExpr.place s.label before = some list) :
    Tallies segs (n + 1) frames (frame.resume list) := by
  have counted := tallies.counted.closes at_n mark
  have level_n := tallies.counted.level_eq
  rw [List.length_cons] at level_n
  have stillOpen : frames.length ≤ level segs (n + 1) := Nat.le_of_eq counted.level_eq.symm
  obtain ⟨named, owned⟩ := List.forall_mem_cons.1 tallies.owned
  -- The list around goes on behind the owner, which was its last token all the while.
  have resumed : frame.resume list = .node frame.owner false list.reverse :: frame.before :=
    if_neg (by simpa using named)
  refine ⟨counted, owned, ?_, tallies.owners.2.succ (by omega) stillOpen,
    tallies.place at_n (by rw [mark]; decide) placed⟩
  rw [resumed]
  exact tallies.owners.1.idle stillOpen (by omega)

theorem Tallies.opens (tallies : Tallies segs n frames before) (at_n : segs[n]? = some s)
    (mark : s.mark = .opens) (named : s.label ≠ []) :
    Tallies segs (n + 1) (⟨s.label, before⟩ :: frames) [] := by
  have counted := tallies.counted.opens at_n mark
  have level_n := tallies.counted.level_eq
  have stillOpen : frames.length ≤ level segs (n + 1) := by
    rw [counted.level_eq]
    omega
  have token := (isToken_iff_of_opens at_n mark).2 named
  have unmarked : ¬ Repeats segs n := fun repeated => not_isMarker_of_opens at_n mark repeated.1
  refine ⟨counted, List.forall_mem_cons.2 ⟨named, tallies.owned⟩, trivial,
    ⟨lastLabel_token at_n stillOpen level_n token,
      tallies.owners.succ (Nat.le_of_eq level_n.symm) stillOpen⟩, ?_⟩
  rw [writtenIn_open tallies.owned named, List.countP_append, tallies.repeated,
    Nat.count_succ, if_neg unmarked]
  rfl

/-- Every step keeps the tally, if each list has an owner. -/
theorem keeps_tallies (owned : ∀ s ∈ segs, s.mark = .opens → s.label ≠ []) :
    Keeps segs (Tallies segs) where
  opens at_n mark tallies := tallies.opens at_n mark (owned _ (List.mem_of_getElem? at_n) mark)
  closes at_n mark tallies placed := tallies.closes at_n mark placed
  stays at_n notOpens notCloses tallies placed := tallies.stays at_n notOpens notCloses placed

end

/-- The repeated markers of a text are those that its segments tell. -/
theorem Entire.repeated {cs : List Char} (entire : Entire cs) {o : Outline}
    (read : outlines? cs = some [o]) :
    o.written.countP Stroke.repeats =
      Nat.count (Repeats (segments cs)) (segments cs).length := by
  have start : Tallies (segments cs) 0 [] [] := ⟨rfl, by simp, trivial, trivial, rfl⟩
  obtain ⟨waiting, last, closed, tallies⟩ := entire.holds (keeps_tallies entire.owned) start read
  have repeated := tallies.repeated
  rw [writtenIn, closed] at repeated
  simpa [Outline.writtenAll] using repeated

/-- All markers of a text are written into the outline. -/
theorem Entire.markers {cs : List Char} (entire : Entire cs) {o : Outline}
    (read : outlines? cs = some [o]) : markers o.written = cs.count '?' := by
  rw [TypeExpr.markers, List.flatMap_def, entire.written read, List.flatten_filter_ne_nil,
    count_pieces]

/-- A text that is read as a whole holds one `?` for each nullable node of its type, and one more
for each lone `?` behind a label that ends with `?`. So it holds as many as there are nullable
nodes exactly if no type is marked in both ways. -/
theorem count_markers (s : String) (t : TypeExpr) (entire : Entire s.toList)
    (read : parse s = .ok t) :
    s.toList.count '?' = t.walk.countP (·.nullable) +
        Nat.count (Repeats (segments s.toList)) (segments s.toList).length ∧
      (s.toList.count '?' = t.walk.countP (·.nullable) ↔
        ∀ k, ¬ Repeats (segments s.toList) k) := by
  obtain ⟨o, single⟩ := entire.single
  have settled := settled_of_read single (parse_eq_ok_iff.1 read)
  have total : s.toList.count '?' = t.walk.countP (·.nullable) +
      Nat.count (Repeats (segments s.toList)) (segments s.toList).length := by
    rw [← entire.markers single, markers_of_settled o settled, entire.repeated single]
  refine ⟨total, ?_⟩
  rw [total, Nat.add_eq_left, Nat.count_iff_forall_not]
  constructor
  · intro none k repeated
    obtain ⟨t, at_k, -⟩ := repeated.1
    exact none k (List.getElem?_eq_some_iff.1 at_k).1 repeated
  · exact fun none k _ => none k

/-- Markers on every level, none of which is repeated. -/
theorem count_markers_once :
    Entire "Map<K?, List<V<W ?>?>, Set<X>?>?".toList ∧
      parse "Map<K?, List<V<W ?>?>, Set<X>?>?" = .ok (.node "Map" true [.node "K" true [],
        .node "List" false [.node "V" true [.node "W" true []]],
        .node "Set" true [.node "X" false []]]) ∧
      (∀ k, ¬ Repeats (segments "Map<K?, List<V<W ?>?>, Set<X>?>?".toList) k) ∧
      "Map<K?, List<V<W ?>?>, Set<X>?>?".toList.count '?' = 5 := by
  have entire : Entire "Map<K?, List<V<W ?>?>, Set<X>?>?".toList :=
    ⟨by decide +kernel, by decide +kernel, ⟨_, by cbv⟩⟩
  have read : parse "Map<K?, List<V<W ?>?>, Set<X>?>?" = .ok (.node "Map" true [
      .node "K" true [], .node "List" false [.node "V" true [.node "W" true []]],
      .node "Set" true [.node "X" false []]]) := by cbv
  have counted := count_markers _ _ entire read
  exact ⟨entire, read, counted.2.1 (by decide +kernel), by decide +kernel⟩

/-- A type whose label ends with `?` can be marked once more behind a comma: two `?`, one nullable
node. -/
theorem count_markers_twice :
    Entire "A?,?".toList ∧ parse "A?,?" = .ok (.node "A" true []) ∧
      "A?,?".toList.count '?' = 2 ∧ (walk (.node "A" true [])).countP (·.nullable) = 1 ∧
      Repeats (segments "A?,?".toList) 1 :=
  ⟨⟨by decide +kernel, by decide +kernel, ⟨_, by cbv⟩⟩, by cbv, by decide +kernel,
    by decide +kernel, by decide +kernel⟩

end TypeExpr
end MockScaffold
