import Mathlib.Data.Nat.Find
import MockScaffold.Proofs.TypeExpr.Places
import MockScaffold.Proofs.TypeExpr.RoundTrip

/-!
A signature is refused exactly when the places of its segments give a reason:
reading keeps, for every list that is open, what those places say of its last
token, and it collects the labels of the first token's tree.
-/

namespace MockScaffold.TypeExpr
open Text

mutual

/-- The labels of an outline, an owner before its list. -/
def Outline.labels : Outline → List (List Char)
  | .node label _ inner => label :: Outline.labelsAll inner

def Outline.labelsAll : List Outline → List (List Char)
  | [] => []
  | o :: os => o.labels ++ Outline.labelsAll os

end

theorem labelsAll_append (os ps : List Outline) :
    Outline.labelsAll (os ++ ps) = Outline.labelsAll os ++ Outline.labelsAll ps := by
  induction os with
  | nil => rfl
  | cons o os ih => simp [Outline.labelsAll, ih]

theorem splitMarker_fst (label : List Char) : (splitMarker label).1 = bareName label := by
  unfold splitMarker bareName
  split
  · rename_i asked
    rw [if_pos asked]
  · rename_i unasked
    rw [if_neg unasked]

mutual

/-- An outline stands for no type exactly if one of its labels is misnamed. -/
theorem toTypeExpr?_eq_none_iff :
    ∀ o : Outline, o.toTypeExpr? = none ↔ ∃ label ∈ o.labels, Misnamed label
  | .node label marked inner => by
    have rest := toTypeExprs?_eq_none_iff inner
    have own := splitMarker_fst label
    rw [Outline.toTypeExpr?, Outline.labels]
    generalize splitMarker label = cut at own
    obtain ⟨name, asked⟩ := cut
    obtain rfl : name = bareName label := own
    dsimp only
    by_cases bad : Misnamed label
    · have refused : ((bareName label).isEmpty || (bareName label).contains '?') = true := by
        simpa [Misnamed] using bad
      rw [if_pos refused]
      exact iff_of_true rfl ⟨label, List.mem_cons_self, bad⟩
    · have fine : ¬ ((bareName label).isEmpty || (bareName label).contains '?') = true := by
        simpa [Misnamed] using bad
      rw [if_neg fine, Option.map_eq_none_iff, rest]
      simp [bad]

theorem toTypeExprs?_eq_none_iff :
    ∀ os : List Outline, Outline.toTypeExprs? os = none ↔
      ∃ label ∈ Outline.labelsAll os, Misnamed label
  | [] => by simp [Outline.toTypeExprs?, Outline.labelsAll]
  | o :: os => by
    have first := toTypeExpr?_eq_none_iff o
    have rest := toTypeExprs?_eq_none_iff os
    rw [Outline.toTypeExprs?, Outline.labelsAll]
    cases settled : o.toTypeExpr? with
    | none =>
      obtain ⟨label, member, bad⟩ := first.1 settled
      exact iff_of_true rfl ⟨label, List.mem_append_left _ member, bad⟩
    | some t =>
      have good : ∀ label ∈ o.labels, ¬ Misnamed label := by
        intro label member bad
        rw [first.2 ⟨label, member, bad⟩] at settled
        cases settled
      simp only [Option.map_eq_none_iff, rest, List.mem_append]
      constructor
      · rintro ⟨label, member, bad⟩
        exact ⟨label, .inr member, bad⟩
      · rintro ⟨label, member | member, bad⟩
        · exact absurd bad (good label member)
        · exact ⟨label, member, bad⟩

end

/-- The labels of the first of some outlines, given last first. -/
def firstLabels (os : List Outline) : List (List Char) := (os.getLast?.map Outline.labels).getD []

/-- Whether a type placed behind `before` becomes part of the first outermost type. -/
def onFirst : List Frame → List Outline → Bool
  | [], before => before.isEmpty
  | frame :: frames, _ => !frame.owner.isEmpty && onFirst frames frame.before

theorem firstLabels_cons (o : Outline) (before : List Outline) :
    firstLabels (o :: before) =
      firstLabels before ++ if before.isEmpty then o.labels else [] := by
  cases before with
  | nil => simp [firstLabels]
  | cons p before => simp [firstLabels, List.getLast?_cons_cons]

/-- A type placed in an inner list is the last one of the first tree, or not in that tree. -/
theorem firstLabels_closeAll_cons (o : Outline) (before : List Outline) (frames : List Frame) :
    firstLabels (closeAll (o :: before) frames) =
      firstLabels (closeAll before frames) ++ if onFirst frames before then o.labels else [] := by
  induction frames generalizing o before with
  | nil => exact firstLabels_cons o before
  | cons frame frames ih =>
    rw [closeAll, closeAll, onFirst, Frame.resume, Frame.resume]
    by_cases unnamed : frame.owner = []
    · simp [unnamed]
    · have named : frame.owner.isEmpty = false := by simpa using unnamed
      simp only [named, Bool.false_eq_true, if_false, Bool.not_false, Bool.true_and, ih]
      by_cases inside : onFirst frames frame.before
      · simp [inside, Outline.labels, labelsAll_append, Outline.labelsAll]
      · simp [inside]

/-! ## What a list shows -/

section
variable {segs : List Segment} {d n : Nat} {s : Segment}

/-- The last token of a list, and whether it is marked, as the places of the segments tell. -/
def Shows (segs : List Segment) (d n : Nat) : List Outline → Prop
  | [] => ∀ j, InList segs d n j → ¬ IsToken segs j
  | .node _ marked _ :: _ => ∃ j, LastToken segs d n j ∧ (marked = true ↔ Marked segs d n j)

/-- A segment that is no token and no marker of a list changes nothing that the list shows. -/
theorem Shows.idle (stillOpen : d ≤ level segs (n + 1))
    (idle : level segs n = d → ¬ IsToken segs n ∧ ¬ IsMarker segs n) {list : List Outline}
    (shows : Shows segs d n list) : Shows segs d (n + 1) list := by
  have listed := @inList_succ segs d n
  cases list with
  | nil =>
    intro j inside
    rcases (listed stillOpen).1 inside with before | ⟨rfl, same⟩
    · exact shows j before
    · exact (idle same).1
  | cons o rest =>
    obtain ⟨label, marked, inner⟩ := o
    obtain ⟨j, ⟨inside, token, last⟩, marks⟩ := shows
    refine ⟨j, ⟨(listed stillOpen).2 (.inl inside), token, ?_⟩, marks.trans ⟨?_, ?_⟩⟩
    · intro k after laterInside
      rcases (listed stillOpen).1 laterInside with before | ⟨rfl, same⟩
      · exact last k after before
      · exact (idle same).1
    · rintro ⟨k, after, before, marker⟩
      exact ⟨k, after, (listed stillOpen).2 (.inl before), marker⟩
    · rintro ⟨k, after, laterInside, marker⟩
      rcases (listed stillOpen).1 laterInside with before | ⟨rfl, same⟩
      · exact ⟨k, after, before, marker⟩
      · exact absurd marker (idle same).2

theorem shows_token (stillOpen : d ≤ level segs (n + 1)) (same : level segs n = d)
    (token : IsToken segs n) (label : List Char) (inner rest : List Outline) :
    Shows segs d (n + 1) (.node label false inner :: rest) := by
  have inside : InList segs d (n + 1) n := (inList_succ stillOpen).2 (.inr ⟨rfl, same⟩)
  refine ⟨n, ⟨inside, token, ?_⟩, iff_of_false (by simp) ?_⟩
  · intro k after laterInside
    have := laterInside.1
    omega
  · rintro ⟨k, after, laterInside, -⟩
    have := laterInside.1
    omega

theorem Shows.marker (stillOpen : d ≤ level segs (n + 1)) (same : level segs n = d)
    (marker : IsMarker segs n) {owner : List Char} {inner earlier : List Outline} {marked : Bool}
    (shows : Shows segs d n (.node owner marked inner :: earlier)) :
    Shows segs d (n + 1) (.node owner true inner :: earlier) := by
  obtain ⟨j, ⟨inside, token, last⟩, -⟩ := shows
  have here : InList segs d (n + 1) n := (inList_succ stillOpen).2 (.inr ⟨rfl, same⟩)
  refine ⟨j, ⟨(inList_succ stillOpen).2 (.inl inside), token, ?_⟩, iff_of_true rfl ?_⟩
  · intro k after laterInside
    rcases (inList_succ stillOpen).1 laterInside with before | ⟨rfl, -⟩
    · exact last k after before
    · exact marker.not_isToken
  · exact ⟨n, inside.1, here, marker⟩

/-- What a list shows does not depend on what its last type holds. -/
theorem Shows.resume {frame : Frame} {inner : List Outline}
    (shows : Shows segs d n (frame.resume inner)) (other : List Outline) :
    Shows segs d n (frame.resume other) := by
  unfold Frame.resume at *
  by_cases unnamed : frame.owner.isEmpty
  · rwa [if_pos unnamed] at shows ⊢
  · rw [if_neg unnamed] at shows ⊢
    exact shows

theorem not_isToken_of_label_nil (at_n : segs[n]? = some s) (empty : s.label = []) :
    ¬ IsToken segs n := fun token => ((isToken_iff at_n).1 token).1 empty

theorem not_isMarker_of_label_ne (at_n : segs[n]? = some s) (other : s.label ≠ ['?']) :
    ¬ IsMarker segs n := fun marker => other ((isMarker_iff at_n).1 marker).2

theorem isToken_iff_of_opens (at_n : segs[n]? = some s) (mark : s.mark = .opens) :
    IsToken segs n ↔ s.label ≠ [] := by
  rw [isToken_iff at_n]
  exact and_iff_left (.inl mark)

theorem not_isMarker_of_opens (at_n : segs[n]? = some s) (mark : s.mark = .opens) :
    ¬ IsMarker segs n := fun marker => ((isMarker_iff at_n).1 marker).1 mark

theorem Shows.owner (at_n : segs[n]? = some s) (mark : s.mark = .opens) (same : level segs n = d)
    (stillOpen : d ≤ level segs (n + 1)) {before : List Outline} (shows : Shows segs d n before) :
    Shows segs d (n + 1) (Frame.resume ⟨s.label, before⟩ []) := by
  have token_iff := isToken_iff_of_opens at_n mark
  rw [Frame.resume]
  by_cases unnamed : s.label = []
  · rw [if_pos (by simpa using unnamed)]
    exact shows.idle stillOpen fun _ => ⟨fun token => token_iff.1 token unnamed,
      not_isMarker_of_opens at_n mark⟩
  · rw [if_neg (by simpa using unnamed)]
    exact shows_token stillOpen same (token_iff.2 unnamed) s.label _ before

theorem Shows.place (at_n : segs[n]? = some s) (notOpens : s.mark ≠ .opens)
    (same : level segs n = d) (stillOpen : d ≤ level segs (n + 1)) {before list : List Outline}
    (shows : Shows segs d n before) (placed : place s.label before = some list) :
    Shows segs d (n + 1) list := by
  rcases place_cases placed with ⟨empty, rfl⟩ | ⟨owner, inner, earlier, lone, rfl, rfl⟩ |
    ⟨nonempty, plain, rfl⟩
  · exact shows.idle stillOpen fun _ => ⟨not_isToken_of_label_nil at_n empty,
      not_isMarker_of_label_ne at_n (by simp [empty])⟩
  · exact shows.marker stillOpen same ⟨s, at_n, notOpens, lone⟩
  · have notLone : s.label ≠ ['?'] := by
      intro lone
      rw [lone] at plain
      exact plain rfl
    exact shows_token stillOpen same ⟨s, at_n, nonempty, .inr notLone⟩ s.label [] before

/-- Where the places tell what was read, a label is refused exactly if it is misplaced. -/
theorem place_eq_none_iff_misplaced (at_n : segs[n]? = some s) (notOpens : s.mark ≠ .opens)
    {before : List Outline} (shows : Shows segs (level segs n) n before) :
    place s.label before = none ↔ Misplaced segs n := by
  have empty_iff : before = [] ↔ ∀ j, Earlier segs n j → ¬ IsToken segs j := by
    cases before with
    | nil => exact iff_of_true rfl shows
    | cons o rest =>
      obtain ⟨label, marked, inner⟩ := o
      obtain ⟨j, last, -⟩ := shows
      exact iff_of_false (by simp) fun none => none j last.1 last.2.1
  have marked_iff : (∃ owner inner earlier, before = .node owner true inner :: earlier) ↔
      ∃ j, LastToken segs (level segs n) n j ∧ Marked segs (level segs n) n j := by
    cases before with
    | nil =>
      refine iff_of_false (by simp) ?_
      rintro ⟨j, last, -⟩
      exact shows j last.1 last.2.1
    | cons o rest =>
      obtain ⟨label, marked, inner⟩ := o
      obtain ⟨j, last, marks⟩ := shows
      constructor
      · rintro ⟨owner, list, earlier, split⟩
        cases split
        exact ⟨j, last, marks.1 rfl⟩
      · rintro ⟨k, lastToo, markedToo⟩
        obtain rfl := last.unique lastToo
        obtain rfl := marks.2 markedToo
        exact ⟨label, inner, rest, rfl⟩
  rw [place_eq_none_iff, empty_iff, marked_iff, misplaced_iff at_n]
  exact (and_iff_right notOpens).symm

end

/-! ## Reading and places -/

section
variable {segs : List Segment} {n : Nat} {s : Segment} {frames : List Frame}
  {before list : List Outline}

/-- A label of the tokens of the first tree that stand before segment `n`. -/
def FirstLabel (segs : List Segment) (n : Nat) (label : List Char) : Prop :=
  ∃ i t, i < n ∧ InFirst segs i ∧ segs[i]? = some t ∧ t.label = label

/-- The first of some outlines has the labels that the places of the segments tell. -/
def Collects (segs : List Segment) (n : Nat) (os : List Outline) : Prop :=
  ∀ label, label ∈ firstLabels os ↔ FirstLabel segs n label

/-- What the places tell of the lists that wait, innermost first. -/
def FramesShow (segs : List Segment) (n : Nat) : List Frame → Prop
  | [] => True
  | frame :: frames =>
    Shows segs frames.length n (frame.resume []) ∧
    (∃ p, OpenedAt segs frames.length n p ∧
      (InFirst segs p ↔ frame.owner ≠ [] ∧ onFirst frames frame.before)) ∧
    FramesShow segs n frames

/-- Where reading stands in front of segment `n`, as the places tell. -/
structure Stands (segs : List Segment) (n : Nat) (frames : List Frame) (before : List Outline) :
    Prop where
  counted : Counted segs n frames.length
  shows : Shows segs frames.length n before
  waiting : FramesShow segs n frames
  collects : Collects segs n (closeAll before frames)

theorem Stands.level_eq (stands : Stands segs n frames before) :
    level segs n = frames.length := stands.counted.level_eq

theorem stands_start (segs : List Segment) : Stands segs 0 [] [] where
  counted := rfl
  shows := fun _ inside => absurd inside.1 (by omega)
  waiting := trivial
  collects := by
    intro label
    refine iff_of_false (by simp [closeAll, firstLabels]) ?_
    rintro ⟨i, -, before, -⟩
    omega

/-- The next segment belongs to the first tree if it is a token and its list does. -/
theorem Stands.inFirst_iff (stands : Stands segs n frames before) :
    InFirst segs n ↔ IsToken segs n ∧ onFirst frames before := by
  have level_n := stands.level_eq
  cases frames with
  | nil =>
    have first_iff : onFirst [] before = true ↔ ∀ j, Earlier segs n j → ¬ IsToken segs j := by
      have shows := stands.shows
      simp only [onFirst, Earlier, level_n]
      cases before with
      | nil => exact iff_of_true rfl shows
      | cons o rest =>
        obtain ⟨label, marked, inner⟩ := o
        obtain ⟨j, last, -⟩ := shows
        exact iff_of_false (by simp) fun none => none j last.1 last.2.1
    rw [first_iff]
    constructor
    · intro inside
      cases inside with
      | root _ token first => exact ⟨token, first⟩
      | argument _ owns _ =>
        have := owns.1
        rw [level_n, List.length_nil] at this
        omega
    · rintro ⟨token, first⟩
      exact .root level_n token first
  | cons frame frames =>
    obtain ⟨-, ⟨p, opened, owner_iff⟩, -⟩ := stands.waiting
    rw [List.length_cons] at level_n
    have onFirst_iff : onFirst (frame :: frames) before = true ↔ InFirst segs p := by
      rw [owner_iff, onFirst]
      simp
    rw [onFirst_iff]
    constructor
    · intro inside
      cases inside with
      | root outermost _ _ => omega
      | @argument q _ owner owns token =>
        have same : level segs q = frames.length := by
          have := owns.1
          omega
        have openedToo := owns.2
        rw [same] at openedToo
        obtain rfl := opened.unique openedToo
        exact ⟨token, owner⟩
    · rintro ⟨token, owner⟩
      have same := opened.2.1
      exact .argument owner ⟨by omega, by rwa [same]⟩ token

theorem firstLabel_succ (at_n : segs[n]? = some s) {label : List Char} :
    FirstLabel segs (n + 1) label ↔
      FirstLabel segs n label ∨ (InFirst segs n ∧ s.label = label) := by
  constructor
  · rintro ⟨i, t, before, inside, at_i, same⟩
    rcases Nat.lt_or_eq_of_le (Nat.le_of_lt_succ before) with earlier | rfl
    · exact .inl ⟨i, t, earlier, inside, at_i, same⟩
    · rw [at_n] at at_i
      cases at_i
      exact .inr ⟨inside, same⟩
  · rintro (⟨i, t, before, inside, at_i, same⟩ | ⟨inside, same⟩)
    · exact ⟨i, t, by omega, inside, at_i, same⟩
    · exact ⟨n, s, by omega, inside, at_n, same⟩

theorem Collects.idle (at_n : segs[n]? = some s) (idle : ¬ IsToken segs n) {os : List Outline}
    (collects : Collects segs n os) : Collects segs (n + 1) os := by
  intro label
  rw [collects label, firstLabel_succ at_n]
  constructor
  · exact .inl
  · rintro (known | ⟨inside, -⟩)
    · exact known
    · exact absurd inside.isToken idle

/-- A token adds its label if its list belongs to the first tree. -/
theorem Stands.collects_token (stands : Stands segs n frames before) (at_n : segs[n]? = some s)
    (token : IsToken segs n) (marked : Bool) :
    Collects segs (n + 1) (closeAll (.node s.label marked [] :: before) frames) := by
  intro label
  rw [firstLabels_closeAll_cons, firstLabel_succ at_n, stands.inFirst_iff, List.mem_append,
    stands.collects label]
  by_cases inside : onFirst frames before
  · simp [inside, token, Outline.labels, Outline.labelsAll, eq_comm]
  · simp [inside]

theorem Stands.collects_place (stands : Stands segs n frames before) (at_n : segs[n]? = some s)
    (notOpens : s.mark ≠ .opens) (placed : place s.label before = some list) :
    Collects segs (n + 1) (closeAll list frames) := by
  rcases place_cases placed with ⟨empty, rfl⟩ | ⟨owner, inner, earlier, lone, rfl, rfl⟩ |
    ⟨nonempty, plain, rfl⟩
  · exact stands.collects.idle at_n (not_isToken_of_label_nil at_n empty)
  · have marker : IsMarker segs n := ⟨s, at_n, notOpens, lone⟩
    have same : firstLabels (closeAll (.node owner true inner :: earlier) frames) =
        firstLabels (closeAll (.node owner false inner :: earlier) frames) := by
      rw [firstLabels_closeAll_cons, firstLabels_closeAll_cons, Outline.labels, Outline.labels]
    have idle := stands.collects.idle at_n marker.not_isToken
    intro label
    rw [same]
    exact idle label
  · have notLone : s.label ≠ ['?'] := by
      intro lone
      rw [lone] at plain
      exact plain rfl
    exact stands.collects_token at_n ⟨s, at_n, nonempty, .inr notLone⟩ false

theorem FramesShow.succ (deeper : frames.length ≤ level segs n)
    (stillOpen : frames.length ≤ level segs (n + 1)) (waiting : FramesShow segs n frames) :
    FramesShow segs (n + 1) frames := by
  induction frames with
  | nil => trivial
  | cons frame frames ih =>
    rw [List.length_cons] at deeper stillOpen
    obtain ⟨shows, ⟨p, opened, owner_iff⟩, others⟩ := waiting
    refine ⟨shows.idle (by omega) (by omega), ⟨p, opened.succ (by omega), owner_iff⟩, ?_⟩
    exact ih (by omega) (by omega) others

/-- Behind a comma, and at the end, the same list is open. -/
theorem Stands.stays (stands : Stands segs n frames before) (at_n : segs[n]? = some s)
    (notOpens : s.mark ≠ .opens) (notCloses : s.mark ≠ .closes)
    (placed : place s.label before = some list) : Stands segs (n + 1) frames list := by
  have counted := stands.counted.stays at_n notOpens notCloses
  have stillOpen : frames.length ≤ level segs (n + 1) := Nat.le_of_eq counted.level_eq.symm
  exact ⟨counted, stands.shows.place at_n notOpens stands.level_eq stillOpen placed,
    stands.waiting.succ (Nat.le_of_eq stands.level_eq.symm) stillOpen,
    stands.collects_place at_n notOpens placed⟩

/-- Behind `>` the list of the owner is open again. -/
theorem Stands.closes {frame : Frame} (stands : Stands segs n (frame :: frames) before)
    (at_n : segs[n]? = some s) (mark : s.mark = .closes)
    (placed : place s.label before = some list) :
    Stands segs (n + 1) frames (frame.resume list) := by
  have counted := stands.counted.closes at_n mark
  have level_n := stands.level_eq
  rw [List.length_cons] at level_n
  have stillOpen : frames.length ≤ level segs (n + 1) := Nat.le_of_eq counted.level_eq.symm
  obtain ⟨shows, -, others⟩ := stands.waiting
  exact ⟨counted, (shows.idle stillOpen (by omega)).resume list,
    others.succ (by omega) stillOpen,
    stands.collects_place at_n (by rw [mark]; decide) placed⟩

/-- Behind `<` a new list is open. -/
theorem Stands.opens (stands : Stands segs n frames before) (at_n : segs[n]? = some s)
    (mark : s.mark = .opens) : Stands segs (n + 1) (⟨s.label, before⟩ :: frames) [] := by
  have counted := stands.counted.opens at_n mark
  have level_n := stands.level_eq
  have stillOpen : frames.length ≤ level segs (n + 1) := by
    rw [counted.level_eq]
    omega
  have token_iff := isToken_iff_of_opens at_n mark
  refine ⟨counted, ?_, ⟨stands.shows.owner at_n mark level_n stillOpen, ⟨n, ?_, ?_⟩,
    stands.waiting.succ (Nat.le_of_eq level_n.symm) stillOpen⟩, ?_⟩
  · intro j inside
    obtain ⟨before, same, above⟩ := inside
    rw [List.length_cons] at same above
    rcases Nat.lt_or_eq_of_le (Nat.le_of_lt_succ before) with earlier | rfl
    · have := above n earlier (by omega)
      omega
    · omega
  · refine ⟨by omega, level_n, ⟨s, at_n, mark⟩, fun k after upTo => ?_⟩
    obtain rfl : k = n + 1 := by omega
    rw [counted.level_eq]
    omega
  · rw [stands.inFirst_iff, token_iff]
  · rw [closeAll, Frame.resume]
    by_cases unnamed : s.label = []
    · rw [if_pos (by simpa using unnamed)]
      exact stands.collects.idle at_n (not_isToken_of_label_nil at_n unnamed)
    · rw [if_neg (by simpa using unnamed)]
      exact stands.collects_token at_n (token_iff.2 unnamed) false

theorem Stands.tooDeep_iff (stands : Stands segs n frames before) (at_n : segs[n]? = some s) :
    TooDeep segs n ↔ s.mark = .opens ∧ ¬ frames.length < maxOpen := by
  rw [TooDeep, exists_at_iff at_n, stands.level_eq, Nat.lt_succ_iff, Nat.not_lt]

theorem Stands.not_tooDeep (stands : Stands segs n frames before) (at_n : segs[n]? = some s)
    (notOpens : s.mark ≠ .opens) : ¬ TooDeep segs n :=
  fun deep => notOpens ((stands.tooDeep_iff at_n).1 deep).1

/-! ## The whole text -/

/-- What the places tell of the result of reading from segment `n` on. -/
def Outcome (segs : List Segment) (n : Nat) : Option (List Outline) → Prop
  | none => ∃ i, TooDeep segs i ∨ Misplaced segs i
  | some os => (∀ i, n ≤ i → ¬ TooDeep segs i ∧ ¬ Misplaced segs i) ∧ Collects segs segs.length os

theorem Outcome.prepend {result : Option (List Outline)} (outcome : Outcome segs (n + 1) result)
    (shallow : ¬ TooDeep segs n) (placed : ¬ Misplaced segs n) : Outcome segs n result := by
  cases result with
  | none => exact outcome
  | some os =>
    refine ⟨fun i from_n => ?_, outcome.2⟩
    rcases Nat.lt_or_eq_of_le from_n with later | rfl
    · exact outcome.1 i later
    · exact ⟨shallow, placed⟩

theorem Stands.outcome_end (stands : Stands segs segs.length frames before) :
    Outcome segs segs.length (some (closeAll before frames)) := by
  refine ⟨fun i from_n => ?_, stands.collects⟩
  have behind : segs[i]? = none := List.getElem?_eq_none from_n
  constructor
  · rintro ⟨s, at_i, -⟩
    rw [behind] at at_i
    cases at_i
  · rintro ⟨s, at_i, -⟩
    rw [behind] at at_i
    cases at_i

theorem drop_eq_cons {rest : List Segment} (split : segs.drop n = s :: rest) :
    segs[n]? = some s ∧ segs.drop (n + 1) = rest := by
  constructor
  · rw [← List.head?_drop, split, List.head?_cons]
  · rw [← List.tail_drop, split, List.tail_cons]

theorem Stands.place_cases (stands : Stands segs n frames before) (at_n : segs[n]? = some s)
    (notOpens : s.mark ≠ .opens) :
    (place s.label before = none ∧ Misplaced segs n) ∨
      (∃ list, place s.label before = some list) ∧ ¬ Misplaced segs n := by
  have shows := stands.shows
  rw [← stands.level_eq] at shows
  rw [← place_eq_none_iff_misplaced at_n notOpens shows]
  cases place s.label before with
  | none => exact .inl ⟨rfl, rfl⟩
  | some list => exact .inr ⟨⟨list, rfl⟩, by simp⟩

/-- Reading a text to its end comes out as the places of its segments tell. -/
theorem readFrom_outcome {opened : Nat} {rest : List Segment} (more : Scoped opened rest) :
    ∀ {n : Nat} {frames : List Frame} {before : List Outline}, segs.drop n = rest →
      frames.length = opened → Stands segs n frames before →
        Outcome segs n (readFrom frames before rest) := by
  induction more with
  | ends opened label =>
    intro n frames before split _ stands
    obtain ⟨at_n, behind⟩ := drop_eq_cons split
    have shallow := stands.not_tooDeep at_n (by simp)
    rcases stands.place_cases at_n (by simp) with ⟨unplaced, misplaced⟩ | ⟨⟨list, placed⟩, fine⟩
    · rw [readFrom, unplaced]
      exact ⟨n, .inr misplaced⟩
    · have final : n + 1 = segs.length := by
        have reached := (List.getElem?_eq_some_iff.1 at_n).1
        have := List.drop_eq_nil_iff.1 behind
        omega
      have last := stands.stays at_n (by simp) (by simp) placed
      rw [final] at last
      rw [readFrom, placed]
      exact (final ▸ last.outcome_end : Outcome segs (n + 1) _).prepend shallow fine
  | separates label more ih =>
    intro n frames before split depth stands
    obtain ⟨at_n, behind⟩ := drop_eq_cons split
    have shallow := stands.not_tooDeep at_n (by simp)
    rcases stands.place_cases at_n (by simp) with ⟨unplaced, misplaced⟩ | ⟨⟨list, placed⟩, fine⟩
    · rw [readFrom, unplaced]
      exact ⟨n, .inr misplaced⟩
    · rw [readFrom, placed]
      exact (ih behind depth (stands.stays at_n (by simp) (by simp) placed)).prepend shallow fine
  | opens label more ih =>
    intro n frames before split depth stands
    obtain ⟨at_n, behind⟩ := drop_eq_cons split
    have fine : ¬ Misplaced segs n := fun misplaced => ((misplaced_iff at_n).1 misplaced).1 rfl
    rw [readFrom]
    by_cases room : frames.length < maxOpen
    · have shallow : ¬ TooDeep segs n := fun deep => ((stands.tooDeep_iff at_n).1 deep).2 room
      rw [if_pos room]
      exact (ih behind (by simp [depth]) (stands.opens at_n rfl)).prepend shallow fine
    · rw [if_neg room]
      exact ⟨n, .inl ((stands.tooDeep_iff at_n).2 ⟨rfl, room⟩)⟩
  | closes label more ih =>
    intro n frames before split depth stands
    obtain ⟨at_n, behind⟩ := drop_eq_cons split
    have shallow := stands.not_tooDeep at_n (by simp)
    obtain ⟨frame, frames, rfl⟩ := List.exists_cons_of_length_eq_add_one depth
    rcases stands.place_cases at_n (by simp) with ⟨unplaced, misplaced⟩ | ⟨⟨list, placed⟩, fine⟩
    · rw [readFrom, unplaced]
      exact ⟨n, .inr misplaced⟩
    · rw [readFrom, placed]
      exact (ih behind (by simpa using depth) (stands.closes at_n rfl placed)).prepend shallow fine

theorem exists_inFirst_iff : (∃ i, InFirst segs i) ↔ ∃ i, level segs i = 0 ∧ IsToken segs i := by
  classical
  constructor
  · rintro ⟨i, inside⟩
    induction inside with
    | root outermost token first => exact ⟨_, outermost, token⟩
    | argument _ _ _ ih => exact ih
  · intro some
    obtain ⟨outermost, token⟩ := Nat.find_spec some
    refine ⟨Nat.find some, .root outermost token fun j earlier tokenToo => ?_⟩
    have level_j := earlier.2.1
    rw [outermost] at level_j
    exact Nat.find_min some earlier.1 ⟨level_j, tokenToo⟩

theorem firstLabels_eq_nil_iff (os : List Outline) : firstLabels os = [] ↔ os = [] := by
  rcases List.eq_nil_or_concat os with rfl | ⟨others, ⟨label, marked, inner⟩, rfl⟩
  · exact iff_of_true rfl rfl
  · simp [firstLabels, Outline.labels]

/-- Where nothing goes wrong in reading, the first tree alone decides. -/
theorem Outcome.refused_iff {os : List Outline} (outcome : Outcome segs 0 (some os)) :
    Refused segs ↔ os = [] ∨ ∃ label ∈ firstLabels os, Misnamed label := by
  obtain ⟨sound, collects⟩ := outcome
  have empty_iff : os = [] ↔ ∀ i, level segs i = 0 → ¬ IsToken segs i := by
    have some_iff := @exists_inFirst_iff segs
    rw [← firstLabels_eq_nil_iff, List.eq_nil_iff_forall_not_mem]
    constructor
    · intro none i outermost token
      obtain ⟨j, inside⟩ := some_iff.2 ⟨i, outermost, token⟩
      obtain ⟨t, at_j, -⟩ := inside.isToken
      have reached := (List.getElem?_eq_some_iff.1 at_j).1
      exact none t.label ((collects _).2 ⟨j, t, reached, inside, at_j, rfl⟩)
    · intro none label member
      obtain ⟨j, -, -, inside, -⟩ := (collects label).1 member
      obtain ⟨i, outermost, token⟩ := some_iff.1 ⟨j, inside⟩
      exact none i outermost token
  constructor
  · rintro (⟨i, deep⟩ | ⟨i, misplaced⟩ | none | ⟨i, s, inside, at_i, bad⟩)
    · exact absurd deep (sound i (Nat.zero_le i)).1
    · exact absurd misplaced (sound i (Nat.zero_le i)).2
    · exact .inl (empty_iff.2 none)
    · have reached := (List.getElem?_eq_some_iff.1 at_i).1
      exact .inr ⟨s.label, (collects _).2 ⟨i, s, reached, inside, at_i, rfl⟩, bad⟩
  · rintro (empty | ⟨label, member, bad⟩)
    · exact .noToken (empty_iff.1 empty)
    · obtain ⟨i, s, -, inside, at_i, rfl⟩ := (collects label).1 member
      exact .misnamed i s inside at_i bad

end

/-- A text spells no type exactly if the places of its segments refuse it. -/
theorem parseChars?_eq_none_iff (cs : List Char) :
    parseChars? cs = none ↔ Refused (segments (scope cs)) := by
  have outcome :=
    readFrom_outcome (scoped_segments cs) List.drop_zero rfl (stands_start (segments (scope cs)))
  rw [readFrom_scope] at outcome
  rw [parseChars?, outlines?]
  cases read : readFrom [] [] (segments cs) with
  | none =>
    rw [read] at outcome
    obtain ⟨i, deep | misplaced⟩ := outcome
    · exact iff_of_true rfl (.tooDeep i deep)
    · exact iff_of_true rfl (.misplaced i misplaced)
  | some os =>
    rw [read] at outcome
    rw [outcome.refused_iff]
    rcases List.eq_nil_or_concat os with rfl | ⟨others, first, rfl⟩
    · exact iff_of_true rfl (.inl rfl)
    · have labels : firstLabels (others ++ [first]) = first.labels := by simp [firstLabels]
      simp [labels, toTypeExpr?_eq_none_iff]

/-- A signature is refused exactly when the places of its segments, up to the first `>` that closes
no list, give a reason. -/
theorem parse_error_iff (s : String) :
    (∃ e, parse s = .error e) ↔ Refused (segments (scope s.toList)) := by
  rw [← parseChars?_eq_none_iff]
  constructor
  · rintro ⟨e, refused⟩
    exact (parse_eq_error_iff.1 refused).1
  · exact fun refused => ⟨⟨s⟩, parse_eq_error_iff.2 ⟨refused, rfl⟩⟩

end MockScaffold.TypeExpr
