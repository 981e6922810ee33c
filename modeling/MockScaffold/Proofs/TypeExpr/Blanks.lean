import MockScaffold.Proofs.Outcomes
import MockScaffold.Proofs.TypeExpr.Rejection
import MockScaffold.Proofs.TypeExpr.Surroundings

/-!
Blanks at either end of a signature, or beside a mark or a `?`, say nothing: a
label with them and one without are placed alike, and settled alike unless a `?`
inside spoils both. Two texts whose segments differ in such labels only are
therefore read side by side, with outlines that differ in no more than labels.
-/

namespace MockScaffold
open Text

namespace Text

theorem trimEnd_eq (cs : List Char) : trimEnd cs = (trimStart cs.reverse).reverse := rfl

theorem trimStart_blanks {blanks : List Char} (blank : ∀ c ∈ blanks, isBlank c = true)
    (cs : List Char) : trimStart (blanks ++ cs) = trimStart cs :=
  List.dropWhile_append_of_pos blank

theorem blank_reverse {blanks : List Char} (blank : ∀ c ∈ blanks, isBlank c = true) :
    ∀ c ∈ blanks.reverse, isBlank c = true := by
  intro c member
  exact blank c (List.mem_reverse.1 member)

theorem trimEnd_blanks {blanks : List Char} (blank : ∀ c ∈ blanks, isBlank c = true)
    (cs : List Char) : trimEnd (cs ++ blanks) = trimEnd cs := by
  rw [trimEnd_eq, trimEnd_eq, List.reverse_append, trimStart_blanks (blank_reverse blank)]

/-- Blanks behind a text that is not blank are not at its start. -/
theorem trimStart_append_blanks {blanks : List Char} (blank : ∀ c ∈ blanks, isBlank c = true)
    (cs : List Char) :
    trimStart (cs ++ blanks) = if trimStart cs = [] then [] else trimStart cs ++ blanks := by
  have nothing : trimStart blanks = [] := List.dropWhile_eq_nil_iff.2 blank
  rw [trimStart, List.dropWhile_append, ← trimStart, ← trimStart, nothing]
  simp only [List.isEmpty_iff]

/-- Blanks in front of a text that is not blank are not at its end. -/
theorem trimEnd_append_blanks {blanks : List Char} (blank : ∀ c ∈ blanks, isBlank c = true)
    (cs : List Char) :
    trimEnd (blanks ++ cs) = if trimEnd cs = [] then [] else blanks ++ trimEnd cs := by
  rw [trimEnd_eq, trimEnd_eq, List.reverse_append, trimStart_append_blanks (blank_reverse blank)]
  by_cases nothing : trimStart cs.reverse = []
  · simp [nothing]
  · simp [nothing]

theorem trim_blanks {blanks : List Char} (blank : ∀ c ∈ blanks, isBlank c = true)
    (cs : List Char) : trim (blanks ++ cs) = trim cs := by
  rw [trim, trim, trimStart_blanks blank]

theorem trim_append_blanks {blanks : List Char} (blank : ∀ c ∈ blanks, isBlank c = true)
    (cs : List Char) : trim (cs ++ blanks) = trim cs := by
  rw [trim, trim, trimStart_append_blanks blank]
  by_cases nothing : trimStart cs = []
  · rw [if_pos nothing, nothing]
  · rw [if_neg nothing, trimEnd_blanks blank]

section
variable {c : Char} (solid : isBlank c = false) (front back : List Char)
include solid

theorem trimStart_around : trimStart (front ++ c :: back) = trimStart front ++ c :: back := by
  have stays : trimStart (c :: back) = c :: back := List.dropWhile_cons_of_neg (by simp [solid])
  rw [trimStart, List.dropWhile_append, ← trimStart, ← trimStart, stays]
  by_cases nothing : trimStart front = []
  · simp [nothing]
  · simp [nothing]

theorem trimEnd_around : trimEnd (front ++ c :: back) = front ++ c :: trimEnd back := by
  have reversed : (front ++ c :: back).reverse = back.reverse ++ c :: front.reverse := by simp
  rw [trimEnd_eq, reversed, trimStart_around solid, trimEnd_eq]
  simp

theorem trim_around : trim (front ++ c :: back) = trimStart front ++ c :: trimEnd back := by
  rw [trim, trimStart_around solid, trimEnd_around solid]

end

end Text

namespace TypeExpr

/-- Two labels that are placed alike, and that are both misnamed or have one name and marker. -/
structure AlikeLabels (label other : List Char) : Prop where
  empty : label = [] ↔ other = []
  lone : label = ['?'] ↔ other = ['?']
  asks : label.head? = some '?' ↔ other.head? = some '?'
  settled : splitMarker label = splitMarker other ∨ Misnamed label ∧ Misnamed other

theorem AlikeLabels.refl (label : List Char) : AlikeLabels label label :=
  ⟨.rfl, .rfl, .rfl, .inl rfl⟩

theorem isBlank_marker : isBlank '?' = false := by decide

/-- Only one `?` is taken off a label, and only from its end. -/
theorem misnamed_inside (front : List Char) {back : List Char} (more : back ≠ []) :
    Misnamed (front ++ '?' :: back) := by
  refine .inr ?_
  unfold bareName
  by_cases asked : (front ++ '?' :: back).getLast? = some '?'
  · have cut : (front ++ '?' :: back).dropLast = front ++ '?' :: back.dropLast := by
      rw [List.dropLast_append_of_ne_nil (by simp), List.dropLast_cons_of_ne_nil more]
    rw [if_pos asked, cut, trimEnd_around isBlank_marker]
    simp
  · rw [if_neg asked]
    simp

theorem ne_lone (front : List Char) {back : List Char} (more : back ≠ []) :
    front ++ '?' :: back ≠ ['?'] := by
  simp [List.append_eq_singleton_iff, more]

theorem head?_append_cons (front : List Char) (c : Char) (back other : List Char) :
    (front ++ c :: back).head? = (front ++ c :: other).head? := by
  cases front with
  | nil => rfl
  | cons d front => rfl

/-- Behind a `?` blanks leave a label as it is, or the `?` stands inside with them and without. -/
theorem alikeLabels_behind {blanks : List Char} (blank : ∀ c ∈ blanks, isBlank c = true)
    (front back : List Char) :
    AlikeLabels (trim (front ++ '?' :: (blanks ++ back))) (trim (front ++ '?' :: back)) := by
  rw [trim_around isBlank_marker, trim_around isBlank_marker, trimEnd_append_blanks blank]
  by_cases nothing : trimEnd back = []
  · rw [if_pos nothing, nothing]
    exact .refl _
  · rw [if_neg nothing]
    have more : blanks ++ trimEnd back ≠ [] := by simp [nothing]
    exact ⟨by simp, iff_of_false (ne_lone _ more) (ne_lone _ nothing),
      by rw [head?_append_cons], .inr ⟨misnamed_inside _ more, misnamed_inside _ nothing⟩⟩

/-- In front of a `?` blanks are cut off with it, or the `?` stands inside. -/
theorem alikeLabels_before {blanks : List Char} (blank : ∀ c ∈ blanks, isBlank c = true)
    (front back : List Char) :
    AlikeLabels (trim (front ++ blanks ++ '?' :: back)) (trim (front ++ '?' :: back)) := by
  rw [trim_around isBlank_marker, trim_around isBlank_marker, trimStart_append_blanks blank]
  by_cases nothing : trimStart front = []
  · rw [if_pos nothing, nothing]
    exact .refl _
  · rw [if_neg nothing]
    obtain ⟨d, run, split⟩ := List.exists_cons_of_ne_nil nothing
    rw [split]
    refine ⟨by simp, by simp, by simp, ?_⟩
    by_cases last : trimEnd back = []
    · refine .inl ?_
      simp only [last, splitMarker, List.getLast?_concat, List.dropLast_concat]
      rw [trimEnd_blanks blank]
    · exact .inr ⟨misnamed_inside _ last, misnamed_inside _ last⟩

/-- Where a text begins or ends, or directly behind or before one of `<`, `,`, `>` and `?`. -/
def AtStructure (front back : List Char) : Prop :=
  (∀ c ∈ front.getLast?, c ∈ ['<', ',', '>', '?']) ∨ ∀ c ∈ back.head?, c ∈ ['<', ',', '>', '?']

theorem ofChar?_blank {c : Char} (blank : isBlank c = true) : Mark.ofChar? c = none := by
  unfold Mark.ofChar?
  split
  · revert blank; decide
  · revert blank; decide
  · revert blank; decide
  · rfl

/-- One of `<`, `,`, `>` and `?` is a mark unless it is the last. -/
theorem mark_or_marker {c : Char} (structural : c ∈ ['<', ',', '>', '?']) :
    (∃ mark, Mark.ofChar? c = some mark) ∨ c = '?' := by
  simp only [List.mem_cons, List.not_mem_nil, or_false] at structural
  rcases structural with rfl | rfl | rfl | rfl
  · exact .inl ⟨.opens, rfl⟩
  · exact .inl ⟨.separates, rfl⟩
  · exact .inl ⟨.closes, rfl⟩
  · exact .inr rfl

theorem lastRun_cases {front : List Char}
    (structural : ∀ c ∈ front.getLast?, c ∈ ['<', ',', '>', '?']) :
    lastRun front = [] ∨ ∃ run, lastRun front = run ++ ['?'] := by
  rcases List.eq_nil_or_concat front with rfl | ⟨front, c, rfl⟩
  · exact .inl rfl
  · rw [List.concat_eq_append] at structural ⊢
    rcases mark_or_marker (structural c (by simp)) with ⟨mark, marked⟩ | rfl
    · exact .inl (lastRun_mark marked front)
    · exact .inr ⟨lastRun front, lastRun_plain (by decide) front⟩

theorem firstRun_cases {back : List Char}
    (structural : ∀ c ∈ back.head?, c ∈ ['<', ',', '>', '?']) :
    firstRun back = [] ∨ ∃ run, firstRun back = '?' :: run := by
  cases back with
  | nil => exact .inl rfl
  | cons c back =>
    rcases mark_or_marker (structural c rfl) with ⟨mark, marked⟩ | rfl
    · exact .inl (firstRun_mark marked back)
    · exact .inr ⟨firstRun back, firstRun_plain (by decide) back⟩

theorem alikeLabels_insert {front back blanks : List Char} (place : AtStructure front back)
    (blank : ∀ c ∈ blanks, isBlank c = true) :
    AlikeLabels (trim (lastRun front ++ blanks ++ firstRun back))
      (trim (lastRun front ++ firstRun back)) := by
  rcases place with behind | before
  · rcases lastRun_cases behind with none | ⟨run, marker⟩
    · rw [none, List.nil_append, List.nil_append, trim_blanks blank]
      exact .refl _
    · have same := alikeLabels_behind blank run (firstRun back)
      rw [marker]
      simpa using same
  · rcases firstRun_cases before with none | ⟨run, marker⟩
    · rw [none, List.append_nil, List.append_nil, trim_append_blanks blank]
      exact .refl _
    · have same := alikeLabels_before blank (lastRun front) run
      rw [marker]
      exact same

/-! ## Reading side by side -/

/-- Outlines of one shape and one marking whose labels say the same. -/
inductive Outline.Alike : Outline → Outline → Prop
  | node {label other : List Char} {marked : Bool} {inner others : List Outline}
      (labels : AlikeLabels label other) (lists : List.Forall₂ Outline.Alike inner others) :
      Outline.Alike (.node label marked inner) (.node other marked others)

/-- Segments with one mark whose labels say the same. -/
structure Segment.Alike (s t : Segment) : Prop where
  labels : AlikeLabels s.label t.label
  mark : s.mark = t.mark

theorem Segment.Alike.refl (s : Segment) : s.Alike s := ⟨.refl s.label, rfl⟩

/-- Waiting lists that are alike, with owners that say the same. -/
structure Frame.Alike (frame other : Frame) : Prop where
  owners : AlikeLabels frame.owner other.owner
  lists : List.Forall₂ Outline.Alike frame.before other.before

section
variable {label other : List Char} {before list : List Outline} {frames waiting : List Frame}

theorem place_alike (labels : AlikeLabels label other)
    (lists : List.Forall₂ Outline.Alike before list) :
    Option.Rel (List.Forall₂ Outline.Alike) (place label before) (place other list) := by
  by_cases empty : label = []
  · rw [empty, labels.empty.1 empty, place_nil, place_nil]
    exact .some lists
  · by_cases asks : label.head? = some '?'
    · by_cases lone : label = ['?']
      · -- The last type is marked in both lists or in none, as they are marked alike.
        rw [lone, labels.lone.1 lone]
        cases lists with
        | nil => exact .none
        | cons first rest =>
          obtain ⟨owners, inner⟩ := first
          rename_i marked _ _
          cases marked with
          | false => exact .some (.cons (.node owners inner) rest)
          | true => exact .none
      · have unplaced : place label before = none := place_eq_none_iff.2 ⟨asks, .inl lone⟩
        have unplacedToo : place other list = none :=
          place_eq_none_iff.2 ⟨labels.asks.1 asks, .inl (mt labels.lone.2 lone)⟩
        rw [unplaced, unplacedToo]
        exact .none
    · rw [place_label empty asks, place_label (mt labels.empty.2 empty) (mt labels.asks.2 asks)]
      exact .some (.cons (.node labels .nil) lists)

theorem resume_alike {frame owner : Frame} (alike : frame.Alike owner)
    (lists : List.Forall₂ Outline.Alike before list) :
    List.Forall₂ Outline.Alike (frame.resume before) (owner.resume list) := by
  have empty : frame.owner.isEmpty ↔ owner.owner.isEmpty := by
    simpa using alike.owners.empty
  unfold Frame.resume
  by_cases unnamed : frame.owner.isEmpty
  · rw [if_pos unnamed, if_pos (empty.1 unnamed)]
    exact alike.lists
  · rw [if_neg unnamed, if_neg (mt empty.2 unnamed)]
    exact .cons (.node alike.owners (List.rel_reverse lists)) alike.lists

theorem closeAll_alike (waits : List.Forall₂ Frame.Alike frames waiting)
    (lists : List.Forall₂ Outline.Alike before list) :
    List.Forall₂ Outline.Alike (closeAll before frames) (closeAll list waiting) := by
  induction waits generalizing before list with
  | nil => exact lists
  | cons alike _ ih => exact ih (resume_alike alike lists)

/-- Segments that say the same are read alike, or refused alike. -/
theorem readFrom_alike {segs others : List Segment}
    (segments : List.Forall₂ Segment.Alike segs others)
    (waits : List.Forall₂ Frame.Alike frames waiting)
    (lists : List.Forall₂ Outline.Alike before list) :
    Option.Rel (List.Forall₂ Outline.Alike) (readFrom frames before segs)
      (readFrom waiting list others) := by
  induction segments generalizing frames waiting before list with
  | nil => exact .some (closeAll_alike waits lists)
  | @cons s t segs others alike _ ih =>
    obtain ⟨label, mark⟩ := s
    obtain ⟨other, _⟩ := t
    obtain ⟨labels, rfl⟩ := alike
    have placed := place_alike labels lists
    cases mark with
    | opens =>
      rw [readFrom, readFrom, waits.length_eq]
      by_cases room : waiting.length < maxOpen
      · rw [if_pos room, if_pos room]
        exact ih (.cons ⟨labels, lists⟩ waits) .nil
      · rw [if_neg room, if_neg room]
        exact .none
    | separates => exact rel_bind placed fun _ _ lists => ih waits lists
    | closes =>
      refine rel_bind placed fun _ _ lists => ?_
      cases waits with
      | nil => exact .some lists
      | cons alike waits => exact ih waits (resume_alike alike lists)
    | ends => exact rel_bind placed fun _ _ lists => .some (closeAll_alike waits lists)

end

mutual

/-- Alike outlines stand for the same type, if for any. -/
theorem toTypeExpr?_alike : ∀ {o p : Outline}, o.Alike p → o.toTypeExpr? = p.toTypeExpr?
  | .node label marked inner, .node other _ others, .node labels lists => by
    have arguments := toTypeExprs?_alike lists
    rcases labels.settled with same | ⟨bad, badToo⟩
    · rw [Outline.toTypeExpr?, Outline.toTypeExpr?, same, arguments]
    · -- Both are refused for their own labels, whatever is in the lists.
      rw [(toTypeExpr?_eq_none_iff _).2 ⟨label, List.mem_cons_self, bad⟩,
        (toTypeExpr?_eq_none_iff _).2 ⟨other, List.mem_cons_self, badToo⟩]

theorem toTypeExprs?_alike : ∀ {os ps : List Outline}, List.Forall₂ Outline.Alike os ps →
    Outline.toTypeExprs? os = Outline.toTypeExprs? ps
  | [], [], .nil => rfl
  | o :: os, p :: ps, .cons first rest => by
    rw [Outline.toTypeExprs?, Outline.toTypeExprs?, toTypeExpr?_alike first,
      toTypeExprs?_alike rest]

end

/-- Texts with alike segments are read alike. -/
theorem parseChars?_alike {cs ds : List Char}
    (alike : List.Forall₂ Segment.Alike (segments cs) (segments ds)) :
    parseChars? cs = parseChars? ds := by
  have read := readFrom_alike alike .nil .nil
  unfold parseChars? outlines?
  rcases rel_cases read with ⟨refused, refusedToo⟩ | ⟨os, ps, folded, foldedToo, lists⟩
  · rw [refused, refusedToo]
  · rw [folded, foldedToo, Option.map_some, Option.map_some]
    have forward := List.rel_reverse lists
    generalize os.reverse = listed, ps.reverse = listedToo at forward
    cases forward with
    | nil => rfl
    | cons first _ => exact toTypeExpr?_alike first

/-- Blanks that are put in where a signature begins or ends, or beside one of `<`, `,`, `>` and
`?`, do not change what it spells or whether it is refused. -/
theorem parse_insert_blanks (front back blanks : String)
    (place : AtStructure front.toList back.toList)
    (blank : ∀ c ∈ blanks.toList, isBlank c = true) :
    SameOutcome (front ++ blanks ++ back) (front ++ back) := by
  apply sameOutcome_of_parseChars?
  apply parseChars?_alike
  obtain ⟨done, mark, more, around⟩ := segments_around front.toList back.toList
  have unmarked : Unmarked blanks.toList := fun c member => ofChar?_blank (blank c member)
  have whole := around blanks.toList unmarked
  have bare := around [] unmarked_nil
  simp only [String.toList_append, List.append_assoc]
  rw [whole]
  rw [List.nil_append, List.append_nil] at bare
  rw [bare]
  have own : Segment.Alike ⟨trim (lastRun front.toList ++ blanks.toList ++ firstRun back.toList),
      mark⟩ ⟨trim (lastRun front.toList ++ firstRun back.toList), mark⟩ :=
    ⟨alikeLabels_insert place blank, rfl⟩
  apply List.rel_append
  · exact List.forall₂_same.2 fun s _ => .refl s
  · exact .cons own (List.forall₂_same.2 fun s _ => .refl s)

/-- Three blanks of different kinds between a name and its marker. -/
theorem parse_insert_blanks_marker :
    AtStructure "List<K".toList "?, >?".toList ∧ (∀ c ∈ " \t\u3000".toList, isBlank c = true) ∧
      parse "List<K \t\u3000?, >?" = .ok (.node "List" true [.node "K" true []]) := by
  have place : AtStructure "List<K".toList "?, >?".toList := .inr (by simp)
  have blank : ∀ c ∈ " \t\u3000".toList, isBlank c = true := by simp [isBlank, blankRanges]
  have same := parse_insert_blanks "List<K" "?, >?" " \t\u3000" place blank
  have bare : parse ("List<K" ++ "?, >?") = .ok (.node "List" true [.node "K" true []]) := by cbv
  have read := same.parse_eq bare
  simp only [String.reduceAppend] at read
  exact ⟨place, blank, read⟩

end TypeExpr
end MockScaffold
