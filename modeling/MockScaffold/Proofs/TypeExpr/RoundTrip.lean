import MockScaffold.Proofs.TypeExpr.Labels

/-!
The spelling of a type whose names are proper is read as that type, provided
that no node lies inside more than `maxOpen` others; otherwise it is refused.
Reading the spelling of a type has the same effect on the lists around it as
placing its outline there.
-/

namespace MockScaffold.TypeExpr
open Text

/-- A name that a signature can spell. -/
structure ProperName (name : List Char) : Prop where
  nonempty : name ≠ []
  tight : Tight name
  plain : ∀ c ∈ name, c ∉ ['<', '>', ',', '?']

instance (name : List Char) : Decidable (ProperName name) :=
  letI : Decidable (∀ c ∈ name, c ∉ ['<', '>', ',', '?']) := List.decidableBAll _ _
  decidable_of_iff (name ≠ [] ∧ Tight name ∧ ∀ c ∈ name, c ∉ ['<', '>', ',', '?'])
    ⟨fun h => ⟨h.1, h.2.1, h.2.2⟩, fun h => ⟨h.nonempty, h.tight, h.plain⟩⟩

/-- Every node has a proper name. -/
def WellNamed (t : TypeExpr) : Prop := ∀ u ∈ t.walk, ProperName u.name.toList

/-- No node of a type that stands inside `depth` others lies inside more than `maxOpen`. -/
def FitsAt (depth : Nat) (t : TypeExpr) : Prop := ∀ p ∈ t.nodesAt depth, p.1 ≤ maxOpen

instance (t : TypeExpr) : Decidable (WellNamed t) := inferInstanceAs (Decidable (∀ u ∈ _, _))

instance (depth : Nat) (t : TypeExpr) : Decidable (FitsAt depth t) :=
  inferInstanceAs (Decidable (∀ p ∈ _, _))

theorem walkAll_eq_flatMap (ts : List TypeExpr) : walkAll ts = ts.flatMap walk := by
  induction ts with
  | nil => rfl
  | cons t ts ih => rw [walkAll, ih, List.flatMap_cons]

theorem nodesOfAt_eq_flatMap (depth : Nat) (ts : List TypeExpr) :
    nodesOfAt depth ts = ts.flatMap (nodesAt depth) := by
  induction ts with
  | nil => rfl
  | cons t ts ih => rw [nodesOfAt, ih, List.flatMap_cons]

theorem wellNamed_node {name : String} {nullable : Bool} {arguments : List TypeExpr} :
    WellNamed (.node name nullable arguments) ↔
      ProperName name.toList ∧ ∀ a ∈ arguments, WellNamed a := by
  simp only [WellNamed, walk, walkAll_eq_flatMap, List.mem_cons, List.mem_flatMap,
    forall_eq_or_imp, name_node]
  constructor
  · rintro ⟨own, inner⟩
    exact ⟨own, fun a member u inside => inner u ⟨a, member, inside⟩⟩
  · rintro ⟨own, inner⟩
    exact ⟨own, fun u ⟨a, member, inside⟩ => inner a member u inside⟩

theorem fitsAt_node {depth : Nat} {name : String} {nullable : Bool} {arguments : List TypeExpr} :
    FitsAt depth (.node name nullable arguments) ↔
      depth ≤ maxOpen ∧ ∀ a ∈ arguments, FitsAt (depth + 1) a := by
  simp only [FitsAt, nodesAt, nodesOfAt_eq_flatMap, List.mem_cons, List.mem_flatMap,
    forall_eq_or_imp]
  constructor
  · rintro ⟨own, inner⟩
    exact ⟨own, fun a member p inside => inner p ⟨a, member, inside⟩⟩
  · rintro ⟨own, inner⟩
    exact ⟨own, fun p ⟨a, member, inside⟩ => inner a member p inside⟩

/-- The outermost node alone tells whether a type without arguments fits. -/
theorem FitsAt.depth_le {depth : Nat} {t : TypeExpr} (fits : FitsAt depth t) : depth ≤ maxOpen := by
  cases t with
  | node => exact (fitsAt_node.1 fits).1

namespace ProperName
variable {name : List Char}

theorem unmarked (proper : ProperName name) : Unmarked name := by
  intro c member
  have plain := proper.plain c member
  simp only [List.mem_cons, List.not_mem_nil, or_false, not_or] at plain
  unfold Mark.ofChar?
  split <;> simp_all

theorem marker_not_mem (proper : ProperName name) : '?' ∉ name :=
  fun member => proper.plain '?' member (by decide)

theorem head?_ne_marker (proper : ProperName name) : name.head? ≠ some '?' :=
  fun first => proper.marker_not_mem (List.mem_of_head? first)

theorem getLast?_ne_marker (proper : ProperName name) : name.getLast? ≠ some '?' :=
  fun last => proper.marker_not_mem (List.mem_of_getLast? last)

theorem tight_marked (proper : ProperName name) : Tight (name ++ ['?']) := by
  refine ⟨fun c first => ?_, fun c last => ?_⟩
  · obtain ⟨d, rest, rfl⟩ := List.exists_cons_of_ne_nil proper.nonempty
    exact proper.tight.first c first
  · rw [List.getLast?_concat] at last
    cases last
    decide

theorem unmarked_marked (proper : ProperName name) : Unmarked (name ++ ['?']) :=
  unmarked_concat proper.unmarked rfl

theorem splitMarker_eq (proper : ProperName name) : splitMarker name = (name, false) := by
  unfold splitMarker
  split
  · exact absurd ‹_› proper.getLast?_ne_marker
  · rfl

theorem splitMarker_marked (proper : ProperName name) :
    splitMarker (name ++ ['?']) = (name, true) := by
  simp only [splitMarker, List.getLast?_concat, List.dropLast_concat,
    trimEnd_eq_self proper.tight.last]

end ProperName

mutual

/-- The outline that the spelling of a type has: only behind a list is the marker a label. -/
def outline : TypeExpr → Outline
  | .node name nullable [] => .node (name.toList ++ if nullable then ['?'] else []) false []
  | .node name nullable (first :: rest) =>
    .node name.toList nullable (outline first :: outlineAll rest)

def outlineAll : List TypeExpr → List Outline
  | [] => []
  | t :: ts => outline t :: outlineAll ts

end

mutual

theorem toTypeExpr?_outline : ∀ t : TypeExpr, t.WellNamed → t.outline.toTypeExpr? = some t
  | .node name nullable [], named => by
    have proper := (wellNamed_node.1 named).1
    have split : splitMarker (name.toList ++ if nullable then ['?'] else []) =
        (name.toList, nullable) := by
      cases nullable with
      | false => simpa using proper.splitMarker_eq
      | true => exact proper.splitMarker_marked
    rw [outline, Outline.toTypeExpr?, split]
    simp [proper.nonempty, proper.marker_not_mem, Outline.toTypeExprs?, String.ofList_toList]
  | .node name nullable (first :: rest), named => by
    obtain ⟨proper, inner⟩ := wellNamed_node.1 named
    have list : Outline.toTypeExprs? (outlineAll (first :: rest)) = some (first :: rest) :=
      toTypeExprs?_outlineAll (first :: rest) inner
    rw [outline, ← outlineAll, Outline.toTypeExpr?, proper.splitMarker_eq]
    simp [proper.nonempty, proper.marker_not_mem, list, String.ofList_toList]

theorem toTypeExprs?_outlineAll : ∀ ts : List TypeExpr, (∀ t ∈ ts, t.WellNamed) →
    Outline.toTypeExprs? (outlineAll ts) = some ts
  | [], _ => rfl
  | t :: ts, named => by
    have first := toTypeExpr?_outline t (named t List.mem_cons_self)
    have rest := toTypeExprs?_outlineAll ts fun u member => named u (List.mem_cons_of_mem _ member)
    rw [outlineAll, Outline.toTypeExprs?, first, rest]
    rfl

end

/-! ## Reading a spelling -/

/-- What may stand behind a type: nothing, or a mark that opens no list. -/
inductive Follows : List Char → Prop where
  | nothing : Follows []
  | comma (rest : List Char) : Follows (',' :: rest)
  | close (rest : List Char) : Follows ('>' :: rest)

/-- Behind a run without structure, what follows ends the label. -/
theorem Follows.segments_eq {rest : List Char} (follows : Follows rest) :
    ∃ mark more, mark ≠ .opens ∧
      ∀ run, Unmarked run → segments (run ++ rest) = ⟨trim run, mark⟩ :: more := by
  cases follows with
  | nothing => exact ⟨.ends, [], by decide, fun run plain => by simp [segments_unmarked plain]⟩
  | comma rest =>
    exact ⟨.separates, segments rest, by decide, fun run plain => segments_marked plain rfl rest⟩
  | close rest =>
    exact ⟨.closes, segments rest, by decide, fun run plain => segments_marked plain rfl rest⟩

/-- A label is placed as soon as it is known that no list follows it. -/
theorem readFrom_placed {mark : Mark} (other : mark ≠ .opens) {label : List Char}
    {before list : List Outline} (placed : place label before = some list) (frames : List Frame)
    (more : List Segment) :
    readFrom frames before (⟨label, mark⟩ :: more) = readFrom frames list (⟨[], mark⟩ :: more) := by
  cases mark with
  | opens => exact absurd rfl other
  | separates => simp [readFrom, placed, place_nil]
  | closes => simp [readFrom, placed, place_nil]
  | ends => simp [readFrom, placed, place_nil]

theorem readFrom_run {run : List Char} (unmarked : Unmarked run) {before list : List Outline}
    (placed : place (trim run) before = some list) {rest : List Char} (follows : Follows rest)
    (frames : List Frame) :
    readFrom frames before (segments (run ++ rest)) = readFrom frames list (segments rest) := by
  obtain ⟨mark, more, other, segmented⟩ := follows.segments_eq
  have bare : segments rest = ⟨[], mark⟩ :: more := segmented [] unmarked_nil
  rw [segmented run unmarked, bare, readFrom_placed other placed]

theorem readFrom_leaf {name : String} (proper : ProperName name.toList) (nullable : Bool)
    {rest : List Char} (follows : Follows rest) (frames : List Frame) (before : List Outline) :
    readFrom frames before
        (segments ((name.toList ++ if nullable then ['?'] else []) ++ rest)) =
      readFrom frames (outline (.node name nullable []) :: before) (segments rest) := by
  refine readFrom_run ?_ ?_ follows frames
  · cases nullable with
    | false => simpa using proper.unmarked
    | true => exact proper.unmarked_marked
  · have tight : Tight (name.toList ++ if nullable then ['?'] else []) := by
      cases nullable with
      | false => simpa using proper.tight
      | true => exact proper.tight_marked
    rw [tight.trim_eq, outline]
    apply place_label
    · simp [proper.nonempty]
    · obtain ⟨c, cs, split⟩ := List.exists_cons_of_ne_nil proper.nonempty
      have first := proper.head?_ne_marker
      rw [split] at first ⊢
      exact first

theorem readFrom_marker (nullable : Bool) {rest : List Char} (follows : Follows rest)
    (frames : List Frame) (label : List Char) (inner before : List Outline) :
    readFrom frames (.node label false inner :: before)
        (segments ((if nullable then ['?'] else []) ++ rest)) =
      readFrom frames (.node label nullable inner :: before) (segments rest) := by
  cases nullable with
  | false => rfl
  | true =>
    have lone : trim ['?'] = ['?'] := by decide
    have placed := place_marker label inner before
    rw [← lone] at placed
    exact readFrom_run (by decide) placed follows frames

/-- A proper name in front of `<` makes the current list wait. -/
theorem readFrom_owner {name : List Char} (proper : ProperName name) (frames : List Frame)
    (before : List Outline) (rest : List Char) :
    readFrom frames before (segments (name ++ '<' :: rest)) =
      if frames.length < maxOpen then readFrom (⟨name, before⟩ :: frames) [] (segments rest)
      else none := by
  rw [segments_marked proper.unmarked rfl, proper.tight.trim_eq, readFrom]

theorem readFrom_close {owner : List Char} (nonempty : owner ≠ []) (frames : List Frame)
    (before inner : List Outline) (rest : List Char) :
    readFrom (⟨owner, before⟩ :: frames) inner (segments ('>' :: rest)) =
      readFrom frames (.node owner false inner.reverse :: before) (segments rest) := by
  have bare : segments ('>' :: rest) = ⟨[], .closes⟩ :: segments rest :=
    segments_marked unmarked_nil rfl rest
  simp [bare, readFrom, place, Frame.resume, nonempty]

theorem readFrom_comma (frames : List Frame) (before : List Outline) (rest : List Char) :
    readFrom frames before (segments (',' :: ' ' :: rest)) =
      readFrom frames before (segments rest) := by
  have bare : segments (',' :: ' ' :: rest) = ⟨[], .separates⟩ :: segments (' ' :: rest) :=
    segments_marked unmarked_nil rfl _
  simp [bare, readFrom, place, segments_cons_blank (c := ' ') (by decide) rfl]

theorem follows_textRest (ts : List TypeExpr) (rest : List Char) :
    Follows ((textRest ts).toList ++ '>' :: rest) := by
  cases ts with
  | nil => exact .close rest
  | cons t ts =>
    simp only [textRest, String.toList_append, List.append_assoc]
    exact .comma _

mutual

/-- Reading the spelling of a type places its outline, if the lists it opens fit into those that
are open. -/
theorem readFrom_text : ∀ t : TypeExpr, t.WellNamed →
    ∀ (frames : List Frame) (before : List Outline) (rest : List Char), Follows rest →
      frames.length ≤ maxOpen →
      readFrom frames before (segments (t.text.toList ++ rest)) =
        if t.FitsAt frames.length then readFrom frames (t.outline :: before) (segments rest)
        else none
  | .node name nullable [], named, frames, before, rest, follows, room => by
    have proper := (wellNamed_node.1 named).1
    have spelled : (text (.node name nullable [])).toList =
        name.toList ++ if nullable then ['?'] else [] := by
      cases nullable <;> simp [text]
    have fits : FitsAt frames.length (.node name nullable []) := fitsAt_node.2 ⟨room, by simp⟩
    rw [spelled, if_pos fits]
    exact readFrom_leaf proper nullable follows frames before
  | .node name nullable (first :: others), named, frames, before, rest, follows, room => by
    obtain ⟨proper, inner⟩ := wellNamed_node.1 named
    have spelled : (text (.node name nullable (first :: others))).toList ++ rest =
        name.toList ++ '<' :: (first.text.toList ++ ((textRest others).toList ++
          '>' :: ((if nullable then ['?'] else []) ++ rest))) := by
      cases nullable <;> simp [text]
    rw [spelled, readFrom_owner proper]
    by_cases more : frames.length < maxOpen
    · have firstRead := readFrom_text first (inner first List.mem_cons_self)
        (⟨name.toList, before⟩ :: frames) []
        ((textRest others).toList ++ '>' :: ((if nullable then ['?'] else []) ++ rest))
        (follows_textRest others _) more
      have othersRead := readFrom_textRest others
        (fun t member => inner t (List.mem_cons_of_mem _ member))
        (⟨name.toList, before⟩ :: frames) [first.outline]
        ((if nullable then ['?'] else []) ++ rest) more
      rw [if_pos more, firstRead, othersRead, readFrom_close proper.nonempty,
        readFrom_marker nullable follows]
      simp only [List.length_cons, fitsAt_node, room, true_and, List.forall_mem_cons]
      by_cases firstFits : first.FitsAt (frames.length + 1)
      · by_cases othersFit : ∀ t ∈ others, t.FitsAt (frames.length + 1)
        · rw [if_pos firstFits, if_pos othersFit, if_pos ⟨firstFits, othersFit⟩]
          simp [outline]
        · rw [if_pos firstFits, if_neg othersFit, if_neg fun both => othersFit both.2]
      · rw [if_neg firstFits, if_neg fun both => firstFits both.1]
    · have deep : ¬ FitsAt frames.length (.node name nullable (first :: others)) := by
        intro fits
        have := ((fitsAt_node.1 fits).2 first List.mem_cons_self).depth_le
        omega
      rw [if_neg more, if_neg deep]

theorem readFrom_textRest : ∀ ts : List TypeExpr, (∀ t ∈ ts, t.WellNamed) →
    ∀ (frames : List Frame) (before : List Outline) (rest : List Char),
      frames.length ≤ maxOpen →
      readFrom frames before (segments ((textRest ts).toList ++ '>' :: rest)) =
        if ∀ t ∈ ts, t.FitsAt frames.length then
          readFrom frames ((outlineAll ts).reverse ++ before) (segments ('>' :: rest))
        else none
  | [], _, frames, before, rest, _ => by simp [textRest, outlineAll]
  | t :: ts, named, frames, before, rest, room => by
    have firstRead := readFrom_text t (named t List.mem_cons_self) frames before
      ((textRest ts).toList ++ '>' :: rest) (follows_textRest ts rest) room
    have othersRead := readFrom_textRest ts
      (fun u member => named u (List.mem_cons_of_mem _ member)) frames (t.outline :: before) rest
      room
    have spelled : (textRest (t :: ts)).toList ++ '>' :: rest =
        ',' :: ' ' :: (t.text.toList ++ ((textRest ts).toList ++ '>' :: rest)) := by
      simp [textRest]
    rw [spelled, readFrom_comma, firstRead, othersRead]
    simp only [List.forall_mem_cons]
    by_cases firstFits : t.FitsAt frames.length
    · by_cases othersFit : ∀ u ∈ ts, u.FitsAt frames.length
      · rw [if_pos firstFits, if_pos othersFit, if_pos ⟨firstFits, othersFit⟩]
        simp [outlineAll]
      · rw [if_pos firstFits, if_neg othersFit, if_neg fun both => othersFit both.2]
    · rw [if_neg firstFits, if_neg fun both => firstFits both.1]

end

/-- The spelling of a type lists its outline alone, unless it is nested too deep. -/
theorem outlines?_text {t : TypeExpr} (named : t.WellNamed) :
    outlines? t.text.toList = if t.FitsAt 0 then some [t.outline] else none := by
  have read := readFrom_text t named [] [] [] .nothing (Nat.zero_le _)
  rw [List.append_nil] at read
  rw [outlines?, read]
  by_cases fits : t.FitsAt 0
  · rw [if_pos fits]
    simp [fits, segments, segmentsFrom, trim, trimEnd, trimStart, readFrom, place, closeAll]
  · simp [fits]

/-- A well-named type is parsed from its spelling, unless it is nested too deep. -/
theorem parseChars?_text {t : TypeExpr} (named : t.WellNamed) :
    parseChars? t.text.toList = if t.FitsAt 0 then some t else none := by
  rw [parseChars?, outlines?_text named]
  by_cases fits : t.FitsAt 0
  · simp [fits, toTypeExpr?_outline t named]
  · simp [fits]

theorem parse_eq_ok_iff {s : String} {t : TypeExpr} :
    parse s = .ok t ↔ parseChars? s.toList = some t := by
  unfold parse
  cases parseChars? s.toList with
  | none => simp
  | some u => simp

theorem parse_eq_error_iff {s : String} {e : SignatureError} :
    parse s = .error e ↔ parseChars? s.toList = none ∧ e = ⟨s⟩ := by
  unfold parse
  cases parseChars? s.toList with
  | none => simp [eq_comm]
  | some t => simp

theorem parse_spelled {t : TypeExpr} (named : t.WellNamed) (fits : t.FitsAt 0) :
    parse t.text = .ok t := by
  rw [parse_eq_ok_iff, parseChars?_text named, if_pos fits]

/-- Writing and reading are inverse up to the nesting limit: a well-named type is read back from
its spelling if no node lies inside more than `maxOpen` others, and refused if one does. -/
theorem parse_text (t : TypeExpr) (named : t.WellNamed) :
    ((∀ p ∈ t.nodes, p.1 ≤ maxOpen) → parse t.text = .ok t) ∧
      ((∃ p ∈ t.nodes, maxOpen < p.1) → parse t.text = .error ⟨t.text⟩) := by
  have read := parseChars?_text named
  constructor
  · intro fits
    have shallow : t.FitsAt 0 := fits
    rw [parse_eq_ok_iff, read, if_pos shallow]
  · rintro ⟨p, member, deep⟩
    have tooDeep : ¬ t.FitsAt 0 := fun fits => absurd (fits p member) (by omega)
    rw [parse_eq_error_iff, read, if_neg tooDeep]
    exact ⟨rfl, rfl⟩

/-- A type inside `n` others. -/
def boxed : Nat → TypeExpr
  | 0 => .specific "Data" true
  | n + 1 => .generic "Box" false [boxed n]

theorem wellNamed_boxed (n : Nat) : WellNamed (boxed n) := by
  induction n with
  | zero => exact wellNamed_node.2 ⟨by decide +kernel, by simp⟩
  | succ n ih => exact wellNamed_node.2 ⟨by decide +kernel, by simpa using ih⟩

theorem mem_nodesAt_boxed (depth n : Nat) : (depth + n, boxed 0) ∈ (boxed n).nodesAt depth := by
  induction n generalizing depth with
  | zero => simp [boxed, specific, nodesAt]
  | succ n ih =>
    have inner := ih (depth + 1)
    have whole : (boxed (n + 1)).nodesAt depth =
        (depth, boxed (n + 1)) :: ((boxed n).nodesAt (depth + 1) ++ []) := rfl
    rw [whole, List.append_nil]
    exact List.mem_cons_of_mem _ (by rwa [Nat.add_right_comm] at inner)

/-- A type with markers at several depths is parsed from its spelling, and one inside 257 others is
refused. -/
theorem parse_text_nested :
    (WellNamed (.node "Map" true [.node "String" false [], .node "List" true [boxed 2]]) ∧
      parse "Map<String, List<Box<Box<Data?>>>?>?" =
        .ok (.node "Map" true [.node "String" false [], .node "List" true [boxed 2]])) ∧
    WellNamed (boxed (maxOpen + 1)) ∧
      parse (boxed (maxOpen + 1)).text = .error ⟨(boxed (maxOpen + 1)).text⟩ := by
  have named :
      WellNamed (.node "Map" true [.node "String" false [], .node "List" true [boxed 2]]) :=
    by decide +kernel
  have namedDeep : WellNamed (boxed (maxOpen + 1)) := wellNamed_boxed (maxOpen + 1)
  have deep : ∃ p ∈ (boxed (maxOpen + 1)).nodes, maxOpen < p.1 :=
    ⟨(0 + (maxOpen + 1), boxed 0), mem_nodesAt_boxed 0 (maxOpen + 1), by simp⟩
  have read := (parse_text _ named).1 (by decide +kernel)
  have refused := (parse_text _ namedDeep).2 deep
  have spelled : text (.node "Map" true [.node "String" false [], .node "List" true [boxed 2]]) =
      "Map<String, List<Box<Box<Data?>>>?>?" := by decide +kernel
  rw [spelled] at read
  exact ⟨⟨named, read⟩, namedDeep, refused⟩

end MockScaffold.TypeExpr
