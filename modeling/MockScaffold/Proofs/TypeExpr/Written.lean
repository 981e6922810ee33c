import Mathlib.Data.List.Basic
import MockScaffold.Proofs.TypeExpr.Rejection

/-!
Of a signature that is read as a whole no label gets lost, none is made up and
none changes its place: what reading yields, written out again, is the list of
labels between the marks of the text. So the names of a type, an owner before
its arguments, are the names that stand in its signature.
-/

namespace MockScaffold.TypeExpr
open Text

/-- What every step of reading keeps: `holds n frames before` in front of segment `n`. -/
structure Keeps (segs : List Segment) (holds : Nat → List Frame → List Outline → Prop) :
    Prop where
  opens : ∀ {n : Nat} {s : Segment} {frames : List Frame} {before : List Outline},
    segs[n]? = some s → s.mark = .opens → holds n frames before →
      holds (n + 1) (⟨s.label, before⟩ :: frames) []
  closes : ∀ {n : Nat} {s : Segment} {frame : Frame} {frames : List Frame}
    {before list : List Outline}, segs[n]? = some s → s.mark = .closes →
      holds n (frame :: frames) before → place s.label before = some list →
        holds (n + 1) frames (frame.resume list)
  stays : ∀ {n : Nat} {s : Segment} {frames : List Frame} {before list : List Outline},
    segs[n]? = some s → s.mark ≠ .opens → s.mark ≠ .closes → holds n frames before →
      place s.label before = some list → holds (n + 1) frames list

/-- What every step keeps holds at the end, where all lists are closed at once. -/
theorem Keeps.readFrom {segs : List Segment} {holds : Nat → List Frame → List Outline → Prop}
    (keeps : Keeps segs holds) {opened : Nat} {rest : List Segment} (more : Scoped opened rest) :
    ∀ {n : Nat} {frames : List Frame} {before os : List Outline}, segs.drop n = rest →
      frames.length = opened → holds n frames before → readFrom frames before rest = some os →
        ∃ waiting last, closeAll last waiting = os ∧ holds segs.length waiting last := by
  -- The scope of the rest goes along with the frames: as many are left as lists are open.
  induction more with
  | ends opened label =>
    intro n frames before os split _ holdsHere read
    obtain ⟨at_n, behind⟩ := drop_eq_cons split
    obtain ⟨list, placed, closed⟩ := Option.bind_eq_some_iff.1 read
    have final : n + 1 = segs.length := by
      have reached := (List.getElem?_eq_some_iff.1 at_n).1
      have := List.drop_eq_nil_iff.1 behind
      omega
    exact ⟨frames, list, Option.some.inj closed,
      final ▸ keeps.stays at_n (by simp) (by simp) holdsHere placed⟩
  | separates label more ih =>
    intro n frames before os split depth holdsHere read
    obtain ⟨at_n, behind⟩ := drop_eq_cons split
    obtain ⟨list, placed, read⟩ := Option.bind_eq_some_iff.1 read
    exact ih behind depth (keeps.stays at_n (by simp) (by simp) holdsHere placed) read
  | opens label more ih =>
    intro n frames before os split depth holdsHere read
    obtain ⟨at_n, behind⟩ := drop_eq_cons split
    rw [TypeExpr.readFrom] at read
    by_cases room : frames.length < maxOpen
    · rw [if_pos room] at read
      exact ih behind (by simp [depth]) (keeps.opens at_n rfl holdsHere) read
    · rw [if_neg room] at read
      cases read
  | closes label more ih =>
    intro n frames before os split depth holdsHere read
    obtain ⟨at_n, behind⟩ := drop_eq_cons split
    obtain ⟨frame, frames, rfl⟩ := List.exists_cons_of_length_eq_add_one depth
    obtain ⟨list, placed, read⟩ := Option.bind_eq_some_iff.1 read
    exact ih behind (by simpa using depth) (keeps.closes at_n rfl holdsHere placed) read

/-- A text that is read as a whole: each `>` closes a list, each list has an owner, and there is
one outermost type. -/
structure Entire (cs : List Char) : Prop where
  closed : scope cs = cs
  owned : ∀ s ∈ segments cs, s.mark = .opens → s.label ≠ []
  single : ∃ o, outlines? cs = some [o]

theorem Entire.scoped {cs : List Char} (entire : Entire cs) : Scoped 0 (segments cs) := by
  have whole := scoped_segments cs
  rwa [entire.closed] at whole

theorem Entire.holds {cs : List Char} (entire : Entire cs)
    {holds : Nat → List Frame → List Outline → Prop} (keeps : Keeps (segments cs) holds)
    (start : holds 0 [] []) {o : Outline} (read : outlines? cs = some [o]) :
    ∃ waiting last, closeAll last waiting = [o] ∧ holds (segments cs).length waiting last := by
  obtain ⟨os, folded, reversed⟩ := Option.map_eq_some_iff.1 read
  obtain rfl : os = [o] := List.reverse_eq_iff.1 reversed
  exact keeps.readFrom entire.scoped List.drop_zero rfl start folded

/-! ## Outlines written out -/

/-- What a segment writes, if its label is not empty: the label of a type, or a lone `?` behind a
type with a label. -/
inductive Stroke where
  | label (own : List Char)
  | marker (owner : List Char)

namespace Stroke

def text : Stroke → List Char
  | label own => own
  | marker _ => ['?']

def label? : Stroke → Option (List Char)
  | label own => some own
  | marker _ => none

end Stroke

mutual

/-- The strokes of an outline in their order, a lone `?` behind what it marks. -/
def Outline.written : Outline → List Stroke
  | .node label marked inner =>
    .label label :: (Outline.writtenAll inner ++ if marked then [.marker label] else [])

def Outline.writtenAll : List Outline → List Stroke
  | [] => []
  | o :: os => o.written ++ Outline.writtenAll os

end

theorem writtenAll_append (os ps : List Outline) :
    Outline.writtenAll (os ++ ps) = Outline.writtenAll os ++ Outline.writtenAll ps := by
  induction os with
  | nil => rfl
  | cons o os ih => simp [Outline.writtenAll, ih]

/-- What is written of the current list, given last first, and of all that wait for it. -/
def writtenIn (frames : List Frame) (before : List Outline) : List Stroke :=
  Outline.writtenAll (closeAll before frames).reverse

/-- What placing a label behind the types before it writes. -/
def strokes : List Char → List Outline → List Stroke
  | [], _ => []
  | ['?'], .node owner _ _ :: _ => [.marker owner]
  | label, _ => [.label label]

theorem strokes_label {label : List Char} (nonempty : label ≠ []) (plain : label.head? ≠ some '?')
    (before : List Outline) : strokes label before = [.label label] := by
  fun_cases strokes label before with
  | case1 => exact absurd rfl nonempty
  | case2 => exact absurd rfl plain
  | case3 => rfl

theorem text_strokes (label : List Char) (before : List Outline) :
    (strokes label before).map Stroke.text = [label].filter (· ≠ []) := by
  fun_cases strokes label before with
  | case1 => rfl
  | case2 => rfl
  | case3 =>
    rename_i nonempty _
    rw [List.filter_cons_of_pos (by simpa using nonempty)]
    rfl

section
variable {frames : List Frame} (owned : ∀ frame ∈ frames, frame.owner ≠ [])
include owned

/-- A type placed in a list is written behind all that was written before. -/
theorem writtenIn_cons (o : Outline) (before : List Outline) :
    writtenIn frames (o :: before) = writtenIn frames before ++ o.written := by
  induction frames generalizing o before with
  | nil => simp [writtenIn, closeAll, writtenAll_append, Outline.writtenAll]
  | cons frame frames ih =>
    obtain ⟨named, others⟩ := List.forall_mem_cons.1 owned
    -- The owner of the list stands behind its elder siblings, its arguments behind the owner, and
    -- nothing behind these yet.
    have resumed : ∀ list, writtenIn (frame :: frames) list =
        writtenIn frames frame.before ++
          .label frame.owner :: (Outline.writtenAll list.reverse ++ []) := by
      intro list
      have kept : frame.resume list = .node frame.owner false list.reverse :: frame.before :=
        if_neg (by simpa using named)
      have closed : writtenIn (frame :: frames) list = writtenIn frames (frame.resume list) := rfl
      rw [closed, kept, ih others]
      rfl
    simp [resumed, writtenAll_append, Outline.writtenAll]

theorem writtenIn_place {label : List Char} {before list : List Outline}
    (placed : place label before = some list) :
    writtenIn frames list = writtenIn frames before ++ strokes label before := by
  rcases place_cases placed with ⟨rfl, rfl⟩ | ⟨owner, inner, earlier, rfl, rfl, rfl⟩ |
    ⟨nonempty, plain, rfl⟩
  · simp [strokes]
  · simp [writtenIn_cons owned, Outline.written, strokes]
  · rw [strokes_label nonempty plain, writtenIn_cons owned]
    rfl

theorem writtenIn_open {label : List Char} (named : label ≠ []) (before : List Outline) :
    writtenIn (⟨label, before⟩ :: frames) [] = writtenIn frames before ++ [.label label] := by
  have opened : writtenIn (⟨label, before⟩ :: frames) [] =
      writtenIn frames (.node label false [] :: before) := by
    rw [writtenIn, closeAll, Frame.resume, if_neg (by simpa using named)]
    rfl
  rw [opened, writtenIn_cons owned]
  rfl

end

/-- In front of segment `n`, each list has an owner, and the labels before `n` are written. -/
structure Writes (segs : List Segment) (n : Nat) (frames : List Frame) (before : List Outline) :
    Prop where
  owned : ∀ frame ∈ frames, frame.owner ≠ []
  labels : (writtenIn frames before).map Stroke.text =
    ((segs.take n).map (·.label)).filter (· ≠ [])

theorem Writes.succ {segs : List Segment} {n : Nat} {s : Segment} {frames others : List Frame}
    {before list : List Outline} (writes : Writes segs n frames before) (at_n : segs[n]? = some s)
    (owned : ∀ frame ∈ others, frame.owner ≠ []) {added : List Stroke}
    (written : writtenIn others list = writtenIn frames before ++ added)
    (text : added.map Stroke.text = [s.label].filter (· ≠ [])) :
    Writes segs (n + 1) others list := by
  refine ⟨owned, ?_⟩
  rw [written, List.map_append, writes.labels, text, List.take_add_one, at_n, Option.toList_some,
    List.map_append, List.filter_append, List.map_singleton]

theorem keeps_writes {segs : List Segment}
    (owned : ∀ s ∈ segs, s.mark = .opens → s.label ≠ []) : Keeps segs (Writes segs) where
  opens at_n mark writes := by
    have named := owned _ (List.mem_of_getElem? at_n) mark
    refine writes.succ at_n (List.forall_mem_cons.2 ⟨named, writes.owned⟩)
      (writtenIn_open writes.owned named _) ?_
    simp [named, Stroke.text]
  closes at_n mark writes placed :=
    writes.succ at_n (List.forall_mem_cons.1 writes.owned).2
      (writtenIn_place writes.owned placed) (text_strokes _ _)
  stays at_n _ _ writes placed :=
    writes.succ at_n writes.owned (writtenIn_place writes.owned placed) (text_strokes _ _)

/-- What stands between the marks of a text, without the blanks around it. -/
def pieces (cs : List Char) : List (List Char) :=
  (cs.splitOnP (· ∈ ['<', ',', '>'])).map trim

theorem isSome_ofChar? (c : Char) :
    (Mark.ofChar? c).isSome = decide (c ∈ ['<', ',', '>']) := by
  unfold Mark.ofChar?
  split <;> simp_all

theorem labels_segments (cs : List Char) : (segments cs).map (·.label) = pieces cs := by
  have cut : ∀ label, (segmentsFrom label cs).map (·.label) =
      (cs.splitOnPPrepend (· ∈ ['<', ',', '>']) label).map trim := by
    induction cs with
    | nil => intro label; rfl
    | cons c cs ih =>
      intro label
      rw [segmentsFrom, List.splitOnPPrepend, ← isSome_ofChar?]
      cases Mark.ofChar? c with
      | none => exact ih (c :: label)
      | some mark => simp [ih]
  exact cut []

/-- The outline of a text that is read as a whole writes the pieces that are not blank. -/
theorem Entire.written {cs : List Char} (entire : Entire cs) {o : Outline}
    (read : outlines? cs = some [o]) :
    o.written.map Stroke.text = (pieces cs).filter (· ≠ []) := by
  have start : Writes (segments cs) 0 [] [] := ⟨by simp, rfl⟩
  obtain ⟨waiting, last, closed, writes⟩ := entire.holds (keeps_writes entire.owned) start read
  have labels := writes.labels
  rw [List.take_length, labels_segments, writtenIn, closed] at labels
  simpa [Outline.writtenAll] using labels

mutual

theorem names_of_settled : ∀ (o : Outline) {t : TypeExpr}, o.toTypeExpr? = some t →
    t.walk.map (·.name) = o.labels.map fun label => String.ofList (bareName label)
  | .node label marked inner, t, settled => by
    have own := splitMarker_fst label
    rw [Outline.toTypeExpr?] at settled
    generalize splitMarker label = cut at own settled
    obtain ⟨name, asked⟩ := cut
    simp only [Option.ite_none_left_eq_some, Option.map_eq_some_iff] at settled
    obtain ⟨-, arguments, converted, rfl⟩ := settled
    rw [walk, Outline.labels, List.map_cons, List.map_cons, name_node, ← own,
      names_of_settledAll inner converted]

theorem names_of_settledAll : ∀ (os : List Outline) {ts : List TypeExpr},
    Outline.toTypeExprs? os = some ts →
      (walkAll ts).map (·.name) =
        (Outline.labelsAll os).map fun label => String.ofList (bareName label)
  | [], ts, settled => by
    cases settled
    rfl
  | o :: os, ts, settled => by
    rw [Outline.toTypeExprs?] at settled
    split at settled
    · cases settled
    · rename_i t converted
      obtain ⟨ts, others, rfl⟩ := Option.map_eq_some_iff.1 settled
      rw [walkAll, Outline.labelsAll, List.map_append, List.map_append,
        names_of_settled o converted, names_of_settledAll os others]

end

mutual

theorem labels_eq_written : ∀ o : Outline, o.labels = o.written.filterMap Stroke.label?
  | .node label marked inner => by
    rw [Outline.labels, labelsAll_eq_written inner, Outline.written]
    cases marked <;> simp [Stroke.label?]

theorem labelsAll_eq_written : ∀ os : List Outline,
    Outline.labelsAll os = (Outline.writtenAll os).filterMap Stroke.label?
  | [] => rfl
  | o :: os => by
    rw [Outline.labelsAll, labels_eq_written o, labelsAll_eq_written os, Outline.writtenAll,
      List.filterMap_append]

end

/-- Where no label is a lone `?`, the text alone tells labels from markers. -/
theorem filter_text_eq {written : List Stroke}
    (named : ∀ label ∈ written.filterMap Stroke.label?, label ≠ ['?']) :
    (written.map Stroke.text).filter (· ≠ ['?']) = written.filterMap Stroke.label? := by
  induction written with
  | nil => rfl
  | cons stroke written ih =>
    cases stroke with
    | label own =>
      obtain ⟨first, others⟩ := List.forall_mem_cons.1 named
      simpa [Stroke.text, Stroke.label?, first] using ih others
    | marker owner => exact ih named

theorem misnamed_marker : Misnamed ['?'] := .inl rfl

theorem settled_of_read {cs : List Char} {t : TypeExpr} {o : Outline}
    (single : outlines? cs = some [o]) (read : parseChars? cs = some t) :
    o.toTypeExpr? = some t := by
  rw [parseChars?, single] at read
  exact read

theorem fine_of_settled {o : Outline} {t : TypeExpr} (settled : o.toTypeExpr? = some t) :
    ∀ label ∈ o.labels, ¬ Misnamed label := by
  intro label member bad
  rw [(toTypeExpr?_eq_none_iff o).2 ⟨label, member, bad⟩] at settled
  cases settled

/-- No name is lost, made up or moved: the names of a type that a whole text spells are, in order,
the pieces of the text that are neither blank nor a lone `?`, each without the `?` at its end. -/
theorem walk_names (s : String) (t : TypeExpr) (entire : Entire s.toList)
    (read : parse s = .ok t) :
    t.walk.map (·.name) =
      ((pieces s.toList).filter fun piece => piece ≠ [] ∧ piece ≠ ['?']).map
        fun piece => String.ofList (bareName piece) := by
  obtain ⟨o, single⟩ := entire.single
  have settled := settled_of_read single (parse_eq_ok_iff.1 read)
  have named : ∀ label ∈ o.labels, label ≠ ['?'] := by
    rintro label member rfl
    exact fine_of_settled settled _ member misnamed_marker
  have kept : o.labels =
      (pieces s.toList).filter fun piece => piece ≠ [] ∧ piece ≠ ['?'] := by
    rw [labels_eq_written] at named ⊢
    rw [← filter_text_eq named, entire.written single, List.filter_filter]
    congr 1
    funext piece
    simp [Bool.and_comm]
  rw [names_of_settled o settled, kept]

/-- Lists that the end of the text closes, blank pieces, and a `?` behind a list and a comma. -/
theorem walk_names_open :
    Entire " Map<K ?,, List<V<W >?>,?,Set<X".toList ∧
      parse " Map<K ?,, List<V<W >?>,?,Set<X" = .ok (.node "Map" false [.node "K" true [],
        .node "List" true [.node "V" true [.node "W" false []]],
        .node "Set" false [.node "X" false []]]) ∧
      ((pieces " Map<K ?,, List<V<W >?>,?,Set<X".toList).filter fun piece =>
          piece ≠ [] ∧ piece ≠ ['?']).map (fun piece => String.ofList (bareName piece)) =
        ["Map", "K", "List", "V", "W", "Set", "X"] := by
  have entire : Entire " Map<K ?,, List<V<W >?>,?,Set<X".toList :=
    ⟨by decide +kernel, by decide +kernel, ⟨_, by cbv⟩⟩
  have read : parse " Map<K ?,, List<V<W >?>,?,Set<X" = .ok (.node "Map" false [.node "K" true [],
      .node "List" true [.node "V" true [.node "W" false []]],
      .node "Set" false [.node "X" false []]]) := by cbv
  exact ⟨entire, read, (walk_names _ _ entire read).symm⟩

end MockScaffold.TypeExpr
