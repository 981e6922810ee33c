import Mathlib.Data.List.Basic
import MockScaffold.Proofs.TypeExpr.RoundTrip

namespace MockScaffold.TypeExpr
open Text

/-- What a text can have as a label: a tight piece of it without structure. -/
structure LabelOf (cs label : List Char) : Prop where
  tight : Tight label
  unmarked : Unmarked label
  piece : label <:+: cs

theorem unmarked_of_infix {piece whole : List Char} (inside : piece <:+: whole)
    (unmarked : Unmarked whole) : Unmarked piece :=
  fun c member => unmarked c (inside.subset member)

theorem labelOf_trim {run cs : List Char} (unmarked : Unmarked run) (inside : run <:+: cs) :
    LabelOf cs (trim run) :=
  ⟨tight_trim run, unmarked_of_infix (trim_isInfix run) unmarked, (trim_isInfix run).trans inside⟩

theorem labelOf_segmentsFrom {label cs : List Char} (unmarked : Unmarked label.reverse) :
    ∀ segment ∈ segmentsFrom label cs, LabelOf (label.reverse ++ cs) segment.label := by
  induction cs generalizing label with
  | nil =>
    intro segment member
    rw [segmentsFrom, List.mem_singleton] at member
    rw [member]
    exact labelOf_trim unmarked (List.prefix_append _ _).isInfix
  | cons c cs ih =>
    intro segment member
    rw [segmentsFrom] at member
    split at member
    · rcases List.mem_cons.1 member with rfl | later
      · exact labelOf_trim unmarked (List.prefix_append _ _).isInfix
      · obtain ⟨tight, plain, piece⟩ := @ih [] unmarked_nil segment later
        exact ⟨tight, plain, piece.trans ⟨label.reverse ++ [c], [], by simp⟩⟩
    · rename_i plain
      have longer : Unmarked (c :: label).reverse := by
        intro d inside
        rw [List.mem_reverse, List.mem_cons] at inside
        rcases inside with rfl | inside
        · exact plain
        · exact unmarked d (List.mem_reverse.2 inside)
      simpa using ih longer segment member

theorem labelOf_segments (cs : List Char) : ∀ segment ∈ segments cs, LabelOf cs segment.label :=
  @labelOf_segmentsFrom [] cs unmarked_nil

/-- Every label of an outline that stands inside `depth` others has a property, and no node lies
inside more than `maxOpen`. -/
inductive Outline.Sound (P : List Char → Prop) : Nat → Outline → Prop
  | node {depth : Nat} {label : List Char} {marked : Bool} {inner : List Outline} (own : P label)
      (fits : depth ≤ maxOpen) (list : ∀ o ∈ inner, Outline.Sound P (depth + 1) o) :
      Outline.Sound P depth (.node label marked inner)

/-- The owners have a property, and the lists that wait hold sound outlines. -/
def FramesSound (P : List Char → Prop) : List Frame → Prop
  | [] => True
  | frame :: frames =>
    P frame.owner ∧ (∀ o ∈ frame.before, o.Sound P frames.length) ∧ FramesSound P frames

section
variable {P : List Char → Prop}

theorem place_sound {depth : Nat} (fits : depth ≤ maxOpen) {label : List Char} (own : P label)
    {before list : List Outline} (sound : ∀ o ∈ before, o.Sound P depth)
    (placed : place label before = some list) : ∀ o ∈ list, o.Sound P depth := by
  rcases place_cases placed with ⟨-, rfl⟩ | ⟨owner, inner, earlier, -, rfl, rfl⟩ | ⟨-, -, rfl⟩
  · exact sound
  · obtain ⟨first, rest⟩ := List.forall_mem_cons.1 sound
    cases first with
    | node own fits list => exact List.forall_mem_cons.2 ⟨.node own fits list, rest⟩
  · exact List.forall_mem_cons.2 ⟨.node own fits (by simp), sound⟩

theorem resume_sound {frame : Frame} {frames : List Frame}
    (waiting : FramesSound P (frame :: frames)) (fits : frames.length ≤ maxOpen)
    {inner : List Outline} (sound : ∀ o ∈ inner, o.Sound P (frames.length + 1)) :
    ∀ o ∈ frame.resume inner, o.Sound P frames.length := by
  obtain ⟨own, before, -⟩ := waiting
  rw [Frame.resume]
  split
  · exact before
  · refine List.forall_mem_cons.2 ⟨.node own fits ?_, before⟩
    intro o member
    exact sound o (List.mem_reverse.1 member)

theorem closeAll_sound {frames : List Frame} (waiting : FramesSound P frames)
    (fits : frames.length ≤ maxOpen) {inner : List Outline}
    (sound : ∀ o ∈ inner, o.Sound P frames.length) : ∀ o ∈ closeAll inner frames, o.Sound P 0 := by
  induction frames generalizing inner with
  | nil => exact sound
  | cons frame frames ih =>
    have shallower : frames.length ≤ maxOpen := by
      rw [List.length_cons] at fits
      omega
    exact ih waiting.2.2 shallower (resume_sound waiting shallower sound)

/-- What every label of the segments has, every label of what is read of them has. -/
theorem readFrom_sound {frames : List Frame} {before outer : List Outline} {segs : List Segment}
    (labels : ∀ segment ∈ segs, P segment.label) (fits : frames.length ≤ maxOpen)
    (waiting : FramesSound P frames) (sound : ∀ o ∈ before, o.Sound P frames.length)
    (read : readFrom frames before segs = some outer) : ∀ o ∈ outer, o.Sound P 0 := by
  fun_induction readFrom frames before segs with
  | case1 =>
    cases read
    exact closeAll_sound waiting fits sound
  | case2 frames before label rest room ih =>
    obtain ⟨own, others⟩ := List.forall_mem_cons.1 labels
    exact ih others room ⟨own, sound, waiting⟩ (by simp) read
  | case3 => cases read
  | case4 frames before label rest ih =>
    obtain ⟨own, others⟩ := List.forall_mem_cons.1 labels
    obtain ⟨list, placed, read⟩ := Option.bind_eq_some_iff.1 read
    exact ih list others fits waiting (place_sound fits own sound placed) read
  | case5 frames before label rest ih =>
    obtain ⟨own, others⟩ := List.forall_mem_cons.1 labels
    obtain ⟨list, placed, read⟩ := Option.bind_eq_some_iff.1 read
    have listSound := place_sound fits own sound placed
    cases frames with
    | nil =>
      cases read
      exact listSound
    | cons frame frames =>
      have shallower : frames.length ≤ maxOpen := by
        rw [List.length_cons] at fits
        omega
      exact ih list frame frames others shallower waiting.2.2
        (resume_sound waiting shallower listSound) read
  | case6 frames before label rest =>
    obtain ⟨own, -⟩ := List.forall_mem_cons.1 labels
    obtain ⟨list, placed, read⟩ := Option.bind_eq_some_iff.1 read
    cases read
    exact closeAll_sound waiting fits (place_sound fits own sound placed)

end

theorem outlines?_sound {cs : List Char} {os : List Outline} (read : outlines? cs = some os) :
    ∀ o ∈ os, o.Sound (LabelOf cs) 0 := by
  obtain ⟨outer, folded, rfl⟩ := Option.map_eq_some_iff.1 read
  have waiting : FramesSound (LabelOf cs) [] := trivial
  have sound := readFrom_sound (labelOf_segments cs) (Nat.zero_le _) waiting (by simp) folded
  exact fun o member => sound o (List.mem_reverse.1 member)

theorem labelOf_splitMarker {cs label : List Char} (own : LabelOf cs label) :
    LabelOf cs (splitMarker label).1 := by
  unfold splitMarker
  split
  · have front : label.dropLast <+: label := List.dropLast_prefix label
    have first : ∀ c ∈ label.dropLast.head?, isBlank c = false := by
      intro c member
      obtain ⟨last, split⟩ := front
      apply own.tight.first c
      rw [← split, List.head?_append, Option.mem_def.1 member]
      rfl
    have kept : trimEnd label.dropLast <:+: label := ((trimEnd_isPrefix _).trans front).isInfix
    exact ⟨tight_trimEnd first, unmarked_of_infix kept own.unmarked, kept.trans own.piece⟩
  · exact own

theorem LabelOf.properName {cs name : List Char} (own : LabelOf cs name) (nonempty : name ≠ [])
    (settled : '?' ∉ name) : ProperName name := by
  refine ⟨nonempty, own.tight, fun c member => ?_⟩
  have plain := own.unmarked c member
  simp only [List.mem_cons, List.not_mem_nil, or_false, not_or]
  refine ⟨?_, ?_, ?_, ?_⟩
  · rintro rfl; simp [Mark.ofChar?] at plain
  · rintro rfl; simp [Mark.ofChar?] at plain
  · rintro rfl; simp [Mark.ofChar?] at plain
  · rintro rfl; exact settled member

/-- A type whose names are proper and stand in a text, and which is nested no deeper than `maxOpen`
where it stands inside `depth` others. -/
def ReadFrom (cs : List Char) (depth : Nat) (t : TypeExpr) : Prop :=
  (∀ u ∈ t.walk, ProperName u.name.toList ∧ u.name.toList <:+: cs) ∧ t.FitsAt depth

theorem readFrom_node {cs name : List Char} {nullable : Bool} {arguments : List TypeExpr}
    {depth : Nat} (proper : ProperName name) (piece : name <:+: cs) (fits : depth ≤ maxOpen)
    (inner : ∀ a ∈ arguments, ReadFrom cs (depth + 1) a) :
    ReadFrom cs depth (.node (String.ofList name) nullable arguments) := by
  refine ⟨?_, fitsAt_node.2 ⟨fits, fun a member => (inner a member).2⟩⟩
  simp only [walk, walkAll_eq_flatMap, List.mem_cons, List.mem_flatMap, forall_eq_or_imp,
    name_node, String.toList_ofList]
  refine ⟨⟨proper, piece⟩, ?_⟩
  rintro u ⟨a, member, inside⟩
  exact (inner a member).1 u inside

mutual

theorem toTypeExpr?_sound {cs : List Char} : ∀ (o : Outline) {depth : Nat} {t : TypeExpr},
    o.Sound (LabelOf cs) depth → o.toTypeExpr? = some t → ReadFrom cs depth t
  | .node label marked inner, depth, t, .node own fits list, settled => by
    rw [Outline.toTypeExpr?] at settled
    have kept := labelOf_splitMarker own
    generalize splitMarker label = cut at settled kept
    obtain ⟨name, asked⟩ := cut
    simp only [Option.ite_none_left_eq_some, Bool.or_eq_true, List.isEmpty_iff, not_or,
      List.contains_iff_mem, Option.map_eq_some_iff] at settled
    obtain ⟨⟨nonempty, unasked⟩, arguments, converted, rfl⟩ := settled
    exact readFrom_node (kept.properName nonempty unasked) kept.piece fits
      (toTypeExprs?_sound inner list converted)

theorem toTypeExprs?_sound {cs : List Char} : ∀ (os : List Outline) {depth : Nat}
    {ts : List TypeExpr}, (∀ o ∈ os, o.Sound (LabelOf cs) depth) →
      Outline.toTypeExprs? os = some ts → ∀ t ∈ ts, ReadFrom cs depth t
  | [], depth, ts, _, settled => by
    cases settled
    simp
  | o :: os, depth, ts, sound, settled => by
    obtain ⟨first, rest⟩ := List.forall_mem_cons.1 sound
    rw [Outline.toTypeExprs?] at settled
    split at settled
    · cases settled
    · rename_i t converted
      obtain ⟨ts, others, rfl⟩ := Option.map_eq_some_iff.1 settled
      exact List.forall_mem_cons.2
        ⟨toTypeExpr?_sound o first converted, toTypeExprs?_sound os rest others⟩

end

/-- All that is parsed has proper names that stand in the text, and is not nested too deep. -/
theorem parseChars?_sound {cs : List Char} {t : TypeExpr} (read : parseChars? cs = some t) :
    ReadFrom cs 0 t := by
  unfold parseChars? at read
  split at read
  · rename_i first others listed
    exact toTypeExpr?_sound first (outlines?_sound listed first List.mem_cons_self) read
  · cases read

theorem ReadFrom.wellNamed {cs : List Char} {depth : Nat} {t : TypeExpr}
    (form : ReadFrom cs depth t) : t.WellNamed := fun u member => (form.1 u member).1

/-- So its spelling is parsed as itself. -/
theorem ReadFrom.rereads {cs : List Char} {t : TypeExpr} (form : ReadFrom cs 0 t) :
    parse t.text = .ok t := parse_spelled form.wellNamed form.2

/-- What holds of every type that is read: its names are proper and stand in the text, a generic
node has arguments, and its spelling is read as the same type. -/
theorem parse_form (s : String) (t : TypeExpr) (read : parse s = .ok t) :
    (∀ u ∈ t.walk, ProperName u.name.toList ∧ u.name.toList <:+: s.toList ∧
      (u.kind = .generic → u.arguments ≠ [])) ∧
    (∀ p ∈ t.nodes, p.1 ≤ maxOpen) ∧ parse t.text = .ok t := by
  have form := parseChars?_sound (parse_eq_ok_iff.1 read)
  refine ⟨fun u member => ?_, form.2, form.rereads⟩
  obtain ⟨proper, inside⟩ := form.1 u member
  exact ⟨proper, inside, kind_eq_generic_iff.1⟩

/-- Brackets left open, a list without an owner and blanks leave a type that is spelled in full. -/
theorem parse_form_open :
    parse " Map<a b ,<x>List<Int ?" = .ok (.node "Map" false [.node "a b" false [],
        .node "List" false [.node "Int" true []]]) ∧
      parse "Map<a b, List<Int?>>" = .ok (.node "Map" false [.node "a b" false [],
        .node "List" false [.node "Int" true []]]) := by
  have read : parse " Map<a b ,<x>List<Int ?" = .ok (.node "Map" false [.node "a b" false [],
      .node "List" false [.node "Int" true []]]) := by cbv
  have again := (parse_form _ _ read).2.2
  have spelled : text (.node "Map" false [.node "a b" false [],
      .node "List" false [.node "Int" true []]]) = "Map<a b, List<Int?>>" := by decide +kernel
  rw [spelled] at again
  exact ⟨read, again⟩

end MockScaffold.TypeExpr
