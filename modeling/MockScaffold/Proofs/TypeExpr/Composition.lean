import MockScaffold.Proofs.TypeExpr.Redundant
import MockScaffold.Proofs.TypeExpr.Written

/-!
A balanced text is read in a list of another text as it is read alone: what waits
outside, and what stands before it in its list, is not touched. So the types of
texts that are put into one list, in any spelling, are the arguments of its owner.
-/

namespace MockScaffold.TypeExpr
open Text

/-- Where `opened` lists are open, a text closes these and its own and nothing else, and nowhere in
it are more than `depth` open. -/
structure Closes (opened depth : Nat) (cs : List Char) : Prop where
  matched : ∀ p ∈ cs.inits, p.count '>' ≤ opened + p.count '<'
  nested : ∀ p ∈ cs.inits, opened + p.count '<' ≤ p.count '>' + depth
  even : opened + cs.count '<' = cs.count '>'

/-- Each `<` has its `>` and each `>` its `<`, and nowhere are more than `depth` open. -/
def Balanced (depth : Nat) (cs : List Char) : Prop := Closes 0 depth cs

instance (opened depth : Nat) (cs : List Char) : Decidable (Closes opened depth cs) :=
  decidable_of_iff
    ((∀ p ∈ cs.inits, p.count '>' ≤ opened + p.count '<') ∧
      (∀ p ∈ cs.inits, opened + p.count '<' ≤ p.count '>' + depth) ∧
      opened + cs.count '<' = cs.count '>')
    ⟨fun h => ⟨h.1, h.2.1, h.2.2⟩, fun h => ⟨h.matched, h.nested, h.even⟩⟩

instance (depth : Nat) (cs : List Char) : Decidable (Balanced depth cs) :=
  inferInstanceAs (Decidable (Closes 0 depth cs))

namespace Closes
variable {opened depth : Nat} {c : Char} {cs : List Char}

theorem mem_inits_cons {p : List Char} (member : p ∈ cs.inits) : c :: p ∈ (c :: cs).inits := by
  rw [List.inits_cons]
  exact List.mem_cons_of_mem _ (List.mem_map_of_mem member)

/-- Behind a first character the lists are open that it opened or did not close. -/
theorem tail (closes : Closes opened depth (c :: cs)) {later : Nat}
    (height : opened + [c].count '<' = later + [c].count '>') : Closes later depth cs := by
  have split : ∀ (d : Char) (p : List Char), (c :: p).count d = [c].count d + p.count d := by
    intro d p
    rw [← List.singleton_append, List.count_append]
  refine ⟨fun p member => ?_, fun p member => ?_, ?_⟩
  · have whole := closes.matched _ (mem_inits_cons member)
    rw [split '<', split '>'] at whole
    omega
  · have whole := closes.nested _ (mem_inits_cons member)
    rw [split '<', split '>'] at whole
    omega
  · have whole := closes.even
    rw [split '<', split '>'] at whole
    omega

theorem opens (closes : Closes opened depth ('<' :: cs)) :
    opened < depth ∧ Closes (opened + 1) depth cs := by
  have first := closes.nested ['<'] (mem_inits_cons (by simp))
  have room : opened + 1 ≤ depth := by simpa using first
  exact ⟨room, closes.tail (by simp)⟩

theorem closes (closes : Closes opened depth ('>' :: cs)) :
    ∃ fewer, opened = fewer + 1 ∧ Closes fewer depth cs := by
  have first := closes.matched ['>'] (mem_inits_cons (by simp))
  have one : 1 ≤ opened := by simpa using first
  obtain ⟨fewer, rfl⟩ := Nat.exists_eq_add_one.2 one
  exact ⟨fewer, rfl, closes.tail (by simp)⟩

theorem plain (closes : Closes opened depth (c :: cs)) (notOpens : c ≠ '<') (notCloses : c ≠ '>') :
    Closes opened depth cs := closes.tail (by simp [notOpens, notCloses])

end Closes

/-! ## Reading inside a list -/

/-- Frames and a list as they stand alone, and as they stand inside a list: `outer` waits below
them, and `earlier` stands before the outermost of their lists. -/
inductive Within (outer : List Frame) (earlier : List Outline) :
    List Frame → List Outline → List Frame → List Outline → Prop
  | outermost (list : List Outline) : Within outer earlier [] list outer (list ++ earlier)
  | inner {frames waiting : List Frame} {before around : List Outline} (owner : List Char)
      (list : List Outline) (within : Within outer earlier frames before waiting around) :
      Within outer earlier (⟨owner, before⟩ :: frames) list (⟨owner, around⟩ :: waiting) list

theorem place_append {label : List Char} {before list : List Outline}
    (placed : place label before = some list) (earlier : List Outline) :
    place label (before ++ earlier) = some (list ++ earlier) := by
  rcases place_cases placed with ⟨rfl, rfl⟩ | ⟨owner, inner, rest, rfl, rfl, rfl⟩ |
    ⟨nonempty, plain, rfl⟩
  · exact place_nil _
  · rfl
  · exact place_label nonempty plain _

namespace Within
variable {outer frames waiting : List Frame} {earlier before around list : List Outline}

theorem length_eq (within : Within outer earlier frames before waiting around) :
    waiting.length = frames.length + outer.length := by
  induction within with
  | outermost list => simp
  | inner owner list _ ih =>
    simp only [List.length_cons, ih]
    omega

theorem place (within : Within outer earlier frames before waiting around) {label : List Char}
    (placed : TypeExpr.place label before = some list) :
    ∃ inside, TypeExpr.place label around = some inside ∧
      Within outer earlier frames list waiting inside := by
  cases within with
  | outermost => exact ⟨_, place_append placed earlier, .outermost _⟩
  | inner owner _ within => exact ⟨_, placed, .inner owner _ within⟩

theorem cons (within : Within outer earlier frames before waiting around) (o : Outline) :
    Within outer earlier frames (o :: before) waiting (o :: around) := by
  cases within with
  | outermost => exact .outermost (o :: before)
  | inner owner _ within => exact .inner owner (o :: before) within

theorem resume (within : Within outer earlier frames before waiting around) (owner : List Char)
    (list : List Outline) :
    Within outer earlier frames (Frame.resume ⟨owner, before⟩ list) waiting
      (Frame.resume ⟨owner, around⟩ list) := by
  unfold Frame.resume
  by_cases unnamed : owner.isEmpty
  · rw [if_pos unnamed, if_pos unnamed]
    exact within
  · rw [if_neg unnamed, if_neg unnamed]
    exact within.cons _

/-! One step for each kind of segment, read in a list as it is read alone. -/

theorem step_opens (within : Within outer earlier frames before waiting around)
    (room : waiting.length < maxOpen) (label : List Char) (segs : List Segment) :
    readFrom waiting around (⟨label, .opens⟩ :: segs) =
        readFrom (⟨label, around⟩ :: waiting) [] segs ∧
      Within outer earlier (⟨label, before⟩ :: frames) [] (⟨label, around⟩ :: waiting) [] := by
  rw [readFrom, if_pos room]
  exact ⟨rfl, .inner label [] within⟩

theorem step_separates (within : Within outer earlier frames before waiting around)
    {label : List Char} (placed : TypeExpr.place label before = some list) (segs : List Segment) :
    ∃ inside, readFrom waiting around (⟨label, .separates⟩ :: segs) =
        readFrom waiting inside segs ∧
      Within outer earlier frames list waiting inside := by
  obtain ⟨inside, placedToo, within⟩ := within.place placed
  refine ⟨inside, ?_, within⟩
  rw [readFrom, placedToo]
  rfl

theorem step_closes {frame : Frame}
    (within : Within outer earlier (frame :: frames) before waiting around) {label : List Char}
    (placed : TypeExpr.place label before = some list) (segs : List Segment) :
    ∃ waits inside, readFrom waiting around (⟨label, .closes⟩ :: segs) =
        readFrom waits inside segs ∧
      Within outer earlier frames (frame.resume list) waits inside := by
  obtain ⟨inside, placedToo, within⟩ := within.place placed
  cases within with
  | inner owner _ below =>
    refine ⟨_, _, ?_, below.resume owner list⟩
    rw [readFrom, placedToo]
    rfl

/-- At its end the text has placed its last label behind what stands before it in the list. -/
theorem step_ends (within : Within outer earlier [] before waiting around) {run rest : List Char}
    (unmarked : Unmarked run) (placed : TypeExpr.place (trim run) before = some list)
    (follows : Follows rest) :
    readFrom waiting around (segments (run ++ rest)) =
      readFrom outer (list ++ earlier) (segments rest) := by
  cases within with
  | outermost => exact readFrom_run unmarked (place_append placed earlier) follows outer

end Within

/-- A text that closes what is open is read in a list as it is read alone, and then what follows it
is read behind its types. -/
theorem readFrom_within {depth : Nat} {outer : List Frame} (room : outer.length + depth ≤ maxOpen)
    {earlier os : List Outline} {cs rest : List Char} (follows : Follows rest) :
    ∀ {opened : Nat} {label : List Char} {frames waiting : List Frame}
      {before around : List Outline}, Closes opened depth cs → frames.length = opened →
      Unmarked label.reverse → Within outer earlier frames before waiting around →
      readFrom frames before (segmentsFrom label cs) = some os →
      readFrom waiting around (segmentsFrom label (cs ++ rest)) =
        readFrom outer (os ++ earlier) (segments rest) := by
  induction cs with
  | nil =>
    intro opened label frames waiting before around closes height unmarked within read
    -- Nothing is open any more, so the end of the text is in the outermost list.
    have none : opened = 0 := by simpa using closes.even
    rw [none, List.length_eq_zero_iff] at height
    subst height
    obtain ⟨list, placed, closed⟩ := Option.bind_eq_some_iff.1 read
    cases closed
    have whole := segmentsFrom_append unmarked [] rest
    rw [List.reverse_reverse, List.append_nil] at whole
    rw [List.nil_append, ← whole]
    exact within.step_ends unmarked placed follows
  | cons c cs ih =>
    intro opened label frames waiting before around closes height unmarked within read
    rw [List.cons_append]
    rw [segmentsFrom] at read ⊢
    by_cases opens : c = '<'
    · subst opens
      obtain ⟨shallow, tail⟩ := closes.opens
      have fits : waiting.length < maxOpen := by
        rw [within.length_eq]
        omega
      -- Alone the text has even more room.
      have alone : frames.length < maxOpen := by omega
      obtain ⟨step, inner⟩ := within.step_opens fits (trim label.reverse)
        (segmentsFrom [] (cs ++ rest))
      simp only [Mark.ofChar?, readFrom, if_pos alone] at read
      exact step.trans (ih tail (by simp [height]) unmarked_nil inner read)
    · by_cases ends : c = '>'
      · subst ends
        obtain ⟨fewer, rfl, tail⟩ := closes.closes
        obtain ⟨frame, frames, rfl⟩ := List.exists_cons_of_length_eq_add_one height
        have shorter : frames.length = fewer := by simpa using height
        obtain ⟨list, placed, read⟩ := Option.bind_eq_some_iff.1 read
        obtain ⟨waits, inside, step, below⟩ := within.step_closes placed
          (segmentsFrom [] (cs ++ rest))
        exact step.trans (ih tail shorter unmarked_nil below read)
      · have tail := closes.plain opens ends
        cases marked : Mark.ofChar? c with
        | none =>
          rw [marked] at read
          have longer : Unmarked (c :: label).reverse := by
            rw [List.reverse_cons]
            exact unmarked_concat unmarked marked
          exact ih tail height longer within read
        | some mark =>
          obtain rfl := separates_of_plain opens ends marked
          rw [marked] at read
          obtain ⟨list, placed, read⟩ := Option.bind_eq_some_iff.1 read
          obtain ⟨inside, step, beside⟩ := within.step_separates placed
            (segmentsFrom [] (cs ++ rest))
          exact step.trans (ih tail height unmarked_nil beside read)

/-- A text that can stand in a list, in place of a type: it is balanced, it leaves room for the
list, and the type is all that it lists. -/
structure Part (s : String) (t : TypeExpr) : Prop where
  balanced : Balanced (maxOpen - 1) s.toList
  single : ∃ o, outlines? s.toList = some [o]
  read : parse s = .ok t

/-- In a list, a part is read as one more type, whatever stands around it. -/
theorem readFrom_part {s : String} {t : TypeExpr} (part : Part s t) :
    ∃ o : Outline, o.toTypeExpr? = some t ∧
      ∀ frame before rest, Follows rest →
        readFrom [frame] before (segments (s.toList ++ rest)) =
          readFrom [frame] (o :: before) (segments rest) := by
  obtain ⟨o, single⟩ := part.single
  refine ⟨o, settled_of_read single (parse_eq_ok_iff.1 part.read), ?_⟩
  intro frame before rest follows
  obtain ⟨os, folded, reversed⟩ := Option.map_eq_some_iff.1 single
  obtain rfl : os = [o] := List.reverse_eq_iff.1 reversed
  have start : Within [frame] before [] [] [frame] before := .outermost []
  have inside := @readFrom_within (maxOpen - 1) [frame] (Nat.le_refl _) before [o] s.toList rest
    follows 0 [] [] [frame] [] before
  exact inside part.balanced rfl unmarked_nil start folded

/-- The types of parts that commas separate are placed in their order. -/
theorem readFrom_parts {parts : List String} {types : List TypeExpr}
    (spelled : List.Forall₂ Part parts types) (given : parts ≠ []) :
    ∃ os, Outline.toTypeExprs? os = some types ∧
      ∀ frame before rest,
        readFrom [frame] before
            (segments ([','].intercalate (parts.map String.toList) ++ '>' :: rest)) =
          readFrom [frame] (os.reverse ++ before) (segments ('>' :: rest)) := by
  induction spelled with
  | nil => exact absurd rfl given
  | @cons s t parts types part others ih =>
    obtain ⟨o, settled, read⟩ := readFrom_part part
    cases others with
    | nil =>
      refine ⟨[o], by simp [Outline.toTypeExprs?, settled], fun frame before rest => ?_⟩
      rw [List.map_singleton, List.intercalate_singleton, read frame before _ (.close rest)]
      rfl
    | @cons s' t' parts types _ _ =>
      obtain ⟨os, converted, listed⟩ := ih (by simp)
      refine ⟨o :: os, by simp [Outline.toTypeExprs?, settled, converted], ?_⟩
      intro frame before rest
      have split : [','].intercalate ((s :: s' :: parts).map String.toList) ++ '>' :: rest =
          s.toList ++ ',' :: ([','].intercalate ((s' :: parts).map String.toList) ++
            '>' :: rest) := by
        simp [List.intercalate_cons_cons]
      have bare : ∀ cs, segments (',' :: cs) = ⟨[], .separates⟩ :: segments cs :=
        segments_marked unmarked_nil rfl
      rw [split, read frame before _ (.comma _), bare, readFrom_empty_separates, listed]
      simp

/-- A list of parts behind a proper name, with a `?` behind the list or without. -/
theorem parseChars?_compose {owner : List Char} (proper : ProperName owner) {parts : List String}
    {types : List TypeExpr} (spelled : List.Forall₂ Part parts types) (given : parts ≠ [])
    (nullable : Bool) :
    parseChars? (owner ++ '<' :: ([','].intercalate (parts.map String.toList) ++
        '>' :: if nullable then ['?'] else [])) =
      some (.node (String.ofList owner) nullable types) := by
  obtain ⟨os, converted, listed⟩ := readFrom_parts spelled given
  have marker := readFrom_marker nullable .nothing [] owner os []
  rw [List.append_nil] at marker
  have read : outlines? (owner ++ '<' :: ([','].intercalate (parts.map String.toList) ++
      '>' :: if nullable then ['?'] else [])) = some [.node owner nullable os] := by
    rw [outlines?, readFrom_owner proper, if_pos (by decide), listed,
      readFrom_close proper.nonempty, List.append_nil, List.reverse_reverse, marker,
      segments_unmarked unmarked_nil]
    rfl
  rw [parseChars?, read]
  simp [Outline.toTypeExpr?, proper.splitMarker_eq, proper.nonempty, proper.marker_not_mem,
    converted]

/-- Texts that spell one type each, in whatever way, spell these types as the arguments of a name
when they are put between `<` and `>` with commas; a `?` behind that marks the whole. -/
theorem parse_compose (owner : String) (proper : ProperName owner.toList) (parts : List String)
    (given : parts ≠ []) (types : List TypeExpr) (spelled : List.Forall₂ Part parts types) :
    parse (owner ++ "<" ++ ",".intercalate parts ++ ">") = .ok (.generic owner false types) ∧
      parse (owner ++ "<" ++ ",".intercalate parts ++ ">?") = .ok (.generic owner true types) := by
  have bare := parseChars?_compose proper spelled given false
  have marked := parseChars?_compose proper spelled given true
  rw [String.ofList_toList] at bare marked
  constructor
  · apply parse_eq_ok_iff.2
    simpa [String.toList_intercalate, generic] using bare
  · apply parse_eq_ok_iff.2
    simpa [String.toList_intercalate, generic] using marked

/-- A part with a comma and a lone `?` of its own, and one with a dropped list and blank types. -/
theorem parse_compose_spellings :
    ProperName "Map".toList ∧ List.Forall₂ Part [" K , ?", "<x, y>List<B?,, >"]
        [.node "K" true [], .node "List" false [.node "B" true []]] ∧
      parse "Map< K , ?,<x, y>List<B?,, >>?" =
        .ok (.node "Map" true [.node "K" true [], .node "List" false [.node "B" true []]]) := by
  have proper : ProperName "Map".toList := by decide +kernel
  have key : Part " K , ?" (.node "K" true []) :=
    ⟨by decide +kernel, ⟨_, by cbv⟩, by cbv⟩
  have value : Part "<x, y>List<B?,, >" (.node "List" false [.node "B" true []]) :=
    ⟨by decide +kernel, ⟨_, by cbv⟩, by cbv⟩
  have parts := List.Forall₂.cons key (.cons value .nil)
  have composed := (parse_compose "Map" proper _ (by simp) _ parts).2
  have spelled : "Map" ++ "<" ++ ",".intercalate [" K , ?", "<x, y>List<B?,, >"] ++ ">?" =
      "Map< K , ?,<x, y>List<B?,, >>?" := by decide +kernel
  rw [spelled] at composed
  exact ⟨proper, parts, composed⟩

end MockScaffold.TypeExpr
