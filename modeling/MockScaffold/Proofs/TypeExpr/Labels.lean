import MockScaffold.TypeExpr.Parser
import MockScaffold.TypeExpr.Printer

namespace MockScaffold
open Text

namespace Text

/-- Neither the first nor the last character is a blank. -/
structure Tight (cs : List Char) : Prop where
  first : ∀ c ∈ cs.head?, isBlank c = false
  last : ∀ c ∈ cs.getLast?, isBlank c = false

instance (cs : List Char) : Decidable (Tight cs) :=
  -- There are finitely many characters, and without these all of them would be tried.
  letI : Decidable (∀ c ∈ cs.head?, isBlank c = false) := Option.decidableForallMem _
  letI : Decidable (∀ c ∈ cs.getLast?, isBlank c = false) := Option.decidableForallMem _
  decidable_of_iff ((∀ c ∈ cs.head?, isBlank c = false) ∧ ∀ c ∈ cs.getLast?, isBlank c = false)
    ⟨fun h => ⟨h.1, h.2⟩, fun h => ⟨h.first, h.last⟩⟩

theorem trimStart_eq_self {cs : List Char} (first : ∀ c ∈ cs.head?, isBlank c = false) :
    trimStart cs = cs := by
  cases cs with
  | nil => rfl
  | cons c cs => exact List.dropWhile_cons_of_neg (by simp [first c rfl])

theorem trimEnd_eq_self {cs : List Char} (last : ∀ c ∈ cs.getLast?, isBlank c = false) :
    trimEnd cs = cs := by
  have kept : trimStart cs.reverse = cs.reverse := trimStart_eq_self (by simpa using last)
  rw [trimEnd]
  exact (congrArg List.reverse kept).trans cs.reverse_reverse

theorem Tight.trim_eq {cs : List Char} (tight : Tight cs) : trim cs = cs := by
  rw [trim, trimStart_eq_self tight.first, trimEnd_eq_self tight.last]

theorem trim_cons_blank {c : Char} (blank : isBlank c = true) (cs : List Char) :
    trim (c :: cs) = trim cs := by
  rw [trim, trim, trimStart, List.dropWhile_cons_of_pos blank, ← trimStart]

theorem trimStart_isSuffix (cs : List Char) : trimStart cs <:+ cs := List.dropWhile_suffix _

theorem trimEnd_isPrefix (cs : List Char) : trimEnd cs <+: cs := by
  have suffix : trimStart cs.reverse <:+ cs.reverse := trimStart_isSuffix _
  simpa [trimEnd, trimStart] using List.reverse_prefix.2 suffix

theorem trim_isInfix (cs : List Char) : trim cs <:+: cs :=
  (trimEnd_isPrefix _).isInfix.trans (trimStart_isSuffix cs).isInfix

theorem head?_trimStart (cs : List Char) : ∀ c ∈ (trimStart cs).head?, isBlank c = false := by
  intro c first
  have := List.head?_dropWhile_not isBlank cs
  rw [trimStart] at first
  rw [Option.mem_def.1 first] at this
  simpa using this

theorem getLast?_trimEnd (cs : List Char) : ∀ c ∈ (trimEnd cs).getLast?, isBlank c = false := by
  intro c last
  rw [trimEnd, List.getLast?_reverse] at last
  exact head?_trimStart cs.reverse c last

theorem head?_trimEnd {cs : List Char} (first : ∀ c ∈ cs.head?, isBlank c = false) :
    ∀ c ∈ (trimEnd cs).head?, isBlank c = false := by
  intro c member
  obtain ⟨rest, split⟩ := trimEnd_isPrefix cs
  apply first c
  rw [← split, List.head?_append, Option.mem_def.1 member]
  rfl

theorem tight_trimEnd {cs : List Char} (first : ∀ c ∈ cs.head?, isBlank c = false) :
    Tight (trimEnd cs) := ⟨head?_trimEnd first, getLast?_trimEnd cs⟩

theorem tight_trim (cs : List Char) : Tight (trim cs) := tight_trimEnd (head?_trimStart cs)

end Text

namespace TypeExpr

/-- Holds no character that gives structure. -/
def Unmarked (cs : List Char) : Prop := ∀ c ∈ cs, Mark.ofChar? c = none

instance (cs : List Char) : Decidable (Unmarked cs) := List.decidableBAll _ _

theorem unmarked_nil : Unmarked [] := by intro c member; cases member

theorem unmarked_append {run more : List Char} (first : Unmarked run) (second : Unmarked more) :
    Unmarked (run ++ more) := by
  intro c member
  rcases List.mem_append.1 member with member | member
  · exact first c member
  · exact second c member

theorem unmarked_concat {run : List Char} (unmarked : Unmarked run) {c : Char}
    (plain : Mark.ofChar? c = none) : Unmarked (run ++ [c]) := by
  apply unmarked_append unmarked
  intro d member
  rw [List.mem_singleton.1 member]
  exact plain

theorem segmentsFrom_append {run : List Char} (unmarked : Unmarked run) (label rest : List Char) :
    segmentsFrom label (run ++ rest) = segmentsFrom (run.reverse ++ label) rest := by
  induction run generalizing label with
  | nil => rfl
  | cons c run ih =>
    have plain : Mark.ofChar? c = none := unmarked c List.mem_cons_self
    rw [List.cons_append, segmentsFrom, plain]
    simp only [ih fun d member => unmarked d (List.mem_cons_of_mem _ member), List.reverse_cons,
      List.append_assoc, List.singleton_append]

theorem segments_unmarked {run : List Char} (unmarked : Unmarked run) :
    segments run = [⟨trim run, .ends⟩] := by
  have := segmentsFrom_append unmarked [] []
  simpa [segments, segmentsFrom] using this

theorem segments_marked {run : List Char} (unmarked : Unmarked run) {c : Char} {mark : Mark}
    (marked : Mark.ofChar? c = some mark) (rest : List Char) :
    segments (run ++ c :: rest) = ⟨trim run, mark⟩ :: segments rest := by
  rw [segments, segmentsFrom_append unmarked, segmentsFrom, marked]
  simp [segments]

theorem segments_cons_blank {c : Char} (blank : isBlank c = true) (plain : Mark.ofChar? c = none)
    (cs : List Char) : segments (c :: cs) = segments cs := by
  have dropped : ∀ label, segmentsFrom (label ++ [c]) cs = segmentsFrom label cs := by
    induction cs with
    | nil => intro label; simp [segmentsFrom, trim_cons_blank blank]
    | cons d cs ih =>
      intro label
      rw [segmentsFrom, segmentsFrom]
      split
      · simp [trim_cons_blank blank]
      · exact ih (d :: label)
  rw [segments, segmentsFrom, plain]
  exact dropped []

theorem place_nil (before : List Outline) : place [] before = some before := by
  cases before <;> rfl

theorem place_label {label : List Char} (nonempty : label ≠ []) (plain : label.head? ≠ some '?')
    (before : List Outline) : place label before = some (.node label false [] :: before) := by
  fun_cases place label before with
  | case1 => exact absurd rfl nonempty
  | case2 => exact absurd rfl plain
  | case3 => exact absurd rfl plain
  | case4 => rfl

theorem place_marker (label : List Char) (inner before : List Outline) :
    place ['?'] (.node label false inner :: before) = some (.node label true inner :: before) := rfl

/-- A label is skipped, marks the last type or names a new one. -/
theorem place_cases {label : List Char} {before list : List Outline}
    (placed : place label before = some list) :
    (label = [] ∧ list = before) ∨
      (∃ owner inner earlier, label = ['?'] ∧ before = .node owner false inner :: earlier ∧
        list = .node owner true inner :: earlier) ∨
      (label ≠ [] ∧ label.head? ≠ some '?' ∧ list = .node label false [] :: before) := by
  unfold place at placed
  split at placed
  · exact .inl ⟨rfl, (Option.some.inj placed).symm⟩
  · exact .inr (.inl ⟨_, _, _, rfl, rfl, (Option.some.inj placed).symm⟩)
  · cases placed
  · rename_i nonempty plain _
    refine .inr (.inr ⟨nonempty, ?_, (Option.some.inj placed).symm⟩)
    intro first
    obtain ⟨rest, split⟩ := List.head?_eq_some_iff.1 first
    exact plain rest split

/-- Only a label that starts with `?` cannot be placed, unless it marks the type before it. -/
theorem place_eq_none_iff {label : List Char} {before : List Outline} :
    place label before = none ↔
      label.head? = some '?' ∧ (label ≠ ['?'] ∨ before = [] ∨
        ∃ owner inner earlier, before = .node owner true inner :: earlier) := by
  unfold place
  split
  · simp
  · simp
  · rename_i tail unplaced
    refine iff_of_true rfl ⟨rfl, ?_⟩
    cases tail with
    | cons c tail => exact .inl (by simp)
    | nil =>
      cases before with
      | nil => exact .inr (.inl rfl)
      | cons o earlier =>
        obtain ⟨owner, marked, inner⟩ := o
        cases marked with
        | false => exact (unplaced owner inner earlier rfl rfl).elim
        | true => exact .inr (.inr ⟨owner, inner, earlier, rfl⟩)
  · rename_i nonempty plain _
    refine iff_of_false (by simp) ?_
    rintro ⟨first, -⟩
    obtain ⟨rest, split⟩ := List.head?_eq_some_iff.1 first
    exact plain rest split

end TypeExpr
end MockScaffold
