import Mathlib.Logic.Relation
import MockScaffold.Proofs.Text.Boundaries
import MockScaffold.Proofs.TypeExpr.Labels

/-!
A signature can be read where it stands: one cursor goes over its bytes, every
`<` starts the reading of a list inside the one that is read, and labels are cut
out of the text between two places. Said moment by moment, this reading keeps its
places sound, comes to an end, and finds the types that the segments spell.
-/

namespace MockScaffold.TypeExpr
open Text

/-- The mark that a byte stands for, if it gives structure. -/
def Mark.ofByte? (b : UInt8) : Option Mark := Mark.ofChar? (Char.ofUInt8 b)

/-- The mark whose byte is at a place of a text, or its end; inside of a label there is none. -/
def markAt? (s : String) (place : Nat) : Option Mark :=
  match (bytes s)[place]? with
  | none => some .ends
  | some b => Mark.ofByte? b

/-- A list of types as far as it has been read: the place where it starts, the number of lists
around it, the places where the label that is read starts and where the cursor stands, and the
types before that label, last first. -/
structure Scan where
  start : Nat
  depth : Nat
  labelStart : Nat
  position : Nat
  before : List Outline

namespace Scan

variable (fallback s : String) (list : Scan)

/-- The label up to the cursor, or else `fallback` if the text cannot be cut there. -/
def label : List Char :=
  trim ((slice? s list.labelStart list.position).getD fallback).toList

/-- What waits for the end of an inner list that the label opens. -/
def frame : Frame := ⟨list.label fallback s, list.before⟩

def holding (list : Scan) (types : List Outline) : Scan := { list with before := types }

def onward (list : Scan) (place : Nat) : Scan :=
  { list with labelStart := place, position := place }

/-- The list with its label placed, if it can be placed. -/
def placed? : Option Scan := (place (list.label fallback s) list.before).map list.holding

/-- The list with the inner types as the arguments of its label. -/
def resumed (inner : List Outline) : Scan := list.holding ((list.frame fallback s).resume inner)

variable {fallback s list}

theorem placed?_eq_some_iff {list' : Scan} :
    list.placed? fallback s = some list' ↔
      ∃ types, place (list.label fallback s) list.before = some types ∧
        list.holding types = list' :=
  Option.map_eq_some_iff

theorem placed?_eq_none_iff :
    list.placed? fallback s = none ↔ place (list.label fallback s) list.before = none :=
  Option.map_eq_none_iff

end Scan

/-- A moment of reading. The lists around the one that is read wait, innermost first, each with its
cursor at the `<` behind its label. -/
inductive Moment where
  /-- A list is about to be read. -/
  | enters (start depth : Nat) (waiting : List Scan)
  /-- The cursor of a list looks at a byte. -/
  | reads (list : Scan) (waiting : List Scan)
  /-- A list has been read up to a place, where a mark ended it. -/
  | leaves (list : Scan) (stop : Nat) (mark : Mark) (waiting : List Scan)
  /-- The text spells nothing. -/
  | refuses

namespace Moment

/-- The moment after a moment, if reading has not come to an end. -/
def next? (fallback s : String) : Moment → Option Moment
  | .enters start depth waiting =>
    if maxOpen < depth then some .refuses
    else some (.reads ⟨start, depth, start, start, []⟩ waiting)
  | .reads list waiting =>
    match markAt? s list.position with
    | none => some (.reads { list with position := list.position + 1 } waiting)
    | some .opens => some (.enters (list.position + 1) (list.depth + 1) (list :: waiting))
    | some .separates =>
      match list.placed? fallback s with
      | none => some .refuses
      | some list => some (.reads (list.onward (list.position + 1)) waiting)
    | some .closes =>
      match list.placed? fallback s with
      | none => some .refuses
      | some list => some (.leaves list (list.position + 1) .closes waiting)
    | some .ends =>
      match list.placed? fallback s with
      | none => some .refuses
      | some list => some (.leaves list list.position .ends waiting)
  | .leaves list stop _ (outer :: waiting) =>
    some (.reads ((outer.resumed fallback s list.before).onward stop) waiting)
  | .leaves _ _ _ [] => none
  | .refuses => none

/-- The list whose label is cut out of the text at a moment, if one is. -/
def labelled? (s : String) : Moment → Option Scan
  | .reads list _ =>
    match markAt? s list.position with
    | none => none
    | some .opens => none
    | some _ => some list
  | .leaves _ _ _ (outer :: _) => some outer
  | _ => none

def waiting : Moment → List Scan
  | .enters _ _ waiting => waiting
  | .reads _ waiting => waiting
  | .leaves _ _ _ waiting => waiting
  | .refuses => []

/-- The types that have been found when the outermost list has been read. -/
def types? : Moment → Option (List Outline)
  | .leaves list _ _ [] => some list.before.reverse
  | _ => none

/-- One moment leads to the next. -/
def Leads (fallback s : String) (m m' : Moment) : Prop := m.next? fallback s = some m'

/-- The moments that occur when a text is read from its start. -/
def Occurs (fallback s : String) (m : Moment) : Prop :=
  Relation.ReflTransGen (Leads fallback s) (.enters 0 0 []) m

end Moment

theorem Mark.toNat_lt {c : Char} {mark : Mark} (marked : Mark.ofChar? c = some mark) :
    c.toNat < 128 := by
  unfold Mark.ofChar? at marked
  split at marked
  · decide
  · decide
  · decide
  · cases marked

theorem Mark.utf8Size_eq {c : Char} {mark : Mark} (marked : Mark.ofChar? c = some mark) :
    c.utf8Size = 1 := by
  rw [← String.length_utf8EncodeChar, utf8EncodeChar_ascii (Mark.toNat_lt marked)]
  rfl

theorem Mark.ne_ends {c : Char} {mark : Mark} (marked : Mark.ofChar? c = some mark) :
    mark ≠ .ends := by
  rintro rfl
  unfold Mark.ofChar? at marked
  split at marked <;> cases marked

theorem toNat_ofUInt8 (b : UInt8) : (Char.ofUInt8 b).toNat = b.toNat := UInt8.toNat_toUInt32 b

theorem markAt?_ends_iff {s : String} {p : Nat} :
    markAt? s p = some .ends ↔ s.utf8ByteSize ≤ p := by
  rw [utf8ByteSize_eq, ← length_bytes, markAt?]
  cases there : (bytes s)[p]? with
  | none => simpa using List.getElem?_eq_none_iff.1 there
  | some b =>
    obtain ⟨inside, -⟩ := List.getElem?_eq_some_iff.1 there
    refine iff_of_false (fun marked => ?_) (by omega)
    exact Mark.ne_ends marked rfl

/-- A mark that is found at a place is a whole character of the text. -/
theorem markAt?_char_iff {s : String} {p : Nat} {mark : Mark} (inside : mark ≠ .ends) :
    markAt? s p = some mark ↔
      ∃ front c back, s.toList = front ++ c :: back ∧ width front = p ∧
        Mark.ofChar? c = some mark := by
  rw [markAt?, bytes_eq]
  constructor
  · intro marked
    split at marked
    · exact absurd (Option.some.inj marked).symm inside
    · rename_i b there
      have ascii : b.toNat < 128 := by
        rw [← toNat_ofUInt8]
        exact Mark.toNat_lt marked
      obtain ⟨front, c, back, split, before, same⟩ := (getElem?_encoded_ascii ascii).1 there
      obtain rfl : c = Char.ofUInt8 b := Char.toNat_inj.1 (same.trans (toNat_ofUInt8 b).symm)
      exact ⟨front, _, back, split, before, marked⟩
  · rintro ⟨front, c, back, split, before, marked⟩
    have small := Mark.toNat_lt marked
    have value : (UInt8.ofNat c.toNat).toNat = c.toNat := by simp; omega
    have there : (s.toList.flatMap String.utf8EncodeChar)[p]? = some (UInt8.ofNat c.toNat) :=
      (getElem?_encoded_ascii (by omega)).2 ⟨front, c, back, split, before, value.symm⟩
    have same : Char.ofUInt8 (UInt8.ofNat c.toNat) = c :=
      Char.toNat_inj.1 ((toNat_ofUInt8 _).trans value)
    rw [there]
    dsimp only
    rw [Mark.ofByte?, same, marked]

/-- No mark stands inside of a label, so its characters hold none either. -/
theorem unmarked_of_markAt? {s : String} {front run back : List Char}
    (split : s.toList = front ++ (run ++ back))
    (plain : ∀ p, width front ≤ p → p < width (front ++ run) → markAt? s p = none) :
    Unmarked run := by
  intro c member
  obtain ⟨first, last, rfl⟩ := List.append_of_mem member
  cases marked : Mark.ofChar? c with
  | none => rfl
  | some mark =>
    have there : markAt? s (width (front ++ first)) = some mark :=
      (markAt?_char_iff (Mark.ne_ends marked)).2
        ⟨front ++ first, c, last ++ back, by simp [split], rfl, marked⟩
    have positive := c.utf8Size_pos
    rw [plain _ (by simp) (by simp; omega)] at there
    cases there

/-! ## Sound places -/

/-- The places of a list are in order, labels start at boundaries, and the cursor has met no mark
since the last one. -/
structure Scan.Sound (s : String) (list : Scan) : Prop where
  start : IsBoundary s list.start
  ordered : list.start ≤ list.labelStart
  label : IsBoundary s list.labelStart
  reached : list.labelStart ≤ list.position
  inside : list.position ≤ s.utf8ByteSize
  plain : ∀ p, list.labelStart ≤ p → p < list.position → markAt? s p = none
  depth : list.depth ≤ maxOpen

/-- The lists around one that starts at a place and has a number of lists around it: each has its
cursor at the `<` right before the list inside. -/
def Waits (s : String) (start depth : Nat) : List Scan → Prop
  | [] => start = 0 ∧ depth = 0
  | outer :: waiting =>
    outer.Sound s ∧ markAt? s outer.position = some .opens ∧ start = outer.position + 1 ∧
      depth = outer.depth + 1 ∧ Waits s outer.start outer.depth waiting

/-- All places of a moment are sound. -/
def Moment.Sound (s : String) : Moment → Prop
  | .enters start depth waiting => IsBoundary s start ∧ Waits s start depth waiting
  | .reads list waiting => list.Sound s ∧ Waits s list.start list.depth waiting
  | .leaves list stop mark waiting =>
    list.Sound s ∧ IsBoundary s stop ∧ list.start ≤ stop ∧ (mark = .closes → list.start < stop) ∧
      Waits s list.start list.depth waiting
  | .refuses => True

section
variable {fallback s : String} {list : Scan} {waiting : List Scan} {start depth : Nat}

theorem Waits.length (waits : Waits s start depth waiting) : waiting.length = depth := by
  induction waiting generalizing start depth with
  | nil => exact waits.2.symm
  | cons outer waiting ih =>
    obtain ⟨-, -, -, rfl, more⟩ := waits
    rw [List.length_cons, ih more]

theorem Waits.depth_le (waits : Waits s start depth waiting) : depth ≤ maxOpen + 1 := by
  cases waiting with
  | nil => exact waits.2 ▸ Nat.zero_le _
  | cons outer waiting =>
    obtain ⟨sound, -, -, rfl, -⟩ := waits
    exact Nat.succ_le_succ sound.depth

theorem Scan.sound_entered (boundary : IsBoundary s start) (fits : depth ≤ maxOpen) :
    Scan.Sound s ⟨start, depth, start, start, []⟩ where
  start := boundary
  ordered := le_rfl
  label := boundary
  reached := le_rfl
  inside := boundary.le
  plain := fun _ from_start before_start => absurd before_start (Nat.not_lt.2 from_start)
  depth := fits

theorem Scan.Sound.holding (sound : list.Sound s) (types : List Outline) :
    (list.holding types).Sound s :=
  ⟨sound.start, sound.ordered, sound.label, sound.reached, sound.inside, sound.plain, sound.depth⟩

theorem Scan.Sound.start_le (sound : list.Sound s) : list.start ≤ list.position :=
  sound.ordered.trans sound.reached

theorem Scan.Sound.onward (sound : list.Sound s) {p : Nat} (boundary : IsBoundary s p)
    (after : list.start ≤ p) : (list.onward p).Sound s where
  start := sound.start
  ordered := after
  label := boundary
  reached := le_rfl
  inside := boundary.le
  plain := fun _ from_p before_p => absurd before_p (Nat.not_lt.2 from_p)
  depth := sound.depth

theorem lt_of_markAt? {p : Nat} (marked : markAt? s p ≠ some .ends) : p < s.utf8ByteSize := by
  by_contra beyond
  exact marked (markAt?_ends_iff.2 (Nat.not_lt.1 beyond))

theorem Scan.Sound.skip (sound : list.Sound s) (plain : markAt? s list.position = none) :
    Scan.Sound s { list with position := list.position + 1 } where
  start := sound.start
  ordered := sound.ordered
  label := sound.label
  reached := Nat.le_succ_of_le sound.reached
  inside := lt_of_markAt? (by simp [plain])
  plain := by
    intro p from_label before
    rcases Nat.lt_or_eq_of_le (Nat.le_of_lt_succ before) with earlier | rfl
    · exact sound.plain p from_label earlier
    · exact plain
  depth := sound.depth

/-- A mark stands between two boundaries. -/
theorem isBoundary_mark {p : Nat} {mark : Mark} (marked : markAt? s p = some mark)
    (inside : mark ≠ .ends) : IsBoundary s p ∧ IsBoundary s (p + 1) := by
  obtain ⟨front, c, back, split, rfl, char⟩ := (markAt?_char_iff inside).1 marked
  refine ⟨isBoundary_iff.2 ⟨front, c :: back, split, rfl⟩,
    isBoundary_iff.2 ⟨front ++ [c], back, ?_, ?_⟩⟩
  · rw [split, List.append_cons]
  · simp [Mark.utf8Size_eq char]

theorem Scan.Sound.at_end (sound : list.Sound s) (ended : markAt? s list.position = some .ends) :
    list.position = s.utf8ByteSize :=
  Nat.le_antisymm sound.inside (markAt?_ends_iff.1 ended)

/-- Where a label ends, the text can be cut. -/
theorem Scan.Sound.isBoundary (sound : list.Sound s) {mark : Mark}
    (marked : markAt? s list.position = some mark) : IsBoundary s list.position := by
  by_cases ended : mark = .ends
  · rw [ended] at marked
    rw [sound.at_end marked]
    exact isBoundary_end s
  · exact (isBoundary_mark marked ended).1

/-- The places stay sound from one moment to the next. -/
theorem Moment.Sound.next {m : Moment} (sound : m.Sound s) :
    ∀ m' ∈ m.next? fallback s, m'.Sound s := by
  -- The cases follow the branches of `next?`: a list is entered, a byte without mark, then `<`,
  -- `,`, `>` and the end of the text, and last the list around, where a list inside has ended.
  fun_cases Moment.next? fallback s m with
  | case1 | case5 | case7 | case9 => rintro _ ⟨⟩; trivial
  | case2 start depth waiting shallow =>
    obtain ⟨boundary, waits⟩ := sound
    rintro _ ⟨⟩
    exact ⟨Scan.sound_entered boundary (Nat.not_lt.1 shallow), waits⟩
  | case3 list waiting plain =>
    obtain ⟨sound, waits⟩ := sound
    rintro _ ⟨⟩
    exact ⟨sound.skip plain, waits⟩
  | case4 list waiting marked =>
    obtain ⟨sound, waits⟩ := sound
    rintro _ ⟨⟩
    exact ⟨(isBoundary_mark marked (by decide)).2, sound, marked, rfl, rfl, waits⟩
  | case6 list waiting marked read placed =>
    obtain ⟨sound, waits⟩ := sound
    obtain ⟨types, -, rfl⟩ := Scan.placed?_eq_some_iff.1 placed
    have boundary := (isBoundary_mark marked (by decide)).2
    rintro _ ⟨⟩
    exact ⟨(sound.holding types).onward boundary (Nat.le_succ_of_le sound.start_le), waits⟩
  | case8 list waiting marked read placed =>
    obtain ⟨sound, waits⟩ := sound
    obtain ⟨types, -, rfl⟩ := Scan.placed?_eq_some_iff.1 placed
    have boundary := (isBoundary_mark marked (by decide)).2
    have forward : list.start < list.position + 1 := Nat.lt_succ_of_le sound.start_le
    rintro _ ⟨⟩
    exact ⟨sound.holding types, boundary, forward.le, fun _ => forward, waits⟩
  | case10 list waiting marked read placed =>
    obtain ⟨sound, waits⟩ := sound
    obtain ⟨types, -, rfl⟩ := Scan.placed?_eq_some_iff.1 placed
    rintro _ ⟨⟩
    exact ⟨sound.holding types, sound.isBoundary marked, sound.start_le, nofun, waits⟩
  | case11 inner stop mark outer waiting =>
    -- The list around goes on where the list inside has ended, which is behind its own cursor.
    obtain ⟨-, boundary, forward, -, sound, -, start, -, waits⟩ := sound
    have after : outer.start ≤ stop := by
      have := sound.start_le
      omega
    rintro _ ⟨⟩
    exact ⟨(sound.holding _).onward boundary after, waits⟩
  | case12 | case13 => rintro _ ⟨⟩

/-- All moments that occur are sound. -/
theorem Moment.Occurs.sound {m : Moment} (occurs : m.Occurs fallback s) : m.Sound s := by
  induction occurs with
  | refl => exact ⟨isBoundary_zero s, rfl, rfl⟩
  | tail _ leads ih => exact ih.next _ leads

theorem Moment.Sound.length_waiting_le {m : Moment} (sound : m.Sound s) :
    m.waiting.length ≤ maxOpen + 1 := by
  cases m with
  | enters start depth waiting =>
    obtain ⟨-, waits⟩ := sound
    exact waits.length.trans_le waits.depth_le
  | reads list waiting =>
    obtain ⟨-, waits⟩ := sound
    exact waits.length.trans_le waits.depth_le
  | leaves list stop mark waiting =>
    obtain ⟨-, -, -, -, waits⟩ := sound
    exact waits.length.trans_le waits.depth_le
  | refuses => exact Nat.zero_le _

end

/-! ## The end of reading -/

/-- A bound for the number of moments to come. Every byte counts for four, since the list that a `<`
opens is also entered and left. -/
def Moment.remaining (s : String) : Moment → Nat
  | .enters start _ waiting => 4 * (s.utf8ByteSize - start) + 2 * waiting.length + 2
  | .reads list waiting => 4 * (s.utf8ByteSize - list.position) + 2 * waiting.length + 1
  | .leaves _ stop _ waiting => 4 * (s.utf8ByteSize - stop) + 2 * waiting.length
  | .refuses => 0

/-- Every step leaves fewer moments to come. -/
theorem Moment.remaining_next (fallback s : String) (m : Moment) :
    ∀ m' ∈ m.next? fallback s, m'.remaining s < m.remaining s := by
  fun_cases Moment.next? fallback s m with
  | case1 | case2 | case5 | case7 | case9 => rintro _ ⟨⟩; simp [remaining]
  | case3 list waiting plain =>
    have inside : list.position < s.utf8ByteSize := lt_of_markAt? (by simp [plain])
    rintro _ ⟨⟩
    simp only [remaining]
    omega
  | case4 list waiting marked =>
    have inside : list.position < s.utf8ByteSize := lt_of_markAt? (by simp [marked])
    rintro _ ⟨⟩
    simp only [remaining, List.length_cons]
    omega
  | case6 list waiting marked read placed =>
    have inside : list.position < s.utf8ByteSize := lt_of_markAt? (by simp [marked])
    obtain ⟨types, -, rfl⟩ := Scan.placed?_eq_some_iff.1 placed
    rintro _ ⟨⟩
    simp only [remaining, Scan.onward, Scan.holding]
    omega
  | case8 list waiting marked read placed | case10 list waiting marked read placed =>
    obtain ⟨types, -, rfl⟩ := Scan.placed?_eq_some_iff.1 placed
    rintro _ ⟨⟩
    simp only [remaining, Scan.holding]
    omega
  | case11 =>
    rintro _ ⟨⟩
    simp only [remaining, Scan.onward, List.length_cons]
    omega
  | case12 | case13 => rintro _ ⟨⟩

/-- So reading comes to an end. -/
theorem Moment.exists_last (fallback s : String) (m : Moment) :
    ∃ m', Relation.ReflTransGen (Leads fallback s) m m' ∧ m'.next? fallback s = none := by
  induction bound : m.remaining s using Nat.strong_induction_on generalizing m with
  | _ n ih =>
    cases next : m.next? fallback s with
    | none => exact ⟨m, .refl, next⟩
    | some m' =>
      have fewer : m'.remaining s < n := bound ▸ remaining_next fallback s m m' next
      obtain ⟨last, run, still⟩ := ih _ fewer m' rfl
      exact ⟨last, .head next run, still⟩

end MockScaffold.TypeExpr
