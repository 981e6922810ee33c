import MockScaffold.Proofs.TypeExpr.Labels

/-!
What a signature says, told by the places of its segments alone and without any
stack: which part of the text counts, how many lists are open at a place, which
segments stand in one list, which of them are tokens, and which tokens belong to
the first one of the outermost list.
-/

namespace MockScaffold.TypeExpr
open Text

/-- The text up to the first `>` that closes no `<`, where `opened` lists are open already. -/
def scopeFrom (opened : Nat) : List Char → List Char
  | [] => []
  | '<' :: cs => '<' :: scopeFrom (opened + 1) cs
  | '>' :: cs =>
    match opened with
    | 0 => []
    | opened + 1 => '>' :: scopeFrom opened cs
  | c :: cs => c :: scopeFrom opened cs

/-- The text up to the first `>` that closes no `<`. -/
def scope (cs : List Char) : List Char := scopeFrom 0 cs

/-- Segments in which every `>` closes one of the lists, `opened` of which are open already, and
which the end of the text ends. -/
inductive Scoped : Nat → List Segment → Prop
  | ends (opened : Nat) (label : List Char) : Scoped opened [⟨label, .ends⟩]
  | separates {opened : Nat} {rest : List Segment} (label : List Char)
      (more : Scoped opened rest) : Scoped opened (⟨label, .separates⟩ :: rest)
  | opens {opened : Nat} {rest : List Segment} (label : List Char)
      (more : Scoped (opened + 1) rest) : Scoped opened (⟨label, .opens⟩ :: rest)
  | closes {opened : Nat} {rest : List Segment} (label : List Char)
      (more : Scoped opened rest) : Scoped (opened + 1) (⟨label, .closes⟩ :: rest)

theorem separates_of_plain {c : Char} {mark : Mark} (notOpens : c ≠ '<') (notCloses : c ≠ '>')
    (marked : Mark.ofChar? c = some mark) : mark = .separates := by
  unfold Mark.ofChar? at marked
  split at marked
  · exact absurd rfl notOpens
  · exact (Option.some.inj marked).symm
  · exact absurd rfl notCloses
  · cases marked

theorem scoped_segmentsFrom (opened : Nat) (label cs : List Char) :
    Scoped opened (segmentsFrom label (scopeFrom opened cs)) := by
  fun_induction scopeFrom opened cs generalizing label with
  | case1 opened => exact .ends opened _
  | case2 opened cs ih => exact .opens _ (ih [])
  | case3 cs => exact .ends 0 _
  | case4 cs opened ih => exact .closes _ (ih [])
  | case5 opened c cs notOpens notCloses ih =>
    rw [segmentsFrom]
    split
    · rename_i mark marked
      obtain rfl := separates_of_plain notOpens notCloses marked
      exact .separates _ (ih [])
    · exact ih (c :: label)

theorem scoped_segments (cs : List Char) : Scoped 0 (segments (scope cs)) :=
  scoped_segmentsFrom 0 [] cs

theorem scopeFrom_plain {c : Char} (notOpens : c ≠ '<') (notCloses : c ≠ '>') (opened : Nat)
    (cs : List Char) : scopeFrom opened (c :: cs) = c :: scopeFrom opened cs := by
  rw [scopeFrom]
  · exact notOpens
  · exact notCloses

/-- What lies behind the part that counts is not read. -/
theorem readFrom_scopeFrom (cs label : List Char) (frames : List Frame) (before : List Outline) :
    readFrom frames before (segmentsFrom label (scopeFrom frames.length cs)) =
      readFrom frames before (segmentsFrom label cs) := by
  induction cs generalizing label frames before with
  | nil => rfl
  | cons c cs ih =>
    by_cases opens : c = '<'
    · subst opens
      simp only [scopeFrom, segmentsFrom, Mark.ofChar?, readFrom]
      split
      · exact ih [] (⟨trim label.reverse, before⟩ :: frames) []
      · rfl
    · by_cases closes : c = '>'
      · subst closes
        cases frames with
        | nil => simp [scopeFrom, segmentsFrom, Mark.ofChar?, readFrom, closeAll]
        | cons frame frames =>
          simp only [List.length_cons, scopeFrom, segmentsFrom, Mark.ofChar?, readFrom, ih]
      · rw [scopeFrom_plain opens closes, segmentsFrom, segmentsFrom]
        split
        · rename_i mark marked
          obtain rfl := separates_of_plain opens closes marked
          simp only [readFrom, ih]
        · exact ih (c :: label) frames before

/-- Nothing behind the scope is read. -/
theorem readFrom_scope (cs : List Char) :
    readFrom [] [] (segments (scope cs)) = readFrom [] [] (segments cs) :=
  readFrom_scopeFrom cs [] [] []

/-- How many lists are open where segment `i` stands. -/
def level (segs : List Segment) (i : Nat) : Nat :=
  (segs.take i).countP (·.mark = .opens) - (segs.take i).countP (·.mark = .closes)

/-- Segment `j` stands in the list that is open at level `d` when segment `n` is reached. -/
def InList (segs : List Segment) (d n j : Nat) : Prop :=
  j < n ∧ level segs j = d ∧ ∀ k, j < k → k ≤ n → d ≤ level segs k

/-- Segment `j` stands before segment `i` in the same list. -/
def Earlier (segs : List Segment) (i j : Nat) : Prop := InList segs (level segs i) i j

/-- Segment `p` has opened the list at level `d + 1` that is open when segment `n` is reached. -/
def OpenedAt (segs : List Segment) (d n p : Nat) : Prop :=
  p < n ∧ level segs p = d ∧ (∃ s, segs[p]? = some s ∧ s.mark = .opens) ∧
    ∀ k, p < k → k ≤ n → d < level segs k

/-- Segment `p` has opened the list in which segment `i` stands. -/
def Owns (segs : List Segment) (p i : Nat) : Prop :=
  level segs i = level segs p + 1 ∧ OpenedAt segs (level segs p) i p

/-- Segment `i` names a type: it is not empty, and a lone `?` only if `<` ends it. -/
def IsToken (segs : List Segment) (i : Nat) : Prop :=
  ∃ s, segs[i]? = some s ∧ s.label ≠ [] ∧ (s.mark = .opens ∨ s.label ≠ ['?'])

/-- Segment `i` is a lone `?` that opens no list. -/
def IsMarker (segs : List Segment) (i : Nat) : Prop :=
  ∃ s, segs[i]? = some s ∧ s.mark ≠ .opens ∧ s.label = ['?']

/-- Segment `j` is the last token so far of the list at level `d`. -/
def LastToken (segs : List Segment) (d n j : Nat) : Prop :=
  InList segs d n j ∧ IsToken segs j ∧ ∀ k, j < k → InList segs d n k → ¬ IsToken segs k

/-- A lone `?` stands behind the last token so far of the list at level `d`. -/
def Marked (segs : List Segment) (d n j : Nat) : Prop :=
  ∃ k, j < k ∧ InList segs d n k ∧ IsMarker segs k

/-- The tokens in the tree of the first token of the outermost list. -/
inductive InFirst (segs : List Segment) : Nat → Prop
  | root {i : Nat} (outermost : level segs i = 0) (token : IsToken segs i)
      (first : ∀ j, Earlier segs i j → ¬ IsToken segs j) : InFirst segs i
  | argument {p i : Nat} (owner : InFirst segs p) (owns : Owns segs p i)
      (token : IsToken segs i) : InFirst segs i

/-- Segment `i` opens a list inside of `maxOpen` others. -/
def TooDeep (segs : List Segment) (i : Nat) : Prop :=
  ∃ s, segs[i]? = some s ∧ s.mark = .opens ∧ maxOpen < level segs i + 1

/-- Segment `i` starts with `?`, opens no list, and is not the first lone `?` behind a token of its
list. -/
def Misplaced (segs : List Segment) (i : Nat) : Prop :=
  ∃ s, segs[i]? = some s ∧ s.mark ≠ .opens ∧ s.label.head? = some '?' ∧
    (s.label ≠ ['?'] ∨ (∀ j, Earlier segs i j → ¬ IsToken segs j) ∨
      ∃ j, LastToken segs (level segs i) i j ∧ Marked segs (level segs i) i j)

/-- A label without the `?` at its end and the blanks before that. -/
def bareName (label : List Char) : List Char :=
  if label.getLast? = some '?' then trimEnd label.dropLast else label

/-- Without the `?` at its end, a label is empty or still holds a `?`. -/
def Misnamed (label : List Char) : Prop := bareName label = [] ∨ '?' ∈ bareName label

/-- Why segments spell no type. -/
inductive Refused (segs : List Segment) : Prop
  | tooDeep (i : Nat) (deep : TooDeep segs i)
  | misplaced (i : Nat) (marker : Misplaced segs i)
  | noToken (none : ∀ i, level segs i = 0 → ¬ IsToken segs i)
  | misnamed (i : Nat) (s : Segment) (inside : InFirst segs i) (at_i : segs[i]? = some s)
      (name : Misnamed s.label)

section
variable {segs : List Segment} {d n : Nat} {s : Segment}

theorem exists_at_iff (at_n : segs[n]? = some s) {P : Segment → Prop} :
    (∃ t, segs[n]? = some t ∧ P t) ↔ P s := by
  simp [at_n]

theorem isToken_iff (at_n : segs[n]? = some s) :
    IsToken segs n ↔ s.label ≠ [] ∧ (s.mark = .opens ∨ s.label ≠ ['?']) := exists_at_iff at_n

theorem isMarker_iff (at_n : segs[n]? = some s) :
    IsMarker segs n ↔ s.mark ≠ .opens ∧ s.label = ['?'] := exists_at_iff at_n

theorem misplaced_iff (at_n : segs[n]? = some s) :
    Misplaced segs n ↔ s.mark ≠ .opens ∧ s.label.head? = some '?' ∧
      (s.label ≠ ['?'] ∨ (∀ j, Earlier segs n j → ¬ IsToken segs j) ∨
        ∃ j, LastToken segs (level segs n) n j ∧ Marked segs (level segs n) n j) :=
  exists_at_iff at_n

/-- Before segment `n`, the marks `<` outnumber the marks `>` by `d`. -/
def Counted (segs : List Segment) (n d : Nat) : Prop :=
  (segs.take n).countP (·.mark = .opens) = (segs.take n).countP (·.mark = .closes) + d

theorem Counted.level_eq (counted : Counted segs n d) : level segs n = d := by
  rw [level, counted, Nat.add_sub_cancel_left]

theorem countP_take_succ (at_n : segs[n]? = some s) (p : Segment → Bool) :
    (segs.take (n + 1)).countP p = (segs.take n).countP p + if p s then 1 else 0 := by
  rw [List.take_add_one, at_n, Option.toList_some, List.countP_append, List.countP_singleton]

theorem Counted.opens (counted : Counted segs n d) (at_n : segs[n]? = some s)
    (mark : s.mark = .opens) : Counted segs (n + 1) (d + 1) := by
  unfold Counted at *
  simp only [countP_take_succ at_n, mark]
  simp
  omega

theorem Counted.closes (counted : Counted segs n (d + 1)) (at_n : segs[n]? = some s)
    (mark : s.mark = .closes) : Counted segs (n + 1) d := by
  unfold Counted at *
  simp only [countP_take_succ at_n, mark]
  simp
  omega

theorem Counted.stays (counted : Counted segs n d) (at_n : segs[n]? = some s)
    (notOpens : s.mark ≠ .opens) (notCloses : s.mark ≠ .closes) : Counted segs (n + 1) d := by
  unfold Counted at *
  simp only [countP_take_succ at_n, notOpens, notCloses]
  simpa using counted

theorem inList_succ {j : Nat} (stillOpen : d ≤ level segs (n + 1)) :
    InList segs d (n + 1) j ↔ InList segs d n j ∨ (j = n ∧ level segs n = d) := by
  constructor
  · rintro ⟨before, same, above⟩
    rcases Nat.lt_or_eq_of_le (Nat.le_of_lt_succ before) with earlier | rfl
    · exact .inl ⟨earlier, same, fun k after upTo => above k after (by omega)⟩
    · exact .inr ⟨rfl, same⟩
  · rintro (⟨before, same, above⟩ | ⟨rfl, same⟩)
    · refine ⟨by omega, same, fun k after upTo => ?_⟩
      rcases Nat.lt_or_eq_of_le upTo with earlier | rfl
      · exact above k after (by omega)
      · exact stillOpen
    · refine ⟨by omega, same, fun k after upTo => ?_⟩
      obtain rfl : k = j + 1 := by omega
      exact stillOpen

theorem OpenedAt.succ {p : Nat} (opened : OpenedAt segs d n p)
    (stillOpen : d < level segs (n + 1)) : OpenedAt segs d (n + 1) p := by
  obtain ⟨before, same, mark, above⟩ := opened
  refine ⟨by omega, same, mark, fun k after upTo => ?_⟩
  rcases Nat.lt_or_eq_of_le upTo with earlier | rfl
  · exact above k after (by omega)
  · exact stillOpen

/-- At most one segment has opened the list of a level. -/
theorem OpenedAt.unique {p q : Nat} (first : OpenedAt segs d n p) (second : OpenedAt segs d n q) :
    p = q := by
  obtain ⟨beforeP, sameP, -, aboveP⟩ := first
  obtain ⟨beforeQ, sameQ, -, aboveQ⟩ := second
  rcases Nat.lt_trichotomy p q with less | same | greater
  · have := aboveP q less (by omega)
    omega
  · exact same
  · have := aboveQ p greater (by omega)
    omega

theorem IsMarker.not_isToken {i : Nat} (marker : IsMarker segs i) : ¬ IsToken segs i := by
  obtain ⟨s, at_i, notOpens, lone⟩ := marker
  rw [isToken_iff at_i]
  rintro ⟨-, opens | other⟩
  · exact notOpens opens
  · exact other lone

theorem InFirst.isToken {i : Nat} (inside : InFirst segs i) : IsToken segs i := by
  cases inside with
  | root _ token _ => exact token
  | argument _ _ token => exact token

theorem LastToken.unique {i j : Nat} (first : LastToken segs d n i)
    (second : LastToken segs d n j) : i = j := by
  rcases Nat.lt_trichotomy i j with less | same | greater
  · exact absurd second.2.1 (first.2.2 j less second.1)
  · exact same
  · exact absurd first.2.1 (second.2.2 i greater first.1)

end

end MockScaffold.TypeExpr
