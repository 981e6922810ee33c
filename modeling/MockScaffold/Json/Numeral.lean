import MockScaffold.Json.Value
import MockScaffold.Json.SyntaxError
import MockScaffold.Text.Digits

/-!
A numeral is the text of a number: digits, perhaps a sign, digits behind a
point, and an exponent. Reading takes the longest numeral. Its value is an
integer when it is written as one and 64 bits hold it. Otherwise it is a float,
reckoned from the digits that fit into 64 bits and one power of ten; so the last
bit need not be the nearest.
-/

namespace MockScaffold.Json

/-- A number as written, digit by digit. -/
structure Numeral where
  negative : Bool
  /-- The digits before the point, at least one. -/
  whole : List Nat
  /-- The digits behind the point; none if there is no point. -/
  fraction : List Nat
  /-- Whether the exponent is negative, and its digits. -/
  exponent : Option (Bool × List Nat)
  deriving DecidableEq, Repr

namespace Numeral

/-- The digits that a text starts with, and the rest. -/
def readDigits (cs : List Char) : List Nat × List Char :=
  ((cs.takeWhile Char.isDigit).map Text.digitValue, cs.dropWhile Char.isDigit)

/-- At least one digit, and the rest. -/
def readDigits1 (cs : List Char) : Except SyntaxError (List Nat × List Char) :=
  match readDigits cs with
  | ([], []) => .error .endInValue
  | ([], _ :: _) => .error .invalidNumber
  | (digits, rest) => .ok (digits, rest)

/-- The digits before the point: a zero stands alone. -/
def readWhole (cs : List Char) : Except SyntaxError (List Nat × List Char) := do
  let (digits, rest) ← readDigits1 cs
  match digits with
  | 0 :: _ :: _ => .error .invalidNumber
  | digits => .ok (digits, rest)

/-- The digits behind a point, if there is one. -/
def readFraction : List Char → Except SyntaxError (List Nat × List Char)
  | '.' :: cs => readDigits1 cs
  | cs => .ok ([], cs)

/-- An exponent, if there is one. -/
def readExponent : List Char → Except SyntaxError (Option (Bool × List Nat) × List Char)
  | c :: cs =>
    if c = 'e' ∨ c = 'E' then do
      let (negative, cs) := match cs with
        | '+' :: cs => (false, cs)
        | '-' :: cs => (true, cs)
        | cs => (false, cs)
      let (digits, rest) ← readDigits1 cs
      return (some (negative, digits), rest)
    else .ok (none, c :: cs)
  | [] => .ok (none, [])

/-- The longest numeral at the start of a text, and the rest. -/
def read (cs : List Char) : Except SyntaxError (Numeral × List Char) := do
  let (negative, cs) := match cs with
    | '-' :: cs => (true, cs)
    | cs => (false, cs)
  let (whole, cs) ← readWhole cs
  let (fraction, cs) ← readFraction cs
  let (exponent, cs) ← readExponent cs
  return (⟨negative, whole, fraction, exponent⟩, cs)

theorem readDigits_length {cs : List Char} {digits : List Nat} {rest : List Char}
    (h : readDigits cs = (digits, rest)) : digits.length + rest.length = cs.length := by
  unfold readDigits at h
  cases h
  rw [List.length_map, ← List.length_append, List.takeWhile_append_dropWhile]

theorem readDigits1_length {cs : List Char} {digits : List Nat} {rest : List Char}
    (h : readDigits1 cs = .ok (digits, rest)) : rest.length < cs.length := by
  unfold readDigits1 at h
  split at h
  · cases h
  · cases h
  · rename_i nonempty read
    have := readDigits_length read
    cases h
    cases digits with
    | nil => cases rest <;> simp_all
    | cons => simp only [List.length_cons] at this; omega

theorem readWhole_length {cs : List Char} {digits : List Nat} {rest : List Char}
    (h : readWhole cs = .ok (digits, rest)) : rest.length < cs.length := by
  unfold readWhole at h
  cases read : readDigits1 cs with
  | error e => simp [read, bind, Except.bind] at h
  | ok taken =>
    have := readDigits1_length read
    simp only [read, bind, Except.bind] at h
    split at h
    · cases h
    · cases h; exact this

theorem readFraction_length {cs : List Char} {digits : List Nat} {rest : List Char}
    (h : readFraction cs = .ok (digits, rest)) : rest.length ≤ cs.length := by
  unfold readFraction at h
  split at h
  · have := readDigits1_length h
    simp only [List.length_cons]; omega
  · cases h; exact Nat.le_refl _

theorem readExponent_length {cs : List Char} {exponent : Option (Bool × List Nat)}
    {rest : List Char} (h : readExponent cs = .ok (exponent, rest)) :
    rest.length ≤ cs.length := by
  unfold readExponent at h
  split at h
  · rename_i c cs
    split at h
    · simp only [bind, Except.bind] at h
      split at h
      · cases h
      · rename_i taken read
        have := readDigits1_length read
        cases h
        split at this <;> simp_all only [List.length_cons] <;> omega
    · cases h; exact Nat.le_refl _
  · cases h; exact Nat.le_refl _

/-- A numeral takes up at least one character. -/
theorem read_length {cs : List Char} {n : Numeral} {rest : List Char}
    (h : read cs = .ok (n, rest)) : rest.length < cs.length := by
  unfold read at h
  simp only [bind, Except.bind, pure, Except.pure] at h
  split at h
  · cases h
  · rename_i whole readW
    have fewer := readWhole_length readW
    split at h
    · cases h
    · rename_i fraction readF
      have := readFraction_length readF
      split at h
      · cases h
      · rename_i exponent readE
        have := readExponent_length readE
        cases h
        split at fewer <;> simp_all only [List.length_cons] <;> omega

/-- Takes up digits as long as 64 bits hold the number: that number, how many digits were taken and
how many were left. -/
def takeUp (value : Nat) : List Nat → Nat × Nat × Nat
  | [] => (value, 0, 0)
  | digit :: digits =>
    if 10 * value + digit < Text.wordLimit then
      let (total, taken, left) := takeUp (10 * value + digit) digits
      (total, taken + 1, left)
    else (value, 0, digits.length + 1)

/-- The power of ten with the given exponent, up to `308`. -/
def power (exponent : Nat) : Float := OfScientific.ofScientific 1 false exponent

/-- Divides by a power of ten, at most `10 ^ 308` at a time. -/
def scaleDown (x : Float) (exponent : Nat) : Float :=
  if exponent ≤ 308 then x / power exponent
  else if x == 0 then x
  else scaleDown (x / power 308) (exponent - 308)
termination_by exponent

/-- A significand times a power of ten, unless that leaves the range of floats. -/
def scale (significand : Nat) (exponent : Int) : Except SyntaxError Float :=
  let x := significand.toUInt64.toFloat
  match exponent with
  | .ofNat n =>
    if n ≤ 308 then
      let y := x * power n
      if y.isInf then .error .numberOutOfRange else .ok y
    else if x == 0 then .ok x
    else .error .numberOutOfRange
  | .negSucc n => .ok (scaleDown x (n + 1))

/-- The greatest exponent that is reckoned with, the greatest number with a sign in 32 bits. -/
def maxExponent : Int := 0x7FFFFFFF

/-- The float of a numeral. An exponent beyond the greatest one gives zero, or no float at all. -/
def toFloat (n : Numeral) : Except SyntaxError Float := do
  let (significand, _, dropped) := takeUp 0 n.whole
  let (significand, taken, _) := takeUp significand n.fraction
  let shift : Int := dropped - taken
  let (below, digits) := n.exponent.getD (false, [])
  let given : Int := Text.ofDigits 0 digits
  let size ←
    if given > maxExponent then
      if significand ≠ 0 ∧ ¬ below then .error .numberOutOfRange else .ok 0
    else
      let exponent := if below then shift - given else shift + given
      scale significand (max (-maxExponent - 1) (min maxExponent exponent))
  return if n.negative then -size else size

/-- The number of a numeral. Only what is written as an integer and fits into 64 bits is one; a
negative zero is not. -/
def value (n : Numeral) : Except SyntaxError Number :=
  let size := Text.ofDigits 0 n.whole
  let isInteger := n.fraction.isEmpty && n.exponent.isNone &&
    if n.negative then 0 < size && 2 * size ≤ Text.wordLimit else size < Text.wordLimit
  if isInteger then .ok (.integer (if n.negative then -size else size))
  else n.toFloat.map .float

end Numeral
end MockScaffold.Json
