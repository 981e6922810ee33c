import MockScaffold.Text.Digits

/-!
A text may end in the position that it is about, such as ` at line 3 column 14`.
A position counts from line one, so one in line zero is nowhere. Numbers that 64
bits do not hold are no positions. Of several positions only the last is one; the
others belong to what is stated.
-/

namespace MockScaffold.Text

/-- A place in a text. -/
structure Position where
  line : Nat
  column : Nat
  deriving DecidableEq, Repr

/-- What is stated, and the position that it is about, if it is about one. -/
structure Located where
  statement : String
  position : Option Position
  deriving DecidableEq, Repr

def Position.text (p : Position) : String :=
  " at line " ++ toString p.line ++ " column " ++ toString p.column

def Located.text (l : Located) : String :=
  match l.position with
  | some p => l.statement ++ p.text
  | none => l.statement

/-- The number that a text ends with, and the text before its label. The text is given backwards,
and so is what is left of it. -/
def numberBehind? (label : List Char) (reversed : List Char) : Option (List Char × Nat) :=
  let digits := reversed.takeWhile Char.isDigit
  let rest := reversed.dropWhile Char.isDigit
  let number := ofDigits 0 (digits.reverse.map digitValue)
  if !digits.isEmpty && label.reverse.isPrefixOf rest && decide (number < wordLimit) then
    some (rest.drop label.length, number)
  else none

/-- The position that a text ends with, and the text before it, all given backwards. -/
def positionBehind? (reversed : List Char) : Option (List Char × Position) := do
  let (rest, column) ← numberBehind? " column ".toList reversed
  let (rest, line) ← numberBehind? " at line ".toList rest
  return (rest, ⟨line, column⟩)

/-- A text taken apart into what it states and where. -/
def locate (text : String) : Located :=
  match positionBehind? text.toList.reverse with
  | some (rest, p) => ⟨String.ofList rest.reverse, if p.line = 0 then none else some p⟩
  | none => ⟨text, none⟩

/-- A position in line zero is none, and numbers are written without zeros in front. -/
example :
    ["? at line 0 column 9", "? at line 007 column 01", "? at line 2"].map (locate · |>.text) =
      ["?", "? at line 7 column 1", "? at line 2"] := by cbv

/-- Only the last of several positions counts, and only at the very end. -/
example :
    ["? at line 02 column 03 at line 04 column 05", "? at line 1 column 1>"].map locate =
      [⟨"? at line 02 column 03", some ⟨4, 5⟩⟩, ⟨"? at line 1 column 1>", none⟩] := by cbv

end MockScaffold.Text
