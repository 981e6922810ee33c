import MockScaffold.Json.Numeral
import MockScaffold.Json.StringBody

/-!
The words and marks of a JSON text. The first character that starts no token,
or a token that is cut short, ends the list with its fault; whether that fault
is the one to report depends on what was expected there.
-/

namespace MockScaffold.Json

/-- A word or mark of a JSON text. Numbers and strings carry their own faults. -/
inductive Token where
  | openArray
  | closeArray
  | openObject
  | closeObject
  | comma
  | colon
  | null
  | boolean (value : Bool)
  | number (value : Except SyntaxError Number)
  | string (value : Except SyntaxError String)
  /-- No token starts here; nothing is read behind it. -/
  | fault (reason : Fault)

/-- The four characters that may stand between tokens. -/
def isSpace (c : Char) : Bool := c = ' ' || c = '\t' || c = '\n' || c = '\r'

/-- Reads the rest of a word that stands for a token. -/
def readWord (token : Token) : List Char → List Char → Token × List Char
  | [], cs => (token, cs)
  | _ :: _, [] => (.fault (.plain .endInValue), [])
  | expected :: word, c :: cs =>
    if c = expected then readWord token word cs else (.fault (.plain .expectedWord), cs)

/-- The string whose opening quote has been read, as a token, and the rest. -/
def readStringToken (cs : List Char) : Token × List Char :=
  match readString cs with
  | .ok (text, rest) => (.string text, rest)
  | .error reason => (.fault reason, [])

/-- The longest numeral of a text that starts like one, as a token, and the rest. Who passes over a
numeral does not tell what is wrong with it. -/
def readNumberToken (cs : List Char) : Token × List Char :=
  match Numeral.read cs with
  | .ok (numeral, rest) => (.number numeral.value, rest)
  | .error reason => (.fault ⟨reason, .invalidNumber⟩, [])

/-- The token that a mark alone stands for. -/
def mark? : Char → Option Token
  | '[' => some .openArray
  | ']' => some .closeArray
  | '\x7b' => some .openObject
  | '\x7d' => some .closeObject
  | ',' => some .comma
  | ':' => some .colon
  | _ => none

/-- The word that starts with a letter: its token, and its other letters. -/
def word? : Char → Option (Token × List Char)
  | 'n' => some (.null, ['u', 'l', 'l'])
  | 't' => some (.boolean true, ['r', 'u', 'e'])
  | 'f' => some (.boolean false, ['a', 'l', 's', 'e'])
  | _ => none

/-- The token that starts with a character, and the rest. -/
def readToken (c : Char) (cs : List Char) : Token × List Char :=
  match mark? c, word? c with
  | some token, _ => (token, cs)
  | none, some (token, letters) => readWord token letters cs
  | none, none =>
    if c = '"' then readStringToken cs
    else if c = '-' || c.isDigit then readNumberToken (c :: cs)
    else (.fault (.plain .expectedValue), cs)

theorem readWord_length (token : Token) (word cs : List Char) :
    (readWord token word cs).2.length ≤ cs.length := by
  fun_induction readWord token word cs with
  | case1 => exact Nat.le_refl _
  | case2 => exact Nat.le_refl _
  | case3 _ _ _ ih => simp only [List.length_cons]; omega
  | case4 => simp

theorem readStringToken_length (cs : List Char) :
    (readStringToken cs).2.length ≤ cs.length := by
  unfold readStringToken
  split
  · rename_i read
    exact Nat.le_of_lt (readStringFrom_length read)
  · simp

theorem readNumberToken_length (c : Char) (cs : List Char) :
    (readNumberToken (c :: cs)).2.length ≤ cs.length := by
  unfold readNumberToken
  split
  · rename_i read
    have := Numeral.read_length read
    simp only [List.length_cons] at this
    exact Nat.le_of_lt_succ this
  · simp

/-- Reading a token gives nothing back, so reading token after token ends. -/
theorem readToken_length (c : Char) (cs : List Char) :
    (readToken c cs).2.length ≤ cs.length := by
  unfold readToken
  split
  · exact Nat.le_refl _
  · exact readWord_length _ _ _
  · split
    · exact readStringToken_length _
    · split
      · exact readNumberToken_length _ _
      · exact Nat.le_refl _

/-- The tokens of a text, in order. -/
def tokens (cs : List Char) : List Token :=
  match cs with
  | [] => []
  | c :: cs =>
    if isSpace c then tokens cs
    else match h : readToken c cs with
      | (.fault reason, _) => [.fault reason]
      | (token, rest) =>
        have : rest.length ≤ cs.length := by simpa [h] using readToken_length c cs
        token :: tokens rest
termination_by cs.length

end MockScaffold.Json
