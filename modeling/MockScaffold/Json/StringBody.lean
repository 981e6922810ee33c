import MockScaffold.Json.SyntaxError

/-!
What stands between the quotes of a JSON string: characters as they are, and
escapes. `escape` writes a character and `readString` reads a body back. An
escape that names half of a surrogate pair is a fault of the string, not of the
text around it: it hides any fault behind it from a reader, and one who passes
over the string does not meet it.
-/

namespace MockScaffold.Json

def hexDigit (n : Nat) : Char :=
  if n < 10 then Char.ofNat ('0'.toNat + n) else Char.ofNat ('a'.toNat + (n - 10))

/-- A character as it is written in a string: quotes, backslashes and control characters are
escaped, with a letter where there is one. -/
def escape (c : Char) : List Char :=
  if c = '"' then ['\\', '"']
  else if c = '\\' then ['\\', '\\']
  else if c = '\x08' then ['\\', 'b']
  else if c = '\x0c' then ['\\', 'f']
  else if c = '\n' then ['\\', 'n']
  else if c = '\r' then ['\\', 'r']
  else if c = '\t' then ['\\', 't']
  else if c.toNat < 0x20 then
    ['\\', 'u', '0', '0', hexDigit (c.toNat / 16), hexDigit (c.toNat % 16)]
  else [c]

/-- A text as a JSON string. -/
def quote (text : String) : String :=
  String.ofList ('"' :: (text.toList.flatMap escape ++ ['"']))

/-- The value of a hexadecimal digit of either case. -/
def hexValue? (c : Char) : Option Nat :=
  if '0' ≤ c ∧ c ≤ '9' then some (c.toNat - '0'.toNat)
  else if 'a' ≤ c ∧ c ≤ 'f' then some (c.toNat - 'a'.toNat + 10)
  else if 'A' ≤ c ∧ c ≤ 'F' then some (c.toNat - 'A'.toNat + 10)
  else none

/-- How many bytes a text takes up. -/
def byteCount : List Char → Nat
  | [] => 0
  | c :: cs => c.utf8Size + byteCount cs

/-- The sixteen bits that four hexadecimal digits spell, and the rest. Only a text of fewer than
four bytes ends too early. -/
def readUnit : List Char → Except SyntaxError (Nat × List Char)
  | a :: b :: c :: d :: rest =>
    match hexValue? a, hexValue? b, hexValue? c, hexValue? d with
    | some a, some b, some c, some d => .ok (16 * (16 * (16 * a + b) + c) + d, rest)
    | _, _, _, _ => .error .invalidEscape
  | cs => .error (if byteCount cs < 4 then .endInString else .invalidEscape)

/-- Whether sixteen bits are the first half of a surrogate pair. -/
def isLeading (unit : Nat) : Bool := 0xD800 ≤ unit && unit < 0xDC00

def isTrailing (unit : Nat) : Bool := 0xDC00 ≤ unit && unit < 0xE000

def pairChar (leading trailing : Nat) : Char :=
  Char.ofNat (0x10000 + (leading - 0xD800) * 0x400 + (trailing - 0xDC00))

/-- The character behind `\u`, or the fault of the string it stands in, and the rest. -/
def readCodePoint (cs : List Char) :
    Except SyntaxError (Except SyntaxError Char × List Char) := do
  let (unit, rest) ← readUnit cs
  if isTrailing unit then return (.error .loneSurrogate, rest)
  else if isLeading unit then
    match rest with
    | '\\' :: 'u' :: more =>
      let (second, after) ← readUnit more
      if isTrailing second then return (.ok (pairChar unit second), after)
      else return (.error .loneSurrogate, rest)
    | [] | ['\\'] => .error .endInString
    | _ => return (.error .unpairedSurrogate, rest)
  else return (.ok (Char.ofNat unit), rest)

/-- The character that a letter behind a backslash stands for. -/
def unescape? : Char → Option Char
  | '"' => some '"'
  | '\\' => some '\\'
  | '/' => some '/'
  | 'b' => some '\x08'
  | 'f' => some '\x0c'
  | 'n' => some '\n'
  | 'r' => some '\r'
  | 't' => some '\t'
  | _ => none

/-- What stands behind a backslash, and the rest. -/
def readEscape : List Char → Except SyntaxError (Except SyntaxError Char × List Char)
  | [] => .error .endInString
  | c :: cs =>
    if c = 'u' then readCodePoint cs
    else match unescape? c with
      | some d => .ok (.ok d, cs)
      | none => .error .invalidEscape

theorem readUnit_length {cs : List Char} {unit : Nat} {rest : List Char}
    (h : readUnit cs = .ok (unit, rest)) : rest.length < cs.length := by
  unfold readUnit at h
  split at h
  · split at h
    · cases h; simp; omega
    · cases h
  · cases h

theorem readCodePoint_length {cs : List Char} {c : Except SyntaxError Char} {rest : List Char}
    (h : readCodePoint cs = .ok (c, rest)) : rest.length < cs.length := by
  unfold readCodePoint at h
  cases first : readUnit cs with
  | error e => simp [first, bind, Except.bind] at h
  | ok read =>
    obtain ⟨unit, behind⟩ := read
    have shorter := readUnit_length first
    simp only [first, bind, Except.bind, pure, Except.pure] at h
    split at h
    · cases h; exact shorter
    · split at h
      · split at h
        · rename_i more
          cases second : readUnit more with
          | error e => simp [second] at h
          | ok read =>
            obtain ⟨other, after⟩ := read
            have := readUnit_length second
            simp only [second] at h
            simp only [List.length_cons] at shorter
            split at h
            · cases h; omega
            · cases h; simpa using shorter
        · cases h
        · cases h
        · cases h; exact shorter
      · cases h; exact shorter

/-- An escape takes up at least one character behind its backslash. -/
theorem readEscape_length {cs : List Char} {c : Except SyntaxError Char} {rest : List Char}
    (h : readEscape cs = .ok (c, rest)) : rest.length < cs.length := by
  unfold readEscape at h
  split at h
  · cases h
  · split at h
    · have := readCodePoint_length h
      simp only [List.length_cons]; omega
    · split at h
      · cases h; simp
      · cases h

/-- A fault that cuts a string short, behind the first fault of the string itself, if any. -/
def cutShort (first : Option SyntaxError) (reason : SyntaxError) : Fault :=
  ⟨first.getD reason, reason⟩

/-- A string that has begun with `read`, written backwards, and whose first fault, if any, is
`fault`: its text up to the closing quote, and the rest. -/
def readStringFrom (fault : Option SyntaxError) (read : List Char) (cs : List Char) :
    Except Fault (Except SyntaxError String × List Char) :=
  match cs with
  | [] => .error (cutShort fault .endInString)
  | c :: cs =>
    if c = '"' then
      .ok (match fault with
        | none => .ok (String.ofList read.reverse)
        | some e => .error e, cs)
    else if c = '\\' then
      match h : readEscape cs with
      | .error e => .error (cutShort fault e)
      | .ok (.ok d, rest) =>
        have := readEscape_length h
        readStringFrom fault (d :: read) rest
      | .ok (.error e, rest) =>
        have := readEscape_length h
        readStringFrom (fault.or (some e)) read rest
    else if c.toNat < 0x20 then .error (cutShort fault .controlCharacter)
    else readStringFrom fault (c :: read) cs
termination_by cs.length

/-- The string whose opening quote has been read, and the rest. -/
def readString (cs : List Char) : Except Fault (Except SyntaxError String × List Char) :=
  readStringFrom none [] cs

/-- A lone half hides a bad escape from a reader, but not from one who passes over the string. -/
example : readString ['\\', 'u', 'd', '8', '0', '0', '\\', 'x', '"'] =
    .error ⟨.unpairedSurrogate, .invalidEscape⟩ := by cbv

/-- A string takes up at least its closing quote. -/
theorem readStringFrom_length {fault : Option SyntaxError} {read cs : List Char}
    {text : Except SyntaxError String} {rest : List Char}
    (h : readStringFrom fault read cs = .ok (text, rest)) : rest.length < cs.length := by
  fun_induction readStringFrom fault read cs with
  | case1 => cases h
  | case2 => cases h; simp
  | case3 => cases h
  | case4 _ _ _ _ _ _ _ shorter ih =>
    have := ih h
    simp only [List.length_cons]; omega
  | case5 _ _ _ _ _ _ _ shorter ih =>
    have := ih h
    simp only [List.length_cons]; omega
  | case6 => cases h
  | case7 _ _ _ _ _ _ _ ih =>
    have := ih h
    simp only [List.length_cons]; omega

end MockScaffold.Json
