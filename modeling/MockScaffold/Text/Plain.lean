/-!
What a terminal writes down of a text. A terminal acts on control characters and
on the sequences that an escape character starts, such as those for colours and
titles, and writes neither. Tabs, line feeds, form feeds and carriage returns are
written, and inside most sequences they end it. A sequence that is not ended takes
in what follows, up to the next escape character.
-/

namespace MockScaffold.Text

/-- Where in a control sequence a terminal stands. -/
inductive ControlState where
  /-- Outside of all sequences. -/
  | ground
  /-- Behind an escape character. -/
  | escape
  /-- Behind an escape character and at least one mark between U+0020 and U+002F. -/
  | marked
  /-- Among the parameters of a sequence, behind `[`. -/
  | parameters
  /-- In a command, behind `]`, which a bell ends. -/
  | command
  /-- At the head of a device string, behind `P`. -/
  | device
  /-- Among the parameters in the head of a device string. -/
  | deviceParameters
  /-- Behind a mark in the head of a device string. -/
  | deviceMarked
  /-- In a string, or behind the head of a device string. -/
  | string
  deriving DecidableEq, Repr

/-- Whether a character moves on without writing. -/
def isSpacing (c : Char) : Bool := c ∈ ['\t', '\n', '\x0c', '\r']

def isControl (c : Char) : Bool := c.toNat < 0x20 || c.toNat = 0x7F

/-- Whether a character is written outside of all sequences. -/
def isWritten (c : Char) : Bool := isSpacing c || !isControl c

/-- Whether a character lies between two others, ends included. -/
def isWithin (first last c : Char) : Bool := first.toNat ≤ c.toNat && c.toNat ≤ last.toNat

/-- Whether a character ends a string: one of its bytes is the string terminator. -/
def endsString (c : Char) : Bool := (String.utf8EncodeChar c).contains 0x9C

/-- Where a character leads from an escape character. -/
def ControlState.behindEscape (c : Char) : ControlState :=
  if c = '[' then .parameters
  else if c = ']' then .command
  else if c = 'P' then .device
  else if c ∈ ['X', '^', '_'] then .string
  else if isWithin ' ' '/' c then .marked
  else if isWithin '0' '~' c then .ground
  else .escape

/-- Where a character leads from the start of the head of a device string. -/
def ControlState.inDevice (c : Char) : ControlState :=
  if isWithin ' ' '/' c then .deviceMarked
  else if isWithin '0' '?' c then .deviceParameters
  else if isWithin '@' '~' c then .string
  else .device

/-- Where a character leads from the parameters of a device string. -/
def ControlState.inDeviceParameters (c : Char) : ControlState :=
  if isWithin ' ' '/' c then .deviceMarked
  else if isWithin '<' '~' c then .string
  else .deviceParameters

/-- Where a character leads, and whether it is written. -/
def ControlState.next (state : ControlState) (c : Char) : ControlState × Bool :=
  if c = '\x1b' then (.escape, false)
  else if c ∈ ['\x18', '\x1a'] then (.ground, false)
  else
    match state with
    | .ground => (.ground, isWritten c)
    | .command => (if c = '\x07' then .ground else .command, false)
    | .device => (inDevice c, false)
    | .deviceParameters => (inDeviceParameters c, false)
    | .deviceMarked => (if isWithin '0' '~' c then .string else .deviceMarked, false)
    | .string => (if endsString c then .ground else .string, false)
    | .escape => if isSpacing c then (.ground, true) else (behindEscape c, false)
    | .marked =>
      if isSpacing c then (.ground, true)
      else (if isWithin '0' '~' c then .ground else .marked, false)
    | .parameters =>
      if isSpacing c then (.ground, true)
      else (if isWithin '@' '~' c then .ground else .parameters, false)

/-- What is written of characters from a state on. -/
def plainFrom (state : ControlState) : List Char → List Char
  | [] => []
  | c :: cs =>
    let (after, written) := state.next c
    if written then c :: plainFrom after cs else plainFrom after cs

/-- What is written of a text. -/
def plain (text : String) : String := String.ofList (plainFrom .ground text.toList)

/-- A text that stands out on a terminal. -/
def emphasised (text : String) : String := "\x1b[1m" ++ text ++ "\x1b[0m"

/-- Colours, titles and a bell are not written; a tab and a zero-width space are. -/
example :
    ["a\x1b[31mb", "x\x1b]0;t\x07y", "a\x07b", "a\tb", "\u200b"].map plain =
      ["ab", "xy", "ab", "a\tb", "\u200b"] := by cbv

/-- What stands out is the same text once it is plain; so is a text without controls. -/
example : [plain (emphasised "--help"), plain "é ✓"] = ["--help", "é ✓"] := by cbv

/-- A sequence that is not ended takes in what follows. -/
example : plain ("a\x1b]0;title" ++ emphasised "b") = "ab" := by cbv

/-- `Ü` ends a device string, but not in its head. -/
example : ["\x1bPqÜx", "\x1bP1<Üx", "\x1bP1;2Üx"].map plain = ["x", "x", ""] := by cbv

end MockScaffold.Text
