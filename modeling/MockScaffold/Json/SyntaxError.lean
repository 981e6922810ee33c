namespace MockScaffold.Json

/-- A reason for which a text is not accepted as JSON. -/
inductive SyntaxError where
  | endInList
  | endInObject
  | endInString
  | endInValue
  | expectedColon
  | expectedListSeparator
  | expectedObjectSeparator
  | expectedWord
  | expectedValue
  | invalidEscape
  | invalidNumber
  | numberOutOfRange
  | controlCharacter
  | keyNotString
  | loneSurrogate
  | unpairedSurrogate
  | trailingComma
  | trailingCharacters
  | tooDeep
  deriving DecidableEq, Repr

/-- The wording of a reason. The line and the column of the fault, which a reader of the text may
add, are left out, here and in all messages that quote this one. -/
def SyntaxError.message : SyntaxError → String
  | .endInList => "EOF while parsing a list"
  | .endInObject => "EOF while parsing an object"
  | .endInString => "EOF while parsing a string"
  | .endInValue => "EOF while parsing a value"
  | .expectedColon => "expected `:`"
  | .expectedListSeparator => "expected `,` or `]`"
  | .expectedObjectSeparator => "expected `,` or `\x7d`"
  | .expectedWord => "expected ident"
  | .expectedValue => "expected value"
  | .invalidEscape => "invalid escape"
  | .invalidNumber => "invalid number"
  | .numberOutOfRange => "number out of range"
  | .controlCharacter => "control character (\\u0000-\\u001F) found while parsing a string"
  | .keyNotString => "key must be a string"
  | .loneSurrogate => "lone leading surrogate in hex escape"
  | .unpairedSurrogate => "unexpected end of hex escape"
  | .trailingComma => "trailing comma"
  | .trailingCharacters => "trailing characters"
  | .tooDeep => "recursion limit exceeded"

/-- A fault of a text, with the reason given where the text is read and the reason given where it
is only passed over: a reader looks more closely. -/
structure Fault where
  read : SyntaxError
  passed : SyntaxError
  deriving DecidableEq, Repr

/-- A fault that is the same for all. -/
def Fault.plain (reason : SyntaxError) : Fault := ⟨reason, reason⟩

/-- Whether the fault lies between the quotes of a string. -/
def Fault.isInString (fault : Fault) : Bool :=
  fault.passed ∈ [.endInString, .invalidEscape, .controlCharacter]

end MockScaffold.Json
