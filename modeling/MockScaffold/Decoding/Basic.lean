import MockScaffold.Decoding.Error

/-!
A decoder goes through a document in the order in which it is written and stops
at the first thing that is not as it should be, be that a fault of the text or
a value of the wrong type. Numbers, strings and words are read before their type
is judged; a list or an object is judged by its bracket.
-/

namespace MockScaffold

/-- A way to decode documents. -/
abbrev Decoder (α : Type) := Json.Document → Except DecodeError α

namespace Decoding
open Json (Document Fault SyntaxError)

/-- What was read, unless reading it met a fault of the text. -/
def unlessMalformed {α : Type} : Except SyntaxError α → Except DecodeError α
  | .ok value => .ok value
  | .error fault => .error (.malformed fault)

/-- The error for a document of the wrong type. -/
def reject {α : Type} (expected : String) : Decoder α
  | .null => .error (.wrongType .null expected)
  | .boolean value => .error (.wrongType (.boolean value) expected)
  | .number (.ok value) => .error (.wrongType (.number value) expected)
  | .string (.ok value) => .error (.wrongType (.string value) expected)
  | .array _ _ => .error (.wrongType .sequence expected)
  | .object _ _ => .error (.wrongType .map expected)
  | .number (.error reason) | .string (.error reason) => .error (.malformed reason)
  | .broken fault => .error (.malformed fault.read)

def string : Decoder String
  | .string (.ok value) => .ok value
  | document => reject "a string" document

def boolean : Decoder Bool
  | .boolean value => .ok value
  | document => reject "a boolean" document

/-- Nothing for `null`, and otherwise what a decoder finds. -/
def optional {α : Type} (decode : Decoder α) : Decoder (Option α)
  | .null => .ok none
  | document => (decode document).map some

/-- The end of a list or an object. -/
def ended : Option Fault → Except DecodeError Unit
  | none => .ok ()
  | some fault => .error (.malformed fault.read)

/-- A list, item by item. -/
def list {α : Type} (decode : Decoder α) : Decoder (List α)
  | .array items fault => do
    let values ← items.mapM decode
    ended fault
    return values
  | document => reject "a sequence" document

/-- A text that must spell a type. -/
def typeExpr : Decoder TypeExpr := fun document => do
  let signature ← string document
  match TypeExpr.parse signature with
  | .ok t => .ok t
  | .error error => .error (.badSignature error)

/-- Decodes the document of a text, behind which nothing may stand. Elements behind the last field
of a record are a fault of the text. -/
def ofText {α : Type} (decode : Decoder α) (text : String) : Except DecodeError α := do
  let reading := Json.read text
  let value ← match decode reading.document with
    | .error (.tooManyElements _) => .error (.malformed .trailingCharacters)
    | outcome => outcome
  if reading.overrun then .error (.malformed .trailingCharacters) else .ok value

/-- Decodes a value, which has no faults. -/
def ofJson {α : Type} (decode : Decoder α) (value : Json) : Except DecodeError α :=
  decode (Document.ofJson value)

end Decoding
end MockScaffold
