import MockScaffold.Json.Document
import MockScaffold.Text.Decimal
import MockScaffold.Text.Position
import MockScaffold.Text.Quoted
import MockScaffold.TypeExpr.Parser

namespace MockScaffold

/-- What a document holds where something else was expected. -/
inductive Decoding.Found where
  | null
  | boolean (value : Bool)
  | number (value : Json.Number)
  | string (value : String)
  | sequence
  | map

def Decoding.Found.text : Found → String
  | .null => "null"
  | .boolean value => "boolean `" ++ toString value ++ "`"
  | .number (.integer value) => "integer `" ++ toString value ++ "`"
  | .number (.float value) => "floating point `" ++ Text.ofFloat value ++ "`"
  | .string value => "string " ++ Text.quoted value
  | .sequence => "sequence"
  | .map => "map"

/-- A reason for which a document does not decode. -/
inductive DecodeError where
  /-- The text is no JSON text. -/
  | malformed (fault : Json.SyntaxError)
  | wrongType (found : Decoding.Found) (expected : String)
  | missingField (name : String)
  | duplicateField (name : String)
  /-- A record written as a list ends before a field without default. -/
  | tooFewElements (count : Nat) (expected : String)
  /-- A record written as a list goes on behind its last field. -/
  | tooManyElements (count : Nat)
  | badSignature (error : TypeExpr.SignatureError)
  | unknownName (given : String) (known : List String)

def DecodeError.wording : DecodeError → String
  | .malformed fault => fault.message
  | .wrongType found expected => "invalid type: " ++ found.text ++ ", expected " ++ expected
  | .missingField name => "missing field `" ++ name ++ "`"
  | .duplicateField name => "duplicate field `" ++ name ++ "`"
  | .tooFewElements count expected =>
    "invalid length " ++ toString count ++ ", expected " ++ expected
  | .tooManyElements count =>
    "invalid length " ++ toString count ++ ", expected fewer elements in array"
  | .badSignature error => error.message
  | .unknownName given known =>
    "unknown variant '" ++ given ++ "', expected one of: " ++ ", ".intercalate known

/-- What is said of a reason. Words that end in a position, as those of a refused signature may, are
taken to be about that position, and it is written as positions are. -/
def DecodeError.message (e : DecodeError) : String := (Text.locate e.wording).text

end MockScaffold
