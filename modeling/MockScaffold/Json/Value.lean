import MockScaffold.Keyed

namespace MockScaffold

/-- A number of a JSON text. -/
inductive Json.Number where
  | integer (value : Int)
  | float (value : Float)
  deriving Repr

/-- A JSON value. A number is kept as an integer when its text is one that 64 bits hold; a value
that was read holds the members of an object in ascending order of their keys, each key once. -/
inductive Json where
  | null
  | boolean (value : Bool)
  | number (value : Json.Number)
  | string (value : String)
  | array (items : List Json)
  | object (members : List (String × Json))
  deriving Repr

namespace Json

instance : Inhabited Json := ⟨.null⟩

/-- A whole number. -/
def ofInt (n : Int) : Json := .number (.integer n)

def ofStrings (texts : List String) : Json := .array (texts.map .string)

/-- A text, or null. -/
def ofOptionalString : Option String → Json
  | none => .null
  | some text => .string text

def asString? : Json → Option String
  | .string text => some text
  | _ => none

def asMembers? : Json → Option (List (String × Json))
  | .object members => some members
  | _ => none

/-- The value of a member, if the value is an object that has it. -/
def member? (value : Json) (key : String) : Option Json :=
  value.asMembers?.bind (Keyed.lookup? key)

end Json
end MockScaffold
