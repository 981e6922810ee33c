import MockScaffold.Decoding.Basic

/-!
A record is described by its shape: the names of its fields in the order of
their declaration, which of them must be given, and how each is decoded. One
decoder serves all shapes. It takes an object, in which members may stand in any
order and unknown members are passed over, or a list of the fields in order.
-/

namespace MockScaffold.Decoding
open Json (Document Fault Key SyntaxError)

/-- A field of records of type `ρ`. -/
structure Field (ρ : Type) where
  name : String
  /-- Whether the field must be given. -/
  required : Bool
  /-- Decodes the field and says how it changes the record. -/
  decode : Decoder (ρ → ρ)

/-- How records of type `ρ` are written. -/
structure Shape (ρ : Type) where
  name : String
  /-- The record before any field is set, with the default of every field that has one. -/
  blank : ρ
  /-- The fields in the order of their declaration. -/
  fields : List (Field ρ)

variable {ρ α : Type}

/-- A field that must be given. -/
def Field.needed (name : String) (decode : Decoder α) (set : α → ρ → ρ) : Field ρ :=
  ⟨name, true, fun document => (decode document).map set⟩

/-- A field that keeps its default unless it is given. -/
def Field.defaulted (name : String) (decode : Decoder α) (set : α → ρ → ρ) : Field ρ :=
  ⟨name, false, fun document => (decode document).map set⟩

namespace Shape

def expected (shape : Shape ρ) : String := "struct " ++ shape.name

def field? (shape : Shape ρ) (name : String) : Option (Field ρ) :=
  shape.fields.find? fun field => field.name = name

/-- A record while its members are read: the fields set so far and their names. -/
structure Progress (ρ : Type) where
  record : ρ
  given : List String

/-- Takes the next member of an object. -/
def takeMember (shape : Shape ρ) (progress : Progress ρ) :
    Key × Document → Except DecodeError (Progress ρ)
  | (key, document) => do
    let name ← unlessMalformed key
    match shape.field? name with
    | none =>
      unlessMalformed document.skip
      return progress
    | some field =>
      if name ∈ progress.given then .error (.duplicateField name)
      else
        let set ← field.decode document
        return ⟨set progress.record, name :: progress.given⟩

def missing? (shape : Shape ρ) (given : List String) : Option (Field ρ) :=
  shape.fields.find? fun field => field.required && field.name ∉ given

/-- A record written as an object. -/
def ofMembers (shape : Shape ρ) (members : List (Key × Document)) (fault : Option Fault) :
    Except DecodeError ρ := do
  let progress ← members.foldlM (takeMember shape) ⟨shape.blank, []⟩
  ended fault
  match shape.missing? progress.given with
  | some field => .error (.missingField field.name)
  | none => return progress.record

/-- The end of a list that states every field, where only a bracket may stand. -/
def allGiven : Option Fault → Except DecodeError Unit
  | some ⟨.expectedListSeparator, _⟩ => .error (.malformed .trailingCharacters)
  | fault => ended fault

/-- Why an element behind the last field is refused: because of the comma, if only the bracket
follows it. -/
def surplus (size : Nat) : Document → DecodeError
  | .broken ⟨.trailingComma, _⟩ => .malformed .trailingComma
  | _ => .tooManyElements size

/-- A record written as a list: the fields from number `index` on, of which `size` elements are
given in all. -/
def ofElements (shape : Shape ρ) (size : Nat) (fault : Option Fault) (index : Nat)
    (record : ρ) : List (Field ρ) → List Document → Except DecodeError ρ
  | [], [] => do
    allGiven fault
    return record
  | [], document :: _ => .error (surplus size document)
  | field :: fields, document :: documents => do
    let set ← field.decode document
    ofElements shape size fault (index + 1) (set record) fields documents
  | field :: fields, [] => do
    ended fault
    if field.required then
      .error (.tooFewElements index
        (shape.expected ++ " with " ++ toString shape.fields.length ++ " elements"))
    else ofElements shape size fault (index + 1) record fields []

def decode (shape : Shape ρ) : Decoder ρ
  | .object members fault => shape.ofMembers members fault
  | .array elements fault =>
    shape.ofElements elements.length fault 0 shape.blank shape.fields elements
  | document => reject shape.expected document

end Shape
end MockScaffold.Decoding
