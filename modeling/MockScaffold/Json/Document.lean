import MockScaffold.Json.Token

/-!
A document is a JSON text as far as it can be read: its values and members as
written, with each fault at the place where it stands. A reader that goes
through a document in order thus meets what it looks for and the fault of the
text in the order in which they are written. What a reader does not look for it
passes over, and may then give another reason for a fault. `read` finds the document of a
text and `toJson` the value of a document without faults.
-/

namespace MockScaffold.Json

/-- What was read of a JSON text. A list or an object that does not end with its bracket ends with
a fault. -/
inductive Document where
  | null
  | boolean (value : Bool)
  | number (value : Except SyntaxError Number)
  | string (value : Except SyntaxError String)
  | array (items : List Document) (fault : Option Fault)
  | object (members : List (Except SyntaxError String × Document)) (fault : Option Fault)
  | broken (fault : Fault)

/-- A key as written. -/
abbrev Key := Except SyntaxError String

/-- A list or an object that waits for the value of one of its places. -/
inductive Frame where
  /-- The items so far, last first. -/
  | array (items : List Document)
  /-- The members so far, last first, and the key whose value is awaited. -/
  | object (members : List (Key × Document)) (key : Key)

/-- Where a reader stands, with the lists and objects around it, innermost first. -/
inductive Reader where
  /-- A value must come. -/
  | value (frames : List Frame)
  /-- A list has been opened. -/
  | firstItem (frames : List Frame)
  /-- An item has ended. -/
  | afterItem (frames : List Frame) (items : List Document)
  /-- An object has been opened. -/
  | firstKey (frames : List Frame)
  /-- A comma stands behind a member. -/
  | nextKey (frames : List Frame) (members : List (Key × Document))
  /-- A key has ended. -/
  | afterKey (frames : List Frame) (members : List (Key × Document)) (key : Key)
  /-- A member has ended. -/
  | afterMember (frames : List Frame) (members : List (Key × Document))
  /-- The document has ended. -/
  | finished (document : Document)
  /-- Something stands behind the document. -/
  | overrun (document : Document)
  /-- A fault was met; nothing is read behind it. -/
  | stopped (document : Document)

/-- A list or an object that was cut short, with what is around it. -/
def enclose (fault : Fault) (inner : Document) : List Frame → Document
  | [] => inner
  | .array items :: frames => enclose fault (.array (inner :: items).reverse (some fault)) frames
  | .object members key :: frames =>
    enclose fault (.object ((key, inner) :: members).reverse (some fault)) frames

/-- What is cut short within a list. -/
def cutInItems (frames : List Frame) (items : List Document) (fault : Fault) : Document :=
  enclose fault (.array items.reverse (some fault)) frames

/-- What is cut short within an object. -/
def cutInMembers (frames : List Frame) (members : List (Key × Document)) (fault : Fault) :
    Document :=
  enclose fault (.object members.reverse (some fault)) frames

/-- What is cut short where a value must come. -/
def cutAtValue (frames : List Frame) (fault : Fault) : Document :=
  enclose fault (.broken fault) frames

namespace Reader

/-- Stands behind a value. -/
def complete (document : Document) : List Frame → Reader
  | [] => .finished document
  | .array items :: frames => .afterItem frames (document :: items)
  | .object members key :: frames => .afterMember frames ((key, document) :: members)

/-- Takes a token where a value must come. -/
def takeValue (frames : List Frame) : Token → Reader
  | .null => complete .null frames
  | .boolean b => complete (.boolean b) frames
  | .number n => complete (.number n) frames
  | .string text => complete (.string text) frames
  | .openArray => .firstItem frames
  | .openObject => .firstKey frames
  | .fault reason => .stopped <| cutAtValue frames reason
  | .closeArray =>
    match frames with
    | .array _ :: _ => .stopped <| cutAtValue frames ⟨.trailingComma, .expectedValue⟩
    | _ => .stopped <| cutAtValue frames (.plain .expectedValue)
  | .closeObject | .comma | .colon => .stopped <| cutAtValue frames (.plain .expectedValue)

/-- Takes a token where a key must come. -/
def takeKey (frames : List Frame) (members : List (Key × Document)) : Token → Reader
  | .string key => .afterKey frames members key
  | .fault fault =>
    .stopped <| cutInMembers frames members
      (if fault.isInString then fault else .plain .keyNotString)
  | _ => .stopped <| cutInMembers frames members (.plain .keyNotString)

def take : Reader → Token → Reader
  | .value frames, token => takeValue frames token
  | .firstItem frames, .closeArray => complete (.array [] none) frames
  | .firstItem frames, token => takeValue (.array [] :: frames) token
  | .afterItem frames items, .comma => .value (.array items :: frames)
  | .afterItem frames items, .closeArray => complete (.array items.reverse none) frames
  | .afterItem frames items, _ =>
    .stopped <| cutInItems frames items (.plain .expectedListSeparator)
  | .firstKey frames, .closeObject => complete (.object [] none) frames
  | .firstKey frames, token => takeKey frames [] token
  | .nextKey frames members, .closeObject =>
    .stopped <| cutInMembers frames members ⟨.trailingComma, .keyNotString⟩
  | .nextKey frames members, token => takeKey frames members token
  | .afterKey frames members key, .colon => .value (.object members key :: frames)
  | .afterKey frames members key, _ =>
    .stopped <| cutAtValue (.object members key :: frames) (.plain .expectedColon)
  | .afterMember frames members, .comma => .nextKey frames members
  | .afterMember frames members, .closeObject => complete (.object members.reverse none) frames
  | .afterMember frames members, _ =>
    .stopped <| cutInMembers frames members (.plain .expectedObjectSeparator)
  | .finished document, _ => .overrun document
  | .overrun document, _ => .overrun document
  | .stopped document, _ => .stopped document

/-- The document as far as it was read, once the text has ended. -/
def finish : Reader → Document
  | .value frames => cutAtValue frames (.plain .endInValue)
  | .firstItem frames => cutInItems frames [] (.plain .endInList)
  | .afterItem frames items => cutInItems frames items (.plain .endInList)
  | .firstKey frames => cutInMembers frames [] (.plain .endInObject)
  | .nextKey frames members => cutInMembers frames members ⟨.endInValue, .endInObject⟩
  | .afterKey frames members key =>
    cutAtValue (.object members key :: frames) (.plain .endInObject)
  | .afterMember frames members => cutInMembers frames members (.plain .endInObject)
  | .finished document | .overrun document | .stopped document => document

/-- Whether something stands behind the document. -/
def isOverrun : Reader → Bool
  | .overrun _ => true
  | _ => false

end Reader

/-- What a text holds: its document, and whether something stands behind that. -/
structure Reading where
  document : Document
  overrun : Bool

def readTokens (reader : Reader) (ts : List Token) : Reader := ts.foldl Reader.take reader

/-- Reads a text. -/
def read (text : String) : Reading :=
  let reader := readTokens (.value []) (tokens text.toList)
  ⟨reader.finish, reader.isOverrun⟩

/-! ## Values -/

/-- How deep lists and objects may be nested in a value. -/
def maxDepth : Nat := 127

namespace Document

mutual

/-- The value of a document in which lists and objects are nested `room` deep at most. Of members
with one key the last counts. -/
def toJsonWithin (room : Nat) : Document → Except SyntaxError Json
  | .null => .ok .null
  | .boolean value => .ok (.boolean value)
  | .number value => value.map .number
  | .string value => value.map .string
  | .array items fault =>
    match room with
    | 0 => .error .tooDeep
    | room + 1 => do
      let values ← itemsToJson room items
      match fault with
      | none => .ok (.array values)
      | some fault => .error fault.read
  | .object members fault =>
    match room with
    | 0 => .error .tooDeep
    | room + 1 => do
      let values ← membersToJson room [] members
      match fault with
      | none => .ok (.object values)
      | some fault => .error fault.read
  | .broken fault => .error fault.read

def itemsToJson (room : Nat) : List Document → Except SyntaxError (List Json)
  | [] => .ok []
  | item :: items => do
    let value ← toJsonWithin room item
    let values ← itemsToJson room items
    return value :: values

/-- The values of members, in ascending order of keys, added to `values`. -/
def membersToJson (room : Nat) (values : List (String × Json)) :
    List (Except SyntaxError String × Document) → Except SyntaxError (List (String × Json))
  | [] => .ok values
  | (key, document) :: members => do
    let key ← key
    let value ← toJsonWithin room document
    membersToJson room (Keyed.insert key value values) members

end

def toJson (document : Document) : Except SyntaxError Json := document.toJsonWithin maxDepth

mutual

/-- Passes over a document: only faults that hide where it ends count. -/
def skip : Document → Except SyntaxError Unit
  | .array items fault => do
    skipItems items
    match fault with
    | none => .ok ()
    | some fault => .error fault.passed
  | .object members fault => do
    skipMembers members
    match fault with
    | none => .ok ()
    | some fault => .error fault.passed
  | .broken fault => .error fault.passed
  | _ => .ok ()

def skipItems : List Document → Except SyntaxError Unit
  | [] => .ok ()
  | item :: items => do
    skip item
    skipItems items

def skipMembers : List (Except SyntaxError String × Document) → Except SyntaxError Unit
  | [] => .ok ()
  | (_, document) :: members => do
    skip document
    skipMembers members

end

mutual

/-- The document that states a value. -/
def ofJson : Json → Document
  | .null => .null
  | .boolean value => .boolean value
  | .number value => .number (.ok value)
  | .string value => .string (.ok value)
  | .array items => .array (ofItems items) none
  | .object members => .object (ofMembers members) none

def ofItems : List Json → List Document
  | [] => []
  | item :: items => ofJson item :: ofItems items

def ofMembers : List (String × Json) → List (Except SyntaxError String × Document)
  | [] => []
  | (key, value) :: members => (.ok key, ofJson value) :: ofMembers members

end

end Document

/-- The value of a text. -/
def parse (text : String) : Except SyntaxError Json := do
  let reading := read text
  let value ← reading.document.toJson
  if reading.overrun then .error .trailingCharacters else .ok value

end MockScaffold.Json
