import MockScaffold.Json.Value
import MockScaffold.Json.StringBody
import MockScaffold.Text.Decimal

namespace MockScaffold.Json

def Number.text : Number → String
  | .integer n => toString n
  | .float x => Text.ofFloat x

mutual

/-- The text of a value on one line. -/
def compact : Json → String
  | .null => "null"
  | .boolean b => if b then "true" else "false"
  | .number n => n.text
  | .string text => quote text
  | .array [] => "[]"
  | .array (item :: items) => "[" ++ compact item ++ compactItems items ++ "]"
  | .object [] => "\x7b\x7d"
  | .object ((key, value) :: members) =>
    "\x7b" ++ quote key ++ ":" ++ compact value ++ compactMembers members ++ "\x7d"

/-- Further items, each behind a comma. -/
def compactItems : List Json → String
  | [] => ""
  | item :: items => "," ++ compact item ++ compactItems items

def compactMembers : List (String × Json) → String
  | [] => ""
  | (key, value) :: members =>
    "," ++ quote key ++ ":" ++ compact value ++ compactMembers members

end

/-- A line feed and the spaces that a line starts with inside `depth` lists and objects. -/
def newLine (depth : Nat) : String := String.ofList ('\n' :: List.replicate (2 * depth) ' ')

mutual

/-- The text of a value on several lines, inside `depth` lists and objects. -/
def prettyAt (depth : Nat) : Json → String
  | .null => "null"
  | .boolean b => if b then "true" else "false"
  | .number n => n.text
  | .string text => quote text
  | .array [] => "[]"
  | .array (item :: items) =>
    "[" ++ newLine (depth + 1) ++ prettyAt (depth + 1) item ++ prettyItemsAt (depth + 1) items
      ++ newLine depth ++ "]"
  | .object [] => "\x7b\x7d"
  | .object ((key, value) :: members) =>
    "\x7b" ++ newLine (depth + 1) ++ quote key ++ ": " ++ prettyAt (depth + 1) value
      ++ prettyMembersAt (depth + 1) members ++ newLine depth ++ "\x7d"

def prettyItemsAt (depth : Nat) : List Json → String
  | [] => ""
  | item :: items => "," ++ newLine depth ++ prettyAt depth item ++ prettyItemsAt depth items

def prettyMembersAt (depth : Nat) : List (String × Json) → String
  | [] => ""
  | (key, value) :: members =>
    "," ++ newLine depth ++ quote key ++ ": " ++ prettyAt depth value
      ++ prettyMembersAt depth members

end

/-- The text of a value on several lines. -/
def pretty (value : Json) : String := prettyAt 0 value

example : ((array [.ofInt (-3), .null]).compact, (object [("n", .ofInt 0)]).pretty) =
    ("[-3,null]", "\x7b\n  \"n\": 0\n\x7d") := by decide

end MockScaffold.Json
