import MockScaffold.TypeExpr.Basic

namespace MockScaffold.TypeExpr

mutual

/-- Written with the marker of every nullable node: `Map<String, Int?>?`. -/
def text : TypeExpr → String
  | .node name nullable arguments =>
    name
      ++ (match arguments with
          | [] => ""
          | first :: rest => "<" ++ text first ++ textRest rest ++ ">")
      ++ (if nullable then "?" else "")

def textRest : List TypeExpr → String
  | [] => ""
  | t :: ts => ", " ++ text t ++ textRest ts

end

mutual

/-- Written without markers, at any depth. -/
def plainText : TypeExpr → String
  | .node name _ arguments =>
    name
      ++ (match arguments with
          | [] => ""
          | first :: rest => "<" ++ plainText first ++ plainTextRest rest ++ ">")

def plainTextRest : List TypeExpr → String
  | [] => ""
  | t :: ts => ", " ++ plainText t ++ plainTextRest ts

end

instance : ToString TypeExpr := ⟨text⟩

/-- What a line of the tree says of a node besides its name. -/
def remark (t : TypeExpr) : String :=
  t.kind.word ++ (if t.nullable then ", nullable" else "")

/-- One line of the tree: two spaces for each type around the node, its name and its remark. -/
def treeLine (depth : Nat) (t : TypeExpr) : String :=
  String.ofList (List.replicate (2 * depth) ' ') ++ t.name ++ " (" ++ t.remark ++ ")"

/-- The tree of a type, one line per node. -/
def treeLines (t : TypeExpr) : List String := t.nodes.map fun (depth, u) => treeLine depth u

end MockScaffold.TypeExpr
