/-!
A type as a signature spells it: a name, whether `null` is admitted, and the
type arguments in order. A type without arguments is *specific*, one with
arguments is *generic*; nothing else tells the two apart.
-/

namespace MockScaffold

/-- A type of a signature such as `Map<String, Int?>?`. -/
inductive TypeExpr where
  | node (name : String) (nullable : Bool) (arguments : List TypeExpr)
  deriving Repr

/-- Whether a type takes arguments. -/
inductive Kind where
  | specific
  | generic
  deriving DecidableEq, Repr

def Kind.word : Kind → String
  | .specific => "specific"
  | .generic => "generic"

namespace TypeExpr

instance : Inhabited TypeExpr := ⟨.node "" false []⟩

/-- The name without arguments or marker. -/
def name : TypeExpr → String
  | .node name _ _ => name

/-- Whether this node, not one of its arguments, carries the marker `?`. -/
def nullable : TypeExpr → Bool
  | .node _ nullable _ => nullable

def arguments : TypeExpr → List TypeExpr
  | .node _ _ arguments => arguments

def specific (name : String) (nullable : Bool) : TypeExpr := .node name nullable []

/-- A type with the given arguments; with none it is specific. -/
def generic (name : String) (nullable : Bool) (arguments : List TypeExpr) : TypeExpr :=
  .node name nullable arguments

/-- Generic exactly when there are arguments. -/
def kind (t : TypeExpr) : Kind := if t.arguments.isEmpty then .specific else .generic

theorem kind_eq_generic_iff {t : TypeExpr} : t.kind = .generic ↔ t.arguments ≠ [] := by
  cases arguments : t.arguments <;> simp [kind, arguments]

@[simp] theorem name_node (n : String) (q : Bool) (as : List TypeExpr) : (node n q as).name = n :=
  rfl

@[simp] theorem nullable_node (n : String) (q : Bool) (as : List TypeExpr) :
    (node n q as).nullable = q := rfl

@[simp] theorem arguments_node (n : String) (q : Bool) (as : List TypeExpr) :
    (node n q as).arguments = as := rfl

mutual

/-- Types are compared node by node. -/
def decideEq : (t u : TypeExpr) → Decidable (t = u)
  | .node n q as, .node m r bs =>
    if name : n = m then
      if nullable : q = r then
        match decideEqList as bs with
        | .isTrue arguments => .isTrue (by rw [name, nullable, arguments])
        | .isFalse different => .isFalse (by intro h; cases h; exact different rfl)
      else .isFalse (by intro h; cases h; exact nullable rfl)
    else .isFalse (by intro h; cases h; exact name rfl)

def decideEqList : (ts us : List TypeExpr) → Decidable (ts = us)
  | [], [] => .isTrue rfl
  | [], _ :: _ => .isFalse nofun
  | _ :: _, [] => .isFalse nofun
  | t :: ts, u :: us =>
    match decideEq t u with
    | .isTrue first =>
      match decideEqList ts us with
      | .isTrue rest => .isTrue (by rw [first, rest])
      | .isFalse different => .isFalse (by intro h; cases h; exact different rfl)
    | .isFalse different => .isFalse (by intro h; cases h; exact different rfl)

end

instance : DecidableEq TypeExpr := decideEq

mutual

/-- Every node, a type before its arguments, each with the number of types around it. -/
def nodesAt (depth : Nat) : TypeExpr → List (Nat × TypeExpr)
  | .node name nullable arguments =>
    (depth, .node name nullable arguments) :: nodesOfAt (depth + 1) arguments

def nodesOfAt (depth : Nat) : List TypeExpr → List (Nat × TypeExpr)
  | [] => []
  | t :: ts => nodesAt depth t ++ nodesOfAt depth ts

end

/-- Every node with its depth, in the order in which the names are written. -/
def nodes (t : TypeExpr) : List (Nat × TypeExpr) := nodesAt 0 t

mutual

/-- The type and every type inside it, depth first. -/
def walk : TypeExpr → List TypeExpr
  | .node name nullable arguments => .node name nullable arguments :: walkAll arguments

def walkAll : List TypeExpr → List TypeExpr
  | [] => []
  | t :: ts => walk t ++ walkAll ts

end

end TypeExpr
end MockScaffold
