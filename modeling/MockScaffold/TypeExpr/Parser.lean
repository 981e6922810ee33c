import MockScaffold.TypeExpr.Basic
import MockScaffold.TypeExpr.Segment

/-!
A signature is read in two steps. The first folds its segments into outlines:
labelled trees in which a lone `?` has marked the type before it. The second
takes the first outline and settles what each label means. A lone `?` needs a
type to mark, at most `maxOpen` lists are open at once, and a name holds no
`?`; anything else is accepted, so missing `>` are supplied at the end, text
behind an unmatched `>` is ignored, and lists without an owner are dropped.
-/

namespace MockScaffold.TypeExpr

/-- The most lists of arguments that may be open at once. -/
def maxOpen : Nat := 256

/-- A type as written: its label, whether a lone `?` followed it, and the types in its list. -/
inductive Outline where
  | node (label : List Char) (marked : Bool) (inner : List Outline)
  deriving Repr

/-- A list that waits for the end of an inner one: the label that opened the inner list and the
types read before that label, last first. -/
structure Frame where
  owner : List Char
  before : List Outline
  deriving Repr

/-- The waiting list, continued with the inner one as the arguments of its owner. A list without
an owner is dropped. -/
def Frame.resume (frame : Frame) (inner : List Outline) : List Outline :=
  if frame.owner.isEmpty then frame.before
  else .node frame.owner false inner.reverse :: frame.before

/-- A label that opens no list, placed behind the types before it, last first. Nothing is written
for an empty label, and a lone `?` marks the last type unless that is marked already. -/
def place (label : List Char) (before : List Outline) : Option (List Outline) :=
  match label, before with
  | [], before => some before
  | ['?'], .node owner false inner :: earlier => some (.node owner true inner :: earlier)
  | '?' :: _, _ => none
  | label, before => some (.node label false [] :: before)

/-- The outermost list, once the inner list and all that wait for it have ended. -/
def closeAll (inner : List Outline) : List Frame → List Outline
  | [] => inner
  | frame :: frames => closeAll (frame.resume inner) frames

/-- The types of the outermost list, last first: `frames` wait, innermost first, and `before` is
what the current list holds so far. -/
def readFrom (frames : List Frame) (before : List Outline) :
    List Segment → Option (List Outline)
  | [] => some (closeAll before frames)
  | ⟨label, .opens⟩ :: rest =>
    if frames.length < maxOpen then readFrom (⟨label, before⟩ :: frames) [] rest else none
  | ⟨label, .separates⟩ :: rest => do
    readFrom frames (← place label before) rest
  | ⟨label, .closes⟩ :: rest => do
    let list ← place label before
    match frames with
    | [] => some list
    | frame :: frames => readFrom frames (frame.resume list) rest
  | ⟨label, .ends⟩ :: _ => do
    return closeAll (← place label before) frames

/-- The types that a text lists at its outermost level, in order. -/
def outlines? (cs : List Char) : Option (List Outline) :=
  (readFrom [] [] (segments cs)).map List.reverse

/-- A label without the `?` it ends with, and whether there was one. -/
def splitMarker (label : List Char) : List Char × Bool :=
  match label.getLast? with
  | some '?' => (Text.trimEnd label.dropLast, true)
  | _ => (label, false)

mutual

/-- The type that an outline stands for, if every name in it is non-empty and free of `?`. -/
def Outline.toTypeExpr? : Outline → Option TypeExpr
  | .node label marked inner =>
    let (name, asked) := splitMarker label
    if name.isEmpty || name.contains '?' then none
    else (Outline.toTypeExprs? inner).map (.node (String.ofList name) (asked || marked))

def Outline.toTypeExprs? : List Outline → Option (List TypeExpr)
  | [] => some []
  | o :: os =>
    match o.toTypeExpr? with
    | none => none
    | some t => (Outline.toTypeExprs? os).map (t :: ·)

end

/-- The first type that a text lists, read character by character. -/
def parseChars? (cs : List Char) : Option TypeExpr :=
  match outlines? cs with
  | some (first :: _) => first.toTypeExpr?
  | _ => none

/-- A signature that stands for no type, kept as it was given. -/
structure SignatureError where
  signature : String
  deriving DecidableEq, Repr

def SignatureError.message (e : SignatureError) : String :=
  "input could not be parsed: " ++ e.signature

/-- The type that a signature spells; of several, the first. -/
def parse (signature : String) : Except SignatureError TypeExpr :=
  match parseChars? signature.toList with
  | some t => .ok t
  | none => .error ⟨signature⟩

end MockScaffold.TypeExpr
