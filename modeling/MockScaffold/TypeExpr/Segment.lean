import MockScaffold.Text.Blank

/-!
Three characters give a signature its structure: `<`, `,` and `>`. A signature
is cut at them into segments, each a trimmed label with the mark that ends it;
the last segment is ended by the text itself.
-/

namespace MockScaffold.TypeExpr

/-- What ends a segment. -/
inductive Mark where
  /-- `<` starts a list of arguments. -/
  | opens
  /-- `,` starts the next type of the same list. -/
  | separates
  /-- `>` ends a list of arguments. -/
  | closes
  /-- The end of the text. -/
  | ends
  deriving DecidableEq, Repr

/-- The mark that a character stands for, if it gives structure. -/
def Mark.ofChar? : Char → Option Mark
  | '<' => some .opens
  | ',' => some .separates
  | '>' => some .closes
  | _ => none

/-- A label, free of structure and of blanks at its ends, and the mark behind it. -/
structure Segment where
  label : List Char
  mark : Mark
  deriving DecidableEq, Repr

/-- The segments of a text whose first label has begun with `label`, written backwards. -/
def segmentsFrom (label : List Char) : List Char → List Segment
  | [] => [⟨Text.trim label.reverse, .ends⟩]
  | c :: cs =>
    match Mark.ofChar? c with
    | some mark => ⟨Text.trim label.reverse, mark⟩ :: segmentsFrom [] cs
    | none => segmentsFrom (c :: label) cs

/-- The segments of a text, in order. -/
def segments (cs : List Char) : List Segment := segmentsFrom [] cs

end MockScaffold.TypeExpr
