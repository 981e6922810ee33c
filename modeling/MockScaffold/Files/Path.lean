/-!
A path is kept as it was written, cut at its slashes, so that it is shown
unchanged and what is added to it follows the spelling given. Only empty pieces
and single dots carry no meaning of their own, except for a dot at the start.
Pieces are texts, so a name that is not UTF-8 stands in no path.
-/

namespace MockScaffold

/-- A path as written. -/
structure Path where
  /-- Whether it starts with a slash, which belongs to no piece. -/
  absolute : Bool
  /-- What stands before, between and behind the other slashes. -/
  pieces : List String
  deriving DecidableEq, Repr

namespace Path

/-- A text cut at its slashes; the first piece has begun with `piece`, written backwards. -/
def cutFrom (piece : List Char) : List Char → List String
  | [] => [String.ofList piece.reverse]
  | c :: cs =>
    if c = '/' then String.ofList piece.reverse :: cutFrom [] cs else cutFrom (c :: piece) cs

/-- The path that a text spells. -/
def ofText (text : String) : Path :=
  match text.toList with
  | '/' :: rest => ⟨true, cutFrom [] rest⟩
  | cs => ⟨false, cutFrom [] cs⟩

def text (p : Path) : String := (if p.absolute then "/" else "") ++ "/".intercalate p.pieces

def size (p : Path) : Nat := p.text.utf8ByteSize

/-- The most bytes of a path that can be followed. -/
def maxSize : Nat := 4095

/-- Whether a path is short enough to be followed. -/
def fits (p : Path) : Bool := p.size ≤ maxSize

/-- The most bytes of the name of a file. -/
def maxNameSize : Nat := 255

/-- Whether a file can be made under a name. -/
def isFileName (name : String) : Bool :=
  name ∉ ["", ".", ".."] && name.utf8ByteSize ≤ maxNameSize && '\x00' ∉ name.toList

/-- The absolute path of names below the root. -/
def ofNames (names : List String) : Path := ⟨true, names⟩

/-- Whether nothing is written at all. Such a path leads nowhere. -/
def isEmpty (p : Path) : Bool := !p.absolute && (p.pieces = [] || p.pieces = [""])

/-- The path of an entry of a directory. -/
def join (p : Path) (name : String) : Path :=
  let pieces := if p.pieces.getLast? = some "" then p.pieces.dropLast else p.pieces
  { p with pieces := pieces ++ [name] }

/-- The path of what names lead to from a directory. -/
def joinAll (p : Path) (names : List String) : Path := names.foldl join p

/-- Pieces, last first, without those at the end of the path that carry no meaning. -/
def dropIdle (absolute : Bool) : List String → List String
  | [] => []
  | piece :: before =>
    if piece = "" ∨ piece = "." ∧ (absolute ∨ before ≠ []) then dropIdle absolute before
    else piece :: before

/-- The path without its last meaningful piece, if it has one. What the path leads to is not asked,
so the parent of `a/..` is `a`. -/
def parent? (p : Path) : Option Path :=
  match dropIdle p.absolute p.pieces.reverse with
  | [] => none
  | _ :: before => some { p with pieces := (dropIdle p.absolute before).reverse }

theorem length_dropIdle_le (absolute : Bool) (pieces : List String) :
    (dropIdle absolute pieces).length ≤ pieces.length := by
  fun_induction dropIdle absolute pieces with
  | case1 => exact Nat.le_refl _
  | case2 _ _ _ ih => exact Nat.le_succ_of_le ih
  | case3 => exact Nat.le_refl _

/-- A parent has fewer pieces, so going from parent to parent ends. -/
theorem length_pieces_of_parent? {p q : Path} (h : p.parent? = some q) :
    q.pieces.length < p.pieces.length := by
  unfold parent? at h
  have shorter := length_dropIdle_le p.absolute p.pieces.reverse
  split at h
  · cases h
  · rename_i piece before found
    cases h
    have := length_dropIdle_le p.absolute before
    rw [found, List.length_cons, List.length_reverse] at shorter
    rw [List.length_reverse]
    omega

/-- The path and all its parents, nearest first. -/
def chain (p : Path) : List Path :=
  match h : p.parent? with
  | none => [p]
  | some q =>
    have := length_pieces_of_parent? h
    p :: chain q
termination_by p.pieces.length

/-- What a file name has behind its last dot. A dot at the start does not count. -/
def extension? (name : String) : Option String :=
  let (reversed, rest) := name.toList.reverse.span (· ≠ '.')
  match rest with
  | _ :: _ :: _ => some (String.ofList reversed.reverse)
  | _ => none

example : ((ofText "a/./b/").parent?.map text, (ofText "a").parent?.map text,
    (ofText "/").parent?.map text) = (some "a", some "", none) := by decide +kernel

example : (extension? "a.b.json", extension? ".json", extension? "json") =
    (some "json", none, none) := by decide +kernel

end Path
end MockScaffold
