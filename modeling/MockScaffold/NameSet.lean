namespace MockScaffold

/-- A set of names, in ascending order, each once. -/
structure NameSet where
  names : List String
  ascending : names.Pairwise (· < ·)
  deriving DecidableEq

namespace NameSet

def empty : NameSet := ⟨[], .nil⟩

instance : Inhabited NameSet := ⟨empty⟩

instance : Membership String NameSet := ⟨fun set name => name ∈ set.names⟩

/-- Puts a name into an ascending list, unless it is there. -/
def place (name : String) : List String → List String
  | [] => [name]
  | other :: rest =>
    if name < other then name :: other :: rest
    else if name = other then other :: rest
    else other :: place name rest

@[simp] theorem mem_place {name other : String} {names : List String} :
    other ∈ place name names ↔ other = name ∨ other ∈ names := by
  fun_induction place name names with
  | case1 => simp
  | case2 => simp
  | case3 => simp
  | case4 _ _ _ _ ih =>
    simp only [List.mem_cons, ih]
    constructor
    · rintro (h | h | h) <;> simp [h]
    · rintro (h | h | h) <;> simp [h]

/-- Putting in a name keeps a list ascending. -/
theorem pairwise_place {name : String} {names : List String} (h : names.Pairwise (· < ·)) :
    (place name names).Pairwise (· < ·) := by
  fun_induction place name names with
  | case1 => simp
  | case2 other rest before =>
    refine List.pairwise_cons.2 ⟨fun third member => ?_, h⟩
    rcases List.mem_cons.1 member with rfl | member
    · exact before
    · exact String.lt_trans before ((List.pairwise_cons.1 h).1 third member)
  | case3 => exact h
  | case4 other rest notBefore different ih =>
    have ⟨first, later⟩ := List.pairwise_cons.1 h
    refine List.pairwise_cons.2 ⟨fun third member => ?_, ih later⟩
    rcases mem_place.1 member with rfl | member
    · exact Std.lt_of_le_of_ne (String.not_lt.1 notBefore) (Ne.symm different)
    · exact first third member

def insert (set : NameSet) (name : String) : NameSet :=
  ⟨place name set.names, pairwise_place set.ascending⟩

def insertAll (set : NameSet) (names : List String) : NameSet := names.foldl insert set

def ofList (names : List String) : NameSet := empty.insertAll names

theorem mem_def {name : String} {set : NameSet} : name ∈ set ↔ name ∈ set.names := Iff.rfl

@[simp] theorem not_mem_empty (name : String) : name ∉ empty := List.not_mem_nil

@[simp] theorem mem_insert {set : NameSet} {name other : String} :
    other ∈ set.insert name ↔ other = name ∨ other ∈ set := mem_place

@[simp] theorem mem_insertAll {set : NameSet} {names : List String} {other : String} :
    other ∈ set.insertAll names ↔ other ∈ names ∨ other ∈ set := by
  induction names generalizing set with
  | nil => simp [insertAll]
  | cons name names ih =>
    have := @ih (set.insert name)
    simp only [insertAll, List.foldl_cons, List.mem_cons] at this ⊢
    rw [this, mem_insert]
    constructor
    · rintro (h | h | h) <;> simp [h]
    · rintro ((h | h) | h) <;> simp [h]

@[simp] theorem mem_ofList {names : List String} {other : String} :
    other ∈ ofList names ↔ other ∈ names := by simp [ofList]

end NameSet
end MockScaffold
