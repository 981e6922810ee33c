namespace MockScaffold.Keyed

variable {α : Type}

/-- The keys are in ascending order, each once. -/
def Ascending (entries : List (String × α)) : Prop :=
  entries.Pairwise fun a b => a.1 < b.1

instance (entries : List (String × α)) : Decidable (Ascending entries) :=
  inferInstanceAs (Decidable (List.Pairwise _ _))

/-- The value of the first entry with a key. -/
def lookup? (key : String) : List (String × α) → Option α
  | [] => none
  | (other, value) :: rest => if other = key then some value else lookup? key rest

/-- The entries without those of a key. -/
def erase (key : String) (entries : List (String × α)) : List (String × α) :=
  entries.filter fun (other, _) => other ≠ key

/-- Sets the value of a key among ascending entries. -/
def insert (key : String) (value : α) : List (String × α) → List (String × α)
  | [] => [(key, value)]
  | (other, old) :: rest =>
    if key < other then (key, value) :: (other, old) :: rest
    else if key = other then (key, value) :: rest
    else (other, old) :: insert key value rest

/-- Sets the value of a key where it stands, or behind all entries. -/
def put (key : String) (value : α) : List (String × α) → List (String × α)
  | [] => [(key, value)]
  | (other, old) :: rest =>
    if other = key then (key, value) :: rest else (other, old) :: put key value rest

theorem mem_insert {key : String} {value : α} {entries : List (String × α)}
    {entry : String × α} (h : entry ∈ insert key value entries) :
    entry = (key, value) ∨ entry ∈ entries := by
  fun_induction insert key value entries with
  | case1 => simpa using h
  | case2 => simpa using h
  | case3 =>
    simp only [List.mem_cons] at h ⊢
    exact h.imp_right .inr
  | case4 _ _ _ _ _ ih =>
    simp only [List.mem_cons] at h ⊢
    rcases h with h | h
    · exact .inr (.inl h)
    · exact (ih h).imp_right .inr

/-- Setting a key keeps the keys in ascending order, each once. -/
theorem Ascending.insert {entries : List (String × α)} (h : Ascending entries) (key : String)
    (value : α) : Ascending (insert key value entries) := by
  unfold Ascending at *
  fun_induction Keyed.insert key value entries with
  | case1 => simp
  | case2 other old rest before =>
    refine List.pairwise_cons.2 ⟨fun entry member => ?_, h⟩
    rcases List.mem_cons.1 member with rfl | member
    · exact before
    · exact String.lt_trans before ((List.pairwise_cons.1 h).1 entry member)
  | case3 => simpa using h
  | case4 other old rest notBefore different ih =>
    have ⟨first, later⟩ := List.pairwise_cons.1 h
    refine List.pairwise_cons.2 ⟨fun entry member => ?_, ih later⟩
    rcases mem_insert member with rfl | member
    · exact Std.lt_of_le_of_ne (String.not_lt.1 notBefore) (Ne.symm different)
    · exact first entry member

end MockScaffold.Keyed
