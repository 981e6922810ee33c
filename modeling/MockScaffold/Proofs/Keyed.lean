import MockScaffold.Keyed

namespace MockScaffold.Keyed

variable {α β : Type}

theorem lookup?_insert (key other : String) (value : α) (entries : List (String × α)) :
    lookup? other (insert key value entries) =
      if key = other then some value else lookup? other entries := by
  fun_induction insert key value entries with
  | case1 => rfl
  | case2 => rfl
  | case3 old rest notBefore =>
    simp only [lookup?]
    split <;> rfl
  | case4 head old rest notBefore different ih =>
    simp only [lookup?, ih]
    by_cases found : head = other
    · have unequal : key ≠ other := fun same => different (same.trans found.symm)
      simp [found, unequal]
    · simp [found]

theorem lookup?_put (key other : String) (value : α) (entries : List (String × α)) :
    lookup? other (put key value entries) =
      if key = other then some value else lookup? other entries := by
  fun_induction put key value entries with
  | case1 => rfl
  | case2 => rw [lookup?, lookup?]; split <;> rfl
  | case3 head old rest different ih =>
    rw [lookup?, lookup?, ih]
    by_cases found : head = other
    · have unequal : key ≠ other := fun same => different (found.trans same.symm)
      simp [found, unequal]
    · simp [found]

theorem lookup?_erase (key other : String) (entries : List (String × α)) :
    lookup? other (erase key entries) = if key = other then none else lookup? other entries := by
  induction entries with
  | nil => simp [erase, lookup?]
  | cons entry rest ih =>
    obtain ⟨head, value⟩ := entry
    by_cases erased : head = key
    · subst erased
      have dropped : erase head ((head, value) :: rest) = erase head rest := by simp [erase]
      rw [dropped, ih, lookup?]
      split <;> rfl
    · have kept : erase key ((head, value) :: rest) = (head, value) :: erase key rest := by
        simp [erase, erased]
      rw [kept, lookup?, lookup?, ih]
      by_cases found : head = other
      · have unequal : key ≠ other := fun same => erased (found.trans same.symm)
        simp [found, unequal]
      · simp [found]

theorem lookup?_eq_none_iff {key : String} {entries : List (String × α)} :
    lookup? key entries = none ↔ key ∉ entries.map (·.1) := by
  induction entries with
  | nil => simp [lookup?]
  | cons entry entries ih =>
    obtain ⟨other, value⟩ := entry
    by_cases same : other = key
    · simp [lookup?, same]
    · simp [lookup?, same, Ne.symm same, ih]

theorem mem_of_lookup? {key : String} {value : α} {entries : List (String × α)}
    (found : lookup? key entries = some value) : (key, value) ∈ entries := by
  induction entries with
  | nil => cases found
  | cons entry entries ih =>
    obtain ⟨other, first⟩ := entry
    rw [lookup?] at found
    split at found
    · rename_i same
      rw [same, Option.some.inj found]
      exact List.mem_cons_self
    · exact List.mem_cons_of_mem _ (ih found)

/-- The value of a key is that of its first entry. -/
theorem lookup?_eq_some_iff {key : String} {value : α} {entries : List (String × α)} :
    lookup? key entries = some value ↔
      ∃ before after, entries = before ++ (key, value) :: after ∧
        ∀ entry ∈ before, entry.1 ≠ key := by
  constructor
  · intro found
    induction entries with
    | nil => cases found
    | cons entry entries ih =>
      obtain ⟨other, first⟩ := entry
      rw [lookup?] at found
      split at found
      · rename_i same
        rw [same, Option.some.inj found]
        exact ⟨[], entries, rfl, by simp⟩
      · rename_i different
        obtain ⟨before, after, rfl, earlier⟩ := ih found
        exact ⟨(other, first) :: before, after, rfl, List.forall_mem_cons.2 ⟨different, earlier⟩⟩
  · rintro ⟨before, after, rfl, earlier⟩
    induction before with
    | nil => exact if_pos rfl
    | cons entry before ih =>
      obtain ⟨different, earlier⟩ := List.forall_mem_cons.1 earlier
      exact (if_neg different).trans (ih earlier)

/-- If no key occurs twice, the value of a key is that of its only entry. -/
theorem lookup?_eq_some_iff_mem {key : String} {value : α} {entries : List (String × α)}
    (nodup : (entries.map (·.1)).Nodup) :
    lookup? key entries = some value ↔ (key, value) ∈ entries := by
  refine ⟨mem_of_lookup?, fun among => ?_⟩
  induction entries with
  | nil => cases among
  | cons entry entries ih =>
    obtain ⟨other, first⟩ := entry
    obtain ⟨fresh, nodup⟩ := List.nodup_cons.1 nodup
    rcases List.mem_cons.1 among with same | among
    · cases same
      exact if_pos rfl
    · have different : other ≠ key := by
        rintro rfl
        exact fresh (List.mem_map.2 ⟨_, among, rfl⟩)
      exact (if_neg different).trans (ih nodup among)

/-- Where every key is there once, the order is of no account. -/
theorem lookup?_perm {entries entries' : List (String × α)} (order : entries.Perm entries')
    (nodup : (entries.map (·.1)).Nodup) (key : String) :
    lookup? key entries' = lookup? key entries := by
  have nodup' : (entries'.map (·.1)).Nodup := (order.map _).nodup_iff.1 nodup
  refine Option.ext fun value => ?_
  rw [lookup?_eq_some_iff_mem nodup, lookup?_eq_some_iff_mem nodup', order.mem_iff]

theorem insert_map (f : α → β) (key : String) (value : α) (entries : List (String × α)) :
    insert key (f value) (entries.map fun (other, value) => (other, f value)) =
      (insert key value entries).map fun (other, value) => (other, f value) := by
  induction entries with
  | nil => rfl
  | cons entry rest ih =>
    rw [List.map_cons, insert, insert]
    split
    · rfl
    · split
      · rfl
      · rw [ih, List.map_cons]

/-- A key behind all others goes to the end. -/
theorem insert_last {key : String} {entries : List (String × α)}
    (last : ∀ entry ∈ entries, entry.1 < key) (value : α) :
    insert key value entries = entries ++ [(key, value)] := by
  induction entries with
  | nil => rfl
  | cons entry rest ih =>
    obtain ⟨first, others⟩ := List.forall_mem_cons.1 last
    have notBefore : ¬ key < entry.1 := String.lt_asymm first
    have different : key ≠ entry.1 := by
      rintro same
      rw [same] at first
      exact String.lt_irrefl _ first
    rw [insert, if_neg notBefore, if_neg different, ih others, List.cons_append]

theorem Ascending.nodup {entries : List (String × α)} (ascending : Ascending entries) :
    (entries.map (·.1)).Nodup := by
  rw [List.Nodup, List.pairwise_map]
  refine ascending.imp fun {a b} before same => ?_
  rw [same] at before
  exact String.lt_irrefl _ before

theorem Ascending.erase {entries : List (String × α)} (ascending : Ascending entries)
    (key : String) : Ascending (erase key entries) := List.Pairwise.filter _ ascending

/-- The entries, with the value of a key changed or its entry deleted. -/
def revise (key : String) (change : α → Option α) (entries : List (String × α)) :
    List (String × α) :=
  entries.filterMap fun (other, value) =>
    if other = key then (change value).map (other, ·) else some (other, value)

section
variable {key other : String} {change : α → Option α} {value : α} {entries : List (String × α)}

theorem revise_cons_same : revise key change ((key, value) :: entries) =
    ((change value).map (key, ·)).toList ++ revise key change entries := by
  cases changed : change value <;> simp [revise, changed]

theorem revise_cons_ne (different : other ≠ key) :
    revise key change ((other, value) :: entries) =
      (other, value) :: revise key change entries := by
  simp [revise, different]

/-- Revising may delete keys and adds none. -/
theorem keys_revise_sublist :
    List.Sublist ((revise key change entries).map (·.1)) (entries.map (·.1)) := by
  induction entries with
  | nil => exact .slnil
  | cons entry entries ih =>
    obtain ⟨other, value⟩ := entry
    by_cases same : other = key
    · subst same
      rw [revise_cons_same]
      cases change value with
      | none => exact ih.cons other
      | some value => exact ih.cons_cons other
    · rw [revise_cons_ne same]
      exact ih.cons_cons other

theorem lookup?_revise_ne (different : other ≠ key) :
    lookup? other (revise key change entries) = lookup? other entries := by
  induction entries with
  | nil => rfl
  | cons entry entries ih =>
    obtain ⟨head, value⟩ := entry
    by_cases same : head = key
    · subst same
      rw [revise_cons_same, lookup?, if_neg different.symm]
      cases change value with
      | none => exact ih
      | some value => exact (if_neg different.symm).trans ih
    · rw [revise_cons_ne same, lookup?, lookup?, ih]

/-- The revised key has its changed value, or none. -/
theorem lookup?_revise (nodup : (entries.map (·.1)).Nodup) :
    lookup? key (revise key change entries) = (lookup? key entries).bind change := by
  induction entries with
  | nil => rfl
  | cons entry entries ih =>
    obtain ⟨head, value⟩ := entry
    obtain ⟨fresh, nodup⟩ := List.nodup_cons.1 nodup
    by_cases same : head = key
    · subst same
      rw [revise_cons_same, lookup?, if_pos rfl, Option.bind_some]
      cases change value with
      | none =>
        rw [Option.map_none, Option.toList_none, List.nil_append, ih nodup,
          lookup?_eq_none_iff.2 fresh, Option.bind_none]
      | some value => exact if_pos rfl
    · rw [revise_cons_ne same, lookup?, lookup?, if_neg same, if_neg same, ih nodup]

/-- A change that keeps the value of the key keeps the entries. -/
theorem revise_eq_self
    (kept : ∀ value, lookup? key entries = some value → change value = some value)
    (nodup : (entries.map (·.1)).Nodup) : revise key change entries = entries := by
  induction entries with
  | nil => rfl
  | cons entry entries ih =>
    obtain ⟨head, value⟩ := entry
    obtain ⟨fresh, nodup⟩ := List.nodup_cons.1 nodup
    by_cases same : head = key
    · subst same
      have absent : lookup? head entries = none := lookup?_eq_none_iff.2 fresh
      rw [revise_cons_same, kept value (if_pos rfl), ih (by simp [absent]) nodup]
      rfl
    · rw [revise_cons_ne same, ih (fun found => ?_) nodup]
      intro given
      exact kept found ((if_neg same).trans given)

theorem erase_revise : erase key (revise key change entries) = erase key entries := by
  induction entries with
  | nil => rfl
  | cons entry entries ih =>
    obtain ⟨head, value⟩ := entry
    by_cases same : head = key
    · subst same
      rw [revise_cons_same]
      cases change value <;> simpa [erase] using ih
    · rw [revise_cons_ne same]
      simpa [erase, same] using ih

theorem erase_cons_same : erase key ((key, value) :: entries) = erase key entries := by
  simp [erase]

theorem erase_cons_ne (different : other ≠ key) :
    erase key ((other, value) :: entries) = (other, value) :: erase key entries := by
  simp [erase, different]

theorem erase_eq_self (absent : key ∉ entries.map (·.1)) : erase key entries = entries := by
  refine List.filter_eq_self.2 fun entry among => ?_
  simpa using fun same : entry.1 = key => absent (same ▸ List.mem_map_of_mem among)

end

end MockScaffold.Keyed
