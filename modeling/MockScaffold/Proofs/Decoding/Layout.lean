import MockScaffold.Proofs.Decoding.Values

namespace MockScaffold.Decoding
open Json (Document Fault Key)

variable {ρ : Type} {shape : Shape ρ} {members members' : List (Key × Document)}

theorem field?_eq_none_iff {name : String} :
    shape.field? name = none ↔ name ∉ shape.fields.map (·.name) := by
  simp [Shape.field?]

theorem Shape.Readable.perm (readable : shape.Readable [] members)
    (order : members.Perm members') : shape.Readable [] members' := by
  obtain ⟨passable, once, -⟩ := readable_iff.1 readable
  have stated : (shape.stated members).Perm (shape.stated members') := order.filterMap _
  refine readable_iff.2 ⟨fun member among => ?_, stated.nodup_iff.1 once, by simp⟩
  exact passable member (order.mem_iff.2 among)

/-- Among readable members, what a field is given can be told without looking at the order. -/
theorem Shape.Readable.member?_eq_some_iff {given : List String}
    (readable : shape.Readable given members) {name : String} (isField : shape.field? name ≠ none)
    {document : Document} :
    member? name members = some document ↔ (.ok name, document) ∈ members := by
  induction members generalizing given with
  | nil => simp [member?]
  | cons member members ih =>
    obtain ⟨key, first⟩ := member
    cases key with
    | error fault => cases readable
    | ok other =>
      obtain ⟨before, rest⟩ := readable.tail
      rw [member?, List.mem_cons]
      by_cases same : other = name
      · subst same
        have last := (readable.field isField).2.member?_eq_none List.mem_cons_self isField
        have later : (.ok other, document) ∉ members := by
          rw [← ih rest, last]
          exact (Option.some_ne_none document).symm
        simp [later, eq_comm]
      · simp [same, Ne.symm same, ih rest]

/-- So the order does not count. -/
theorem Shape.Readable.member?_perm (readable : shape.Readable [] members)
    (order : members.Perm members') {name : String} (isField : shape.field? name ≠ none) :
    member? name members' = member? name members := by
  refine Option.ext fun document => ?_
  rw [readable.member?_eq_some_iff isField, (readable.perm order).member?_eq_some_iff isField,
    order.mem_iff]

theorem Shape.Readable.given_cons {given : List String} (readable : shape.Readable given members)
    {name : String} (isField : shape.field? name ≠ none) (absent : member? name members = none) :
    shape.Readable (name :: given) members := by
  obtain ⟨passable, once, apart⟩ := readable_iff.1 readable
  refine readable_iff.2 ⟨passable, once, List.disjoint_cons_left.2 ⟨?_, apart⟩⟩
  intro stated
  obtain ⟨⟨key, document⟩, among, named⟩ := List.mem_filterMap.1 stated
  obtain ⟨found, -⟩ := Option.filter_eq_some_iff.1 named
  obtain rfl : key = .ok name := by
    cases key with
    | error fault => cases found
    | ok other => exact congrArg _ (Option.some.inj found)
  rw [(readable.member?_eq_some_iff isField).2 among] at absent
  cases absent

section
variable {fault : Option Fault} {record : ρ}

theorem Shape.Complete.mono {get other : String → Option Document} (complete : shape.Complete get)
    (given : ∀ field ∈ shape.fields, get field.name ≠ none → other field.name ≠ none) :
    shape.Complete other :=
  fun field isField required => given field isField (complete field isField required)

/-- Members in another order give the same record. -/
theorem ofMembers_perm (regular : Regular shape.fields) (order : members.Perm members')
    (stated : shape.ofMembers members fault = .ok record) :
    shape.ofMembers members' fault = .ok record := by
  rw [ofMembers_eq_ok_iff regular] at stated ⊢
  obtain ⟨readable, noFault, complete, filled⟩ := stated
  have same (field : Field ρ) (isField : field ∈ shape.fields) :
      member? field.name members' = member? field.name members :=
    readable.member?_perm order (field?_ne_none isField)
  refine ⟨readable.perm order, noFault, complete.mono fun field isField => ?_,
    (fill_congr same _).trans filled⟩
  exact (same field isField).symm ▸ id

/-- A member that no field takes may stand in front, if it can be passed over. -/
theorem ofMembers_cons_unknown (regular : Regular shape.fields) {name : String}
    (unknown : shape.field? name = none) {document : Document} (passable : document.skip = .ok ())
    (stated : shape.ofMembers members fault = .ok record) :
    shape.ofMembers ((.ok name, document) :: members) fault = .ok record := by
  rw [ofMembers_eq_ok_iff regular] at stated ⊢
  obtain ⟨readable, noFault, complete, filled⟩ := stated
  have same (field : Field ρ) (isField : field ∈ shape.fields) :
      member? field.name ((.ok name, document) :: members) = member? field.name members := by
    rw [member?, if_neg (name_ne_of_field?_none unknown isField)]
  refine ⟨?_, noFault, complete.mono fun field isField => ?_, (fill_congr same _).trans filled⟩
  · rw [Shape.Readable, unknown]
    exact ⟨passable, readable⟩
  · exact (same field isField).symm ▸ id

/-- A field that was left out may be given what leaves the blank record as it is. -/
theorem ofMembers_cons_idle (regular : Regular shape.fields) {field : Field ρ}
    (isField : field ∈ shape.fields) (absent : member? field.name members = none)
    {document : Document} {set : ρ → ρ} (decoded : field.decode document = .ok set)
    (idle : set shape.blank = shape.blank)
    (stated : shape.ofMembers members fault = .ok record) :
    shape.ofMembers ((.ok field.name, document) :: members) fault = .ok record := by
  rw [ofMembers_eq_ok_iff regular] at stated ⊢
  obtain ⟨readable, noFault, complete, filled⟩ := stated
  have known := field?_ne_none isField
  refine ⟨?_, noFault, complete.mono fun other _ given => ?_, ?_⟩
  · rw [Shape.Readable, regular.field?_eq isField]
    exact ⟨List.not_mem_nil, readable.given_cons known absent⟩
  · rw [member?]
    split
    · exact Option.some_ne_none document
    · exact given
  · have inTurn : fill (fun name => member? name members) shape.fields (set shape.blank) =
        fill (fun name => member? name ((.ok field.name, document) :: members)) shape.fields
          shape.blank := fill_set regular isField absent decoded shape.blank
    rw [← inTurn, idle]
    exact filled

/-- A field may be given another document that decodes to the same. -/
theorem ofMembers_cons_refined (regular : Regular shape.fields) {field : Field ρ}
    (isField : field ∈ shape.fields) {document document' : Document}
    (refines : field.Refines document document')
    (stated : shape.ofMembers ((.ok field.name, document) :: members) fault = .ok record) :
    shape.ofMembers ((.ok field.name, document') :: members) fault = .ok record := by
  rw [ofMembers_eq_ok_iff regular] at stated ⊢
  obtain ⟨readable, noFault, complete, filled⟩ := stated
  refine ⟨?_, noFault, complete.mono fun other _ given => ?_,
    fill_mono (fun other among => ?_) filled⟩
  · rw [Shape.Readable, regular.field?_eq isField] at readable ⊢
    exact readable
  · change member? other.name ((.ok field.name, document) :: members) ≠ none at given
    rw [member?] at given ⊢
    split
    · exact Option.some_ne_none document'
    · rwa [if_neg ‹_›] at given
  · rw [member?, member?]
    by_cases same : field = other
    · subst same
      rw [if_pos rfl, if_pos rfl]
      exact .some refines
    · rw [if_neg (regular.name_ne isField among same), if_neg (regular.name_ne isField among same)]
      cases member? other.name members with
      | none => exact .none
      | some document => exact .some fun set decoded => decoded

end

end MockScaffold.Decoding
