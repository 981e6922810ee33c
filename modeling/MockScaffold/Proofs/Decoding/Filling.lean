import MockScaffold.Proofs.Decoding.Values

namespace MockScaffold.Decoding
open Json (Document)

variable {ρ α : Type}

/-- Whatever the field is given, a record that has a property keeps it. -/
def Field.Keeps (field : Field ρ) (P : ρ → Prop) : Prop :=
  ∀ document set, field.decode document = .ok set → ∀ record, P record → P (set record)

theorem Field.Keeps.of_found {name : String} {required : Bool} {decode : Decoder α}
    {set : α → ρ → ρ} {P : ρ → Prop}
    (keeps : ∀ document a, decode document = .ok a → ∀ record, P record → P (set a record)) :
    (⟨name, required, fun document => (decode document).map set⟩ : Field ρ).Keeps P := by
  intro document change decoded record holds
  obtain ⟨a, found, rfl⟩ := map_eq_ok_iff.1 decoded
  exact keeps document a found record holds

/-- What each field keeps, all of them keep. -/
theorem fill_keeps {P : ρ → Prop} {get : String → Option Document} {fields : List (Field ρ)}
    (keeps : ∀ field ∈ fields, field.Keeps P) {record r : ρ} (holds : P record)
    (filled : fill get fields record = .ok r) : P r := by
  induction fields generalizing record with
  | nil =>
    cases filled
    exact holds
  | cons field fields ih =>
    obtain ⟨first, others⟩ := List.forall_mem_cons.1 keeps
    cases given : get field.name with
    | none =>
      rw [fill_absent given] at filled
      exact ih others holds filled
    | some document =>
      rw [fill_given given, bind_eq_ok_iff] at filled
      obtain ⟨set, decoded, filled⟩ := filled
      exact ih others (first document set decoded record holds) filled

/-- What a field is given besides does not count for the fields of other names. -/
theorem fill_front {field : Field ρ} {fields : List (Field ρ)}
    (others : ∀ other ∈ fields, field.name ≠ other.name) (own : Option Document)
    (needed : field.required = true → own ≠ none) {get : String → Option Document}
    (complete : ∀ other ∈ fields, other.required = true → get other.name ≠ none) {start r : ρ}
    (filled : fill get fields start = .ok r) :
    ∃ get, (∀ other ∈ field :: fields, other.required = true → get other.name ≠ none) ∧
      get field.name = own ∧ fill get fields start = .ok r := by
  have elsewhere : ∀ other ∈ fields,
      (if field.name = other.name then own else get other.name) = get other.name :=
    fun other among => if_neg (others other among)
  refine ⟨fun name => if field.name = name then own else get name, ?_, if_pos rfl, ?_⟩
  · refine List.forall_mem_cons.2 ⟨by simpa using needed, fun other among => ?_⟩
    simpa only [elsewhere other among] using complete other among
  · rw [← filled]
    exact fill_congr elsewhere start

/-- A record written as a list is filled from some assignment of documents to its fields. -/
theorem fill_of_elements {shape : Shape ρ} {fields : List (Field ρ)}
    (distinct : fields.Pairwise fun f g => f.name ≠ g.name) {size index : Nat}
    {fault : Option Json.Fault} {elements : List Document} {record r : ρ}
    (decoded : shape.ofElements size fault index record fields elements = .ok r) :
    ∃ get, (∀ field ∈ fields, field.required = true → get field.name ≠ none) ∧
      fill get fields record = .ok r := by
  induction fields generalizing record index elements with
  | nil =>
    cases elements with
    | nil =>
      obtain ⟨_, -, same⟩ := bind_eq_ok_iff.1 decoded
      exact ⟨fun _ => none, by simp, same⟩
    | cons document documents => cases decoded
  | cons field fields ih =>
    obtain ⟨others, distinct⟩ := List.pairwise_cons.1 distinct
    cases elements with
    | nil =>
      obtain ⟨_, -, decoded⟩ := bind_eq_ok_iff.1 decoded
      -- The list ends here: only fields that need not be given may be left.
      by_cases required : field.required = true
      · rw [if_pos required] at decoded
        cases decoded
      · rw [if_neg required] at decoded
        obtain ⟨get, complete, filled⟩ := ih distinct decoded
        obtain ⟨get, complete, absent, filled⟩ :=
          fill_front others none (fun isRequired => absurd isRequired required) complete
            filled
        exact ⟨get, complete, (fill_absent absent fields record).trans filled⟩
    | cons document documents =>
      obtain ⟨set, given, decoded⟩ := bind_eq_ok_iff.1 decoded
      obtain ⟨get, complete, filled⟩ := ih distinct decoded
      obtain ⟨get, complete, stated, filled⟩ :=
        fill_front others (some document) (by simp) complete filled
      refine ⟨get, complete, ?_⟩
      rw [fill_given stated, given]
      exact filled

/-- However a record is written, it is filled with what its fields are given. -/
theorem fill_of_decoded {shape : Shape ρ} (regular : Regular shape.fields) {document : Document}
    {record : ρ} (decoded : shape.decode document = .ok record) :
    ∃ get, shape.Complete get ∧ fill get shape.fields shape.blank = .ok record := by
  revert decoded
  fun_cases Shape.decode shape document with
  | case1 members fault =>
    intro decoded
    obtain ⟨-, -, complete, filled⟩ := (ofMembers_eq_ok_iff regular).1 decoded
    exact ⟨_, complete, filled⟩
  | case2 elements fault => exact fill_of_elements regular.distinct
  | case3 document => exact fun decoded => absurd decoded (reject_ne_ok _ _ _)

/-- A property of the blank record that each field keeps holds of all that is decoded. -/
theorem decode_keeps {shape : Shape ρ} (regular : Regular shape.fields) {P : ρ → Prop}
    (blank : P shape.blank) (keeps : ∀ field ∈ shape.fields, field.Keeps P) {document : Document}
    {record : ρ} (decoded : shape.decode document = .ok record) : P record := by
  obtain ⟨get, -, filled⟩ := fill_of_decoded regular decoded
  exact fill_keeps keeps blank filled

/-- A required last field is set last of all, to what its document decodes to. -/
theorem decode_last {shape : Shape ρ} (regular : Regular shape.fields) (front : List (Field ρ))
    {name : String} {decode : Decoder α} {set : α → ρ → ρ}
    (fields : shape.fields = front ++ [Field.needed name decode set]) {document : Document}
    {record : ρ} (decoded : shape.decode document = .ok record) :
    ∃ stated a rest, decode stated = .ok a ∧ set a rest = record := by
  obtain ⟨get, complete, filled⟩ := fill_of_decoded regular decoded
  have required : get name ≠ none :=
    complete (Field.needed name decode set) (by simp [fields]) rfl
  obtain ⟨stated, given⟩ := Option.ne_none_iff_exists'.1 required
  rw [fields, fill_append, bind_eq_ok_iff] at filled
  obtain ⟨rest, -, filled⟩ := filled
  rw [@fill_given ρ get (Field.needed name decode set) stated given, bind_eq_ok_iff] at filled
  obtain ⟨change, found, same⟩ := filled
  obtain ⟨a, read, rfl⟩ := map_eq_ok_iff.1 found
  exact ⟨stated, a, rest, read, Except.ok.inj same⟩

section
variable {members : List (String × Json)} {name : String} {decode : Decoder α} {required : Bool}
  {set : α → ρ → ρ} {fields : List (Field ρ)} {record r : ρ}

/-- A field that members state is set. -/
theorem fill_stated {value : Json} (found : Keyed.lookup? name members = some value) {a : α}
    (decoded : ofJson decode value = .ok a)
    (rest : fill (given? members) fields (set a record) = .ok r) :
    fill (given? members) (⟨name, required, fun document => (decode document).map set⟩ :: fields)
      record = .ok r :=
  fill_cons_iff.2 (.inr ⟨value, a, found, decoded, rest⟩)

/-- A field that they do not state stays. -/
theorem fill_unstated (absent : Keyed.lookup? name members = none)
    (rest : fill (given? members) fields record = .ok r) :
    fill (given? members) (⟨name, required, fun document => (decode document).map set⟩ :: fields)
      record = .ok r :=
  fill_cons_iff.2 (.inl ⟨absent, rest⟩)

end

/-- The names of the fields that must be given. -/
def Shape.required (shape : Shape ρ) : List String :=
  (shape.fields.filter (·.required)).map (·.name)

/-- An object that states each of its keys once, and all that is required, decodes to what fills the
record. -/
theorem ofJson_object_of_fill {shape : Shape ρ} (regular : Regular shape.fields)
    {members : List (String × Json)} (names : List String) (keys : members.map (·.1) = names)
    (distinct : names.Nodup) (complete : shape.required ⊆ names) {record : ρ}
    (filled : fill (given? members) shape.fields shape.blank = .ok record) :
    ofJson shape.decode (.object members) = .ok record := by
  subst keys
  refine (ofJson_object_eq_ok_iff regular).2 ⟨List.Pairwise.filter _ distinct, ?_, filled⟩
  intro field isField required absent
  rw [given?_eq_none_iff, Keyed.lookup?_eq_none_iff] at absent
  exact absent (complete (List.mem_map_of_mem (List.mem_filter.2 ⟨isField, required⟩)))

theorem ofJson_string (text : String) : ofJson string (.string text) = .ok text := rfl

theorem ofJson_boolean (word : Bool) : ofJson boolean (.boolean word) = .ok word := rfl

theorem ofJson_optional_string (text : String) :
    ofJson (optional string) (.string text) = .ok (some text) := rfl

/-- A list of values that decode one by one decodes. -/
theorem ofJson_list_map {α : Type} {decode : Decoder α} {write : α → Json} {values : List α}
    (decodes : ∀ a ∈ values, ofJson decode (write a) = .ok a) :
    ofJson (list decode) (.array (values.map write)) = .ok values := by
  refine ofJson_list_eq_ok_iff.2 ⟨_, rfl, List.forall₂_map_left_iff.2 ?_⟩
  exact List.forall₂_same.2 decodes

end MockScaffold.Decoding
