import Mathlib.Data.List.Pairwise
import MockScaffold.Decoding.Record
import MockScaffold.Proofs.Outcomes

/-!
A record that is written as an object depends only on what each of its fields
is given, not on the order of the members: it is the record that one gets by
going through the fields in the order of their declaration and looking each up.
This holds of every shape whose fields have different names and do not touch
each other.
-/

namespace MockScaffold.Decoding
open Json (Document Fault Key SyntaxError)

variable {ρ : Type}

/-- Two fields change a record in the same way in either order. -/
def Field.Commutes (f g : Field ρ) : Prop :=
  ∀ d e s t, f.decode d = .ok s → g.decode e = .ok t → ∀ r, s (t r) = t (s r)

/-- The fields have different names and do not touch each other. -/
structure Regular (fields : List (Field ρ)) : Prop where
  distinct : fields.Pairwise fun f g => f.name ≠ g.name
  commute : fields.Pairwise Field.Commutes

theorem Regular.tail {field : Field ρ} {fields : List (Field ρ)}
    (regular : Regular (field :: fields)) : Regular fields :=
  ⟨(List.pairwise_cons.1 regular.distinct).2, (List.pairwise_cons.1 regular.commute).2⟩

theorem Field.Commutes.symm {f g : Field ρ} (commutes : f.Commutes g) : g.Commutes f :=
  fun d e s t decodes stated r => (commutes e d t s stated decodes r).symm

/-- Fields commute if the functions that set them do. -/
theorem Field.Commutes.of_sets {α β : Type} {name name' : String}
    {required required' : Bool} {decode : Decoder α} {decode' : Decoder β} {set : α → ρ → ρ}
    {set' : β → ρ → ρ} (swap : ∀ a b r, set a (set' b r) = set' b (set a r)) :
    Field.Commutes (⟨name, required, fun document => (decode document).map set⟩ : Field ρ)
      ⟨name', required', fun document => (decode' document).map set'⟩ := by
  intro d e s t decoded other r
  obtain ⟨a, -, rfl⟩ := map_eq_ok_iff.1 decoded
  obtain ⟨b, -, rfl⟩ := map_eq_ok_iff.1 other
  exact swap a b r

theorem Regular.commutes {fields : List (Field ρ)} (regular : Regular fields) {f g : Field ρ}
    (isField : f ∈ fields) (among : g ∈ fields) (different : f ≠ g) : f.Commutes g := by
  have : Std.Symm (@Field.Commutes ρ) := ⟨fun _ _ => Field.Commutes.symm⟩
  exact regular.commute.forall isField among different

theorem Regular.name_ne {fields : List (Field ρ)} (regular : Regular fields) {f g : Field ρ}
    (isField : f ∈ fields) (among : g ∈ fields) (different : f ≠ g) : f.name ≠ g.name := by
  have : Std.Symm fun f g : Field ρ => f.name ≠ g.name := ⟨fun _ _ => Ne.symm⟩
  exact regular.distinct.forall isField among different

/-- What the first member with a name is given. -/
def member? (name : String) : List (Key × Document) → Option Document
  | [] => none
  | (.error _, _) :: members => member? name members
  | (.ok key, document) :: members => if key = name then some document else member? name members

/-- Every key can be read, no field is given twice or is among those `given` already, and what is
passed over ends where it should. -/
def Shape.Readable (shape : Shape ρ) (given : List String) : List (Key × Document) → Prop
  | [] => True
  | (.error _, _) :: _ => False
  | (.ok name, document) :: members =>
    match shape.field? name with
    | none => document.skip = .ok () ∧ shape.Readable given members
    | some _ => name ∉ given ∧ shape.Readable (name :: given) members

/-- A member has a key that can be read, and a value that can be passed over if no field takes
it. -/
def Shape.Passable (shape : Shape ρ) (member : Key × Document) : Prop :=
  ∃ name, member.1 = .ok name ∧ (shape.field? name = none → member.2.skip = .ok ())

/-- The names of fields that members state, in order. -/
def Shape.stated (shape : Shape ρ) (members : List (Key × Document)) : List String :=
  members.filterMap fun member =>
    member.1.toOption.filter fun name => (shape.field? name).isSome

/-- The record that results from going through fields and looking each up. -/
def fill (get : String → Option Document) : List (Field ρ) → ρ → Except DecodeError ρ
  | [], record => .ok record
  | field :: fields, record =>
    match get field.name with
    | none => fill get fields record
    | some document => do
      let set ← field.decode document
      fill get fields (set record)

theorem fill_nil (get : String → Option Document) (record : ρ) : fill get [] record = .ok record :=
  rfl

theorem fill_absent {get : String → Option Document} {field : Field ρ}
    (absent : get field.name = none) (fields : List (Field ρ)) (record : ρ) :
    fill get (field :: fields) record = fill get fields record := by
  rw [fill, absent]

theorem fill_given {get : String → Option Document} {field : Field ρ} {document : Document}
    (given : get field.name = some document) (fields : List (Field ρ)) (record : ρ) :
    fill get (field :: fields) record =
      field.decode document >>= fun set => fill get fields (set record) := by
  rw [fill, given]

theorem fill_none {get : String → Option Document} {fields : List (Field ρ)}
    (absent : ∀ field ∈ fields, get field.name = none) (record : ρ) :
    fill get fields record = .ok record := by
  induction fields with
  | nil => rfl
  | cons field fields ih =>
    obtain ⟨first, rest⟩ := List.forall_mem_cons.1 absent
    rw [fill_absent first]
    exact ih rest

/-- Fields are filled from the first to the last. -/
theorem fill_append (get : String → Option Document) (front back : List (Field ρ)) (record : ρ) :
    fill get (front ++ back) record = fill get front record >>= fill get back := by
  induction front generalizing record with
  | nil => rfl
  | cons field front ih =>
    rw [List.cons_append]
    cases given : get field.name with
    | none =>
      rw [fill_absent given, fill_absent given]
      exact ih record
    | some document =>
      rw [fill_given given, fill_given given]
      cases field.decode document with
      | error e => rfl
      | ok set => exact ih (set record)

/-- Only what is looked up for the fields themselves counts. -/
theorem fill_congr {get other : String → Option Document} {fields : List (Field ρ)}
    (same : ∀ field ∈ fields, get field.name = other field.name) (record : ρ) :
    fill get fields record = fill other fields record := by
  induction fields generalizing record with
  | nil => rfl
  | cons field fields ih =>
    obtain ⟨first, rest⟩ := List.forall_mem_cons.1 same
    cases given : other field.name with
    | none =>
      rw [fill_absent given, fill_absent (first.trans given)]
      exact ih rest record
    | some document =>
      rw [fill_given given, fill_given (first.trans given)]
      exact congrArg _ (funext fun set => ih rest (set record))

/-- The field decodes the other document to whatever it decodes the first to. -/
def Field.Refines (field : Field ρ) (document other : Document) : Prop :=
  ∀ set, field.decode document = .ok set → field.decode other = .ok set

/-- Documents that are decoded alike fill a record alike. -/
theorem fill_mono {get other : String → Option Document} {fields : List (Field ρ)}
    (refines : ∀ field ∈ fields, Option.Rel field.Refines (get field.name) (other field.name))
    {record r : ρ} (filled : fill get fields record = .ok r) :
    fill other fields record = .ok r := by
  induction fields generalizing record with
  | nil => exact filled
  | cons field fields ih =>
    obtain ⟨first, rest⟩ := List.forall_mem_cons.1 refines
    rcases rel_cases first with ⟨absent, absent'⟩ | ⟨document, document', given, given', refined⟩
    · rw [fill_absent absent] at filled
      rw [fill_absent absent']
      exact ih rest filled
    · rw [fill_given given, bind_eq_ok_iff] at filled
      obtain ⟨set, decoded, filled⟩ := filled
      rw [fill_given given', bind_eq_ok_iff]
      exact ⟨set, refined set decoded, ih rest filled⟩

/-- A change that commutes with all fields may be made before or after. -/
theorem fill_commute {get : String → Option Document} {fields : List (Field ρ)} {change : ρ → ρ}
    (commutes : ∀ field ∈ fields, ∀ d s, field.decode d = .ok s → ∀ r, change (s r) = s (change r))
    (record : ρ) : fill get fields (change record) = (fill get fields record).map change := by
  induction fields generalizing record with
  | nil => rfl
  | cons field fields ih =>
    obtain ⟨first, rest⟩ := List.forall_mem_cons.1 commutes
    cases given : get field.name with
    | none =>
      rw [fill_absent given, fill_absent given]
      exact ih rest record
    | some document =>
      rw [fill_given given, fill_given given]
      cases decoded : field.decode document with
      | error e => rfl
      | ok set =>
        have moved := ih rest (set record)
        rw [first document set decoded] at moved
        exact moved

/-- Setting a field first is the same as looking it up in its turn. -/
theorem fill_set {fields : List (Field ρ)} (regular : Regular fields) {field : Field ρ}
    (member : field ∈ fields) {get : String → Option Document} (absent : get field.name = none)
    {document : Document} {set : ρ → ρ} (decoded : field.decode document = .ok set) (record : ρ) :
    fill get fields (set record) =
      fill (fun name => if field.name = name then some document else get name) fields record := by
  induction fields generalizing record with
  | nil => cases member
  | cons first fields ih =>
    obtain ⟨otherNames, -⟩ := List.pairwise_cons.1 regular.distinct
    obtain ⟨commutes, -⟩ := List.pairwise_cons.1 regular.commute
    rcases List.mem_cons.1 member with rfl | later
    · have elsewhere : ∀ g ∈ fields,
          get g.name = if field.name = g.name then some document else get g.name := by
        intro g inside
        rw [if_neg (otherNames g inside)]
      rw [fill_absent absent, fill_given (if_pos rfl), decoded]
      exact fill_congr elsewhere (set record)
    · have different : field.name ≠ first.name := (otherNames field later).symm
      cases given : get first.name with
      | none =>
        rw [fill_absent given, fill_absent ((if_neg different).trans given)]
        exact ih regular.tail later record
      | some other =>
        rw [fill_given given, fill_given ((if_neg different).trans given)]
        cases decodedFirst : first.decode other with
        | error e => rfl
        | ok change =>
          have swapped := commutes field later other document change set decodedFirst decoded record
          have moved := ih regular.tail later (change record)
          rw [← swapped] at moved
          exact moved

/-! ## Reading members one after the other -/

section
variable {shape : Shape ρ}

theorem mem_of_field? {name : String} {field : Field ρ} (known : shape.field? name = some field) :
    field ∈ shape.fields ∧ field.name = name := by
  refine ⟨List.mem_of_find?_eq_some known, ?_⟩
  simpa using List.find?_some known

theorem field?_ne_none {field : Field ρ} (member : field ∈ shape.fields) :
    shape.field? field.name ≠ none := by
  intro unknown
  simpa using List.find?_eq_none.1 unknown field member

theorem Regular.field?_eq (regular : Regular shape.fields) {field : Field ρ}
    (isField : field ∈ shape.fields) : shape.field? field.name = some field := by
  cases found : shape.field? field.name with
  | none => exact absurd found (field?_ne_none isField)
  | some other =>
    obtain ⟨among, named⟩ := mem_of_field? found
    by_contra different
    exact regular.name_ne among isField (fun same => different (congrArg some same)) named

theorem name_ne_of_field?_none {name : String} (unknown : shape.field? name = none)
    {field : Field ρ} (member : field ∈ shape.fields) : name ≠ field.name := by
  rintro rfl
  exact field?_ne_none member unknown

theorem stated_unknown {name : String} (unknown : shape.field? name = none) (document : Document)
    (members : List (Key × Document)) :
    shape.stated ((.ok name, document) :: members) = shape.stated members := by
  refine List.filterMap_cons_none ?_
  simp [Except.toOption, unknown]

theorem stated_field {name : String} (isField : shape.field? name ≠ none) (document : Document)
    (members : List (Key × Document)) :
    shape.stated ((.ok name, document) :: members) = name :: shape.stated members := by
  refine List.filterMap_cons_some ?_
  simpa [Except.toOption, Option.isSome_iff_ne_none] using isField

/-- Whether members are readable does not depend on their order. -/
theorem readable_iff {given : List String} :
    shape.Readable given members ↔
      (∀ member ∈ members, shape.Passable member) ∧ (shape.stated members).Nodup ∧
        given.Disjoint (shape.stated members) := by
  fun_induction Shape.Readable shape given members with
  | case1 => simp [Shape.stated]
  | case2 => simp [Shape.Passable]
  | case3 given name document members unknown ih =>
    rw [ih, stated_unknown unknown, List.forall_mem_cons, and_assoc]
    simp [Shape.Passable, unknown]
  | case4 given name document members field known ih =>
    have isField : shape.field? name ≠ none := by simp [known]
    rw [ih, stated_field isField, List.forall_mem_cons, List.nodup_cons, List.disjoint_cons_left,
      List.disjoint_cons_right]
    have passable : shape.Passable (.ok name, document) :=
      ⟨name, rfl, fun unknown => absurd unknown isField⟩
    tauto

theorem Shape.Readable.field {name : String} (isField : shape.field? name ≠ none)
    {given : List String} {document : Document} {members : List (Key × Document)}
    (readable : shape.Readable given ((.ok name, document) :: members)) :
    name ∉ given ∧ shape.Readable (name :: given) members := by
  rw [Shape.Readable] at readable
  cases known : shape.field? name with
  | none => exact absurd known isField
  | some field =>
    rw [known] at readable
    exact readable

theorem Shape.Readable.tail {name : String} {given : List String} {document : Document}
    {members : List (Key × Document)}
    (readable : shape.Readable given ((.ok name, document) :: members)) :
    ∃ before, shape.Readable before members := by
  rw [Shape.Readable] at readable
  cases known : shape.field? name with
  | none =>
    rw [known] at readable
    exact ⟨given, readable.2⟩
  | some field =>
    rw [known] at readable
    exact ⟨name :: given, readable.2⟩

/-- A field given before is not given again. -/
theorem Shape.Readable.member?_eq_none {given : List String} {members : List (Key × Document)}
    (readable : shape.Readable given members) {name : String} (among : name ∈ given)
    (known : shape.field? name ≠ none) : member? name members = none := by
  fun_induction Shape.Readable shape given members with
  | case1 => rfl
  | case2 => cases readable
  | case3 given other document members unknown ih =>
    have different : other ≠ name := by
      rintro rfl
      exact known unknown
    rw [member?, if_neg different]
    exact ih readable.2 among
  | case4 given other document members field found ih =>
    have different : other ≠ name := by
      rintro rfl
      exact readable.1 among
    rw [member?, if_neg different]
    exact ih readable.2 (List.mem_cons_of_mem _ among)

/-- The names of fields that are given once members have been taken. -/
def Shape.known (shape : Shape ρ) (given : List String) : List (Key × Document) → List String
  | [] => given
  | (.error _, _) :: members => shape.known given members
  | (.ok name, _) :: members =>
    match shape.field? name with
    | none => shape.known given members
    | some _ => shape.known (name :: given) members

/-- After members have been taken, the fields given are those from before and those stated. -/
theorem Shape.mem_known_iff {given : List String} {members : List (Key × Document)} {name : String}
    (isField : shape.field? name ≠ none) :
    name ∈ shape.known given members ↔ name ∈ given ∨ member? name members ≠ none := by
  fun_induction Shape.known shape given members with
  | case1 => simp [member?]
  | case2 given fault document members ih =>
    rw [ih, member?]
  | case3 given other document members unknown ih =>
    have different : other ≠ name := by
      rintro rfl
      exact isField unknown
    rw [ih, member?, if_neg different]
  | case4 given other document members field found ih =>
    rw [ih, member?, List.mem_cons]
    by_cases same : other = name
    · simp [same]
    · simp [same, Ne.symm same]

/-- If a record could be filled, all that was given decodes. -/
theorem fill_decodes {get : String → Option Document} {fields : List (Field ρ)} {record r : ρ}
    (filled : fill get fields record = .ok r) {field : Field ρ} (member : field ∈ fields)
    {document : Document} (given : get field.name = some document) :
    ∃ set, field.decode document = .ok set := by
  induction fields generalizing record with
  | nil => cases member
  | cons first fields ih =>
    rcases List.mem_cons.1 member with rfl | later
    · rw [fill_given given, bind_eq_ok_iff] at filled
      obtain ⟨set, decoded, -⟩ := filled
      exact ⟨set, decoded⟩
    · cases other : get first.name with
      | none =>
        rw [fill_absent other] at filled
        exact ih filled later
      | some document =>
        rw [fill_given other, bind_eq_ok_iff] at filled
        obtain ⟨set, -, filled⟩ := filled
        exact ih filled later

/-- A member that no field takes is passed over. -/
theorem takeMember_unknown {name : String} (unknown : shape.field? name = none)
    (progress next : Shape.Progress ρ) (document : Document) :
    shape.takeMember progress (.ok name, document) = .ok next ↔
      document.skip = .ok () ∧ progress = next := by
  cases skipped : document.skip with
  | error e =>
    simp [Shape.takeMember, unlessMalformed, unknown, skipped, bind, Except.bind]
  | ok u =>
    simp [Shape.takeMember, unlessMalformed, unknown, skipped, bind, Except.bind, pure, Except.pure]

/-- A member for a field sets it, unless that was given before. -/
theorem takeMember_field {name : String} {field : Field ρ} (found : shape.field? name = some field)
    (record : ρ) (given : List String) (next : Shape.Progress ρ) (document : Document) :
    shape.takeMember ⟨record, given⟩ (.ok name, document) = .ok next ↔
      name ∉ given ∧
        ∃ set, field.decode document = .ok set ∧ ⟨set record, name :: given⟩ = next := by
  by_cases twice : name ∈ given
  · simp [Shape.takeMember, unlessMalformed, found, twice, bind, Except.bind]
  · cases decoded : field.decode document with
    | error e =>
      simp [Shape.takeMember, unlessMalformed, found, twice, decoded, bind, Except.bind]
    | ok set =>
      simp [Shape.takeMember, unlessMalformed, found, twice, decoded, bind, Except.bind, pure,
        Except.pure]

/-- Taking members one after the other is looking up each field among them. -/
theorem takeMembers_eq_ok_iff (regular : Regular shape.fields) (members : List (Key × Document))
    (record : ρ) (given : List String) (progress : Shape.Progress ρ) :
    members.foldlM shape.takeMember ⟨record, given⟩ = .ok progress ↔
      shape.Readable given members ∧
      fill (fun name => member? name members) shape.fields record = .ok progress.record ∧
      shape.known given members = progress.given := by
  induction members generalizing record given with
  | nil =>
    have nothing : fill (fun name => member? name []) shape.fields record = .ok record :=
      fill_none (fun _ _ => rfl) record
    obtain ⟨last, known⟩ := progress
    simp [Shape.Readable, Shape.known, nothing, pure, Except.pure]
  | cons member members ih =>
    obtain ⟨key, document⟩ := member
    rw [List.foldlM_cons, bind_eq_ok_iff]
    cases key with
    | error fault => simp [Shape.takeMember, unlessMalformed, Shape.Readable, bind, Except.bind]
    | ok name =>
      cases found : shape.field? name with
      | none =>
        have elsewhere : fill (fun other => member? other ((.ok name, document) :: members))
            shape.fields record =
              fill (fun other => member? other members) shape.fields record := by
          refine fill_congr (fun field isField => ?_) record
          rw [member?, if_neg (name_ne_of_field?_none found isField)]
        simp [takeMember_unknown found, ih, Shape.Readable, Shape.known, found, elsewhere,
          and_assoc]
      | some field =>
        obtain ⟨isField, rfl⟩ := mem_of_field? found
        have among : member? field.name ((.ok field.name, document) :: members) = some document :=
          if_pos rfl
        -- What the field does at its member it may as well do in its turn, as no later member is
        -- given its name.
        have inTurn (set : ρ → ρ) (decoded : field.decode document = .ok set)
            (readable : shape.Readable (field.name :: given) members) :
            fill (fun name => member? name members) shape.fields (set record) =
              fill (fun name => member? name ((.ok field.name, document) :: members))
                shape.fields record :=
          fill_set regular isField
            (readable.member?_eq_none List.mem_cons_self (field?_ne_none isField)) decoded record
        simp only [takeMember_field found, Shape.Readable, Shape.known, found]
        constructor
        · rintro ⟨next, ⟨fresh, set, decoded, rfl⟩, taken⟩
          obtain ⟨readable, filled, known⟩ := (ih _ _).1 taken
          rw [inTurn set decoded readable] at filled
          exact ⟨⟨fresh, readable⟩, filled, known⟩
        · rintro ⟨⟨fresh, readable⟩, filled, known⟩
          obtain ⟨set, decoded⟩ := fill_decodes filled isField among
          rw [← inTurn set decoded readable] at filled
          exact ⟨_, ⟨fresh, set, decoded, rfl⟩, (ih _ _).2 ⟨readable, filled, known⟩⟩

/-- Every field that must be given is. -/
def Shape.Complete (shape : Shape ρ) (get : String → Option Document) : Prop :=
  ∀ field ∈ shape.fields, field.required = true → get field.name ≠ none

/-- No field is missing exactly if all required ones are stated. -/
theorem missing?_eq_none_iff {members : List (Key × Document)} :
    shape.missing? (shape.known [] members) = none ↔
      shape.Complete fun name => member? name members := by
  rw [Shape.missing?, List.find?_eq_none]
  refine forall₂_congr fun field isField => ?_
  simp [Shape.mem_known_iff (field?_ne_none isField)]

theorem ended_eq_ok_iff {fault : Option Fault} : ended fault = .ok () ↔ fault = none := by
  cases fault with
  | none => simp [ended]
  | some fault => simp [ended]

/-- An object states a record exactly if it can be read, every field that must be given is, and
each field decodes. -/
theorem ofMembers_eq_ok_iff (regular : Regular shape.fields) {members : List (Key × Document)}
    {fault : Option Fault} {record : ρ} :
    shape.ofMembers members fault = .ok record ↔
      shape.Readable [] members ∧ fault = none ∧ shape.Complete (fun name => member? name members) ∧
      fill (fun name => member? name members) shape.fields shape.blank = .ok record := by
  rw [Shape.ofMembers, bind_eq_ok_iff]
  constructor
  · rintro ⟨⟨taken, given⟩, read, rest⟩
    obtain ⟨readable, filled, rfl⟩ := (takeMembers_eq_ok_iff regular _ _ _ _).1 read
    obtain ⟨_, noFault, rest⟩ := bind_eq_ok_iff.1 rest
    cases absent : shape.missing? (shape.known [] members) with
    | some field => simp [absent] at rest
    | none =>
      simp only [absent, pure, Except.pure, Except.ok.injEq] at rest
      rw [← rest]
      exact ⟨readable, ended_eq_ok_iff.1 noFault, missing?_eq_none_iff.1 absent, filled⟩
  · rintro ⟨readable, rfl, complete, filled⟩
    refine ⟨⟨record, shape.known [] members⟩,
      (takeMembers_eq_ok_iff regular _ _ _ _).2 ⟨readable, filled, rfl⟩, ?_⟩
    simp [ended, missing?_eq_none_iff.2 complete, bind, Except.bind, pure, Except.pure]

end

end MockScaffold.Decoding
