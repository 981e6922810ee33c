import MockScaffold.Proofs.Decoding.Record
import MockScaffold.Proofs.Keyed

/-!
The value of a document keeps no faults, no repeated keys and no order of
members. What a decoder finds in a document it finds in the value of that
document too.
-/

namespace MockScaffold.Decoding
open Json (Document Fault Key SyntaxError)

variable {ρ α β : Type}

/-- The decoder finds in the value of a document what it finds in the document. -/
def Faithful (decode : Decoder α) : Prop :=
  ∀ room document value a,
    document.toJsonWithin room = .ok value → decode document = .ok a → ofJson decode value = .ok a

theorem reject_ne_ok (expected : String) (document : Document) (a : α) :
    reject expected document ≠ .ok a := by
  fun_cases reject expected document <;> simp

/-- Only a list without faults has a value, and that is a list. -/
theorem array_toJsonWithin {room : Nat} {items : List Document} {fault : Option Fault}
    {value : Json} (stated : (Document.array items fault).toJsonWithin room = .ok value) :
    ∃ within values, Document.itemsToJson within items = .ok values ∧ fault = none ∧
      value = .array values := by
  cases room with
  | zero => simp [Document.toJsonWithin] at stated
  | succ within =>
    rw [Document.toJsonWithin, bind_eq_ok_iff] at stated
    obtain ⟨values, read, rest⟩ := stated
    cases fault with
    | some fault => simp at rest
    | none => exact ⟨within, values, read, rfl, by simpa using rest.symm⟩

/-- Only an object without faults has a value, and that is an object. -/
theorem object_toJsonWithin {room : Nat} {members : List (Key × Document)} {fault : Option Fault}
    {value : Json} (stated : (Document.object members fault).toJsonWithin room = .ok value) :
    ∃ within values, Document.membersToJson within [] members = .ok values ∧ fault = none ∧
      value = .object values := by
  cases room with
  | zero => simp [Document.toJsonWithin] at stated
  | succ within =>
    rw [Document.toJsonWithin, bind_eq_ok_iff] at stated
    obtain ⟨values, read, rest⟩ := stated
    cases fault with
    | some fault => simp at rest
    | none => exact ⟨within, values, read, rfl, by simpa using rest.symm⟩

theorem Faithful.map {decode : Decoder α} (faithful : Faithful decode) (f : α → β) :
    Faithful fun document => (decode document).map f := by
  intro room document value b stated decoded
  obtain ⟨a, found, rfl⟩ := map_eq_ok_iff.1 decoded
  exact map_eq_ok_iff.2 ⟨a, faithful room document value a stated found, rfl⟩

theorem Faithful.bind {decode : Decoder α} (faithful : Faithful decode)
    (f : α → Except DecodeError β) : Faithful fun document => decode document >>= f := by
  intro room document value b stated decoded
  obtain ⟨a, found, rest⟩ := bind_eq_ok_iff.1 decoded
  exact bind_eq_ok_iff.2 ⟨a, faithful room document value a stated found, rest⟩

/-- A text is decoded from a string without faults, and from nothing else. -/
theorem string_eq_ok_iff {document : Document} {text : String} :
    string document = .ok text ↔ document = .string (.ok text) := by
  fun_cases string document with
  | case1 value => simp
  | case2 document other =>
    refine iff_of_false (reject_ne_ok _ _ _) ?_
    rintro rfl
    exact other text rfl

theorem boolean_eq_ok_iff {document : Document} {value : Bool} :
    boolean document = .ok value ↔ document = .boolean value := by
  fun_cases boolean document with
  | case1 value => simp
  | case2 document other =>
    refine iff_of_false (reject_ne_ok _ _ _) ?_
    rintro rfl
    exact other value rfl

theorem string_faithful : Faithful string := by
  intro room document value text stated decoded
  rw [string_eq_ok_iff] at decoded
  subst decoded
  simp only [Document.toJsonWithin, Except.map, Except.ok.injEq] at stated
  rw [← stated]
  rfl

theorem boolean_faithful : Faithful boolean := by
  intro room document value word stated decoded
  rw [boolean_eq_ok_iff] at decoded
  subst decoded
  simp only [Document.toJsonWithin, Except.ok.injEq] at stated
  rw [← stated]
  rfl

theorem typeExpr_faithful : Faithful typeExpr := string_faithful.bind _

theorem optional_eq_map (decode : Decoder α) {document : Document} (present : document ≠ .null) :
    optional decode document = (decode document).map some := by
  fun_cases optional decode document with
  | case1 => exact absurd rfl present
  | case2 => rfl

theorem ofJson_ne_null {value : Json} (present : value ≠ .null) :
    Document.ofJson value ≠ .null := by
  cases value with
  | null => exact absurd rfl present
  | _ => simp [Document.ofJson]

theorem toJsonWithin_ne_null {room : Nat} {document : Document} {value : Json}
    (present : document ≠ .null) (stated : document.toJsonWithin room = .ok value) :
    value ≠ .null := by
  rintro rfl
  cases document with
  | null => exact present rfl
  | boolean word => simp [Document.toJsonWithin] at stated
  | number n => cases n <;> simp [Document.toJsonWithin, Except.map] at stated
  | string text => cases text <;> simp [Document.toJsonWithin, Except.map] at stated
  | broken fault => simp [Document.toJsonWithin] at stated
  | array items fault =>
    obtain ⟨_, _, -, -, same⟩ := array_toJsonWithin stated
    cases same
  | object members fault =>
    obtain ⟨_, _, -, -, same⟩ := object_toJsonWithin stated
    cases same

/-- What is faithful stays so where `null` is allowed. -/
theorem Faithful.optional {decode : Decoder α} (faithful : Faithful decode) :
    Faithful (optional decode) := by
  intro room document value found stated decoded
  by_cases absent : document = .null
  · subst absent
    simp only [Document.toJsonWithin, Except.ok.injEq] at stated
    rw [← stated]
    exact decoded
  · have present := toJsonWithin_ne_null absent stated
    rw [optional_eq_map decode absent] at decoded
    rw [ofJson, optional_eq_map decode (ofJson_ne_null present)]
    exact faithful.map some room document value found stated decoded

theorem itemsToJson_eq_mapM (room : Nat) (items : List Document) :
    Document.itemsToJson room items = items.mapM (Document.toJsonWithin room) := by
  induction items with
  | nil => rfl
  | cons item items ih => rw [Document.itemsToJson, ih, List.mapM_cons]

theorem ofItems_eq_map (values : List Json) :
    Document.ofItems values = values.map Document.ofJson := by
  induction values with
  | nil => rfl
  | cons value values ih => rw [Document.ofItems, ih, List.map_cons]

theorem eq_array_of_ofJson {value : Json} {items : List Document} {fault : Option Fault}
    (stated : Document.ofJson value = .array items fault) : ∃ values, value = .array values := by
  cases value with
  | array values => exact ⟨values, rfl⟩
  | _ => simp [Document.ofJson] at stated

/-- A list is decoded item by item, and only if it ends well. -/
theorem list_eq_ok_iff {decode : Decoder α} {document : Document} {found : List α} :
    list decode document = .ok found ↔
      ∃ items, document = .array items none ∧
        List.Forall₂ (fun item a => decode item = .ok a) items found := by
  fun_cases list decode document with
  | case1 items fault =>
    rw [bind_eq_ok_iff]
    constructor
    · rintro ⟨values, read, rest⟩
      obtain ⟨_, noFault, same⟩ := bind_eq_ok_iff.1 rest
      cases same
      exact ⟨items, by rw [ended_eq_ok_iff.1 noFault], mapM_eq_ok_iff.1 read⟩
    · rintro ⟨_, same, read⟩
      cases same
      exact ⟨found, mapM_eq_ok_iff.2 read, rfl⟩
  | case2 document other =>
    refine iff_of_false (reject_ne_ok _ _ _) ?_
    rintro ⟨items, rfl, -⟩
    exact other items none rfl

/-- For values this takes no thought of faults. -/
theorem ofJson_list_eq_ok_iff {decode : Decoder α} {value : Json} {found : List α} :
    ofJson (list decode) value = .ok found ↔
      ∃ values, value = .array values ∧
        List.Forall₂ (fun value a => ofJson decode value = .ok a) values found := by
  rw [ofJson, list_eq_ok_iff]
  constructor
  · rintro ⟨items, same, read⟩
    obtain ⟨values, rfl⟩ := eq_array_of_ofJson same
    simp only [Document.ofJson, ofItems_eq_map, Document.array.injEq, and_true] at same
    rw [← same, List.forall₂_map_left_iff] at read
    exact ⟨values, rfl, read⟩
  · rintro ⟨values, rfl, read⟩
    refine ⟨values.map Document.ofJson, ?_, List.forall₂_map_left_iff.2 read⟩
    rw [Document.ofJson, ofItems_eq_map]

/-- Lists of what is decoded faithfully are decoded faithfully. -/
theorem Faithful.list {decode : Decoder α} (faithful : Faithful decode) :
    Faithful (list decode) := by
  intro room document value found stated decoded
  obtain ⟨items, rfl, read⟩ := list_eq_ok_iff.1 decoded
  obtain ⟨within, values, listed, -, rfl⟩ := array_toJsonWithin stated
  rw [itemsToJson_eq_mapM, mapM_eq_ok_iff] at listed
  exact ofJson_list_eq_ok_iff.2 ⟨values, rfl, forall₂_through (faithful within) listed read⟩

/-- What members of a value give under a name. -/
def given? (members : List (String × Json)) (name : String) : Option Document :=
  (Keyed.lookup? name members).map Document.ofJson

theorem given?_of_lookup? {members : List (String × Json)} {name : String} {value : Json}
    (found : Keyed.lookup? name members = some value) :
    given? members name = some (Document.ofJson value) := by
  rw [given?, found, Option.map_some]

theorem given?_eq_none_iff {members : List (String × Json)} {name : String} :
    given? members name = none ↔ Keyed.lookup? name members = none := Option.map_eq_none_iff

theorem member?_ofMembers (name : String) (members : List (String × Json)) :
    member? name (Document.ofMembers members) = given? members name := by
  induction members with
  | nil => rfl
  | cons entry members ih =>
    obtain ⟨key, value⟩ := entry
    rw [Document.ofMembers, member?, given?, Keyed.lookup?, ih]
    split <;> rfl

theorem ofMembers_eq_map (members : List (String × Json)) :
    Document.ofMembers members =
      members.map fun (key, value) => (.ok key, Document.ofJson value) := by
  induction members with
  | nil => rfl
  | cons entry members ih => rw [Document.ofMembers, ih, List.map_cons]

/-- The first member is set before the others, which may replace it. -/
theorem membersToJson_cons {room : Nat} {values out : List (String × Json)} {key : Key}
    {document : Document} {members : List (Key × Document)}
    (stated : Document.membersToJson room values ((key, document) :: members) = .ok out) :
    ∃ name value, key = .ok name ∧ document.toJsonWithin room = .ok value ∧
      Document.membersToJson room (Keyed.insert name value values) members = .ok out := by
  rw [Document.membersToJson, bind_eq_ok_iff] at stated
  obtain ⟨name, readable, stated⟩ := stated
  obtain ⟨value, first, stated⟩ := bind_eq_ok_iff.1 stated
  exact ⟨name, value, readable, first, stated⟩

/-- Members of a value are in ascending order. -/
theorem membersToJson_ascending {room : Nat} {values out : List (String × Json)}
    {members : List (Key × Document)} (ascending : Keyed.Ascending values)
    (stated : Document.membersToJson room values members = .ok out) : Keyed.Ascending out := by
  induction members generalizing values with
  | nil =>
    cases stated
    exact ascending
  | cons member members ih =>
    obtain ⟨name, value, -, -, stated⟩ := membersToJson_cons stated
    exact ih (ascending.insert name value) stated

theorem lookup?_membersToJson_of_absent {room : Nat} {values out : List (String × Json)}
    {members : List (Key × Document)} {name : String} (absent : member? name members = none)
    (stated : Document.membersToJson room values members = .ok out) :
    Keyed.lookup? name out = Keyed.lookup? name values := by
  induction members generalizing values with
  | nil =>
    cases stated
    rfl
  | cons member members ih =>
    obtain ⟨key, document⟩ := member
    obtain ⟨other, value, rfl, -, stated⟩ := membersToJson_cons stated
    rw [member?] at absent
    split at absent
    · cases absent
    · rename_i different
      rw [ih absent stated, Keyed.lookup?_insert, if_neg different]

/-- What a field is given among readable members, it has in their value. -/
theorem lookup?_membersToJson {shape : Shape ρ} {given : List String} {room : Nat}
    {values out : List (String × Json)} {members : List (Key × Document)}
    (readable : shape.Readable given members)
    (stated : Document.membersToJson room values members = .ok out) {name : String}
    (isField : shape.field? name ≠ none) {document : Document}
    (found : member? name members = some document) :
    ∃ value, document.toJsonWithin room = .ok value ∧ Keyed.lookup? name out = some value := by
  induction members generalizing given values with
  | nil => cases found
  | cons member members ih =>
    obtain ⟨key, first⟩ := member
    obtain ⟨other, value, rfl, valued, stated⟩ := membersToJson_cons stated
    rw [member?] at found
    by_cases same : other = name
    · subst same
      rw [if_pos rfl, Option.some.injEq] at found
      subst found
      have last := (readable.field isField).2.member?_eq_none List.mem_cons_self isField
      refine ⟨value, valued, ?_⟩
      rw [lookup?_membersToJson_of_absent last stated, Keyed.lookup?_insert, if_pos rfl]
    · rw [if_neg same] at found
      obtain ⟨before, rest⟩ := readable.tail
      exact ih rest stated found

/-- For every field, the members and their value give the same or both nothing. -/
theorem lookup?_membersToJson_rel {shape : Shape ρ} {room : Nat} {out : List (String × Json)}
    {members : List (Key × Document)} (readable : shape.Readable [] members)
    (stated : Document.membersToJson room [] members = .ok out) {name : String}
    (isField : shape.field? name ≠ none) :
    Option.Rel (fun document value => document.toJsonWithin room = .ok value)
      (member? name members) (Keyed.lookup? name out) := by
  cases found : member? name members with
  | none =>
    rw [lookup?_membersToJson_of_absent found stated]
    exact .none
  | some document =>
    obtain ⟨value, valued, found'⟩ := lookup?_membersToJson readable stated isField found
    rw [found']
    exact .some valued

mutual

/-- A value has no faults, so it can be passed over. -/
theorem skip_ofJson : ∀ value : Json, (Document.ofJson value).skip = .ok ()
  | .null | .boolean _ | .number _ | .string _ => rfl
  | .array items => by
    rw [Document.ofJson, Document.skip, skip_ofItems items]
    rfl
  | .object members => by
    rw [Document.ofJson, Document.skip, skip_ofMembers members]
    rfl

theorem skip_ofItems : ∀ items : List Json, Document.skipItems (Document.ofItems items) = .ok ()
  | [] => rfl
  | item :: items => by
    rw [Document.ofItems, Document.skipItems, skip_ofJson item]
    exact skip_ofItems items

theorem skip_ofMembers :
    ∀ members : List (String × Json), Document.skipMembers (Document.ofMembers members) = .ok ()
  | [] => rfl
  | (_, value) :: members => by
    rw [Document.ofMembers, Document.skipMembers, skip_ofJson value]
    exact skip_ofMembers members

end

/-- The names of fields among members, in order. -/
def Shape.names (shape : Shape ρ) (members : List (String × Json)) : List String :=
  (members.map (·.1)).filter fun name => (shape.field? name).isSome

theorem stated_ofMembers (shape : Shape ρ) (members : List (String × Json)) :
    shape.stated (Document.ofMembers members) = shape.names members := by
  rw [ofMembers_eq_map, Shape.stated, Shape.names, List.filterMap_map, List.filter_map,
    ← List.filterMap_eq_filter, List.map_filterMap]
  refine List.filterMap_congr fun entry _ => ?_
  simp [Except.toOption, Option.guard, Option.filter]

/-- Members of a value are readable if no field is among them twice. -/
theorem readable_ofMembers_iff {shape : Shape ρ} {given : List String}
    {members : List (String × Json)} :
    shape.Readable given (Document.ofMembers members) ↔
      (shape.names members).Nodup ∧ given.Disjoint (shape.names members) := by
  have passable : ∀ member ∈ Document.ofMembers members, shape.Passable member := by
    rw [ofMembers_eq_map, List.forall_mem_map]
    exact fun entry _ => ⟨entry.1, rfl, fun _ => skip_ofJson entry.2⟩
  rw [readable_iff, stated_ofMembers, and_iff_right passable]

/-! ## Records -/

/-- A record is filled alike from documents and from their values. -/
theorem fill_faithful {fields : List (Field ρ)} (faithful : ∀ field ∈ fields, Faithful field.decode)
    {room : Nat} {get : String → Option Document} {values : String → Option Json}
    (stated : ∀ field ∈ fields, Option.Rel
      (fun document value => document.toJsonWithin room = .ok value)
      (get field.name) (values field.name))
    {record r : ρ} (filled : fill get fields record = .ok r) :
    fill (fun name => (values name).map Document.ofJson) fields record = .ok r := by
  refine fill_mono (fun field isField => ?_) filled
  rcases rel_cases (stated field isField) with
    ⟨given, absent⟩ | ⟨document, value, given, found, valued⟩
  · rw [given, absent]
    exact .none
  · rw [given, found]
    exact .some fun set decoded => faithful field isField room document value set valued decoded

/-- An object states a record exactly if no field is given twice, every field that must be given
is, and each field decodes. -/
theorem ofJson_object_eq_ok_iff {shape : Shape ρ} (regular : Regular shape.fields)
    {members : List (String × Json)} {record : ρ} :
    ofJson shape.decode (.object members) = .ok record ↔
      (shape.names members).Nodup ∧
      shape.Complete (given? members) ∧
      fill (given? members) shape.fields shape.blank = .ok record := by
  rw [ofJson, Document.ofJson, Shape.decode, ofMembers_eq_ok_iff regular, readable_ofMembers_iff]
  simp [member?_ofMembers]

/-- The first field stays or is set to what its member decodes to, and then the others are filled.
-/
theorem fill_cons_iff {members : List (String × Json)} {name : String} {required : Bool}
    {decode : Decoder α} {set : α → ρ → ρ} {fields : List (Field ρ)} {record r : ρ} :
    fill (given? members) (⟨name, required, fun document => (decode document).map set⟩ :: fields)
        record = .ok r ↔
      Keyed.lookup? name members = none ∧ fill (given? members) fields record = .ok r ∨
      ∃ value a, Keyed.lookup? name members = some value ∧ ofJson decode value = .ok a ∧
        fill (given? members) fields (set a record) = .ok r := by
  cases found : Keyed.lookup? name members with
  | none =>
    rw [fill_absent (given?_eq_none_iff.2 found)]
    simp
  | some value =>
    rw [fill_given (given?_of_lookup? found), bind_eq_ok_iff]
    simp [map_eq_ok_iff, ofJson]

theorem ofElements_faithful {shape : Shape ρ} {fields : List (Field ρ)}
    (faithful : ∀ field ∈ fields, Faithful field.decode) {room : Nat}
    {elements : List Document} {values : List Json}
    (stated : List.Forall₂ (fun element value => element.toJsonWithin room = .ok value)
      elements values)
    {size size' index : Nat} {record r : ρ}
    (decoded : shape.ofElements size none index record fields elements = .ok r) :
    shape.ofElements size' none index record fields (values.map Document.ofJson) = .ok r := by
  induction fields generalizing elements values index record with
  | nil =>
    cases stated with
    | nil => exact decoded
    | cons first rest => cases decoded
  | cons field fields ih =>
    obtain ⟨faithfulFirst, faithfulRest⟩ := List.forall_mem_cons.1 faithful
    cases stated with
    | nil =>
      rw [Shape.ofElements, bind_eq_ok_iff] at decoded
      obtain ⟨_, ended, decoded⟩ := decoded
      rw [List.map_nil, Shape.ofElements, bind_eq_ok_iff]
      refine ⟨(), rfl, ?_⟩
      split
      · rename_i required
        rw [if_pos required] at decoded
        cases decoded
      · rename_i optional
        rw [if_neg optional] at decoded
        exact ih faithfulRest .nil decoded
    | cons first rest =>
      rw [Shape.ofElements, bind_eq_ok_iff] at decoded
      obtain ⟨set, head, decoded⟩ := decoded
      rw [List.map_cons, Shape.ofElements, bind_eq_ok_iff]
      exact ⟨set, faithfulFirst room _ _ set first head, ih faithfulRest rest decoded⟩

theorem Shape.Complete.of_rel {shape : Shape ρ} {get : String → Option Document}
    {values : String → Option Json} {R : Document → Json → Prop}
    (complete : shape.Complete get)
    (stated : ∀ field ∈ shape.fields, Option.Rel R (get field.name) (values field.name)) :
    shape.Complete fun name => (values name).map Document.ofJson := by
  intro field isField required absent
  rcases rel_cases (stated field isField) with ⟨given, -⟩ | ⟨document, value, -, found, -⟩
  · exact complete field isField required given
  · simp [found] at absent

/-- Records whose fields are decoded faithfully are decoded faithfully, as objects and as lists. -/
theorem Shape.decode_faithful {shape : Shape ρ} (regular : Regular shape.fields)
    (faithful : ∀ field ∈ shape.fields, Faithful field.decode) : Faithful shape.decode := by
  intro room document value record stated
  fun_cases Shape.decode shape document with
  | case1 members fault =>
    intro decoded
    obtain ⟨within, values, listed, rfl, rfl⟩ := object_toJsonWithin stated
    obtain ⟨readable, -, complete, filled⟩ := (ofMembers_eq_ok_iff regular).1 decoded
    have related : ∀ field ∈ shape.fields, Option.Rel
        (fun document value => document.toJsonWithin within = .ok value)
        (member? field.name members) (Keyed.lookup? field.name values) := fun field isField =>
      lookup?_membersToJson_rel readable listed (field?_ne_none isField)
    have ascending : Keyed.Ascending values := membersToJson_ascending .nil listed
    exact (ofJson_object_eq_ok_iff regular).2 ⟨ascending.nodup.filter _, complete.of_rel related,
      fill_faithful faithful related filled⟩
  | case2 elements fault =>
    intro decoded
    obtain ⟨within, values, listed, rfl, rfl⟩ := array_toJsonWithin stated
    rw [itemsToJson_eq_mapM, mapM_eq_ok_iff] at listed
    rw [ofJson, Document.ofJson, ofItems_eq_map]
    exact ofElements_faithful faithful listed decoded
  | case3 document => exact fun decoded => absurd decoded (reject_ne_ok _ _ _)

theorem ofText_eq_ok_iff {decode : Decoder α} {text : String} {a : α} :
    ofText decode text = .ok a ↔
      decode (Json.read text).document = .ok a ∧ (Json.read text).overrun = false := by
  unfold ofText
  cases decoded : decode (Json.read text).document with
  | error e => cases e <;> simp [decoded, bind, Except.bind]
  | ok b =>
    cases overrun : (Json.read text).overrun <;> simp [decoded, overrun, bind, Except.bind]

/-- A text has a value if its document has one and nothing stands behind it. -/
theorem parse_eq_ok_iff {text : String} {value : Json} :
    Json.parse text = .ok value ↔
      (Json.read text).document.toJson = .ok value ∧ (Json.read text).overrun = false := by
  unfold Json.parse
  cases stated : (Json.read text).document.toJson with
  | error e => simp [stated, bind, Except.bind]
  | ok v => cases overrun : (Json.read text).overrun <;> simp [stated, overrun, bind, Except.bind]

/-- A text and the value read off it are decoded alike. -/
theorem Faithful.ofJson_parsed {decode : Decoder α} (faithful : Faithful decode) {text : String}
    {value : Json} {a : α} (parsed : Json.parse text = .ok value)
    (decoded : ofText decode text = .ok a) : ofJson decode value = .ok a :=
  faithful Json.maxDepth _ value a (parse_eq_ok_iff.1 parsed).1 (ofText_eq_ok_iff.1 decoded).1

end MockScaffold.Decoding
