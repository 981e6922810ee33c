import MockScaffold.Proofs.Decoding.Values

namespace MockScaffold
open Decoding

namespace Json

/-- Every object in a value holds its members in ascending order of keys, each key once. -/
inductive Sorted : Json → Prop
  | null : Sorted .null
  | boolean (word : Bool) : Sorted (.boolean word)
  | number (n : Number) : Sorted (.number n)
  | string (text : String) : Sorted (.string text)
  | array {items : List Json} (inner : ∀ item ∈ items, Sorted item) : Sorted (.array items)
  | object {members : List (String × Json)} (ascending : Keyed.Ascending members)
      (inner : ∀ member ∈ members, Sorted member.2) : Sorted (.object members)

mutual

/-- Whatever a document states, the objects in it are sorted. -/
theorem sorted_toJsonWithin : ∀ (document : Document) {room : Nat} {value : Json},
    document.toJsonWithin room = .ok value → value.Sorted
  | .null, _, _, stated => by
    cases stated
    exact .null
  | .boolean word, _, _, stated => by
    cases stated
    exact .boolean word
  | .number n, _, _, stated => by
    rw [Document.toJsonWithin] at stated
    obtain ⟨n, -, rfl⟩ := map_eq_ok_iff.1 stated
    exact .number n
  | .string text, _, _, stated => by
    rw [Document.toJsonWithin] at stated
    obtain ⟨text, -, rfl⟩ := map_eq_ok_iff.1 stated
    exact .string text
  | .array items fault, _, _, stated => by
    obtain ⟨within, values, listed, -, rfl⟩ := array_toJsonWithin stated
    exact .array (sorted_itemsToJson items listed)
  | .object members fault, _, _, stated => by
    obtain ⟨within, values, listed, -, rfl⟩ := object_toJsonWithin stated
    exact .object (membersToJson_ascending .nil listed)
      (sorted_membersToJson members (List.forall_mem_nil _) listed)
  | .broken fault, _, _, stated => by
    rw [Document.toJsonWithin] at stated
    cases stated

theorem sorted_itemsToJson : ∀ (items : List Document) {room : Nat} {values : List Json},
    Document.itemsToJson room items = .ok values → ∀ value ∈ values, value.Sorted
  | [], _, _, stated => by
    cases stated
    exact List.forall_mem_nil _
  | item :: items, _, _, stated => by
    rw [Document.itemsToJson, bind_eq_ok_iff] at stated
    obtain ⟨value, first, stated⟩ := stated
    obtain ⟨values, rest, last⟩ := bind_eq_ok_iff.1 stated
    cases last
    exact List.forall_mem_cons.2 ⟨sorted_toJsonWithin item first, sorted_itemsToJson items rest⟩

theorem sorted_membersToJson : ∀ (members : List (Key × Document)) {room : Nat}
    {before values : List (String × Json)}, (∀ member ∈ before, member.2.Sorted) →
      Document.membersToJson room before members = .ok values →
        ∀ member ∈ values, member.2.Sorted
  | [], _, _, _, sorted, stated => by
    cases stated
    exact sorted
  | (key, document) :: members, _, _, _, sorted, stated => by
    obtain ⟨name, value, -, first, stated⟩ := membersToJson_cons stated
    refine sorted_membersToJson members (fun member among => ?_) stated
    rcases Keyed.mem_insert among with rfl | among
    · exact sorted_toJsonWithin document first
    · exact sorted member among

end

/-- Every object of a parsed value has its members in ascending order. -/
theorem sorted_parse {text : String} {value : Json} (parsed : parse text = .ok value) :
    value.Sorted := sorted_toJsonWithin _ (parse_eq_ok_iff.1 parsed).1

end Json
end MockScaffold
