import MockScaffold.Metadata.Decoder
import MockScaffold.Metadata.Encoder
import MockScaffold.Proofs.Decoding.Values

namespace MockScaffold
open Decoding
open Json (Document Key)

/-- Imports among members of values. -/
def ImportMap.members (imports : ImportMap) : List (String × Json) :=
  imports.entries.map fun (short, full) => (short, .string full)

namespace ImportMap

theorem insert_members (imports : ImportMap) (short full : String) :
    Keyed.insert short (.string full) imports.members = (imports.insert short full).members :=
  Keyed.insert_map Json.string short full imports.entries

/-- An import is taken from a readable key and a text, and from nothing else. -/
theorem takeMember_eq_ok_iff {imports next : ImportMap} {key : Key} {document : Document} :
    imports.takeMember (key, document) = .ok next ↔
      ∃ short full, key = .ok short ∧ document = .string (.ok full) ∧
        imports.insert short full = next := by
  cases key with
  | error fault => simp [takeMember, unlessMalformed, bind, Except.bind]
  | ok short =>
    have taken : imports.takeMember (.ok short, document) =
        Decoding.string document >>= fun full => .ok (imports.insert short full) := rfl
    rw [taken, bind_eq_ok_iff]
    simp [string_eq_ok_iff]

/-- Imports and the value of their object keep the same one of several members. -/
theorem membersToJson_of_takeMembers {room : Nat} {imports last : ImportMap}
    {members : List (Key × Document)} {values : List (String × Json)}
    (taken : members.foldlM takeMember imports = .ok last)
    (stated : Document.membersToJson room imports.members members = .ok values) :
    values = last.members := by
  induction members generalizing imports with
  | nil =>
    cases taken
    cases stated
    rfl
  | cons member members ih =>
    rw [List.foldlM_cons, bind_eq_ok_iff] at taken
    obtain ⟨next, first, taken⟩ := taken
    obtain ⟨name, value, key, valued, stated⟩ := membersToJson_cons stated
    obtain ⟨short, full, same, text, rfl⟩ := takeMember_eq_ok_iff.1 first
    rw [same, Except.ok.injEq] at key
    rw [text, Document.toJsonWithin, Except.map, Except.ok.injEq] at valued
    rw [← key, ← valued, insert_members] at stated
    exact ih taken stated

theorem eq_of_entries {imports other : ImportMap} (same : imports.entries = other.entries) :
    imports = other := by
  cases imports
  cases other
  simp_all

theorem insert_last {imports last : ImportMap} {short full : String}
    {back : List (String × String)}
    (entries : last.entries = imports.entries ++ (short, full) :: back) :
    (imports.insert short full).entries = imports.entries ++ [(short, full)] := by
  have ascending := last.ascending
  rw [entries] at ascending
  exact Keyed.insert_last (fun entry among =>
    (List.pairwise_append.1 ascending).2.2 entry among _ List.mem_cons_self) full

/-- Members behind all imports so far, in ascending order, are imported as they are. -/
theorem takeMembers_ascending {imports last : ImportMap} {back : List (String × String)}
    (entries : last.entries = imports.entries ++ back) :
    (Document.ofMembers (back.map fun (short, full) => (short, .string full))).foldlM takeMember
      imports = .ok last := by
  induction back generalizing imports with
  | nil =>
    have same : imports = last := eq_of_entries (by simpa using entries.symm)
    rw [same]
    rfl
  | cons entry back ih =>
    obtain ⟨short, full⟩ := entry
    rw [List.map_cons, Document.ofMembers, List.foldlM_cons, bind_eq_ok_iff]
    refine ⟨_, takeMember_eq_ok_iff.2 ⟨short, full, rfl, rfl, rfl⟩, ih ?_⟩
    rw [insert_last entries, entries, List.append_cons]

/-- Imports are decoded from the value that states them. -/
theorem ofJson_toJson (imports : ImportMap) :
    ofJson ImportMap.decode imports.toJson = .ok imports := by
  rw [ofJson, toJson, Document.ofJson, ImportMap.decode, bind_eq_ok_iff]
  exact ⟨imports, takeMembers_ascending rfl, rfl⟩

/-- Imports are decoded alike from a document and from its value. -/
theorem decode_faithful : Faithful ImportMap.decode := by
  intro room document value imports stated
  fun_cases ImportMap.decode document with
  | case1 members fault =>
    intro decoded
    obtain ⟨within, values, listed, rfl, rfl⟩ := object_toJsonWithin stated
    obtain ⟨last, taken, rest⟩ := bind_eq_ok_iff.1 decoded
    cases rest
    have same : values = imports.members := membersToJson_of_takeMembers taken listed
    rw [same]
    exact imports.ofJson_toJson
  | case2 document => exact fun decoded => absurd decoded (reject_ne_ok _ _ _)

end ImportMap

theorem Parameter.shape_regular : Regular Parameter.shape.fields where
  distinct := by decide
  commute := by
    simp only [Parameter.shape, List.pairwise_cons, List.forall_mem_cons, List.not_mem_nil,
      List.Pairwise.nil, false_imp_iff, implies_true, and_true]
    exact .of_sets fun _ _ _ => rfl

theorem FunctionDecl.shape_regular : Regular FunctionDecl.shape.fields where
  distinct := by decide
  commute := by
    simp only [FunctionDecl.shape, List.pairwise_cons, List.forall_mem_cons, List.not_mem_nil,
      List.Pairwise.nil, false_imp_iff, implies_true, and_true]
    and_intros <;> exact .of_sets fun _ _ _ => rfl

theorem Parameter.decode_faithful : Faithful Parameter.shape.decode := by
  refine Shape.decode_faithful Parameter.shape_regular ?_
  simp only [Parameter.shape, List.forall_mem_cons, List.not_mem_nil, false_imp_iff, implies_true,
    and_true]
  exact ⟨string_faithful.map _, typeExpr_faithful.map _⟩

theorem FunctionDecl.decode_faithful : Faithful FunctionDecl.shape.decode := by
  refine Shape.decode_faithful FunctionDecl.shape_regular ?_
  simp only [FunctionDecl.shape, List.forall_mem_cons, List.not_mem_nil, false_imp_iff,
    implies_true, and_true]
  exact ⟨string_faithful.map _, boolean_faithful.map _, Parameter.decode_faithful.list.map _,
    string_faithful.optional.map _, typeExpr_faithful.map _⟩

theorem ClassDecl.shape_regular : Regular ClassDecl.shape.fields where
  distinct := by decide
  commute := by
    simp only [ClassDecl.shape, List.pairwise_cons, List.forall_mem_cons, List.not_mem_nil,
      List.Pairwise.nil, false_imp_iff, implies_true, and_true]
    and_intros <;> exact .of_sets fun _ _ _ => rfl

theorem ClassDecl.decode_faithful : Faithful ClassDecl.shape.decode := by
  refine Shape.decode_faithful ClassDecl.shape_regular ?_
  simp only [ClassDecl.shape, List.forall_mem_cons, List.not_mem_nil, false_imp_iff,
    implies_true, and_true]
  exact ⟨string_faithful.map _, ImportMap.decode_faithful.map _, string_faithful.map _,
    boolean_faithful.map _, Parameter.decode_faithful.list.map _,
    FunctionDecl.decode_faithful.list.map _⟩

theorem TopLevelDecls.shape_regular : Regular TopLevelDecls.shape.fields where
  distinct := by decide
  commute := by
    simp only [TopLevelDecls.shape, List.pairwise_cons, List.forall_mem_cons, List.not_mem_nil,
      List.Pairwise.nil, false_imp_iff, implies_true, and_true]
    and_intros <;> exact .of_sets fun _ _ _ => rfl

theorem TopLevelDecls.decode_faithful : Faithful TopLevelDecls.shape.decode := by
  refine Shape.decode_faithful TopLevelDecls.shape_regular ?_
  simp only [TopLevelDecls.shape, List.forall_mem_cons, List.not_mem_nil, false_imp_iff,
    implies_true, and_true]
  exact ⟨string_faithful.map _, ImportMap.decode_faithful.map _,
    FunctionDecl.decode_faithful.list.map _⟩

theorem SourceFile.shape_regular : Regular SourceFile.shape.fields where
  distinct := by decide
  commute := by
    simp only [SourceFile.shape, List.pairwise_cons, List.forall_mem_cons, List.not_mem_nil,
      List.Pairwise.nil, false_imp_iff, implies_true, and_true]
    exact .of_sets fun _ _ _ => rfl

/-- What is decoded of a metadata document is decoded of its value. -/
theorem SourceFile.decode_faithful : Faithful SourceFile.shape.decode := by
  refine Shape.decode_faithful SourceFile.shape_regular ?_
  simp only [SourceFile.shape, List.forall_mem_cons, List.not_mem_nil, false_imp_iff,
    implies_true, and_true]
  exact ⟨ClassDecl.decode_faithful.list.map _, TopLevelDecls.decode_faithful.optional.map _⟩

end MockScaffold
