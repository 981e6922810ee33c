import MockScaffold.Proofs.Decoding.Extension
import MockScaffold.Proofs.Json.Sorted
import MockScaffold.Proofs.Metadata.Loading

/-!
A document loads as what is left of it decodes, once every function that does not
decode is deleted and then every class and the top-level functions that still do
not. What was skipped names each deleted entry with the reason why it does not
decode, in the order of the document. Records written as lists are left aside: no
functions are taken out of them.
-/

namespace MockScaffold
open Decoding

variable {ρ α : Type}

namespace Decoding

/-- Whether a value decodes. -/
def decodes (decode : Decoder α) (value : Json) : Bool := (ofJson decode value).isOk

/-- What a value decodes to, if it does. -/
def decoded? (decode : Decoder α) (value : Json) : Option α := (ofJson decode value).toOption

/-- What is said under a name of a value that does not decode; nothing of any other. -/
def refusal (decode : Decoder α) (name : String) (value : Json) : List SkippedEntry :=
  match ofJson decode value with
  | .ok _ => []
  | .error reason => [⟨name, reason⟩]

/-- A list from which all is deleted that does not decode decodes to the rest. -/
theorem ofJson_filter_decodes (decode : Decoder α) (values : List Json) :
    ofJson (list decode) (.array (values.filter (decodes decode))) =
      .ok (values.filterMap (decoded? decode)) := by
  refine ofJson_list_eq_ok_iff.2 ⟨_, rfl, ?_⟩
  induction values with
  | nil => exact .nil
  | cons value values ih =>
    cases found : ofJson decode value with
    | error reason =>
      have unsound : decodes decode value = false := by rw [decodes, found]; rfl
      have nothing : decoded? decode value = none := by rw [decoded?, found]; rfl
      rw [List.filter_cons_of_neg (by simp [unsound]), List.filterMap_cons_none nothing]
      exact ih
    | ok a =>
      have sound : decodes decode value = true := by rw [decodes, found]; rfl
      have something : decoded? decode value = some a := by rw [decoded?, found]; rfl
      rw [List.filter_cons_of_pos sound, List.filterMap_cons_some something]
      exact .cons found ih

end Decoding

namespace Loading

/-- The items of a member that is a list. -/
def itemsOf (key : String) (entry : Json) : List Json :=
  match entry.member? key with
  | some (.array items) => items
  | _ => []

/-- A list of functions without those that do not decode. -/
def pruneFunctionList : Json → Option Json
  | .array entries => some (.array (entries.filter (decodes FunctionDecl.shape.decode)))
  | value => some value

/-- A record without those of its functions that do not decode. -/
def pruneRecord : Json → Json
  | .object members => .object (Keyed.revise "functions" pruneFunctionList members)
  | entry => entry

/-- A list of classes without those that still do not decode; `null` is no list. -/
def pruneClasses : Json → Option Json
  | .null => none
  | .array entries =>
    some (.array ((entries.map pruneRecord).filter (decodes ClassDecl.shape.decode)))
  | value => some value

/-- Top-level functions, unless they still do not decode. -/
def pruneTopLevel : Json → Option Json
  | .null => some .null
  | entry => some (pruneRecord entry) |>.filter (decodes TopLevelDecls.shape.decode)

/-- A document without what does not decode in it. -/
def prune (members : List (String × Json)) : List (String × Json) :=
  Keyed.revise "static_functions" pruneTopLevel (Keyed.revise "classes" pruneClasses members)

/-- What is said of the functions of an entry that do not decode, under the name of their owner. -/
def refusedFunctions (owner : String) (entry : Json) : List SkippedEntry :=
  (itemsOf "functions" entry).flatMap fun function =>
    refusal FunctionDecl.shape.decode (owner ++ label function "name" "<unnamed function>") function

/-- The functions that a record loses, and then the record itself, if it is lost. -/
def refusedRecord (decode : Decoder ρ) (name owner : String) (entry : Json) : List SkippedEntry :=
  refusedFunctions owner entry ++ refusal decode name (pruneRecord entry)

/-- What is said of a class: of its functions, and of itself if it does not decode without them. -/
def refusedClass (entry : Json) : List SkippedEntry :=
  let name := label entry "class_name" "<unnamed class>"
  refusedRecord ClassDecl.shape.decode name (name ++ ".") entry

/-- What is said of top-level functions in the same way. -/
def refusedTopLevel (entry : Json) : List SkippedEntry :=
  refusedRecord TopLevelDecls.shape.decode "<top-level functions>" "" entry

/-- All that pruning deletes, in the order of the document. -/
def refused (members : List (String × Json)) : List SkippedEntry :=
  (itemsOf "classes" (.object members)).flatMap refusedClass ++
    (topLevelEntry members).toList.flatMap refusedTopLevel

/-! ## Records -/

variable {shape : Shape ρ} {put : List FunctionDecl → ρ → ρ}

/-- A function is loaded if it decodes, and otherwise named with the reason. -/
theorem loadFunction_eq (owner : String) (entry : Json) :
    loadFunction owner entry =
      (decoded? FunctionDecl.shape.decode entry,
        refusal FunctionDecl.shape.decode (owner ++ label entry "name" "<unnamed function>")
          entry) := by
  rw [loadFunction, decoded?, refusal]
  cases ofJson FunctionDecl.shape.decode entry <;> rfl

/-- Entries are gathered one by one. -/
theorem gather_eq {load : Json → Option α × List SkippedEntry} {found : Json → Option α}
    {skipped : Json → List SkippedEntry} {entries : List Json}
    (loads : ∀ entry ∈ entries, load entry = (found entry, skipped entry)) :
    gather load entries = (entries.filterMap found, entries.flatMap skipped) := by
  rw [gather, List.map_congr_left loads]
  simp [List.filterMap_map, List.flatMap_map]

theorem gather_loadFunction_eq (owner : String) (entry : Json) :
    gather (loadFunction owner) (itemsOf "functions" entry) =
      ((itemsOf "functions" entry).filterMap (decoded? FunctionDecl.shape.decode),
        refusedFunctions owner entry) :=
  gather_eq fun entry _ => loadFunction_eq owner entry

theorem takeFunctions_snd (entry : Json) : (takeFunctions entry).2 = itemsOf "functions" entry := by
  fun_cases takeFunctions entry with
  | case1 members functions given => simp [itemsOf, Json.member?, Json.asMembers?, given]
  | case2 members noList =>
    rw [itemsOf, Json.member?, Json.asMembers?, Option.bind_some]
    split
    · rename_i functions given
      exact absurd given (noList functions)
    · rfl
  | case3 entry noObject =>
    cases entry with
    | object members => exact absurd rfl (noObject members)
    | _ => rfl

/-- A record that states no list of functions has none. -/
theorem HoldsFunctions.put_nil (holds : HoldsFunctions shape put) {members : List (String × Json)}
    (noList : ∀ functions, Keyed.lookup? "functions" members ≠ some (.array functions)) :
    (ofJson shape.decode (.object members)).map (put []) =
      ofJson shape.decode (.object members) := by
  cases decoded : ofJson shape.decode (.object members) with
  | error reason => rfl
  | ok record =>
    cases found : Keyed.lookup? "functions" members with
    | none => exact congrArg _ (holds.put_of_absent found decoded)
    | some value =>
      obtain ⟨-, _, _, -, listed, -⟩ := (holds.ofJson_given_iff found).1 decoded
      obtain ⟨functions, rfl, -⟩ := ofJson_list_eq_ok_iff.1 listed
      exact absurd found (noList functions)

/-- A pruned record decodes to the record without functions, given those that decode. -/
theorem ofJson_pruneRecord (holds : HoldsFunctions shape put) {entry : Json} (sorted : entry.Sorted)
    (noList : entry.isList = false) :
    ofJson shape.decode (pruneRecord entry) =
      (ofJson shape.decode (takeFunctions entry).1).map
        (put ((itemsOf "functions" entry).filterMap (decoded? FunctionDecl.shape.decode))) := by
  rw [← takeFunctions_snd]
  fun_cases takeFunctions entry with
  | case1 members functions given =>
    cases sorted with
    | object ascending inner =>
      have nodup := ascending.nodup
      obtain ⟨front, fields⟩ := holds.last
      have isField : functionsField put ∈ shape.fields := by simp [fields]
      have kept : Keyed.lookup? "functions" (Keyed.revise "functions" pruneFunctionList members) =
          some (.array (functions.filter (decodes FunctionDecl.shape.decode))) := by
        rw [Keyed.lookup?_revise nodup, given]
        rfl
      have decoded := map_eq_ok_iff.2
        ⟨_, ofJson_filter_decodes FunctionDecl.shape.decode functions, @rfl _ (put _)⟩
      have record := ofJson_given holds.regular (holds.regular.field?_eq isField) rfl decoded
        (nodup.sublist Keyed.keys_revise_sublist) kept
      rw [pruneRecord, record]
      exact congrArg (fun rest => Except.map _ (ofJson shape.decode (.object rest)))
        Keyed.erase_revise
  | case2 members noFunctions =>
    cases sorted with
    | object ascending inner =>
      have same : pruneRecord (.object members) = .object members := by
        rw [pruneRecord, Keyed.revise_eq_self _ ascending.nodup]
        intro value found
        cases value with
        | array functions => exact absurd found (noFunctions functions)
        | _ => rfl
      rw [same]
      exact (HoldsFunctions.put_nil holds noFunctions).symm
  | case3 entry noObject =>
    cases entry with
    | object members => exact absurd rfl (noObject members)
    | array items => cases noList
    | _ => rfl

/-- To load a class is to decode it pruned, and what is skipped is what pruning deletes. -/
theorem loadClass_eq {entry : Json} (sorted : entry.Sorted) (noList : entry.isList = false) :
    loadClass entry =
      (decoded? ClassDecl.shape.decode (pruneRecord entry), refusedClass entry) := by
  have pruned := ofJson_pruneRecord ClassDecl.holdsFunctions sorted noList
  simp only [loadClass, takeFunctions_snd, gather_loadFunction_eq, refusedClass, refusedRecord,
    refusal, decoded?, pruned]
  cases ofJson ClassDecl.shape.decode (takeFunctions entry).1 with
  | ok decl => simp [Except.map, Except.toOption]
  | error reason => simp [Except.map, Except.toOption]

/-- The same holds of top-level functions. -/
theorem loadTopLevel_eq {entry : Json} (sorted : entry.Sorted) (noList : entry.isList = false) :
    loadTopLevel entry =
      (decoded? TopLevelDecls.shape.decode (pruneRecord entry), refusedTopLevel entry) := by
  have pruned := ofJson_pruneRecord TopLevelDecls.holdsFunctions sorted noList
  simp only [loadTopLevel, takeFunctions_snd, gather_loadFunction_eq, refusedTopLevel,
    refusedRecord, refusal, decoded?, pruned]
  cases ofJson TopLevelDecls.shape.decode (takeFunctions entry).1 with
  | ok decl => simp [Except.map, Except.toOption]
  | error reason => simp [Except.map, Except.toOption]

/-! ## Documents -/

/-- There is a list of classes or none at all, and nothing in it nor the top-level functions are
written as a list. -/
structure Prunable (members : List (String × Json)) : Prop where
  classes : ∀ value ∈ Keyed.lookup? "classes" members,
    value = .null ∨ ∃ entries, value = .array entries ∧ ∀ entry ∈ entries, entry.isList = false
  topLevel : ∀ entry ∈ Keyed.lookup? "static_functions" members, entry.isList = false

section
variable {members : List (String × Json)}

theorem sorted_of_lookup? (sorted : (Json.object members).Sorted) {key : String} {value : Json}
    (found : Keyed.lookup? key members = some value) : value.Sorted := by
  cases sorted with
  | object ascending inner => exact inner _ (Keyed.mem_of_lookup? found)

theorem Prunable.classEntries_eq (prunable : Prunable members) :
    classEntries members = .ok (itemsOf "classes" (.object members)) := by
  rw [classEntries, itemsOf, Json.member?, Json.asMembers?, Option.bind_some]
  cases found : Keyed.lookup? "classes" members with
  | none => rfl
  | some value =>
    obtain rfl | ⟨entries, rfl, -⟩ := prunable.classes value found
    · rfl
    · rfl

/-- The classes that a document states once it is pruned. -/
def soundClasses (members : List (String × Json)) : List ClassDecl :=
  (itemsOf "classes" (.object members)).filterMap fun entry =>
    decoded? ClassDecl.shape.decode (pruneRecord entry)

/-- The top-level functions that a document states once it is pruned. -/
def soundTopLevel (members : List (String × Json)) : Option TopLevelDecls :=
  (topLevelEntry members).bind fun entry => decoded? TopLevelDecls.shape.decode (pruneRecord entry)

theorem prune_nodup (nodup : (members.map (·.1)).Nodup) : ((prune members).map (·.1)).Nodup :=
  nodup.sublist (Keyed.keys_revise_sublist.trans Keyed.keys_revise_sublist)

/-- The pruned document states the sound classes, or has no list of classes at all. -/
theorem Prunable.classes_stated (prunable : Prunable members) (nodup : (members.map (·.1)).Nodup) :
    Keyed.lookup? "classes" (prune members) = none ∧ soundClasses members = [] ∨
      ∃ value, Keyed.lookup? "classes" (prune members) = some value ∧
        ofJson (list ClassDecl.shape.decode) value = .ok (soundClasses members) := by
  have pruned : Keyed.lookup? "classes" (prune members) =
      (Keyed.lookup? "classes" members).bind pruneClasses := by
    rw [prune, Keyed.lookup?_revise_ne (by decide), Keyed.lookup?_revise nodup]
  rw [pruned, soundClasses, itemsOf, Json.member?, Json.asMembers?, Option.bind_some]
  cases found : Keyed.lookup? "classes" members with
  | none => exact .inl ⟨rfl, rfl⟩
  | some value =>
    obtain rfl | ⟨entries, rfl, -⟩ := prunable.classes value found
    · exact .inl ⟨rfl, rfl⟩
    · refine .inr ⟨_, rfl, ?_⟩
      rw [ofJson_filter_decodes, List.filterMap_map]
      rfl

theorem topLevelEntry_eq_some_iff {entry : Json} :
    topLevelEntry members = some entry ↔
      Keyed.lookup? "static_functions" members = some entry ∧ entry ≠ .null := by
  unfold topLevelEntry
  split
  · simp_all
  · simp_all
  · rename_i other notNull found
    rw [found]
    constructor
    · rintro ⟨⟩
      exact ⟨rfl, notNull⟩
    · exact fun same => same.1

theorem pruneRecord_ne_null {entry : Json} (present : entry ≠ .null) :
    pruneRecord entry ≠ .null := by
  cases entry with
  | null => exact absurd rfl present
  | _ => simp [pruneRecord]

theorem pruneTopLevel_of_ne_null {entry : Json} (present : entry ≠ .null) :
    pruneTopLevel entry =
      if decodes TopLevelDecls.shape.decode (pruneRecord entry) then some (pruneRecord entry)
      else none := by
  fun_cases pruneTopLevel entry with
  | case1 => exact absurd rfl present
  | case2 => rfl

/-- It states the sound top-level functions, or none. -/
theorem topLevel_stated (nodup : (members.map (·.1)).Nodup) :
    Keyed.lookup? "static_functions" (prune members) = none ∧ soundTopLevel members = none ∨
      ∃ value, Keyed.lookup? "static_functions" (prune members) = some value ∧
        ofJson (optional TopLevelDecls.shape.decode) value = .ok (soundTopLevel members) := by
  have pruned : Keyed.lookup? "static_functions" (prune members) =
      (Keyed.lookup? "static_functions" members).bind pruneTopLevel := by
    rw [prune, Keyed.lookup?_revise (nodup.sublist Keyed.keys_revise_sublist),
      Keyed.lookup?_revise_ne (by decide)]
  rw [pruned, soundTopLevel]
  cases found : topLevelEntry members with
  | none =>
    rw [topLevelEntry] at found
    split at found
    · rename_i absent
      exact .inl ⟨by rw [absent]; rfl, rfl⟩
    · rename_i null
      exact .inr ⟨.null, by rw [null]; rfl, rfl⟩
    · cases found
  | some entry =>
    obtain ⟨given, present⟩ := topLevelEntry_eq_some_iff.1 found
    rw [given, Option.bind_some, Option.bind_some, pruneTopLevel_of_ne_null present, decodes,
      decoded?]
    cases decoded : ofJson TopLevelDecls.shape.decode (pruneRecord entry) with
    | error reason => exact .inl ⟨rfl, rfl⟩
    | ok decls =>
      refine .inr ⟨pruneRecord entry, rfl, ?_⟩
      rw [ofJson, optional_eq_map _ (ofJson_ne_null (pruneRecord_ne_null present))]
      exact map_eq_ok_iff.2 ⟨decls, decoded, rfl⟩

theorem Prunable.entry_sorted (prunable : Prunable members)
    (sorted : (Json.object members).Sorted) :
    ∀ entry ∈ itemsOf "classes" (.object members), entry.Sorted ∧ entry.isList = false := by
  intro entry among
  rw [itemsOf, Json.member?, Json.asMembers?, Option.bind_some] at among
  split at among
  · rename_i entries found
    have whole := sorted_of_lookup? sorted found
    obtain null | ⟨_, same, noLists⟩ := prunable.classes _ found
    · cases null
    · cases same
      cases whole with
      | array inner => exact ⟨inner entry among, noLists entry among⟩
  · cases among

end

end Loading

open Loading

/-- What loads of a document is what is decoded of it once it is pruned, and every entry that is
pruned is named. -/
theorem SourceFile.load_prune {members : List (String × Json)}
    (sorted : (Json.object members).Sorted) (prunable : Prunable members) :
    ofJson shape.decode (.object (prune members)) =
        .ok ⟨soundClasses members, soundTopLevel members⟩ ∧
      load (.object members) =
        .ok ⟨⟨soundClasses members, soundTopLevel members⟩, refused members⟩ := by
  have nodup : (members.map (·.1)).Nodup := by
    cases sorted with
    | object ascending inner => exact ascending.nodup
  refine ⟨decoded_of_fields (prune_nodup nodup) (prunable.classes_stated nodup)
    (topLevel_stated nodup), ?_⟩
  have classes : gather loadClass (itemsOf "classes" (.object members)) =
      (soundClasses members, (itemsOf "classes" (.object members)).flatMap refusedClass) := by
    refine gather_eq fun entry among => ?_
    obtain ⟨entrySorted, noList⟩ := prunable.entry_sorted sorted entry among
    exact loadClass_eq entrySorted noList
  rw [load, prunable.classEntries_eq, refused, soundTopLevel]
  simp only [bind, Except.bind, classes]
  cases found : topLevelEntry members with
  | none => simp [pure, Except.pure]
  | some entry =>
    obtain ⟨given, -⟩ := topLevelEntry_eq_some_iff.1 found
    have loaded := loadTopLevel_eq (sorted_of_lookup? sorted given) (prunable.topLevel _ given)
    simp [loaded, pure, Except.pure]

/-- A text loads as its document decodes once it is pruned, and one entry is skipped for each that
is pruned. -/
theorem SourceFile.loadText_pruned {text : String} {members : List (String × Json)}
    (parsed : Json.parse text = .ok (.object members)) (prunable : Prunable members) :
    ∃ file, ofJson shape.decode (.object (prune members)) = .ok file ∧
      loadText text = .ok ⟨file, refused members⟩ := by
  obtain ⟨decoded, loaded⟩ := load_prune (Json.sorted_parse parsed) prunable
  refine ⟨_, decoded, ?_⟩
  rw [loadText, parsed]
  exact loaded

/-- A class with a function whose type is no type, a class that is a truth value, and top-level
functions without a package. -/
def Loading.flawed : String :=
  "\x7b\"static_functions\": \x7b\"functions\": [null]\x7d, \"classes\": [true, \x7b" ++
    "\"package_name\": \"p\", \"class_name\": \"C\", \"functions\": [\x7b\"name\": \"f\", " ++
    "\"return_type\": \"Int\"\x7d, \x7b\"name\": \"g\", \"return_type\": \"?\"\x7d]\x7d]\x7d"

/-- The members of that document. -/
def Loading.flawedMembers : List (String × Json) :=
  [("classes", .array [.boolean true, .object [("class_name", .string "C"),
      ("functions", .array [
        .object [("name", .string "f"), ("return_type", .string "Int")],
        .object [("name", .string "g"), ("return_type", .string "?")]]),
      ("package_name", .string "p")]]),
    ("static_functions", .object [("functions", .array [.null])])]

set_option maxRecDepth 2000 in
/-- All kinds of deletions in one document, with the reasons in its order. -/
theorem SourceFile.loadText_flawed :
    Json.parse flawed = .ok (.object flawedMembers) ∧ Prunable flawedMembers ∧
    prune flawedMembers = [("classes", .array [.object [("class_name", .string "C"),
      ("functions", .array [.object [("name", .string "f"), ("return_type", .string "Int")]]),
      ("package_name", .string "p")]])] ∧
    loadText flawed = .ok ⟨⟨[⟨"p", .empty, "C", false, [],
        [⟨"f", false, [], none, .specific "Int" false⟩]⟩], none⟩,
      [⟨"<unnamed class>", .wrongType (.boolean true) "struct ClassMetadata"⟩,
       ⟨"C.g", .badSignature ⟨"?"⟩⟩,
       ⟨"<unnamed function>", .wrongType .null "struct FunctionMetadata"⟩,
       ⟨"<top-level functions>", .missingField "package_name"⟩]⟩ := by
  have parsed : Json.parse flawed = .ok (.object flawedMembers) := by
    rw [parse_eq_ok_iff, Json.read_eq]
    cbv
  have prunable : Prunable flawedMembers := by
    constructor
    · simp [flawedMembers, Keyed.lookup?, Json.isList]
    · simp [flawedMembers, Keyed.lookup?, Json.isList]
  have pruned : prune flawedMembers = [("classes", .array [.object [("class_name", .string "C"),
      ("functions", .array [.object [("name", .string "f"), ("return_type", .string "Int")]]),
      ("package_name", .string "p")]])] := by cbv
  have named : refused flawedMembers =
      [⟨"<unnamed class>", .wrongType (.boolean true) "struct ClassMetadata"⟩,
       ⟨"C.g", .badSignature ⟨"?"⟩⟩,
       ⟨"<unnamed function>", .wrongType .null "struct FunctionMetadata"⟩,
       ⟨"<top-level functions>", .missingField "package_name"⟩] := by cbv
  obtain ⟨file, decoded, loaded⟩ := loadText_pruned parsed prunable
  have sound : ofJson shape.decode (.object (prune flawedMembers)) =
      .ok ⟨[⟨"p", .empty, "C", false, [],
        [⟨"f", false, [], none, .specific "Int" false⟩]⟩], none⟩ := by
    rw [pruned]
    cbv
  rw [sound, Except.ok.injEq] at decoded
  rw [named, ← decoded] at loaded
  exact ⟨parsed, prunable, pruned, loaded⟩

end MockScaffold
