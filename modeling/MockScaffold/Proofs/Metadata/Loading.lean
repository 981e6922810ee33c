import Mathlib.Data.List.Permutation
import Mathlib.Data.Option.NAry
import MockScaffold.Metadata.Loading
import MockScaffold.Proofs.Json.Tokens
import MockScaffold.Proofs.Metadata.Decoding

/-!
A document that decodes as a whole loads entry by entry, with nothing skipped.
The functions of a record that is written as an object are taken out of it and
decoded on their own, which yields what decoding the record yields. Of a record
that is written as a list no functions are taken out, and those it states are
lost.
-/

namespace MockScaffold
open Decoding
open Json (Document)

variable {ρ : Type}

/-- The last field of a shape. -/
def functionsField (put : List FunctionDecl → ρ → ρ) : Decoding.Field ρ :=
  .defaulted "functions" (list FunctionDecl.shape.decode) put

/-- The last field of the shape states functions, which are none unless they are given. -/
structure HoldsFunctions (shape : Shape ρ) (put : List FunctionDecl → ρ → ρ) : Prop where
  regular : Regular shape.fields
  last : ∃ front, shape.fields = front ++ [functionsField put]
  blank : put [] shape.blank = shape.blank

theorem ClassDecl.holdsFunctions :
    HoldsFunctions ClassDecl.shape fun functions c => { c with functions } :=
  ⟨shape_regular, ⟨shape.fields.dropLast, rfl⟩, rfl⟩

theorem TopLevelDecls.holdsFunctions :
    HoldsFunctions TopLevelDecls.shape fun functions t => { t with functions } :=
  ⟨shape_regular, ⟨shape.fields.dropLast, rfl⟩, rfl⟩

namespace HoldsFunctions

variable {shape : Shape ρ} {put : List FunctionDecl → ρ → ρ} {front : List (Decoding.Field ρ)}

theorem name_ne (holds : HoldsFunctions shape put)
    (fields : shape.fields = front ++ [functionsField put]) {field : Decoding.Field ρ}
    (among : field ∈ front) : field.name ≠ "functions" := by
  have distinct := holds.regular.distinct
  rw [fields, List.pairwise_append] at distinct
  exact distinct.2.2 field among _ List.mem_cons_self

/-- The other fields do not touch the functions. -/
theorem commutes (holds : HoldsFunctions shape put)
    (fields : shape.fields = front ++ [functionsField put]) {field : Decoding.Field ρ}
    (among : field ∈ front) {document : Document} {set : ρ → ρ}
    (decoded : field.decode document = .ok set) (record : ρ) :
    put [] (set record) = set (put [] record) := by
  have commute := holds.regular.commute
  rw [fields, List.pairwise_append] at commute
  exact (commute.2.2 field among _ List.mem_cons_self document (.array [] none) set (put [])
    decoded rfl record).symm

theorem fill_of_absent (fields : shape.fields = front ++ [functionsField put])
    {get : String → Option Document} (absent : get "functions" = none) (record : ρ) :
    fill get shape.fields record = fill get front record := by
  have nothing (r : ρ) : fill get [functionsField put] r = .ok r :=
    fill_none (by simpa [functionsField, Field.defaulted] using absent) r
  rw [fields, fill_append, funext nothing]
  cases fill get front record <;> rfl

/-- Functions that are given are set when all other fields are. -/
theorem fill_of_given (fields : shape.fields = front ++ [functionsField put])
    {get : String → Option Document} {document : Document}
    (given : get "functions" = some document) {record r : ρ} :
    fill get shape.fields record = .ok r ↔
      ∃ rest functions, fill get front record = .ok rest ∧
        list FunctionDecl.shape.decode document = .ok functions ∧ put functions rest = r := by
  have last (rest : ρ) : fill get [functionsField put] rest = .ok r ↔
      ∃ functions, list FunctionDecl.shape.decode document = .ok functions ∧
        put functions rest = r := by
    rw [@fill_given ρ get (functionsField put) document given, bind_eq_ok_iff]
    simp [functionsField, Field.defaulted, map_eq_ok_iff, fill]
  simp only [fields, fill_append, bind_eq_ok_iff, last, exists_and_left]

theorem given?_erase (holds : HoldsFunctions shape put)
    (fields : shape.fields = front ++ [functionsField put]) (members : List (String × Json))
    {field : Decoding.Field ρ} (among : field ∈ front) :
    given? (Keyed.erase "functions" members) field.name = given? members field.name := by
  rw [given?, given?, Keyed.lookup?_erase, if_neg (holds.name_ne fields among).symm]

theorem given?_erase_self (members : List (String × Json)) :
    given? (Keyed.erase "functions" members) "functions" = none := by
  rw [given?_eq_none_iff, Keyed.lookup?_erase, if_pos rfl]

/-- Without the member for functions, only the other fields are filled. -/
theorem fill_erase (holds : HoldsFunctions shape put)
    (fields : shape.fields = front ++ [functionsField put]) (members : List (String × Json))
    (record : ρ) :
    fill (given? (Keyed.erase "functions" members)) shape.fields record =
      fill (given? members) front record := by
  rw [fill_of_absent fields (given?_erase_self members)]
  exact fill_congr (fun field among => holds.given?_erase fields members among) record

/-- Functions are not required, so nothing is missing without them. -/
theorem complete_erase_iff (holds : HoldsFunctions shape put)
    (fields : shape.fields = front ++ [functionsField put]) (members : List (String × Json)) :
    shape.Complete (given? (Keyed.erase "functions" members)) ↔
      shape.Complete (given? members) := by
  refine forall₂_congr fun field isField => ?_
  rw [fields, List.mem_append, List.mem_singleton] at isField
  rcases isField with among | rfl
  · rw [holds.given?_erase fields members among]
  · simp [functionsField, Field.defaulted]

theorem names_erase_nodup {members : List (String × Json)} (nodup : (shape.names members).Nodup)
    (key : String) : (shape.names (Keyed.erase key members)).Nodup :=
  nodup.sublist ((List.filter_sublist.map _).filter _)

theorem put_of_absent (holds : HoldsFunctions shape put) {members : List (String × Json)}
    (absent : Keyed.lookup? "functions" members = none) {record : ρ}
    (decoded : ofJson shape.decode (.object members) = .ok record) : put [] record = record := by
  obtain ⟨front, fields⟩ := holds.last
  obtain ⟨-, -, filled⟩ := (ofJson_object_eq_ok_iff holds.regular).1 decoded
  rw [fill_of_absent fields (given?_eq_none_iff.2 absent)] at filled
  have moved : fill (given? members) front (put [] shape.blank) =
      (fill (given? members) front shape.blank).map (put []) := fill_commute
    (fun field among d set decoded r => holds.commutes fields among decoded r) shape.blank
  rw [holds.blank, filled, Except.map, Except.ok.injEq] at moved
  exact moved.symm

/-- A record that states functions is what it is without them, with these functions. -/
theorem ofJson_given_iff (holds : HoldsFunctions shape put) {members : List (String × Json)}
    {value : Json} (given : Keyed.lookup? "functions" members = some value) {record : ρ} :
    ofJson shape.decode (.object members) = .ok record ↔
      (shape.names members).Nodup ∧
      ∃ rest functions, ofJson shape.decode (.object (Keyed.erase "functions" members)) = .ok rest ∧
        ofJson (list FunctionDecl.shape.decode) value = .ok functions ∧
        put functions rest = record := by
  obtain ⟨front, fields⟩ := holds.last
  simp only [ofJson_object_eq_ok_iff holds.regular, holds.fill_erase fields,
    holds.complete_erase_iff fields, fill_of_given fields (given?_of_lookup? given)]
  constructor
  · rintro ⟨nodup, complete, rest, functions, filled, decoded, same⟩
    exact ⟨nodup, rest, functions, ⟨names_erase_nodup nodup _, complete, filled⟩, decoded, same⟩
  · rintro ⟨nodup, rest, functions, ⟨-, complete, filled⟩, decoded, same⟩
    exact ⟨nodup, complete, rest, functions, filled, decoded, same⟩

end HoldsFunctions

/-! ## Entries that decode -/

def Json.isList : Json → Bool
  | .array _ => true
  | _ => false

/-- The class that is loaded of an entry that states it: a list loses its functions. -/
def ClassDecl.loadedFrom (decl : ClassDecl) (entry : Json) : ClassDecl :=
  if entry.isList then { decl with functions := [] } else decl

/-- The top-level functions that are loaded of an entry that states them: a list loses them. -/
def TopLevelDecls.loadedFrom (decls : TopLevelDecls) (entry : Json) : TopLevelDecls :=
  if entry.isList then { decls with functions := [] } else decls

/-- A file has the classes and the top-level functions that its members state, if they do. -/
theorem SourceFile.fields_of_decoded {members : List (String × Json)} {file : SourceFile}
    (decoded : ofJson SourceFile.shape.decode (.object members) = .ok file) :
    (Keyed.lookup? "classes" members = none ∧ file.classes = [] ∨
      ∃ value, Keyed.lookup? "classes" members = some value ∧
        ofJson (list ClassDecl.shape.decode) value = .ok file.classes) ∧
    (Keyed.lookup? "static_functions" members = none ∧ file.topLevel = none ∨
      ∃ value, Keyed.lookup? "static_functions" members = some value ∧
        ofJson (optional TopLevelDecls.shape.decode) value = .ok file.topLevel) := by
  obtain ⟨-, -, filled⟩ := (ofJson_object_eq_ok_iff SourceFile.shape_regular).1 decoded
  simp only [shape, Field.defaulted, fill_cons_iff, fill_nil, Except.ok.injEq] at filled
  rcases filled with ⟨noClasses, ⟨noTopLevel, rfl⟩ | ⟨value, topLevel, given, decodes, rfl⟩⟩ |
    ⟨listing, classes, listed, decodesAll,
      ⟨noTopLevel, rfl⟩ | ⟨value, topLevel, given, decodes, rfl⟩⟩
  · exact ⟨.inl ⟨noClasses, rfl⟩, .inl ⟨noTopLevel, rfl⟩⟩
  · exact ⟨.inl ⟨noClasses, rfl⟩, .inr ⟨value, given, decodes⟩⟩
  · exact ⟨.inr ⟨listing, listed, decodesAll⟩, .inl ⟨noTopLevel, rfl⟩⟩
  · exact ⟨.inr ⟨listing, listed, decodesAll⟩, .inr ⟨value, given, decodes⟩⟩

/-- Members that state classes and top-level functions, or leave them out, state the file. -/
theorem SourceFile.decoded_of_fields {members : List (String × Json)}
    {classes : List ClassDecl} {topLevel : Option TopLevelDecls}
    (nodup : (members.map (·.1)).Nodup)
    (classesStated : Keyed.lookup? "classes" members = none ∧ classes = [] ∨
      ∃ value, Keyed.lookup? "classes" members = some value ∧
        ofJson (list ClassDecl.shape.decode) value = .ok classes)
    (topLevelStated : Keyed.lookup? "static_functions" members = none ∧ topLevel = none ∨
      ∃ value, Keyed.lookup? "static_functions" members = some value ∧
        ofJson (optional TopLevelDecls.shape.decode) value = .ok topLevel) :
    ofJson shape.decode (.object members) = .ok ⟨classes, topLevel⟩ := by
  refine (ofJson_object_eq_ok_iff shape_regular).2 ⟨nodup.filter _, ?_, ?_⟩
  · simp [Shape.Complete, shape, Field.defaulted]
  · simp only [shape, Field.defaulted, fill_cons_iff, fill_nil, Except.ok.injEq,
      SourceFile.mk.injEq]
    rcases classesStated with ⟨absent, rfl⟩ | ⟨value, given, decodes⟩ <;>
      rcases topLevelStated with ⟨absent', rfl⟩ | ⟨value', given', decodes'⟩ <;>
        simp [*]

namespace Loading

/-- If every entry loads, nothing is skipped. -/
theorem gather_loaded {α : Type} {load : Json → Option α × List SkippedEntry}
    {entries : List Json} {found : List α}
    (loaded : List.Forall₂ (fun entry a => load entry = (some a, [])) entries found) :
    gather load entries = (found, []) := by
  induction loaded with
  | nil => rfl
  | cons head _ ih =>
    rw [gather, Prod.mk.injEq] at ih ⊢
    simpa [head] using ih

theorem loadFunction_of_decoded (owner : String) {entry : Json} {function : FunctionDecl}
    (decoded : ofJson FunctionDecl.shape.decode entry = .ok function) :
    loadFunction owner entry = (some function, []) := by
  rw [loadFunction, decoded]

theorem gather_loadFunction (owner : String) {entries : List Json} {functions : List FunctionDecl}
    (decoded : List.Forall₂ (fun entry function =>
      ofJson FunctionDecl.shape.decode entry = .ok function) entries functions) :
    gather (loadFunction owner) entries = (functions, []) :=
  gather_loaded (decoded.imp fun _ _ => loadFunction_of_decoded owner)

/-- What is left of an entry that decodes decodes too, and so do the functions taken out of it.
Together they are the record, except that one written as a list has lost its functions. -/
theorem takeFunctions_of_decoded {shape : Shape ρ} {put : List FunctionDecl → ρ → ρ}
    (holds : HoldsFunctions shape put) {entry : Json} {record : ρ}
    (decoded : ofJson shape.decode entry = .ok record) :
    ∃ rest functions, ofJson shape.decode (takeFunctions entry).1 = .ok rest ∧
      List.Forall₂ (fun entry function => ofJson FunctionDecl.shape.decode entry = .ok function)
        (takeFunctions entry).2 functions ∧
      put functions rest = if entry.isList then put [] record else record := by
  fun_cases takeFunctions entry with
  | case1 members entries given =>
    obtain ⟨-, rest, functions, restDecoded, listed, same⟩ :=
      (holds.ofJson_given_iff given).1 decoded
    obtain ⟨_, eq, each⟩ := ofJson_list_eq_ok_iff.1 listed
    cases eq
    exact ⟨rest, functions, restDecoded, each, same⟩
  | case2 members noList =>
    cases found : Keyed.lookup? "functions" members with
    | none => exact ⟨record, [], decoded, .nil, holds.put_of_absent found decoded⟩
    | some value =>
      obtain ⟨-, _, _, -, listed, -⟩ := (holds.ofJson_given_iff found).1 decoded
      obtain ⟨entries, rfl, -⟩ := ofJson_list_eq_ok_iff.1 listed
      exact absurd found (noList entries)
  | case3 entry noObject =>
    refine ⟨record, [], decoded, .nil, ?_⟩
    cases entry with
    | array elements => rfl
    | object members => exact absurd rfl (noObject members)
    | _ => cases decoded

/-- A class that decodes loads, but as a list it loses its functions. -/
theorem loadClass_of_decoded {entry : Json} {decl : ClassDecl}
    (decoded : ofJson ClassDecl.shape.decode entry = .ok decl) :
    loadClass entry = (some (decl.loadedFrom entry), []) := by
  obtain ⟨rest, functions, restDecoded, each, same⟩ :=
    takeFunctions_of_decoded ClassDecl.holdsFunctions decoded
  simp only [loadClass, gather_loadFunction _ each, restDecoded]
  rw [same, ClassDecl.loadedFrom]

theorem gather_loadClass {entries : List Json} {classes : List ClassDecl}
    (decoded : List.Forall₂ (fun entry decl => ofJson ClassDecl.shape.decode entry = .ok decl)
      entries classes) :
    gather loadClass entries = (classes.zipWith ClassDecl.loadedFrom entries, []) := by
  refine gather_loaded ?_
  induction decoded with
  | nil => exact .nil
  | cons head _ ih => exact .cons (loadClass_of_decoded head) ih

/-- So do top-level functions. -/
theorem loadTopLevel_of_decoded {entry : Json} {decls : TopLevelDecls}
    (decoded : ofJson TopLevelDecls.shape.decode entry = .ok decls) :
    loadTopLevel entry = (some (decls.loadedFrom entry), []) := by
  obtain ⟨rest, functions, restDecoded, each, same⟩ :=
    takeFunctions_of_decoded TopLevelDecls.holdsFunctions decoded
  simp only [loadTopLevel, gather_loadFunction _ each, restDecoded]
  rw [same, TopLevelDecls.loadedFrom]

theorem classEntries_of_decoded {members : List (String × Json)} {file : SourceFile}
    (decoded : ofJson SourceFile.shape.decode (.object members) = .ok file) :
    ∃ entries, classEntries members = .ok entries ∧
      List.Forall₂ (fun entry decl => ofJson ClassDecl.shape.decode entry = .ok decl)
        entries file.classes := by
  rcases (SourceFile.fields_of_decoded decoded).1 with ⟨absent, none⟩ | ⟨value, found, listed⟩
  · refine ⟨[], ?_, none ▸ .nil⟩
    rw [classEntries, absent]
  · obtain ⟨entries, rfl, each⟩ := ofJson_list_eq_ok_iff.1 listed
    refine ⟨entries, ?_, each⟩
    rw [classEntries, found]

theorem topLevelEntry_of_decoded {members : List (String × Json)} {file : SourceFile}
    (decoded : ofJson SourceFile.shape.decode (.object members) = .ok file) :
    Option.Rel (fun entry decls => ofJson TopLevelDecls.shape.decode entry = .ok decls)
      (topLevelEntry members) file.topLevel := by
  rcases (SourceFile.fields_of_decoded decoded).2 with ⟨absent, none⟩ | ⟨value, found, stated⟩
  · rw [topLevelEntry, absent, none]
    exact .none
  · by_cases null : value = .null
    · subst null
      have none : none = file.topLevel := Except.ok.inj stated
      rw [topLevelEntry, found, ← none]
      exact .none
    · rw [ofJson, optional_eq_map _ (ofJson_ne_null null), map_eq_ok_iff] at stated
      obtain ⟨decls, decodes, some⟩ := stated
      have entry : topLevelEntry members = .some value := by
        cases value with
        | null => exact absurd rfl null
        | _ => rw [topLevelEntry, found]
      rw [entry, ← some]
      exact .some decodes

/-- The entries for classes of a document, or none if there is no list of them. -/
def listedClasses (members : List (String × Json)) : List Json :=
  match classEntries members with
  | .ok entries => entries
  | .error _ => []

end Loading

/-! ## Documents that decode -/

open Loading

/-- What is loaded of the members that state a file. -/
def SourceFile.loadedFrom (file : SourceFile) (members : List (String × Json)) : SourceFile where
  classes := file.classes.zipWith ClassDecl.loadedFrom (listedClasses members)
  topLevel := Option.map₂ TopLevelDecls.loadedFrom file.topLevel (topLevelEntry members)

/-- No class that is written as a list, and no top-level functions so written, state functions. -/
def SourceFile.ListsNoFunctions (file : SourceFile) (members : List (String × Json)) : Prop :=
  (∀ pair ∈ file.classes.zip (listedClasses members), pair.2.isList → pair.1.functions = []) ∧
  ∀ decls ∈ file.topLevel, ∀ entry ∈ topLevelEntry members, entry.isList → decls.functions = []

theorem ClassDecl.loadedFrom_eq_self_iff (decl : ClassDecl) (entry : Json) :
    decl.loadedFrom entry = decl ↔ (entry.isList → decl.functions = []) := by
  rw [loadedFrom, ite_eq_right_iff]
  cases decl
  simp [@eq_comm _ []]

theorem TopLevelDecls.loadedFrom_eq_self_iff (decls : TopLevelDecls) (entry : Json) :
    decls.loadedFrom entry = decls ↔ (entry.isList → decls.functions = []) := by
  rw [loadedFrom, ite_eq_right_iff]
  cases decls
  simp [@eq_comm _ []]

/-- A list is kept in a combination exactly if each item of it is. -/
theorem zipWith_eq_left_iff {α β : Type} {R : β → α → Prop} {f : α → β → α} {xs : List α}
    {ys : List β} (related : List.Forall₂ R ys xs) :
    xs.zipWith f ys = xs ↔ ∀ pair ∈ xs.zip ys, f pair.1 pair.2 = pair.1 := by
  induction related with
  | nil => simp
  | cons _ _ ih => simp [ih]

/-- A file loads as it is stated exactly if no list states functions. -/
theorem SourceFile.loadedFrom_eq_self_iff {members : List (String × Json)} {file : SourceFile}
    (decoded : ofJson SourceFile.shape.decode (.object members) = .ok file) :
    file.loadedFrom members = file ↔ file.ListsNoFunctions members := by
  obtain ⟨entries, listed, each⟩ := classEntries_of_decoded decoded
  have listing : listedClasses members = entries := by rw [listedClasses, listed]
  have classes : file.classes.zipWith ClassDecl.loadedFrom entries = file.classes ↔
      ∀ pair ∈ file.classes.zip entries, pair.2.isList → pair.1.functions = [] := by
    simp only [zipWith_eq_left_iff each, ClassDecl.loadedFrom_eq_self_iff]
  have same : file.loadedFrom members = file ↔
      file.classes.zipWith ClassDecl.loadedFrom entries = file.classes ∧
      Option.map₂ TopLevelDecls.loadedFrom file.topLevel (topLevelEntry members) =
        file.topLevel := by
    rw [loadedFrom, listing]
    cases file
    simp
  rw [same, classes, ListsNoFunctions, listing]
  refine and_congr_right fun _ => ?_
  rcases rel_cases (topLevelEntry_of_decoded decoded) with
    ⟨entry, topLevel⟩ | ⟨entry, decls, found, stated, -⟩
  · simp [entry, topLevel]
  · simp [found, stated, TopLevelDecls.loadedFrom_eq_self_iff]

/-- A value that decodes loads with nothing skipped, without the functions that lists state. -/
theorem SourceFile.load_of_decoded {members : List (String × Json)} {file : SourceFile}
    (decoded : ofJson SourceFile.shape.decode (.object members) = .ok file) :
    load (.object members) = .ok ⟨file.loadedFrom members, []⟩ := by
  obtain ⟨entries, listed, each⟩ := classEntries_of_decoded decoded
  have listing : listedClasses members = entries := by rw [listedClasses, listed]
  rw [load, loadedFrom, listing, listed]
  simp only [gather_loadClass each, bind, Except.bind]
  rcases rel_cases (topLevelEntry_of_decoded decoded) with
    ⟨entry, topLevel⟩ | ⟨entry, decls, found, stated, decodes⟩
  · simp [entry, topLevel, pure, Except.pure]
  · simp [found, stated, loadTopLevel_of_decoded decodes, pure, Except.pure]

/-- A text that decodes as a whole loads with nothing skipped, and yields the same file exactly if
no class that is written as a list, and no top-level functions so written, state functions. -/
theorem SourceFile.loadText_of_decoded {text : String} {members : List (String × Json)}
    {file : SourceFile} (parsed : Json.parse text = .ok (.object members))
    (decoded : ofText SourceFile.shape.decode text = .ok file) :
    loadText text = .ok ⟨file.loadedFrom members, []⟩ ∧
      (loadText text = .ok ⟨file, []⟩ ↔ file.ListsNoFunctions members) := by
  have stated := decode_faithful.ofJson_parsed parsed decoded
  have loaded : loadText text = .ok ⟨file.loadedFrom members, []⟩ := by
    rw [loadText, parsed]
    exact load_of_decoded stated
  refine ⟨loaded, ?_⟩
  rw [loaded, ← loadedFrom_eq_self_iff stated]
  simp

/-- A document whose only class is written as an object, with a function. -/
def Loading.classObject : String :=
  "\x7b\"classes\": [\x7b\"package_name\": \"p\", \"class_name\": \"C\", " ++
    "\"functions\": [[\"f\", false, [], null, \"Int\"]]\x7d]\x7d"

/-- A class that is written as an object keeps its function. -/
theorem SourceFile.loadText_class_object :
    (∃ members, Json.parse classObject = .ok (.object members)) ∧
    ofText shape.decode classObject = .ok ⟨[⟨"p", .empty, "C", false, [],
      [⟨"f", false, [], none, .specific "Int" false⟩]⟩], none⟩ ∧
    loadText classObject = .ok ⟨⟨[⟨"p", .empty, "C", false, [],
      [⟨"f", false, [], none, .specific "Int" false⟩]⟩], none⟩, []⟩ := by
  have parsed : Json.parse classObject = .ok (.object [("classes", .array [.object
      [("class_name", .string "C"), ("functions", .array [.array [.string "f", .boolean false,
        .array [], .null, .string "Int"]]), ("package_name", .string "p")]])]) := by
    rw [parse_eq_ok_iff, Json.read_eq]
    cbv
  have decoded : ofText shape.decode classObject = .ok ⟨[⟨"p", .empty, "C", false, [],
      [⟨"f", false, [], none, .specific "Int" false⟩]⟩], none⟩ := by
    rw [ofText_eq_ok_iff, Json.read_eq]
    cbv
  refine ⟨⟨_, parsed⟩, decoded, (loadText_of_decoded parsed decoded).2.2 ⟨?_, ?_⟩⟩
  · simp [listedClasses, classEntries, Keyed.lookup?, Json.isList]
  · simp

/-- A document whose only class is written as a list, with a function. -/
def Loading.classList : String :=
  "\x7b\"classes\": [[\"p\", \x7b\x7d, \"C\", false, [], [[\"f\", false, [], null, \"Int\"]]]]\x7d"

/-- The class is decoded with its function and loaded without it. -/
theorem SourceFile.loadText_class_list :
    (∃ members, Json.parse classList = .ok (.object members)) ∧
    ofText shape.decode classList = .ok ⟨[⟨"p", .empty, "C", false, [],
      [⟨"f", false, [], none, .specific "Int" false⟩]⟩], none⟩ ∧
    loadText classList = .ok ⟨⟨[⟨"p", .empty, "C", false, [], []⟩], none⟩, []⟩ ∧
    loadText classList ≠ .ok ⟨⟨[⟨"p", .empty, "C", false, [],
      [⟨"f", false, [], none, .specific "Int" false⟩]⟩], none⟩, []⟩ := by
  have parsed : Json.parse classList = .ok (.object [("classes", .array [.array [.string "p",
      .object [], .string "C", .boolean false, .array [], .array [.array [.string "f",
        .boolean false, .array [], .null, .string "Int"]]]])]) := by
    rw [parse_eq_ok_iff, Json.read_eq]
    cbv
  have loaded : loadText classList = .ok ⟨⟨[⟨"p", .empty, "C", false, [], []⟩], none⟩, []⟩ := by
    rw [loadText, parsed]
    cbv
  refine ⟨⟨_, parsed⟩, ?_, loaded, ?_⟩
  · rw [ofText_eq_ok_iff, Json.read_eq]
    cbv
  · rw [loaded]
    simp

end MockScaffold
