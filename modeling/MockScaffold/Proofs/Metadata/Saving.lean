import MockScaffold.Proofs.Json.RoundTrip
import MockScaffold.Proofs.Metadata.Loading
import MockScaffold.Proofs.Metadata.Readable

namespace MockScaffold
open Decoding Loading
open Json (Document Plain plain_list plain_optional)

theorem ImportMap.plain_toJson (imports : ImportMap) (depth : Nat) :
    Plain (depth + 1) imports.toJson := by
  refine .object fun member among => ?_
  obtain ⟨entry, -, rfl⟩ := List.mem_map.1 among
  exact .string entry.2

theorem Parameter.plain_toJson (p : Parameter) (depth : Nat) : Plain (depth + 1) p.toJson := by
  refine .object ?_
  simp only [List.forall_mem_cons, List.not_mem_nil, false_imp_iff, implies_true, and_true]
  exact ⟨.string _, .string _⟩

theorem FunctionDecl.plain_toJson (f : FunctionDecl) (depth : Nat) :
    Plain (depth + 3) f.toJson := by
  refine .object ?_
  simp only [List.forall_mem_append, List.forall_mem_cons, List.not_mem_nil, false_imp_iff,
    implies_true, and_true]
  refine ⟨⟨⟨.string _, .boolean _, ?_⟩, ?_⟩, .string _⟩
  · exact plain_list (fun p : Parameter => p.plain_toJson depth) f.parameters
  · exact plain_optional (fun text => .string text) f.body

theorem ClassDecl.plain_toJson (c : ClassDecl) (depth : Nat) : Plain (depth + 5) c.toJson := by
  refine .object ?_
  simp only [List.forall_mem_cons, List.not_mem_nil, false_imp_iff, implies_true, and_true]
  exact ⟨.string _, c.imports.plain_toJson _, .string _, .boolean _,
    plain_list (fun p : Parameter => p.plain_toJson (depth + 2)) _,
    plain_list (fun f : FunctionDecl => f.plain_toJson depth) _⟩

theorem TopLevelDecls.plain_toJson (t : TopLevelDecls) (depth : Nat) :
    Plain (depth + 5) t.toJson := by
  refine .object ?_
  simp only [List.forall_mem_cons, List.not_mem_nil, false_imp_iff, implies_true, and_true]
  exact ⟨.string _, t.imports.plain_toJson _,
    plain_list (fun f : FunctionDecl => f.plain_toJson depth) _⟩

/-- A file is written without numbers, and nested far less deeply than a reader allows. -/
theorem SourceFile.plain_toJson (s : SourceFile) : Plain 7 s.toJson := by
  refine .object ?_
  simp only [List.forall_mem_append, List.forall_mem_cons, List.not_mem_nil, false_imp_iff,
    implies_true, and_true]
  constructor
  · exact plain_list (fun c : ClassDecl => c.plain_toJson 0) s.classes
  · exact plain_optional (fun t : TopLevelDecls => t.plain_toJson 1) s.topLevel

theorem typeExpr_text {t : TypeExpr} (readable : t.Readable) :
    ofJson typeExpr (.string t.text) = .ok t := by
  rw [ofJson, Document.ofJson, typeExpr, string, bind_eq_ok_iff]
  refine ⟨t.text, rfl, ?_⟩
  rw [readable.reparse]

theorem Parameter.ofJson_toJson {p : Parameter} (readable : p.type.Readable) :
    ofJson shape.decode p.toJson = .ok p := by
  refine ofJson_object_of_fill shape_regular ["name", "type"] rfl (by decide)
    (by decide) ?_
  refine fill_stated rfl (ofJson_string p.name) ?_
  refine fill_stated rfl (typeExpr_text readable) ?_
  rfl

theorem ofJson_parameters {parameters : List Parameter}
    (readable : ∀ t ∈ parameters.map (·.type), t.Readable) :
    ofJson (list Parameter.shape.decode) (.array (parameters.map (·.toJson))) = .ok parameters :=
  ofJson_list_map fun _ among => Parameter.ofJson_toJson (readable _ (List.mem_map_of_mem among))

/-- A function with readable types is decoded from the value that states it. -/
theorem FunctionDecl.ofJson_toJson {f : FunctionDecl} (readable : ∀ t ∈ f.types, t.Readable) :
    ofJson shape.decode f.toJson = .ok f := by
  have parameters := ofJson_parameters fun t among => readable t (List.mem_append_left _ among)
  have returned : ofJson typeExpr (.string f.returnType.text) = .ok f.returnType :=
    typeExpr_text (readable _ (by simp [types]))
  obtain ⟨name, isAbstract, params, body, returnType⟩ := f
  cases body with
  | none =>
    refine ofJson_object_of_fill shape_regular ["name", "is_abstract", "parameters",
      "return_type"] rfl (by decide) (by decide) ?_
    refine fill_stated rfl (ofJson_string name) ?_
    refine fill_stated rfl (ofJson_boolean isAbstract) ?_
    refine fill_stated rfl parameters ?_
    refine fill_unstated rfl ?_
    refine fill_stated rfl returned ?_
    rfl
  | some text =>
    refine ofJson_object_of_fill shape_regular ["name", "is_abstract", "parameters", "body",
      "return_type"] rfl (by decide) (by decide) ?_
    refine fill_stated rfl (ofJson_string name) ?_
    refine fill_stated rfl (ofJson_boolean isAbstract) ?_
    refine fill_stated rfl parameters ?_
    refine fill_stated rfl (ofJson_optional_string text) ?_
    refine fill_stated rfl returned ?_
    rfl

theorem ofJson_functions {functions : List FunctionDecl}
    (readable : ∀ t ∈ functions.flatMap (·.types), t.Readable) :
    ofJson (list FunctionDecl.shape.decode) (.array (functions.map (·.toJson))) = .ok functions :=
  ofJson_list_map fun f among => FunctionDecl.ofJson_toJson fun t inside =>
    readable t (List.mem_flatMap.2 ⟨f, among, inside⟩)

theorem ClassDecl.ofJson_toJson {c : ClassDecl} (readable : ∀ t ∈ c.types, t.Readable) :
    ofJson shape.decode c.toJson = .ok c := by
  have parameters := ofJson_parameters fun t among => readable t (List.mem_append_left _ among)
  have functions := ofJson_functions fun t among => readable t (List.mem_append_right _ among)
  refine ofJson_object_of_fill shape_regular ["package_name", "imports", "class_name",
    "is_abstract", "constructor_parameters", "functions"] rfl (by decide)
    (by decide) ?_
  refine fill_stated rfl (ofJson_string c.packageName) ?_
  refine fill_stated rfl c.imports.ofJson_toJson ?_
  refine fill_stated rfl (ofJson_string c.className) ?_
  refine fill_stated rfl (ofJson_boolean c.isAbstract) ?_
  refine fill_stated rfl parameters ?_
  refine fill_stated rfl functions ?_
  rfl

theorem TopLevelDecls.ofJson_toJson {decls : TopLevelDecls}
    (readable : ∀ t ∈ decls.functions.flatMap (·.types), t.Readable) :
    ofJson shape.decode decls.toJson = .ok decls := by
  have functions := ofJson_functions readable
  refine ofJson_object_of_fill shape_regular ["package_name", "imports", "functions"] rfl
    (by decide) (by decide) ?_
  refine fill_stated rfl (ofJson_string decls.packageName) ?_
  refine fill_stated rfl decls.imports.ofJson_toJson ?_
  refine fill_stated rfl functions ?_
  rfl

/-- So is a file. -/
theorem SourceFile.ofJson_toJson {file : SourceFile} (readable : ∀ t ∈ file.types, t.Readable) :
    ofJson shape.decode file.toJson = .ok file := by
  have classes : ofJson (list ClassDecl.shape.decode)
      (.array (file.classes.map (·.toJson))) = .ok file.classes := by
    refine ofJson_list_map fun c among => ClassDecl.ofJson_toJson fun t inside => readable t ?_
    exact List.mem_append_left _ (List.mem_flatMap.2 ⟨c, among, inside⟩)
  obtain ⟨decls, topLevel⟩ := file
  cases topLevel with
  | none =>
    refine decoded_of_fields (by decide : ["classes"].Nodup) (.inr ⟨_, rfl, classes⟩)
      (.inl ⟨rfl, rfl⟩)
  | some functions =>
    have stated : ofJson TopLevelDecls.shape.decode functions.toJson = .ok functions := by
      refine TopLevelDecls.ofJson_toJson fun t among => readable t ?_
      exact List.mem_append_right _ (by simpa using among)
    exact decoded_of_fields (by decide : ["classes", "static_functions"].Nodup)
      (.inr ⟨_, rfl, classes⟩) (.inr ⟨_, rfl, map_eq_ok_iff.2 ⟨_, stated, rfl⟩⟩)

theorem Json.isList_sort (value : Json) : value.sort.isList = value.isList := by
  cases value <;> simp [sort, isList]

/-- With its members in order, a file states the classes first. -/
theorem SourceFile.sort_toJson (file : SourceFile) :
    file.toJson.sort = .object
      (("classes", .array (file.classes.map fun c => c.toJson.sort)) ::
        (file.topLevel.map fun decls => ("static_functions", decls.toJson.sort)).toList) := by
  have order : ¬ "static_functions" < "classes" := by decide
  obtain ⟨classes, topLevel⟩ := file
  cases topLevel with
  | none => simp [toJson, Json.sort, Json.sortMembers, Keyed.insert, Json.sortItems_eq_map]
  | some decls =>
    simp [toJson, Json.sort, Json.sortMembers, Keyed.insert, Json.sortItems_eq_map, order]

/-- A file is written with objects only, so no list loses functions. -/
theorem SourceFile.listsNoFunctions_sort {file : SourceFile} {members : List (String × Json)}
    (stated : file.toJson.sort = .object members) : file.ListsNoFunctions members := by
  rw [sort_toJson, Json.object.injEq] at stated
  subst stated
  constructor
  · intro pair among isList
    have listed : pair.2 ∈ file.classes.map fun c => c.toJson.sort := (List.of_mem_zip among).2
    obtain ⟨c, -, same⟩ := List.mem_map.1 listed
    rw [← same, Json.isList_sort] at isList
    cases isList
  · intro decls isTopLevel entry isEntry isList
    obtain ⟨classes, topLevel⟩ := file
    cases isTopLevel
    have same : decls.toJson.sort = entry := by
      simpa [topLevelEntry, Keyed.lookup?, TopLevelDecls.toJson, Json.sort] using isEntry
    rw [← same, Json.isList_sort] at isList
    cases isList

/-- Whatever text spells the tokens of a file is decoded and loaded as the file. -/
theorem SourceFile.reload_of_spells {file : SourceFile} (readable : ∀ t ∈ file.types, t.Readable)
    {text : String} (spells : Json.Spells text.toList (Json.tokensOf file.toJson)) :
    ofText shape.decode text = .ok file ∧ loadText text = .ok ⟨file, []⟩ := by
  have decoded : ofText shape.decode text = .ok file := by
    rw [ofText_eq_ok_iff, Json.read_of_spells spells]
    exact ⟨ofJson_toJson readable, rfl⟩
  have parsed := Json.parse_of_spells file.plain_toJson (by decide) spells
  have stated := decode_faithful.ofJson_parsed parsed decoded
  refine ⟨decoded, ?_⟩
  rw [sort_toJson] at stated
  have same := (loadedFrom_eq_self_iff stated).2 (listsNoFunctions_sort file.sort_toJson)
  rw [loadText, parsed, sort_toJson]
  simp only [load_of_decoded stated, same]

/-- Written in either layout, the file is decoded and loaded as it is. -/
def SourceFile.Reloads (file : SourceFile) : Prop :=
  ∀ text ∈ [file.toJson.compact, file.toJson.pretty],
    ofText shape.decode text = .ok file ∧ loadText text = .ok ⟨file, []⟩

theorem SourceFile.reloads_of_readable {file : SourceFile}
    (readable : ∀ t ∈ file.types, t.Readable) : file.Reloads := by
  intro text among
  simp only [List.mem_cons, List.not_mem_nil, or_false] at among
  rcases among with rfl | rfl
  · exact reload_of_spells readable (Json.spells_compact _ file.plain_toJson)
  · exact reload_of_spells readable (Json.spells_prettyAt _ 0 file.plain_toJson)

/-- A file whose types some signatures spell is read back from what is written of it, by decoding
and by loading with nothing skipped; and the types of a file that was loaded are such. -/
theorem SourceFile.reloads :
    (∀ file : SourceFile, (∀ t ∈ file.types, ∃ signature, TypeExpr.parse signature = .ok t) →
      file.Reloads) ∧
    ∀ text loaded, loadText text = .ok loaded → loaded.file.Reloads := by
  refine ⟨fun file readable => reloads_of_readable readable, fun text loaded loads => ?_⟩
  rw [loadText] at loads
  split at loads
  · exact reloads_of_readable (load_readable loads)
  · cases loads

/-- A file with all that a file can have. -/
def SourceFile.full : SourceFile where
  classes := [{
    packageName := "p"
    imports := ImportMap.empty.insert "Größe" "p.\"\u0001"
    className := "C"
    isAbstract := true
    constructorParameters :=
      [⟨"x", .generic "Map" true [.specific "String" false, .specific "Int" true]⟩]
    functions :=
      [⟨"f", true, [⟨"y", .specific "Größe" false⟩], none, .specific "Unit" false⟩,
       ⟨"g", false, [], some "\x7b\n\treturn \"😀\"\n\x7d", .specific "C" true⟩] }]
  topLevel := some ⟨"", .empty, []⟩

/-- Top-level functions, one of which is no function. -/
def Loading.partlySound : String :=
  "\x7b\"static_functions\": \x7b\"package_name\": \"p\", \"functions\": [null, " ++
    "\x7b\"name\": \"f\", \"return_type\": \"Int\"\x7d]\x7d\x7d"

/-- A file with all kinds of entries, and what was loaded of one that has a flaw. -/
theorem SourceFile.full_reloads :
    (∀ t ∈ full.types, ∃ signature, TypeExpr.parse signature = .ok t) ∧ full.Reloads ∧
    loadText partlySound =
      .ok ⟨⟨[], some ⟨"p", .empty, [⟨"f", false, [], none, .specific "Int" false⟩]⟩⟩,
        [⟨"<unnamed function>", .wrongType .null "struct FunctionMetadata"⟩]⟩ ∧
    SourceFile.Reloads
      ⟨[], some ⟨"p", .empty, [⟨"f", false, [], none, .specific "Int" false⟩]⟩⟩ := by
  have readable : ∀ t ∈ full.types, TypeExpr.parse t.text = .ok t := by
    decide +kernel
  have spelled : ∀ t ∈ full.types, ∃ signature, TypeExpr.parse signature = .ok t :=
    fun t among => ⟨t.text, readable t among⟩
  have parsed : Json.parse partlySound = .ok (.object [("static_functions", .object
      [("functions", .array [.null, .object [("name", .string "f"),
        ("return_type", .string "Int")]]), ("package_name", .string "p")])]) := by
    rw [parse_eq_ok_iff, Json.read_eq]
    cbv
  have loaded : loadText partlySound =
      .ok ⟨⟨[], some ⟨"p", .empty, [⟨"f", false, [], none, .specific "Int" false⟩]⟩⟩,
        [⟨"<unnamed function>", .wrongType .null "struct FunctionMetadata"⟩]⟩ := by
    rw [loadText, parsed]
    cbv
  have again := reloads.2 partlySound _ loaded
  exact ⟨spelled, reloads.1 full spelled, loaded, again⟩

end MockScaffold
