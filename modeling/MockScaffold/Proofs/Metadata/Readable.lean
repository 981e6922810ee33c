import MockScaffold.Proofs.Decoding.Filling
import MockScaffold.Proofs.Metadata.Decoding
import MockScaffold.Proofs.TypeExpr.ParsedForm
import MockScaffold.Metadata.Loading
import MockScaffold.Scaffold.Generation

namespace MockScaffold
open Decoding
open Json (Document)

/-- A type that some signature spells. -/
def TypeExpr.Readable (t : TypeExpr) : Prop := ∃ signature, parse signature = .ok t

/-- What some signature spells is parsed again from its own spelling. -/
theorem TypeExpr.Readable.reparse {t : TypeExpr} (readable : t.Readable) :
    parse t.text = .ok t := by
  obtain ⟨signature, read⟩ := readable
  exact (parseChars?_sound (parse_eq_ok_iff.1 read)).rereads

def SourceFile.types (file : SourceFile) : List TypeExpr :=
  file.classes.flatMap (·.types) ++
    file.topLevel.toList.flatMap fun decls => decls.functions.flatMap (·.types)

/-- A type that was decoded was spelled by a signature. -/
theorem typeExpr_readable {document : Document} {t : TypeExpr}
    (decoded : typeExpr document = .ok t) : t.Readable := by
  obtain ⟨signature, -, parsed⟩ := bind_eq_ok_iff.1 decoded
  refine ⟨signature, ?_⟩
  cases read : TypeExpr.parse signature with
  | error e => simp [read] at parsed
  | ok u =>
    rw [read] at parsed
    cases parsed
    rfl

theorem Parameter.readable_of_decoded {document : Document} {p : Parameter}
    (decoded : shape.decode document = .ok p) : p.type.Readable := by
  obtain ⟨stated, t, rest, read, rfl⟩ :=
    decode_last shape_regular shape.fields.dropLast rfl decoded
  exact typeExpr_readable read

/-- What holds of each decoded item holds of all items of a list. -/
theorem readable_of_list {α : Type} {decode : Decoder α} {P : α → Prop}
    (each : ∀ {document a}, decode document = .ok a → P a) {document : Document} {found : List α}
    (decoded : list decode document = .ok found) : ∀ a ∈ found, P a := by
  obtain ⟨items, -, read⟩ := list_eq_ok_iff.1 decoded
  clear decoded
  induction read with
  | nil => exact List.forall_mem_nil _
  | cons stated _ ih => exact List.forall_mem_cons.2 ⟨each stated, ih⟩

/-- So were all types of a decoded function. -/
theorem FunctionDecl.readable_of_decoded {document : Document} {f : FunctionDecl}
    (decoded : shape.decode document = .ok f) : ∀ t ∈ f.types, t.Readable := by
  have parameters : ∀ p ∈ f.parameters, p.type.Readable := by
    have nothing : ∀ p ∈ shape.blank.parameters, p.type.Readable := by simp [shape]
    refine decode_keeps (P := fun f : FunctionDecl => ∀ p ∈ f.parameters, p.type.Readable)
      shape_regular nothing ?_ decoded
    simp only [shape, List.forall_mem_cons, List.not_mem_nil, false_imp_iff, implies_true, and_true]
    exact ⟨.of_found fun _ _ _ _ holds => holds, .of_found fun _ _ _ _ holds => holds,
      .of_found fun _ _ found _ _ => readable_of_list Parameter.readable_of_decoded found,
      .of_found fun _ _ _ _ holds => holds, .of_found fun _ _ _ _ holds => holds⟩
  obtain ⟨stated, returned, rest, read, rfl⟩ :=
    decode_last shape_regular shape.fields.dropLast rfl decoded
  intro t among
  rcases List.mem_append.1 among with among | among
  · obtain ⟨p, isParameter, rfl⟩ := List.mem_map.1 among
    exact parameters p isParameter
  · rw [List.mem_singleton.1 among]
    exact typeExpr_readable read

theorem functions_readable {document : Document} {functions : List FunctionDecl}
    (decoded : list FunctionDecl.shape.decode document = .ok functions) :
    ∀ t ∈ functions.flatMap (·.types), t.Readable := by
  intro t among
  obtain ⟨f, isFunction, inside⟩ := List.mem_flatMap.1 among
  exact readable_of_list FunctionDecl.readable_of_decoded decoded f isFunction t inside

theorem parameters_readable {document : Document} {parameters : List Parameter}
    (decoded : list Parameter.shape.decode document = .ok parameters) :
    ∀ t ∈ parameters.map (·.type), t.Readable := by
  intro t among
  obtain ⟨p, isParameter, rfl⟩ := List.mem_map.1 among
  exact readable_of_list Parameter.readable_of_decoded decoded p isParameter

theorem TopLevelDecls.readable_of_decoded {document : Document} {decls : TopLevelDecls}
    (decoded : shape.decode document = .ok decls) :
    ∀ t ∈ decls.functions.flatMap (·.types), t.Readable := by
  have nothing : ∀ t ∈ shape.blank.functions.flatMap (·.types), t.Readable := by simp [shape]
  refine decode_keeps
    (P := fun decls : TopLevelDecls => ∀ t ∈ decls.functions.flatMap (·.types), t.Readable)
    shape_regular nothing ?_ decoded
  simp only [shape, List.forall_mem_cons, List.not_mem_nil, false_imp_iff, implies_true, and_true]
  exact ⟨.of_found fun _ _ _ _ holds => holds, .of_found fun _ _ _ _ holds => holds,
    .of_found fun _ _ found _ _ => functions_readable found⟩

/-- So were all types of a decoded class. -/
theorem ClassDecl.readable_of_decoded {document : Document} {c : ClassDecl}
    (decoded : shape.decode document = .ok c) : ∀ t ∈ c.types, t.Readable := by
  have nothing : ∀ t ∈ shape.blank.types, t.Readable := by simp [shape, types]
  refine decode_keeps (P := fun c : ClassDecl => ∀ t ∈ c.types, t.Readable) shape_regular nothing
    ?_ decoded
  simp only [shape, List.forall_mem_cons, List.not_mem_nil, false_imp_iff, implies_true, and_true,
    types, List.forall_mem_append]
  exact ⟨.of_found fun _ _ _ _ holds => holds, .of_found fun _ _ _ _ holds => holds,
    .of_found fun _ _ _ _ holds => holds, .of_found fun _ _ _ _ holds => holds,
    .of_found fun _ _ found _ holds => ⟨parameters_readable found, holds.2⟩,
    .of_found fun _ _ found _ holds => ⟨holds.1, functions_readable found⟩⟩

namespace Loading

theorem mem_gather {α : Type} {load : Json → Option α × List SkippedEntry} {entries : List Json}
    {a : α} (among : a ∈ (gather load entries).1) : ∃ entry, (load entry).1 = some a := by
  rw [gather, List.mem_filterMap] at among
  obtain ⟨loaded, isLoaded, found⟩ := among
  obtain ⟨entry, -, rfl⟩ := List.mem_map.1 isLoaded
  exact ⟨entry, found⟩

theorem gather_functions_readable (owner : String) (entries : List Json) :
    ∀ t ∈ (gather (loadFunction owner) entries).1.flatMap (·.types), t.Readable := by
  intro t among
  obtain ⟨f, isFunction, inside⟩ := List.mem_flatMap.1 among
  obtain ⟨entry, loaded⟩ := mem_gather isFunction
  rw [loadFunction] at loaded
  split at loaded
  · rename_i function decoded
    cases loaded
    exact FunctionDecl.readable_of_decoded decoded t inside
  · cases loaded

/-- Of a class that is loaded, the functions that were kept were decoded, too. -/
theorem loadClass_readable {entry : Json} {c : ClassDecl} (loaded : (loadClass entry).1 = some c) :
    ∀ t ∈ c.types, t.Readable := by
  have functions := gather_functions_readable
    (label entry "class_name" "<unnamed class>" ++ ".") (takeFunctions entry).2
  simp only [loadClass] at loaded
  split at loaded
  · rename_i decl decoded
    cases loaded
    have own := ClassDecl.readable_of_decoded decoded
    rw [ClassDecl.types, List.forall_mem_append] at own ⊢
    exact ⟨own.1, functions⟩
  · cases loaded

theorem loadTopLevel_readable {entry : Json} {decls : TopLevelDecls}
    (loaded : (loadTopLevel entry).1 = some decls) :
    ∀ t ∈ decls.functions.flatMap (·.types), t.Readable := by
  have functions := gather_functions_readable "" (takeFunctions entry).2
  simp only [loadTopLevel] at loaded
  split at loaded
  · cases loaded
    exact functions
  · cases loaded

end Loading

open Loading in
/-- All types of a loaded file were spelled by signatures. -/
theorem SourceFile.load_readable {document : Json} {loaded : LoadedFile}
    (loads : load document = .ok loaded) : ∀ t ∈ loaded.file.types, t.Readable := by
  cases document with
  | object members =>
    obtain ⟨entries, -, rest⟩ := bind_eq_ok_iff.1 loads
    cases rest
    rw [types, List.forall_mem_append]
    constructor
    · intro t among
      obtain ⟨c, isClass, inside⟩ := List.mem_flatMap.1 among
      obtain ⟨entry, loaded⟩ := mem_gather isClass
      exact loadClass_readable loaded t inside
    · intro t among
      obtain ⟨decls, isTopLevel, inside⟩ := List.mem_flatMap.1 among
      cases found : topLevelEntry members with
      | none => simp [found] at isTopLevel
      | some entry =>
        have loaded : (loadTopLevel entry).1 = some decls := by simpa [found] using isTopLevel
        exact loadTopLevel_readable loaded t inside
  | _ => cases loads

end MockScaffold
