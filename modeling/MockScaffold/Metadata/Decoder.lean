import MockScaffold.Decoding.Record
import MockScaffold.Metadata.Basic

namespace MockScaffold
open Decoding
open Json (Document Key)

/-- Takes the next import of an object; the last of one short name counts. -/
def ImportMap.takeMember (imports : ImportMap) : Key × Document → Except DecodeError ImportMap
  | (key, document) => do
    let short ← unlessMalformed key
    let full ← string document
    return imports.insert short full

def ImportMap.decode : Decoder ImportMap
  | .object members fault => do
    let imports ← members.foldlM takeMember empty
    ended fault
    return imports
  | document => reject "a map" document

/-- A parameter is written with its name and its type. -/
def Parameter.shape : Shape Parameter where
  name := "TypedParameter"
  blank := default
  fields :=
    [.needed "name" string fun name p => { p with name },
     .needed "type" typeExpr fun type p => { p with type }]

/-- A function is concrete and has neither parameters nor a body, unless it is written otherwise. -/
def FunctionDecl.shape : Shape FunctionDecl where
  name := "FunctionMetadata"
  blank := ⟨"", false, [], none, default⟩
  fields :=
    [.needed "name" string fun name f => { f with name },
     .defaulted "is_abstract" boolean fun isAbstract f => { f with isAbstract },
     .defaulted "parameters" (list Parameter.shape.decode)
       fun parameters f => { f with parameters },
     .defaulted "body" (optional string) fun body f => { f with body },
     .needed "return_type" typeExpr fun returnType f => { f with returnType }]

/-- A class is concrete and empty and imports nothing, unless it is written otherwise. -/
def ClassDecl.shape : Shape ClassDecl where
  name := "ClassMetadata"
  blank := ⟨"", .empty, "", false, [], []⟩
  fields :=
    [.needed "package_name" string fun packageName c => { c with packageName },
     .defaulted "imports" ImportMap.decode fun imports c => { c with imports },
     .needed "class_name" string fun className c => { c with className },
     .defaulted "is_abstract" boolean fun isAbstract c => { c with isAbstract },
     .defaulted "constructor_parameters" (list Parameter.shape.decode)
       fun constructorParameters c => { c with constructorParameters },
     .defaulted "functions" (list FunctionDecl.shape.decode)
       fun functions c => { c with functions }]

/-- Top-level functions belong to a package. -/
def TopLevelDecls.shape : Shape TopLevelDecls where
  name := "StaticFunctionsMetadata"
  blank := ⟨"", .empty, []⟩
  fields :=
    [.needed "package_name" string fun packageName t => { t with packageName },
     .defaulted "imports" ImportMap.decode fun imports t => { t with imports },
     .defaulted "functions" (list FunctionDecl.shape.decode)
       fun functions t => { t with functions }]

/-- A file may be empty. -/
def SourceFile.shape : Shape SourceFile where
  name := "FileMetadata"
  blank := ⟨[], none⟩
  fields :=
    [.defaulted "classes" (list ClassDecl.shape.decode) fun classes s => { s with classes },
     .defaulted "static_functions" (optional TopLevelDecls.shape.decode)
       fun topLevel s => { s with topLevel }]

end MockScaffold
