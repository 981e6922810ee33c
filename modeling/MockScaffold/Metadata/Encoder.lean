import MockScaffold.Json.Value
import MockScaffold.Metadata.Basic
import MockScaffold.TypeExpr.Printer

namespace MockScaffold

/-- Imports as an object from short names to what they stand for. -/
def ImportMap.toJson (imports : ImportMap) : Json :=
  .object (imports.entries.map fun (short, full) => (short, .string full))

def Parameter.toJson (p : Parameter) : Json :=
  .object [("name", .string p.name), ("type", .string p.type.text)]

/-- A function; its body only if there is one. -/
def FunctionDecl.toJson (f : FunctionDecl) : Json :=
  .object <|
    [("name", .string f.name),
     ("is_abstract", .boolean f.isAbstract),
     ("parameters", .array (f.parameters.map (·.toJson)))] ++
    (f.body.map fun body => ("body", Json.string body)).toList ++
    [("return_type", .string f.returnType.text)]

def ClassDecl.toJson (c : ClassDecl) : Json :=
  .object
    [("package_name", .string c.packageName),
     ("imports", c.imports.toJson),
     ("class_name", .string c.className),
     ("is_abstract", .boolean c.isAbstract),
     ("constructor_parameters", .array (c.constructorParameters.map (·.toJson))),
     ("functions", .array (c.functions.map (·.toJson)))]

def TopLevelDecls.toJson (t : TopLevelDecls) : Json :=
  .object
    [("package_name", .string t.packageName),
     ("imports", t.imports.toJson),
     ("functions", .array (t.functions.map (·.toJson)))]

/-- A file; its top-level functions only if there are any. -/
def SourceFile.toJson (s : SourceFile) : Json :=
  .object <|
    [("classes", .array (s.classes.map (·.toJson)))] ++
    (s.topLevel.map fun topLevel => ("static_functions", topLevel.toJson)).toList

end MockScaffold
