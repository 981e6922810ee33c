import MockScaffold.Json.Value
import MockScaffold.NameSet

namespace MockScaffold

/-- The statements of a test of one function. -/
structure FunctionScaffold where
  name : String
  /-- One declaration for each parameter. -/
  given : List String
  /-- The call under test. -/
  call : String
  /-- The assertion. -/
  check : String
  deriving DecidableEq, Repr

/-- The pieces of a test class. -/
structure ClassScaffold where
  packageName : String
  className : String
  testClassName : String
  runner : Option String
  /-- One field for each parameter of the constructor. -/
  fields : List String
  /-- An expression for the instance under test. -/
  classUnderTest : String
  setUp : Option String
  functions : List FunctionScaffold
  imports : NameSet
  deriving DecidableEq

/-- The pieces of the tests for top-level functions. -/
structure TopLevelScaffold where
  packageName : String
  functions : List FunctionScaffold
  imports : NameSet
  deriving DecidableEq

/-- The pieces of all tests for one source file. -/
structure FileScaffold where
  classes : List ClassScaffold
  topLevel : Option TopLevelScaffold
  deriving DecidableEq

def FunctionScaffold.toJson (s : FunctionScaffold) : Json :=
  .object
    [("name", .string s.name),
     ("given", .ofStrings s.given),
     ("when", .string s.call),
     ("then", .string s.check)]

/-- The value that states the pieces of a test class; null stands for what there is not. -/
def ClassScaffold.toJson (s : ClassScaffold) : Json :=
  .object
    [("package_name", .string s.packageName),
     ("class_name", .string s.className),
     ("test_class_name", .string s.testClassName),
     ("test_class_annotation", .ofOptionalString s.runner),
     ("mock_fields", .ofStrings s.fields),
     ("class_under_test", .string s.classUnderTest),
     ("set_up_statements", .ofOptionalString s.setUp),
     ("functions", .array (s.functions.map (·.toJson))),
     ("imports", .ofStrings s.imports.names)]

def TopLevelScaffold.toJson (s : TopLevelScaffold) : Json :=
  .object
    [("package_name", .string s.packageName),
     ("functions", .array (s.functions.map (·.toJson))),
     ("imports", .ofStrings s.imports.names)]

/-- The members that state a file's scaffold. -/
def FileScaffold.members (s : FileScaffold) : List (String × Json) :=
  [("classes", .array (s.classes.map (·.toJson)))] ++
    (s.topLevel.map fun topLevel => ("static_functions", topLevel.toJson)).toList

def FileScaffold.toJson (s : FileScaffold) : Json := .object s.members

end MockScaffold
