import MockScaffold.Generator
import MockScaffold.Scaffold.Basic

/-!
From metadata to scaffolds. Every class starts with a fresh generator context;
its fields are spelled first, then the instance under test, then the tests of its
concrete functions. A test class imports what was spelled and those of the
imports of the source file whose short names occur in the types of the class.
-/

namespace MockScaffold

/-- The part of a name before the first dot: `Outer.Inner` is imported as `Outer`. -/
def shortName (name : String) : String := String.ofList (name.toList.takeWhile (· ≠ '.'))

def FunctionDecl.types (function : FunctionDecl) : List TypeExpr :=
  function.parameters.map (·.type) ++ [function.returnType]

/-- The short names that occur anywhere in types. -/
def shortNames (types : List TypeExpr) : List String :=
  (TypeExpr.walkAll types).map fun node => shortName node.name

/-- What the names in types are imported as, where they are imported. -/
def referencedImports (imports : ImportMap) (types : List TypeExpr) : List String :=
  (shortNames types).filterMap imports.get?

def statement (text : String) : String := indent 2 ++ text

/-- A declaration of a value for a parameter. -/
def givenLine (g : Generator) (parameter : Parameter) : StateM Context String := do
  return statement ("val " ++ parameter.name ++ " = " ++ (← g.value parameter.name parameter.type))

/-- The call under test; what it returns is kept unless that is `Unit`. -/
def callLine (config : Configuration) (function : FunctionDecl) (target : String) : String :=
  let call := target ++ "(" ++ commaSeparated (function.parameters.map (·.name)) ++ ")"
  statement (if function.returnsUnit then call else "val " ++ config.actualValue ++ " = " ++ call)

/-- The test of a function that is called as `target`. -/
def scaffoldFunction (config : Configuration) (g : Generator) (target : FunctionDecl → String)
    (function : FunctionDecl) : StateM Context FunctionScaffold := do
  let given ← function.parameters.mapM (givenLine g)
  return {
    name := function.name
    given
    call := callLine config function (target function)
    check := statement config.defaultAssertion }

/-- An expression for the instance under test. -/
def instanceUnderTest (g : Generator) (decl : ClassDecl) : StateM Context String :=
  if decl.isAbstract then g.subclass decl else return Generator.constructorCall decl

def ClassDecl.types (decl : ClassDecl) : List TypeExpr :=
  decl.constructorParameters.map (·.type) ++ decl.functions.flatMap (·.types)

/-- How a test of a class calls one of its functions. -/
def memberTarget (config : Configuration) (function : FunctionDecl) : String :=
  config.classUnderTest ++ "." ++ function.name

/-- The generator for a configuration. -/
def Generator.ofConfiguration (config : Configuration) (classifier : Classifier) : Generator :=
  ⟨.ofMocker config.mocker, classifier⟩

/-- Fields, instance under test and tests of functions, spelled in this order. -/
def scaffoldParts (config : Configuration) (g : Generator) (decl : ClassDecl) :
    StateM Context (List String × String × List FunctionScaffold) := do
  let fields ← decl.constructorParameters.mapM g.field
  let instanceText ← instanceUnderTest g decl
  let functions ← decl.concreteFunctions.mapM (scaffoldFunction config g (memberTarget config))
  return (fields, instanceText, functions)

/-- The pieces of the test class of a class. -/
def scaffoldClass (config : Configuration) (classifier : Classifier) (decl : ClassDecl) :
    ClassScaffold :=
  let g := Generator.ofConfiguration config classifier
  let ((fields, classUnderTest, functions), context) := (scaffoldParts config g decl).run .fresh
  { packageName := decl.packageName
    className := decl.className
    testClassName := decl.className ++ "Test"
    runner := g.dialect.runner
    fields
    classUnderTest
    setUp := g.setUp? context
    functions
    imports := (g.imports context).insertAll (referencedImports decl.imports decl.types) }

/-- The pieces of the tests for top-level functions. -/
def scaffoldTopLevel (config : Configuration) (classifier : Classifier) (decls : TopLevelDecls) :
    TopLevelScaffold :=
  let g := Generator.ofConfiguration config classifier
  let (functions, context) :=
    (decls.functions.mapM (scaffoldFunction config g (·.name))).run .fresh
  { packageName := decls.packageName
    functions
    imports := (g.imports context).insertAll
      (referencedImports decls.imports (decls.functions.flatMap (·.types))) }

/-- The pieces of all tests for a file. Without top-level functions there are no tests for them. -/
def scaffoldFile (config : Configuration) (classifier : Classifier) (file : SourceFile) :
    FileScaffold where
  classes := file.classes.map (scaffoldClass config classifier)
  topLevel := (file.topLevel.filter fun decls => !decls.functions.isEmpty).map
    (scaffoldTopLevel config classifier)

end MockScaffold
