import MockScaffold.Classifier
import MockScaffold.Dialect
import MockScaffold.NameSet

/-!
A generator spells values, fields and subclasses for one class under test. As it
goes it notes which kinds of mocks it has spelled; from that follow the imports
and the set-up that the spelled code needs.
-/

namespace MockScaffold

/-- What a generator has noted so far. -/
structure Context where
  /-- A mocked field was spelled. -/
  hasMockedFields : Bool := false
  /-- A mock expression was spelled. -/
  hasMockedInstances : Bool := false
  /-- A subclass was spelled. -/
  hasSubclass : Bool := false
  /-- The import keys of all that. -/
  required : NameSet := .empty
  deriving DecidableEq, Inhabited

namespace Context

def fresh : Context := {}

/-- Notes a mocked field. -/
def noteField (context : Context) (keys : List String) : Context :=
  { context with hasMockedFields := true, required := context.required.insertAll keys }

/-- Notes a mock expression. -/
def noteInstance (context : Context) (keys : List String) : Context :=
  { context with hasMockedInstances := true, required := context.required.insertAll keys }

/-- Notes a subclass. -/
def noteSubclass (context : Context) (keys : List String) : Context :=
  { context with hasSubclass := true, required := context.required.insertAll keys }

end Context

/-- Names or spellings in a row, as in a list of arguments. -/
def commaSeparated (texts : List String) : String := ", ".intercalate texts

/-- What a generator works with: a dialect, and a classifier that says what is mocked. -/
structure Generator where
  dialect : Dialect
  classifier : Classifier

namespace Generator

/-- A field of the test class for a mocked parameter. -/
def mockedField (g : Generator) (name : String) (type : TypeExpr) : StateM Context String := do
  modify (·.noteField g.dialect.fieldImports)
  return g.dialect.mockedField name type.plainText

/-- A mock expression. -/
def mockedInstance (g : Generator) (type : TypeExpr) : StateM Context String := do
  modify (·.noteInstance g.dialect.instanceImports)
  return g.dialect.mockedInstance type.plainText

/-- A value for a variable: its default, or else a mock. -/
def value (g : Generator) (name : String) (type : TypeExpr) : StateM Context String :=
  match g.classifier.default? name type with
  | some text => return text
  | none => g.mockedInstance type

/-- A field of the test class: with its default, or else mocked. -/
def field (g : Generator) (parameter : Parameter) : StateM Context String :=
  match g.classifier.default? parameter.name parameter.type with
  | some text => return "private val " ++ parameter.name ++ " = " ++ text
  | none => g.mockedField parameter.name parameter.type

/-- A parameter as a function declares it. -/
def declaration (parameter : Parameter) : String := parameter.name ++ ": " ++ parameter.type.text

/-- A line that overrides an abstract function with a function of one value. -/
def overrideLine (g : Generator) (function : FunctionDecl) : StateM Context String := do
  let value ← g.value function.name function.returnType
  return indent 3 ++ "override fun " ++ function.name ++ "("
    ++ commaSeparated (function.parameters.map declaration) ++ ") = " ++ value ++ "\n"

/-- A call of the constructor of a class with the fields for its parameters. -/
def constructorCall (decl : ClassDecl) : String :=
  decl.className ++ "(" ++ commaSeparated (decl.constructorParameters.map (·.name)) ++ ")"

/-- An instance of a nameless subclass that overrides the abstract functions of a class. -/
def subclass (g : Generator) (decl : ClassDecl) : StateM Context String := do
  modify (·.noteSubclass g.dialect.subclassImports)
  let lines ← decl.abstractFunctions.mapM g.overrideLine
  return "object : " ++ constructorCall decl ++ " \x7b\n" ++ String.join lines ++ indent 2 ++ "\x7d"

/-- The statements that set up the fields, once one of them is mocked. -/
def setUp? (g : Generator) (context : Context) : Option String :=
  if context.hasMockedFields then some g.dialect.initialization else none

/-- What an import key stands for. -/
def resolve? (g : Generator) (key : String) : Option String :=
  Keyed.lookup? key g.dialect.catalogue

/-- The imports of what has been spelled and of every test class. -/
def imports (g : Generator) (context : Context) : NameSet :=
  .ofList ((g.dialect.used ++ context.required.names).filterMap g.resolve?)

end Generator
end MockScaffold
