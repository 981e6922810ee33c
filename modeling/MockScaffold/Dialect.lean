import MockScaffold.Configuration.Basic

/-!
How a mocking framework spells mocks, and which imports each spelling needs.
Imports are named by short keys, which a catalogue resolves.
-/

namespace MockScaffold

/-- The four columns that a level of generated code is indented by. -/
def indent (level : Nat) : String := String.ofList (List.replicate (4 * level) ' ')

/-- The spelling of mocks in one framework. -/
structure Dialect where
  mocker : Mocker
  /-- What each import key stands for. Of two entries for a key the first counts. -/
  catalogue : List (String × String)
  /-- The import keys of every test class. -/
  used : List String
  /-- The annotation that says what runs the test classes. -/
  runner : Option String
  /-- The statements that set up mocked fields. -/
  initialization : String
  /-- The declaration of a mocked field, from its name and the spelling of its type. -/
  mockedField : String → String → String
  /-- An expression for a mock, from the spelling of its type. -/
  mockedInstance : String → String
  /-- The import keys of mocked fields. -/
  fieldImports : List String
  /-- The import keys of mock expressions. -/
  instanceImports : List String
  /-- The import keys of subclasses made for a test. -/
  subclassImports : List String

namespace Dialect

/-- A field that the framework fills in, marked by an annotation. -/
def annotatedField (label name type : String) : String :=
  indent 1 ++ "@" ++ label ++ "\n" ++ indent 1 ++ "lateinit var " ++ name ++ ": " ++ type

/-- A call of a generic function without arguments. -/
def genericCall (function type : String) : String := function ++ "<" ++ type ++ ">()"

/-- The dialect of MockK. -/
def mockK : Dialect where
  mocker := .mockK
  catalogue :=
    [("Before", "org.junit.Before"),
     ("MockKAnnotations", "io.mockk.MockKAnnotations"),
     ("MockK", "io.mockk.impl.annotations.MockK"),
     ("mockk", "io.mockk.mockk")]
  used := []
  runner := none
  initialization := indent 2 ++ "MockKAnnotations.init(this, relaxUnitFun = true)\n"
  mockedField := annotatedField "MockK"
  mockedInstance := genericCall "mockk"
  fieldImports := ["Before", "MockKAnnotations", "MockK"]
  instanceImports := ["mockk"]
  subclassImports := []

/-- The dialect of Mockito. -/
def mockito : Dialect where
  mocker := .mockito
  catalogue :=
    [("Before", "org.junit.Before"),
     ("RunWith", "org.junit.runner.RunWith"),
     ("MockitoJUnitRunner", "org.mockito.junit.MockitoJUnitRunner"),
     ("Mock", "org.mockito.Mock"),
     ("MockitoAnnotations", "org.mockito.MockitoAnnotations"),
     ("mock", "org.mockito.kotlin.mock")]
  used := ["RunWith", "MockitoJUnitRunner"]
  runner := some "@RunWith(MockitoJUnitRunner::class)"
  initialization := indent 2 ++ "MockitoAnnotations.openMocks(this)\n"
  mockedField := annotatedField "Mock"
  mockedInstance := genericCall "mock"
  fieldImports := ["Before", "Mock", "MockitoAnnotations"]
  instanceImports := ["mock"]
  subclassImports := []

def ofMocker : Mocker → Dialect
  | .mockito => mockito
  | .mockK => mockK

end Dialect
end MockScaffold
