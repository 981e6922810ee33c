import MockScaffold.Metadata.Basic
import MockScaffold.TypeExpr.Printer

/-!
A classifier decides which types need a mock: all those for which it knows no
default. The Kotlin classifier knows defaults of the built-in values and of the
standard collections, whose defaults are empty and keep their type arguments.
-/

namespace MockScaffold

/-- The default expression for a variable of a type, or nothing for a type that is to be mocked. -/
structure Classifier where
  default? : String → TypeExpr → Option String

namespace Classifier

/-- Whether values of a type are mocked. The name of the type stands for the variable. -/
def isMockable (classifier : Classifier) (type : TypeExpr) : Bool :=
  (classifier.default? type.name type).isNone

def isParameterMockable (classifier : Classifier) (parameter : Parameter) : Bool :=
  (classifier.default? parameter.name parameter.type).isNone

/-- The defaults that depend on nothing but the name of the type. -/
def valueDefaults : List (String × String) :=
  [("Boolean", "false"), ("Byte", "0.toByte()"), ("Short", "0.toShort()"), ("Int", "0"),
   ("Long", "0L"), ("Float", "0f"), ("Double", "0.0"), ("Char", "'a'"), ("Unit", "Unit"),
   ("BooleanArray", "booleanArrayOf()"), ("ByteArray", "byteArrayOf()"),
   ("ShortArray", "shortArrayOf()"), ("IntArray", "intArrayOf()"),
   ("LongArray", "longArrayOf()"), ("FloatArray", "floatArrayOf()"),
   ("DoubleArray", "doubleArrayOf()"), ("CharArray", "charArrayOf()")]

/-- The types of text, whose default spells the name of the variable. -/
def textTypes : List String := ["String", "CharSequence"]

/-- The collections, each with the function that makes an empty one. -/
def collectionFactories : List (String × String) :=
  [("List", "listOf"), ("Collection", "listOf"), ("Iterable", "listOf"),
   ("MutableList", "mutableListOf"), ("ArrayList", "mutableListOf"),
   ("Set", "setOf"), ("MutableSet", "mutableSetOf"), ("HashSet", "mutableSetOf"),
   ("Map", "mapOf"), ("MutableMap", "mutableMapOf"), ("HashMap", "mutableMapOf"),
   ("Array", "arrayOf"), ("Sequence", "emptySequence")]

/-- A call that makes an empty collection with the given type arguments. -/
def emptyCollection (factory : String) (arguments : List TypeExpr) : String :=
  (TypeExpr.generic factory false arguments).text ++ "()"

/-- The default that Kotlin code gives a variable of a type. -/
def kotlinDefault? (bound : String) (type : TypeExpr) : Option String :=
  if type.name ∈ textTypes then some ("\"" ++ bound ++ "\"")
  else (Keyed.lookup? type.name valueDefaults).or
    ((Keyed.lookup? type.name collectionFactories).map (emptyCollection · type.arguments))

def kotlin : Classifier := ⟨kotlinDefault?⟩

/-- A classifier of another library: it calls a function on the variable, for the types in a list of
names. -/
def calling (functions : List (String × String)) : Classifier :=
  ⟨fun bound type =>
    (Keyed.lookup? type.name functions).map fun function => function ++ "(" ++ bound ++ ")"⟩

end Classifier
end MockScaffold
