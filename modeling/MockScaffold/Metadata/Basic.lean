import MockScaffold.Keyed
import MockScaffold.TypeExpr.Basic

namespace MockScaffold

/-- What a file imports: short names, in ascending order, with the names they stand for. -/
structure ImportMap where
  entries : List (String × String)
  ascending : Keyed.Ascending entries
  deriving DecidableEq

namespace ImportMap

def empty : ImportMap := ⟨[], .nil⟩

instance : Inhabited ImportMap := ⟨empty⟩

/-- Imports a name under a short name, in place of what that stood for. -/
def insert (imports : ImportMap) (short full : String) : ImportMap :=
  ⟨Keyed.insert short full imports.entries, imports.ascending.insert short full⟩

def get? (imports : ImportMap) (short : String) : Option String :=
  Keyed.lookup? short imports.entries

end ImportMap

/-- A parameter of a function or a constructor. -/
structure Parameter where
  name : String
  type : TypeExpr
  deriving DecidableEq, Inhabited

/-- A function of a class or of a file. -/
structure FunctionDecl where
  name : String
  isAbstract : Bool
  parameters : List Parameter
  /-- The source of the body, for information only. -/
  body : Option String
  returnType : TypeExpr
  deriving DecidableEq, Inhabited

/-- Whether the function returns `Unit` and thus nothing to look at. -/
def FunctionDecl.returnsUnit (function : FunctionDecl) : Bool :=
  function.returnType = TypeExpr.specific "Unit" false

/-- A class with what its test needs to know. -/
structure ClassDecl where
  packageName : String
  imports : ImportMap
  className : String
  isAbstract : Bool
  constructorParameters : List Parameter
  functions : List FunctionDecl
  deriving DecidableEq, Inhabited

/-- The functions that a subclass has to override. -/
def ClassDecl.abstractFunctions (decl : ClassDecl) : List FunctionDecl :=
  decl.functions.filter (·.isAbstract)

def ClassDecl.concreteFunctions (decl : ClassDecl) : List FunctionDecl :=
  decl.functions.filter (! ·.isAbstract)

/-- The top-level functions of a file. -/
structure TopLevelDecls where
  packageName : String
  imports : ImportMap
  functions : List FunctionDecl
  deriving DecidableEq, Inhabited

/-- What is known of one source file. -/
structure SourceFile where
  classes : List ClassDecl
  topLevel : Option TopLevelDecls
  deriving DecidableEq, Inhabited

end MockScaffold
