import Mathlib.Data.List.Forall2
import MockScaffold.Proofs.Scaffold.Imports

namespace MockScaffold
open Generator (spelled)

/-- A declaration of the field for a parameter of the constructor: with its default, or mocked. -/
inductive DeclaresField (g : Generator) (p : Parameter) : String → Prop where
  | plain {value : String} : g.classifier.default? p.name p.type = some value →
    DeclaresField g p ("private val " ++ p.name ++ " = " ++ value)
  | mocked : g.classifier.default? p.name p.type = none →
    DeclaresField g p (g.dialect.mockedField p.name p.type.plainText)

/-- A test of a function: each parameter in order is given what a new generator spells for it, and
the call passes the parameters by their names, in the same order. -/
structure Tests (config : Configuration) (g : Generator) (f : FunctionDecl)
    (test : FunctionScaffold) : Prop where
  name : test.name = f.name
  given : List.Forall₂ (fun p line =>
    line = indent 2 ++ ("val " ++ p.name ++ " = " ++ spelled (g.value p.name p.type)))
    f.parameters test.given
  call : test.call = indent 2 ++
    ((if f.returnType = .specific "Unit" false then ""
      else "val " ++ config.actualValue ++ " = ") ++
      (config.classUnderTest ++ "." ++ f.name ++
        "(" ++ ", ".intercalate (f.parameters.map (·.name)) ++ ")"))
  check : test.check = indent 2 ++ config.defaultAssertion

/-- The line that overrides a function: its parameters with the markers of their types, and what a
new generator spells for its result. -/
def overridingLine (g : Generator) (f : FunctionDecl) : String :=
  indent 3 ++ "override fun " ++ f.name ++ "(" ++
    ", ".intercalate (f.parameters.map fun p => p.name ++ ": " ++ p.type.text) ++ ") = " ++
    spelled (g.value f.name f.returnType) ++ "\n"

/-- Each function in turn is covered by the next test or by the next line, and no test and no line
is left over. -/
inductive Covers (config : Configuration) (g : Generator) :
    List FunctionDecl → List FunctionScaffold → List String → Prop where
  | nil : Covers config g [] [] []
  | tested {f : FunctionDecl} {fs : List FunctionDecl} {test : FunctionScaffold}
      {tests : List FunctionScaffold} {lines : List String} : f.isAbstract = false →
    Tests config g f test → Covers config g fs tests lines →
    Covers config g (f :: fs) (test :: tests) lines
  | overridden {f : FunctionDecl} {fs : List FunctionDecl} {tests : List FunctionScaffold}
      {lines : List String} : f.isAbstract = true → Covers config g fs tests lines →
    Covers config g (f :: fs) tests (overridingLine g f :: lines)

section
variable {config : Configuration} {g : Generator}

/-- Tests of the concrete functions and overrides of the abstract ones, each in order, cover all
functions. -/
theorem covers_filter {test : FunctionDecl → FunctionScaffold}
    (each : ∀ f, Tests config g f (test f)) (fs : List FunctionDecl) :
    Covers config g fs ((fs.filter (! ·.isAbstract)).map test)
      ((fs.filter (·.isAbstract)).map (overridingLine g)) := by
  induction fs with
  | nil => exact .nil
  | cons f fs ih =>
    by_cases isAbstract : f.isAbstract = true
    · simpa [isAbstract] using ih.overridden isAbstract
    · have concrete : f.isAbstract = false := by simpa using isAbstract
      simpa [concrete] using ih.tested concrete (each f)

theorem declaresField_spelled (g : Generator) (p : Parameter) :
    DeclaresField g p (spelled (g.field p)) := by
  rw [Generator.field]
  cases default : g.classifier.default? p.name p.type with
  | none => exact .mocked default
  | some value => exact .plain default

theorem spelled_overrideLine (f : FunctionDecl) :
    spelled (g.overrideLine f) = overridingLine g f :=
  (Generator.notes_value f.name f.returnType).spelled_map _

theorem spelled_subclass (decl : ClassDecl) :
    spelled (g.subclass decl) = "object : " ++ Generator.constructorCall decl ++ " \x7b\n" ++
      String.join (decl.abstractFunctions.map (overridingLine g)) ++ indent 2 ++ "\x7d" := by
  obtain ⟨notes, lines⟩ :=
    Generator.notes_mapM (g := g) Generator.notes_overrideLine decl.abstractFunctions
  calc spelled (g.subclass decl)
    _ = spelled (do
          let lines ← decl.abstractFunctions.mapM g.overrideLine
          return "object : " ++ Generator.constructorCall decl ++ " \x7b\n" ++ String.join lines ++
            indent 2 ++ "\x7d") :=
      (Generator.notes_note .subclass).spelled_bind fun _ => notes.bind_pure _
    _ = _ := by
      rw [notes.spelled_map, lines]
      simp only [spelled_overrideLine]

theorem spelled_givenLine (p : Parameter) : spelled (givenLine g p) =
    indent 2 ++ ("val " ++ p.name ++ " = " ++ spelled (g.value p.name p.type)) :=
  (Generator.notes_value p.name p.type).spelled_map _

theorem spelled_scaffoldFunction (target : FunctionDecl → String) (f : FunctionDecl) :
    spelled (scaffoldFunction config g target f) =
      { name := f.name
        given := f.parameters.map fun p => spelled (givenLine g p)
        call := callLine config f (target f)
        check := statement config.defaultAssertion } := by
  obtain ⟨notes, lines⟩ := Generator.notes_mapM (g := g) notes_givenLine f.parameters
  rw [scaffoldFunction, notes.spelled_map, lines]

/-- What is spelled for a function is a test of it. -/
theorem tests_spelled (config : Configuration) (g : Generator) (f : FunctionDecl) :
    Tests config g f (spelled (scaffoldFunction config g (memberTarget config) f)) := by
  rw [spelled_scaffoldFunction]
  refine ⟨rfl, ?_, ?_, rfl⟩
  · rw [List.forall₂_map_right_iff, List.forall₂_same]
    exact fun p _ => spelled_givenLine p
  · by_cases isUnit : f.returnType = .specific "Unit" false <;>
      simp [callLine, FunctionDecl.returnsUnit, isUnit, statement, memberTarget, commaSeparated,
        String.append_assoc]

theorem spelled_scaffoldParts (decl : ClassDecl) : spelled (scaffoldParts config g decl) =
    (decl.constructorParameters.map fun p => spelled (g.field p),
      spelled (instanceUnderTest g decl),
      decl.concreteFunctions.map fun f =>
        spelled (scaffoldFunction config g (memberTarget config) f)) := by
  obtain ⟨fieldNotes, fields⟩ :=
    Generator.notes_mapM (g := g) Generator.notes_field decl.constructorParameters
  obtain ⟨testNotes, tests⟩ := Generator.notes_mapM (g := g)
    (notes_scaffoldFunction config (memberTarget config)) decl.concreteFunctions
  rw [scaffoldParts, fieldNotes.spelled_bind fun _ =>
      notes_instanceUnderTest.bind fun _ => testNotes.bind_pure _,
    notes_instanceUnderTest.spelled_bind fun _ => testNotes.bind_pure _,
    testNotes.spelled_map, fields, tests]

end

section
variable (config : Configuration) (classifier : Classifier) (decl : ClassDecl)

theorem scaffoldClass_spelled :
    let g := Generator.ofConfiguration config classifier
    let scaffold := scaffoldClass config classifier decl
    scaffold.fields = (decl.constructorParameters.map fun p => spelled (g.field p)) ∧
    scaffold.classUnderTest = spelled (instanceUnderTest g decl) ∧
    scaffold.functions = decl.concreteFunctions.map fun f =>
      spelled (scaffoldFunction config g (memberTarget config) f) := by
  intro g scaffold
  have parts : (scaffold.fields, scaffold.classUnderTest, scaffold.functions) =
      spelled (scaffoldParts config g decl) := rfl
  rw [spelled_scaffoldParts] at parts
  simpa only [Prod.mk.injEq] using parts

/-- In a class that is abstract or has no abstract function, every function is covered once, in
the order of declaration. The concrete ones are covered by the tests. The abstract ones are covered
by the lines of the instance under test, which then is an object of a nameless subclass made up of
nothing else; otherwise the instance is a plain call of the constructor. Either way the constructor
gets its parameters by their names, in the order of the fields. -/
theorem scaffoldClass_covers
    (closed : decl.isAbstract = true ∨ ∀ f ∈ decl.functions, f.isAbstract = false) :
    ∃ lines, Covers config (Generator.ofConfiguration config classifier) decl.functions
        (scaffoldClass config classifier decl).functions lines ∧
      (decl.isAbstract = true → (scaffoldClass config classifier decl).classUnderTest =
        "object : " ++ (decl.className ++
          "(" ++ ", ".intercalate (decl.constructorParameters.map (·.name)) ++ ")") ++ " \x7b\n" ++
          String.join lines ++ indent 2 ++ "\x7d") ∧
      (decl.isAbstract = false → lines = [] ∧
        (scaffoldClass config classifier decl).classUnderTest = decl.className ++
          "(" ++ ", ".intercalate (decl.constructorParameters.map (·.name)) ++ ")") ∧
      List.Forall₂ (DeclaresField (Generator.ofConfiguration config classifier))
        decl.constructorParameters (scaffoldClass config classifier decl).fields := by
  obtain ⟨fields, classUnderTest, functions⟩ := scaffoldClass_spelled config classifier decl
  have covers := covers_filter
    (tests_spelled config (Generator.ofConfiguration config classifier)) decl.functions
  refine ⟨_, functions ▸ covers, ?_, ?_, ?_⟩
  · intro isAbstract
    rw [classUnderTest, instanceUnderTest, if_pos isAbstract]
    exact spelled_subclass decl
  · intro concrete
    have noneAbstract : ∀ f ∈ decl.functions, f.isAbstract = false :=
      closed.resolve_left (by simp [concrete])
    refine ⟨?_, ?_⟩
    · rw [List.map_eq_nil_iff, List.filter_eq_nil_iff]
      simpa using noneAbstract
    · rw [classUnderTest, instanceUnderTest, if_neg (by simp [concrete])]
      rfl
  · rw [fields, List.forall₂_map_right_iff, List.forall₂_same]
    exact fun p _ => declaresField_spelled _ p

end

/-- An abstract class with a concrete function between two abstract ones. -/
def storeClass : ClassDecl where
  packageName := "app"
  imports := .empty
  className := "Store"
  isAbstract := true
  constructorParameters := [⟨"size", .specific "Int" false⟩, ⟨"api", .specific "Api" true⟩]
  functions :=
    [⟨"find", true, [⟨"key", .specific "Key" true⟩], none, .specific "Item" true⟩,
     ⟨"put", false, [⟨"key", .specific "Key" false⟩, ⟨"item", .specific "Item" true⟩], none,
      .specific "Unit" false⟩,
     ⟨"close", true, [], none, .specific "Unit" false⟩]

/-- A concrete function between two abstract ones is tested, and these are overridden in order. -/
theorem scaffoldClass_covers_interleaved :
    storeClass.isAbstract = true ∧
      ∃ put, (scaffoldClass .defaults .kotlin storeClass).functions = [put] ∧
        put.given.length = 2 ∧ put.call = "        cut.put(key, item)" ∧
        (scaffoldClass .defaults .kotlin storeClass).classUnderTest =
          "object : Store(size, api) \x7b\n" ++
          "            override fun find(key: Key?) = mockk<Item>()\n" ++
          "            override fun close() = Unit\n" ++
          "        \x7d" := by
  obtain ⟨lines, covers, instanceText, -, -⟩ :=
    scaffoldClass_covers .defaults .kotlin storeClass (.inl rfl)
  generalize (scaffoldClass .defaults .kotlin storeClass).functions = tests at covers
  cases covers with
  | tested concrete => cases concrete
  | overridden _ covers =>
    cases covers with
    | overridden isAbstract => cases isAbstract
    | @tested _ _ put _ _ _ tests covers =>
      cases covers with
      | tested concrete => cases concrete
      | overridden _ covers =>
        cases covers
        exact ⟨rfl, put, rfl, tests.given.length_eq.symm, tests.call.trans (by decide),
          (instanceText rfl).trans (by decide)⟩

end MockScaffold
