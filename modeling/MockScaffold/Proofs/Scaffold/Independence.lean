import MockScaffold.Proofs.Outcomes
import MockScaffold.Proofs.Scaffold.Coverage

/-!
The scaffold of a class has no trace of bodies, of imports that no type of the
class mentions, or of the outermost markers of types whose values are only given
or mocked. The names and the assertion that a configuration states stand in the
calls and checks of tests and nowhere else.
-/

namespace MockScaffold
open Generator (spelled)

/-- The same type, but perhaps for the marker of the outermost node. -/
structure TypeExpr.SameButMarker (t u : TypeExpr) : Prop where
  name : t.name = u.name
  arguments : t.arguments = u.arguments

/-- The same parameter, but perhaps for the outermost marker of its type. -/
structure Parameter.SameButMarker (p q : Parameter) : Prop where
  name : p.name = q.name
  type : p.type.SameButMarker q.type

/-- The same function, but perhaps for its body and, unless it is abstract, for the outermost
markers of its parameters. -/
structure FunctionDecl.Alike (f h : FunctionDecl) : Prop where
  name : f.name = h.name
  isAbstract : f.isAbstract = h.isAbstract
  parameters : List.Forall₂ Parameter.SameButMarker f.parameters h.parameters
  overridden : f.isAbstract = true → f.parameters = h.parameters
  returnType : f.returnType = h.returnType

/-- The same class, but perhaps for what does not count in its functions, for the outermost markers
of the parameters of its constructor, and for imports under other names than those that its types
mention. -/
structure ClassDecl.Alike (c d : ClassDecl) : Prop where
  packageName : c.packageName = d.packageName
  className : c.className = d.className
  isAbstract : c.isAbstract = d.isAbstract
  constructorParameters :
    List.Forall₂ Parameter.SameButMarker c.constructorParameters d.constructorParameters
  functions : List.Forall₂ FunctionDecl.Alike c.functions d.functions
  imports : ∀ node key, c.Mentions node → BeforeDot key node.name →
    c.imports.get? key = d.imports.get? key

/-- The scaffold with nothing in place of the calls and checks of its tests. -/
def ClassScaffold.withoutChecks (scaffold : ClassScaffold) : ClassScaffold :=
  { scaffold with
    functions := scaffold.functions.map fun test => { test with call := "", check := "" } }

/-- The default of a variable does not depend on the outermost marker of its type. -/
def Classifier.IgnoresMarkers (classifier : Classifier) : Prop :=
  ∀ (bound : String) (t u : TypeExpr), t.SameButMarker u →
    classifier.default? bound t = classifier.default? bound u

theorem Classifier.kotlin_ignoresMarkers : kotlin.IgnoresMarkers := by
  intro bound t u same
  show kotlinDefault? bound t = kotlinDefault? bound u
  rw [kotlinDefault?, kotlinDefault?, same.name, same.arguments]

/-- Without markers, both are spelled alike. -/
theorem TypeExpr.SameButMarker.plainText_eq {t u : TypeExpr} (same : t.SameButMarker u) :
    t.plainText = u.plainText := by
  obtain ⟨name, nullable, arguments⟩ := t
  obtain ⟨other, marked, inner⟩ := u
  obtain ⟨names, arguments⟩ := same
  cases names
  cases arguments
  cases arguments <;> rfl

theorem names_congr {ps qs : List Parameter} (same : List.Forall₂ Parameter.SameButMarker ps qs) :
    ps.map (·.name) = qs.map (·.name) := map_congr_of_forall₂ same fun _ _ pair => pair.name

section
variable {g : Generator} {t u : TypeExpr} {p q : Parameter} {f h : FunctionDecl} {c d : ClassDecl}

theorem mockedInstance_congr (same : t.SameButMarker u) :
    g.mockedInstance t = g.mockedInstance u := by
  rw [Generator.mockedInstance, Generator.mockedInstance, same.plainText_eq]

theorem mockedField_congr (same : t.SameButMarker u) (name : String) :
    g.mockedField name t = g.mockedField name u := by
  rw [Generator.mockedField, Generator.mockedField, same.plainText_eq]

theorem overrideLine_congr (alike : f.Alike h) (isAbstract : f.isAbstract = true) :
    g.overrideLine f = g.overrideLine h := by
  rw [Generator.overrideLine, Generator.overrideLine, alike.name, alike.returnType,
    alike.overridden isAbstract]

theorem constructorCall_congr (alike : c.Alike d) :
    Generator.constructorCall c = Generator.constructorCall d := by
  rw [Generator.constructorCall, Generator.constructorCall, alike.className,
    names_congr alike.constructorParameters]

theorem subclass_congr (alike : c.Alike d) : g.subclass c = g.subclass d := by
  have pairs : List.Forall₂ FunctionDecl.Alike c.abstractFunctions d.abstractFunctions :=
    List.rel_filter (fun _ _ pair => by simp [pair.isAbstract]) alike.functions
  have abstract : ∀ f ∈ c.abstractFunctions, f.isAbstract = true :=
    fun f among => (List.mem_filter.1 among).2
  have lines : c.abstractFunctions.mapM g.overrideLine = d.abstractFunctions.mapM g.overrideLine :=
    mapM_congr_of_forall₂ ((List.forall₂_and_left _ _).2 ⟨abstract, pairs⟩) fun _ _ pair =>
      overrideLine_congr pair.2 pair.1
  rw [Generator.subclass, Generator.subclass, lines, constructorCall_congr alike]

theorem instanceUnderTest_congr (alike : c.Alike d) :
    instanceUnderTest g c = instanceUnderTest g d := by
  rw [instanceUnderTest, instanceUnderTest, alike.isAbstract, subclass_congr alike,
    constructorCall_congr alike]

variable (ignores : g.classifier.IgnoresMarkers)
include ignores

theorem value_congr (same : t.SameButMarker u) (name : String) :
    g.value name t = g.value name u := by
  rw [Generator.value, Generator.value, ignores name t u same, mockedInstance_congr same]

theorem field_congr (same : p.SameButMarker q) : g.field p = g.field q := by
  rw [Generator.field, Generator.field, same.name, ignores q.name p.type q.type same.type,
    mockedField_congr same.type]

theorem givenLine_congr (same : p.SameButMarker q) : givenLine g p = givenLine g q := by
  rw [givenLine, givenLine, same.name, value_congr ignores same.type]

theorem scaffoldFunction_congr (config : Configuration) (alike : f.Alike h) :
    scaffoldFunction config g (memberTarget config) f =
      scaffoldFunction config g (memberTarget config) h := by
  have given : f.parameters.mapM (givenLine g) = h.parameters.mapM (givenLine g) :=
    mapM_congr_of_forall₂ alike.parameters fun _ _ => givenLine_congr ignores
  have call : callLine config f (memberTarget config f) =
      callLine config h (memberTarget config h) := by
    rw [callLine, callLine, memberTarget, memberTarget, FunctionDecl.returnsUnit,
      FunctionDecl.returnsUnit, names_congr alike.parameters, alike.name, alike.returnType]
  rw [scaffoldFunction, scaffoldFunction, given, call, alike.name]

/-- No piece of a test class tells alike classes apart. -/
theorem scaffoldParts_congr (config : Configuration) (alike : c.Alike d) :
    scaffoldParts config g c = scaffoldParts config g d := by
  have fields : c.constructorParameters.mapM g.field = d.constructorParameters.mapM g.field :=
    mapM_congr_of_forall₂ alike.constructorParameters fun _ _ => field_congr ignores
  have concrete : List.Forall₂ FunctionDecl.Alike c.concreteFunctions d.concreteFunctions :=
    List.rel_filter (fun _ _ pair => by simp [pair.isAbstract]) alike.functions
  have tests : c.concreteFunctions.mapM (scaffoldFunction config g (memberTarget config)) =
      d.concreteFunctions.mapM (scaffoldFunction config g (memberTarget config)) :=
    mapM_congr_of_forall₂ concrete fun _ _ => scaffoldFunction_congr ignores config
  rw [scaffoldParts, scaffoldParts, fields, instanceUnderTest_congr alike, tests]

end

section
variable {t u : TypeExpr} {ts us : List TypeExpr} {f h : FunctionDecl} {c d : ClassDecl}

theorem TypeExpr.SameButMarker.names_walk (same : t.SameButMarker u) :
    t.walk.map (·.name) = u.walk.map (·.name) := by
  obtain ⟨name, nullable, arguments⟩ := t
  obtain ⟨other, marked, inner⟩ := u
  obtain ⟨names, arguments⟩ := same
  cases names
  cases arguments
  rfl

theorem shortNames_congr (same : List.Forall₂ TypeExpr.SameButMarker ts us) :
    shortNames ts = shortNames us := by
  have names : (TypeExpr.walkAll ts).map (·.name) = (TypeExpr.walkAll us).map (·.name) := by
    induction same with
    | nil => rfl
    | cons head _ ih =>
      rw [TypeExpr.walkAll, TypeExpr.walkAll, List.map_append, List.map_append, head.names_walk, ih]
  simpa [shortNames, Function.comp_def] using congrArg (List.map shortName) names

theorem FunctionDecl.Alike.types (alike : f.Alike h) :
    List.Forall₂ TypeExpr.SameButMarker f.types h.types := by
  have parameters :=
    List.rel_map (fun _ _ pair => Parameter.SameButMarker.type pair) alike.parameters
  refine List.rel_append parameters (.cons ?_ .nil)
  rw [alike.returnType]
  exact ⟨rfl, rfl⟩

theorem ClassDecl.Alike.types (alike : c.Alike d) :
    List.Forall₂ TypeExpr.SameButMarker c.types d.types := by
  refine List.rel_append ?_ ?_
  · exact List.rel_map (fun _ _ pair => Parameter.SameButMarker.type pair)
      alike.constructorParameters
  · exact List.rel_flatMap alike.functions fun _ _ pair => FunctionDecl.Alike.types pair

/-- Alike classes have the same imports referenced. -/
theorem referencedImports_congr (alike : c.Alike d) :
    referencedImports c.imports c.types = referencedImports d.imports d.types := by
  rw [referencedImports, referencedImports, ← shortNames_congr alike.types]
  refine List.filterMap_congr fun key among => ?_
  obtain ⟨node, mentioned, short⟩ := List.mem_map.1 among
  exact alike.imports node key (ClassDecl.mentions_iff.2 mentioned) (shortName_eq_iff.1 short)

end

/-- Alike classes have one scaffold. -/
theorem scaffoldClass_congr (config : Configuration) {classifier : Classifier}
    (ignores : classifier.IgnoresMarkers) {c d : ClassDecl} (alike : c.Alike d) :
    scaffoldClass config classifier c = scaffoldClass config classifier d := by
  have parts := scaffoldParts_congr (g := .ofConfiguration config classifier) ignores config alike
  rw [scaffoldClass, scaffoldClass, parts, referencedImports_congr alike, alike.packageName,
    alike.className]

/-- But for calls and checks, a scaffold depends on the generator and on the class alone. -/
theorem scaffoldClass_withoutChecks (config : Configuration) (classifier : Classifier)
    (decl : ClassDecl) :
    let g := Generator.ofConfiguration config classifier
    let context := Context.fresh.noteAll g.dialect (classNotes g decl)
    (scaffoldClass config classifier decl).withoutChecks =
      { packageName := decl.packageName
        className := decl.className
        testClassName := decl.className ++ "Test"
        runner := g.dialect.runner
        fields := decl.constructorParameters.map fun p => spelled (g.field p)
        classUnderTest := spelled (instanceUnderTest g decl)
        setUp := g.setUp? context
        functions := decl.concreteFunctions.map fun f =>
          ⟨f.name, f.parameters.map fun p => spelled (givenLine g p), "", ""⟩
        imports := (g.imports context).insertAll (referencedImports decl.imports decl.types) } := by
  intro g context
  obtain ⟨fields, classUnderTest, functions⟩ := scaffoldClass_spelled config classifier decl
  obtain ⟨setUp, imports⟩ := scaffoldClass_noted config classifier decl
  rw [ClassScaffold.withoutChecks, fields, classUnderTest, functions, setUp, imports]
  simp only [List.map_map, Function.comp_def, spelled_scaffoldFunction]
  rfl

/-- The Kotlin classifier gives two classes the same scaffold if they are the same but for bodies,
for imports under names that their types do not mention, and for the outermost markers of the
parameters of their constructors and concrete functions. Two configurations for the same framework
give a class the same scaffold but for the calls and the checks of its tests. -/
theorem scaffoldClass_unaffected :
    (∀ (config : Configuration) (c d : ClassDecl), c.Alike d →
      scaffoldClass config .kotlin c = scaffoldClass config .kotlin d) ∧
    ∀ (first second : Configuration) (classifier : Classifier) (decl : ClassDecl),
      first.mocker = second.mocker →
        (scaffoldClass first classifier decl).withoutChecks =
          (scaffoldClass second classifier decl).withoutChecks := by
  refine ⟨fun config c d => scaffoldClass_congr config Classifier.kotlin_ignoresMarkers, ?_⟩
  intro first second classifier decl mocker
  rw [scaffoldClass_withoutChecks, scaffoldClass_withoutChecks, Generator.ofConfiguration,
    Generator.ofConfiguration, mocker]

/-- An abstract class, with markers, a body and an import that do not count or without them. -/
def ledgerClass (more : Bool) : ClassDecl where
  packageName := "app"
  imports :=
    if more then (ImportMap.empty.insert "Api" "net.Api").insert "Log" "net.Log"
    else ImportMap.empty.insert "Api" "net.Api"
  className := "Ledger"
  isAbstract := true
  constructorParameters := [⟨"api", .generic "Api.Part" more [.specific "Item" true]⟩]
  functions :=
    [⟨"load", true, [⟨"key", .specific "Key" true⟩], none, .specific "Item" true⟩,
     ⟨"store", false, [⟨"items", .generic "List" more [.specific "Item" true]⟩],
      if more then some "log()" else none, .specific "Unit" false⟩]

theorem ledgerClass_alike : (ledgerClass true).Alike (ledgerClass false) where
  packageName := rfl
  className := rfl
  isAbstract := rfl
  constructorParameters := .cons ⟨rfl, rfl, rfl⟩ .nil
  functions :=
    .cons ⟨rfl, rfl, .cons ⟨rfl, rfl, rfl⟩ .nil, fun _ => rfl, rfl⟩ <|
      .cons ⟨rfl, rfl, .cons ⟨rfl, rfl, rfl⟩ .nil, nofun, rfl⟩ .nil
  imports := by
    intro node key mentioned short
    rw [← shortName_eq_iff] at short
    rw [ClassDecl.mentions_iff] at mentioned
    subst short
    revert node
    decide

/-- All that does not count is changed at once, and so are the names that only checks use. -/
theorem scaffoldClass_unaffected_ledger :
    ledgerClass true ≠ ledgerClass false ∧ (ledgerClass true).Alike (ledgerClass false) ∧
      scaffoldClass .defaults .kotlin (ledgerClass true) =
        scaffoldClass .defaults .kotlin (ledgerClass false) ∧
      (scaffoldClass .defaults .kotlin (ledgerClass true)).withoutChecks =
        (scaffoldClass
          { classUnderTest := "ledger", actualValue := "it", defaultAssertion := "fail()" }
          .kotlin (ledgerClass true)).withoutChecks :=
  ⟨by decide, ledgerClass_alike, scaffoldClass_unaffected.1 .defaults _ _ ledgerClass_alike,
    scaffoldClass_unaffected.2 .defaults _ .kotlin (ledgerClass true) rfl⟩

end MockScaffold
