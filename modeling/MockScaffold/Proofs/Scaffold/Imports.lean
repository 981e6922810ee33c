import MockScaffold.Proofs.Generator.Notes
import MockScaffold.Proofs.Text.Marks
import MockScaffold.Proofs.TypeExpr.RoundTrip
import MockScaffold.Scaffold.Generation

/-!
A test class imports what its dialect always uses, what its mocked fields and its
mock expressions need, and those imports of the source file that stand for the
name of some type of the class. It has a set-up exactly if a field is mocked.
-/

namespace MockScaffold

/-- A type and the types that occur in it at any depth. -/
inductive TypeExpr.Inside : TypeExpr → TypeExpr → Prop where
  | self (t : TypeExpr) : Inside t t
  | argument {t a u : TypeExpr} : a ∈ t.arguments → Inside u a → Inside u t

theorem TypeExpr.inside_of_mem_walk : ∀ {t u : TypeExpr}, u ∈ walk t → u.Inside t
  | .node name nullable arguments, u, among => by
    rw [walk, walkAll_eq_flatMap, List.mem_cons, List.mem_flatMap] at among
    rcases among with rfl | ⟨a, isArgument, inside⟩
    · exact .self _
    · exact .argument isArgument (inside_of_mem_walk inside)

theorem TypeExpr.mem_walk_of_inside {t u : TypeExpr} (inside : u.Inside t) : u ∈ walk t := by
  induction inside with
  | self t =>
    obtain ⟨name, nullable, arguments⟩ := t
    exact List.mem_cons_self
  | @argument t a u isArgument _ ih =>
    obtain ⟨name, nullable, arguments⟩ := t
    rw [walk, walkAll_eq_flatMap]
    exact List.mem_cons_of_mem _ (List.mem_flatMap.2 ⟨a, isArgument, ih⟩)

/-- The part of a name before its first dot. -/
def BeforeDot (key name : String) : Prop :=
  '.' ∉ key.toList ∧ (name = key ∨ ∃ rest, name = key ++ "." ++ rest)

/-- A short name is what stands before the first dot. -/
theorem shortName_eq_iff {name key : String} : shortName name = key ↔ BeforeDot key name := by
  rw [shortName, ← String.toList_inj, String.toList_ofList, Text.takeWhile_ne_eq_iff, BeforeDot,
    ← String.toList_inj]
  refine and_congr_right fun _ => or_congr_right ⟨?_, ?_⟩
  · rintro ⟨rest, dotted⟩
    exact ⟨String.ofList rest, by simp [← String.toList_inj, dotted]⟩
  · rintro ⟨rest, rfl⟩
    exact ⟨rest.toList, by simp⟩

/-- The types that the signatures of a class mention, at any depth. -/
inductive ClassDecl.Mentions (decl : ClassDecl) : TypeExpr → Prop where
  | constructorParameter {p : Parameter} : p ∈ decl.constructorParameters → decl.Mentions p.type
  | parameter {f : FunctionDecl} {p : Parameter} :
    f ∈ decl.functions → p ∈ f.parameters → decl.Mentions p.type
  | result {f : FunctionDecl} : f ∈ decl.functions → decl.Mentions f.returnType
  | argument {t a : TypeExpr} : decl.Mentions t → a ∈ t.arguments → decl.Mentions a

section
variable {decl : ClassDecl} {name : String}

theorem ClassDecl.mem_types_iff {t : TypeExpr} :
    t ∈ decl.types ↔ (∃ p ∈ decl.constructorParameters, p.type = t) ∨
      ∃ f ∈ decl.functions, (∃ p ∈ f.parameters, p.type = t) ∨ f.returnType = t := by
  simp [types, FunctionDecl.types, eq_comm]

theorem TypeExpr.Inside.mentioned {t u : TypeExpr} (inside : u.Inside t)
    (mentions : decl.Mentions t) : decl.Mentions u := by
  induction inside with
  | self t => exact mentions
  | argument isArgument _ ih => exact ih (mentions.argument isArgument)

theorem TypeExpr.Inside.inner {t u a : TypeExpr} (inside : u.Inside t)
    (isArgument : a ∈ u.arguments) : a.Inside t := by
  induction inside with
  | self t => exact .argument isArgument (.self a)
  | argument among _ ih => exact .argument among (ih isArgument)

/-- The types that a class mentions are those that walks through its signatures visit. -/
theorem ClassDecl.mentions_iff {u : TypeExpr} :
    decl.Mentions u ↔ u ∈ TypeExpr.walkAll decl.types := by
  rw [TypeExpr.walkAll_eq_flatMap, List.mem_flatMap]
  constructor
  · intro mentions
    have inside : ∃ t ∈ decl.types, u.Inside t := by
      induction mentions with
      | @constructorParameter p isParameter =>
        exact ⟨_, mem_types_iff.2 (.inl ⟨p, isParameter, rfl⟩), .self _⟩
      | @parameter f p isFunction isParameter =>
        exact ⟨_, mem_types_iff.2 (.inr ⟨f, isFunction, .inl ⟨p, isParameter, rfl⟩⟩), .self _⟩
      | @result f isFunction =>
        exact ⟨_, mem_types_iff.2 (.inr ⟨f, isFunction, .inr rfl⟩), .self _⟩
      | argument _ isArgument ih =>
        obtain ⟨t, isType, inside⟩ := ih
        exact ⟨t, isType, inside.inner isArgument⟩
    obtain ⟨t, isType, inside⟩ := inside
    exact ⟨t, isType, TypeExpr.mem_walk_of_inside inside⟩
  · rintro ⟨t, isType, among⟩
    refine (TypeExpr.inside_of_mem_walk among).mentioned ?_
    rcases mem_types_iff.1 isType with ⟨p, isParameter, rfl⟩ |
      ⟨f, isFunction, ⟨p, isParameter, rfl⟩ | rfl⟩
    · exact .constructorParameter isParameter
    · exact .parameter isFunction isParameter
    · exact .result isFunction

end

section
variable {config : Configuration} {g : Generator} {decl : ClassDecl}

/-- The mocks that a test notes: one for each parameter without a default. -/
def testNotes (g : Generator) (f : FunctionDecl) : List Note :=
  f.parameters.flatMap fun p => g.valueNotes p.name p.type

/-- The mocks that the instance under test notes: those of a subclass, if the class is abstract. -/
def instanceNotes (g : Generator) (decl : ClassDecl) : List Note :=
  if decl.isAbstract then g.subclassNotes decl else []

/-- The mocks that a test class notes, in the order in which its pieces are spelled. -/
def classNotes (g : Generator) (decl : ClassDecl) : List Note :=
  decl.constructorParameters.flatMap g.fieldNotes ++
    (instanceNotes g decl ++ decl.concreteFunctions.flatMap (testNotes g))

theorem notes_givenLine (p : Parameter) : g.Notes (givenLine g p) (g.valueNotes p.name p.type) :=
  (Generator.notes_value p.name p.type).bind_pure _

theorem notes_scaffoldFunction (config : Configuration) (target : FunctionDecl → String)
    (f : FunctionDecl) : g.Notes (scaffoldFunction config g target f) (testNotes g f) :=
  (Generator.notes_mapM notes_givenLine f.parameters).1.bind_pure _

theorem notes_instanceUnderTest : g.Notes (instanceUnderTest g decl) (instanceNotes g decl) := by
  rw [instanceUnderTest, instanceNotes]
  by_cases isAbstract : decl.isAbstract = true
  · simp only [isAbstract, if_true]
    exact Generator.notes_subclass decl
  · simp only [isAbstract]
    exact Generator.notes_pure _

theorem notes_scaffoldParts : g.Notes (scaffoldParts config g decl) (classNotes g decl) := by
  have fields := (Generator.notes_mapM (g := g) Generator.notes_field decl.constructorParameters).1
  have tests := (Generator.notes_mapM (g := g)
    (notes_scaffoldFunction config (memberTarget config)) decl.concreteFunctions).1
  exact fields.bind fun _ => notes_instanceUnderTest.bind fun _ => tests.bind_pure _

end

section
variable (config : Configuration) (classifier : Classifier) (decl : ClassDecl)

/-- Imports and set-up of a test class, read off its notes. -/
theorem scaffoldClass_noted :
    let g := Generator.ofConfiguration config classifier
    let context := Context.fresh.noteAll g.dialect (classNotes g decl)
    (scaffoldClass config classifier decl).setUp = g.setUp? context ∧
    (scaffoldClass config classifier decl).imports =
      (g.imports context).insertAll (referencedImports decl.imports decl.types) := by
  intro g context
  have parts : (scaffoldParts config g decl).run .fresh = _ := notes_scaffoldParts .fresh
  rw [scaffoldClass, parts]
  exact ⟨rfl, rfl⟩

/-- All keys that a dialect uses or ever requires. -/
def Dialect.keys (dialect : Dialect) : List String :=
  dialect.used ++ dialect.fieldImports ++ dialect.instanceImports ++ dialect.subclassImports

end

end MockScaffold
