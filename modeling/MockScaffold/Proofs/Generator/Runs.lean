import MockScaffold.Proofs.Generator.Notes

namespace MockScaffold.Generator

/-- A call of a generator. -/
inductive Call where
  | value (name : String) (type : TypeExpr)
  | field (parameter : Parameter)
  | mockedField (name : String) (type : TypeExpr)
  | mockedInstance (type : TypeExpr)
  | subclass (decl : ClassDecl)

/-- What a call spells and notes. -/
def perform (g : Generator) : Call → StateM Context String
  | .value name type => g.value name type
  | .field parameter => g.field parameter
  | .mockedField name type => g.mockedField name type
  | .mockedInstance type => g.mockedInstance type
  | .subclass decl => g.subclass decl

/-- What a new generator spells and notes when it is called time after time. -/
def run (g : Generator) (calls : List Call) : List String × Context :=
  (calls.mapM g.perform).run .fresh

/-- The mocks that a call notes, whatever was noted before. -/
def callNotes (g : Generator) : Call → List Note
  | .value name type => g.valueNotes name type
  | .field parameter => g.fieldNotes parameter
  | .mockedField _ _ => [.field]
  | .mockedInstance _ => [.mock]
  | .subclass decl => g.subclassNotes decl

variable {g : Generator} {calls : List Call}

/-- A call spells one text in every context and makes the same notes. -/
theorem notes_perform (call : Call) : g.Notes (g.perform call) (g.callNotes call) := by
  cases call with
  | value name type => exact notes_value name type
  | field parameter => exact notes_field parameter
  | mockedField name type => exact notes_mockedField name type
  | mockedInstance type => exact notes_mockedInstance type
  | subclass decl => exact notes_subclass decl

/-- A run spells each call as a new generator would, and makes all their notes. -/
theorem run_eq (g : Generator) (calls : List Call) :
    g.run calls = (calls.map fun call => spelled (g.perform call),
      Context.fresh.noteAll g.dialect (calls.flatMap g.callNotes)) := by
  obtain ⟨notes, texts⟩ := notes_mapM (g := g) notes_perform calls
  rw [run, notes, texts]

/-- Further calls only add to what is noted. -/
theorem run_within (g : Generator) (calls more : List Call) :
    (g.run calls).2.Within (g.run (calls ++ more)).2 := by
  rw [run_eq, run_eq, List.flatMap_append, Context.noteAll_append]
  exact Context.within_noteAll _ _

theorem mem_notes_field :
    Note.field ∈ calls.flatMap g.callNotes ↔
      (∃ name type, .mockedField name type ∈ calls) ∨
      ∃ p, .field p ∈ calls ∧ g.classifier.default? p.name p.type = none := by
  rw [List.mem_flatMap]
  constructor
  · rintro ⟨call, isCall, noted⟩
    cases call with
    | value name type => cases (mem_valueNotes.1 noted).1
    | field p => exact .inr ⟨p, isCall, (mem_fieldNotes.1 noted).2⟩
    | mockedField name type => exact .inl ⟨name, type, isCall⟩
    | mockedInstance type => simp [callNotes] at noted
    | subclass decl => simpa using mem_subclassNotes.1 noted
  · rintro (⟨name, type, isCall⟩ | ⟨p, isCall, mocked⟩)
    · exact ⟨_, isCall, List.mem_singleton_self _⟩
    · exact ⟨_, isCall, mem_fieldNotes.2 ⟨rfl, mocked⟩⟩

/-- Mocks are noted by mock expressions, by values without a default and by subclasses whose
functions return such values. -/
theorem mem_notes_mock :
    Note.mock ∈ calls.flatMap g.callNotes ↔
      (∃ type, .mockedInstance type ∈ calls) ∨
      (∃ name type, .value name type ∈ calls ∧ g.classifier.default? name type = none) ∨
      ∃ decl, .subclass decl ∈ calls ∧ ∃ f ∈ decl.functions, f.isAbstract = true ∧
        g.classifier.default? f.name f.returnType = none := by
  rw [List.mem_flatMap]
  constructor
  · rintro ⟨call, isCall, noted⟩
    cases call with
    | value name type => exact .inr (.inl ⟨name, type, isCall, (mem_valueNotes.1 noted).2⟩)
    | field p => cases (mem_fieldNotes.1 noted).1
    | mockedField name type => simp [callNotes] at noted
    | mockedInstance type => exact .inl ⟨type, isCall⟩
    | subclass decl =>
      refine .inr (.inr ⟨decl, isCall, ?_⟩)
      simpa using mem_subclassNotes.1 noted
  · rintro (⟨type, isCall⟩ | ⟨name, type, isCall, mocked⟩ | ⟨decl, isCall, mocked⟩)
    · exact ⟨_, isCall, List.mem_singleton_self _⟩
    · exact ⟨_, isCall, mem_valueNotes.2 ⟨rfl, mocked⟩⟩
    · exact ⟨_, isCall, mem_subclassNotes.2 (.inr ⟨rfl, mocked⟩)⟩

theorem mem_notes_subclass :
    Note.subclass ∈ calls.flatMap g.callNotes ↔ ∃ decl, .subclass decl ∈ calls := by
  rw [List.mem_flatMap]
  constructor
  · rintro ⟨call, isCall, noted⟩
    cases call with
    | value name type => cases (mem_valueNotes.1 noted).1
    | field p => cases (mem_fieldNotes.1 noted).1
    | mockedField name type => simp [callNotes] at noted
    | mockedInstance type => simp [callNotes] at noted
    | subclass decl => exact ⟨decl, isCall⟩
  · rintro ⟨decl, isCall⟩
    exact ⟨_, isCall, List.mem_cons_self⟩

/-- What a generator has noted after any calls: a mocked field if a call asked for one or for a
field without a default, a mock expression if a call asked for one, for a value without a default
or for a subclass that returns one, and a subclass if a call asked for one. Exactly the imports of
these are required, and fields are set up if one is mocked. Further calls only add to that, and
the texts are those of the single calls. -/
theorem run_exact (g : Generator) (calls : List Call) :
    ((g.run calls).2.hasMockedFields = true ↔
      (∃ name type, .mockedField name type ∈ calls) ∨
      ∃ p, .field p ∈ calls ∧ g.classifier.default? p.name p.type = none) ∧
    ((g.run calls).2.hasMockedInstances = true ↔
      (∃ type, .mockedInstance type ∈ calls) ∨
      (∃ name type, .value name type ∈ calls ∧ g.classifier.default? name type = none) ∨
      ∃ decl, .subclass decl ∈ calls ∧ ∃ f ∈ decl.functions, f.isAbstract = true ∧
        g.classifier.default? f.name f.returnType = none) ∧
    ((g.run calls).2.hasSubclass = true ↔ ∃ decl, .subclass decl ∈ calls) ∧
    (∀ key, key ∈ (g.run calls).2.required ↔
      (g.run calls).2.hasMockedFields = true ∧ key ∈ g.dialect.fieldImports ∨
      (g.run calls).2.hasMockedInstances = true ∧ key ∈ g.dialect.instanceImports ∨
      (g.run calls).2.hasSubclass = true ∧ key ∈ g.dialect.subclassImports) ∧
    (∀ statements, g.setUp? (g.run calls).2 = some statements ↔
      (g.run calls).2.hasMockedFields = true ∧ statements = g.dialect.initialization) ∧
    (∀ more, (g.run calls).2.Within (g.run (calls ++ more)).2) ∧
    (g.run calls).1 = calls.map fun call => spelled (g.perform call) := by
  have flags := Context.holds_fresh g.dialect (calls.flatMap g.callNotes)
  have required := Context.mem_required_fresh g.dialect (calls.flatMap g.callNotes)
  simp only [Note.exists_iff, ← flags] at required
  refine ⟨?_, ?_, ?_, ?_, fun statements => Context.setUp?_eq_some_iff, run_within g calls, ?_⟩
  · rw [run_eq]
    exact (flags .field).trans mem_notes_field
  · rw [run_eq]
    exact (flags .mock).trans mem_notes_mock
  · rw [run_eq]
    exact (flags .subclass).trans mem_notes_subclass
  · rw [run_eq]
    exact required
  · rw [run_eq]

/-- With any other classifier, too, a type that has a default is not mocked. -/
example : ((run ⟨.mockK, .calling [("Api", "fake")]⟩
      [.value "a" (.specific "Api" false), .value "b" (.specific "Log" false)]).1,
    (run ⟨.mockK, .calling [("Api", "fake")]⟩ [.value "a" (.specific "Api" false)]).2) =
      (["fake(a)", "mockk<Log>()"], .fresh) := by decide

end MockScaffold.Generator
