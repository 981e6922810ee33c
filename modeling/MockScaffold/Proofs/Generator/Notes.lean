import Mathlib.Data.List.Basic
import MockScaffold.Generator

/-!
What a generator spells does not depend on what it has noted, and what it notes
is a list of notes that its arguments determine. So the context behind any
number of spellings is the one before them with all their notes, in order.
-/

namespace MockScaffold

/-- The kinds of mocks that are noted. -/
inductive Note where
  | field
  | mock
  | subclass
  deriving DecidableEq

theorem Note.exists_iff {P : Note → Prop} :
    (∃ note, P note) ↔ P .field ∨ P .mock ∨ P .subclass := by
  constructor
  · rintro ⟨note, holds⟩
    cases note with
    | field => exact .inl holds
    | mock => exact .inr (.inl holds)
    | subclass => exact .inr (.inr holds)
  · rintro (holds | holds | holds)
    · exact ⟨_, holds⟩
    · exact ⟨_, holds⟩
    · exact ⟨_, holds⟩

/-- The import keys that a kind of mock requires. -/
def Dialect.importsOf (dialect : Dialect) : Note → List String
  | .field => dialect.fieldImports
  | .mock => dialect.instanceImports
  | .subclass => dialect.subclassImports

namespace Context

variable {dialect : Dialect}

/-- Whether a kind of mock was noted. -/
def holds (context : Context) : Note → Bool
  | .field => context.hasMockedFields
  | .mock => context.hasMockedInstances
  | .subclass => context.hasSubclass

/-- The context with one more mock noted, as the generator notes it. -/
def note (dialect : Dialect) (context : Context) : Note → Context
  | .field => context.noteField dialect.fieldImports
  | .mock => context.noteInstance dialect.instanceImports
  | .subclass => context.noteSubclass dialect.subclassImports

/-- The context with more mocks noted, in order. -/
def noteAll (dialect : Dialect) (context : Context) (notes : List Note) : Context :=
  notes.foldl (note dialect) context

theorem holds_note {context : Context} {first other : Note} :
    (context.note dialect first).holds other = true ↔
      other = first ∨ context.holds other = true := by
  cases first <;> cases other <;> simp [note, noteField, noteInstance, noteSubclass, holds]

theorem mem_required_note {context : Context} {first : Note} {key : String} :
    key ∈ (context.note dialect first).required ↔
      key ∈ dialect.importsOf first ∨ key ∈ context.required := by
  cases first <;> exact NameSet.mem_insertAll

theorem noteAll_append (context : Context) (notes more : List Note) :
    context.noteAll dialect (notes ++ more) =
      (context.noteAll dialect notes).noteAll dialect more := List.foldl_append

/-- After notes, what holds is what was noted or held before. -/
theorem holds_noteAll {context : Context} {notes : List Note} {other : Note} :
    (context.noteAll dialect notes).holds other = true ↔
      other ∈ notes ∨ context.holds other = true := by
  induction notes generalizing context with
  | nil => simp [noteAll]
  | cons first notes ih =>
    have rest := @ih (context.note dialect first)
    rw [holds_note] at rest
    rw [List.mem_cons, noteAll, List.foldl_cons]
    exact rest.trans (or_left_comm.trans or_assoc.symm)

/-- After notes, what is required is what they require or was required before. -/
theorem mem_required_noteAll {context : Context} {notes : List Note} {key : String} :
    key ∈ (context.noteAll dialect notes).required ↔
      (∃ note ∈ notes, key ∈ dialect.importsOf note) ∨ key ∈ context.required := by
  induction notes generalizing context with
  | nil => simp [noteAll]
  | cons first notes ih =>
    have rest := @ih (context.note dialect first)
    rw [mem_required_note] at rest
    simp only [List.mem_cons, exists_eq_or_imp, noteAll, List.foldl_cons]
    exact rest.trans (or_left_comm.trans or_assoc.symm)

theorem holds_fresh (dialect : Dialect) (notes : List Note) (note : Note) :
    (fresh.noteAll dialect notes).holds note = true ↔ note ∈ notes := by
  rw [holds_noteAll]
  cases note <;> simp [holds, fresh]

theorem mem_required_fresh (dialect : Dialect) (notes : List Note) (key : String) :
    key ∈ (fresh.noteAll dialect notes).required ↔
      ∃ note ∈ notes, key ∈ dialect.importsOf note := by
  rw [mem_required_noteAll]
  exact or_iff_left (NameSet.not_mem_empty key)

/-- There is a set-up exactly if a mocked field was noted. -/
theorem setUp?_eq_some_iff {g : Generator} {context : Context} {statements : String} :
    g.setUp? context = some statements ↔
      context.hasMockedFields = true ∧ statements = g.dialect.initialization := by
  rw [Generator.setUp?]
  by_cases mocked : context.hasMockedFields = true
  · simp [mocked, eq_comm]
  · simp [mocked]

/-- What is noted stays noted, and what is required stays required. -/
structure Within (before after : Context) : Prop where
  holds : ∀ note, before.holds note = true → after.holds note = true
  required : ∀ key ∈ before.required, key ∈ after.required

/-- Further notes take nothing back. -/
theorem within_noteAll (context : Context) (notes : List Note) :
    context.Within (context.noteAll dialect notes) where
  holds _ held := holds_noteAll.2 (.inr held)
  required _ held := mem_required_noteAll.2 (.inr held)

end Context

namespace Generator

variable {α β : Type} {g : Generator}

/-- What is spelled when nothing has been noted. -/
def spelled (m : StateM Context α) : α := (m.run .fresh).1

/-- In every context the same is spelled and the same is noted. -/
def Notes (g : Generator) (m : StateM Context α) (notes : List Note) : Prop :=
  ∀ context, m.run context = (spelled m, context.noteAll g.dialect notes)

theorem notes_pure (a : α) : g.Notes (pure a) [] := fun _ => rfl

theorem notes_note (note : Note) : g.Notes (modify (·.note g.dialect note)) [note] := fun _ => rfl

section
variable {m : StateM Context α} {f : α → StateM Context β} {notes more : List Note}

theorem Notes.run_bind (first : g.Notes m notes) (context : Context) :
    (m >>= f).run context = (f (spelled m)).run (context.noteAll g.dialect notes) :=
  congrArg (fun result : α × Context => (f result.1).run result.2) (first context)

/-- What the second step spells does not depend on what the first has noted. -/
theorem Notes.spelled_bind (first : g.Notes m notes) (second : ∀ a, g.Notes (f a) more) :
    spelled (m >>= f) = spelled (f (spelled m)) := by
  rw [spelled, first.run_bind, second]

/-- One step after another notes what both note. -/
theorem Notes.bind (first : g.Notes m notes) (second : ∀ a, g.Notes (f a) more) :
    g.Notes (m >>= f) (notes ++ more) := by
  intro context
  rw [first.run_bind, second, first.spelled_bind second, Context.noteAll_append]

theorem Notes.bind_pure (first : g.Notes m notes) (f : α → β) :
    g.Notes (m >>= fun a => pure (f a)) notes := by
  have noted := first.bind fun a => notes_pure (g := g) (f a)
  rwa [List.append_nil] at noted

theorem Notes.spelled_map (first : g.Notes m notes) (f : α → β) :
    spelled (m >>= fun a => pure (f a)) = f (spelled m) :=
  first.spelled_bind fun a => notes_pure (f a)

/-- Spellings in a row note one after the other. -/
theorem notes_mapM {f : α → StateM Context β} {notesOf : α → List Note}
    (each : ∀ a, g.Notes (f a) (notesOf a)) (values : List α) :
    g.Notes (values.mapM f) (values.flatMap notesOf) ∧
      spelled (values.mapM f) = values.map fun a => spelled (f a) := by
  induction values with
  | nil => exact ⟨notes_pure _, rfl⟩
  | cons a values ih =>
    obtain ⟨notes, texts⟩ := ih
    -- The rest of the row notes the same, whatever the first spelling was.
    have later : ∀ b, g.Notes (do return b :: (← values.mapM f)) (values.flatMap notesOf) :=
      fun b => notes.bind_pure (b :: ·)
    rw [List.mapM_cons]
    refine ⟨(each a).bind later, ?_⟩
    rw [(each a).spelled_bind later, notes.spelled_bind fun bs => notes_pure _, texts]
    rfl

end

/-- A value is noted as a mock unless it has a default. -/
def valueNotes (g : Generator) (name : String) (type : TypeExpr) : List Note :=
  if g.classifier.default? name type = none then [.mock] else []

/-- A field is noted as mocked unless it has a default. -/
def fieldNotes (g : Generator) (parameter : Parameter) : List Note :=
  if g.classifier.default? parameter.name parameter.type = none then [.field] else []

/-- A subclass is noted, and each mock that an overriding function returns. -/
def subclassNotes (g : Generator) (decl : ClassDecl) : List Note :=
  .subclass :: decl.abstractFunctions.flatMap fun f => g.valueNotes f.name f.returnType

theorem notes_mockedField (name : String) (type : TypeExpr) :
    g.Notes (g.mockedField name type) [.field] :=
  (notes_note .field).bind_pure fun _ => _

theorem notes_mockedInstance (type : TypeExpr) : g.Notes (g.mockedInstance type) [.mock] :=
  (notes_note .mock).bind_pure fun _ => _

theorem notes_value (name : String) (type : TypeExpr) :
    g.Notes (g.value name type) (g.valueNotes name type) := by
  rw [value, valueNotes]
  cases g.classifier.default? name type with
  | none => exact notes_mockedInstance type
  | some text => exact notes_pure text

theorem notes_field (parameter : Parameter) :
    g.Notes (g.field parameter) (g.fieldNotes parameter) := by
  rw [field, fieldNotes]
  cases g.classifier.default? parameter.name parameter.type with
  | none => exact notes_mockedField parameter.name parameter.type
  | some text => exact notes_pure _

theorem notes_overrideLine (f : FunctionDecl) :
    g.Notes (g.overrideLine f) (g.valueNotes f.name f.returnType) :=
  (notes_value f.name f.returnType).bind_pure _

theorem notes_subclass (decl : ClassDecl) : g.Notes (g.subclass decl) (g.subclassNotes decl) := by
  have lines := (notes_mapM (g := g) notes_overrideLine decl.abstractFunctions).1
  exact (notes_note .subclass).bind fun _ => lines.bind_pure _

theorem mem_valueNotes {name : String} {type : TypeExpr} {note : Note} :
    note ∈ g.valueNotes name type ↔ note = .mock ∧ g.classifier.default? name type = none := by
  rw [valueNotes]
  split <;> simp [*]

theorem mem_fieldNotes {parameter : Parameter} {note : Note} :
    note ∈ g.fieldNotes parameter ↔
      note = .field ∧ g.classifier.default? parameter.name parameter.type = none := by
  rw [fieldNotes]
  split <;> simp [*]

/-- A subclass is a mock on its own, and notes others for functions whose result has no default. -/
theorem mem_subclassNotes {decl : ClassDecl} {note : Note} :
    note ∈ g.subclassNotes decl ↔ note = .subclass ∨
      note = .mock ∧ ∃ f ∈ decl.functions, f.isAbstract = true ∧
        g.classifier.default? f.name f.returnType = none := by
  simp only [subclassNotes, ClassDecl.abstractFunctions, List.mem_cons, List.mem_flatMap,
    List.mem_filter, mem_valueNotes]
  constructor
  · rintro (rfl | ⟨f, ⟨isFunction, isAbstract⟩, rfl, mocked⟩)
    · exact .inl rfl
    · exact .inr ⟨rfl, f, isFunction, isAbstract, mocked⟩
  · rintro (rfl | ⟨rfl, f, isFunction, isAbstract, mocked⟩)
    · exact .inl rfl
    · exact .inr ⟨f, ⟨isFunction, isAbstract⟩, rfl, mocked⟩

end Generator
end MockScaffold
