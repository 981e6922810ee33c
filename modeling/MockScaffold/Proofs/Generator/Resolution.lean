import MockScaffold.Proofs.Generator.Runs
import MockScaffold.Proofs.Keyed

namespace MockScaffold

/-- The first entry for a key gives it the name. -/
def Dialect.Resolves (dialect : Dialect) (key name : String) : Prop :=
  ∃ before after, dialect.catalogue = before ++ (key, name) :: after ∧
    ∀ entry ∈ before, entry.1 ≠ key

namespace Generator

variable {g : Generator} {name : String}

/-- To resolve a key is to find its first entry in the catalogue. -/
theorem resolve?_eq_some_iff {key : String} :
    g.resolve? key = some name ↔ g.dialect.Resolves key name := Keyed.lookup?_eq_some_iff

/-- A name is imported exactly if a key that is used or required resolves to it. -/
theorem mem_names_imports {context : Context} :
    name ∈ (g.imports context).names ↔
      ∃ key, (key ∈ g.dialect.used ∨ key ∈ context.required.names) ∧
        g.dialect.Resolves key name := by
  simp only [imports, ← NameSet.mem_def, NameSet.mem_ofList, List.mem_filterMap, List.mem_append,
    resolve?_eq_some_iff]

/-- More notes never take an import back. -/
theorem imports_mono {before after : Context} (within : before.Within after) :
    ∀ name ∈ (g.imports before).names, name ∈ (g.imports after).names := by
  intro name imported
  obtain ⟨key, needed, resolved⟩ := mem_names_imports.1 imported
  exact mem_names_imports.2 ⟨key, needed.imp_right (within.required key), resolved⟩

/-- What a generator imports after any calls, in any dialect: in ascending order and each once,
the names that the first entries of the catalogue give to the keys that every test class uses and
to those that the calls required. Keys without an entry are left out, and further calls only add
names. -/
theorem imports_exact (g : Generator) (calls : List Call) :
    (g.imports (g.run calls).2).names.Pairwise (· < ·) ∧
    (∀ name, name ∈ (g.imports (g.run calls).2).names ↔
      ∃ key, (key ∈ g.dialect.used ∨ key ∈ (g.run calls).2.required.names) ∧
        g.dialect.Resolves key name) ∧
    ∀ more, ∀ name ∈ (g.imports (g.run calls).2).names,
      name ∈ (g.imports (g.run (calls ++ more)).2).names :=
  ⟨NameSet.ascending _, fun _ => mem_names_imports,
    fun more => imports_mono (run_within g calls more)⟩

/-- Of two entries for a key the first counts, a name that two keys stand for is imported once, and
a key without an entry is left out. -/
example : (imports ⟨{ Dialect.mockK with
      catalogue := [("Before", "b"), ("RunWith", "b"), ("Before", "c"), ("MockK", "a")]
      used := ["RunWith", "RunWith", "Rule"] }, .kotlin⟩
    (Context.fresh.noteField ["MockK", "Before"])).names = ["a", "b"] := by
  decide

end Generator
end MockScaffold
