import Mathlib.Data.List.Forall2
import MockScaffold.CommandLine.Run
import MockScaffold.Proofs.Json.RoundTrip

/-!
What a run prints is a JSON text. Whoever reads it finds one object for each
report, with the path, every piece of the scaffold under its name, and what was
skipped, if anything was.
-/

namespace MockScaffold
open Json (Plain plain_list plain_optional)

/-- A value states the test of a function. -/
structure FunctionScaffold.StatedBy (s : FunctionScaffold) (value : Json) : Prop where
  name : value.member? "name" = some (.string s.name)
  given : value.member? "given" = some (.array (s.given.map .string))
  call : value.member? "when" = some (.string s.call)
  check : value.member? "then" = some (.string s.check)

/-- A value states the pieces of a test class, with null for what there is not. -/
structure ClassScaffold.StatedBy (s : ClassScaffold) (value : Json) : Prop where
  packageName : value.member? "package_name" = some (.string s.packageName)
  className : value.member? "class_name" = some (.string s.className)
  testClassName : value.member? "test_class_name" = some (.string s.testClassName)
  runner : value.member? "test_class_annotation" = some (s.runner.elim .null .string)
  fields : value.member? "mock_fields" = some (.array (s.fields.map .string))
  classUnderTest : value.member? "class_under_test" = some (.string s.classUnderTest)
  setUp : value.member? "set_up_statements" = some (s.setUp.elim .null .string)
  functions : ∃ items, value.member? "functions" = some (.array items) ∧
    List.Forall₂ FunctionScaffold.StatedBy s.functions items
  imports : value.member? "imports" = some (.array (s.imports.names.map .string))

/-- A value states the tests for top-level functions. -/
structure TopLevelScaffold.StatedBy (s : TopLevelScaffold) (value : Json) : Prop where
  packageName : value.member? "package_name" = some (.string s.packageName)
  functions : ∃ items, value.member? "functions" = some (.array items) ∧
    List.Forall₂ FunctionScaffold.StatedBy s.functions items
  imports : value.member? "imports" = some (.array (s.imports.names.map .string))

/-- A value states what was left out, with the reason as it is worded. -/
structure SkippedEntry.StatedBy (s : SkippedEntry) (value : Json) : Prop where
  entry : value.member? "entry" = some (.string s.entry)
  reason : value.member? "reason" = some (.string s.reason.message)

namespace CommandLine

/-- A value states a report as a whole: the path, the classes, the tests for top-level functions
only if there are any, what was skipped only if something was, and nothing else. -/
structure FileReport.StatedBy (report : FileReport) (value : Json) : Prop where
  path : value.member? "path" = some (.string report.path.text)
  classes : ∃ items, value.member? "classes" = some (.array items) ∧
    List.Forall₂ ClassScaffold.StatedBy report.scaffold.classes items
  topLevel : Option.Rel TopLevelScaffold.StatedBy report.scaffold.topLevel
    (value.member? "static_functions")
  skipped : (report.skipped = [] ∧ value.member? "skipped" = none) ∨
    report.skipped ≠ [] ∧ ∃ items, value.member? "skipped" = some (.array items) ∧
      List.Forall₂ SkippedEntry.StatedBy report.skipped items
  only : ∀ key, value.member? key ≠ none →
    key ∈ ["path", "classes", "static_functions", "skipped"]

end CommandLine

/-- If each value is stated by what it is written as, then so is a list of them. -/
theorem forall₂_sort {α : Type} {write : α → Json} {states : α → Json → Prop}
    (stated : ∀ a, states a (write a).sort) (values : List α) :
    List.Forall₂ states values ((values.map write).map Json.sort) := by
  rw [List.map_map, List.forall₂_map_right_iff]
  exact List.forall₂_same.2 fun a _ => stated a

theorem FunctionScaffold.statedBy_sort (s : FunctionScaffold) : s.StatedBy s.toJson.sort := by
  have find : ∀ key, s.toJson.sort.member? key = (s.toJson.member? key).map Json.sort :=
    Json.member?_sort ["name", "given", "when", "then"] rfl (by decide)
  exact {
    name := find "name"
    given := (find "given").trans (congrArg some (Json.sort_strings s.given))
    call := find "when"
    check := find "then" }

theorem ClassScaffold.statedBy_sort (s : ClassScaffold) : s.StatedBy s.toJson.sort := by
  have find : ∀ key, s.toJson.sort.member? key = (s.toJson.member? key).map Json.sort :=
    Json.member?_sort ["package_name", "class_name", "test_class_name", "test_class_annotation",
      "mock_fields", "class_under_test", "set_up_statements", "functions", "imports"] rfl
      (by decide)
  exact {
    packageName := find "package_name"
    className := find "class_name"
    testClassName := find "test_class_name"
    runner := (find "test_class_annotation").trans (congrArg some (Json.sort_optional s.runner))
    fields := (find "mock_fields").trans (congrArg some (Json.sort_strings s.fields))
    classUnderTest := find "class_under_test"
    setUp := (find "set_up_statements").trans (congrArg some (Json.sort_optional s.setUp))
    functions := ⟨_, (find "functions").trans (congrArg some (Json.sort_array _)),
      forall₂_sort FunctionScaffold.statedBy_sort s.functions⟩
    imports := (find "imports").trans (congrArg some (Json.sort_strings s.imports.names)) }

theorem TopLevelScaffold.statedBy_sort (s : TopLevelScaffold) : s.StatedBy s.toJson.sort := by
  have find : ∀ key, s.toJson.sort.member? key = (s.toJson.member? key).map Json.sort :=
    Json.member?_sort ["package_name", "functions", "imports"] rfl (by decide)
  exact {
    packageName := find "package_name"
    functions := ⟨_, (find "functions").trans (congrArg some (Json.sort_array _)),
      forall₂_sort FunctionScaffold.statedBy_sort s.functions⟩
    imports := (find "imports").trans (congrArg some (Json.sort_strings s.imports.names)) }

theorem SkippedEntry.statedBy_sort (s : SkippedEntry) : s.StatedBy s.toJson.sort := by
  have find : ∀ key, s.toJson.sort.member? key = (s.toJson.member? key).map Json.sort :=
    Json.member?_sort ["entry", "reason"] rfl (by decide)
  exact ⟨find "entry", find "reason"⟩

namespace CommandLine

/-- A report has its members under different keys, in a fixed order. -/
theorem FileReport.keys (report : FileReport) :
    ∃ members, report.toJson = .object members ∧
      (members.map (·.1)).Sublist ["path", "classes", "static_functions", "skipped"] := by
  obtain ⟨path, ⟨classes, topLevel⟩, skipped⟩ := report
  refine ⟨_, rfl, ?_⟩
  cases topLevel with
  | none =>
    cases skipped with
    | nil => exact show ["path", "classes"].Sublist _ by decide
    | cons => exact show ["path", "classes", "skipped"].Sublist _ by decide
  | some topLevel =>
    cases skipped with
    | nil => exact show ["path", "classes", "static_functions"].Sublist _ by decide
    | cons => exact List.Sublist.refl _

/-- What a report is written as states it, in whatever order a reader keeps members. -/
theorem FileReport.statedBy_sort (report : FileReport) : report.StatedBy report.toJson.sort := by
  obtain ⟨members, stated, keys⟩ := report.keys
  have find : ∀ key, report.toJson.sort.member? key =
      (report.toJson.member? key).map Json.sort := by
    rw [stated]
    exact Json.member?_sort _ rfl (keys.nodup (by decide))
  have only : ∀ key, report.toJson.sort.member? key ≠ none →
      key ∈ ["path", "classes", "static_functions", "skipped"] := by
    intro key there
    by_contra other
    refine there ?_
    rw [find, stated]
    exact congrArg _ (Keyed.lookup?_eq_none_iff.2 fun among => other (keys.subset among))
  clear stated keys
  obtain ⟨path, ⟨classes, topLevel⟩, skipped⟩ := report
  refine ⟨find "path", ⟨_, (find "classes").trans (congrArg some (Json.sort_array _)),
    forall₂_sort ClassScaffold.statedBy_sort classes⟩, ?_, ?_, only⟩
  · rw [find]
    cases topLevel with
    | none => cases skipped <;> exact .none
    | some topLevel => exact .some topLevel.statedBy_sort
  · rw [find]
    cases skipped with
    | nil => cases topLevel <;> exact .inl ⟨rfl, rfl⟩
    | cons entry skipped =>
      have listed := forall₂_sort SkippedEntry.statedBy_sort (entry :: skipped)
      refine .inr ⟨List.cons_ne_nil _ _, _, ?_, listed⟩
      cases topLevel <;> exact congrArg some (Json.sort_array _)

end CommandLine

theorem plain_strings (texts : List String) (depth : Nat) :
    Plain (depth + 1) (.ofStrings texts) := plain_list .string texts

theorem plain_ofOptionalString (text : Option String) (depth : Nat) :
    Plain depth (.ofOptionalString text) := by
  cases text with
  | none => exact .null
  | some text => exact .string text

theorem FunctionScaffold.plain_toJson (s : FunctionScaffold) (depth : Nat) :
    Plain (depth + 2) s.toJson := by
  refine .object ?_
  simp only [List.forall_mem_cons, List.not_mem_nil, false_imp_iff, implies_true, and_true]
  exact ⟨.string _, plain_strings _ _, .string _, .string _⟩

theorem ClassScaffold.plain_toJson (s : ClassScaffold) (depth : Nat) :
    Plain (depth + 4) s.toJson := by
  refine .object ?_
  simp only [List.forall_mem_cons, List.not_mem_nil, false_imp_iff, implies_true, and_true]
  exact ⟨.string _, .string _, .string _, plain_ofOptionalString _ _, plain_strings _ _, .string _,
    plain_ofOptionalString _ _, plain_list (fun f : FunctionScaffold => f.plain_toJson depth) _,
    plain_strings _ _⟩

theorem TopLevelScaffold.plain_toJson (s : TopLevelScaffold) (depth : Nat) :
    Plain (depth + 4) s.toJson := by
  refine .object ?_
  simp only [List.forall_mem_cons, List.not_mem_nil, false_imp_iff, implies_true, and_true]
  exact ⟨.string _, plain_list (fun f : FunctionScaffold => f.plain_toJson depth) _,
    plain_strings _ _⟩

theorem SkippedEntry.plain_toJson (s : SkippedEntry) (depth : Nat) :
    Plain (depth + 1) s.toJson := by
  refine .object ?_
  simp only [List.forall_mem_cons, List.not_mem_nil, false_imp_iff, implies_true, and_true]
  exact ⟨.string _, .string _⟩

namespace CommandLine

/-- A report holds no numbers and is nested six deep at most, so it can be read back. -/
theorem FileReport.plain_toJson (report : FileReport) : Plain 6 report.toJson := by
  refine .object ?_
  simp only [FileScaffold.members, List.cons_append, List.nil_append, List.forall_mem_cons,
    List.forall_mem_append]
  refine ⟨.string _, plain_list (fun c : ClassScaffold => c.plain_toJson 0) _,
    plain_optional (fun t : TopLevelScaffold => t.plain_toJson 1) _, ?_⟩
  cases report.skipped with
  | nil => exact List.forall_mem_nil _
  | cons entry skipped =>
    exact List.forall_mem_singleton.2 (plain_list (fun s : SkippedEntry => s.plain_toJson 3) _)

/-- The line feed behind a printed value does not keep it from being read. -/
theorem parse_lines {value : Json} {depth : Nat} (plain : Plain depth value)
    (fits : depth ≤ Json.maxDepth) : Json.parse (lines [value.pretty]) = .ok value.sort := by
  have ended : Json.Spells "\n".toList [] := Json.spells_space (Json.newLine_blank 0)
  have spelled := (Json.spells_prettyAt value 0 plain).append ended
  refine Json.parse_of_spells plain fits ?_
  simpa [lines, Json.pretty] using spelled

/-- What is printed of reports is read as a list of one value for each, which states it. -/
theorem parse_reports (reports : List FileReport) :
    ∃ items, Json.parse (lines [(Json.array (reports.map (·.toJson))).pretty]) =
        .ok (.array items) ∧
      List.Forall₂ FileReport.StatedBy reports items := by
  have plain := plain_list FileReport.plain_toJson reports
  rw [parse_lines plain (by decide), Json.sort_array]
  exact ⟨_, rfl, forall₂_sort FileReport.statedBy_sort reports⟩

end CommandLine
end MockScaffold
