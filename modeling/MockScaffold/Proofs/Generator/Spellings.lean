import MockScaffold.Generator
import MockScaffold.Proofs.Keyed
import MockScaffold.Proofs.TypeExpr.Erasure
import MockScaffold.Proofs.TypeExpr.ParsedForm

namespace MockScaffold

def Mocker.mockFunction : Mocker → String
  | .mockito => "mock"
  | .mockK => "mockk"

/-- The annotation of a mocked field in the code for a framework. -/
def Mocker.fieldAnnotation : Mocker → String
  | .mockito => "@Mock"
  | .mockK => "@MockK"

namespace Classifier

def collectionNames : List String := collectionFactories.map (·.1)

theorem not_mem_textTypes_of_collection {name : String} (collection : name ∈ collectionNames) :
    name ∉ textTypes := by
  have apart : ∀ name ∈ collectionNames, name ∉ textTypes := by decide
  exact apart name collection

theorem lookup?_valueDefaults_of_collection {name : String} (collection : name ∈ collectionNames) :
    Keyed.lookup? name valueDefaults = none := by
  have apart : ∀ name ∈ collectionNames, name ∉ valueDefaults.map (·.1) := by decide
  exact Keyed.lookup?_eq_none_iff.2 (apart name collection)

theorem exists_factory {name : String} (collection : name ∈ collectionNames) :
    ∃ factory, Keyed.lookup? name collectionFactories = some factory := by
  apply Option.ne_none_iff_exists'.1
  intro absent
  exact Keyed.lookup?_eq_none_iff.1 absent collection

/-- The functions that make empty collections have names that a signature can spell. -/
theorem properName_factory {name factory : String}
    (listed : (name, factory) ∈ collectionFactories) :
    TypeExpr.ProperName factory.toList := by
  have proper : ∀ entry ∈ collectionFactories, TypeExpr.ProperName entry.2.toList := by decide
  exact proper _ listed

/-- A collection has an empty one as its default, with the type arguments as written. -/
theorem kotlin_default?_collection (bound : String) {factory : String} {t : TypeExpr}
    (collection : t.name ∈ collectionNames)
    (found : Keyed.lookup? t.name collectionFactories = some factory) :
    kotlin.default? bound t = some (emptyCollection factory t.arguments) := by
  show kotlinDefault? bound t = _
  rw [kotlinDefault?, if_neg (not_mem_textTypes_of_collection collection),
    lookup?_valueDefaults_of_collection collection, found]
  rfl

/-- With arguments, the spelling opens with the name and a bracket. -/
theorem generic_spelled (factory : String) {arguments : List TypeExpr} (given : arguments ≠ []) :
    ∃ inner, (TypeExpr.generic factory false arguments).text = factory ++ "<" ++ inner ++ ">" := by
  cases arguments with
  | nil => exact absurd rfl given
  | cons first rest =>
    exact ⟨first.text ++ TypeExpr.textRest rest, by
      simp [TypeExpr.generic, TypeExpr.text, String.append_assoc]⟩

/-- The default of a collection with type arguments calls its factory with them. -/
theorem kotlin_default?_spelled (bound : String) {t : TypeExpr} (given : t.arguments ≠ [])
    (collection : t.name ∈ collectionNames) :
    ∃ factory inner, (t.name, factory) ∈ collectionFactories ∧
      kotlin.default? bound t = some (factory ++ "<" ++ inner ++ ">()") ∧
      (TypeExpr.generic factory false t.arguments).text = factory ++ "<" ++ inner ++ ">" := by
  obtain ⟨factory, found⟩ := exists_factory collection
  obtain ⟨inner, spelled⟩ := generic_spelled factory given
  refine ⟨factory, inner, Keyed.mem_of_lookup? found, ?_, spelled⟩
  rw [kotlin_default?_collection bound collection found, emptyCollection, spelled]
  simp [String.append_assoc]

end Classifier

namespace Generator
open TypeExpr

/-- A mock names its type without markers. -/
theorem mockedInstance_spelled (mocker : Mocker) (classifier : Classifier) (context : Context)
    (t : TypeExpr) :
    ((mockedInstance ⟨.ofMocker mocker, classifier⟩ t).run context).1 =
      mocker.mockFunction ++ "<" ++ t.plainText ++ ">()" := by
  cases mocker with
  | mockito => rfl
  | mockK => rfl

/-- A mocked field names its type without markers, behind an annotation. -/
theorem mockedField_spelled (mocker : Mocker) (classifier : Classifier) (context : Context)
    (name : String) (t : TypeExpr) :
    ((mockedField ⟨.ofMocker mocker, classifier⟩ name t).run context).1 =
      indent 1 ++ mocker.fieldAnnotation ++ "\n" ++
        indent 1 ++ "lateinit var " ++ name ++ ": " ++ t.plainText := by
  cases mocker with
  | mockito => rfl
  | mockK => rfl

theorem parse_factory {t : TypeExpr} (named : t.WellNamed) (fits : t.FitsAt 0) {factory : String}
    (proper : ProperName factory.toList) :
    parse (generic factory false t.arguments).text = .ok (generic factory false t.arguments) := by
  cases t with
  | node name nullable arguments =>
    have names : (generic factory false arguments).WellNamed :=
      wellNamed_node.2 ⟨proper, (wellNamed_node.1 named).2⟩
    have depths : (generic factory false arguments).FitsAt 0 :=
      fitsAt_node.2 (fitsAt_node.1 fits)
    exact parse_spelled names depths

/-- What stands for a type that was read, in each place of generated code. The spelling in mocks
drops every `?` and is read as the type with no node nullable; the default of a collection is a
call with the type arguments, which are read as they are, nullable nodes among them. -/
theorem spellings_reparse (signature : String) (t : TypeExpr) (read : parse signature = .ok t) :
    (t.plainText.toList = t.text.toList.filter (· ≠ '?') ∧ parse t.plainText = .ok t.erased) ∧
    (∀ (mocker : Mocker) (classifier : Classifier) (context : Context),
      ((mockedInstance ⟨.ofMocker mocker, classifier⟩ t).run context).1 =
        mocker.mockFunction ++ "<" ++ t.plainText ++ ">()" ∧
      ∀ name, ((mockedField ⟨.ofMocker mocker, classifier⟩ name t).run context).1 =
        indent 1 ++ mocker.fieldAnnotation ++ "\n" ++
          indent 1 ++ "lateinit var " ++ name ++ ": " ++ t.plainText) ∧
    (t.arguments ≠ [] → t.name ∈ Classifier.collectionNames →
      ∀ bound, ∃ factory inner, (t.name, factory) ∈ Classifier.collectionFactories ∧
        Classifier.kotlin.default? bound t = some (factory ++ "<" ++ inner ++ ">()") ∧
        parse (factory ++ "<" ++ inner ++ ">") = .ok (generic factory false t.arguments)) := by
  have form := parseChars?_sound (parse_eq_ok_iff.1 read)
  have named := form.wellNamed
  refine ⟨⟨toList_plainText t named, parse_plainText named form.2⟩, ?_, ?_⟩
  · intro mocker classifier context
    exact ⟨mockedInstance_spelled mocker classifier context t,
      fun name => mockedField_spelled mocker classifier context name t⟩
  · intro given collection bound
    obtain ⟨factory, inner, listed, default, spelled⟩ :=
      Classifier.kotlin_default?_spelled bound given collection
    refine ⟨factory, inner, listed, default, ?_⟩
    rw [← spelled]
    exact parse_factory named form.2 (Classifier.properName_factory listed)

/-- A nullable map with nullable types inside loses its markers in mocks and keeps the inner ones
in its default. -/
theorem spellings_reparse_nested :
    parse " Map<String ?, List<Int?>?>?" = .ok (.node "Map" true
        [.node "String" true [], .node "List" true [.node "Int" true []]]) ∧
      parse "Map<String, List<Int>>" = .ok (.node "Map" false
        [.node "String" false [], .node "List" false [.node "Int" false []]]) ∧
      ∃ inner, Classifier.kotlin.default? "counts" (.node "Map" true
          [.node "String" true [], .node "List" true [.node "Int" true []]]) =
          some ("mapOf" ++ "<" ++ inner ++ ">()") ∧
        parse ("mapOf" ++ "<" ++ inner ++ ">") = .ok (.node "mapOf" false
          [.node "String" true [], .node "List" true [.node "Int" true []]]) := by
  have read : parse " Map<String ?, List<Int?>?>?" = .ok (.node "Map" true
      [.node "String" true [], .node "List" true [.node "Int" true []]]) := by cbv
  obtain ⟨⟨-, plain⟩, -, kept⟩ := spellings_reparse _ _ read
  have spelled : plainText (.node "Map" true
      [.node "String" true [], .node "List" true [.node "Int" true []]]) =
      "Map<String, List<Int>>" := by decide +kernel
  rw [spelled] at plain
  obtain ⟨factory, inner, listed, default, again⟩ :=
    kept (by simp) (by simp [Classifier.collectionNames, Classifier.collectionFactories]) "counts"
  have isMap : factory = "mapOf" := by
    simpa [Classifier.collectionFactories] using listed
  rw [isMap] at default again
  exact ⟨read, plain, inner, default, again⟩

end Generator
end MockScaffold
