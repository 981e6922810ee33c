import Mathlib.Logic.Relation
import MockScaffold.Configuration.Discovery
import MockScaffold.Proofs.Decoding.Filling
import MockScaffold.Proofs.Decoding.Layout
import MockScaffold.Proofs.Files.Writing
import MockScaffold.Proofs.Json.RoundTrip

namespace MockScaffold
open Decoding
open Json (Document Key Plain)

namespace Mocker

/-- A framework is decoded from a text that names it, and from nothing else. -/
theorem decode_eq_ok_iff {document : Document} {mocker : Mocker} :
    decode document = .ok mocker ↔
      ∃ text, document = .string (.ok text) ∧ ofName? text = some mocker := by
  rw [decode, bind_eq_ok_iff]
  refine exists_congr fun text => ?_
  rw [string_eq_ok_iff]
  refine and_congr_right fun _ => ?_
  cases ofName? text with
  | none => simp
  | some other => simp

theorem ofName?_name (mocker : Mocker) : ofName? mocker.name = some mocker := by
  cases mocker with
  | mockito => rfl
  | mockK => rfl

/-- No other character has the Kelvin sign as its lower case. -/
theorem toLower_eq_kelvin_iff {c : Char} : c.toLower = '\u212A' ↔ c = '\u212A' := by
  delta Char.toLower
  split
  · rename_i capital
    refine iff_of_false (fun same => ?_) ?_
    · have value := congrArg (·.val.toNat) same
      have upper := UInt32.le_iff_toNat_le.1 capital.2
      simp [UInt32.toNat_add] at value upper
      omega
    · rintro rfl
      exact absurd capital (by decide)
  · rfl

/-- The case of ASCII letters does not count. -/
theorem ofName?_congr {text text' : String}
    (same : text'.toList.map Char.toLower = text.toList.map Char.toLower) :
    ofName? text' = ofName? text := by
  have lowered (t : String) : t.toList.map lowerLetter =
      (t.toList.map Char.toLower).map fun c => if c = '\u212A' then 'k' else c := by
    simp only [List.map_map]
    refine List.map_congr_left fun c _ => ?_
    simp only [lowerLetter, Function.comp_apply, toLower_eq_kelvin_iff]
  simp only [ofName?, lowered, same]

end Mocker

namespace Configuration

/-- The settings have different names and do not touch each other. -/
theorem shape_regular : Regular shape.fields where
  distinct := by decide
  commute := by
    simp only [shape, List.pairwise_cons, List.forall_mem_cons, List.not_mem_nil,
      List.Pairwise.nil, false_imp_iff, implies_true, and_true]
    and_intros <;> exact .of_sets fun _ _ _ => rfl

/-- A configuration is written without numbers, as an object of texts. -/
theorem plain_toJson (c : Configuration) : Plain 1 c.toJson := by
  refine .object ?_
  simp only [List.forall_mem_cons, List.not_mem_nil, false_imp_iff, implies_true, and_true]
  exact ⟨.string _, .string _, .string _, .string _⟩

/-- A configuration is decoded from the value that states it. -/
theorem ofJson_toJson (c : Configuration) : ofJson shape.decode c.toJson = .ok c := by
  refine ofJson_object_of_fill shape_regular
    ["mocker", "class_under_test", "actual_value", "default_assertion"] rfl (by decide)
    (by decide) ?_
  refine fill_stated rfl (Mocker.decode_eq_ok_iff.2 ⟨_, rfl, c.mocker.ofName?_name⟩) ?_
  refine fill_stated rfl (ofJson_string c.classUnderTest) ?_
  refine fill_stated rfl (ofJson_string c.actualValue) ?_
  exact fill_stated rfl (ofJson_string c.defaultAssertion) rfl

/-- What is written of a configuration states that configuration. -/
theorem ofText_text (c : Configuration) : ofText c.text = .ok c := by
  have read : Json.read c.text = ⟨Document.ofJson c.toJson, false⟩ :=
    Json.read_of_spells (Json.spells_prettyAt _ 0 c.plain_toJson)
  refine ofText_eq_ok_iff.2 ?_
  rw [read]
  exact ⟨c.ofJson_toJson, rfl⟩

theorem loadFile_eq_ok_iff {fs : FileSystem} {p : Path} {c : Configuration} :
    loadFile fs p = .ok c ↔ ∃ text, fs.readText p = .ok text ∧ ofText text = .ok c := by
  rw [loadFile]
  cases fs.readText p with
  | error reason => simp
  | ok text => cases stated : ofText text <;> simp [stated]

/-- What was saved loads as it was. -/
theorem loadFile_of_saveFile? {c : Configuration} {fs fs' : FileSystem} {p : Path}
    (saved : c.saveFile? fs p = some fs') : loadFile fs' p = .ok c := by
  obtain ⟨place, accepts, written⟩ := FileSystem.written_of_writeText? saved
  exact loadFile_eq_ok_iff.2 ⟨c.text, written.readText accepts.1 (written.locate? accepts),
    c.ofText_text⟩

/-- A change in the layout of a configuration. -/
inductive Restates : List (Key × Document) → List (Key × Document) → Prop
  | reordered {members members' : List (Key × Document)} (order : members.Perm members') :
      Restates members members'
  | unknownAdded {members : List (Key × Document)} {name : String} {document : Document}
      (unknown : name ∉ shape.fields.map (·.name)) (passable : document.skip = .ok ()) :
      Restates members ((.ok name, document) :: members)
  | defaultWritten {members : List (Key × Document)} {name : String} {value : Json}
      (default : defaults.toJson.member? name = some value)
      (absent : member? name members = none) :
      Restates members ((.ok name, Document.ofJson value) :: members)
  | letterCase {members : List (Key × Document)} {mocker mocker' : String}
      (same : mocker'.toList.map Char.toLower = mocker.toList.map Char.toLower) :
      Restates ((.ok "mocker", .string (.ok mocker)) :: members)
        ((.ok "mocker", .string (.ok mocker')) :: members)

/-- What is written of a default sets a field to what it is anyway. -/
theorem idle_of_default {name : String} {value : Json}
    (default : defaults.toJson.member? name = some value) :
    ∃ field ∈ shape.fields, field.name = name ∧
      ∃ set, field.decode (Document.ofJson value) = .ok set ∧ set defaults = defaults := by
  have among := Keyed.mem_of_lookup? default
  simp only [List.mem_cons, List.not_mem_nil, or_false, Prod.mk.injEq] at among
  rcases among with ⟨rfl, rfl⟩ | ⟨rfl, rfl⟩ | ⟨rfl, rfl⟩ | ⟨rfl, rfl⟩
  · exact ⟨_, .head _, rfl, _, rfl, rfl⟩
  · exact ⟨_, .tail _ (.head _), rfl, _, rfl, rfl⟩
  · exact ⟨_, .tail _ (.tail _ (.head _)), rfl, _, rfl, rfl⟩
  · exact ⟨_, .tail _ (.tail _ (.tail _ (.head _))), rfl, _, rfl, rfl⟩

/-- One change in the layout keeps the configuration. -/
theorem Restates.ofMembers {members members' : List (Key × Document)}
    (restates : Restates members members') {c : Configuration}
    (stated : shape.ofMembers members none = .ok c) : shape.ofMembers members' none = .ok c := by
  cases restates with
  | reordered order => exact ofMembers_perm shape_regular order stated
  | unknownAdded unknown passable =>
    refine ofMembers_cons_unknown shape_regular (field?_eq_none_iff.2 unknown) passable stated
  | defaultWritten default absent =>
    obtain ⟨field, isField, rfl, set, decoded, idle⟩ := idle_of_default default
    exact ofMembers_cons_idle shape_regular isField absent decoded idle stated
  | @letterCase members mocker mocker' same =>
    have refines : (Field.defaulted "mocker" Mocker.decode fun mocker (c : Configuration) =>
        { c with mocker }).Refines (.string (.ok mocker)) (.string (.ok mocker')) := by
      intro set decoded
      obtain ⟨framework, found, rfl⟩ := map_eq_ok_iff.1 decoded
      obtain ⟨_, spelled, named⟩ := Mocker.decode_eq_ok_iff.1 found
      cases spelled
      rw [← Mocker.ofName?_congr same] at named
      exact map_eq_ok_iff.2 ⟨framework, Mocker.decode_eq_ok_iff.2 ⟨mocker', rfl, named⟩, rfl⟩
    exact ofMembers_cons_refined shape_regular List.mem_cons_self refines stated

/-- And so do any number of them. -/
theorem ofMembers_of_restates {members members' : List (Key × Document)}
    (restates : Relation.ReflTransGen Restates members members') {c : Configuration}
    (stated : shape.ofMembers members none = .ok c) : shape.ofMembers members' none = .ok c := by
  induction restates with
  | refl => exact stated
  | tail _ step ih => exact step.ofMembers ih

theorem ofText_iff_of_read {text : String} {members : List (Key × Document)}
    (read : Json.read text = ⟨.object members none, false⟩) {c : Configuration} :
    ofText text = .ok c ↔ shape.ofMembers members none = .ok c := by
  rw [ofText, ofText_eq_ok_iff, read, Shape.decode]
  simp

/-- Members on one line are decoded as if they had just been read. -/
theorem ofText_compact_iff {members : List (String × Json)} {depth : Nat}
    (plain : Plain depth (.object members)) {c : Configuration} :
    ofText (Json.object members).compact = .ok c ↔
      shape.ofMembers (Document.ofMembers members) none = .ok c :=
  ofText_iff_of_read (Json.read_of_spells (Json.spells_compact _ plain))

/-- What was saved loads as it is, and saving only asks for a place for the file. A text that states
the members of another in another layout loads as the same configuration. -/
theorem reloads_in_any_layout :
    (∀ (c : Configuration) (fs : FileSystem) (p : Path),
      ((c.saveFile? fs p).isSome ↔ ∃ place, fs.Accepts p place) ∧
      ∀ fs', c.saveFile? fs p = some fs' → loadFile fs' p = .ok c) ∧
    ∀ (c : Configuration) (members members' : List (Key × Document)),
      Relation.ReflTransGen Restates members members' →
      ∀ (fs : FileSystem) (p : Path) (text : String), fs.readText p = .ok text →
        Json.read text = ⟨.object members none, false⟩ → loadFile fs p = .ok c →
      ∀ (fs' : FileSystem) (p' : Path) (text' : String), fs'.readText p' = .ok text' →
        Json.read text' = ⟨.object members' none, false⟩ → loadFile fs' p' = .ok c := by
  refine ⟨fun c fs p => ⟨FileSystem.isSome_writeText?_iff c.text, ?_⟩, ?_⟩
  · exact fun fs' saved => loadFile_of_saveFile? saved
  · intro c members members' restates fs p text found read loaded fs' p' text' found' read'
    obtain ⟨_, same, stated⟩ := loadFile_eq_ok_iff.1 loaded
    obtain rfl := Except.ok.inj (found.symm.trans same)
    have stated' := ofMembers_of_restates restates ((ofText_iff_of_read read).1 stated)
    exact loadFile_eq_ok_iff.2 ⟨text', found', (ofText_iff_of_read read').2 stated'⟩

/-- Texts with quotes, escapes, controls, line ends and characters beyond 16 bits. -/
def unusual : Configuration where
  mocker := .mockito
  classUnderTest := "\"cut\\\n"
  actualValue := "\u0000\u001f\x7f"
  defaultAssertion := "😀"

def sparse : List (String × Json) := [("mocker", .string "mockito")]

/-- Members that state the same in another layout. -/
def spacious : List (String × Json) :=
  [("actual_value", .string "actualValue"), ("version", .array [.null]),
   ("mocker", .string "MockITO")]

def holding (text : String) : FileSystem := ⟨.directory [("c", .file text.toUTF8)], []⟩

theorem readText_holding (text : String) : (holding text).readText (.ofNames ["c"]) = .ok text :=
  FileSystem.readText_eq_ok_iff.2 ⟨text.toUTF8, rfl, dif_pos text.isValidUTF8⟩

/-- Texts that must be escaped, and members in another order and case with one unknown. -/
theorem reloads_in_any_layout_spacious :
    (∃ fs, unusual.saveFile? ⟨.directory [], []⟩ (.ofNames ["c"]) = some fs ∧
      loadFile fs (.ofNames ["c"]) = .ok unusual) ∧
    loadFile (holding (Json.object sparse).compact) (.ofNames ["c"]) =
      .ok { mocker := .mockito } ∧
    loadFile (holding (Json.object spacious).compact) (.ofNames ["c"]) =
      .ok { mocker := .mockito } := by
  obtain ⟨saved, laidOut⟩ := reloads_in_any_layout
  obtain ⟨accepted, reloads⟩ := saved unusual ⟨.directory [], []⟩ (.ofNames ["c"])
  have accepts : FileSystem.Accepts ⟨.directory [], []⟩ (.ofNames ["c"]) ["c"] :=
    ⟨by decide, [], "c", [], rfl, by decide, rfl, ⟨[], rfl⟩, nofun, rfl⟩
  obtain ⟨fs, made⟩ := Option.isSome_iff_exists.1 (accepted.2 ⟨_, accepts⟩)
  have plain : Plain 1 (.object sparse) := .object (by simp [sparse, Plain.string])
  have plain' : Plain 2 (.object spacious) :=
    .object (by simp [spacious, Plain.string, Plain.array, Plain.null])
  have read : Json.read (Json.object sparse).compact =
      ⟨.object (Document.ofMembers sparse) none, false⟩ :=
    Json.read_of_spells (Json.spells_compact _ plain)
  have read' : Json.read (Json.object spacious).compact =
      ⟨.object (Document.ofMembers spacious) none, false⟩ :=
    Json.read_of_spells (Json.spells_compact _ plain')
  have loaded : loadFile (holding (Json.object sparse).compact) (.ofNames ["c"]) =
      .ok { mocker := .mockito } :=
    loadFile_eq_ok_iff.2 ⟨_, readText_holding _, (ofText_iff_of_read read).2 rfl⟩
  have cased : Restates (Document.ofMembers sparse)
      (Document.ofMembers [("mocker", .string "MockITO")]) := .letterCase (by decide)
  have written : Restates (Document.ofMembers [("mocker", .string "MockITO")])
      (Document.ofMembers [("actual_value", .string "actualValue"),
        ("mocker", .string "MockITO")]) := .defaultWritten rfl rfl
  have added : Restates
      (Document.ofMembers [("actual_value", .string "actualValue"),
        ("mocker", .string "MockITO")])
      (Document.ofMembers [("version", .array [.null]), ("actual_value", .string "actualValue"),
        ("mocker", .string "MockITO")]) := .unknownAdded (by decide) rfl
  have restates : Relation.ReflTransGen Restates (Document.ofMembers sparse)
      (Document.ofMembers spacious) :=
    .head cased (.head written (.head added (.single (.reordered (.swap _ _ _)))))
  exact ⟨⟨fs, made, reloads fs made⟩, loaded, laidOut _ _ _ restates _ _ _ (readText_holding _)
    read loaded _ _ _ (readText_holding _) read'⟩

end Configuration
end MockScaffold
