import Mathlib.Data.List.Find
import MockScaffold.Proofs.Decoding.Values

namespace MockScaffold.Decoding
open Json (Document)

variable {ρ : Type}

/-- The record has changed by what a field was given besides. -/
structure Shape.Progress.Extends (name : String) (change : ρ → ρ) (p q : Shape.Progress ρ) :
    Prop where
  record : q.record = change p.record
  given : ∀ other, other ∈ q.given ↔ other = name ∨ other ∈ p.given

section
variable {shape : Shape ρ} {field : Field ρ} {change : ρ → ρ}

/-- Other members are taken alike, whether the field was given before or not. -/
theorem takeMember_extends (regular : Regular shape.fields) (isField : field ∈ shape.fields)
    {document : Document} (decoded : field.decode document = .ok change) {name : String}
    (different : name ≠ field.name) (next : Document) {p q : Shape.Progress ρ}
    (extended : p.Extends field.name change q) :
    Agree (Shape.Progress.Extends field.name change) (shape.takeMember p (.ok name, next))
      (shape.takeMember q (.ok name, next)) := by
  simp only [Shape.takeMember, unlessMalformed, bind, Except.bind]
  cases known : shape.field? name with
  | none =>
    cases next.skip with
    | error fault => exact .error _
    | ok _ => exact .ok extended
  | some other =>
    obtain ⟨among, rfl⟩ := mem_of_field? known
    have twice : other.name ∈ q.given ↔ other.name ∈ p.given := by
      simp [extended.given, different]
    by_cases given : other.name ∈ p.given
    · simp only [given, twice.2 given, ↓reduceIte]
      exact .error _
    · simp only [given, mt twice.1 given, ↓reduceIte]
      cases set : other.decode next with
      | error reason => exact .error _
      | ok set' =>
        refine .ok ⟨?_, fun name => ?_⟩
        · rw [extended.record]
          have commutes := regular.commutes among isField (ne_of_apply_ne _ different)
          exact commutes next document set' change set decoded _
        · simp only [List.mem_cons, extended.given]
          tauto

/-- A member for the field makes the first difference. -/
theorem takeMember_given {document : Document} (isField : shape.field? field.name = some field)
    (decoded : field.decode document = .ok change) {p : Shape.Progress ρ}
    (fresh : field.name ∉ p.given) :
    shape.takeMember p (.ok field.name, document) =
      .ok ⟨change p.record, field.name :: p.given⟩ :=
  (takeMember_field isField p.record p.given _ document).2 ⟨fresh, change, decoded, rfl⟩

/-- Members of other names leave a name free. -/
theorem Shape.takeMember_fresh {name other : String} {document : Document}
    {p q : Shape.Progress ρ} (taken : shape.takeMember p (.ok other, document) = .ok q)
    (different : other ≠ name) (fresh : name ∉ p.given) : name ∉ q.given := by
  cases known : shape.field? other with
  | none =>
    obtain ⟨-, rfl⟩ := (takeMember_unknown known p q document).1 taken
    exact fresh
  | some field =>
    obtain ⟨-, set, -, rfl⟩ := (takeMember_field known p.record p.given q document).1 taken
    simp [fresh, different.symm]

/-- Members with one field more are taken as those without it, up to what the field sets. -/
theorem foldlM_extends (regular : Regular shape.fields)
    (isField : shape.field? field.name = some field) {value : Json}
    (decoded : field.decode (Document.ofJson value) = .ok change)
    {members : List (String × Json)} (nodup : (members.map (·.1)).Nodup)
    (given : Keyed.lookup? field.name members = some value) {p : Shape.Progress ρ}
    (fresh : field.name ∉ p.given) :
    Agree (Shape.Progress.Extends field.name change)
      ((Document.ofMembers (Keyed.erase field.name members)).foldlM shape.takeMember p)
      ((Document.ofMembers members).foldlM shape.takeMember p) := by
  induction members generalizing p with
  | nil => cases given
  | cons entry members ih =>
    obtain ⟨name, first⟩ := entry
    obtain ⟨once, nodup⟩ := List.nodup_cons.1 nodup
    by_cases same : name = field.name
    · subst same
      rw [Keyed.lookup?, if_pos rfl, Option.some.injEq] at given
      subst given
      have dropped : Keyed.erase field.name ((field.name, first) :: members) = members := by
        rw [Keyed.erase_cons_same, Keyed.erase_eq_self once]
      rw [dropped, Document.ofMembers, List.foldlM_cons, takeMember_given isField decoded fresh]
      refine Agree.foldlM ?_ ⟨rfl, fun _ => List.mem_cons⟩
      rw [ofMembers_eq_map]
      intro member among a b extended
      obtain ⟨⟨other, next⟩, inside, rfl⟩ := List.mem_map.1 among
      have different : other ≠ field.name := by
        rintro rfl
        exact once (List.mem_map.2 ⟨_, inside, rfl⟩)
      exact takeMember_extends regular (mem_of_field? isField).1 decoded different _ extended
    · rw [Keyed.lookup?, if_neg same] at given
      rw [Keyed.erase_cons_ne same, Document.ofMembers, Document.ofMembers, List.foldlM_cons,
        List.foldlM_cons]
      cases taken : shape.takeMember p (.ok name, Document.ofJson first) with
      | error reason => exact .error reason
      | ok next => exact ih nodup given (Shape.takeMember_fresh taken same fresh)

/-- A record that is given a field besides is the record without it, changed by that field, and
where the one is refused so is the other. -/
theorem ofJson_given (regular : Regular shape.fields)
    (isField : shape.field? field.name = some field) (optional : field.required = false)
    {value : Json} (decoded : field.decode (Document.ofJson value) = .ok change)
    {members : List (String × Json)} (nodup : (members.map (·.1)).Nodup)
    (given : Keyed.lookup? field.name members = some value) :
    ofJson shape.decode (.object members) =
      (ofJson shape.decode (.object (Keyed.erase field.name members))).map change := by
  have agree := foldlM_extends regular isField decoded nodup given (p := ⟨shape.blank, []⟩)
    (by simp)
  simp only [ofJson, Document.ofJson, Shape.decode, Shape.ofMembers]
  generalize List.foldlM shape.takeMember _ (Document.ofMembers (Keyed.erase field.name members)) =
    left, List.foldlM shape.takeMember _ (Document.ofMembers members) = right at agree
  cases agree with
  | error reason => rfl
  | ok extended =>
    rename_i p q
    have missing : shape.missing? q.given = shape.missing? p.given := by
      refine List.find?_congr fun other among => ?_
      by_cases required : other.required = true
      · have different : other.name ≠ field.name := by
          refine regular.name_ne among (mem_of_field? isField).1 ?_
          rintro rfl
          rw [required] at optional
          cases optional
        simp [extended.given, different]
      · simp [required]
    simp only [ended, bind, Except.bind, missing]
    cases shape.missing? p.given with
    | some absent => rfl
    | none => simp [extended.record, pure, Except.pure, Except.map]

end

end MockScaffold.Decoding
