import Mathlib.Data.List.Forall2

namespace MockScaffold

variable {ε α β γ : Type}

theorem map_eq_ok_iff {f : α → β} {x : Except ε α} {b : β} :
    x.map f = .ok b ↔ ∃ a, x = .ok a ∧ f a = b := by
  cases x with
  | error e => simp [Except.map]
  | ok a => simp [Except.map]

theorem bind_eq_ok_iff {x : Except ε α} {f : α → Except ε β} {b : β} :
    x >>= f = .ok b ↔ ∃ a, x = .ok a ∧ f a = .ok b := by
  cases x with
  | error e => simp [bind, Except.bind]
  | ok a => simp [bind, Except.bind]

theorem mapM_eq_ok_iff {f : α → Except ε β} {xs : List α} {ys : List β} :
    xs.mapM f = .ok ys ↔ List.Forall₂ (fun x y => f x = .ok y) xs ys := by
  induction xs generalizing ys with
  | nil =>
    rw [List.mapM_nil, List.forall₂_nil_left_iff]
    exact ⟨fun same => (Except.ok.inj same).symm, fun same => same ▸ rfl⟩
  | cons x xs ih =>
    rw [List.mapM_cons, bind_eq_ok_iff, List.forall₂_cons_left_iff]
    constructor
    · rintro ⟨y, first, rest⟩
      obtain ⟨ys', others, last⟩ := bind_eq_ok_iff.1 rest
      exact ⟨y, ys', first, ih.1 others, (Except.ok.inj last).symm⟩
    · rintro ⟨y, ys', first, others, rfl⟩
      exact ⟨y, first, bind_eq_ok_iff.2 ⟨ys', ih.2 others, rfl⟩⟩

/-- Two relations to a list are one between its partners. -/
theorem forall₂_through {R : γ → α → Prop} {S : γ → β → Prop} {T : α → β → Prop}
    (through : ∀ x y z, R x y → S x z → T y z) {xs : List γ} {ys : List α} {zs : List β}
    (left : List.Forall₂ R xs ys) (right : List.Forall₂ S xs zs) : List.Forall₂ T ys zs := by
  induction left generalizing zs with
  | nil =>
    cases right
    exact .nil
  | cons head _ ih =>
    cases right with
    | cons other tail => exact .cons (through _ _ _ head other) (ih tail)

theorem map_congr_of_forall₂ {R : α → β → Prop} {f : α → γ} {g : β → γ} {xs : List α}
    {ys : List β} (pairs : List.Forall₂ R xs ys) (each : ∀ x y, R x y → f x = g y) :
    xs.map f = ys.map g := by
  induction pairs with
  | nil => rfl
  | cons head _ ih => rw [List.map_cons, List.map_cons, each _ _ head, ih]

theorem mapM_congr_of_forall₂ {m : Type → Type} [Monad m] [LawfulMonad m] {R : α → β → Prop}
    {f : α → m γ} {g : β → m γ} {xs : List α} {ys : List β} (pairs : List.Forall₂ R xs ys)
    (each : ∀ x y, R x y → f x = g y) : xs.mapM f = ys.mapM g := by
  induction pairs with
  | nil => rfl
  | cons head _ ih => rw [List.mapM_cons, List.mapM_cons, each _ _ head, ih]

/-- Two computations fail with the same error, or both succeed with related results. -/
inductive Agree (R : α → β → Prop) : Except ε α → Except ε β → Prop
  | error (reason : ε) : Agree R (.error reason) (.error reason)
  | ok {a : α} {b : β} (related : R a b) : Agree R (.ok a) (.ok b)

theorem Agree.foldlM {R : α → β → Prop} {f : α → γ → Except ε α} {g : β → γ → Except ε β}
    {xs : List γ} (step : ∀ x ∈ xs, ∀ a b, R a b → Agree R (f a x) (g b x)) {a : α} {b : β}
    (related : R a b) : Agree R (xs.foldlM f a) (xs.foldlM g b) := by
  induction xs generalizing a b with
  | nil => exact .ok related
  | cons x xs ih =>
    obtain ⟨first, later⟩ := List.forall_mem_cons.1 step
    rw [List.foldlM_cons, List.foldlM_cons]
    generalize f a x = left, g b x = right, first a b related = agree
    cases agree with
    | error reason => exact .error reason
    | ok next => exact ih later next

theorem rel_cases {R : α → β → Prop} {x : Option α} {y : Option β} (related : Option.Rel R x y) :
    x = none ∧ y = none ∨ ∃ a b, x = some a ∧ y = some b ∧ R a b := by
  cases related with
  | none => exact .inl ⟨rfl, rfl⟩
  | some holds => exact .inr ⟨_, _, rfl, rfl, holds⟩

theorem rel_bind {R : α → β → Prop} {γ' : Type} {S : γ → γ' → Prop} {x : Option α} {y : Option β}
    {f : α → Option γ} {g : β → Option γ'} (related : Option.Rel R x y)
    (step : ∀ a b, R a b → Option.Rel S (f a) (g b)) : Option.Rel S (x >>= f) (y >>= g) := by
  cases related with
  | none => exact .none
  | some holds => exact step _ _ holds

end MockScaffold
