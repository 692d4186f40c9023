import Mathlib.Data.List.Forall2
/-!
# Functions that may fail

What a function that may fail does to the elements of a list, and what success says about the function
that it comes from.

* `mapError_eq_ok_iff` — another wording of the errors changes no success.
* `map_eq_ok_iff` — a result that is made of another one.
* `bind_eq_ok_iff`, `bind_eq_error_iff` — one step after another.
* `guard_eq_ok_iff` — a condition that is tested before a step.
* `mapM_eq_ok_map` — a function that fails on no element of a list.
* `mapM_eq_some_iff`, `mapM_eq_some_iff_filterMap` — a partial function on a list, element by element.
-/

namespace Agenda

@[simp] theorem mapError_eq_ok_iff {ε ε' α : Type} {x : Except ε α} {f : ε → ε'} {a : α} :
    x.mapError f = .ok a ↔ x = .ok a := by
  cases x with
  | error cause => simp [Except.mapError]
  | ok b => simp [Except.mapError]

theorem map_eq_ok_iff {ε α β : Type} {x : Except ε α} {f : α → β} {b : β} :
    x.map f = .ok b ↔ ∃ a, x = .ok a ∧ f a = b := by
  cases x with
  | error cause => simp [Except.map]
  | ok a => simp [Except.map]

/-- A computation in two steps succeeds exactly when both steps do. -/
theorem bind_eq_ok_iff {ε α β : Type} {x : Except ε α} {f : α → Except ε β} {b : β} :
    x >>= f = .ok b ↔ ∃ a, x = .ok a ∧ f a = .ok b := by
  cases x with
  | error cause => simp [bind, Except.bind]
  | ok a => simp [bind, Except.bind]

/-- A computation in two steps fails exactly when its first step fails or else its second one. -/
theorem bind_eq_error_iff {ε α β : Type} {x : Except ε α} {f : α → Except ε β} {cause : ε} :
    x >>= f = .error cause ↔ x = .error cause ∨ ∃ a, x = .ok a ∧ f a = .error cause := by
  cases x with
  | error cause' => simp [bind, Except.bind]
  | ok a => simp [bind, Except.bind]

/-- A computation behind a guard succeeds exactly when the guard lets it pass and it succeeds itself. -/
theorem guard_eq_ok_iff {ε α : Type} {p : Prop} [Decidable p] {cause : ε} {x : Except ε α} {a : α} :
    (if p then .error cause else x) = .ok a ↔ ¬ p ∧ x = .ok a := by
  by_cases hp : p
  · simp [hp]
  · simp [hp]

/-- Applying a function that never fails on a list fails nowhere. -/
theorem mapM_eq_ok_map {α β ε : Type} {f : α → Except ε β} {g : α → β} {xs : List α}
    (hf : ∀ x ∈ xs, f x = .ok (g x)) : xs.mapM f = .ok (xs.map g) := by
  induction xs with
  | nil => rfl
  | cons x rest ih =>
      rw [List.mapM_cons, hf x (by simp), ih fun y hy => hf y (by simp [hy])]
      rfl

/-- A partial function has a value on a list exactly when it has one on each element. -/
theorem mapM_eq_some_iff {α β : Type} {f : α → Option β} {xs : List α} {ys : List β} :
    xs.mapM f = some ys ↔ List.Forall₂ (fun x y => f x = some y) xs ys := by
  induction xs generalizing ys with
  | nil =>
      rw [List.mapM_nil, List.forall₂_nil_left_iff]
      constructor
      · intro h
        exact (Option.some.inj h).symm
      · rintro rfl
        rfl
  | cons x rest ih =>
      rw [List.mapM_cons, List.forall₂_cons_left_iff]
      simp only [Option.bind_eq_bind, Option.bind_eq_some_iff, Option.pure_def, Option.some.injEq]
      constructor
      · rintro ⟨y, hy, zs, hzs, rfl⟩
        exact ⟨y, zs, hy, ih.1 hzs, rfl⟩
      · rintro ⟨y, zs, hy, hzs, rfl⟩
        exact ⟨y, hy, zs, ih.2 hzs, rfl⟩

/-- A partial function that has a value on each element of a list gathers these values. -/
theorem mapM_eq_some_iff_filterMap {α β : Type} {f : α → Option β} {xs : List α} {ys : List β} :
    xs.mapM f = some ys ↔ (∀ x ∈ xs, ∃ y, f x = some y) ∧ ys = xs.filterMap f := by
  rw [mapM_eq_some_iff]
  constructor
  · intro h
    induction h with
    | nil => simp
    | @cons x y _ _ hxy _ ih =>
        obtain ⟨hall, rfl⟩ := ih
        exact ⟨List.forall_mem_cons.2 ⟨⟨y, hxy⟩, hall⟩, (List.filterMap_cons_some hxy).symm⟩
  · rintro ⟨hall, rfl⟩
    induction xs with
    | nil => exact List.Forall₂.nil
    | cons x rest ih =>
        obtain ⟨⟨y, hy⟩, hrest⟩ := List.forall_mem_cons.1 hall
        rw [List.filterMap_cons_some hy]
        exact List.Forall₂.cons hy (ih hrest)

/-- What is related to the elements of a list one by one is related to each of them. -/
theorem exists_rel_of_mem {α β : Type} {r : α → β → Prop} {xs : List α} {ys : List β}
    (hxs : List.Forall₂ r xs ys) : ∀ x ∈ xs, ∃ y ∈ ys, r x y := by
  induction hxs with
  | nil => simp
  | @cons x y _ _ hxy _ ih =>
      intro x' hx'
      rcases List.mem_cons.1 hx' with rfl | hin
      · exact ⟨y, by simp, hxy⟩
      · obtain ⟨y', hy', hrel⟩ := ih x' hin
        exact ⟨y', by simp [hy'], hrel⟩

end Agenda
