import Mathlib.Data.List.Basic
import Mathlib.Data.List.Forall2
import Mathlib.Tactic.Common

/-!
# Sequences of fallible steps

How a sequence of steps in `Except` ends: with the result of its last step, or with the
error of the first step that fails. A step in `Option` that is made for every element of a list has
a result when it has one for each.
-/

namespace AgentsAuth.Lib

universe u v

variable {ε : Type u} {α β : Type v} {x : Except ε α} {f : α → Except ε β}

/-- A sequence of steps succeeds when each of them does. -/
theorem bind_eq_ok_iff {b : β} : x >>= f = .ok b ↔ ∃ a, x = .ok a ∧ f a = .ok b := by
  cases x with
  | error e => simp [bind, Except.bind]
  | ok a => simp [bind, Except.bind]

/-- The results of a step that is made for every element. -/
theorem mapM_eq_some_iff {g : α → Option β} {xs : List α} {ys : List β} :
    xs.mapM g = some ys ↔ List.Forall₂ (fun x y ↦ g x = some y) xs ys := by
  induction xs generalizing ys with
  | nil =>
    rw [List.mapM_nil, List.forall₂_nil_left_iff, Option.pure_def, Option.some.injEq, eq_comm]
  | cons x xs ih =>
    rw [List.mapM_cons, Option.bind_eq_bind, Option.bind_eq_some_iff, List.forall₂_cons_left_iff]
    simp only [Option.bind_eq_bind, Option.bind_eq_some_iff, ih]
    constructor
    · rintro ⟨y, hy, rest, hrest, hys⟩
      cases hys
      exact ⟨y, rest, hy, hrest, rfl⟩
    · rintro ⟨y, rest, hy, hrest, rfl⟩
      exact ⟨y, hy, rest, hrest, rfl⟩

/-- A step can be made for a list when it can be made for each element. -/
theorem isSome_mapM_iff {g : α → Option β} {xs : List α} :
    (xs.mapM g).isSome = true ↔ ∀ x ∈ xs, (g x).isSome = true := by
  induction xs with
  | nil => simp
  | cons x xs ih =>
    rw [List.forall_mem_cons, ← ih, List.mapM_cons]
    cases g x with
    | none => simp
    | some y =>
      cases xs.mapM g with
      | none => simp
      | some ys => simp

end AgentsAuth.Lib
