import AgentsAuth.Lib.Fallible

/-!
# What a computation needs

A computation that fails exactly when something that it needs is not met. Needs of a computation in
steps are those of its steps, whatever the steps pass on, so that they can be listed without running
it.
-/

namespace AgentsAuth.Lib

universe u v

variable {ν : Type u} {α β : Type v}

/-- There is a result exactly when all needs are met. -/
def Needs (met : ν → Prop) (x : Option α) (needs : List ν) : Prop :=
  x.isSome = true ↔ ∀ n ∈ needs, met n

namespace Needs

variable {met : ν → Prop} {x : Option α} {needs needs' : List ν}

/-- A result needs nothing. -/
theorem of_some (a : α) : Needs met (some a) [] := by
  simp [Needs]

/-- Nothing more is needed for what is made of a result. -/
theorem map (hx : Needs met x needs) (f : α → β) : Needs met (x.map f) needs := by
  rw [Needs, Option.isSome_map]
  exact hx

/-- One step after another. -/
theorem bind {f : α → Option β} (hx : Needs met x needs) (hf : ∀ a, Needs met (f a) needs') :
    Needs met (x.bind f) (needs ++ needs') := by
  have hfirst : x.isSome = true ↔ ∀ n ∈ needs, met n := hx
  rw [Needs, List.forall_mem_append, ← hfirst]
  cases x with
  | none => simp
  | some a => simpa [Needs] using hf a

/-- A last step that cannot fail. -/
theorem bind_some {f : α → Option β} (hx : Needs met x needs) (hf : ∀ a, (f a).isSome = true) :
    Needs met (x.bind f) needs := by
  rw [← List.append_nil needs]
  apply hx.bind
  intro a
  simp [Needs, hf a]

/-- The same step for each element. -/
theorem mapM {g : α → Option β} {each : α → List ν} (hg : ∀ a, Needs met (g a) (each a))
    (as : List α) : Needs met (as.mapM g) (as.flatMap each) := by
  rw [Needs, isSome_mapM_iff]
  constructor
  · intro h n hn
    obtain ⟨a, ha, hn⟩ := List.mem_flatMap.mp hn
    exact (hg a).mp (h a ha) n hn
  · intro h a ha
    apply (hg a).mpr
    intro n hn
    exact h n (List.mem_flatMap.mpr ⟨a, ha, hn⟩)

/-- Needs that the same ones are met for may be listed in another way. -/
theorem congr (hx : Needs met x needs) (h : (∀ n ∈ needs, met n) ↔ ∀ n ∈ needs', met n) :
    Needs met x needs' := hx.trans h

end Needs
end AgentsAuth.Lib
