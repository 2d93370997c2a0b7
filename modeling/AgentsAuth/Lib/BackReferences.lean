import AgentsAuth.Lib.InsertionMap

/-!
# Back references

A text in parts that shows a key in full where it comes first and refers back to that place
wherever it comes again. The parts have labels, and a table holds the label of the part that showed
each key. Parts that share a table refer to one another.
-/

namespace AgentsAuth.Lib

universe u v

/-- How a key is shown. -/
inductive Mark (κ : Type u) (ν : Type v) where
  | fresh (k : κ)
  | same (k : κ) (first : ν)
deriving DecidableEq

namespace Mark

variable {κ : Type u} {ν : Type v} [DecidableEq κ]

/-- Show one key in the part `label`. -/
def mark (label : ν) (seen : InsertionMap κ ν) (k : κ) : Mark κ ν × InsertionMap κ ν :=
  match seen.get? k with
  | some first => (.same k first, seen)
  | none => (.fresh k, seen.set k label)

/-- Show keys one after the other. -/
def markAll (label : ν) : InsertionMap κ ν → List κ → List (Mark κ ν) × InsertionMap κ ν
  | seen, [] => ([], seen)
  | seen, k :: ks =>
    let m := mark label seen k
    let ms := markAll label m.2 ks
    (m.1 :: ms.1, ms.2)

variable {label first : ν} {seen : InsertionMap κ ν} {k : κ} {ks ks' : List κ}

/-- Keys in two stretches. -/
theorem markAll_append :
    markAll label seen (ks ++ ks') =
      ((markAll label seen ks).1 ++ (markAll label (markAll label seen ks).2 ks').1,
        (markAll label (markAll label seen ks).2 ks').2) := by
  induction ks generalizing seen with
  | nil => rfl
  | cons k ks ih => simp [markAll, ih]

/-- The table keeps what it holds, and gets the label for the keys that it did not. -/
theorem get?_markAll :
    (markAll label seen ks).2.get? k =
      (seen.get? k).or (if k ∈ ks then some label else none) := by
  induction ks generalizing seen with
  | nil => simp [markAll]
  | cons k' ks ih =>
    rw [markAll, ih, mark]
    split
    · next first hfirst =>
      by_cases hk : k = k'
      · subst hk
        simp [hfirst]
      · simp [hk]
    · next hnone =>
      by_cases hk : k = k'
      · subst hk
        simp [hnone]
      · rw [InsertionMap.get?_set_ne _ _ hk]
        simp [hk]

/-- A key is shown in full exactly when the table does not hold it. -/
theorem fresh_mem_markAll_iff :
    .fresh k ∈ (markAll label seen ks).1 ↔ k ∈ ks ∧ seen.get? k = none := by
  induction ks generalizing seen with
  | nil => simp [markAll]
  | cons k' ks ih =>
    rw [markAll, List.mem_cons, ih, List.mem_cons, mark]
    by_cases heq : k = k'
    · subst heq
      cases h : seen.get? k with
      | none => simp
      | some first => simp [h]
    · cases h : seen.get? k' with
      | none => simp [heq, InsertionMap.get?_set_ne _ _ heq]
      | some first => simp [heq]

/-- A reference is to a label that the table holds, or to a mark further up. -/
theorem same_markAll {before after : List (Mark κ ν)}
    (h : (markAll label seen ks).1 = before ++ .same k first :: after) :
    k ∈ ks ∧ (seen.get? k = some first ∨ first = label ∧ .fresh k ∈ before) := by
  induction ks generalizing seen before with
  | nil => simp [markAll] at h
  | cons k' ks ih =>
    rw [markAll] at h
    cases before with
    | nil =>
      obtain ⟨hhead, -⟩ := List.cons.inj h
      rw [mark] at hhead
      split at hhead
      · next first' hfirst =>
        cases hhead
        exact ⟨List.mem_cons_self .., Or.inl hfirst⟩
      · cases hhead
    | cons m before =>
      obtain ⟨rfl, htail⟩ := List.cons.inj h
      obtain ⟨hk, hseen⟩ := ih htail
      refine ⟨List.mem_cons_of_mem _ hk, ?_⟩
      rcases hseen with hseen | ⟨rfl, hfresh⟩
      · rw [mark] at hseen ⊢
        split at hseen
        · exact Or.inl hseen
        · next hnone =>
          by_cases heq : k = k'
          · subst heq
            rw [InsertionMap.get?_set_self, Option.some.injEq] at hseen
            simp [hnone, hseen]
          · rw [InsertionMap.get?_set_ne _ _ heq] at hseen
            exact Or.inl hseen
      · exact Or.inr ⟨rfl, List.mem_cons_of_mem _ hfresh⟩

end Mark
end AgentsAuth.Lib
