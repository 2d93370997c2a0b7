import AgentsAuth.Lib.Machine
import Mathlib.Logic.Function.Basic

/-!
# Fields and their last writer

A record seen as its fields, and what a log of writes makes of it: the last write to a field
decides, and a field that no write names keeps its value. A machine whose every step overwrites
some fields of a view of its state does so over a whole run.
-/

namespace AgentsAuth.Lib

universe u v w x y

section Overwrite

variable {κ : Type u} {ν : Type v} [DecidableEq κ]

/-- The fields after a log of writes, oldest first. -/
def overwrite (fields : κ → Option ν) (log : List (κ × ν)) : κ → Option ν :=
  log.foldl (fun fields write ↦ Function.update fields write.1 (some write.2)) fields

/-- No write changes nothing. -/
@[simp] theorem overwrite_nil (fields : κ → Option ν) : overwrite fields [] = fields := rfl

/-- One more write sets its field. -/
@[simp] theorem overwrite_concat (fields : κ → Option ν) (log : List (κ × ν)) (write : κ × ν) :
    overwrite fields (log ++ [write]) =
      Function.update (overwrite fields log) write.1 (some write.2) := by
  simp [overwrite]

/-- A field that no write names keeps its value. -/
theorem overwrite_of_notMem {fields : κ → Option ν} {log : List (κ × ν)} {k : κ}
    (h : k ∉ log.map Prod.fst) : overwrite fields log k = fields k := by
  induction log using List.reverseRecOn with
  | nil => rfl
  | append_singleton log write ih =>
    rw [List.map_append, List.mem_append, not_or] at h
    have hne : k ≠ write.1 := by simpa using h.2
    rw [overwrite_concat, Function.update_of_ne hne]
    exact ih h.1

/-- A field that one write names has the value of that write. -/
theorem overwrite_of_mem {fields : κ → Option ν} {log : List (κ × ν)} {k : κ} {v : ν}
    (hnodup : (log.map Prod.fst).Nodup) (h : (k, v) ∈ log) : overwrite fields log k = some v := by
  induction log using List.reverseRecOn with
  | nil => cases h
  | append_singleton log write ih =>
    rw [List.map_append, List.nodup_append] at hnodup
    rw [List.mem_append, List.mem_singleton] at h
    rcases h with hold | rfl
    · have hne : k ≠ write.1 := by
        apply hnodup.2.2 k (List.mem_map_of_mem hold) write.1
        simp
      rw [overwrite_concat, Function.update_of_ne hne]
      exact ih hnodup.1 hold
    · rw [overwrite_concat, Function.update_self]

end Overwrite

namespace Machine

variable {σ : Type u} {ε : Type v} {ω : Type w} {κ : Type x} {ν : Type y}
  (M : Machine σ ε ω) (view : σ → κ → Option ν) (effect : σ → ε → List (κ × ν))

/-- Every step overwrites the fields of its effect, and names none of them twice. -/
structure Overwrites [DecidableEq κ] : Prop where
  view : ∀ s e, view (M.step s e).1 = overwrite (view s) (effect s e)
  nodup : ∀ s e, ((effect s e).map Prod.fst).Nodup

/-- Event `e`, after the events `before`, is the last one of a run to write the field. -/
structure LastWriter (es before : List ε) (e : ε) (k : κ) (v : ν) : Prop where
  occurs : before ++ [e] <+: es
  writes : (k, v) ∈ effect (M.run before) e
  last : ∀ later d, before ++ [e] <+: later → later ++ [d] <+: es →
    k ∉ (effect (M.run later) d).map Prod.fst

variable {M view effect} {es : List ε} {e : ε} {k : κ} {v : ν}

private theorem lastWriter_concat_self (h : (k, v) ∈ effect (M.run es) e) :
    M.LastWriter effect (es ++ [e]) es e k v where
  occurs := List.prefix_refl _
  writes := h
  last := by
    intro later d hlater hd
    have hlong := hlater.length_le
    have hshort := hd.length_le
    simp only [List.length_append, List.length_singleton] at hlong hshort
    omega

private theorem LastWriter.concat {before : List ε} {d : ε}
    (h : M.LastWriter effect es before d k v)
    (hkeep : k ∉ (effect (M.run es) e).map Prod.fst) :
    M.LastWriter effect (es ++ [e]) before d k v where
  occurs := h.occurs.trans (List.prefix_append es [e])
  writes := h.writes
  last := by
    intro later c hlater hc
    rcases List.prefix_concat_iff.mp hc with heq | hpre
    · obtain ⟨rfl, hce⟩ := List.append_inj' heq rfl
      cases hce
      exact hkeep
    · exact h.last later c hlater hpre

private theorem LastWriter.of_concat {before : List ε} {d : ε}
    (h : M.LastWriter effect (es ++ [e]) before d k v)
    (hkeep : k ∉ (effect (M.run es) e).map Prod.fst) : M.LastWriter effect es before d k v where
  occurs := by
    rcases List.prefix_concat_iff.mp h.occurs with heq | hpre
    · obtain ⟨rfl, hde⟩ := List.append_inj' heq rfl
      cases hde
      exact absurd (List.mem_map_of_mem h.writes) hkeep
    · exact hpre
  writes := h.writes
  last := fun later c hlater hc ↦ h.last later c hlater (hc.trans (List.prefix_append es [e]))

variable [DecidableEq κ]

/-- A field of a run's end has the value of its last writer, or the one that it had at first when
nothing has written it. -/
theorem view_run_eq_some_iff (h : M.Overwrites view effect) :
    view (M.run es) k = some v ↔
      (∃ before e, M.LastWriter effect es before e k v) ∨
        view M.init k = some v ∧
          AtEach (fun before e ↦ k ∉ (effect (M.run before) e).map Prod.fst) es := by
  induction es using List.reverseRecOn with
  | nil =>
    constructor
    · intro hview
      exact Or.inr ⟨hview, atEach_nil _⟩
    · rintro (⟨before, e, hlast⟩ | ⟨hview, -⟩)
      · have hlength := hlast.occurs.length_le
        simp at hlength
      · exact hview
  | append_singleton es e ih =>
    rw [run_concat, h.view]
    by_cases hk : k ∈ (effect (M.run es) e).map Prod.fst
    · obtain ⟨⟨k', v'⟩, hwrite, rfl⟩ := List.mem_map.mp hk
      rw [overwrite_of_mem (h.nodup _ _) hwrite]
      constructor
      · intro hv
        cases hv
        exact Or.inl ⟨es, e, lastWriter_concat_self hwrite⟩
      · rintro (⟨before, d, hlast⟩ | ⟨-, hnone⟩)
        · rcases List.prefix_concat_iff.mp hlast.occurs with heq | hpre
          · obtain ⟨rfl, hde⟩ := List.append_inj' heq rfl
            cases hde
            have hsame (v : ν) (hv : (k', v) ∈ effect (M.run before) e) :
                overwrite (view M.init) (effect (M.run before) e) k' = some v :=
              overwrite_of_mem (h.nodup _ _) hv
            exact (hsame v' hwrite).symm.trans (hsame v hlast.writes)
          · exact absurd hk (hlast.last es e hpre (List.prefix_refl _))
        · exact absurd hk (atEach_concat.mp hnone).2
    · rw [overwrite_of_notMem hk, ih]
      constructor
      · rintro (⟨before, d, hlast⟩ | ⟨hview, hnone⟩)
        · exact Or.inl ⟨before, d, hlast.concat hk⟩
        · exact Or.inr ⟨hview, atEach_concat.mpr ⟨hnone, hk⟩⟩
      · rintro (⟨before, d, hlast⟩ | ⟨hview, hnone⟩)
        · exact Or.inl ⟨before, d, hlast.of_concat hk⟩
        · exact Or.inr ⟨hview, (atEach_concat.mp hnone).1⟩

private theorem isSome_view_run (h : M.Overwrites view effect)
    (hinit : (view M.init k).isSome = true) : (view (M.run es) k).isSome = true := by
  apply M.run_invariant (I := fun s ↦ (view s k).isSome = true) hinit
  intro s e hs
  rw [h.view]
  by_cases hk : k ∈ (effect s e).map Prod.fst
  · obtain ⟨⟨k', v'⟩, hwrite, rfl⟩ := List.mem_map.mp hk
    rw [overwrite_of_mem (h.nodup s e) hwrite]
    rfl
  · rw [overwrite_of_notMem hk]
    exact hs

/-- A field that a run changes has a last writer, whose value it has at the end. -/
theorem exists_lastWriter (h : M.Overwrites view effect)
    (hchange : view (M.run es) k ≠ view M.init k) :
    ∃ before e v, M.LastWriter effect es before e k v ∧ view (M.run es) k = some v := by
  cases hv : view (M.run es) k with
  | none =>
    have hnone : view M.init k = none := by
      rw [← Option.not_isSome_iff_eq_none]
      intro hinit
      have hsome : (view (M.run es) k).isSome = true := isSome_view_run h hinit
      rw [hv] at hsome
      cases hsome
    exact absurd (hv.trans hnone.symm) hchange
  | some v =>
    rcases (view_run_eq_some_iff h).mp hv with ⟨before, e, hlast⟩ | ⟨hinit, -⟩
    · exact ⟨before, e, v, hlast, rfl⟩
    · exact absurd (hv.trans hinit.symm) hchange

end Machine
end AgentsAuth.Lib
