import Mathlib.Data.List.Basic
import Mathlib.Data.List.Infix
import Mathlib.Tactic.Common

/-!
# Event-driven machines

A process that owns some state and answers one event at a time. A run is the list
of its events; the state, the answers and the transcript of a run are functions of
that list, so that a property of every run is a property of every event list.
Invariants may speak about the history as well as the state.
-/

namespace AgentsAuth.Lib

universe u v w x

/-- Every element of a list is `Q` after the ones before it. -/
def AtEach {ε : Type v} (Q : List ε → ε → Prop) (es : List ε) : Prop :=
  ∀ before e, before ++ [e] <+: es → Q before e

/-- Nothing is asked of the empty list. -/
theorem atEach_nil {ε : Type v} (Q : List ε → ε → Prop) : AtEach Q [] := by
  intro before e h
  have hlength := h.length_le
  simp at hlength

/-- A condition on each element holds of all but the last and of the last one. -/
theorem atEach_concat {ε : Type v} {Q : List ε → ε → Prop} {es : List ε} {e : ε} :
    AtEach Q (es ++ [e]) ↔ AtEach Q es ∧ Q es e := by
  constructor
  · intro h
    exact ⟨fun before d hd ↦ h before d (hd.trans (List.prefix_append es [e])),
      h es e (List.prefix_refl _)⟩
  · rintro ⟨hes, he⟩ before d hd
    rcases List.prefix_concat_iff.mp hd with heq | hpre
    · obtain ⟨rfl, hde⟩ := List.append_inj' heq rfl
      cases hde
      exact he
    · exact hes before d hpre

/-- A deterministic process: an initial state, and the next state and the answer of an event. -/
structure Machine (σ : Type u) (ε : Type v) (ω : Type w) where
  init : σ
  step : σ → ε → σ × ω

namespace Machine

variable {σ : Type u} {ε : Type v} {ω : Type w} (M : Machine σ ε ω)

/-- State after the events `es`, oldest first. -/
def run (es : List ε) : σ := es.foldl (fun s e ↦ (M.step s e).1) M.init

/-- Answer to `e` after the events `es`. -/
def answer (es : List ε) (e : ε) : ω := (M.step (M.run es) e).2

private def transcriptFrom : σ → List ε → List (ε × ω)
  | _, [] => []
  | s, e :: es => (e, (M.step s e).2) :: transcriptFrom (M.step s e).1 es

/-- Every event of a run with its answer, oldest first. -/
def transcript (es : List ε) : List (ε × ω) := M.transcriptFrom M.init es

/-- No event leaves the initial state. -/
@[simp] theorem run_nil : M.run [] = M.init := rfl

/-- One more event is one more step. -/
@[simp] theorem run_concat (es : List ε) (e : ε) :
    M.run (es ++ [e]) = (M.step (M.run es) e).1 := by
  simp [run]

/-- The empty run has an empty transcript. -/
@[simp] theorem transcript_nil : M.transcript [] = [] := rfl

private theorem transcriptFrom_concat (s : σ) (es : List ε) (e : ε) :
    M.transcriptFrom s (es ++ [e]) =
      M.transcriptFrom s es ++ [(e, (M.step (es.foldl (fun s e ↦ (M.step s e).1) s) e).2)] := by
  induction es generalizing s with
  | nil => rfl
  | cons d es ih => simp [transcriptFrom, ih]

/-- One more event appends that event and its answer. -/
@[simp] theorem transcript_concat (es : List ε) (e : ε) :
    M.transcript (es ++ [e]) = M.transcript es ++ [(e, M.answer es e)] :=
  M.transcriptFrom_concat M.init es e

/-- A property of history and state that the empty run has and one event preserves
holds after every run. -/
theorem run_induction {P : List ε → σ → Prop} (nil : P [] M.init)
    (concat : ∀ es e, P es (M.run es) → P (es ++ [e]) (M.step (M.run es) e).1)
    (es : List ε) : P es (M.run es) := by
  induction es using List.reverseRecOn with
  | nil => exact nil
  | append_singleton es e ih =>
    rw [run_concat]
    exact concat es e ih

/-- A state invariant: it holds initially and every event preserves it. -/
theorem run_invariant {I : σ → Prop} (init : I M.init)
    (step : ∀ s e, I s → I (M.step s e).1) (es : List ε) : I (M.run es) :=
  M.run_induction (P := fun _ s ↦ I s) init (fun _ _ h ↦ step _ _ h) es

/-- The same invariant rule for runs whose every prefix satisfies `C`. -/
theorem run_induction_on {C : List ε → Prop} {P : List ε → σ → Prop}
    (closed : ∀ es e, C (es ++ [e]) → C es) (nil : P [] M.init)
    (concat : ∀ es e, C (es ++ [e]) → P es (M.run es) →
      P (es ++ [e]) (M.step (M.run es) e).1)
    (es : List ε) (h : C es) : P es (M.run es) := by
  refine M.run_induction (P := fun es s ↦ C es → P es s) (fun _ ↦ nil) ?_ es h
  intro es e ih hc
  exact concat es e hc (ih (closed es e hc))

/-- Every event of a run is `C` in the state that it meets. -/
def Along (C : σ → ε → Prop) (es : List ε) : Prop :=
  ∀ before e, before ++ [e] <+: es → C (M.run before) e

/-- The empty run meets every condition. -/
theorem along_nil (C : σ → ε → Prop) : M.Along C [] :=
  atEach_nil fun before e ↦ C (M.run before) e

/-- A run meets a condition when its events but the last do and the last one does. -/
theorem along_concat {C : σ → ε → Prop} {es : List ε} {e : ε} :
    M.Along C (es ++ [e]) ↔ M.Along C es ∧ C (M.run es) e :=
  @atEach_concat ε (fun before e ↦ C (M.run before) e) es e

/-- The invariant rule for runs that meet a condition along the way. -/
theorem run_induction_along {C : σ → ε → Prop} {P : List ε → σ → Prop} (nil : P [] M.init)
    (concat : ∀ es e, C (M.run es) e → P es (M.run es) → P (es ++ [e]) (M.step (M.run es) e).1)
    (es : List ε) (h : M.Along C es) : P es (M.run es) := by
  apply M.run_induction_on (C := M.Along C) _ nil _ es h
  · intro es e h
    exact (M.along_concat.mp h).1
  · intro es e h
    exact concat es e (M.along_concat.mp h).2

/-- The events of a transcript are the events of the run. -/
theorem map_fst_transcript (es : List ε) : (M.transcript es).map Prod.fst = es := by
  induction es using List.reverseRecOn with
  | nil => rfl
  | append_singleton es e ih => simp [ih]

section SingleUse

variable {κ : Type x} [DecidableEq κ]

/-- Number of events of a run that `accepts` and that carry the key `k`. -/
def uses (accepts : ε × ω → Bool) (key : ε → κ) (es : List ε) (k : κ) : Nat :=
  (M.transcript es).countP fun a ↦ accepts a && key a.1 == k

/-- A key is used at most once when an accepted event's key is always fresh:
no earlier accepted event of the run carries it. -/
theorem uses_le_one {accepts : ε × ω → Bool} {key : ε → κ} {es : List ε}
    (fresh : ∀ before e, before ++ [e] <+: es → accepts (e, M.answer before e) = true →
      ∀ a ∈ M.transcript before, accepts a = true → key a.1 ≠ key e)
    (k : κ) : M.uses accepts key es k ≤ 1 := by
  induction es using List.reverseRecOn with
  | nil => simp [uses]
  | append_singleton es e ih =>
    have hes := ih fun before d hd ↦ fresh before d (hd.trans (List.prefix_append es [e]))
    rw [uses, transcript_concat, List.countP_append]
    by_cases he : (accepts (e, M.answer es e) && key e == k) = true
    · have hz : M.uses accepts key es k = 0 := by
        rw [uses, List.countP_eq_zero]
        intro a ha hk
        rw [Bool.and_eq_true, beq_iff_eq] at he hk
        exact fresh es e (List.prefix_refl _) he.1 a ha hk.1 (hk.2.trans he.2.symm)
      rw [uses] at hz
      simp [hz, he]
    · rw [uses] at hes
      simpa [he] using hes

end SingleUse

end Machine
end AgentsAuth.Lib
