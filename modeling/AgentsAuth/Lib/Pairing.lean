import Mathlib.Data.List.Basic
import Mathlib.Data.List.Nodup

/-!
# Pairing by key

Requests are served in order, each with the first item of its key among those that are left. The
item that a request is served with is told by counting: the third request for a key takes the third
item of that key, whatever is requested in between.
-/

namespace AgentsAuth.Lib

variable {κ α β : Type} [DecidableEq κ]

/-- Each request takes the first item of its key that is left. -/
def pairFirst (key : α → κ) : List κ → List α → List (Option α)
  | [], _ => []
  | k :: requests, pending =>
    pending.find? (fun x ↦ key x = k) ::
      pairFirst key requests (pending.eraseP fun x ↦ key x = k)

/-- Every request is answered. -/
theorem length_pairFirst {key : α → κ} {requests : List κ} {pending : List α} :
    (pairFirst key requests pending).length = requests.length := by
  induction requests generalizing pending with
  | nil => rfl
  | cons k requests ih => rw [pairFirst, List.length_cons, ih, List.length_cons]

private theorem filter_eraseP_self {p : α → Bool} {xs : List α} :
    (xs.eraseP p).filter p = (xs.filter p).tail := by
  induction xs with
  | nil => rfl
  | cons x xs ih =>
    by_cases hx : p x = true
    · rw [List.eraseP_cons_of_pos hx, List.filter_cons_of_pos hx, List.tail_cons]
    · rw [List.eraseP_cons_of_neg hx, List.filter_cons_of_neg hx, List.filter_cons_of_neg hx, ih]

private theorem filter_eraseP_of_disjoint {p q : α → Bool} {xs : List α}
    (h : ∀ x, p x = true → q x = false) : (xs.eraseP p).filter q = xs.filter q := by
  induction xs with
  | nil => rfl
  | cons x xs ih =>
    by_cases hx : p x = true
    · have hq : q x ≠ true := by
        rw [h x hx]
        exact Bool.false_ne_true
      rw [List.eraseP_cons_of_pos hx, List.filter_cons_of_neg hq]
    · rw [List.eraseP_cons_of_neg hx, List.filter_cons, List.filter_cons, ih]

/-- A request takes the item of its key that has as many before it as there were requests for the
key. -/
theorem getElem?_pairFirst {key : α → κ} {requests : List κ} {pending : List α} {n : Nat} {k : κ}
    (h : requests[n]? = some k) :
    (pairFirst key requests pending)[n]? =
      some ((pending.filter fun x ↦ key x = k)[(requests.take n).count k]?) := by
  induction requests generalizing pending n with
  | nil => cases h
  | cons k' requests ih =>
    rw [pairFirst]
    cases n with
    | zero =>
      cases h
      rw [List.getElem?_cons_zero, List.take_zero, List.count_nil, ← List.head?_eq_getElem?,
        List.head?_filter]
    | succ n =>
      rw [List.getElem?_cons_succ] at h ⊢
      rw [ih h, List.take_succ_cons, List.count_cons]
      by_cases hk : k' = k
      · subst hk
        rw [filter_eraseP_self, List.getElem?_tail]
        simp
      · have hdisjoint : ∀ x, decide (key x = k') = true → decide (key x = k) = false := by
          intro x hx
          rw [of_decide_eq_true hx]
          exact decide_eq_false hk
        rw [filter_eraseP_of_disjoint hdisjoint]
        simp [hk]

end AgentsAuth.Lib
