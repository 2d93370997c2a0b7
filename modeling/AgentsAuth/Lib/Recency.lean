import Mathlib.Data.List.Basic
import Mathlib.Data.List.Infix
import Mathlib.Tactic.Common

/-!
# Keys in the order of their last use

A bounded store that keeps the keys used last is a function of the log of its uses: a
use puts a key last, a drop takes it out, and the oldest keys go while there are too
many. Which keys it holds can be told from the log without running it: a key is gone
once as many others as the store holds have been used after it.
-/

namespace AgentsAuth.Lib

universe u

/-- The last place of an element in a list is one place. -/
theorem last_split_unique {α : Type u} {before after before' after' : List α} {a : α}
    (hlast : a ∉ after) (hlast' : a ∉ after') (h : before ++ a :: after = before' ++ a :: after') :
    after = after' := by
  rcases List.append_eq_append_iff.mp h with ⟨mid, hmid, htail⟩ | ⟨mid, hmid, htail⟩
  · cases mid with
    | nil => exact (List.cons.inj htail).2
    | cons b mid =>
      rw [(List.cons.inj htail).2] at hlast
      simp at hlast
  · cases mid with
    | nil => exact (List.cons.inj htail).2.symm
    | cons b mid =>
      rw [(List.cons.inj htail).2] at hlast'
      simp at hlast'

/-- What happens to a key. -/
inductive Use (κ : Type u) where
  | touch (k : κ)
  | drop (k : κ)

namespace Use

/-- The key that is touched. -/
def touched {κ : Type u} : Use κ → Option κ
  | touch k => some k
  | drop _ => none

variable {κ : Type u}

private theorem mem_drop_append_cons {older newer : List κ} {k : κ} {limit : Nat}
    (hnewer : k ∉ newer) :
    k ∈ (older ++ k :: newer).drop ((older ++ k :: newer).length - limit) ↔
      newer.length < limit := by
  rw [List.length_append, List.length_cons, List.drop_append]
  by_cases h : newer.length < limit
  · have hzero : older.length + (newer.length + 1) - limit - older.length = 0 := by omega
    rw [hzero]
    simp [h]
  · obtain ⟨n, hn⟩ : ∃ n, older.length + (newer.length + 1) - limit - older.length = n + 1 :=
      ⟨newer.length - limit, by omega⟩
    rw [hn, List.drop_succ_cons, List.mem_append]
    apply iff_of_false _ h
    rintro (hold | hnew)
    · rw [List.drop_eq_nil_of_le (by omega)] at hold
      cases hold
    · exact hnewer (List.mem_of_mem_drop hnew)

private theorem drop_append_cons {older newer : List κ} {k : κ} {limit : Nat}
    (h : newer.length < limit) :
    (older ++ k :: newer).drop ((older ++ k :: newer).length - limit) =
      older.drop ((older ++ k :: newer).length - limit) ++ k :: newer := by
  rw [List.drop_append_of_le_length]
  rw [List.length_append, List.length_cons]
  omega

variable [DecidableEq κ]

/-- The keys, the one used last at the end, after one more event. -/
def apply (keys : List κ) : Use κ → List κ
  | touch k => keys.filter (· ≠ k) ++ [k]
  | drop k => keys.filter (· ≠ k)

/-- A touch moves its key to the end. -/
@[simp] theorem apply_touch (keys : List κ) (k : κ) :
    apply keys (touch k) = keys.filter (· ≠ k) ++ [k] := rfl

/-- A dropped key is gone. -/
@[simp] theorem apply_drop (keys : List κ) (k : κ) :
    apply keys (drop k) = keys.filter (· ≠ k) := rfl

/-- The keys touched in a log and not dropped since. -/
def fresh (log : List (Use κ)) : List κ := log.foldl apply []

/-- One event of a store that holds `limit` keys at most. -/
def hold (limit : Nat) (keys : List κ) (use : Use κ) : List κ :=
  (apply keys use).drop ((apply keys use).length - limit)

/-- The keys of that store after a log. -/
def held (limit : Nat) (log : List (Use κ)) : List κ := log.foldl (hold limit) []

/-- The key is touched in the log, and never since were `limit` keys touched and not dropped. -/
def RecentlyUsed (limit : Nat) (log : List (Use κ)) (k : κ) : Prop :=
  ∃ before after, log = before ++ touch k :: after ∧ touch k ∉ after ∧
    ∀ mid, mid <+: after → (fresh mid).length < limit

/-- One more event. -/
@[simp] theorem fresh_concat (log : List (Use κ)) (use : Use κ) :
    fresh (log ++ [use]) = apply (fresh log) use := by
  simp [fresh]

/-- One more event. -/
@[simp] theorem held_concat (limit : Nat) (log : List (Use κ)) (use : Use κ) :
    held limit (log ++ [use]) = hold limit (held limit log) use := by
  simp [held]

/-- An event adds no key but the one it touches. -/
theorem mem_apply {keys : List κ} {use : Use κ} {k : κ} (h : k ∈ apply keys use) :
    use = touch k ∨ k ∈ keys ∧ use ≠ drop k := by
  cases use with
  | touch k' =>
    rw [apply, List.mem_append, List.mem_singleton, List.mem_filter] at h
    rcases h with h | rfl
    · exact Or.inr ⟨h.1, by simp⟩
    · exact Or.inl rfl
  | drop k' =>
    rw [apply, List.mem_filter, decide_eq_true_eq] at h
    refine Or.inr ⟨h.1, ?_⟩
    rintro ⟨⟩
    exact h.2 rfl

/-- A key of a log was touched in it. -/
theorem touch_mem_of_mem_fresh {log : List (Use κ)} {k : κ} (h : k ∈ fresh log) :
    touch k ∈ log := by
  induction log using List.reverseRecOn with
  | nil => cases h
  | append_singleton log use ih =>
    rw [fresh_concat] at h
    rcases mem_apply h with rfl | ⟨h, -⟩
    · simp
    · exact List.mem_append_left _ (ih h)

private theorem apply_append {older newer : List κ} {k : κ} {use : Use κ} (htouch : use ≠ touch k)
    (hdrop : use ≠ drop k) :
    ∃ older', apply (older ++ k :: newer) use = older' ++ k :: apply newer use := by
  cases use with
  | touch k' =>
    have hk : k ≠ k' := fun h ↦ htouch (h ▸ rfl)
    exact ⟨older.filter (· ≠ k'), by simp [apply, hk]⟩
  | drop k' =>
    have hk : k ≠ k' := fun h ↦ hdrop (h ▸ rfl)
    exact ⟨older.filter (· ≠ k'), by simp [apply, hk]⟩

private theorem mem_hold {limit : Nat} {keys : List κ} {use : Use κ} {k : κ}
    (h : k ∈ hold limit keys use) : use = touch k ∨ k ∈ keys ∧ use ≠ drop k :=
  mem_apply (List.mem_of_mem_drop h)

/-- A key that is held stands before the keys touched after it, which never were too many. -/
theorem held_split {limit : Nat} {log : List (Use κ)} {k : κ} (h : k ∈ held limit log) :
    ∃ before after older, log = before ++ touch k :: after ∧ touch k ∉ after ∧
      held limit log = older ++ k :: fresh after ∧
      ∀ mid, mid <+: after → (fresh mid).length < limit := by
  induction log using List.reverseRecOn with
  | nil => cases h
  | append_singleton log use ih =>
    rw [held_concat] at h ⊢
    by_cases htouch : use = touch k
    · subst htouch
      have hroom : ([] : List κ).length < limit :=
        (@mem_drop_append_cons κ ((held limit log).filter (· ≠ k)) [] k limit (by simp)).mp h
      refine ⟨log, [], _, rfl, by simp,
        @drop_append_cons κ ((held limit log).filter (· ≠ k)) [] k limit hroom, ?_⟩
      intro mid hmid
      rw [List.prefix_nil.mp hmid]
      exact hroom
    · obtain ⟨hbefore, hdrop⟩ := (mem_hold h).resolve_left htouch
      obtain ⟨before, after, older, hlog, hlast, hheld, hroom⟩ := ih hbefore
      have hlast' : touch k ∉ after ++ [use] := by
        rw [List.mem_append, List.mem_singleton, not_or]
        exact ⟨hlast, fun heq ↦ htouch heq.symm⟩
      obtain ⟨older', hstep⟩ := @apply_append κ _ older (fresh after) k use htouch hdrop
      rw [← fresh_concat] at hstep
      rw [hold, hheld, hstep] at h ⊢
      have hroom' := (mem_drop_append_cons fun hk ↦ hlast' (touch_mem_of_mem_fresh hk)).mp h
      refine ⟨before, after ++ [use], _, by simp [hlog], hlast', drop_append_cons hroom', ?_⟩
      intro mid hmid
      rcases List.prefix_concat_iff.mp hmid with rfl | hmid
      · exact hroom'
      · exact hroom mid hmid

/-- A key that is held was recently used. -/
theorem recentlyUsed_of_mem_held {limit : Nat} {log : List (Use κ)} {k : κ}
    (h : k ∈ held limit log) : RecentlyUsed limit log k := by
  obtain ⟨before, after, -, hlog, hlast, -, hroom⟩ := held_split h
  exact ⟨before, after, hlog, hlast, hroom⟩

/-- A key used recently was so before an event that does not touch it. -/
theorem RecentlyUsed.of_concat {limit : Nat} {log : List (Use κ)} {use : Use κ} {k : κ}
    (h : RecentlyUsed limit (log ++ [use]) k) (htouch : use ≠ touch k) :
    RecentlyUsed limit log k := by
  obtain ⟨before, after, hlog, hlast, hroom⟩ := h
  induction after using List.reverseRecOn with
  | nil => exact absurd (List.append_inj' hlog rfl).2 (by simp [htouch])
  | append_singleton after last _ =>
    rw [← List.cons_append, ← List.append_assoc] at hlog
    refine ⟨before, after, (List.append_inj' hlog rfl).1, ?_, ?_⟩
    · exact fun hin ↦ hlast (List.mem_append_left _ hin)
    · exact fun mid hmid ↦ hroom mid (hmid.trans (List.prefix_append _ _))

/-- A key that is held stays so through an event of another key that leaves it recently used. -/
theorem mem_held_concat {limit : Nat} {log : List (Use κ)} {use : Use κ} {k : κ}
    (h : k ∈ held limit log) (htouch : use ≠ touch k) (hdrop : use ≠ drop k)
    (hrecent : RecentlyUsed limit (log ++ [use]) k) : k ∈ held limit (log ++ [use]) := by
  obtain ⟨before, after, older, hlog, hlast, hheld, -⟩ := held_split h
  obtain ⟨before', after', hlog', hlast', hroom⟩ := hrecent
  have hnew : touch k ∉ after ++ [use] := by
    rw [List.mem_append, List.mem_singleton, not_or]
    exact ⟨hlast, fun heq ↦ htouch heq.symm⟩
  have hsame : after' = after ++ [use] := by
    apply @last_split_unique _ before' after' before (after ++ [use]) (touch k) hlast' hnew
    rw [← hlog', hlog, List.append_assoc, List.cons_append]
  obtain ⟨older', hstep⟩ := @apply_append κ _ older (fresh after) k use htouch hdrop
  rw [← fresh_concat] at hstep
  rw [held_concat, hold, hheld, hstep,
    mem_drop_append_cons fun hk ↦ hnew (touch_mem_of_mem_fresh hk), ← hsame]
  exact hroom after' (List.prefix_refl _)

/-- A key just touched is held. -/
theorem mem_held_touch {limit : Nat} (hlimit : 0 < limit) (log : List (Use κ)) (k : κ) :
    k ∈ held limit (log ++ [touch k]) := by
  rw [held_concat]
  exact (@mem_drop_append_cons κ ((held limit log).filter (· ≠ k)) [] k limit (by simp)).mpr hlimit

/-- The store keeps its bound. -/
theorem length_held_le (limit : Nat) (log : List (Use κ)) : (held limit log).length ≤ limit := by
  induction log using List.reverseRecOn with
  | nil => exact Nat.zero_le _
  | append_singleton log use _ =>
    rw [held_concat, hold, List.length_drop]
    omega

end Use
end AgentsAuth.Lib
