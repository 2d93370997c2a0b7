import AgentsAuth.Agents.TokenExchangeCache
import AgentsAuth.Lib.Machine
import Mathlib.Algebra.Order.Ring.Rat
import Mathlib.Tactic.Linarith

/-!
# How long the agents' cache serves a token

Calls of `get`, `set` and `invalidate` of `token-exchange-cache.ts` in any order on one
cache. An entry lives for the time-to-live of its `set`, while the lifetime that the
issuer reported only travels with the value; and a key is a text in which the separator
is not escaped. Times are rational milliseconds.
-/

namespace AgentsAuth.Agents

open AgentsAuth.Lib

/-- A call of the cache, with the value of `Date.now()`; a `set` may override the time-to-live. -/
inductive CacheOp where
  | get (key : CacheKey) (now : ℚ)
  | set (key : CacheKey) (value : CacheValue) (ttlMs : Option ℚ) (now : ℚ)
  | invalidate (key : CacheKey) (now : ℚ)

/-- When the call is made. -/
def CacheOp.now : CacheOp → ℚ
  | get _ now | set _ _ _ now | invalidate _ now => now

/-- Calls on one cache, constructed with a time-to-live; only a `get` answers. -/
def sharing (defaultTtlMs : ℚ) : Machine (TokenExchangeCache ℚ) CacheOp (Option CacheValue) where
  init := .empty
  step cache op :=
    match op with
    | .get key now => cache.get key now
    | .set key value ttlMs now => (cache.set key value (ttlMs.getD defaultTtlMs) now, none)
    | .invalidate key _ => (cache.invalidate key, none)

/-- The calls are made at non-decreasing clock values. -/
def ClockedOps (ops : List CacheOp) : Prop := ops.Pairwise fun a b ↦ a.now ≤ b.now

/-- The value was set for the key and not invalidated since, and at `now` it is within its
time-to-live and within the lifetime that the issuer reported. -/
def ServedAlive (defaultTtlMs : ℚ) (ops : List CacheOp) (key : CacheKey) (value : CacheValue)
    (now : ℚ) : Prop :=
  ∃ before after ttlMs setAt, ops = before ++ .set key value ttlMs setAt :: after ∧
    (∀ at', .invalidate key at' ∉ after) ∧ now < setAt + ttlMs.getD defaultTtlMs ∧
    now < setAt + value.expiresInSec * 1000

/-- The call uses a key of `K`, and stores a value for a time of `W`. -/
def CacheOp.From (K : CacheKey → Prop) (W : CacheValue → Option ℚ → Prop) : CacheOp → Prop
  | get key _ | invalidate key _ => K key
  | set key value ttlMs _ => K key ∧ W value ttlMs

section Run

variable {defaultTtlMs : ℚ}

/-- The entry was set under a key with this text, which was not invalidated since. -/
def SetUnder (defaultTtlMs : ℚ) (ops : List CacheOp) (k : String) (entry : CacheEntry ℚ) : Prop :=
  ∃ before after key ttlMs setAt,
    ops = before ++ .set key entry.toCacheValue ttlMs setAt :: after ∧
    keyOf key = k ∧ (∀ key' at', .invalidate key' at' ∈ after → keyOf key' ≠ k) ∧
    0 < ttlMs.getD defaultTtlMs ∧ entry.expiresAtMs = setAt + ttlMs.getD defaultTtlMs

private theorem SetUnder.concat {ops : List CacheOp} {op : CacheOp} {k : String}
    {entry : CacheEntry ℚ} (h : SetUnder defaultTtlMs ops k entry)
    (hop : ∀ key at', op = .invalidate key at' → keyOf key ≠ k) :
    SetUnder defaultTtlMs (ops ++ [op]) k entry := by
  obtain ⟨before, after, key, ttlMs, setAt, rfl, hkey, hafter, hrest⟩ := h
  refine ⟨before, after ++ [op], key, ttlMs, setAt, by simp, hkey, ?_, hrest⟩
  intro key' at' hin
  rcases List.mem_append.mp hin with hin | hin
  · exact hafter key' at' hin
  · exact hop key' at' (List.mem_singleton.mp hin).symm

/-- After every run each entry was set under its key. -/
theorem setUnder_run (ops : List CacheOp) :
    InsertionMap.Forall (SetUnder defaultTtlMs ops) ((sharing defaultTtlMs).run ops) := by
  apply (sharing defaultTtlMs).run_induction
    (P := fun ops cache ↦ InsertionMap.Forall (SetUnder defaultTtlMs ops) cache)
  · exact InsertionMap.forall_empty _
  · intro ops op ih
    cases op with
    | get key now =>
      apply TokenExchangeCache.forall_get
      exact ih.imp fun k entry h ↦ h.concat (by simp)
    | set key value ttlMs now =>
      apply TokenExchangeCache.forall_set
      · exact ih.imp fun k entry h ↦ h.concat (by simp)
      · intro hpos
        exact ⟨ops, [], key, ttlMs, now, rfl, rfl, by simp, hpos, rfl⟩
    | invalidate key now =>
      intro e he
      obtain ⟨hin, hne⟩ := InsertionMap.mem_entries_filter.mp he
      apply (ih e hin).concat
      rintro key' at' heq
      cases heq
      exact fun h ↦ of_decide_eq_true hne h.symm

/-- A hit is a value set under a key with this text, not invalidated since, and within the
time-to-live of that `set`. -/
theorem exists_set_of_get {ops : List CacheOp} {key : CacheKey} {value : CacheValue} {now : ℚ}
    (h : (sharing defaultTtlMs).answer ops (.get key now) = some value) :
    ∃ before after key' ttlMs setAt, ops = before ++ .set key' value ttlMs setAt :: after ∧
      keyOf key' = keyOf key ∧ (∀ at', .invalidate key at' ∉ after) ∧
      0 < ttlMs.getD defaultTtlMs ∧ now < setAt + ttlMs.getD defaultTtlMs := by
  obtain ⟨entry, hentry, hnow, rfl⟩ := TokenExchangeCache.get_eq_some_iff.mp h
  obtain ⟨before, after, key', ttlMs, setAt, hops, hkey, hafter, hpos, hexpires⟩ :=
    (setUnder_run ops).of_get? hentry
  refine ⟨before, after, key', ttlMs, setAt, hops, hkey, ?_, hpos, hexpires ▸ hnow⟩
  intro at' hin
  exact hafter key at' hin rfl

/-- A value just stored is served until its time-to-live has passed, to every key of the same
text. -/
theorem get_after_set {key key' : CacheKey} {value : CacheValue} {ttlMs : Option ℚ}
    {setAt now : ℚ} (hkey : keyOf key = keyOf key') (hpos : 0 < ttlMs.getD defaultTtlMs)
    (hnow : now < setAt + ttlMs.getD defaultTtlMs) :
    (sharing defaultTtlMs).answer [.set key value ttlMs setAt] (.get key' now) = some value :=
  TokenExchangeCache.get_set_of_lt hpos hkey hnow

private theorem ServedAlive.of_singleton {key key' : CacheKey} {value value' : CacheValue}
    {ttlMs : Option ℚ} {setAt now : ℚ}
    (h : ServedAlive defaultTtlMs [.set key' value' ttlMs setAt] key value now) :
    key = key' ∧ now < setAt + value.expiresInSec * 1000 := by
  obtain ⟨before, after, ttlMs', setAt', hops, -, -, hlifetime⟩ := h
  cases before with
  | nil =>
    cases hops
    exact ⟨rfl, hlifetime⟩
  | cons op before =>
    have hlength := congrArg List.length hops
    simp at hlength

end Run

/-- For calls with keys of `K` that store values for times of `W`, the cache serves live tokens
only, exactly when each positive time-to-live is within the reported lifetime and no key of `K`
shares the text of the key it is used with. -/
theorem served_alive_iff (defaultTtlMs : ℚ) (K : CacheKey → Prop)
    (W : CacheValue → Option ℚ → Prop) :
    (∀ ops key value now, (∀ op ∈ ops, op.From K W) → K key →
      ClockedOps (ops ++ [.get key now]) →
      (sharing defaultTtlMs).answer ops (.get key now) = some value →
      ServedAlive defaultTtlMs ops key value now) ↔
    ∀ key value ttlMs, K key → W value ttlMs → 0 < ttlMs.getD defaultTtlMs →
      ttlMs.getD defaultTtlMs ≤ value.expiresInSec * 1000 ∧
      ∀ key', K key' → keyOf key' = keyOf key → key' = key := by
  constructor
  · intro h key value ttlMs hK hW hpos
    have hfrom : ∀ op ∈ [CacheOp.set key value ttlMs 0], op.From K W := by
      intro op hop
      rw [List.mem_singleton.mp hop]
      exact ⟨hK, hW⟩
    constructor
    · -- a lookup at the end of the reported lifetime would be a hit
      by_contra hlt
      have hend : max 0 (value.expiresInSec * 1000) < 0 + ttlMs.getD defaultTtlMs := by
        rw [zero_add]
        exact max_lt hpos (not_le.mp hlt)
      have halive := h [.set key value ttlMs 0] key value _ hfrom hK
        (by simp [ClockedOps, CacheOp.now]) (get_after_set rfl hpos hend)
      exact absurd halive.of_singleton.2 (not_lt.mpr (by simp))
    · intro key' hK' hkey
      have halive := h [.set key value ttlMs 0] key' value 0 hfrom hK'
        (by simp [ClockedOps, CacheOp.now]) (get_after_set hkey.symm hpos (by rwa [zero_add]))
      exact halive.of_singleton.1
  · intro h ops key value now hfrom hK _ hhit
    obtain ⟨before, after, key', ttlMs, setAt, rfl, hkey, hafter, hpos, hnow⟩ :=
      exists_set_of_get hhit
    obtain ⟨hK', hW⟩ : K key' ∧ W value ttlMs := hfrom (.set key' value ttlMs setAt) (by simp)
    obtain ⟨hlifetime, hunique⟩ := h key' value ttlMs hK' hW hpos
    obtain rfl := hunique key hK hkey.symm
    exact ⟨before, after, ttlMs, setAt, rfl, hafter, hnow, by linarith⟩

/-- A token reported to live for 30 seconds is served after 40. -/
theorem dead_token_served :
    ¬ ∀ (defaultTtlMs : ℚ) (ops : List CacheOp) (key : CacheKey) (value : CacheValue) (now : ℚ),
      ClockedOps (ops ++ [.get key now]) →
      (sharing defaultTtlMs).answer ops (.get key now) = some value →
      ServedAlive defaultTtlMs ops key value now := by
  intro h
  have halive := h 60000 [.set ⟨"alice", "ops:write", "mcp-ops", "mfa"⟩
    ⟨"e30.ops.sig", 30, "ops:write"⟩ none 0] ⟨"alice", "ops:write", "mcp-ops", "mfa"⟩
    ⟨"e30.ops.sig", 30, "ops:write"⟩ 40000 (by norm_num [ClockedOps, CacheOp.now])
    (get_after_set rfl (by norm_num) (by norm_num))
  have hlt := halive.of_singleton.2
  norm_num at hlt

end AgentsAuth.Agents
