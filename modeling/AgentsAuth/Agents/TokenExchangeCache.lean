import AgentsAuth.Lib.InsertionMap
import AgentsAuth.Lib.Words
import Mathlib.Algebra.Order.Group.Int
import Mathlib.Data.Rat.Defs

/-!
# The exchange cache of the agents

`token-exchange-cache.ts`, the same file in `apps/agent-copilot/src` and in
`apps/agent-specialist/src`. An entry lives under user, audience, scope and `acr`; the
subject token is not part of its key. Times are milliseconds, of any ordered group.
-/

namespace AgentsAuth.Agents

open AgentsAuth.Lib

/-- `CacheKey` of `token-exchange-cache.ts:1–14`. -/
structure CacheKey where
  sub : String
  scope : String
  audience : String
  acr : String
deriving DecidableEq

/-- `CacheValue` of `token-exchange-cache.ts:16–22`. -/
structure CacheValue where
  accessToken : String
  expiresInSec : ℚ
  scope : String
deriving DecidableEq

/-- `Entry` of `token-exchange-cache.ts:24–26`. -/
structure CacheEntry (τ : Type := Int) extends CacheValue where
  expiresAtMs : τ

/-- The store of a `TokenExchangeCache`. -/
abbrev TokenExchangeCache (τ : Type := Int) := InsertionMap String (CacheEntry τ)

/-- Model of `token-exchange-cache.ts:37–39`. -/
def keyOf (k : CacheKey) : String :=
  k.sub ++ "\x00" ++ k.audience ++ "\x00" ++ k.scope ++ "\x00" ++ k.acr

namespace TokenExchangeCache

variable {τ : Type} [LinearOrder τ]

/-- Model of `token-exchange-cache.ts:41–50`. -/
def get (cache : TokenExchangeCache τ) (key : CacheKey) (now : τ) :
    TokenExchangeCache τ × Option CacheValue :=
  match cache.get? (keyOf key) with
  | none => (cache, none)
  | some entry =>
    if entry.expiresAtMs ≤ now then (cache.erase (keyOf key), none)
    else (cache, some entry.toCacheValue)

/-- Model of `token-exchange-cache.ts:58–64`. -/
def set [AddCommGroup τ] (cache : TokenExchangeCache τ) (key : CacheKey) (value : CacheValue)
    (ttlMs : τ) (now : τ) : TokenExchangeCache τ :=
  if ttlMs ≤ 0 then cache
  else InsertionMap.set cache (keyOf key) { value with expiresAtMs := now + ttlMs }

/-- Model of `token-exchange-cache.ts:66–68`. -/
def invalidate (cache : TokenExchangeCache τ) (key : CacheKey) : TokenExchangeCache τ :=
  cache.erase (keyOf key)

section Entries

variable {P : String → CacheEntry τ → Prop} {cache : TokenExchangeCache τ} {key : CacheKey}
  {value : CacheValue} {now : τ}

/-- A lookup keeps an invariant of the entries. -/
theorem forall_get (h : InsertionMap.Forall P cache) :
    InsertionMap.Forall P (cache.get key now).1 := by
  unfold get
  split
  · exact h
  · split
    · exact h.erase _
    · exact h

/-- A hit is an entry under its key that has not expired. -/
theorem get_eq_some_iff : (cache.get key now).2 = some value ↔
    ∃ entry, InsertionMap.get? cache (keyOf key) = some entry ∧ now < entry.expiresAtMs ∧
      entry.toCacheValue = value := by
  unfold get
  cases h : InsertionMap.get? cache (keyOf key) with
  | none => simp
  | some entry =>
    by_cases hnow : entry.expiresAtMs ≤ now
    · simp [hnow]
    · simp [hnow, not_le.mp hnow]

/-- A hit is an entry under its key. -/
theorem exists_entry_of_get (h : (cache.get key now).2 = some value) :
    ∃ entry, InsertionMap.get? cache (keyOf key) = some entry ∧ entry.toCacheValue = value := by
  obtain ⟨entry, hentry, -, hvalue⟩ := get_eq_some_iff.mp h
  exact ⟨entry, hentry, hvalue⟩

variable [AddCommGroup τ] {ttlMs : τ}

/-- Storing keeps an invariant of the entries that the new entry has. -/
theorem forall_set (h : InsertionMap.Forall P cache)
    (hkey : 0 < ttlMs → P (keyOf key) { value with expiresAtMs := now + ttlMs }) :
    InsertionMap.Forall P (cache.set key value ttlMs now) := by
  unfold set
  split
  · exact h
  · next hpos =>
    apply InsertionMap.Forall.set h
    exact hkey (not_le.mp hpos)

/-- A value just stored is served to every key of the same text until its time has passed. -/
theorem get_set_of_lt {key' : CacheKey} {later : τ} (h : 0 < ttlMs) (hkey : keyOf key = keyOf key')
    (hlater : later < now + ttlMs) :
    ((cache.set key value ttlMs now).get key' later).2 = some value := by
  rw [set, if_neg (not_le.mpr h), get_eq_some_iff]
  exact ⟨{ value with expiresAtMs := now + ttlMs }, hkey ▸ InsertionMap.get?_set_self .., hlater,
    rfl⟩

/-- A value just stored for a positive time is served to every key of the same text. -/
theorem get_set [IsOrderedAddMonoid τ] {key' : CacheKey} (h : 0 < ttlMs)
    (hkey : keyOf key = keyOf key') :
    ((cache.set key value ttlMs now).get key' now).2 = some value :=
  get_set_of_lt h hkey (lt_add_of_pos_right now h)

end Entries
end TokenExchangeCache
end AgentsAuth.Agents
