import AgentsAuth.Lib.Double
import AgentsAuth.Lib.InsertionMap
import AgentsAuth.Lib.Words
import Mathlib.Algebra.Order.Ring.Rat
import Mathlib.Data.Rat.Floor

/-!
# The exchange cache of the shim

`apps/exchange-shim/src/exchange-cache.ts`: exchanged tokens by a hash of the whole
caller token and the audience, reused for the shorter of the configured time and the
issued lifetime less a skew. Times are milliseconds, computed in double precision.
-/

namespace AgentsAuth.Shim

open AgentsAuth.Lib

/-- `ExchangeResponse` of `apps/exchange-shim/src/exchange-handler.ts:22–26`. -/
structure ExchangeResponse where
  accessToken : String
  tokenType : String
  expiresIn : ℚ
deriving DecidableEq

/-- `Entry` of `apps/exchange-shim/src/exchange-cache.ts:32–37`. -/
structure Entry where
  accessToken : String
  tokenType : String
  expiresAtMs : ℚ
  reuseUntilMs : ℚ

/-- The options that the constructor accepts: `exchange-cache.ts:45–51`. -/
structure ExchangeCacheOptions where
  ttlMs : ℚ
  maxEntries : Nat
  skewMs : ℚ
  ttl_nonneg : 0 ≤ ttlMs
  maxEntries_pos : 1 ≤ maxEntries

/-- The store of an `ExchangeCache`. -/
abbrev Store := InsertionMap String Entry

/-- Model of `apps/exchange-shim/src/exchange-cache.ts:53–55`. -/
def keyOf (sha256 : String → String) (callerToken audience : String) : String :=
  sha256 callerToken ++ "\x00" ++ audience

/-- Model of `apps/exchange-shim/src/exchange-cache.ts:57–74`. -/
def Store.get (store : Store) (opts : ExchangeCacheOptions) (k : String) (now : ℚ) :
    Store × Option ExchangeResponse :=
  match store.get? k with
  | none => (store, none)
  | some e =>
    if e.reuseUntilMs ≤ now then (store.erase k, none)
    else
      ((store.erase k).set k e,
        some ⟨e.accessToken, e.tokenType,
          ⌊double (double (double (e.expiresAtMs + opts.skewMs) - now) / 1000)⌋⟩)

/-- Model of `apps/exchange-shim/src/exchange-cache.ts:76–94`. -/
def Store.put (store : Store) (opts : ExchangeCacheOptions) (k : String)
    (token : ExchangeResponse) (now : ℚ) : Store :=
  let lifetimeMs := double (double (token.expiresIn * 1000) - opts.skewMs)
  if opts.ttlMs = 0 then store
  else if lifetimeMs ≤ 0 then store
  else
    ((store.erase k).set k ⟨token.accessToken, token.tokenType, double (now + lifetimeMs),
      double (now + min opts.ttlMs lifetimeMs)⟩).evictTo opts.maxEntries

/-- With digests free of the separator, a key determines the digest and the audience. -/
theorem keyOf_inj {sha256 : String → String} {t t' audience audience' : String}
    (ht : '\x00' ∉ (sha256 t).toList) (ht' : '\x00' ∉ (sha256 t').toList)
    (h : keyOf sha256 t audience = keyOf sha256 t' audience') :
    sha256 t = sha256 t' ∧ audience = audience' :=
  append_singleton_append_inj ht ht' h

section Invariant

variable {P : String → Entry → Prop} {store : Store} {opts : ExchangeCacheOptions} {k : String}
  {now : ℚ}

/-- A lookup keeps an invariant of the entries. -/
theorem Store.forall_get (h : InsertionMap.Forall P store) :
    InsertionMap.Forall P (store.get opts k now).1 := by
  unfold Store.get
  split
  · exact h
  · next e he =>
    split
    · exact h.erase k
    · exact (h.erase k).set (h.of_get? he)

/-- A hit is an entry under its key. -/
theorem Store.exists_entry_of_get {response : ExchangeResponse}
    (h : (store.get opts k now).2 = some response) :
    ∃ e, InsertionMap.get? store k = some e ∧ response.accessToken = e.accessToken := by
  unfold Store.get at h
  split at h
  · cases h
  · next e he =>
    split at h
    · cases h
    · cases h
      exact ⟨e, he, rfl⟩

/-- Storing keeps an invariant of the entries that the new entry has. -/
theorem Store.forall_put {token : ExchangeResponse} (h : InsertionMap.Forall P store)
    (hk : ∀ e, e.accessToken = token.accessToken → P k e) :
    InsertionMap.Forall P (store.put opts k token now) := by
  unfold Store.put
  simp only
  split
  · exact h
  · split
    · exact h
    · exact ((h.erase k).set (hk _ rfl)).evictTo _

end Invariant
end AgentsAuth.Shim
