import AgentsAuth.Lib.Machine
import AgentsAuth.Lib.Remembered
import AgentsAuth.Shim.ExchangeCache
import Mathlib.Data.List.Dedup
import Mathlib.Tactic.Linarith
import Mathlib.Tactic.Ring

/-!
# Laws of the exchange cache

Calls of `get` and `set` of `apps/exchange-shim/src/exchange-cache.ts` in any order on
one cache. What a lookup answers can be told from the history: the latest set for the
caller token and the audience that was not skipped, its age, and the uses of other keys
since the key was last used. A key found expired gives up its place at once, so that
keys are counted while they are in the cache.
-/

namespace AgentsAuth.Shim

open AgentsAuth.Lib

/-- A call of the cache, with the value of `Date.now()`. -/
inductive CacheCall where
  | get (callerToken audience : String) (now : ℚ)
  | set (callerToken audience : String) (token : ExchangeResponse) (now : ℚ)

namespace CacheCall

/-- When the call is made. -/
def now : CacheCall → ℚ
  | get _ _ now | set _ _ _ now => now

/-- The caller token of the call. -/
def callerToken : CacheCall → String
  | get callerToken _ _ | set callerToken _ _ _ => callerToken

end CacheCall

/-- Calls on one cache; a `set` answers nothing. -/
def caching (sha256 : String → String) (opts : ExchangeCacheOptions) :
    Machine Store CacheCall (Option ExchangeResponse) where
  init := .empty
  step store call :=
    match call with
    | .get callerToken audience now => store.get opts (keyOf sha256 callerToken audience) now
    | .set callerToken audience token now =>
      (store.put opts (keyOf sha256 callerToken audience) token now, none)

/-- The calls are made at non-decreasing clock values. -/
def ClockedCalls (calls : List CacheCall) : Prop := calls.Pairwise fun a b ↦ a.now ≤ b.now

/-- A token set at `setAt` with the lifetime that remains, in whole seconds. -/
def ExchangeResponse.report (token : ExchangeResponse) (setAt now : ℚ) : ExchangeResponse :=
  ⟨token.accessToken, token.tokenType, ⌊(token.expiresIn * 1000 - (now - setAt)) / 1000⌋⟩

namespace ExchangeCacheOptions

variable (opts : ExchangeCacheOptions)

/-- The issued lifetime less the skew: `exchange-cache.ts:79`. -/
def lifetimeMs (token : ExchangeResponse) : ℚ :=
  double (double (token.expiresIn * 1000) - opts.skewMs)

/-- Until when a token set at `setAt` is reused: `exchange-cache.ts:87`. -/
def reuseUntil (token : ExchangeResponse) (setAt : ℚ) : ℚ :=
  double (setAt + min opts.ttlMs (opts.lifetimeMs token))

/-- What a hit answers for a token set at `setAt`, as it is computed: `exchange-cache.ts:72,86`. -/
def reported (token : ExchangeResponse) (setAt now : ℚ) : ExchangeResponse :=
  ⟨token.accessToken, token.tokenType,
    ⌊double (double (double (double (setAt + opts.lifetimeMs token) + opts.skewMs) - now) / 1000)⌋⟩

/-- A `set` of the token is not skipped: `exchange-cache.ts:77–80`. -/
def effective (token : ExchangeResponse) : Bool := opts.ttlMs ≠ 0 ∧ 0 < opts.lifetimeMs token

/-- What an effective `set` stores. -/
def entryOf (token : ExchangeResponse) (setAt : ℚ) : Entry :=
  ⟨token.accessToken, token.tokenType, double (setAt + opts.lifetimeMs token),
    opts.reuseUntil token setAt⟩

/-- The token and the time of an effective `set` for exactly this caller token and audience. -/
def setFor (callerToken audience : String) : CacheCall → Option (ExchangeResponse × ℚ)
  | .get _ _ _ => none
  | .set callerToken' audience' token now =>
    if callerToken' = callerToken ∧ audience' = audience ∧ opts.effective token then
      some (token, now)
    else none

/-- The latest of them. -/
def latestSet (calls : List CacheCall) (callerToken audience : String) :
    Option (ExchangeResponse × ℚ) :=
  (calls.filterMap (opts.setFor callerToken audience)).getLast?

end ExchangeCacheOptions

/-- What a call with its answer does to its key: effective sets and hits use it, a lookup in vain
drops it. -/
def useOf (sha256 : String → String) (opts : ExchangeCacheOptions) :
    CacheCall × Option ExchangeResponse → Option (Use String)
  | (.get callerToken audience _, some _) => some (.touch (keyOf sha256 callerToken audience))
  | (.get callerToken audience _, none) => some (.drop (keyOf sha256 callerToken audience))
  | (.set callerToken audience token _, _) =>
    if opts.effective token then some (.touch (keyOf sha256 callerToken audience)) else none

/-- The uses of keys in a run. -/
def useLog (sha256 : String → String) (opts : ExchangeCacheOptions) (calls : List CacheCall) :
    List (Use String) :=
  ((caching sha256 opts).transcript calls).filterMap (useOf sha256 opts)

section Operations

variable {opts : ExchangeCacheOptions} {store : Store} {k : String} {now : ℚ}

/-- A skipped `set` changes nothing. -/
theorem put_of_not_effective {token : ExchangeResponse} (h : opts.effective token = false) :
    store.put opts k token now = store := by
  rw [ExchangeCacheOptions.effective, decide_eq_false_iff_not, not_and] at h
  unfold Store.put
  by_cases httl : opts.ttlMs = 0
  · exact if_pos httl
  · exact (if_neg httl).trans (if_pos (not_lt.mp (h httl)))

/-- A `set` that is not skipped puts its entry last and drops the oldest ones. -/
theorem put_of_effective {token : ExchangeResponse} (h : opts.effective token = true) :
    store.put opts k token now =
      ((store.erase k).set k (opts.entryOf token now)).evictTo opts.maxEntries := by
  rw [ExchangeCacheOptions.effective, decide_eq_true_eq] at h
  unfold Store.put
  exact (if_neg h.1).trans (if_neg (not_le.mpr h.2))

/-- A lookup under a key without entry changes nothing. -/
theorem get_of_none (h : InsertionMap.get? store k = none) :
    store.get opts k now = (store, none) := by
  unfold Store.get
  rw [h]

/-- A lookup of an expired entry deletes it. -/
theorem get_of_expired {e : Entry} (h : InsertionMap.get? store k = some e)
    (hnow : e.reuseUntilMs ≤ now) : store.get opts k now = (store.erase k, none) := by
  unfold Store.get
  rw [h]
  exact if_pos hnow

/-- A lookup of an entry that is not expired puts it last. -/
theorem get_of_live {token : ExchangeResponse} {setAt : ℚ}
    (h : InsertionMap.get? store k = some (opts.entryOf token setAt))
    (hnow : now < opts.reuseUntil token setAt) :
    store.get opts k now =
      ((store.erase k).set k (opts.entryOf token setAt), some (opts.reported token setAt now)) := by
  unfold Store.get
  rw [h]
  exact if_neg (not_le.mpr hnow)

end Operations

section Keys

variable {opts : ExchangeCacheOptions} (m : Store) (k : String)

/-- The keys of the store, the one used last at the end. -/
def Store.keys (store : Store) : List String := store.entries.map Prod.fst

private theorem keys_erase : Store.keys (m.erase k) = Use.apply (Store.keys m) (.drop k) :=
  InsertionMap.keys_erase m k

private theorem keys_move (e : Entry) :
    Store.keys ((m.erase k).set k e) = Use.apply (Store.keys m) (.touch k) :=
  InsertionMap.keys_move m k e

private theorem keys_evictTo (limit : Nat) :
    Store.keys (m.evictTo limit) = (Store.keys m).drop ((Store.keys m).length - limit) :=
  InsertionMap.keys_evictTo m limit

private theorem mem_keys_iff : k ∈ Store.keys m ↔ ∃ e, InsertionMap.get? m k = some e :=
  InsertionMap.mem_keys_iff

end Keys

section Run

variable {sha256 : String → String} {opts : ExchangeCacheOptions}

/-- One more call is the latest set if it is one. -/
theorem latestSet_concat (calls : List CacheCall) (call : CacheCall) (t a : String) :
    opts.latestSet (calls ++ [call]) t a =
      (opts.setFor t a call).or (opts.latestSet calls t a) := by
  unfold ExchangeCacheOptions.latestSet
  rw [List.filterMap_append, List.getLast?_append]
  cases h : opts.setFor t a call with
  | none => simp [h]
  | some s => simp [h]

/-- One more call adds its use to the log. -/
theorem useLog_concat (calls : List CacheCall) (call : CacheCall) :
    useLog sha256 opts (calls ++ [call]) = useLog sha256 opts calls ++
      (useOf sha256 opts (call, (caching sha256 opts).answer calls call)).toList := by
  unfold useLog
  rw [Machine.transcript_concat, List.filterMap_append]
  cases h : useOf sha256 opts (call, (caching sha256 opts).answer calls call) with
  | none => simp [h]
  | some use => simp [h]

/-- The entry is that of the latest set for a caller token and an audience with this key. -/
def FromLatest (sha256 : String → String) (opts : ExchangeCacheOptions) (calls : List CacheCall)
    (k : String) (e : Entry) : Prop :=
  ∃ t a token setAt, k = keyOf sha256 t a ∧ opts.latestSet calls t a = some (token, setAt) ∧
    e = opts.entryOf token setAt

/-- The store after a run: its keys are those used last, with the entries set last. -/
structure Tracks (sha256 : String → String) (opts : ExchangeCacheOptions) (calls : List CacheCall)
    (store : Store) : Prop where
  keys : store.keys = Use.held opts.maxEntries (useLog sha256 opts calls)
  latest : InsertionMap.Forall (FromLatest sha256 opts calls) store

private theorem FromLatest.concat {calls : List CacheCall} {call : CacheCall} {k : String}
    {e : Entry} (h : FromLatest sha256 opts calls k e)
    (hother : ∀ t a, k = keyOf sha256 t a → opts.setFor t a call = none) :
    FromLatest sha256 opts (calls ++ [call]) k e := by
  obtain ⟨t, a, token, setAt, hk, hset, he⟩ := h
  refine ⟨t, a, token, setAt, hk, ?_, he⟩
  rw [latestSet_concat, hother t a hk]
  exact hset

private theorem setFor_set_ne {t a t' a' : String} {token : ExchangeResponse} {now : ℚ}
    (h : keyOf sha256 t' a' ≠ keyOf sha256 t a) :
    opts.setFor t a (.set t' a' token now) = none := by
  apply if_neg
  rintro ⟨rfl, rfl, -⟩
  exact h rfl

private theorem Tracks.length_le {calls : List CacheCall} {store : Store}
    (h : Tracks sha256 opts calls store) : store.keys.length ≤ opts.maxEntries :=
  h.keys ▸ Use.length_held_le _ _

private theorem hold_of_le {limit : Nat} {keys : List String} {use : Use String}
    (h : (Use.apply keys use).length ≤ limit) : Use.hold limit keys use = Use.apply keys use := by
  rw [Use.hold, Nat.sub_eq_zero_of_le h, List.drop_zero]

private theorem useLog_get {calls : List CacheCall} {store : Store} {t a : String} {now : ℚ}
    (hrun : (caching sha256 opts).run calls = store) :
    useLog sha256 opts (calls ++ [.get t a now]) = useLog sha256 opts calls ++
      [match (store.get opts (keyOf sha256 t a) now).2 with
        | some _ => .touch (keyOf sha256 t a)
        | none => .drop (keyOf sha256 t a)] := by
  have hanswer : (caching sha256 opts).answer calls (.get t a now) =
      (store.get opts (keyOf sha256 t a) now).2 := by
    rw [Machine.answer, hrun]
    rfl
  rw [useLog_concat, hanswer]
  cases (store.get opts (keyOf sha256 t a) now).2 with
  | none => rfl
  | some response => rfl

/-- A lookup keeps the store what the history says. -/
theorem Tracks.get {calls : List CacheCall} {store : Store} (h : Tracks sha256 opts calls store)
    (hrun : (caching sha256 opts).run calls = store) (t a : String) (now : ℚ) :
    Tracks sha256 opts (calls ++ [.get t a now])
      (store.get opts (keyOf sha256 t a) now).1 := by
  have hlog := @useLog_get sha256 opts calls store t a now hrun
  have hlatest : InsertionMap.Forall (FromLatest sha256 opts (calls ++ [.get t a now])) store :=
    h.latest.imp fun k e hke ↦ hke.concat fun _ _ _ ↦ rfl
  have hlength := h.length_le
  have hfilter : (store.keys.filter (· ≠ keyOf sha256 t a)).length ≤ opts.maxEntries :=
    (List.length_filter_le _ _).trans hlength
  cases hget : InsertionMap.get? store (keyOf sha256 t a) with
  | none =>
    rw [get_of_none hget] at hlog ⊢
    refine ⟨?_, hlatest⟩
    have habsent : keyOf sha256 t a ∉ store.keys := by
      rw [mem_keys_iff, hget]
      simp
    rw [hlog, Use.held_concat, ← h.keys, hold_of_le hfilter, Use.apply_drop, eq_comm,
      List.filter_eq_self]
    intro k hk
    exact decide_eq_true fun heq ↦ habsent (heq ▸ hk)
  | some e =>
    obtain ⟨t', a', token, setAt, -, -, rfl⟩ := h.latest.of_get? hget
    by_cases hnow : opts.reuseUntil token setAt ≤ now
    · rw [get_of_expired hget hnow] at hlog ⊢
      refine ⟨?_, hlatest.erase _⟩
      rw [hlog, Use.held_concat, ← h.keys, hold_of_le hfilter]
      exact keys_erase _ _
    · rw [get_of_live hget (not_le.mp hnow)] at hlog ⊢
      refine ⟨?_, (hlatest.erase _).set (hlatest.of_get? hget)⟩
      have hin : keyOf sha256 t a ∈ store.keys := (mem_keys_iff _ _).mpr ⟨_, hget⟩
      have htouch : (Use.apply store.keys (.touch (keyOf sha256 t a))).length ≤
          opts.maxEntries := by
        have hlt : (store.keys.filter (· ≠ keyOf sha256 t a)).length < store.keys.length := by
          apply List.length_filter_lt_length_iff_exists.mpr
          exact ⟨_, hin, by simp⟩
        rw [Use.apply_touch, List.length_append, List.length_singleton]
        omega
      rw [hlog, Use.held_concat, ← h.keys, hold_of_le htouch]
      exact keys_move _ _ _

/-- A `set` keeps the store what the history says. -/
theorem Tracks.set {calls : List CacheCall} {store : Store} (h : Tracks sha256 opts calls store)
    (t a : String) (token : ExchangeResponse) (now : ℚ) :
    Tracks sha256 opts (calls ++ [.set t a token now])
      (store.put opts (keyOf sha256 t a) token now) := by
  have hlog := @useLog_concat sha256 opts calls (.set t a token now)
  rw [useOf] at hlog
  cases heffective : opts.effective token with
  | false =>
    rw [put_of_not_effective heffective]
    simp only [heffective, Bool.false_eq_true, if_false, Option.toList_none,
      List.append_nil] at hlog
    refine ⟨hlog ▸ h.keys, h.latest.imp fun k e hke ↦ hke.concat fun t' a' _ ↦ ?_⟩
    apply if_neg
    rintro ⟨-, -, heff⟩
    rw [heffective] at heff
    cases heff
  | true =>
    rw [put_of_effective heffective]
    simp only [heffective, if_true, Option.toList_some] at hlog
    constructor
    · rw [keys_evictTo, keys_move, hlog, Use.held_concat, ← h.keys]
      rfl
    · apply InsertionMap.Forall.evictTo
      intro e he
      rcases InsertionMap.mem_entries_set.mp he with rfl | ⟨he, hk⟩
      · refine ⟨t, a, token, now, rfl, ?_, rfl⟩
        rw [latestSet_concat]
        simp [ExchangeCacheOptions.setFor, heffective]
      · apply (h.latest e (InsertionMap.mem_entries_filter.mp he).1).concat
        intro t' a' hk'
        apply setFor_set_ne
        rw [← hk']
        exact fun heq ↦ hk heq.symm

/-- After every run the store is what the history says. -/
theorem tracks_run (calls : List CacheCall) :
    Tracks sha256 opts calls ((caching sha256 opts).run calls) := by
  apply (caching sha256 opts).run_induction (P := Tracks sha256 opts)
  · exact ⟨rfl, InsertionMap.forall_empty _⟩
  · intro calls call ih
    cases call with
    | get t a now => exact ih.get rfl t a now
    | set t a token now => exact ih.set t a token now

/-- Calls with one key have one caller token and one audience. -/
def DistinctKeys (sha256 : String → String) (calls : List CacheCall) : Prop :=
  ∀ c ∈ calls, ∀ d ∈ calls, ∀ a a', keyOf sha256 c.callerToken a = keyOf sha256 d.callerToken a' →
    c.callerToken = d.callerToken ∧ a = a'

/-- Digests without collision on the caller tokens and without separator tell the calls apart. -/
theorem distinctKeys {calls : List CacheCall}
    (hnul : ∀ c ∈ calls, '\x00' ∉ (sha256 c.callerToken).toList)
    (hsha : ∀ c ∈ calls, ∀ d ∈ calls, sha256 c.callerToken = sha256 d.callerToken →
      c.callerToken = d.callerToken) : DistinctKeys sha256 calls := by
  intro c hc d hd a a' hkey
  obtain ⟨hdigest, haudience⟩ := keyOf_inj (hnul c hc) (hnul d hd) hkey
  exact ⟨hsha c hc d hd hdigest, haudience⟩

private theorem mem_of_latestSet {calls : List CacheCall} {t a : String}
    {token : ExchangeResponse} {setAt : ℚ} (h : opts.latestSet calls t a = some (token, setAt)) :
    .set t a token setAt ∈ calls := by
  obtain ⟨call, hcall, hset⟩ := List.mem_filterMap.mp (List.mem_of_getLast? h)
  cases call with
  | get t' a' now => cases hset
  | set t' a' token' now =>
    rw [ExchangeCacheOptions.setFor, Option.ite_none_right_eq_some] at hset
    obtain ⟨⟨rfl, rfl, -⟩, heq⟩ := hset
    cases heq
    exact hcall

/-- An entry under a key is that of the latest set for the caller token and the audience. -/
theorem Tracks.eq_entryOf {calls : List CacheCall} {store : Store} {t a : String} {e : Entry}
    {token : ExchangeResponse} {setAt : ℚ} (h : Tracks sha256 opts calls store)
    (hkeys : DistinctKeys sha256 calls)
    (hset : opts.latestSet calls t a = some (token, setAt))
    (hget : InsertionMap.get? store (keyOf sha256 t a) = some e) :
    e = opts.entryOf token setAt := by
  obtain ⟨t', a', token', setAt', hk, hset', rfl⟩ := h.latest.of_get? hget
  obtain ⟨ht, ha⟩ := hkeys _ (mem_of_latestSet hset) _ (mem_of_latestSet hset') a a' hk
  obtain rfl : t = t' := ht
  obtain rfl : a = a' := ha
  rw [hset] at hset'
  cases hset'
  rfl

private theorem DistinctKeys.of_concat {calls : List CacheCall} {call : CacheCall}
    (h : DistinctKeys sha256 (calls ++ [call])) : DistinctKeys sha256 calls :=
  fun c hc d hd ↦ h c (List.mem_append_left _ hc) d (List.mem_append_left _ hd)

/-- A key that was set and recently used is in the store, unless a lookup has found it expired. -/
theorem held_or_expired {calls : List CacheCall} {t a : String} {token : ExchangeResponse}
    {setAt : ℚ} (hkeys : DistinctKeys sha256 calls)
    (hset : opts.latestSet calls t a = some (token, setAt))
    (hrecent : Use.RecentlyUsed opts.maxEntries (useLog sha256 opts calls) (keyOf sha256 t a)) :
    keyOf sha256 t a ∈ Use.held opts.maxEntries (useLog sha256 opts calls) ∨
      ∃ c ∈ calls, opts.reuseUntil token setAt ≤ c.now := by
  induction calls using List.reverseRecOn with
  | nil => cases hset
  | append_singleton calls call ih =>
    have hbefore := ih hkeys.of_concat
    -- an event of another key leaves the alternative as it was
    have hother : ∀ use, useLog sha256 opts (calls ++ [call]) = useLog sha256 opts calls ++ [use] →
        use ≠ .touch (keyOf sha256 t a) → use ≠ .drop (keyOf sha256 t a) →
        opts.latestSet calls t a = some (token, setAt) →
        keyOf sha256 t a ∈ Use.held opts.maxEntries (useLog sha256 opts (calls ++ [call])) ∨
          ∃ c ∈ calls ++ [call], opts.reuseUntil token setAt ≤ c.now := by
      intro use hlog htouch hdrop hlatest
      rw [hlog] at hrecent ⊢
      rcases hbefore hlatest (hrecent.of_concat htouch) with hheld | ⟨c, hc, hexpired⟩
      · exact Or.inl (Use.mem_held_concat hheld htouch hdrop hrecent)
      · exact Or.inr ⟨c, List.mem_append_left _ hc, hexpired⟩
    cases call with
    | set t' a' token' now =>
      have hlog := @useLog_concat sha256 opts calls (.set t' a' token' now)
      rw [useOf] at hlog
      cases heffective : opts.effective token' with
      | false =>
        simp only [heffective, Bool.false_eq_true, if_false, Option.toList_none,
          List.append_nil] at hlog
        rw [latestSet_concat, ExchangeCacheOptions.setFor, heffective] at hset
        simp only [Bool.false_eq_true, and_false, if_false, Option.none_or] at hset
        rw [hlog] at hrecent ⊢
        rcases hbefore hset hrecent with hheld | ⟨c, hc, hexpired⟩
        · exact Or.inl hheld
        · exact Or.inr ⟨c, List.mem_append_left _ hc, hexpired⟩
      | true =>
        simp only [heffective, if_true, Option.toList_some] at hlog
        by_cases hkey : keyOf sha256 t' a' = keyOf sha256 t a
        · rw [hlog, hkey]
          exact Or.inl (Use.mem_held_touch opts.maxEntries_pos _ _)
        · rw [latestSet_concat, setFor_set_ne hkey, Option.none_or] at hset
          exact hother _ hlog (by simp [hkey]) (by simp) hset
    | get t' a' now =>
      have hlog := @useLog_get sha256 opts calls _ t' a' now rfl
      have hlatest : opts.latestSet calls t a = some (token, setAt) := by
        rwa [latestSet_concat] at hset
      by_cases hkey : keyOf sha256 t' a' = keyOf sha256 t a
      · rw [hkey] at hlog
        cases hanswer : (((caching sha256 opts).run calls).get opts (keyOf sha256 t a) now).2 with
        | some response =>
          rw [hlog, hanswer]
          exact Or.inl (Use.mem_held_touch opts.maxEntries_pos _ _)
        | none =>
          rw [hlog, hanswer] at hrecent
          rcases hbefore hlatest (hrecent.of_concat (by simp)) with hheld | ⟨c, hc, hexpired⟩
          · rw [← (tracks_run calls).keys, mem_keys_iff] at hheld
            obtain ⟨e, hget⟩ := hheld
            obtain rfl := (tracks_run calls).eq_entryOf hkeys.of_concat hlatest hget
            right
            refine ⟨.get t' a' now, by simp, ?_⟩
            show opts.reuseUntil token setAt ≤ now
            by_contra hlive
            rw [get_of_live hget (not_le.mp hlive)] at hanswer
            cases hanswer
          · exact Or.inr ⟨c, List.mem_append_left _ hc, hexpired⟩
      · cases hanswer : (((caching sha256 opts).run calls).get opts (keyOf sha256 t' a') now).2 with
        | some response =>
          rw [hanswer] at hlog
          exact hother _ hlog (by simp [hkey]) (by simp) hlatest
        | none =>
          rw [hanswer] at hlog
          exact hother _ hlog (by simp) (by simp [hkey]) hlatest

/-- A lookup hits exactly when the latest set is young enough and its key was recently used, and
it answers that set's token. -/
theorem get_eq_some_iff {calls : List CacheCall} {t a : String} {now : ℚ}
    {response : ExchangeResponse} (hclock : ClockedCalls (calls ++ [.get t a now]))
    (hkeys : DistinctKeys sha256 (calls ++ [.get t a now])) :
    (caching sha256 opts).answer calls (.get t a now) = some response ↔
      ∃ token setAt, opts.latestSet calls t a = some (token, setAt) ∧
        now < opts.reuseUntil token setAt ∧
        Use.RecentlyUsed opts.maxEntries (useLog sha256 opts calls) (keyOf sha256 t a) ∧
        response = opts.reported token setAt now := by
  have htracks := @tracks_run sha256 opts calls
  show (((caching sha256 opts).run calls).get opts (keyOf sha256 t a) now).2 = some response ↔ _
  constructor
  · intro hhit
    cases hget : InsertionMap.get? ((caching sha256 opts).run calls) (keyOf sha256 t a) with
    | none =>
      rw [get_of_none hget] at hhit
      cases hhit
    | some e =>
      obtain ⟨t', a', token, setAt, hk, hset, rfl⟩ := htracks.latest.of_get? hget
      obtain ⟨ht, ha⟩ := hkeys (.get t a now) (by simp) _
        (List.mem_append_left _ (mem_of_latestSet hset)) a a' hk
      obtain rfl : t = t' := ht
      obtain rfl : a = a' := ha
      by_cases hnow : opts.reuseUntil token setAt ≤ now
      · rw [get_of_expired hget hnow] at hhit
        cases hhit
      · rw [get_of_live hget (not_le.mp hnow)] at hhit
        have hheld : keyOf sha256 t a ∈ Store.keys ((caching sha256 opts).run calls) :=
          (mem_keys_iff _ _).mpr ⟨_, hget⟩
        rw [htracks.keys] at hheld
        exact ⟨token, setAt, hset, not_le.mp hnow, Use.recentlyUsed_of_mem_held hheld,
          (Option.some.inj hhit).symm⟩
  · rintro ⟨token, setAt, hset, hyoung, hrecent, rfl⟩
    have hexpired : ¬ ∃ c ∈ calls, opts.reuseUntil token setAt ≤ c.now := by
      rintro ⟨c, hc, hexpired⟩
      have hnow : c.now ≤ now :=
        (List.pairwise_append.mp hclock).2.2 c hc _ (List.mem_singleton_self _)
      exact absurd hyoung (not_lt.mpr (hexpired.trans hnow))
    have hheld := (held_or_expired hkeys.of_concat hset hrecent).resolve_right hexpired
    rw [← htracks.keys, mem_keys_iff] at hheld
    obtain ⟨e, hget⟩ := hheld
    obtain rfl := htracks.eq_entryOf hkeys.of_concat hset hget
    rw [get_of_live hget hyoung]

/-- The cache never holds more than its bound. -/
theorem size_run_caching_le (calls : List CacheCall) :
    ((caching sha256 opts).run calls).entries.length ≤ opts.maxEntries := by
  have hlength := (@tracks_run sha256 opts calls).length_le
  rwa [Store.keys, List.length_map] at hlength

/-- The report of one set falls with time. -/
theorem reported_antitone (token : ExchangeResponse) (setAt : ℚ) {now later : ℚ}
    (h : now ≤ later) :
    (opts.reported token setAt later).expiresIn ≤ (opts.reported token setAt now).expiresIn := by
  apply Int.cast_le.mpr
  apply Int.floor_mono
  apply double_mono
  apply div_le_div_of_nonneg_right _ (by norm_num)
  apply double_mono
  linarith

/-- A call at a whole millisecond of the next 35000 years, with a lifetime in milliseconds. -/
def CacheCall.Whole : CacheCall → Prop
  | get _ _ now => ∃ n : ℤ, now = n ∧ |n| < 2 ^ 50
  | set _ _ token now => (∃ n : ℤ, now = n ∧ |n| < 2 ^ 50) ∧
    ∃ lifetime : ℤ, token.expiresIn * 1000 = lifetime ∧ |lifetime| < 2 ^ 50

/-- Options in milliseconds. -/
structure ExchangeCacheOptions.Whole (opts : ExchangeCacheOptions) : Prop where
  ttl : ∃ n : ℤ, opts.ttlMs = n ∧ |n| < 2 ^ 50
  skew : ∃ n : ℤ, opts.skewMs = n ∧ |n| < 2 ^ 50

/-- In milliseconds everything is computed exactly. -/
theorem exact_of_whole {t a : String} {token : ExchangeResponse} {setAt now : ℚ}
    (hopts : opts.Whole) (hset : (CacheCall.set t a token setAt).Whole)
    (hget : (CacheCall.get t a now).Whole) :
    opts.reuseUntil token setAt = setAt + min opts.ttlMs (token.expiresIn * 1000 - opts.skewMs) ∧
      opts.reported token setAt now = token.report setAt now := by
  obtain ⟨ttl, httl, httlSmall⟩ := hopts.ttl
  obtain ⟨skew, hskew, hskewSmall⟩ := hopts.skew
  obtain ⟨⟨s, rfl, hs⟩, lifetime, hlifetime, hlifetimeSmall⟩ := hset
  obtain ⟨n, rfl, hn⟩ := hget
  rw [abs_lt] at httlSmall hskewSmall hs hlifetimeSmall hn
  have hwhole (k : ℤ) (h : -2 ^ 53 < k ∧ k < 2 ^ 53) : double k = k := double_intCast (abs_lt.mpr h)
  have hissued : opts.lifetimeMs token = ((lifetime - skew : ℤ) : ℚ) := by
    rw [ExchangeCacheOptions.lifetimeMs, hlifetime, hskew, hwhole lifetime (by omega),
      ← Int.cast_sub, hwhole _ (by omega)]
  constructor
  · rw [ExchangeCacheOptions.reuseUntil, hissued, httl, hlifetime, hskew, ← Int.cast_sub,
      ← Int.cast_min, ← Int.cast_add, hwhole _ (by omega)]
  · have hremaining : double (double (double (s + opts.lifetimeMs token) + opts.skewMs) - n) =
        ((s + lifetime - n : ℤ) : ℚ) := by
      rw [hissued, hskew, ← Int.cast_add, hwhole _ (by omega), ← Int.cast_add, hwhole _ (by omega),
        ← Int.cast_sub, hwhole _ (by omega)]
      congr 1
      omega
    have hmillis : ((s + lifetime - n : ℤ) : ℚ) = token.expiresIn * 1000 - (n - s) := by
      push_cast
      linarith
    have hfloor := @floor_double_div (s + lifetime - n) 1000 (abs_lt.mpr (by omega)) (by norm_num)
      (by norm_num)
    rw [hmillis, Nat.cast_ofNat] at hfloor
    rw [ExchangeCacheOptions.reported, ExchangeResponse.report, hremaining, hmillis, hfloor]

/-- The exact report never exceeds the lifetime that remains. -/
theorem report_le (token : ExchangeResponse) (setAt now : ℚ) :
    (token.report setAt now).expiresIn ≤ token.expiresIn - (now - setAt) / 1000 := by
  apply (Int.floor_le _).trans
  linarith

/-- The exact report of a token that is still reused is the skew at least, in whole seconds. -/
theorem floor_skew_le_report {token : ExchangeResponse} {setAt now : ℚ}
    (h : now - setAt < min opts.ttlMs (token.expiresIn * 1000 - opts.skewMs)) :
    ((⌊opts.skewMs / 1000⌋ : ℤ) : ℚ) ≤ (token.report setAt now).expiresIn := by
  have hlifetime : now - setAt < token.expiresIn * 1000 - opts.skewMs :=
    h.trans_le (min_le_right _ _)
  have hfloor : ⌊opts.skewMs / 1000⌋ ≤ ⌊(token.expiresIn * 1000 - (now - setAt)) / 1000⌋ := by
    apply Int.floor_mono
    linarith
  exact Int.cast_le.mpr hfloor

/-- In milliseconds a lookup hits exactly when the latest set is younger than the time-to-live and
the lifetime less the skew, and answers the lifetime that remains. -/
theorem get_eq_some_iff_of_whole {calls : List CacheCall} {t a : String} {now : ℚ}
    {response : ExchangeResponse} (hclock : ClockedCalls (calls ++ [.get t a now]))
    (hkeys : DistinctKeys sha256 (calls ++ [.get t a now])) (hopts : opts.Whole)
    (hwhole : ∀ c ∈ calls ++ [.get t a now], c.Whole) :
    (caching sha256 opts).answer calls (.get t a now) = some response ↔
      ∃ token setAt, opts.latestSet calls t a = some (token, setAt) ∧
        now - setAt < min opts.ttlMs (token.expiresIn * 1000 - opts.skewMs) ∧
        Use.RecentlyUsed opts.maxEntries (useLog sha256 opts calls) (keyOf sha256 t a) ∧
        response = token.report setAt now := by
  rw [get_eq_some_iff hclock hkeys]
  have hexact : ∀ token setAt, opts.latestSet calls t a = some (token, setAt) →
      opts.reuseUntil token setAt =
        setAt + min opts.ttlMs (token.expiresIn * 1000 - opts.skewMs) ∧
      opts.reported token setAt now = token.report setAt now := by
    intro token setAt hset
    exact exact_of_whole hopts (hwhole _ (List.mem_append_left _ (mem_of_latestSet hset)))
      (hwhole (.get t a now) (by simp))
  constructor
  · rintro ⟨token, setAt, hset, hyoung, hrecent, rfl⟩
    obtain ⟨huntil, hreported⟩ := hexact token setAt hset
    rw [huntil] at hyoung
    exact ⟨token, setAt, hset, by linarith, hrecent, hreported⟩
  · rintro ⟨token, setAt, hset, hyoung, hrecent, rfl⟩
    obtain ⟨huntil, hreported⟩ := hexact token setAt hset
    exact ⟨token, setAt, hset, by rw [huntil]; linarith, hrecent, hreported.symm⟩

end Run

/-- The exchange cache. It keeps its bound. A lookup hits exactly when the latest effective set for
this caller token and audience may still be reused, and since the key was last used never
`maxEntries` others were used and not dropped; it answers that set's token, with a lifetime that
falls from hit to hit. With times in milliseconds the token may be reused while it is younger than
the time-to-live and the lifetime less the skew, and the answer has the whole seconds that remain,
which are the skew's at least. -/
theorem exchange_cache_laws (sha256 : String → String) (opts : ExchangeCacheOptions)
    (calls : List CacheCall) :
    ((caching sha256 opts).run calls).entries.length ≤ opts.maxEntries ∧
    ∀ t a now, ClockedCalls (calls ++ [.get t a now]) →
      (∀ c ∈ calls ++ [.get t a now], '\x00' ∉ (sha256 c.callerToken).toList) →
      (∀ c ∈ calls ++ [.get t a now], ∀ d ∈ calls ++ [.get t a now],
        sha256 c.callerToken = sha256 d.callerToken → c.callerToken = d.callerToken) →
      (∀ response, (caching sha256 opts).answer calls (.get t a now) = some response ↔
        ∃ token setAt, opts.latestSet calls t a = some (token, setAt) ∧
          now < opts.reuseUntil token setAt ∧
          Use.RecentlyUsed opts.maxEntries (useLog sha256 opts calls) (keyOf sha256 t a) ∧
          response = opts.reported token setAt now) ∧
      (∀ before mid earlier first response, calls = before ++ .get t a earlier :: mid →
        mid.filterMap (opts.setFor t a) = [] →
        (caching sha256 opts).answer before (.get t a earlier) = some first →
        (caching sha256 opts).answer calls (.get t a now) = some response →
        response.expiresIn ≤ first.expiresIn) ∧
      (opts.Whole → (∀ c ∈ calls ++ [.get t a now], c.Whole) →
        (∀ response, (caching sha256 opts).answer calls (.get t a now) = some response ↔
          ∃ token setAt, opts.latestSet calls t a = some (token, setAt) ∧
            now - setAt < min opts.ttlMs (token.expiresIn * 1000 - opts.skewMs) ∧
            Use.RecentlyUsed opts.maxEntries (useLog sha256 opts calls) (keyOf sha256 t a) ∧
            response = token.report setAt now) ∧
        ∀ response, (caching sha256 opts).answer calls (.get t a now) = some response →
          ∃ token setAt, opts.latestSet calls t a = some (token, setAt) ∧
            response.accessToken = token.accessToken ∧
            response.expiresIn ≤ token.expiresIn - (now - setAt) / 1000 ∧
            ((⌊opts.skewMs / 1000⌋ : ℤ) : ℚ) ≤ response.expiresIn) := by
  refine ⟨size_run_caching_le calls, ?_⟩
  intro t a now hclock hnul hsha
  have hkeys := distinctKeys hnul hsha
  refine ⟨fun response ↦ get_eq_some_iff hclock hkeys, ?_, ?_⟩
  · rintro before mid earlier first response rfl hmid hfirst hhit
    have hpre : before ++ [.get t a earlier] <+: before ++ .get t a earlier :: mid ++
        [.get t a now] := by
      simp
    have hbefore : DistinctKeys sha256 (before ++ [.get t a earlier]) :=
      fun c hc d hd ↦ hkeys c (hpre.subset hc) d (hpre.subset hd)
    obtain ⟨token, setAt, hset, -, -, rfl⟩ := (get_eq_some_iff hclock hkeys).mp hhit
    obtain ⟨token', setAt', hset', -, -, rfl⟩ :=
      (get_eq_some_iff (hclock.sublist hpre.sublist) hbefore).mp hfirst
    have hsame : opts.latestSet (before ++ .get t a earlier :: mid) t a =
        opts.latestSet before t a := by
      unfold ExchangeCacheOptions.latestSet
      rw [List.filterMap_append, List.filterMap_cons, hmid]
      simp [ExchangeCacheOptions.setFor]
    rw [hsame, hset'] at hset
    cases hset
    apply reported_antitone
    exact (List.pairwise_append.mp hclock).2.2 (.get t a earlier) (by simp) _
      (List.mem_singleton_self _)
  · intro hopts hwhole
    refine ⟨fun response ↦ get_eq_some_iff_of_whole hclock hkeys hopts hwhole, ?_⟩
    intro response hhit
    obtain ⟨token, setAt, hset, hyoung, -, rfl⟩ :=
      (get_eq_some_iff_of_whole hclock hkeys hopts hwhole).mp hhit
    exact ⟨token, setAt, hset, rfl, report_le token setAt now, floor_skew_le_report hyoung⟩

section Sample

/-- SHA-256 of the two caller tokens below. -/
private def sampleDigest (t : String) : String :=
  if t = "e30.alice.sig" then "Nj9EzCy1krBXIrsF6jhjMvUYkvGrt3LgWKtr2nbapqY"
  else "y4aSw12zJiyPPLrGcZRSYcKbCf4JcGww9UmGDXD0mLs"

private def sampleOptions : ExchangeCacheOptions := ⟨60000, 2, 30000, by norm_num, by norm_num⟩

/-- One token expires and is looked up in vain before a third one is set. -/
private def sampleCalls : List CacheCall :=
  [.set "e30.alice.sig" "mcp-ops" ⟨"e30.ops.sig", "bearer", 600⟩ 0,
    .set "e30.alice.sig" "mcp-inspect" ⟨"e30.inspect.sig", "bearer", 31⟩ 1000,
    .get "e30.alice.sig" "mcp-inspect" 20000,
    .set "e30.bob.sig" "mcp-ops" ⟨"e30.other.sig", "bearer", 600⟩ 21000]

private theorem sample_clocked :
    ClockedCalls (sampleCalls ++ [CacheCall.get "e30.alice.sig" "mcp-ops" 22000]) := by
  norm_num [ClockedCalls, sampleCalls, CacheCall.now]

private theorem sample_nul :
    ∀ c ∈ sampleCalls ++ [CacheCall.get "e30.alice.sig" "mcp-ops" 22000],
      '\x00' ∉ (sampleDigest c.callerToken).toList := by
  intro c _
  unfold sampleDigest
  split
  · decide
  · decide

private theorem sample_digests :
    ∀ c ∈ sampleCalls ++ [CacheCall.get "e30.alice.sig" "mcp-ops" 22000],
      ∀ d ∈ sampleCalls ++ [CacheCall.get "e30.alice.sig" "mcp-ops" 22000],
        sampleDigest c.callerToken = sampleDigest d.callerToken →
        c.callerToken = d.callerToken := by
  have hcallers : (sampleCalls ++ [CacheCall.get "e30.alice.sig" "mcp-ops" 22000]).map
      CacheCall.callerToken ⊆ ["e30.alice.sig", "e30.bob.sig"] := by
    simp [sampleCalls, CacheCall.callerToken]
  have hinj : ∀ t ∈ ["e30.alice.sig", "e30.bob.sig"], ∀ t' ∈ ["e30.alice.sig", "e30.bob.sig"],
      sampleDigest t = sampleDigest t' → t = t' := by
    decide
  intro c hc d hd
  exact hinj _ (hcallers (List.mem_map_of_mem hc)) _ (hcallers (List.mem_map_of_mem hd))

private theorem sample_whole : sampleOptions.Whole ∧
    ∀ c ∈ sampleCalls ++ [CacheCall.get "e30.alice.sig" "mcp-ops" 22000], c.Whole := by
  refine ⟨⟨⟨60000, by norm_num [sampleOptions]⟩, 30000, by norm_num [sampleOptions]⟩, ?_⟩
  simp only [sampleCalls, List.cons_append, List.nil_append, List.forall_mem_cons, CacheCall.Whole]
  refine ⟨⟨⟨0, by norm_num⟩, 600000, by norm_num⟩, ⟨⟨1000, by norm_num⟩, 31000, by norm_num⟩,
    ⟨20000, by norm_num⟩, ⟨⟨21000, by norm_num⟩, 600000, by norm_num⟩, ⟨22000, by norm_num⟩,
    by simp⟩

/-- The first token is reported with the 578 seconds that remain of its 600. -/
theorem exchange_cache_laws_sample :
    ∃ token setAt, sampleOptions.latestSet sampleCalls "e30.alice.sig" "mcp-ops" =
        some (token, setAt) ∧
      "e30.ops.sig" = token.accessToken ∧ 578 ≤ token.expiresIn - (22000 - setAt) / 1000 := by
  obtain ⟨-, -, hexact⟩ := (exchange_cache_laws sampleDigest sampleOptions sampleCalls).2
    "e30.alice.sig" "mcp-ops" 22000 sample_clocked sample_nul sample_digests
  obtain ⟨token, setAt, hset, htoken, hle, -⟩ := (hexact sample_whole.1 sample_whole.2).2
    ⟨"e30.ops.sig", "bearer", 578⟩ (by decide +kernel)
  exact ⟨token, setAt, hset, htoken, hle⟩

/-- The keys used last, whatever became of them since. -/
def mostRecentlyUsed (limit : Nat) (log : List (Use String)) : List String :=
  ((log.filterMap Use.touched).dedup.reverse).take limit

/-- A token is served though two other keys were used after its own: one of them had expired and
given up its place. A token is reported with fewer seconds than the skew has. And with a lifetime
just below a whole second, and the clock of today, a token is reported to live longer than it
does. -/
theorem recency_and_skew_not_kept :
    (¬ ∀ (sha256 : String → String) (opts : ExchangeCacheOptions) (calls : List CacheCall)
        (t a : String) (now : ℚ), ClockedCalls (calls ++ [.get t a now]) →
      (∀ c ∈ calls ++ [.get t a now], '\x00' ∉ (sha256 c.callerToken).toList) →
      (∀ c ∈ calls ++ [.get t a now], ∀ d ∈ calls ++ [.get t a now],
        sha256 c.callerToken = sha256 d.callerToken → c.callerToken = d.callerToken) →
      (((caching sha256 opts).answer calls (.get t a now)).isSome ↔
        ∃ token setAt, opts.latestSet calls t a = some (token, setAt) ∧
          now - setAt < min opts.ttlMs (token.expiresIn * 1000 - opts.skewMs) ∧
          keyOf sha256 t a ∈ mostRecentlyUsed opts.maxEntries (useLog sha256 opts calls))) ∧
    (¬ ∀ (sha256 : String → String) (opts : ExchangeCacheOptions) (calls : List CacheCall)
        (t a : String) (now : ℚ) (response : ExchangeResponse), 0 ≤ opts.skewMs →
      ClockedCalls (calls ++ [.get t a now]) →
      (caching sha256 opts).answer calls (.get t a now) = some response →
      opts.skewMs / 1000 ≤ response.expiresIn) ∧
    ¬ ∀ (sha256 : String → String) (opts : ExchangeCacheOptions) (token : ExchangeResponse)
        (t a : String) (setAt now : ℚ) (response : ExchangeResponse), setAt ≤ now →
      (caching sha256 opts).answer [.set t a token setAt] (.get t a now) = some response →
      response.expiresIn ≤ token.expiresIn - (now - setAt) / 1000 := by
  refine ⟨?_, ?_, ?_⟩
  · intro h
    have hiff := h sampleDigest sampleOptions sampleCalls "e30.alice.sig" "mcp-ops" 22000
      sample_clocked sample_nul sample_digests
    obtain ⟨-, -, -, -, hrecent⟩ := hiff.mp (by decide +kernel)
    exact absurd hrecent (by decide +kernel)
  · intro h
    have hle := h sampleDigest ⟨60000, 2, 500, by norm_num, by norm_num⟩
      [.set "e30.alice.sig" "mcp-ops" ⟨"e30.ops.sig", "bearer", 2⟩ 0] "e30.alice.sig" "mcp-ops"
      1400 ⟨"e30.ops.sig", "bearer", 0⟩ (by norm_num) (by norm_num [ClockedCalls, CacheCall.now])
      (by decide +kernel)
    norm_num at hle
  · intro h
    -- `599.9999999` and `Date.now()` in November 2023
    have hle := h sampleDigest ⟨60000, 2, 30000, by norm_num, by norm_num⟩
      ⟨"e30.ops.sig", "bearer", double (5999999999 / 10000000)⟩ "e30.alice.sig" "mcp-ops"
      1700000000000 1700000000000 ⟨"e30.ops.sig", "bearer", 600⟩ (le_refl _) (by decide +kernel)
    exact absurd hle (by decide +kernel)

end Sample
end AgentsAuth.Shim
