import AgentsAuth.Curity.TokenExchange
import AgentsAuth.Lib.Machine

/-!
# The refetch floor of SPIRE's key set

Calls of `getResolver` (`k8s/curity/procedures/token-exchange.js:249–285`) on one worker, in any
order of kids and answers. The floor rests on `fetchedAt`, which only a successful fetch
sets, and a kid counts as cached when the table of kids answers for it.
-/

namespace AgentsAuth.Curity

open AgentsAuth.Base AgentsAuth.Lib

/-- A call of `getResolver`: the kid that the token names and what the call meets. -/
structure ResolverCall where
  neededKid : Option String
  env : Surroundings

/-- What a call of `getResolver` does at SPIRE's endpoint. -/
inductive Refetch where
  | none
  | failed
  | fetched (keys : List JsonWebKey)

/-- The call reached `fetchJwks`. -/
def Refetch.called : Refetch → Bool
  | .none => false
  | .failed => true
  | .fetched _ => true

/-- The key set that an answer of the endpoint holds. -/
def keySetOf (jose : Jose4j) (answer : JwksAnswer) : Option (List JsonWebKey) :=
  (fetchJwks answer).bind jose.parseKeySet

/-- The fetch of a call, if it makes one. -/
def refetch (jose : Jose4j) (cache : JwksCache) (call : ResolverCall) : Refetch :=
  if cache.mustFetch call.env.now call.neededKid then
    match keySetOf jose call.env.answer with
    | none => .failed
    | some keys => .fetched keys
  else .none

/-- Calls of `getResolver` on the cache of a new worker. -/
def resolving (jose : Jose4j) : Machine JwksCache ResolverCall Refetch where
  init := .initial
  step cache call := ((getResolver jose cache call.env call.neededKid).1, refetch jose cache call)

/-- The cache that a fetched key set leaves. -/
def JwksCache.holding (keys : List JsonWebKey) (fetchedAt : Int) : JwksCache :=
  ⟨some keys, keys.filterMap fun key ↦ key.kid.filter (· ≠ ""), fetchedAt⟩

/-- The key set at hand after a call, and when it was fetched. -/
def Refetch.keySet (fetch : Refetch) (fetchedAt : Int) (last : Option (List JsonWebKey × Int)) :
    Option (List JsonWebKey × Int) :=
  match fetch with
  | .fetched keys => some (keys, fetchedAt)
  | .failed => last
  | .none => last

/-- The last key set that was fetched, and when. -/
def lastKeySet (log : List (ResolverCall × Refetch)) : Option (List JsonWebKey × Int) :=
  log.foldl (fun last a ↦ a.2.keySet a.1.env.fetchedAt last) none

/-- The cache of a worker that last fetched this key set. -/
def JwksCache.after (last : Option (List JsonWebKey × Int)) : JwksCache :=
  match last with
  | some (keys, fetchedAt) => .holding keys fetchedAt
  | none => .initial

/-- The clock does not run backwards, from call to call and while a key set is fetched. -/
structure ClockRuns (calls : List ResolverCall) : Prop where
  within : ∀ call ∈ calls, call.env.now ≤ call.env.fetchedAt
  between : calls.Pairwise fun a b ↦ a.env.fetchedAt ≤ b.env.now

/-- The kid is one of the key set's. -/
def inKeySet (keys : List JsonWebKey) (neededKid : Option String) : Prop :=
  ∃ key ∈ keys, ∃ kid, key.kid = some kid ∧ neededKid = some kid

/-- Two fetches lie at least the interval apart. -/
def Apart (earlier later : ResolverCall) : Prop :=
  jwksRefetchMinIntervalMs ≤ later.env.now - earlier.env.now

/-- `fetchJwks` is called once at most in any window of the interval. -/
def Floored (jose : Jose4j) (calls : List ResolverCall) : Prop :=
  ((resolving jose).transcript calls).Pairwise fun a b ↦
    a.2.called = true → b.2.called = true → Apart a.1 b.1

/-- A call whose kid is not in the key set, the interval or longer after the last fetch of one. -/
structure Outdated (jose : Jose4j) (before : List ResolverCall) (call : ResolverCall)
    (keys : List JsonWebKey) (fetchedAt : Int) : Prop where
  last : lastKeySet ((resolving jose).transcript before) = some (keys, fetchedAt)
  unknown : ¬ inKeySet keys call.neededKid
  aged : jwksRefetchMinIntervalMs ≤ call.env.now - fetchedAt

/-- Every such call fetches. -/
def SelfHealing (jose : Jose4j) (calls : List ResolverCall) : Prop :=
  AtEach (fun before call ↦ ∀ keys fetchedAt, Outdated jose before call keys fetchedAt →
    ((resolving jose).answer before call).called = true) calls

/-- No call that needs the key set comes within the interval after a failed fetch. -/
def Unhurried (jose : Jose4j) (calls : List ResolverCall) : Prop :=
  AtEach (fun before call ↦
    ((resolving jose).run before).mustFetch call.env.now call.neededKid = true →
      ∀ a ∈ (resolving jose).transcript before, a.2 = .failed → Apart a.1 call) calls

/-- No such call names a property of every object for its kid. -/
def PlainKids (jose : Jose4j) (calls : List ResolverCall) : Prop :=
  AtEach (fun before call ↦ ∀ keys fetchedAt, Outdated jose before call keys fetchedAt →
    ∀ kid, call.neededKid = some kid → kid ∉ scriptPrototype) calls

section Cache

/-- One more call may bring one more key set. -/
theorem lastKeySet_concat (log : List (ResolverCall × Refetch)) (a : ResolverCall × Refetch) :
    lastKeySet (log ++ [a]) = a.2.keySet a.1.env.fetchedAt (lastKeySet log) := by
  unfold lastKeySet
  rw [List.foldl_append, List.foldl_cons, List.foldl_nil]

/-- A call leaves the key set that it fetched in the cache, or the one that was there. -/
theorem getResolver_after (jose : Jose4j) (last : Option (List JsonWebKey × Int))
    (call : ResolverCall) :
    (getResolver jose (.after last) call.env call.neededKid).1 =
      .after ((refetch jose (.after last) call).keySet call.env.fetchedAt last) := by
  unfold refetch keySetOf
  obtain ⟨hfetch, hrefresh⟩ | ⟨hkept, keys, -, hcache⟩ :=
    getResolver_cases jose (.after last) call.env call.neededKid
  · rw [hrefresh, hfetch]
    unfold refreshResolver
    cases fetchJwks call.env.answer with
    | none => rfl
    | some body =>
      dsimp only [Option.bind_some]
      cases jose.parseKeySet body with
      | none => rfl
      | some keys => rfl
  · rw [hcache, hkept]
    rfl

/-- The cache of a worker is the last key set that it fetched. -/
theorem run_resolving (jose : Jose4j) (calls : List ResolverCall) :
    (resolving jose).run calls = .after (lastKeySet ((resolving jose).transcript calls)) := by
  induction calls using List.reverseRecOn with
  | nil => rfl
  | append_singleton calls call ih =>
    rw [Machine.run_concat, Machine.transcript_concat, lastKeySet_concat, ih]
    show (getResolver jose _ call.env call.neededKid).1 = _
    rw [getResolver_after, Machine.answer, ih]
    rfl

/-- A call fetches when it must. -/
theorem called_refetch (jose : Jose4j) (cache : JwksCache) (call : ResolverCall) :
    (refetch jose cache call).called = cache.mustFetch call.env.now call.neededKid := by
  unfold refetch
  split
  · next h =>
    rw [h]
    split <;> rfl
  · next h => exact (Bool.eq_false_of_not_eq_true h).symm

end Cache

section Clock

variable {jose : Jose4j} {calls : List ResolverCall} {call : ResolverCall}

/-- A clock that runs for one more call ran before it. -/
theorem ClockRuns.before (h : ClockRuns (calls ++ [call])) : ClockRuns calls where
  within := fun c hc ↦ h.within c (List.mem_append_left _ hc)
  between := (List.pairwise_append.mp h.between).1

/-- A key set that was fetched is no younger than the one at hand. -/
theorem fetchedAt_le_last (hclock : ClockRuns calls) {a : ResolverCall × Refetch}
    {keys : List JsonWebKey} (ha : a ∈ (resolving jose).transcript calls)
    (hfetched : a.2 = .fetched keys) :
    ∃ last fetchedAt, lastKeySet ((resolving jose).transcript calls) = some (last, fetchedAt) ∧
      a.1.env.fetchedAt ≤ fetchedAt := by
  induction calls using List.reverseRecOn with
  | nil => cases ha
  | append_singleton calls call ih =>
    rw [Machine.transcript_concat] at ha ⊢
    rw [lastKeySet_concat]
    rcases List.mem_append.mp ha with hbefore | hlast
    · obtain ⟨last, fetchedAt, hlast, hle⟩ := ih hclock.before hbefore
      cases (resolving jose).answer calls call with
      | fetched keys' =>
        refine ⟨keys', call.env.fetchedAt, rfl, ?_⟩
        have hcall : a.1 ∈ calls := by
          rw [← (resolving jose).map_fst_transcript calls]
          exact List.mem_map_of_mem hbefore
        have hbetween := (List.pairwise_append.mp hclock.between).2.2 a.1 hcall call
          (List.mem_singleton_self call)
        have hwithin := hclock.within call (List.mem_append_right _ (List.mem_singleton_self call))
        exact hbetween.trans hwithin
      | failed => exact ⟨last, fetchedAt, hlast, hle⟩
      | none => exact ⟨last, fetchedAt, hlast, hle⟩
    · rw [List.mem_singleton.mp hlast] at hfetched ⊢
      dsimp only at hfetched
      rw [hfetched]
      exact ⟨keys, call.env.fetchedAt, rfl, le_rfl⟩

/-- After a fetch that succeeded, the next one waits for the interval. -/
theorem apart_of_fetched (hclock : ClockRuns (calls ++ [call])) {a : ResolverCall × Refetch}
    {keys : List JsonWebKey} (ha : a ∈ (resolving jose).transcript calls)
    (hfetched : a.2 = .fetched keys)
    (hmust : ((resolving jose).run calls).mustFetch call.env.now call.neededKid = true) :
    Apart a.1 call := by
  obtain ⟨last, fetchedAt, hlast, hle⟩ := fetchedAt_le_last hclock.before ha hfetched
  have hcall : a.1 ∈ calls := by
    rw [← (resolving jose).map_fst_transcript calls]
    exact List.mem_map_of_mem ha
  have hwithin := hclock.within a.1 (List.mem_append_left _ hcall)
  rw [run_resolving, hlast] at hmust
  have haged : jwksRefetchMinIntervalMs ≤ call.env.now - fetchedAt :=
    of_decide_eq_true (Bool.and_eq_true_iff.mp hmust).2
  unfold Apart
  omega

/-- Fetches keep the interval exactly when none hurries after a failed one. -/
theorem floored_iff (hclock : ClockRuns calls) : Floored jose calls ↔ Unhurried jose calls := by
  induction calls using List.reverseRecOn with
  | nil => exact iff_of_true List.Pairwise.nil (atEach_nil _)
  | append_singleton calls call ih =>
    unfold Floored Unhurried
    rw [Machine.transcript_concat, List.pairwise_append, atEach_concat]
    apply and_congr (ih hclock.before)
    rw [and_iff_right (List.pairwise_singleton _ _)]
    constructor
    · intro h hmust a ha hfailed
      refine h a ha _ (List.mem_singleton_self _) ?_ ?_
      · rw [hfailed]
        rfl
      · exact (called_refetch jose _ call).trans hmust
    · intro h a ha b hb hcalled hnext
      rw [List.mem_singleton.mp hb] at hnext ⊢
      have hmust := (called_refetch jose _ call).symm.trans hnext
      cases hfetch : a.2 with
      | none =>
        rw [hfetch] at hcalled
        cases hcalled
      | failed => exact h hmust a ha hfetch
      | fetched keys => exact apart_of_fetched hclock ha hfetch hmust

end Clock

section Kids

variable {jose : Jose4j} {before : List ResolverCall} {call : ResolverCall}
  {keys : List JsonWebKey} {fetchedAt : Int}

private theorem not_mem_kids {kid : String} (h : ¬ inKeySet keys (some kid)) :
    ((keys.filterMap fun key ↦ key.kid.filter (· ≠ "")).map fun kid ↦ (kid, ())).lookup kid =
      none := by
  rw [List.lookup_eq_none_iff]
  intro entry hentry
  obtain ⟨cached, hcached, rfl⟩ := List.mem_map.mp hentry
  obtain ⟨key, hkey, hfilter⟩ := List.mem_filterMap.mp hcached
  have hkid := (Option.filter_eq_some_iff.mp hfilter).1
  rw [bne_iff_ne]
  intro heq
  exact h ⟨key, hkey, kid, by rw [hkid, heq], rfl⟩

/-- A kid that is not in the key set is covered only as a property of every object. -/
theorem covers_iff (h : ¬ inKeySet keys call.neededKid) :
    (JwksCache.holding keys fetchedAt).covers call.neededKid = true ↔
      ∃ kid, call.neededKid = some kid ∧ kid ∈ scriptPrototype := by
  unfold JwksCache.covers
  cases hneeded : call.neededKid with
  | none => simp
  | some kid =>
    rw [hneeded] at h
    have hlookup := not_mem_kids h
    by_cases hname : kid ∈ scriptPrototype
    · have hne : kid ≠ "" := by
        intro heq
        rw [heq] at hname
        revert hname
        decide
      simp only [JwksCache.holding, property, hlookup, hname]
      simp [hne, hname]
    · simp only [JwksCache.holding, property, hlookup, hname]
      simp [hname]

/-- An outdated call fetches unless its kid is a property of every object. -/
theorem called_iff (h : Outdated jose before call keys fetchedAt) :
    ((resolving jose).answer before call).called = true ↔
      ∀ kid, call.neededKid = some kid → kid ∉ scriptPrototype := by
  show (refetch jose _ call).called = true ↔ _
  rw [called_refetch, run_resolving, h.last]
  have hmust : (JwksCache.after (some (keys, fetchedAt))).mustFetch call.env.now call.neededKid =
      !(JwksCache.holding keys fetchedAt).covers call.neededKid := by
    have haged : decide (jwksRefetchMinIntervalMs ≤ call.env.now - fetchedAt) = true :=
      decide_eq_true h.aged
    show (false || (!(JwksCache.holding keys fetchedAt).covers call.neededKid && _)) = _
    rw [Bool.false_or]
    exact (congrArg _ haged).trans (Bool.and_true _)
  rw [hmust, Bool.not_eq_true', ← Bool.not_eq_true, covers_iff h.unknown, not_exists]
  exact forall_congr' fun kid ↦ not_and

/-- The key set heals itself exactly when no outdated call names a property of every object. -/
theorem selfHealing_iff {calls : List ResolverCall} :
    SelfHealing jose calls ↔ PlainKids jose calls := by
  constructor
  · intro h before call hprefix keys fetchedAt houtdated
    exact (called_iff houtdated).mp (h before call hprefix keys fetchedAt houtdated)
  · intro h before call hprefix keys fetchedAt houtdated
    exact (called_iff houtdated).mpr (h before call hprefix keys fetchedAt houtdated)

end Kids

/-- A worker keeps the floor and heals itself exactly when no call hurries after a failed fetch and
no outdated call names a property of every object for its kid. -/
theorem refetch_floor_iff (jose : Jose4j) {calls : List ResolverCall} (hclock : ClockRuns calls) :
    Floored jose calls ∧ SelfHealing jose calls ↔ Unhurried jose calls ∧ PlainKids jose calls :=
  and_congr (floored_iff hclock) selfHealing_iff

section Sample

private def spireJose : Jose4j where
  decodeHeader := fun _ ↦ none
  parseKeySet := fun body ↦ some [⟨some "spire", body⟩]
  processToClaims := fun _ _ _ _ _ ↦ none

private def spireCall : ResolverCall := ⟨some "spire", ⟨0, 5, .response 200 "key"⟩⟩

private def forgedCall : ResolverCall := ⟨some "forged", ⟨40000, 40010, .response 200 "key"⟩⟩

/-- A token of SPIRE's, then a forged one after the interval. -/
private def rotationCalls : List ResolverCall := [] ++ [spireCall] ++ [forgedCall]

private theorem rotation_clock : ClockRuns rotationCalls := by
  constructor
  · unfold rotationCalls
    decide
  · unfold rotationCalls
    decide

private theorem rotation_unhurried : Unhurried spireJose rotationCalls := by
  unfold Unhurried rotationCalls
  rw [atEach_concat, atEach_concat]
  refine ⟨⟨atEach_nil _, ?_⟩, ?_⟩
  · intro _ a ha
    cases ha
  · intro _ a ha hfailed
    rw [List.mem_singleton.mp ha] at hfailed
    cases hfailed

private theorem rotation_plainKids : PlainKids spireJose rotationCalls := by
  unfold PlainKids rotationCalls
  rw [atEach_concat, atEach_concat]
  refine ⟨⟨atEach_nil _, ?_⟩, ?_⟩
  · intro keys fetchedAt _ kid hkid
    cases hkid
    decide
  · intro keys fetchedAt _ kid hkid
    cases hkid
    decide

/-- A forged kid after the interval: both calls fetch, and far enough apart. -/
theorem refetch_floor_iff_sample :
    Floored spireJose rotationCalls ∧ SelfHealing spireJose rotationCalls :=
  (refetch_floor_iff spireJose rotation_clock).mpr ⟨rotation_unhurried, rotation_plainKids⟩

/-- Two calls on a new worker while SPIRE's endpoint fails. -/
private def outageCalls : List ResolverCall :=
  [⟨some "spire", ⟨0, 0, .failed⟩⟩, ⟨some "spire", ⟨1, 1, .failed⟩⟩]

/-- While SPIRE's endpoint fails, every call fetches. -/
theorem outage_not_floored :
    ¬ ∀ jose calls, ClockRuns calls → Floored jose calls ∧ SelfHealing jose calls := by
  intro h
  have hclock : ClockRuns outageCalls := by
    constructor
    · unfold outageCalls
      decide
    · unfold outageCalls
      decide
  obtain ⟨hfloored, -⟩ := h spireJose outageCalls hclock
  have hapart := (List.pairwise_cons.mp hfloored).1 _ (List.mem_singleton_self _) rfl rfl
  revert hapart
  unfold Apart
  decide

end Sample
end AgentsAuth.Curity
