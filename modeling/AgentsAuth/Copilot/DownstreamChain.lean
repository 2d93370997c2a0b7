import AgentsAuth.Base.Json
import AgentsAuth.Lib.Machine
import AgentsAuth.Lib.Remembered

/-!
# The downstream walk of agent-copilot

`createDownstreamChainFetcher` of `apps/agent-copilot/src/last-token-route.ts`. Many calls may be in
flight, and each looks at the snapshots once, when its fetch has failed or been refused or its body
has been read. What it returns can be told from the successful responses before, unless two
different calls have the same key.
-/

namespace AgentsAuth.Copilot

open AgentsAuth.Base AgentsAuth.Lib

/-- The arguments of one call. -/
structure ChainCall where
  url : String
  bearer : String
  includeRaw : Bool
deriving DecidableEq

/-- `key` of `last-token-route.ts:118`. -/
def snapshotKey (c : ChainCall) : String :=
  c.url ++ "|" ++ (if c.includeRaw then "raw" else "decoded") ++ "|" ++ c.bearer

/-- The hops of a response, whose shape nobody checks; `?? []` leaves no `null`. -/
abbrev Hops := { hops : Json // hops.notNull = true }

/-- `[]`. -/
def noHops : Hops := ⟨.arr [], rfl⟩

/-- `body.chain ?? []`; `none` where reading the property throws. -/
def chainOf (body : Json) : Option Hops :=
  if body.notNull = true then
    match body.get? "chain" with
    | some chain => some (if h : chain.notNull = true then ⟨chain, h⟩ else noHops)
    | none => some noHops
  else none

/-- `snapshots` of `last-token-route.ts:107`. -/
abbrev Snapshots := InsertionMap String Hops

/-- Model of `remember`, `last-token-route.ts:108–116`. -/
def remember (maxSnapshots : Nat) (snapshots : Snapshots) (key : String) (hops : Hops) :
    Snapshots :=
  ((snapshots.erase key).set key hops).evictTo maxSnapshots

/-- `snapshots.get(key) ?? []`. -/
def snapshotOf (snapshots : Snapshots) (key : String) : Hops := (snapshots.get? key).getD noHops

/-- Where the promise of a call stands. -/
inductive ChainPromise where
  | fetching
  | reading
  | fulfilled (hops : Hops)
  | rejected

/-- The `try` block when `fetchImpl` has settled: whether the response is `ok`, or `none` for an
error. The result is an error where the block throws. -/
def tryResponse (snapshots : Snapshots) (key : String) :
    Option Bool → Except Unit (Snapshots × ChainPromise)
  | none => .error ()
  | some false => .ok (snapshots, .fulfilled (snapshotOf snapshots key))
  | some true => .ok (snapshots, .reading)

/-- The `try` block when `r.json()` has settled. -/
def tryBody (maxSnapshots : Nat) (snapshots : Snapshots) (key : String) :
    Option Json → Except Unit (Snapshots × ChainPromise)
  | none => .error ()
  | some body =>
    match chainOf body with
    | none => .error ()
    | some hops => .ok (remember maxSnapshots snapshots key hops, .fulfilled hops)

/-- The `catch` block. -/
def catchSnapshot (snapshots : Snapshots) (key : String) :
    Except Unit (Snapshots × ChainPromise) → Snapshots × ChainPromise
  | .ok next => next
  | .error () => (snapshots, .fulfilled (snapshotOf snapshots key))

/-- What happens: a call is made, its fetch settles, or its body does. -/
inductive ChainEvent where
  | call (c : ChainCall)
  | response (call : Nat) (ok : Option Bool)
  | body (call : Nat) (body : Option Json)

/-- The snapshots, and every call made with its promise. -/
structure ChainState where
  snapshots : Snapshots
  calls : List (ChainCall × ChainPromise)

/-- The hops that a promise is fulfilled with. -/
def ChainPromise.hops? : ChainPromise → Option Hops
  | .fulfilled hops => some hops
  | _ => none

/-- A call goes on; a call that is fulfilled is answered with its hops. -/
def settle (s : ChainState) (i : Nat) (c : ChainCall) (next : Snapshots × ChainPromise) :
    ChainState × Option (ChainCall × Hops) :=
  (⟨next.1, s.calls.set i (c, next.2)⟩, next.2.hops?.map (c, ·))

/-- One event; a call whose promise does not wait for it is left alone. -/
def chainStep (maxSnapshots : Nat) (s : ChainState) :
    ChainEvent → ChainState × Option (ChainCall × Hops)
  | .call c => (⟨s.snapshots, s.calls ++ [(c, .fetching)]⟩, none)
  | .response i ok =>
    match s.calls[i]? with
    | some (c, .fetching) =>
      settle s i c (catchSnapshot s.snapshots (snapshotKey c)
        (tryResponse s.snapshots (snapshotKey c) ok))
    | _ => (s, none)
  | .body i body =>
    match s.calls[i]? with
    | some (c, .reading) =>
      settle s i c (catchSnapshot s.snapshots (snapshotKey c)
        (tryBody maxSnapshots s.snapshots (snapshotKey c) body))
    | _ => (s, none)

/-- Model of `createDownstreamChainFetcher`, `last-token-route.ts:103–133`: its calls with their
fetches in any order. -/
def createDownstreamChainFetcher (maxSnapshots : Nat) :
    Machine ChainState ChainEvent (Option (ChainCall × Hops)) where
  init := ⟨.empty, []⟩
  step := chainStep maxSnapshots

/-- The hops of a successful response that an event brings. -/
def ChainEvent.received? : ChainEvent → Option Hops
  | .body _ json => json.bind chainOf
  | _ => none

/-- The call that an event makes. -/
def ChainEvent.call? : ChainEvent → Option ChainCall
  | .call c => some c
  | _ => none

/-- The successful responses with their calls, oldest first. -/
def successes (history : List (ChainEvent × Option (ChainCall × Hops))) :
    List (ChainCall × Hops) :=
  history.filterMap fun x ↦ (x.2.map Prod.fst).bind fun c ↦ x.1.received?.map (c, ·)

/-- The hops returned are those of the call's own successful response; without one, those of the
last successful response for the same arguments, if these are among the last `maxSnapshots` that
had one, and otherwise none. -/
def Truthful (maxSnapshots : Nat) (history : List (ChainEvent × Option (ChainCall × Hops)))
    (x : ChainEvent × Option (ChainCall × Hops)) : Prop :=
  ∀ c hops, x.2 = some (c, hops) →
    match x.1.received? with
    | some received => hops = received
    | none =>
      InsertionMap.Recalled maxSnapshots (successes history) c hops ∨
        (∀ other, ¬InsertionMap.Recalled maxSnapshots (successes history) c other) ∧ hops = noHops

section Step

variable {maxSnapshots : Nat} {s : ChainState} {e : ChainEvent}

private theorem fst_mem_calls {i : Nat} {c : ChainCall} {promise : ChainPromise}
    (hcall : s.calls[i]? = some (c, promise)) : c ∈ s.calls.map Prod.fst :=
  List.mem_map.mpr ⟨_, List.mem_of_getElem? hcall, rfl⟩

/-- What one event does to the snapshots, and what it answers. -/
theorem chainStep_cases :
    (chainStep maxSnapshots s e).2 = none ∧
        (chainStep maxSnapshots s e).1.snapshots = s.snapshots ∨
      ∃ c ∈ s.calls.map Prod.fst,
        (∃ hops, (chainStep maxSnapshots s e).2 = some (c, hops) ∧ e.received? = some hops ∧
          (chainStep maxSnapshots s e).1.snapshots =
            remember maxSnapshots s.snapshots (snapshotKey c) hops) ∨
        (chainStep maxSnapshots s e).2 = some (c, snapshotOf s.snapshots (snapshotKey c)) ∧
          e.received? = none ∧ (chainStep maxSnapshots s e).1.snapshots = s.snapshots := by
  cases e with
  | call c => exact Or.inl ⟨rfl, rfl⟩
  | response i ok =>
    simp only [chainStep]
    split
    · next c hcall =>
      have hmem := fst_mem_calls hcall
      cases ok with
      | none => exact Or.inr ⟨c, hmem, Or.inr ⟨rfl, rfl, rfl⟩⟩
      | some ok =>
        cases ok with
        | false => exact Or.inr ⟨c, hmem, Or.inr ⟨rfl, rfl, rfl⟩⟩
        | true => exact Or.inl ⟨rfl, rfl⟩
    · exact Or.inl ⟨rfl, rfl⟩
  | body i body =>
    simp only [chainStep]
    split
    · next c hcall =>
      have hmem := fst_mem_calls hcall
      refine Or.inr ⟨c, hmem, ?_⟩
      cases body with
      | none => exact Or.inr ⟨rfl, rfl, rfl⟩
      | some body =>
        simp only [ChainEvent.received?, tryBody, Option.bind_some]
        cases chainOf body with
        | none => exact Or.inr ⟨rfl, rfl, rfl⟩
        | some hops => exact Or.inl ⟨hops, rfl, rfl, rfl⟩
    · exact Or.inl ⟨rfl, rfl⟩

private theorem map_fst_settle {i : Nat} {c : ChainCall} {promise : ChainPromise}
    {next : Snapshots × ChainPromise} (hcall : s.calls[i]? = some (c, promise)) :
    (settle s i c next).1.calls.map Prod.fst = s.calls.map Prod.fst := by
  have hfst : (s.calls.map Prod.fst)[i]? = some c := by
    rw [List.getElem?_map, hcall]
    rfl
  obtain ⟨hi, hget⟩ := List.getElem?_eq_some_iff.mp hfst
  rw [settle, List.map_set]
  show (s.calls.map Prod.fst).set i c = s.calls.map Prod.fst
  rw [← hget, List.set_getElem_self]

/-- Only a new call adds to the calls. -/
theorem map_fst_chainStep :
    (chainStep maxSnapshots s e).1.calls.map Prod.fst = s.calls.map Prod.fst ++ e.call?.toList := by
  cases e with
  | call c => simp [chainStep, ChainEvent.call?]
  | response i ok =>
    simp only [chainStep]
    split
    · next c hcall => rw [map_fst_settle hcall]; simp [ChainEvent.call?]
    · simp [ChainEvent.call?]
  | body i body =>
    simp only [chainStep]
    split
    · next c hcall => rw [map_fst_settle hcall]; simp [ChainEvent.call?]
    · simp [ChainEvent.call?]

private theorem not_rejected_settle {i : Nat} {c : ChainCall} {next : Snapshots × ChainPromise}
    (h : ∀ p ∈ s.calls, p.2 ≠ .rejected) (hnext : next.2 ≠ .rejected) :
    ∀ p ∈ (settle s i c next).1.calls, p.2 ≠ .rejected := by
  intro p hp
  rcases List.mem_or_eq_of_mem_set hp with hold | rfl
  · exact h p hold
  · exact hnext

private theorem catchSnapshot_ne_rejected {snapshots : Snapshots} {key : String}
    {result : Except Unit (Snapshots × ChainPromise)}
    (h : ∀ next, result = .ok next → next.2 ≠ .rejected) :
    (catchSnapshot snapshots key result).2 ≠ .rejected := by
  cases result with
  | ok next => exact h next rfl
  | error _ =>
    intro hrejected
    cases hrejected

private theorem tryResponse_ne_rejected {snapshots : Snapshots} {key : String}
    {ok : Option Bool} {next : Snapshots × ChainPromise}
    (h : tryResponse snapshots key ok = .ok next) : next.2 ≠ .rejected := by
  unfold tryResponse at h
  split at h
  · cases h
  · cases h
    intro hrejected
    cases hrejected
  · cases h
    intro hrejected
    cases hrejected

private theorem tryBody_ne_rejected {snapshots : Snapshots} {key : String} {body : Option Json}
    {next : Snapshots × ChainPromise} (h : tryBody maxSnapshots snapshots key body = .ok next) :
    next.2 ≠ .rejected := by
  unfold tryBody at h
  split at h
  · cases h
  · split at h
    · cases h
    · cases h
      intro hrejected
      cases hrejected

/-- Whatever is thrown, no promise is rejected. -/
private theorem not_rejected_chainStep (h : ∀ p ∈ s.calls, p.2 ≠ .rejected) :
    ∀ p ∈ (chainStep maxSnapshots s e).1.calls, p.2 ≠ .rejected := by
  cases e with
  | call c =>
    intro p hp
    rcases List.mem_append.mp hp with hold | hnew
    · exact h p hold
    · rw [List.mem_singleton.mp hnew]
      intro hrejected
      cases hrejected
  | response i ok =>
    simp only [chainStep]
    split
    · apply not_rejected_settle h
      apply catchSnapshot_ne_rejected
      exact fun _ ↦ tryResponse_ne_rejected
    · exact h
  | body i json =>
    simp only [chainStep]
    split
    · apply not_rejected_settle h
      apply catchSnapshot_ne_rejected
      exact fun _ ↦ tryBody_ne_rejected
    · exact h

/-- What the hops that are received have in common, those that are remembered and those that are
answered have too. -/
theorem chainStep_forall {P : Hops → Prop} (hnone : P noHops)
    (hsnapshots : s.snapshots.Forall fun _ hops ↦ P hops)
    (hreceived : ∀ hops, e.received? = some hops → P hops) :
    ((chainStep maxSnapshots s e).1.snapshots.Forall fun _ hops ↦ P hops) ∧
      ∀ c hops, (chainStep maxSnapshots s e).2 = some (c, hops) → P hops := by
  rcases @chainStep_cases maxSnapshots s e with
    ⟨hanswer, hsame⟩ | ⟨c, -, ⟨hops, hanswer, hgot, hremember⟩ | ⟨hanswer, -, hsame⟩⟩
  · rw [hanswer, hsame]
    exact ⟨hsnapshots, by simp⟩
  · rw [hanswer, hremember]
    constructor
    · apply InsertionMap.Forall.evictTo
      exact (hsnapshots.erase _).set (hreceived hops hgot)
    · rintro c' hops' ⟨⟩
      exact hreceived hops hgot
  · rw [hanswer, hsame]
    refine ⟨hsnapshots, ?_⟩
    rintro c' hops' ⟨⟩
    rw [snapshotOf]
    cases hheld : s.snapshots.get? (snapshotKey c) with
    | none => exact hnone
    | some hops => exact hsnapshots.of_get? hheld

end Step

section Runs

variable {maxSnapshots : Nat} {es : List ChainEvent}

private theorem successes_concat (history : List (ChainEvent × Option (ChainCall × Hops)))
    (x : ChainEvent × Option (ChainCall × Hops)) :
    successes (history ++ [x]) = successes history ++
      ((x.2.map Prod.fst).bind fun c ↦ x.1.received?.map (c, ·)).toList := by
  rw [successes, List.filterMap_append, ← successes]
  cases h : (x.2.map Prod.fst).bind fun c ↦ x.1.received?.map (c, ·) with
  | none => simp [h]
  | some e => simp [h]

/-- The calls of a state are those that were made. -/
private theorem map_fst_run (es : List ChainEvent) :
    ((createDownstreamChainFetcher maxSnapshots).run es).calls.map Prod.fst =
      es.filterMap ChainEvent.call? := by
  induction es using List.reverseRecOn with
  | nil => rfl
  | append_singleton es e ih =>
    rw [Machine.run_concat, List.filterMap_append, ← ih]
    show (chainStep maxSnapshots _ e).1.calls.map Prod.fst = _
    rw [map_fst_chainStep]
    cases h : e.call? with
    | none => simp [h]
    | some c => simp [h]

/-- The snapshots are the successful responses remembered under the keys of their calls. -/
private theorem snapshots_run (es : List ChainEvent) :
    ((createDownstreamChainFetcher maxSnapshots).run es).snapshots =
      InsertionMap.remembered maxSnapshots
        ((successes ((createDownstreamChainFetcher maxSnapshots).transcript es)).map
          (Prod.map snapshotKey id)) := by
  induction es using List.reverseRecOn with
  | nil => rfl
  | append_singleton es e ih =>
    rw [Machine.run_concat, Machine.transcript_concat, successes_concat, List.map_append]
    show (chainStep maxSnapshots _ e).1.snapshots = _
    have hanswer : (createDownstreamChainFetcher maxSnapshots).answer es e =
        (chainStep maxSnapshots ((createDownstreamChainFetcher maxSnapshots).run es) e).2 := rfl
    rcases @chainStep_cases maxSnapshots ((createDownstreamChainFetcher maxSnapshots).run es) e with
      ⟨hnone, hsame⟩ | ⟨c, -, ⟨hops, hsome, hreceived, hnew⟩ | ⟨hsome, hreceived, hsame⟩⟩
    · simp [hanswer, hnone, hsame, ih]
    · simp [hanswer, hsome, hreceived, hnew, ih, InsertionMap.remember, remember]
    · simp [hanswer, hsome, hreceived, hsame, ih]

/-- A successful response belongs to a call that was made. -/
private theorem mem_calls_of_mem_successes {x : ChainCall × Hops}
    (h : x ∈ successes ((createDownstreamChainFetcher maxSnapshots).transcript es)) :
    x.1 ∈ es.filterMap ChainEvent.call? := by
  induction es using List.reverseRecOn with
  | nil => cases h
  | append_singleton es e ih =>
    rw [Machine.transcript_concat, successes_concat, List.mem_append] at h
    rw [List.filterMap_append, List.mem_append]
    rcases h with hold | hnew
    · exact Or.inl (ih hold)
    · have hanswer : (createDownstreamChainFetcher maxSnapshots).answer es e =
          (chainStep maxSnapshots ((createDownstreamChainFetcher maxSnapshots).run es) e).2 := rfl
      rw [hanswer] at hnew
      rcases @chainStep_cases maxSnapshots ((createDownstreamChainFetcher maxSnapshots).run es) e
        with ⟨hnone, -⟩ | ⟨c, hc, ⟨hops, hsome, hreceived, -⟩ | ⟨-, hreceived, -⟩⟩
      · simp [hnone] at hnew
      · simp only [hsome, hreceived, Option.map_some, Option.bind_some, Option.toList_some,
          List.mem_singleton] at hnew
        rw [hnew]
        rw [map_fst_run] at hc
        exact Or.inl hc
      · simp [hreceived] at hnew

/-- No promise is rejected. -/
private theorem not_rejected_run (es : List ChainEvent) :
    ∀ p ∈ ((createDownstreamChainFetcher maxSnapshots).run es).calls, p.2 ≠ .rejected := by
  apply (createDownstreamChainFetcher maxSnapshots).run_invariant
    (I := fun s ↦ ∀ p ∈ s.calls, p.2 ≠ .rejected)
  · intro p hp
    cases hp
  · intro s e hs
    exact not_rejected_chainStep hs

/-- What is held under the key of a call are the hops that its arguments have to be served. -/
def Faithful (maxSnapshots : Nat) (es : List ChainEvent) (c : ChainCall) : Prop :=
  ∀ hops, ((createDownstreamChainFetcher maxSnapshots).run es).snapshots.get? (snapshotKey c) =
      some hops ↔
    InsertionMap.Recalled maxSnapshots
      (successes ((createDownstreamChainFetcher maxSnapshots).transcript es)) c hops

/-- The snapshots are faithful as long as keys tell calls apart. -/
private theorem faithful_of_injOn {C : Set ChainCall} (hC : Set.InjOn snapshotKey C)
    (hes : ∀ c ∈ es.filterMap ChainEvent.call?, c ∈ C) {c : ChainCall} (hc : c ∈ C) :
    Faithful maxSnapshots es c := by
  intro hops
  rw [snapshots_run, InsertionMap.get?_remembered_iff]
  apply InsertionMap.recalled_map_iff hC _ hc
  intro x hx
  exact hes _ (mem_calls_of_mem_successes hx)

/-- Without room for snapshots nothing is held. -/
private theorem faithful_zero (c : ChainCall) : Faithful 0 es c := by
  intro hops
  rw [snapshots_run, InsertionMap.get?_remembered_iff]
  constructor
  · rintro ⟨before, after, -, -, hroom⟩
    exact absurd hroom (Nat.not_lt_zero _)
  · rintro ⟨before, after, -, -, hroom⟩
    exact absurd hroom (Nat.not_lt_zero _)

/-- Faithful snapshots make for truthful hops. -/
private theorem truthful_answer (hes : ∀ c ∈ es.filterMap ChainEvent.call?,
    Faithful maxSnapshots es c) (e : ChainEvent) :
    Truthful maxSnapshots ((createDownstreamChainFetcher maxSnapshots).transcript es)
      (e, (createDownstreamChainFetcher maxSnapshots).answer es e) := by
  intro c hops hanswer
  have hstep : (chainStep maxSnapshots ((createDownstreamChainFetcher maxSnapshots).run es) e).2 =
      some (c, hops) := hanswer
  rcases @chainStep_cases maxSnapshots ((createDownstreamChainFetcher maxSnapshots).run es) e with
    ⟨hnone, -⟩ | ⟨c', hc', ⟨hops', hsome, hreceived, -⟩ | ⟨hsome, hreceived, -⟩⟩
  · rw [hnone] at hstep
    cases hstep
  · rw [hsome] at hstep
    cases hstep
    simp only [hreceived]
  · rw [hsome] at hstep
    cases hstep
    simp only [hreceived]
    rw [map_fst_run] at hc'
    unfold snapshotOf
    cases hget : ((createDownstreamChainFetcher maxSnapshots).run es).snapshots.get?
        (snapshotKey c) with
    | some hops => exact Or.inl ((hes c hc' hops).mp hget)
    | none =>
      refine Or.inr ⟨fun other hother ↦ ?_, rfl⟩
      rw [(hes c hc' other).mpr hother] at hget
      cases hget

/-- Faithful snapshots at every event make for truthful hops in the whole run. -/
private theorem truthful_transcript
    (h : ∀ before e, before ++ [e] <+: es → ∀ c ∈ before.filterMap ChainEvent.call?,
      Faithful maxSnapshots before c) :
    AtEach (Truthful maxSnapshots) ((createDownstreamChainFetcher maxSnapshots).transcript es) := by
  induction es using List.reverseRecOn with
  | nil => exact atEach_nil _
  | append_singleton es e ih =>
    rw [Machine.transcript_concat, atEach_concat]
    constructor
    · apply ih
      intro before d hpre
      exact h before d (hpre.trans (List.prefix_append _ _))
    · exact truthful_answer (h es e (List.prefix_refl _)) e

/-- A run whose keys tell its calls apart returns truthful hops. -/
theorem truthful_of_injOn {C : Set ChainCall} (hC : Set.InjOn snapshotKey C)
    (hes : ∀ c ∈ es.filterMap ChainEvent.call?, c ∈ C) :
    AtEach (Truthful maxSnapshots)
      ((createDownstreamChainFetcher maxSnapshots).transcript es) := by
  apply truthful_transcript
  intro before e hpre c hc
  have hbefore : before.filterMap ChainEvent.call? <+: es.filterMap ChainEvent.call? :=
    ((List.prefix_append _ _).trans hpre).filterMap _
  have hin : ∀ d ∈ before.filterMap ChainEvent.call?, d ∈ C :=
    fun d hd ↦ hes d (hbefore.subset hd)
  exact faithful_of_injOn hC hin (hin c hc)

/-- Two calls with one key: the hops of the first are served to the second. -/
private theorem eq_of_same_key {c c' : ChainCall} (hkey : snapshotKey c = snapshotKey c')
    (h : AtEach (Truthful (maxSnapshots + 1))
      ((createDownstreamChainFetcher (maxSnapshots + 1)).transcript
        ([.call c, .response 0 (some true), .body 0 (some (.obj [("chain", .arr [.null])])),
          .call c'] ++ [.response 1 (some false)]))) :
    c = c' := by
  rw [Machine.transcript_concat, atEach_concat] at h
  have hsuccesses : successes ((createDownstreamChainFetcher (maxSnapshots + 1)).transcript
      [.call c, .response 0 (some true), .body 0 (some (.obj [("chain", .arr [.null])])),
        .call c']) = [(c, ⟨.arr [.null], rfl⟩)] := rfl
  have hheld : ((createDownstreamChainFetcher (maxSnapshots + 1)).run
      [.call c, .response 0 (some true), .body 0 (some (.obj [("chain", .arr [.null])])),
        .call c']).snapshots.get? (snapshotKey c') = some ⟨.arr [.null], rfl⟩ := by
    rw [snapshots_run, hsuccesses, InsertionMap.get?_remembered_iff]
    exact ⟨[], [], by rw [← hkey]; rfl, by simp, Nat.succ_pos _⟩
  have hserved := h.2 c' ⟨.arr [.null], rfl⟩ (by
    show some (c', snapshotOf _ (snapshotKey c')) = _
    rw [snapshotOf, hheld]
    rfl)
  rcases hserved with ⟨before, after, hsplit, -⟩ | ⟨-, hnone⟩
  · rw [hsuccesses] at hsplit
    cases before with
    | nil => exact congrArg Prod.fst (List.cons.inj hsplit).1
    | cons x before => simp at hsplit
  · exact absurd (congrArg Subtype.val hnone) (by simp [noHops])

end Runs

section Keys

variable {c c' : ChainCall}

private theorem toList_snapshotKey (c : ChainCall) :
    (snapshotKey c).toList =
      (c.url.toList ++ '|' :: (if c.includeRaw then "raw" else "decoded").toList) ++
        '|' :: c.bearer.toList := by
  simp [snapshotKey]

private theorem bar_not_mem_mode (includeRaw : Bool) :
    '|' ∉ (if includeRaw then "raw" else "decoded").toList := by
  cases includeRaw <;> decide

private theorem mode_inj {b b' : Bool}
    (h : (if b then "raw" else "decoded").toList = (if b' then "raw" else "decoded").toList) :
    b = b' := by
  cases b with
  | false =>
    cases b' with
    | false => rfl
    | true => exact absurd h (by decide)
  | true =>
    cases b' with
    | false => exact absurd h (by decide)
    | true => rfl

private theorem eq_of_parts (hurl : c.url.toList = c'.url.toList)
    (hmode : (if c.includeRaw then "raw" else "decoded").toList =
      (if c'.includeRaw then "raw" else "decoded").toList)
    (hbearer : c.bearer.toList = c'.bearer.toList) : c = c' := by
  obtain ⟨url, bearer, includeRaw⟩ := c
  obtain ⟨url', bearer', includeRaw'⟩ := c'
  obtain rfl := String.toList_inj.mp hurl
  obtain rfl := String.toList_inj.mp hbearer
  obtain rfl := mode_inj hmode
  rfl

/-- Bearers without a bar tell calls apart. -/
theorem snapshotKey_inj (hc : '|' ∉ c.bearer.toList) (hc' : '|' ∉ c'.bearer.toList)
    (h : snapshotKey c = snapshotKey c') : c = c' := by
  have hlist := congrArg String.toList h
  rw [toList_snapshotKey, toList_snapshotKey] at hlist
  have hbearer := last_split_unique hc hc' hlist
  rw [hbearer] at hlist
  have hfront := List.append_cancel_right hlist
  have hmode := last_split_unique (bar_not_mem_mode _) (bar_not_mem_mode _) hfront
  rw [hmode] at hfront
  exact eq_of_parts (List.append_cancel_right hfront) hmode hbearer

/-- One address tells calls apart. -/
theorem snapshotKey_inj_of_url (hurl : c.url = c'.url) (h : snapshotKey c = snapshotKey c') :
    c = c' := by
  have hlist := congrArg String.toList h
  rw [toList_snapshotKey, toList_snapshotKey, hurl, List.append_assoc, List.append_assoc] at hlist
  have hrest := (List.cons.inj (List.append_cancel_left hlist)).2
  obtain ⟨hmode, hbearer⟩ := append_cons_inj (bar_not_mem_mode _) (bar_not_mem_mode _) hrest
  exact eq_of_parts (congrArg String.toList hurl) hmode hbearer

/-- A run whose bearers have no bar in them returns truthful hops. -/
theorem truthful_of_bearers {maxSnapshots : Nat} {es : List ChainEvent}
    (hes : ∀ c ∈ es.filterMap ChainEvent.call?, '|' ∉ c.bearer.toList) :
    AtEach (Truthful maxSnapshots)
      ((createDownstreamChainFetcher maxSnapshots).transcript es) :=
  truthful_of_injOn (fun _ hc _ hc' hkey ↦ snapshotKey_inj hc hc' hkey) hes

/-- So does a run whose calls go to one address. -/
theorem truthful_of_url {maxSnapshots : Nat} {es : List ChainEvent} {url : String}
    (hes : ∀ c ∈ es.filterMap ChainEvent.call?, c.url = url) :
    AtEach (Truthful maxSnapshots)
      ((createDownstreamChainFetcher maxSnapshots).transcript es) :=
  truthful_of_injOn (C := {c | c.url = url})
    (fun _ hc _ hc' hkey ↦ snapshotKey_inj_of_url (hc.trans hc'.symm) hkey) hes

end Keys

/-- The fetcher keeps its bound and never rejects, and among calls from a set, in any order and with
any outcomes, what it returns is the call's own successful response or what was remembered for the
same arguments exactly when there is no room for snapshots or keys tell the calls apart. -/
theorem downstreamChain_truthful_iff (maxSnapshots : Nat) (C : Set ChainCall) :
    (∀ es, ((createDownstreamChainFetcher maxSnapshots).run es).snapshots.size ≤ maxSnapshots) ∧
    (∀ es, ∀ p ∈ ((createDownstreamChainFetcher maxSnapshots).run es).calls, p.2 ≠ .rejected) ∧
    ((∀ es : List ChainEvent, (∀ c ∈ es.filterMap ChainEvent.call?, c ∈ C) →
        AtEach (Truthful maxSnapshots)
          ((createDownstreamChainFetcher maxSnapshots).transcript es)) ↔
      maxSnapshots = 0 ∨ Set.InjOn snapshotKey C) := by
  refine ⟨fun es ↦ ?_, fun es ↦ not_rejected_run es, ?_, ?_⟩
  · rw [snapshots_run]
    exact InsertionMap.size_remembered_le _
  · intro h
    cases maxSnapshots with
    | zero => exact Or.inl rfl
    | succ n =>
      right
      intro c hc c' hc' hkey
      apply eq_of_same_key hkey
      apply h
      intro d hd
      have hcases : d = c ∨ c' = d := by simpa [ChainEvent.call?] using hd
      rcases hcases with rfl | rfl
      · exact hc
      · exact hc'
  · rintro (rfl | hC) es hes
    · exact truthful_transcript fun _ _ _ c _ ↦ faithful_zero c
    · exact truthful_of_injOn hC hes

/-- A bearer with a bar in it is served what was fetched with another bearer. -/
theorem snapshot_of_another_bearer :
    ¬ ∀ maxSnapshots : Nat,
      (∀ es, ((createDownstreamChainFetcher maxSnapshots).run es).snapshots.size ≤ maxSnapshots) ∧
      (∀ es, ∀ p ∈ ((createDownstreamChainFetcher maxSnapshots).run es).calls,
        p.2 ≠ .rejected) ∧
      ∀ es, AtEach (Truthful maxSnapshots)
        ((createDownstreamChainFetcher maxSnapshots).transcript es) := by
  intro h
  have hsame : (⟨"http://mcp-inspect/last-token|decoded|x", "y", false⟩ : ChainCall) =
      ⟨"http://mcp-inspect/last-token", "x|decoded|y", false⟩ :=
    eq_of_same_key (by decide) ((h 8).2.2 _)
  exact absurd (congrArg ChainCall.bearer hsame) (by decide)

end AgentsAuth.Copilot
