import AgentsAuth.Agents.ObtainToken

/-!
# Where a returned token comes from

In every interleaving of the calls of one process: a token that a call returns, or that a
slot remembers, was minted by an exchange of the call itself or of an earlier call of the
same helper under the same cache key. The slots hold what was recorded last.
-/

namespace AgentsAuth.Agents

open AgentsAuth.AuthCurity AgentsAuth.Lib

variable {η σ ρ : Type} [DecidableEq η] (deps : ObtainDeps η σ ρ)

/-- The requests that a run starts. -/
def requests (es : List (Nat × ObtainEvent ρ)) : List ρ :=
  es.filterMap fun e ↦
    match e.2 with
    | .start req _ => some req
    | _ => none

/-- Everything that a run does, oldest first. -/
def shown (es : List (Nat × ObtainEvent ρ)) : List (Observation ρ) :=
  ((obtaining deps).transcript es).flatMap Prod.snd

/-- The parameters of an exchange are those of the call. -/
structure ParamsOf (call : ObtainCall η σ) (params : ExchangeTokenParams) : Prop where
  clientId : params.clientId = call.clientId
  subjectToken : params.subjectToken = call.subjectToken
  audience : params.audience = call.audience
  scope : params.scope = call.scope

/-- A call finds in the cache what another one has stored. -/
structure SharesEntry (earlier later : ObtainCall η σ) : Prop where
  helper : earlier.helper = later.helper
  key : earlier.key.map keyOf = later.key.map keyOf
  cached : later.key.isSome
  served : later.bypassCache = false

/-- The token was minted for the request itself or for one that shares its cache entry. -/
def Origin (es : List (Nat × ObtainEvent ρ)) (req : ρ) (accessToken : String) : Prop :=
  req ∈ requests es ∧ ∃ req' params result, .minted req' params result ∈ shown deps es ∧
    result.accessToken = accessToken ∧
    (req' = req ∨ 0 < deps.exchangeCacheTtlMs ∧ SharesEntry (deps.callOf req') (deps.callOf req))

/-- The last exchange that was recorded for a helper: the request, its token and the time. -/
def lastRecorded (obs : List (Observation ρ)) (h : η) : Option (ρ × String × Int) :=
  obs.reverse.findSome? fun
    | .recorded req accessToken now =>
      if (deps.callOf req).helper = h then some (req, accessToken, now) else none
    | _ => none

/-- The slot that the last recorded exchange leaves. -/
def lastSlot (obs : List (Observation ρ)) (h : η) : Option σ :=
  (lastRecorded deps obs h).bind fun r ↦ (deps.callOf r.1).slot.map fun slot ↦ slot r.2.1 r.2.2

/-- A stored token was minted for a request under the key of the entry. -/
def StoredFor (es : List (Nat × ObtainEvent ρ)) (h : η) (k : String) (entry : CacheEntry) :
    Prop :=
  0 < deps.exchangeCacheTtlMs ∧ ∃ req params result key,
    .minted req params result ∈ shown deps es ∧ (deps.callOf req).helper = h ∧
    (deps.callOf req).key = some key ∧ keyOf key = k ∧ result.accessToken = entry.accessToken

/-- What a call has established when it stands somewhere. -/
def PhaseSound (es : List (Nat × ObtainEvent ρ)) : Phase ρ → Prop
  | .notStarted => True
  | .preparing req => req ∈ requests es
  | .exchanging req params => req ∈ requests es ∧ ParamsOf (deps.callOf req) params
  | .finished => True

/-- What an observation of a run says about the run. -/
def ObservationSound (es : List (Nat × ObtainEvent ρ)) : Observation ρ → Prop
  | .minted req params _ => req ∈ requests es ∧ ParamsOf (deps.callOf req) params
  | .recorded req accessToken _ =>
    (deps.callOf req).slot.isSome ∧ Origin deps es req accessToken
  | .returned req accessToken => Origin deps es req accessToken
  | .refused _ => True

/-- The invariant of a process, relative to its history. -/
structure Sound (es : List (Nat × ObtainEvent ρ)) (s : ObtainState η σ ρ) : Prop where
  cache : ∀ h, InsertionMap.Forall (StoredFor deps es h) (s.cache h)
  phase : ∀ c, PhaseSound deps es (s.phase c)
  last : ∀ h, s.last h = lastSlot deps (shown deps es) h
  shown : ∀ o ∈ shown deps es, ObservationSound deps es o

variable {deps} {es : List (Nat × ObtainEvent ρ)} {e : Nat × ObtainEvent ρ}

section History

/-- One more event shows what it answers. -/
theorem shown_concat : shown deps (es ++ [e]) = shown deps es ++ (obtaining deps).answer es e := by
  rw [shown, Machine.transcript_concat, List.flatMap_append]
  simp [shown]

/-- A later run has the same requests and more. -/
theorem requests_concat {req : ρ} (h : req ∈ requests es) : req ∈ requests (es ++ [e]) := by
  rw [requests, List.filterMap_append]
  exact List.mem_append_left _ h

/-- An event that starts a request adds it. -/
theorem mem_requests_start (es : List (Nat × ObtainEvent ρ)) (c : Nat) (req : ρ) (now : Int) :
    req ∈ requests (es ++ [(c, ObtainEvent.start req now)]) := by
  rw [requests, List.filterMap_append]
  exact List.mem_append_right _ (List.mem_singleton_self _)

private theorem mem_shown_concat {o : Observation ρ} (h : o ∈ shown deps es) :
    o ∈ shown deps (es ++ [e]) := by
  rw [shown_concat]
  exact List.mem_append_left _ h

private theorem Origin.concat {req : ρ} {accessToken : String}
    (h : Origin deps es req accessToken) : Origin deps (es ++ [e]) req accessToken := by
  obtain ⟨hreq, req', params, result, hminted, hrest⟩ := h
  exact ⟨requests_concat hreq, req', params, result, mem_shown_concat hminted, hrest⟩

private theorem StoredFor.concat {h : η} {k : String} {entry : CacheEntry}
    (hs : StoredFor deps es h k entry) : StoredFor deps (es ++ [e]) h k entry := by
  obtain ⟨httl, req, params, result, key, hminted, hrest⟩ := hs
  exact ⟨httl, req, params, result, key, mem_shown_concat hminted, hrest⟩

omit [DecidableEq η] in
private theorem PhaseSound.concat {p : Phase ρ} (h : PhaseSound deps es p) :
    PhaseSound deps (es ++ [e]) p := by
  cases p with
  | notStarted => trivial
  | preparing req => exact requests_concat h
  | exchanging req params => exact ⟨requests_concat h.1, h.2⟩
  | finished => trivial

private theorem ObservationSound.concat {o : Observation ρ} (h : ObservationSound deps es o) :
    ObservationSound deps (es ++ [e]) o := by
  cases o with
  | minted req params result => exact ⟨requests_concat h.1, h.2⟩
  | recorded req accessToken now => exact ⟨h.1, h.2.concat⟩
  | returned req accessToken => exact Origin.concat h
  | refused e => trivial

end History

section Parts

variable {call : ObtainCall η σ} {s : ObtainState η σ ρ}

omit [DecidableEq η] in
/-- An exchange asks for what the call says. -/
theorem exchangeParams_ok {p : Preparation} {params : ExchangeTokenParams}
    (h : call.exchangeParams p = .ok params) : ParamsOf call params := by
  unfold ObtainCall.exchangeParams at h
  split at h
  · split at h
    · cases hendpoint : call.tokenEndpoint.elim p.authorizationServer .ok with
      | error e =>
        rw [hendpoint] at h
        cases h
      | ok endpoint =>
        rw [hendpoint] at h
        cases h
        exact ⟨rfl, rfl, rfl, rfl⟩
    · cases hidentity : p.identity with
      | error e =>
        rw [hidentity] at h
        cases h
      | ok kid =>
        cases hendpoint : call.tokenEndpoint.elim p.authorizationServer .ok with
        | error e =>
          rw [hidentity, hendpoint] at h
          cases h
        | ok endpoint =>
          rw [hidentity, hendpoint] at h
          cases h
          exact ⟨rfl, rfl, rfl, rfl⟩
  · cases h

/-- A call that is served from the cache has a key, does not bypass it, and reads an entry. -/
theorem lookup_hit {now : Int} {value : CacheValue} (h : (s.lookup call now).2 = some value) :
    ∃ key entry, call.key = some key ∧ call.bypassCache = false ∧
      InsertionMap.get? (s.cache call.helper) (keyOf key) = some entry ∧
      entry.toCacheValue = value := by
  unfold ObtainState.lookup at h
  split at h
  · cases h
  · next key hkey =>
    simp only at h
    split at h
    · obtain ⟨entry, hentry, -⟩ := TokenExchangeCache.exists_entry_of_get h
      rw [TokenExchangeCache.invalidate, InsertionMap.get?_erase_self] at hentry
      cases hentry
    · next hserved =>
      obtain ⟨entry, hentry, hvalue⟩ := TokenExchangeCache.exists_entry_of_get h
      exact ⟨key, entry, hkey, eq_false_of_ne_true hserved, hentry, hvalue⟩

/-- A lookup leaves the slots and the calls alone. -/
theorem lookup_last (now : Int) : (s.lookup call now).1.last = s.last := by
  unfold ObtainState.lookup
  split <;> rfl

/-- A lookup leaves the calls alone. -/
theorem lookup_phase (now : Int) : (s.lookup call now).1.phase = s.phase := by
  unfold ObtainState.lookup
  split <;> rfl

/-- Dropping a token leaves the slots alone. -/
theorem invalidate_last : (s.invalidate call).last = s.last := by
  unfold ObtainState.invalidate
  split <;> rfl

/-- Dropping a token leaves the calls alone. -/
theorem invalidate_phase : (s.invalidate call).phase = s.phase := by
  unfold ObtainState.invalidate
  split <;> rfl

/-- Storing leaves the slots alone. -/
theorem store_last (result : ExchangeTokenResult) (ttlMs : Nat) (now : Int) :
    (s.store call result ttlMs now).last = s.last := by
  unfold ObtainState.store
  split <;> rfl

/-- Storing leaves the calls alone. -/
theorem store_phase (result : ExchangeTokenResult) (ttlMs : Nat) (now : Int) :
    (s.store call result ttlMs now).phase = s.phase := by
  unfold ObtainState.store
  split <;> rfl

private theorem forall_update {P : η → String → CacheEntry → Prop}
    {cache : η → TokenExchangeCache} {h : η} {own : TokenExchangeCache}
    (hcache : ∀ h, InsertionMap.Forall (P h) (cache h)) (hown : InsertionMap.Forall (P h) own)
    (a : η) : InsertionMap.Forall (P a) (Function.update cache h own a) := by
  by_cases ha : a = h
  · subst ha
    rw [Function.update_self]
    exact hown
  · rw [Function.update_of_ne ha]
    exact hcache a

/-- A lookup keeps an invariant of the cache entries. -/
theorem forall_lookup {P : η → String → CacheEntry → Prop}
    (hcache : ∀ h, InsertionMap.Forall (P h) (s.cache h)) (now : Int) (h : η) :
    InsertionMap.Forall (P h) ((s.lookup call now).1.cache h) := by
  unfold ObtainState.lookup
  split
  · exact hcache h
  · next key _ =>
    apply forall_update hcache
    apply TokenExchangeCache.forall_get
    split
    · exact (hcache _).erase _
    · exact hcache _

/-- Dropping a token keeps an invariant of the cache entries. -/
theorem forall_invalidate {P : η → String → CacheEntry → Prop}
    (hcache : ∀ h, InsertionMap.Forall (P h) (s.cache h)) (h : η) :
    InsertionMap.Forall (P h) ((s.invalidate call).cache h) := by
  unfold ObtainState.invalidate
  split
  · exact hcache h
  · next key _ =>
    apply forall_update hcache
    exact (hcache _).erase _

/-- Storing keeps an invariant of the cache entries that the new entry has. -/
theorem forall_store {P : η → String → CacheEntry → Prop} {result : ExchangeTokenResult}
    {ttlMs : Nat} {now : Int} (hcache : ∀ h, InsertionMap.Forall (P h) (s.cache h))
    (hentry : ∀ key entry, call.key = some key → 0 < ttlMs →
      entry.accessToken = result.accessToken → P call.helper (keyOf key) entry) (h : η) :
    InsertionMap.Forall (P h) ((s.store call result ttlMs now).cache h) := by
  unfold ObtainState.store
  split
  · exact hcache h
  · next key hkey =>
    apply forall_update hcache
    apply TokenExchangeCache.forall_set (hcache _)
    intro httl
    exact hentry key _ hkey (Nat.cast_pos.mp httl) rfl

end Parts

section Slots

private theorem lastRecorded_append (obs new : List (Observation ρ)) (h : η) :
    lastRecorded deps (obs ++ new) h = (lastRecorded deps new h).or (lastRecorded deps obs h) := by
  rw [lastRecorded, List.reverse_append, List.findSome?_append]
  rfl

/-- What was recorded last was recorded, for that helper. -/
theorem mem_of_lastRecorded {obs : List (Observation ρ)} {h : η} {req : ρ} {accessToken : String}
    {now : Int} (hlast : lastRecorded deps obs h = some (req, accessToken, now)) :
    .recorded req accessToken now ∈ obs ∧ (deps.callOf req).helper = h := by
  obtain ⟨o, ho, hsome⟩ := List.exists_of_findSome?_eq_some hlast
  rw [List.mem_reverse] at ho
  cases o with
  | recorded req' accessToken' now' =>
    simp only at hsome
    split at hsome
    · next hhelper =>
      cases hsome
      exact ⟨ho, hhelper⟩
    · cases hsome
  | minted req' params result => cases hsome
  | returned req' accessToken' => cases hsome
  | refused e => cases hsome

private theorem lastSlot_append_of_none {obs new : List (Observation ρ)} {h : η}
    (hnew : lastRecorded deps new h = none) :
    lastSlot deps (obs ++ new) h = lastSlot deps obs h := by
  rw [lastSlot, lastRecorded_append, hnew, Option.none_or, lastSlot]

end Slots

/-- The slots, the calls and the observations after a call has finished. -/
private theorem finish_spec {s : ObtainState η σ ρ} {obs before : List (Observation ρ)} {c : Nat}
    {req : ρ} {accessToken : String} {now : Int}
    (hlast : ∀ h, s.last h = lastSlot deps obs h) (hbefore : ∀ h, lastRecorded deps before h = none)
    (h : η) :
    (s.finish deps c req accessToken now).1.last h =
      lastSlot deps (obs ++ (before ++ (s.finish deps c req accessToken now).2)) h := by
  unfold ObtainState.finish
  split
  · next hslot =>
    have hnew : lastRecorded deps (before ++ [.returned req accessToken]) h = none := by
      rw [lastRecorded_append, hbefore]
      rfl
    rw [lastSlot_append_of_none hnew]
    exact hlast h
  · next slot hslot =>
    by_cases hh : h = (deps.callOf req).helper
    · subst hh
      rw [lastSlot, lastRecorded_append, lastRecorded_append]
      simp [lastRecorded, hslot]
    · have hnew : lastRecorded deps
          (before ++ [Observation.recorded req accessToken now, .returned req accessToken]) h =
            none := by
        rw [lastRecorded_append, hbefore]
        simp [lastRecorded, Ne.symm hh]
      rw [lastSlot_append_of_none hnew]
      simp only [Function.update_of_ne hh]
      exact hlast h

private theorem mem_finish {s : ObtainState η σ ρ} {c : Nat} {req : ρ} {accessToken : String}
    {now : Int} {o : Observation ρ} (h : o ∈ (s.finish deps c req accessToken now).2) :
    (o = .recorded req accessToken now ∧ (deps.callOf req).slot.isSome) ∨
      o = .returned req accessToken := by
  unfold ObtainState.finish at h
  split at h
  · exact Or.inr (List.mem_singleton.mp h)
  · next slot hslot =>
    rw [List.mem_cons, List.mem_singleton] at h
    rcases h with rfl | rfl
    · exact Or.inl ⟨rfl, by rw [hslot]; rfl⟩
    · exact Or.inr rfl

/-- Finishing leaves the caches alone. -/
theorem finish_cache {s : ObtainState η σ ρ} {c : Nat} {req : ρ} {accessToken : String}
    {now : Int} : (s.finish deps c req accessToken now).1.cache = s.cache := by
  unfold ObtainState.finish
  split <;> rfl

/-- A finished call is finished. -/
theorem finish_phase {s : ObtainState η σ ρ} {c : Nat} {req : ρ} {accessToken : String}
    {now : Int} :
    (s.finish deps c req accessToken now).1.phase = Function.update s.phase c .finished := by
  unfold ObtainState.finish
  split <;> rfl

private theorem phase_update {P : Phase ρ → Prop} {phase : Nat → Phase ρ} {c : Nat} {p : Phase ρ}
    (hphase : ∀ c, P (phase c)) (hp : P p) (d : Nat) : P (Function.update phase c p d) := by
  by_cases hd : d = c
  · subst hd
    rw [Function.update_self]
    exact hp
  · rw [Function.update_of_ne hd]
    exact hphase d

section Step

variable {s : ObtainState η σ ρ} {out : ObtainState η σ ρ × List (Observation ρ)} {c : Nat}
  {event : ObtainEvent ρ}

private theorem Sound.concat {s' : ObtainState η σ ρ} {new : List (Observation ρ)}
    (h : Sound deps es s) (hshown : Agents.shown deps (es ++ [e]) = Agents.shown deps es ++ new)
    (hcache : ∀ h, InsertionMap.Forall (StoredFor deps (es ++ [e]) h) (s'.cache h))
    (hphase : ∀ c, PhaseSound deps (es ++ [e]) (s'.phase c))
    (hlast : ∀ h, s'.last h = lastSlot deps (Agents.shown deps es ++ new) h)
    (hnew : ∀ o ∈ new, ObservationSound deps (es ++ [e]) o) : Sound deps (es ++ [e]) s' := by
  refine ⟨hcache, hphase, ?_, ?_⟩
  · intro a
    rw [hshown]
    exact hlast a
  · intro o ho
    rw [hshown, List.mem_append] at ho
    rcases ho with hold | hadded
    · exact (h.shown o hold).concat
    · exact hnew o hadded

private theorem Sound.cache_concat (h : Sound deps es s) (a : η) :
    InsertionMap.Forall (StoredFor deps (es ++ [e]) a) (s.cache a) :=
  (h.cache a).imp fun _ _ hs ↦ hs.concat

private theorem Sound.phase_concat (h : Sound deps es s) (c : Nat) :
    PhaseSound deps (es ++ [e]) (s.phase c) :=
  (h.phase c).concat

private theorem origin_of_hit {req : ρ} {now : Int} {value : CacheValue} (h : Sound deps es s)
    (hget : (s.lookup (deps.callOf req) now).2 = some value) :
    Origin deps (es ++ [(c, ObtainEvent.start req now)]) req value.accessToken := by
  obtain ⟨key, entry, hkey, hserved, hentry, rfl⟩ := lookup_hit hget
  obtain ⟨httl, req', params, result, key', hminted, hhelper, hkey', hsame, htoken⟩ :=
    (h.cache _).of_get? hentry
  refine ⟨mem_requests_start es c req now, req', params, result, mem_shown_concat hminted, htoken,
    Or.inr ⟨httl, hhelper, ?_, ?_, hserved⟩⟩
  · rw [hkey, hkey', Option.map_some, Option.map_some, hsame]
  · rw [hkey]
    rfl

/-- A stretch that shows nothing and records nothing keeps it where the entries and the calls do. -/
private theorem Sound.quiet {s' : ObtainState η σ ρ} (h : Sound deps es s)
    (hshown : Agents.shown deps (es ++ [e]) = Agents.shown deps es ++ [])
    (hcache : ∀ a, InsertionMap.Forall (StoredFor deps (es ++ [e]) a) (s'.cache a))
    (hphase : ∀ d, PhaseSound deps (es ++ [e]) (s'.phase d)) (hlast : s'.last = s.last) :
    Sound deps (es ++ [e]) s' := by
  apply h.concat hshown hcache hphase
  · intro a
    rw [List.append_nil, hlast]
    exact h.last a
  · intro o ho
    cases ho

/-- A call that is served from the cache keeps the invariant. -/
private theorem Sound.hit {req : ρ} {now : Int} {value : CacheValue} (h : Sound deps es s)
    (hget : (s.lookup (deps.callOf req) now).2 = some value)
    (hshown : Agents.shown deps (es ++ [(c, .start req now)]) = Agents.shown deps es ++
      ((s.lookup (deps.callOf req) now).1.finish deps c req value.accessToken now).2) :
    Sound deps (es ++ [(c, .start req now)])
      ((s.lookup (deps.callOf req) now).1.finish deps c req value.accessToken now).1 := by
  have horigin := origin_of_hit (c := c) h hget
  have hnil : ∀ a, lastRecorded deps ([] : List (Observation ρ)) a = none := fun _ ↦ rfl
  apply h.concat hshown
  · intro a
    rw [finish_cache]
    exact forall_lookup h.cache_concat now a
  · intro d
    rw [finish_phase, lookup_phase]
    apply phase_update h.phase_concat
    trivial
  · intro a
    exact finish_spec (by rw [lookup_last]; exact h.last) hnil a
  · intro o ho
    rcases mem_finish ho with ⟨rfl, hslot⟩ | rfl
    · exact ⟨hslot, horigin⟩
    · exact horigin

/-- A call that has to exchange keeps it too. -/
private theorem Sound.miss {req : ρ} {now : Int} (h : Sound deps es s)
    (hshown : Agents.shown deps (es ++ [(c, .start req now)]) = Agents.shown deps es ++ []) :
    Sound deps (es ++ [(c, .start req now)])
      ((s.lookup (deps.callOf req) now).1.goto c (.preparing req)) := by
  apply h.quiet hshown
  · intro a
    exact forall_lookup h.cache_concat now a
  · simp only [ObtainState.goto, lookup_phase]
    exact phase_update h.phase_concat (mem_requests_start es c req now)
  · exact lookup_last now

/-- So does one that has its token. -/
private theorem Sound.mint {req : ρ} {params : ExchangeTokenParams} {result : ExchangeTokenResult}
    {now : Int} (h : Sound deps es s) (hphase : s.phase c = .exchanging req params)
    (hshown : Agents.shown deps (es ++ [(c, .exchanged (.ok result) now)]) =
      Agents.shown deps es ++ (.minted req params result ::
        ((s.store (deps.callOf req) result deps.exchangeCacheTtlMs now).finish deps c req
          result.accessToken now).2)) :
    Sound deps (es ++ [(c, .exchanged (.ok result) now)])
      ((s.store (deps.callOf req) result deps.exchangeCacheTtlMs now).finish deps c req
        result.accessToken now).1 := by
  have hreq := h.phase_concat (e := (c, .exchanged (.ok result) now)) c
  rw [hphase] at hreq
  have hminted : .minted req params result ∈
      Agents.shown deps (es ++ [(c, .exchanged (.ok result) now)]) := by
    rw [hshown]
    exact List.mem_append_right _ (List.mem_cons_self ..)
  have horigin : Origin deps (es ++ [(c, .exchanged (.ok result) now)]) req
      result.accessToken :=
    ⟨hreq.1, req, params, result, hminted, rfl, Or.inl rfl⟩
  apply h.concat hshown
  · intro a
    rw [finish_cache]
    apply forall_store h.cache_concat
    intro key entry hkey httl htoken
    exact ⟨httl, req, params, result, key, hminted, rfl, hkey, rfl, htoken.symm⟩
  · intro d
    rw [finish_phase, store_phase]
    apply phase_update h.phase_concat
    trivial
  · intro a
    have hminted : ∀ a, lastRecorded deps [.minted req params result] a = none := fun _ ↦ rfl
    exact finish_spec (by rw [store_last]; exact h.last) hminted a
  · intro o ho
    rcases List.mem_cons.mp ho with rfl | ho
    · exact hreq
    · rcases mem_finish ho with ⟨rfl, hslot⟩ | rfl
      · exact ⟨hslot, horigin⟩
      · exact horigin

/-- A stretch of a call keeps the invariant. -/
private theorem Sound.step (h : Sound deps es s) (hmoves : Moves deps s c event out)
    (hshown : Agents.shown deps (es ++ [(c, event)]) = Agents.shown deps es ++ out.2) :
    Sound deps (es ++ [(c, event)]) out.1 := by
  cases hmoves with
  | idle _ => exact h.quiet hshown h.cache_concat h.phase_concat rfl
  | refuse _ =>
    apply h.concat hshown
    · exact h.cache_concat
    · apply phase_update h.phase_concat
      trivial
    · intro a
      rw [lastSlot_append_of_none rfl]
      exact h.last a
    · intro o ho
      rw [List.mem_singleton] at ho
      subst ho
      trivial
  | hit _ hget => exact h.hit hget hshown
  | miss req now _ => exact h.miss hshown
  | @prepare req p params hphase hparams =>
    have hreq := h.phase_concat (e := (c, .prepared p)) c
    rw [hphase] at hreq
    exact h.quiet hshown h.cache_concat
      (phase_update h.phase_concat ⟨hreq, exchangeParams_ok hparams⟩) rfl
  | mint hphase => exact h.mint hphase hshown
  | drop req =>
    apply h.quiet hshown (forall_invalidate h.cache_concat) _ invalidate_last
    rw [invalidate_phase]
    exact h.phase_concat

end Step

/-- After every run the invariant holds. -/
theorem sound_run (deps : ObtainDeps η σ ρ) (es : List (Nat × ObtainEvent ρ)) :
    Sound deps es ((obtaining deps).run es) := by
  apply (obtaining deps).run_induction (P := Sound deps)
  · refine ⟨fun _ ↦ InsertionMap.forall_empty _, fun _ ↦ trivial, fun _ ↦ rfl, ?_⟩
    intro o ho
    cases ho
  · intro es e h
    exact h.step (obtainStep_moves deps ((obtaining deps).run es) e.1 e.2) shown_concat

/-- Whatever a run shows is accounted for by the run. -/
theorem observationSound_of_shown {o : Observation ρ} (h : o ∈ shown deps es) :
    ObservationSound deps es o :=
  (sound_run deps es).shown o h

/-- A slot holds what was recorded last for its helper. -/
theorem last_run (deps : ObtainDeps η σ ρ) (es : List (Nat × ObtainEvent ρ)) (h : η) :
    ((obtaining deps).run es).last h = lastSlot deps (shown deps es) h :=
  (sound_run deps es).last h

/-- What a slot holds was recorded by a request of the run, and its token has an origin. -/
theorem recorded_of_last {h : η} {held : σ}
    (hlast : ((obtaining deps).run es).last h = some held) :
    ∃ req accessToken now slot, lastRecorded deps (shown deps es) h = some (req, accessToken, now) ∧
      (deps.callOf req).helper = h ∧ (deps.callOf req).slot = some slot ∧
      held = slot accessToken now ∧ Origin deps es req accessToken := by
  rw [last_run, lastSlot] at hlast
  obtain ⟨⟨req, accessToken, now⟩, hrecorded, hslot⟩ := Option.bind_eq_some_iff.mp hlast
  obtain ⟨slot, hslot, hheld⟩ := Option.map_eq_some_iff.mp hslot
  obtain ⟨hmem, hhelper⟩ := mem_of_lastRecorded hrecorded
  exact ⟨req, accessToken, now, slot, hrecorded, hhelper, hslot, hheld.symm,
    (observationSound_of_shown hmem).2⟩

/-- What was recorded last is what the slot holds. -/
theorem last_of_lastRecorded {h : η} {req : ρ} {accessToken : String} {now : Int}
    (hrecorded : lastRecorded deps (shown deps es) h = some (req, accessToken, now)) :
    ∃ slot, (deps.callOf req).slot = some slot ∧
      ((obtaining deps).run es).last h = some (slot accessToken now) := by
  have hmem := (mem_of_lastRecorded hrecorded).1
  obtain ⟨slot, hslot⟩ := Option.isSome_iff_exists.mp (observationSound_of_shown hmem).1
  refine ⟨slot, hslot, ?_⟩
  rw [last_run, lastSlot, hrecorded, Option.bind_some, hslot, Option.map_some]

section Sharing

/-- What a call that finishes shows. -/
def finishShown (deps : ObtainDeps η σ ρ) (req : ρ) (accessToken : String) (now : Int) :
    List (Observation ρ) :=
  match (deps.callOf req).slot with
  | none => [.returned req accessToken]
  | some _ => [.recorded req accessToken now, .returned req accessToken]

private theorem finish_snd (s : ObtainState η σ ρ) (c : Nat) (req : ρ) (accessToken : String)
    (now : Int) :
    (s.finish deps c req accessToken now).2 = finishShown deps req accessToken now := by
  unfold ObtainState.finish finishShown
  cases (deps.callOf req).slot <;> rfl

private theorem lookup_of_empty {s : ObtainState η σ ρ} {call : ObtainCall η σ} {now : Int}
    (h : s.cache call.helper = .empty) : (s.lookup call now).2 = none := by
  cases hlookup : (s.lookup call now).2 with
  | none => rfl
  | some value =>
    obtain ⟨key, entry, -, -, hentry, -⟩ := lookup_hit hlookup
    rw [h, InsertionMap.get?_empty] at hentry
    cases hentry

private theorem lookup_of_store {s : ObtainState η σ ρ} {earlier later : ObtainCall η σ}
    {result : ExchangeTokenResult} {ttlMs : Nat} {now : Int} (httl : 0 < ttlMs)
    (h : SharesEntry earlier later) :
    ((s.store earlier result ttlMs now).lookup later now).2 =
      some ⟨result.accessToken, result.expiresInSec, result.scope⟩ := by
  obtain ⟨key', hkey'⟩ := Option.isSome_iff_exists.mp h.cached
  obtain ⟨key, hkey, htext⟩ := Option.map_eq_some_iff.mp (h.key.trans (congrArg _ hkey'))
  simp only [ObtainState.lookup, ObtainState.store, hkey, hkey', h.served, h.helper,
    Function.update_self]
  exact TokenExchangeCache.get_set (Nat.cast_pos.mpr httl) htext

section Equations

variable {s : ObtainState η σ ρ} {c : Nat} {req : ρ} {now : Int}

private theorem obtainStep_miss (hphase : s.phase c = .notStarted)
    (hmiss : (s.lookup (deps.callOf req) now).2 = none) :
    obtainStep deps s c (.start req now) =
      ((s.lookup (deps.callOf req) now).1.goto c (.preparing req), []) := by
  unfold obtainStep
  simp only [hphase]
  split
  · next s' value hlookup =>
    rw [hlookup] at hmiss
    cases hmiss
  · next s' hlookup => rw [hlookup]

private theorem obtainStep_hit {value : CacheValue} (hphase : s.phase c = .notStarted)
    (hhit : (s.lookup (deps.callOf req) now).2 = some value) :
    obtainStep deps s c (.start req now) =
      (s.lookup (deps.callOf req) now).1.finish deps c req value.accessToken now := by
  unfold obtainStep
  simp only [hphase]
  split
  · next s' value' hlookup =>
    rw [hlookup] at hhit
    cases hhit
    rw [hlookup]
  · next s' hlookup =>
    rw [hlookup] at hhit
    cases hhit

private theorem obtainStep_prepared {p : Preparation} {params : ExchangeTokenParams}
    (hphase : s.phase c = .preparing req)
    (hparams : (deps.callOf req).exchangeParams p = .ok params) :
    obtainStep deps s c (.prepared p) = (s.goto c (.exchanging req params), []) := by
  unfold obtainStep
  simp only [hphase, hparams]

private theorem obtainStep_exchanged {params : ExchangeTokenParams} {result : ExchangeTokenResult}
    (hphase : s.phase c = .exchanging req params) :
    obtainStep deps s c (.exchanged (.ok result) now) =
      (((s.store (deps.callOf req) result deps.exchangeCacheTtlMs now).finish deps c req
          result.accessToken now).1,
        .minted req params result ::
          ((s.store (deps.callOf req) result deps.exchangeCacheTtlMs now).finish deps c req
            result.accessToken now).2) := by
  unfold obtainStep
  simp only [hphase]

end Equations

/-- One request is exchanged and a second one follows at once. -/
def twoRequests (a b : ρ) (p : Preparation) (result : ExchangeTokenResult) :
    List (Nat × ObtainEvent ρ) :=
  [(0, ObtainEvent.start a 0)] ++ [(0, ObtainEvent.prepared p)] ++
    [(0, ObtainEvent.exchanged (.ok result) 0)] ++ [(1, ObtainEvent.start b 0)]

/-- A request that shares the entry of the one just exchanged is answered with its token. -/
theorem shown_twoRequests {a b : ρ} {p : Preparation} {params : ExchangeTokenParams}
    (result : ExchangeTokenResult) (httl : 0 < deps.exchangeCacheTtlMs)
    (hshares : SharesEntry (deps.callOf a) (deps.callOf b))
    (hparams : (deps.callOf a).exchangeParams p = .ok params) :
    shown deps (twoRequests a b p result) =
      .minted a params result ::
        (finishShown deps a result.accessToken 0 ++ finishShown deps b result.accessToken 0) := by
  let s₀ : ObtainState η σ ρ := (obtaining deps).init
  let s₁ := (s₀.lookup (deps.callOf a) 0).1.goto 0 (.preparing a)
  let s₂ := s₁.goto 0 (.exchanging a params)
  let s₃ := ((s₂.store (deps.callOf a) result deps.exchangeCacheTtlMs 0).finish deps 0 a
    result.accessToken 0).1
  have h₁ : obtainStep deps s₀ 0 (.start a 0) = (s₁, []) :=
    obtainStep_miss rfl (lookup_of_empty rfl)
  have h₂ : obtainStep deps s₁ 0 (.prepared p) = (s₂, []) :=
    obtainStep_prepared (ObtainState.goto_phase_self ..) hparams
  have h₃ : obtainStep deps s₂ 0 (.exchanged (.ok result) 0) =
      (s₃, .minted a params result :: finishShown deps a result.accessToken 0) := by
    rw [obtainStep_exchanged (ObtainState.goto_phase_self ..), finish_snd]
  have hidle : s₃.phase 1 = .notStarted := by
    simp only [s₃, s₂, s₁, finish_phase, store_phase, ObtainState.goto, lookup_phase]
    rfl
  have hhit : (s₃.lookup (deps.callOf b) 0).2 =
      some ⟨result.accessToken, result.expiresInSec, result.scope⟩ := by
    rw [← lookup_of_store (s := s₂) httl hshares]
    simp only [ObtainState.lookup, s₃, finish_cache]
    cases (deps.callOf b).key <;> rfl
  have h₄ := obtainStep_hit hidle hhit
  have hrun₁ : (obtaining deps).run [(0, .start a 0)] = s₁ := congrArg Prod.fst h₁
  have hrun₂ : (obtaining deps).run ([(0, .start a 0)] ++ [(0, .prepared p)]) = s₂ := by
    rw [Machine.run_concat, hrun₁]
    exact congrArg Prod.fst h₂
  have hrun₃ : (obtaining deps).run ([(0, .start a 0)] ++ [(0, .prepared p)] ++
      [(0, .exchanged (.ok result) 0)]) = s₃ := by
    rw [Machine.run_concat, hrun₂]
    show (obtainStep deps s₂ 0 (.exchanged (.ok result) 0)).1 = s₃
    rw [h₃]
  have ha₁ : shown deps [(0, .start a 0)] = [] := by
    rw [← List.nil_append [(0, ObtainEvent.start a 0)], shown_concat]
    exact congrArg Prod.snd h₁
  have ha₂ : (obtaining deps).answer [(0, .start a 0)] (0, .prepared p) = [] := by
    rw [Machine.answer, hrun₁]
    exact congrArg Prod.snd h₂
  have ha₃ : (obtaining deps).answer ([(0, .start a 0)] ++ [(0, .prepared p)])
      (0, .exchanged (.ok result) 0) =
        .minted a params result :: finishShown deps a result.accessToken 0 := by
    rw [Machine.answer, hrun₂]
    exact congrArg Prod.snd h₃
  have ha₄ : (obtaining deps).answer ([(0, .start a 0)] ++ [(0, .prepared p)] ++
      [(0, .exchanged (.ok result) 0)]) (1, .start b 0) =
        finishShown deps b result.accessToken 0 := by
    rw [Machine.answer, hrun₃]
    exact (congrArg Prod.snd h₄).trans (finish_snd ..)
  rw [twoRequests, shown_concat, shown_concat, shown_concat, ha₁, ha₂, ha₃, ha₄]
  simp

omit [DecidableEq η] in
/-- A finished call records at most itself and returns its token. -/
theorem mem_finishShown {o : Observation ρ} {req : ρ} {accessToken : String} {now : Int} :
    o ∈ finishShown deps req accessToken now →
      o = .recorded req accessToken now ∨ o = .returned req accessToken := by
  unfold finishShown
  intro h
  split at h
  · exact Or.inr (List.mem_singleton.mp h)
  · rw [List.mem_cons, List.mem_singleton] at h
    exact h

omit [DecidableEq η] in
/-- A finished call returns its token. -/
theorem returned_mem_finishShown (deps : ObtainDeps η σ ρ) (req : ρ) (accessToken : String)
    (now : Int) : .returned req accessToken ∈ finishShown deps req accessToken now := by
  unfold finishShown
  split <;> simp

end Sharing
end AgentsAuth.Agents
