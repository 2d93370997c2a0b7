import AgentsAuth.Copilot.Exchanges
import AgentsAuth.Runtime.Discovery

/-!
# The authorization providers of agent-copilot

`createMcpAuthProvider` of `packages/agent-runtime/src/mcp-oauth-client.ts` around the exchange of
`apps/agent-copilot/src/mcp-auth.ts`: the providers of all requests, in one process with the
discovery cache, the metadata cache and the exchange caches. A call of a provider suspends while
it reads metadata documents, while it prepares its exchange and while it exchanges; whatever
happens between two such points is one stretch, and the stretches of all calls interleave.
-/

namespace AgentsAuth.Copilot.Recovery

open AgentsAuth.Agents AgentsAuth.AuthCurity AgentsAuth.Base AgentsAuth.Lib AgentsAuth.Runtime

/-- The process: its configuration, and the request that each provider belongs to. -/
structure RecoveryDeps where
  sdk : Sdk
  cfg : Config
  decodeJwt : String → Option Claims
  mcpDiscoveryTtlMs : Option Int
  optsOf : Nat → ObtainOpts

/-- The options of `buildInspectAuthProvider`: `apps/agent-copilot/src/mcp-auth.ts:16–25`. -/
def RecoveryDeps.provider (deps : RecoveryDeps) : ProviderOpts :=
  ⟨deps.cfg.mcpInspectUrl, some [deps.cfg.curityIssuer], deps.mcpDiscoveryTtlMs⟩

/-- `o.force` of the call: `mcp-oauth-client.ts:379–397`. -/
def forced : ProviderOp → Bool
  | .onUnauthorized _ => true
  | _ => false

/-- `o.challenge` of the call. -/
def received : ProviderOp → Option Challenge
  | .onUnauthorized challenge => some challenge
  | _ => none

/-- The call of `discoverMcpAuthorization` for a call of a provider. -/
def RecoveryDeps.discovery (deps : RecoveryDeps) (op : ProviderOp) : DiscoverCall :=
  deps.provider.call (forced op) (received op)

/-- The call of `obtainMcpToken` for a discovery: `mcp-auth.ts:26–37`. -/
def RecoveryDeps.exchangeFor (deps : RecoveryDeps) (p : Nat) (op : ProviderOp)
    (d : McpAuthDiscovery) : CopilotRequest :=
  .inspect (deps.optsOf p) d.tokenEndpoint d.scope (forced op)

/-- The 401 asks for more authentication of the user. -/
def AsksForStepUp (challenge : Challenge) : Prop :=
  challenge.error = some "insufficient_user_authentication"

instance (challenge : Challenge) : Decidable (AsksForStepUp challenge) :=
  inferInstanceAs (Decidable (_ = _))

/-- The error that such a 401 ends in: `mcp-oauth-client.ts:389–392`. -/
def stepUpRequired (challenge : Challenge) : Thrown :=
  .curityAuth ⟨"step-up required: " ++ challenge.wwwAuthenticate, .stepUpRequired⟩

/-- Where a call stands; a call of another exchange helper is a `helper`. -/
inductive CallPhase where
  | idle
  | locating (p : Nat) (op : ProviderOp)
  | resolving (p : Nat) (op : ProviderOp) (loc : Located)
  | exchanging (p : Nat) (op : ProviderOp)
  | helper
  | finished

/-- The module variables of the process, the variables of its providers and its calls. -/
structure RecoveryState where
  caches : Caches
  exchanges : ObtainState Helper ExchangeSlot CopilotRequest
  discovery : Nat → Option McpAuthDiscovery
  token : Nat → Option String
  phase : Nat → CallPhase

/-- What lets a call go on, with the clock values that it reads; `now` is the one of the exchange
cache. The metadata cache is also filled by other hops of the process. -/
inductive RecoveryEvent where
  | start (p : Nat) (op : ProviderOp) (clock : Clock) (now : Int)
  | located (net : Network) (clock : Clock) (now : Int)
  | resolved (fetch : String → Except String (Option Json)) (clock : Clock) (now : Int)
  | prepared (preparation : Preparation)
  | exchanged (answer : Except Thrown ExchangeTokenResult) (now : Int)
  | helper (event : ObtainEvent CopilotRequest)
  | learnt (issuer : String) (entry : MetadataEntry)

/-- What a stretch of the call `c` does. -/
inductive RecoveryObservation where
  | began (c p : Nat) (op : ProviderOp)
  | discovered (c : Nat) (d : McpAuthDiscovery)
  | sent (c : Nat) (params : ExchangeTokenParams)
  | exchange (c : Nat) (o : Observation CopilotRequest)
  | resolved (c : Nat) (token : Option String)
  | thrown (c : Nat) (e : Thrown)

namespace RecoveryState

/-- The call `c` moves on to `phase`. -/
def goto (s : RecoveryState) (c : Nat) (phase : CallPhase) : RecoveryState :=
  { s with phase := Function.update s.phase c phase }

/-- A call is where it has moved on to. -/
@[simp] theorem goto_phase_self (s : RecoveryState) (c : Nat) (phase : CallPhase) :
    (s.goto c phase).phase c = phase :=
  Function.update_self ..

end RecoveryState

/-- A stretch of the exchange helper that the call `c` is in. -/
def helperStep (deps : RecoveryDeps) (s : RecoveryState) (c : Nat)
    (event : ObtainEvent CopilotRequest) :
    ObtainState Helper ExchangeSlot CopilotRequest × List (Observation CopilotRequest) :=
  obtainStep (copilot deps.cfg deps.decodeJwt) s.exchanges c event

/-- How a stretch of an exchange helper ends the helper, if it does. -/
def outcome : List (Observation CopilotRequest) → Option (Except Thrown String)
  | [] => none
  | .returned _ token :: _ => some (.ok token)
  | .refused e :: _ => some (.error e)
  | _ :: rest => outcome rest

/-- A stretch of the exchange of a provider: `mcp-oauth-client.ts:375–376`. -/
def settle (s : RecoveryState) (c p : Nat) (op : ProviderOp)
    (out : ObtainState Helper ExchangeSlot CopilotRequest × List (Observation CopilotRequest)) :
    RecoveryState × List RecoveryObservation :=
  let s := { s with exchanges := out.1 }
  let done := out.2.map (.exchange c)
  match outcome out.2 with
  | none => (s.goto c (.exchanging p op), done)
  | some (.error e) => (s.goto c .finished, done ++ [.thrown c e])
  | some (.ok token) =>
    ({ s.goto c .finished with token := Function.update s.token p (some token) },
      done ++ [.resolved c (some token)])

/-- `opts.exchange` is called. -/
def exchange (deps : RecoveryDeps) (s : RecoveryState) (c p : Nat) (op : ProviderOp)
    (d : McpAuthDiscovery) (now : Int) : RecoveryState × List RecoveryObservation :=
  settle s c p op (helperStep deps s c (.start (deps.exchangeFor p op d) now))

/-- A provider has discovered its server: `mcp-oauth-client.ts:337–348,374–376`. -/
def discovered (deps : RecoveryDeps) (s : RecoveryState) (c p : Nat) (op : ProviderOp)
    (d : McpAuthDiscovery) (now : Int) : RecoveryState × List RecoveryObservation :=
  let s := { s with discovery := Function.update s.discovery p (some d) }
  match op with
  | .discover => (s.goto c .finished, [.resolved c none])
  | _ => exchange deps s c p op d now

/-- The end of an uncached discovery: `mcp-oauth-client.ts:239–263`. -/
def conclude (deps : RecoveryDeps) (s : RecoveryState) (c p : Nat) (op : ProviderOp)
    (loc : Located) (server : ResolvedAuthorizationServer) (clock : Clock) (now : Int) :
    RecoveryState × List RecoveryObservation :=
  let key := normalizeUrl deps.provider.serverUrl
  match selectScope key loc with
  | .error e => (s.goto c .finished, [.thrown c e])
  | .ok (scope, scopeSource) =>
    let d : McpAuthDiscovery :=
      ⟨key, loc.prmUrl, loc.prm, loc.authorizationServer, server.metadata, server.tokenEndpoint,
        scope, scopeSource, clock.discoveredAt⟩
    let s := { s with caches := { s.caches with discovery := s.caches.discovery.set key d } }
    let (s, done) := discovered deps s c p op d now
    (s, .discovered c d :: done)

/-- The synchronous part of a call: `mcp-oauth-client.ts:160–163,368–374`. -/
def start (deps : RecoveryDeps) (s : RecoveryState) (c p : Nat) (op : ProviderOp) (clock : Clock)
    (now : Int) : RecoveryState × List RecoveryObservation :=
  match op, s.discovery p with
  | .acquire, some d => exchange deps s c p op d now
  | _, _ =>
    match cachedFor s.caches clock (deps.discovery op) with
    | some d => discovered deps s c p op d now
    | none => (s.goto c (.locating p op), [])

/-- The metadata document has been read: `mcp-oauth-client.ts:165–237` and the synchronous part of
`authorization-server.ts:69–86`. -/
def located (deps : RecoveryDeps) (s : RecoveryState) (c p : Nat) (op : ProviderOp)
    (net : Network) (clock : Clock) (now : Int) : RecoveryState × List RecoveryObservation :=
  match locate deps.sdk net (deps.discovery op) with
  | .error e => (s.goto c .finished, [.thrown c e])
  | .ok loc =>
    let issuer := normalizeUrl loc.authorizationServer
    if !isHttps issuer then
      (s.goto c .finished, [.thrown c (.curityAuth
        ⟨"authorization server " ++ issuer ++ " is not https", .discoveryFailed⟩)])
    else
      match (s.caches.metadata.get? issuer).filter fun hit ↦
          reusable (forced op) (deps.provider.discoveryTtlMs.getD discoveryTtlMs) clock.metadataNow
            hit.fetchedAt with
      | some hit => conclude deps s c p op loc hit.value clock now
      | none => (s.goto c (.resolving p op loc), [])

/-- The metadata of the authorization server has been read: `authorization-server.ts:88–109`. -/
def resolved (deps : RecoveryDeps) (s : RecoveryState) (c p : Nat) (op : ProviderOp)
    (loc : Located) (fetch : String → Except String (Option Json)) (clock : Clock) (now : Int) :
    RecoveryState × List RecoveryObservation :=
  let issuer := normalizeUrl loc.authorizationServer
  match fetchMetadata deps.sdk fetch issuer with
  | .error e => (s.goto c .finished, [.thrown c (.curityAuth e)])
  | .ok value =>
    let metadata := s.caches.metadata.set issuer ⟨value, clock.fetchedAt⟩
    conclude deps { s with caches := { s.caches with metadata := metadata } } c p op loc value
      clock now

/-- The request that the call `c` sends when its exchange has been prepared. -/
def sentBy (before after : RecoveryState) (c : Nat) : List RecoveryObservation :=
  match before.exchanges.phase c, after.exchanges.phase c with
  | .preparing _, .exchanging _ params => [.sent c params]
  | _, _ => []

/-- One stretch of a call. An event that the call is not waiting for does nothing. -/
def recoveryStep (deps : RecoveryDeps) (s : RecoveryState) (c : Nat) (event : RecoveryEvent) :
    RecoveryState × List RecoveryObservation :=
  match s.phase c, event with
  | .idle, .start p op clock now =>
    match (received op).filter (AsksForStepUp ·) with
    | some challenge => (s.goto c .finished, [.began c p op, .thrown c (stepUpRequired challenge)])
    | none =>
      let (s, done) := start deps s c p op clock now
      (s, .began c p op :: done)
  | .locating p op, .located net clock now => located deps s c p op net clock now
  | .resolving p op loc, .resolved fetch clock now => resolved deps s c p op loc fetch clock now
  | .exchanging p op, .prepared preparation =>
    let (s', done) := settle s c p op (helperStep deps s c (.prepared preparation))
    (s', done ++ sentBy s s' c)
  | .exchanging p op, .exchanged answer now =>
    settle s c p op (helperStep deps s c (.exchanged answer now))
  | .idle, .helper event =>
    ({ s.goto c .helper with exchanges := (helperStep deps s c event).1 },
      (helperStep deps s c event).2.map (.exchange c))
  | .helper, .helper event =>
    ({ s.goto c .helper with exchanges := (helperStep deps s c event).1 },
      (helperStep deps s c event).2.map (.exchange c))
  | _, .learnt issuer entry =>
    ({ s with caches := { s.caches with metadata := s.caches.metadata.set issuer entry } }, [])
  | _, _ => (s, [])

/-- The calls of one process, in the order in which their stretches run. -/
def recovering (deps : RecoveryDeps) :
    Machine RecoveryState (Nat × RecoveryEvent) (List RecoveryObservation) where
  init := ⟨⟨.empty, .empty⟩, ⟨fun _ ↦ .empty, fun _ ↦ none, fun _ ↦ .notStarted⟩, fun _ ↦ none,
    fun _ ↦ none, fun _ ↦ .idle⟩
  step s e := recoveryStep deps s e.1 e.2

/-- The call that an observation is about. -/
def RecoveryObservation.call : RecoveryObservation → Nat
  | .began c _ _ => c
  | .discovered c _ => c
  | .sent c _ => c
  | .exchange c _ => c
  | .resolved c _ => c
  | .thrown c _ => c

/-- The call does not answer a 401 that asks for a step-up. -/
def Admitted (op : ProviderOp) : Prop :=
  ∀ challenge, op = .onUnauthorized challenge → ¬ AsksForStepUp challenge

/-- A stretch of the call `c` shows nothing of other calls, leaves them where they are, runs at most
one stretch of its exchange helper, and changes no token but that of the provider `p`, to which it
resolves. -/
structure Local (deps : RecoveryDeps) (s : RecoveryState) (c p : Nat)
    (out : RecoveryState × List RecoveryObservation) : Prop where
  call : ∀ o ∈ out.2, o.call = c
  phase : ∀ c', c' ≠ c → out.1.phase c' = s.phase c'
  exchanges : out.1.exchanges = s.exchanges ∨
    ∃ event, out.1.exchanges = (helperStep deps s c event).1
  token : (∀ t, .resolved c (some t) ∉ out.2) ∧ out.1.token = s.token ∨
    ∃ t, .resolved c (some t) ∈ out.2 ∧ out.1.token = Function.update s.token p (some t)

section Locality

variable {deps : RecoveryDeps} {s s' : RecoveryState} {c p : Nat} {op : ProviderOp}
  {out : RecoveryState × List RecoveryObservation}

/-- Moving on with nothing or with an error is local. -/
private theorem Local.goto (phase : CallPhase) {done : List RecoveryObservation}
    (hdone : ∀ o ∈ done, o.call = c ∧ ∀ t, o ≠ .resolved c (some t)) :
    Local deps s c p (s.goto c phase, done) where
  call o ho := (hdone o ho).1
  phase _ hne := Function.update_of_ne hne ..
  exchanges := Or.inl rfl
  token := Or.inl ⟨fun t ht ↦ (hdone _ ht).2 t rfl, rfl⟩

private theorem Local.thrown (e : Thrown) :
    Local deps s c p (s.goto c .finished, [.thrown c e]) := by
  apply Local.goto
  intro o ho
  rw [List.mem_singleton] at ho
  subst ho
  exact ⟨rfl, fun t h ↦ by cases h⟩

private theorem Local.wait (phase : CallPhase) : Local deps s c p (s.goto c phase, []) := by
  apply Local.goto
  intro o ho
  cases ho

private theorem Local.silent (hphase : s'.phase = s.phase) (hexchanges : s'.exchanges = s.exchanges)
    (htoken : s'.token = s.token) : Local deps s c p (s', []) where
  call o ho := by cases ho
  phase c' _ := congrFun hphase c'
  exchanges := Or.inl hexchanges
  token := Or.inl ⟨fun t ht ↦ List.not_mem_nil ht, htoken⟩

/-- What a stretch does after it has changed the caches is local to what was before. -/
private theorem Local.of_eq (h : Local deps s' c p out) (hphase : s'.phase = s.phase)
    (hexchanges : s'.exchanges = s.exchanges) (htoken : s'.token = s.token) :
    Local deps s c p out where
  call := h.call
  phase := by rw [← hphase]; exact h.phase
  exchanges := by
    rcases h.exchanges with heq | ⟨event, heq⟩
    · exact Or.inl (heq.trans hexchanges)
    · refine Or.inr ⟨event, heq.trans ?_⟩
      rw [helperStep, hexchanges]
      rfl
  token := by rw [← htoken]; exact h.token

/-- A stretch may show more of its call around what it shows, as long as it resolves to nothing. -/
private theorem Local.around (h : Local deps s c p out) (before after : List RecoveryObservation)
    (hmore : ∀ o ∈ before ++ after, o.call = c ∧ ∀ t, o ≠ .resolved c (some t)) :
    Local deps s c p (out.1, before ++ out.2 ++ after) where
  call o ho := by
    rw [List.append_assoc, List.mem_append, List.mem_append] at ho
    rcases ho with hbefore | hmem | hafter
    · exact (hmore o (List.mem_append_left _ hbefore)).1
    · exact h.call o hmem
    · exact (hmore o (List.mem_append_right _ hafter)).1
  phase := h.phase
  exchanges := h.exchanges
  token := by
    rcases h.token with ⟨hnone, heq⟩ | ⟨t, hmem, heq⟩
    · refine Or.inl ⟨fun t ht ↦ ?_, heq⟩
      rw [List.append_assoc, List.mem_append, List.mem_append] at ht
      rcases ht with hbefore | hmem | hafter
      · exact (hmore _ (List.mem_append_left _ hbefore)).2 t rfl
      · exact hnone t hmem
      · exact (hmore _ (List.mem_append_right _ hafter)).2 t rfl
    · exact Or.inr ⟨t, List.mem_append_left _ (List.mem_append_right _ hmem), heq⟩

private theorem Local.cons (o : RecoveryObservation) (h : Local deps s c p out) (ho : o.call = c)
    (hne : ∀ t, o ≠ .resolved c (some t)) : Local deps s c p (out.1, o :: out.2) := by
  have haround := h.around [o] [] (by simpa using ⟨ho, hne⟩)
  rwa [List.append_nil] at haround

private theorem Local.append (h : Local deps s c p out) {more : List RecoveryObservation}
    (hmore : ∀ o ∈ more, o.call = c ∧ ∀ t, o ≠ .resolved c (some t)) :
    Local deps s c p (out.1, out.2 ++ more) :=
  h.around [] more hmore

/-- A stretch of an exchange helper leaves the other calls where they are. -/
private theorem helperStep_phase (event : ObtainEvent CopilotRequest) {c' : Nat} (hne : c' ≠ c) :
    (helperStep deps s c event).1.phase c' = s.exchanges.phase c' := by
  have hmoves := obtainStep_moves (copilot deps.cfg deps.decodeJwt) s.exchanges c event
  change Moves _ _ _ _ (helperStep deps s c event) at hmoves
  generalize helperStep deps s c event = out at hmoves
  cases hmoves with
  | idle _ => rfl
  | refuse _ => exact Function.update_of_ne hne ..
  | hit _ _ =>
    rw [finish_phase, lookup_phase]
    exact Function.update_of_ne hne ..
  | miss req now _ =>
    simp only [ObtainState.goto, lookup_phase]
    exact Function.update_of_ne hne ..
  | prepare _ _ => exact Function.update_of_ne hne ..
  | mint _ =>
    rw [finish_phase, store_phase]
    exact Function.update_of_ne hne ..
  | drop req => rw [invalidate_phase]

/-- The exchanges of the other calls stay where they are. -/
theorem Local.helper (h : Local deps s c p out) {c' : Nat} (hne : c' ≠ c) :
    out.1.exchanges.phase c' = s.exchanges.phase c' := by
  rcases h.exchanges with heq | ⟨event, heq⟩
  · rw [heq]
  · rw [heq]
    exact helperStep_phase event hne

private theorem mem_map_exchange {obs : List (Observation CopilotRequest)}
    {o : RecoveryObservation} (h : o ∈ obs.map (.exchange c)) :
    o.call = c ∧ ∀ t, o ≠ .resolved c (some t) := by
  obtain ⟨o', -, rfl⟩ := List.mem_map.mp h
  exact ⟨rfl, fun t h ↦ by cases h⟩

private theorem Local.settle (event : ObtainEvent CopilotRequest) :
    Local deps s c p (settle s c p op (helperStep deps s c event)) := by
  unfold Recovery.settle
  simp only
  split
  · exact ⟨fun o ho ↦ (mem_map_exchange ho).1, fun _ hne ↦ Function.update_of_ne hne ..,
      Or.inr ⟨event, rfl⟩, Or.inl ⟨fun t ht ↦ (mem_map_exchange ht).2 t rfl, rfl⟩⟩
  · next e _ =>
    refine ⟨fun o ho ↦ ?_, fun _ hne ↦ Function.update_of_ne hne .., Or.inr ⟨event, rfl⟩,
      Or.inl ⟨fun t ht ↦ ?_, rfl⟩⟩
    · rcases List.mem_append.mp ho with hmem | hmem
      · exact (mem_map_exchange hmem).1
      · rw [List.mem_singleton.mp hmem]
        rfl
    · rcases List.mem_append.mp ht with hmem | hmem
      · exact (mem_map_exchange hmem).2 t rfl
      · cases List.mem_singleton.mp hmem
  · next token _ =>
    refine ⟨fun o ho ↦ ?_, fun _ hne ↦ Function.update_of_ne hne .., Or.inr ⟨event, rfl⟩,
      Or.inr ⟨token, List.mem_append_right _ (List.mem_singleton_self _), rfl⟩⟩
    rcases List.mem_append.mp ho with hmem | hmem
    · exact (mem_map_exchange hmem).1
    · rw [List.mem_singleton.mp hmem]
      rfl

private theorem Local.discovered (d : McpAuthDiscovery) (now : Int) :
    Local deps s c p (discovered deps s c p op d now) := by
  unfold Recovery.discovered
  simp only
  split
  · refine ⟨fun o ho ↦ ?_, fun _ hne ↦ Function.update_of_ne hne .., Or.inl rfl,
      Or.inl ⟨fun t ht ↦ ?_, rfl⟩⟩
    · rw [List.mem_singleton.mp ho]
      rfl
    · cases List.mem_singleton.mp ht
  · exact (Local.settle _).of_eq rfl rfl rfl

private theorem Local.conclude (loc : Located) (server : ResolvedAuthorizationServer)
    (clock : Clock) (now : Int) :
    Local deps s c p (conclude deps s c p op loc server clock now) := by
  unfold Recovery.conclude
  simp only
  split
  · exact Local.thrown _
  · next scope scopeSource _ =>
    refine Local.cons (.discovered c _) ((Local.discovered _ now).of_eq rfl rfl rfl) rfl ?_
    intro t h
    cases h

private theorem Local.start (clock : Clock) (now : Int) :
    Local deps s c p (start deps s c p op clock now) := by
  unfold Recovery.start
  split
  · exact Local.settle _
  · split
    · exact Local.discovered _ now
    · exact Local.wait _

private theorem Local.located (net : Network) (clock : Clock) (now : Int) :
    Local deps s c p (located deps s c p op net clock now) := by
  unfold Recovery.located
  split
  · exact Local.thrown _
  · simp only
    split
    · exact Local.thrown _
    · split
      · exact Local.conclude ..
      · exact Local.wait _

private theorem Local.resolved (loc : Located) (fetch : String → Except String (Option Json))
    (clock : Clock) (now : Int) :
    Local deps s c p (resolved deps s c p op loc fetch clock now) := by
  unfold Recovery.resolved
  simp only
  split
  · exact Local.thrown _
  · exact (Local.conclude ..).of_eq rfl rfl rfl

/-- What one stretch does. -/
inductive Steps (deps : RecoveryDeps) (s : RecoveryState) (c : Nat) :
    RecoveryEvent → RecoveryState × List RecoveryObservation → Prop
  | silent {event : RecoveryEvent} {s' : RecoveryState} (hphase : s'.phase = s.phase)
    (hexchanges : s'.exchanges = s.exchanges) (htoken : s'.token = s.token) :
    Steps deps s c event (s', [])
  | stepUp {p : Nat} {challenge : Challenge} {clock : Clock} {now : Int}
    (hphase : s.phase c = .idle) (hasks : AsksForStepUp challenge) :
    Steps deps s c (.start p (.onUnauthorized challenge) clock now)
      (s.goto c .finished,
        [.began c p (.onUnauthorized challenge), .thrown c (stepUpRequired challenge)])
  | start {p : Nat} {op : ProviderOp} {clock : Clock} {now : Int} (hphase : s.phase c = .idle)
    (hadmitted : Admitted op) :
    Steps deps s c (.start p op clock now)
      ((start deps s c p op clock now).1, .began c p op :: (start deps s c p op clock now).2)
  | located {p : Nat} {op : ProviderOp} {net : Network} {clock : Clock} {now : Int}
    (hphase : s.phase c = .locating p op) :
    Steps deps s c (.located net clock now) (located deps s c p op net clock now)
  | resolved {p : Nat} {op : ProviderOp} {loc : Located}
    {fetch : String → Except String (Option Json)} {clock : Clock} {now : Int}
    (hphase : s.phase c = .resolving p op loc) :
    Steps deps s c (.resolved fetch clock now) (resolved deps s c p op loc fetch clock now)
  | prepared {p : Nat} {op : ProviderOp} {preparation : Preparation} {s' : RecoveryState}
    {done : List RecoveryObservation} (hphase : s.phase c = .exchanging p op)
    (hsettle : settle s c p op (helperStep deps s c (.prepared preparation)) = (s', done)) :
    Steps deps s c (.prepared preparation) (s', done ++ sentBy s s' c)
  | exchanged {p : Nat} {op : ProviderOp} {answer : Except Thrown ExchangeTokenResult} {now : Int}
    (hphase : s.phase c = .exchanging p op) :
    Steps deps s c (.exchanged answer now)
      (settle s c p op (helperStep deps s c (.exchanged answer now)))
  | helper {event : ObtainEvent CopilotRequest}
    (hphase : s.phase c = .idle ∨ s.phase c = .helper) :
    Steps deps s c (.helper event)
      ({ s.goto c .helper with exchanges := (helperStep deps s c event).1 },
        (helperStep deps s c event).2.map (.exchange c))

private theorem received_eq_some_iff {challenge : Challenge} :
    received op = some challenge ↔ op = .onUnauthorized challenge := by
  cases op with
  | onUnauthorized challenge' => simp [received]
  | discover => simp [received]
  | acquire => simp [received]

/-- Every stretch is one of these steps. -/
theorem recoveryStep_steps (deps : RecoveryDeps) (s : RecoveryState) (c : Nat)
    (event : RecoveryEvent) : Steps deps s c event (recoveryStep deps s c event) := by
  unfold recoveryStep
  split
  · next p op clock now hphase =>
    split
    · next challenge hreceived =>
      obtain ⟨hop, hasks⟩ := Option.filter_eq_some_iff.mp hreceived
      rw [received_eq_some_iff] at hop
      subst hop
      exact .stepUp hphase (of_decide_eq_true hasks)
    · next hreceived =>
      apply Steps.start hphase
      rintro challenge rfl hasks
      simp [received, hasks] at hreceived
  · next hphase => exact .located hphase
  · next hphase => exact .resolved hphase
  · next hphase => exact .prepared hphase rfl
  · next hphase => exact .exchanged hphase
  · next hphase => exact .helper (Or.inl hphase)
  · next hphase => exact .helper (Or.inr hphase)
  · exact .silent rfl rfl rfl
  · exact .silent rfl rfl rfl

/-- The provider and the entry point of the call that a stretch belongs to. -/
def current : CallPhase → RecoveryEvent → Option (Nat × ProviderOp)
  | .idle, .start p op _ _ => some (p, op)
  | .locating p op, _ => some (p, op)
  | .resolving p op _, _ => some (p, op)
  | .exchanging p op, _ => some (p, op)
  | _, _ => none

/-- Every stretch is local to its call and to the provider of it. -/
theorem recoveryStep_local (deps : RecoveryDeps) (s : RecoveryState) (c : Nat)
    (event : RecoveryEvent) :
    ∃ p, Local deps s c p (recoveryStep deps s c event) ∧
      ∀ t, .resolved c (some t) ∈ (recoveryStep deps s c event).2 →
        ∃ op, current (s.phase c) event = some (p, op) := by
  have hsteps := recoveryStep_steps deps s c event
  generalize recoveryStep deps s c event = out at hsteps
  cases hsteps with
  | silent hphase hexchanges htoken =>
    exact ⟨0, Local.silent hphase hexchanges htoken, fun t ht ↦ absurd ht List.not_mem_nil⟩
  | @stepUp p challenge clock now hphase _ =>
    refine ⟨p, Local.goto _ fun o ho ↦ ?_, fun t _ ↦ ⟨.onUnauthorized challenge, by
      rw [hphase]
      rfl⟩⟩
    rcases List.mem_pair.mp ho with rfl | rfl
    · exact ⟨rfl, fun t h ↦ by cases h⟩
    · exact ⟨rfl, fun t h ↦ by cases h⟩
  | @start p op clock now hphase _ =>
    refine ⟨p, Local.cons (.began c p op) (Local.start clock now) rfl ?_, fun t _ ↦ ⟨op, ?_⟩⟩
    · intro t h
      cases h
    · rw [hphase]
      rfl
  | located hphase => exact ⟨_, Local.located .., fun t _ ↦ ⟨_, by rw [hphase, current]⟩⟩
  | resolved hphase => exact ⟨_, Local.resolved .., fun t _ ↦ ⟨_, by rw [hphase, current]⟩⟩
  | @prepared p op preparation s' done hphase hsettle =>
    have hlocal : Local deps s c p (s', done) := by
      rw [← hsettle]
      exact Local.settle _
    refine ⟨p, hlocal.append fun o ho ↦ ?_, fun t _ ↦ ⟨op, by rw [hphase, current]⟩⟩
    unfold sentBy at ho
    split at ho
    · rw [List.mem_singleton] at ho
      subst ho
      exact ⟨rfl, fun t h ↦ by cases h⟩
    · cases ho
  | exchanged hphase =>
    exact ⟨_, Local.settle _, fun t _ ↦ ⟨_, by rw [hphase, current]⟩⟩
  | helper _ =>
    refine ⟨0, ⟨fun o ho ↦ (mem_map_exchange ho).1, fun _ hne ↦ Function.update_of_ne hne ..,
      Or.inr ⟨_, rfl⟩, Or.inl ⟨fun t ht ↦ ?_, rfl⟩⟩, fun t ht ↦ ?_⟩
    · exact (mem_map_exchange ht).2 t rfl
    · exact absurd rfl ((mem_map_exchange ht).2 t)

end Locality

section Phases

variable {deps : RecoveryDeps} {s : RecoveryState} {c p : Nat} {op : ProviderOp}

/-- A stretch of an exchange leaves its call exchanging or ends it. -/
theorem settle_phase
    (out : ObtainState Helper ExchangeSlot CopilotRequest × List (Observation CopilotRequest)) :
    (settle s c p op out).1.phase c = .exchanging p op ∨
      (settle s c p op out).1.phase c = .finished := by
  unfold settle
  simp only
  split
  · exact Or.inl (Function.update_self ..)
  · exact Or.inr (Function.update_self ..)
  · exact Or.inr (Function.update_self ..)

private theorem discovered_phase (d : McpAuthDiscovery) (now : Int) :
    (discovered deps s c p op d now).1.phase c = .exchanging p op ∨
      (discovered deps s c p op d now).1.phase c = .finished := by
  unfold discovered
  simp only
  split
  · exact Or.inr (Function.update_self ..)
  · exact settle_phase _

private theorem conclude_phase (loc : Located) (server : ResolvedAuthorizationServer)
    (clock : Clock) (now : Int) :
    (conclude deps s c p op loc server clock now).1.phase c = .exchanging p op ∨
      (conclude deps s c p op loc server clock now).1.phase c = .finished := by
  unfold conclude
  simp only
  split
  · exact Or.inr (Function.update_self ..)
  · exact discovered_phase _ now

/-- A call that starts reads the metadata document, exchanges or ends. -/
theorem start_phase (clock : Clock) (now : Int) :
    start deps s c p op clock now = (s.goto c (.locating p op), []) ∨
      (start deps s c p op clock now).1.phase c = .exchanging p op ∨
      (start deps s c p op clock now).1.phase c = .finished := by
  unfold start
  split
  · exact Or.inr (settle_phase _)
  · split
    · exact Or.inr (discovered_phase _ now)
    · exact Or.inl rfl

/-- A call that has read the document reads the metadata of the server, exchanges or ends. -/
theorem located_phase (net : Network) (clock : Clock) (now : Int) :
    (∃ loc, located deps s c p op net clock now = (s.goto c (.resolving p op loc), [])) ∨
      (located deps s c p op net clock now).1.phase c = .exchanging p op ∨
      (located deps s c p op net clock now).1.phase c = .finished := by
  unfold located
  split
  · exact Or.inr (Or.inr (Function.update_self ..))
  · next loc _ =>
    simp only
    split
    · exact Or.inr (Or.inr (Function.update_self ..))
    · split
      · exact Or.inr (conclude_phase ..)
      · exact Or.inl ⟨loc, rfl⟩

/-- A call that has read the metadata of the server exchanges or ends. -/
theorem resolved_phase (loc : Located) (fetch : String → Except String (Option Json))
    (clock : Clock) (now : Int) :
    (resolved deps s c p op loc fetch clock now).1.phase c = .exchanging p op ∨
      (resolved deps s c p op loc fetch clock now).1.phase c = .finished := by
  unfold resolved
  simp only
  split
  · exact Or.inr (Function.update_self ..)
  · exact conclude_phase ..

end Phases

section Exchange

variable {deps : RecoveryDeps} {s : RecoveryState} {c p : Nat} {op : ProviderOp}
  {req : CopilotRequest}

/-- A call that has prepared its exchange does not do so again. -/
theorem settle_prepared_again {params : ExchangeTokenParams} {preparation : Preparation}
    (hphase : s.exchanges.phase c = .exchanging req params) :
    settle s c p op (helperStep deps s c (.prepared preparation)) =
      (s.goto c (.exchanging p op), []) := by
  unfold helperStep obtainStep
  rw [hphase]
  rfl

/-- A call that has not sent its request gets no answer. -/
theorem settle_exchanged_early {answer : Except Thrown ExchangeTokenResult} {now : Int}
    (hphase : s.exchanges.phase c = .preparing req) :
    settle s c p op (helperStep deps s c (.exchanged answer now)) =
      (s.goto c (.exchanging p op), []) := by
  unfold helperStep obtainStep
  rw [hphase]
  rfl

/-- A call that has prepared its exchange sends the request, or throws why it cannot. -/
theorem settle_prepared {preparation : Preparation}
    (hphase : s.exchanges.phase c = .preparing req) :
    settle s c p op (helperStep deps s c (.prepared preparation)) =
      match ((copilot deps.cfg deps.decodeJwt).callOf req).exchangeParams preparation with
      | .error e =>
        ({ s with exchanges := s.exchanges.goto c .finished }.goto c .finished,
          [.exchange c (.refused e), .thrown c e])
      | .ok params =>
        ({ s with exchanges := s.exchanges.goto c (.exchanging req params) }.goto c
          (.exchanging p op), []) := by
  unfold helperStep obtainStep
  rw [hphase]
  simp only
  cases ((copilot deps.cfg deps.decodeJwt).callOf req).exchangeParams preparation with
  | error e => rfl
  | ok params => rfl

/-- A call that gets its token stores it, and its provider holds it from then on. -/
theorem settle_exchanged {params : ExchangeTokenParams} {result : ExchangeTokenResult} {now : Int}
    (hphase : s.exchanges.phase c = .exchanging req params) :
    ∃ exchanges, ∃ obs : List (Observation CopilotRequest),
      exchanges.cache = (s.exchanges.store ((copilot deps.cfg deps.decodeJwt).callOf req) result
        deps.cfg.exchangeCacheTtlMs now).cache ∧
      settle s c p op (helperStep deps s c (.exchanged (.ok result) now)) =
        ({ s with
            exchanges := exchanges
            token := Function.update s.token p (some result.accessToken) }.goto c .finished,
          .exchange c (.minted req params result) :: obs.map (.exchange c) ++
            [.resolved c (some result.accessToken)]) := by
  unfold helperStep obtainStep
  rw [hphase]
  simp only [ObtainState.finish]
  cases ((copilot deps.cfg deps.decodeJwt).callOf req).slot with
  | none =>
    refine ⟨_, [.returned req result.accessToken], ?_, rfl⟩
    rfl
  | some slot =>
    refine ⟨_, [.recorded req result.accessToken now, .returned req result.accessToken], ?_, rfl⟩
    rfl

/-- A call whose exchange fails throws why. -/
theorem settle_refused {params : ExchangeTokenParams} {e : Thrown} {now : Int}
    (hphase : s.exchanges.phase c = .exchanging req params) :
    settle s c p op (helperStep deps s c (.exchanged (.error e) now)) =
      ({ s with exchanges := s.exchanges.goto c .finished }.goto c .finished,
        [.exchange c (.refused e), .thrown c e]) := by
  unfold helperStep obtainStep
  rw [hphase]
  rfl

end Exchange

section Forced

variable {deps : RecoveryDeps} {s : RecoveryState} {c p : Nat} {op : ProviderOp}

/-- No cached discovery answers a forced call. -/
theorem cachedFor_of_forced (hforced : forced op = true) (caches : Caches) (clock : Clock) :
    cachedFor caches clock (deps.discovery op) = none := by
  have hforce : (deps.discovery op).opts.force = true := hforced
  rw [cachedFor, hforce]
  cases caches.discovery.get? (normalizeUrl (deps.discovery op).serverUrl) with
  | none => rfl
  | some hit => rfl

/-- A forced call starts with reading the metadata document. -/
theorem start_of_forced (hforced : forced op = true) (clock : Clock) (now : Int) :
    start deps s c p op clock now = (s.goto c (.locating p op), []) := by
  unfold start
  split
  · cases hforced
  · rw [cachedFor_of_forced hforced]

/-- A forced exchange is not answered from the cache. -/
theorem exchange_of_forced (hforced : forced op = true) (hphase : s.exchanges.phase c = .notStarted)
    (d : McpAuthDiscovery) (now : Int) :
    ∃ exchanges, exchanges.phase c = .preparing (deps.exchangeFor p op d) ∧
      exchange deps s c p op d now =
        ({ s with exchanges := exchanges }.goto c (.exchanging p op), []) := by
  have hbypass : ((copilot deps.cfg deps.decodeJwt).callOf (deps.exchangeFor p op d)).bypassCache =
      true := hforced
  have hmoves := obtainStep_moves (copilot deps.cfg deps.decodeJwt) s.exchanges c
    (.start (deps.exchangeFor p op d) now)
  change Moves _ _ _ _ (helperStep deps s c (.start (deps.exchangeFor p op d) now)) at hmoves
  unfold exchange
  generalize helperStep deps s c (.start (deps.exchangeFor p op d) now) = out at hmoves
  cases hmoves with
  | idle hidle => exact absurd rfl (hidle _ _ hphase)
  | refuse hrefused => cases hrefused
  | hit _ hget =>
    obtain ⟨-, -, -, hserved, -⟩ := lookup_hit hget
    rw [hbypass] at hserved
    cases hserved
  | miss req now _ => exact ⟨_, ObtainState.goto_phase_self .., rfl⟩

/-- A forced call that has discovered its server exchanges. -/
theorem discovered_of_forced (hforced : forced op = true) (d : McpAuthDiscovery) (now : Int) :
    discovered deps s c p op d now =
      exchange deps { s with discovery := Function.update s.discovery p (some d) } c p op d
        now := by
  cases op with
  | onUnauthorized challenge => rfl
  | discover => cases hforced
  | acquire => cases hforced

private theorem findPrm_with_discoverMetadata (net : Network)
    (fetch : String → Except String (Option Json)) (candidates : List String) :
    findPrm { net with discoverMetadata := fetch } candidates = findPrm net candidates := by
  induction candidates with
  | nil => rfl
  | cons url candidates ih =>
    rw [findPrm, findPrm, ih]
    rfl

private theorem locate_with_discoverMetadata (sdk : Sdk) (net : Network)
    (fetch : String → Except String (Option Json)) (call : DiscoverCall) :
    locate sdk { net with discoverMetadata := fetch } call = locate sdk net call := by
  rw [locate_eq, locate_eq]
  unfold readPrm
  simp only [findPrm_with_discoverMetadata]
  rfl

/-- What a forced call discovers, whatever is cached. -/
theorem discover_of_forced (hforced : forced op = true) (net : Network)
    (fetch : String → Except String (Option Json)) (clock : Clock) (caches : Caches) :
    (discoverMcpAuthorization deps.sdk { net with discoverMetadata := fetch } clock caches
      (deps.discovery op)).2 =
      match locate deps.sdk net (deps.discovery op) with
      | .error e => .error e
      | .ok loc =>
        let issuer := normalizeUrl loc.authorizationServer
        if !isHttps issuer then
          .error (.curityAuth
            ⟨"authorization server " ++ issuer ++ " is not https", .discoveryFailed⟩)
        else
          match fetchMetadata deps.sdk fetch issuer with
          | .error e => .error (.curityAuth e)
          | .ok server =>
            match selectScope (normalizeUrl deps.provider.serverUrl) loc with
            | .error e => .error e
            | .ok (scope, scopeSource) =>
              .ok ⟨normalizeUrl deps.provider.serverUrl, loc.prmUrl, loc.prm,
                loc.authorizationServer, server.metadata, server.tokenEndpoint, scope,
                scopeSource, clock.discoveredAt⟩ := by
  have hforce : (deps.discovery op).opts.force = true := hforced
  rw [discover_of_miss (cachedFor_of_forced hforced caches clock)]
  simp only [discoverUncached, locate_with_discoverMetadata]
  cases locate deps.sdk net (deps.discovery op) with
  | error e => rfl
  | ok loc =>
    have hmiss : (caches.metadata.get? (normalizeUrl loc.authorizationServer)).filter
        (fun hit ↦ reusable true ((deps.discovery op).opts.ttlMs.getD discoveryTtlMs)
          clock.metadataNow hit.fetchedAt) = none := by
      cases caches.metadata.get? (normalizeUrl loc.authorizationServer) with
      | none => rfl
      | some hit => rfl
    simp only [hforce, resolveAuthorizationServer, hmiss]
    cases isHttps (normalizeUrl loc.authorizationServer) with
    | false => rfl
    | true =>
      cases fetchMetadata deps.sdk fetch (normalizeUrl loc.authorizationServer) with
      | error e => rfl
      | ok server =>
        cases hscope : selectScope (normalizeUrl deps.provider.serverUrl) loc with
        | error e => simp [RecoveryDeps.discovery, ProviderOpts.call, hscope]
        | ok selected => simp [RecoveryDeps.discovery, ProviderOpts.call, hscope]

/-- A forced call that has read the document reads the metadata of the server, or fails with what
its discovery fails with. -/
theorem located_of_forced (hforced : forced op = true) (net : Network) (clock : Clock)
    (now : Int) :
    (∃ e, (∀ fetch clock caches, (discoverMcpAuthorization deps.sdk
        { net with discoverMetadata := fetch } clock caches (deps.discovery op)).2 = .error e) ∧
      located deps s c p op net clock now = (s.goto c .finished, [.thrown c e])) ∨
      ∃ loc, locate deps.sdk net (deps.discovery op) = .ok loc ∧
        isHttps (normalizeUrl loc.authorizationServer) = true ∧
        located deps s c p op net clock now = (s.goto c (.resolving p op loc), []) := by
  unfold located
  cases hlocate : locate deps.sdk net (deps.discovery op) with
  | error e =>
    refine Or.inl ⟨e, fun fetch clock caches ↦ ?_, rfl⟩
    rw [discover_of_forced hforced, hlocate]
  | ok loc =>
    simp only
    cases hhttps : isHttps (normalizeUrl loc.authorizationServer) with
    | false =>
      refine Or.inl ⟨_, fun fetch clock caches ↦ ?_, rfl⟩
      rw [discover_of_forced hforced, hlocate]
      simp only [hhttps, Bool.not_false, if_true]
    | true =>
      refine Or.inr ⟨loc, rfl, hhttps, ?_⟩
      rw [hforced]
      cases s.caches.metadata.get? (normalizeUrl loc.authorizationServer) with
      | none => rfl
      | some hit => rfl

/-- A forced call that has read the metadata of the server exchanges for what it has discovered, or
fails with what its discovery fails with. -/
theorem resolved_of_forced {net : Network} {loc : Located} (hforced : forced op = true)
    (hphase : s.exchanges.phase c = .notStarted)
    (hlocate : locate deps.sdk net (deps.discovery op) = .ok loc)
    (hhttps : isHttps (normalizeUrl loc.authorizationServer) = true)
    (fetch : String → Except String (Option Json)) (clock : Clock) (now : Int) :
    (∃ caches e, (∀ caches, (discoverMcpAuthorization deps.sdk
          { net with discoverMetadata := fetch } clock caches (deps.discovery op)).2 = .error e) ∧
        resolved deps s c p op loc fetch clock now =
          ({ s with caches := caches }.goto c .finished, [.thrown c e])) ∨
      ∃ caches exchanges discovery d, exchanges.phase c = .preparing (deps.exchangeFor p op d) ∧
        (∀ caches, (discoverMcpAuthorization deps.sdk { net with discoverMetadata := fetch } clock
          caches (deps.discovery op)).2 = .ok d) ∧
        resolved deps s c p op loc fetch clock now =
          ({ s with
              caches := caches
              exchanges := exchanges
              discovery := discovery }.goto c (.exchanging p op), [.discovered c d]) := by
  unfold resolved
  simp only [discover_of_forced hforced, hlocate, hhttps, Bool.not_true, Bool.false_eq_true,
    if_false]
  cases fetchMetadata deps.sdk fetch (normalizeUrl loc.authorizationServer) with
  | error e => exact Or.inl ⟨s.caches, .curityAuth e, fun _ ↦ rfl, rfl⟩
  | ok value =>
    simp only [conclude]
    cases selectScope (normalizeUrl deps.provider.serverUrl) loc with
    | error e => exact Or.inl ⟨_, e, fun _ ↦ rfl, rfl⟩
    | ok selected =>
      obtain ⟨scope, scopeSource⟩ := selected
      simp only [discovered_of_forced hforced]
      obtain ⟨exchanges, hpreparing, hexchange⟩ := exchange_of_forced (p := p) (c := c)
        (s := { s with
          caches := ⟨s.caches.discovery.set (normalizeUrl deps.provider.serverUrl) _,
            s.caches.metadata.set (normalizeUrl loc.authorizationServer)
              ⟨value, clock.fetchedAt⟩⟩
          discovery := Function.update s.discovery p (some _) })
        hforced hphase _ now
      exact Or.inr ⟨_, exchanges, _, _, hpreparing, fun _ ↦ rfl, by rw [hexchange]⟩

end Forced

end AgentsAuth.Copilot.Recovery
