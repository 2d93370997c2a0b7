import AgentsAuth.Runtime.McpOAuthClient

/-!
# Authorization-server pinning

Which server a client may be sent to. The trust boundary is checked where a server is
located, and a cached discovery is returned without it, so what a call gets out of the
cache is in the list of the call that filled it. Every token endpoint was learnt from the
metadata of the server that the discovery names.
-/

namespace AgentsAuth.Runtime

open AgentsAuth.AuthCurity AgentsAuth.Base AgentsAuth.Lib

/-- The authorization server of a discovery is, up to trailing slashes, one of the allowed. -/
def Pinned (allowed : Option (List String)) (d : McpAuthDiscovery) : Prop :=
  ∀ servers, allowed = some servers →
    normalizeUrl d.authorizationServer ∈ servers.map normalizeUrl

/-- Some call of the run has read the token endpoint in the metadata of this server. -/
def LearntFrom (sdk : Sdk) (es : List RuntimeEvent) (server tokenEndpoint : String) : Prop :=
  ∃ e ∈ es, ∃ value, fetchMetadata sdk e.net.discoverMetadata server = .ok value ∧
    value.tokenEndpoint = tokenEndpoint

/-- A discovery that its caller may use: learnt from the server it names, which is allowed. -/
structure DiscoverySound (sdk : Sdk) (es : List RuntimeEvent) (allowed : Option (List String))
    (d : McpAuthDiscovery) : Prop where
  learnt : LearntFrom sdk es (normalizeUrl d.authorizationServer) d.tokenEndpoint
  pinned : Pinned allowed d

/-- A later call with a list that may read what an earlier call for the same server URL has stored
allows every server that the earlier call allows. -/
def ListsNested (earlier later : DiscoverCall) : Prop :=
  later.mayUseCache = true → normalizeUrl earlier.serverUrl = normalizeUrl later.serverUrl →
    ∀ servers, later.opts.allowedAuthorizationServers = some servers →
      ∃ earlierServers, earlier.opts.allowedAuthorizationServers = some earlierServers ∧
        ∀ a ∈ earlierServers, normalizeUrl a ∈ servers.map normalizeUrl

/-- The caches hold what calls of the run have learnt, each for the list of such a call. -/
structure CachesSound (sdk : Sdk) (es : List RuntimeEvent) (calls : List DiscoverCall)
    (caches : Caches) : Prop where
  discovery : caches.discovery.Forall fun k d ↦
    ∃ call ∈ calls, normalizeUrl call.serverUrl = k ∧
      DiscoverySound sdk es call.opts.allowedAuthorizationServers d
  metadata : caches.metadata.Forall fun k entry ↦ LearntFrom sdk es k entry.value.tokenEndpoint

section Discover

variable {sdk : Sdk} {es : List RuntimeEvent} {e : RuntimeEvent} {calls : List DiscoverCall}
  {caches : Caches} {call : DiscoverCall}

private theorem LearntFrom.concat {server tokenEndpoint : String}
    (h : LearntFrom sdk es server tokenEndpoint) :
    LearntFrom sdk (es ++ [e]) server tokenEndpoint := by
  obtain ⟨e', he, hlearnt⟩ := h
  exact ⟨e', List.mem_append_left _ he, hlearnt⟩

private theorem learntFrom_self {server : String} {value : ResolvedAuthorizationServer}
    (h : fetchMetadata sdk e.net.discoverMetadata server = .ok value) :
    LearntFrom sdk (es ++ [e]) server value.tokenEndpoint :=
  ⟨e, List.mem_append_right _ (List.mem_singleton_self _), value, h, rfl⟩

private theorem DiscoverySound.concat {allowed : Option (List String)} {d : McpAuthDiscovery}
    (h : DiscoverySound sdk es allowed d) : DiscoverySound sdk (es ++ [e]) allowed d :=
  ⟨h.learnt.concat, h.pinned⟩

private theorem CachesSound.concat (h : CachesSound sdk es calls caches) :
    CachesSound sdk (es ++ [e]) calls caches where
  discovery := h.discovery.imp fun _ _ ⟨call, hin, hkey, hsound⟩ ↦ ⟨call, hin, hkey, hsound.concat⟩
  metadata := h.metadata.imp fun _ _ hlearnt ↦ hlearnt.concat

private theorem forall_discovery_append (call : DiscoverCall)
    (h : CachesSound sdk es calls caches) :
    caches.discovery.Forall fun k d ↦
      ∃ call' ∈ calls ++ [call], normalizeUrl call'.serverUrl = k ∧
        DiscoverySound sdk es call'.opts.allowedAuthorizationServers d :=
  h.discovery.imp fun _ _ ⟨call', hin, hrest⟩ ↦ ⟨call', List.mem_append_left _ hin, hrest⟩

/-- What an uncached call learns is sound for its own list, and so are the caches after it. -/
theorem discoverUncached_sound (h : CachesSound sdk es calls caches) :
    CachesSound sdk (es ++ [e]) (calls ++ [call])
        (discoverUncached sdk e.net e.clock caches call).1 ∧
      ∀ d, (discoverUncached sdk e.net e.clock caches call).2 = .ok d →
        DiscoverySound sdk (es ++ [e]) call.opts.allowedAuthorizationServers d := by
  have hdiscovery := forall_discovery_append call (h.concat (e := e))
  have hmetadata : ∀ issuer force ttlMs now fetchedAt,
      (resolveAuthorizationServer sdk caches.metadata issuer force ttlMs e.net.discoverMetadata
        now fetchedAt).1.Forall fun k entry ↦
          LearntFrom sdk (es ++ [e]) k entry.value.tokenEndpoint := by
    intro issuer force ttlMs now fetchedAt
    apply forall_resolve h.concat.metadata
    intro value hvalue
    exact learntFrom_self hvalue
  unfold discoverUncached
  simp only
  split
  · refine ⟨⟨hdiscovery, h.concat.metadata⟩, ?_⟩
    intro d hd
    cases hd
  · next loc hlocate =>
    split
    · next metadata err hresolve =>
      have hcache := hmetadata loc.authorizationServer call.opts.force
        (call.opts.ttlMs.getD discoveryTtlMs) e.clock.metadataNow e.clock.fetchedAt
      rw [hresolve] at hcache
      refine ⟨⟨hdiscovery, hcache⟩, ?_⟩
      intro d hd
      cases hd
    · next metadata resolved hresolve =>
      have hcache := hmetadata loc.authorizationServer call.opts.force
        (call.opts.ttlMs.getD discoveryTtlMs) e.clock.metadataNow e.clock.fetchedAt
      rw [hresolve] at hcache
      split
      · refine ⟨⟨hdiscovery, hcache⟩, ?_⟩
        intro d hd
        cases hd
      · next scope scopeSource _ =>
        have hlearnt : LearntFrom sdk (es ++ [e]) (normalizeUrl loc.authorizationServer)
            resolved.tokenEndpoint := by
          rcases resolve_ok (congrArg Prod.snd hresolve) with ⟨entry, hentry, -, rfl⟩ | hfetch
          · exact h.concat.metadata.of_get? hentry
          · exact learntFrom_self hfetch
        have hpinned := locate_ok hlocate
        constructor
        · refine ⟨?_, hcache⟩
          apply hdiscovery.set
          exact ⟨call, List.mem_append_right _ (List.mem_singleton_self _), rfl, hlearnt, hpinned⟩
        · intro d hd
          cases hd
          exact ⟨hlearnt, hpinned⟩

private theorem mayUseCache_of_reusable {now storedAt : Int}
    (h : reusable call.opts.force (call.opts.ttlMs.getD discoveryTtlMs) now storedAt = true) :
    call.mayUseCache = true := by
  simp only [reusable, Bool.and_eq_true] at h
  simp only [DiscoverCall.mayUseCache, Bool.and_eq_true]
  exact h.1

/-- A call whose list contains those of the earlier calls that it may read from gets a discovery
that is sound for its own list. -/
theorem discover_sound (h : CachesSound sdk es calls caches)
    (hnested : ∀ earlier ∈ calls, ListsNested earlier call) :
    CachesSound sdk (es ++ [e]) (calls ++ [call])
        (discoverMcpAuthorization sdk e.net e.clock caches call).1 ∧
      ∀ d, (discoverMcpAuthorization sdk e.net e.clock caches call).2 = .ok d →
        DiscoverySound sdk (es ++ [e]) call.opts.allowedAuthorizationServers d := by
  unfold discoverMcpAuthorization
  simp only
  split
  · next hit hhit =>
    obtain ⟨hget, hreusable⟩ := Option.filter_eq_some_iff.mp hhit
    obtain ⟨earlier, hin, hkey, hsound⟩ := h.discovery.of_get? hget
    refine ⟨⟨forall_discovery_append _ h.concat, h.concat.metadata⟩, ?_⟩
    intro d hd
    cases hd
    refine ⟨hsound.learnt.concat, ?_⟩
    intro servers hallowed
    obtain ⟨earlierServers, hearlier, hsubset⟩ :=
      hnested earlier hin (mayUseCache_of_reusable hreusable) hkey servers hallowed
    have hmem := hsound.pinned earlierServers hearlier
    obtain ⟨a, ha, hsame⟩ := List.mem_map.mp hmem
    rw [← hsame]
    exact hsubset a ha
  · exact discoverUncached_sound h

end Discover

section Steps

/-- Everything that a run does, oldest first. -/
def shown (deps : RuntimeDeps) (es : List RuntimeEvent) : List RuntimeObservation :=
  ((runtime deps).transcript es).flatMap Prod.snd

/-- The calls of `discoverMcpAuthorization` among some observations. -/
def callsIn (obs : List RuntimeObservation) : List DiscoverCall :=
  obs.filterMap fun
    | .discovered call _ => some call
    | _ => none

/-- The calls of `discoverMcpAuthorization` that a run makes, the providers' included. -/
def madeCalls (deps : RuntimeDeps) (es : List RuntimeEvent) : List DiscoverCall :=
  callsIn (shown deps es)

/-- What an observation says: a discovery handed to its caller is sound for the caller's list, and
so is the one whose token endpoint a provider exchanges with. -/
def ObservationSound (deps : RuntimeDeps) (es : List RuntimeEvent) : RuntimeObservation → Prop
  | .discovered call (.ok d) =>
    DiscoverySound deps.sdk es call.opts.allowedAuthorizationServers d
  | .discovered _ (.error _) => True
  | .exchange p input =>
    input.tokenEndpoint = input.discovery.tokenEndpoint ∧
      DiscoverySound deps.sdk es (deps.providers p).allowedAuthorizationServers input.discovery
  | .thrown _ => True

/-- What one call does. -/
inductive Moves (deps : RuntimeDeps) (s : RuntimeState) (e : RuntimeEvent) :
    RuntimeState × List RuntimeObservation → Prop
  | quiet (err : Thrown) : Moves deps s e (s, [.thrown err])
  | reuse {p : Nat} {d : McpAuthDiscovery} (force : Bool) (hheld : s.discovery p = some d) :
    Moves deps s e (s, [.exchange p (exchangeInput d force)])
  | direct (call : DiscoverCall) :
    Moves deps s e
      ({ s with caches := (discoverMcpAuthorization deps.sdk e.net e.clock s.caches call).1 },
        [.discovered call (discoverMcpAuthorization deps.sdk e.net e.clock s.caches call).2])
  | failed {p : Nat} {force : Bool} {challenge : Option Challenge} {caches : Caches} {err : Thrown}
    {rest : List RuntimeObservation}
    (hcall : discoverMcpAuthorization deps.sdk e.net e.clock s.caches
      ((deps.providers p).call force challenge) = (caches, .error err))
    (hrest : rest = [] ∨ rest = [.thrown err]) :
    Moves deps s e (⟨caches, s.discovery⟩,
      .discovered ((deps.providers p).call force challenge) (.error err) :: rest)
  | found {p : Nat} {force : Bool} {challenge : Option Challenge} {caches : Caches}
    {d : McpAuthDiscovery} {rest : List RuntimeObservation}
    (hcall : discoverMcpAuthorization deps.sdk e.net e.clock s.caches
      ((deps.providers p).call force challenge) = (caches, .ok d))
    (hrest : rest = [] ∨ rest = [.exchange p (exchangeInput d force)]) :
    Moves deps s e (⟨caches, Function.update s.discovery p (some d)⟩,
      .discovered ((deps.providers p).call force challenge) (.ok d) :: rest)

variable {deps : RuntimeDeps} {s : RuntimeState} {e : RuntimeEvent}

private theorem providerAcquire_moves (p : Nat) (force : Bool) (challenge : Option Challenge) :
    Moves deps s e (providerAcquire deps s p e.net e.clock force challenge) := by
  unfold providerAcquire
  split
  · next d hheld => exact .reuse force (Option.filter_eq_some_iff.mp hheld).1
  · unfold providerDiscover
    cases hcall : discoverMcpAuthorization deps.sdk e.net e.clock s.caches
      ((deps.providers p).call force challenge) with
    | mk caches result =>
      cases result with
      | error err => exact .failed hcall (Or.inr rfl)
      | ok d => exact .found hcall (Or.inr rfl)

/-- Every call is one of these moves. -/
theorem runtimeStep_moves (deps : RuntimeDeps) (s : RuntimeState) (e : RuntimeEvent) :
    Moves deps s e (runtimeStep deps s e) := by
  unfold runtimeStep
  split
  · next call _ => exact .direct call
  · next p _ =>
    unfold providerDiscover
    cases hcall : discoverMcpAuthorization deps.sdk e.net e.clock s.caches
      ((deps.providers p).call false none) with
    | mk caches result =>
      cases result with
      | error err => exact .failed hcall (Or.inl rfl)
      | ok d => exact .found hcall (Or.inl rfl)
  · exact providerAcquire_moves _ false none
  · next p challenge _ =>
    split
    · exact .quiet _
    · exact providerAcquire_moves _ true (some challenge)

end Steps

/-- The invariant of the process, relative to its history. -/
structure Sound (deps : RuntimeDeps) (es : List RuntimeEvent) (s : RuntimeState) : Prop where
  caches : CachesSound deps.sdk es (madeCalls deps es) s.caches
  provider : ∀ p d, s.discovery p = some d →
    DiscoverySound deps.sdk es (deps.providers p).allowedAuthorizationServers d
  shown : ∀ o ∈ shown deps es, ObservationSound deps es o

section Runs

variable {deps : RuntimeDeps} {es : List RuntimeEvent} {e : RuntimeEvent} {s : RuntimeState}

private theorem shown_concat :
    Runtime.shown deps (es ++ [e]) = Runtime.shown deps es ++ (runtime deps).answer es e := by
  rw [Runtime.shown, Machine.transcript_concat, List.flatMap_append]
  simp [Runtime.shown]

private theorem ObservationSound.concat {o : RuntimeObservation} (h : ObservationSound deps es o) :
    ObservationSound deps (es ++ [e]) o := by
  cases o with
  | discovered call result =>
    cases result with
    | ok d => exact DiscoverySound.concat h
    | error err => trivial
  | exchange p input => exact ⟨h.1, h.2.concat⟩
  | thrown err => trivial

private theorem Sound.provider_concat (h : Sound deps es s) (p : Nat) (d : McpAuthDiscovery)
    (hheld : s.discovery p = some d) :
    DiscoverySound deps.sdk (es ++ [e]) (deps.providers p).allowedAuthorizationServers d :=
  (h.provider p d hheld).concat

section Step

variable {s' : RuntimeState} {new : List RuntimeObservation} {p : Nat} {force : Bool}
  {challenge : Option Challenge} {caches : Caches} {rest : List RuntimeObservation}

private theorem madeCalls_of_shown
    (hshown : Runtime.shown deps (es ++ [e]) = Runtime.shown deps es ++ new) :
    madeCalls deps (es ++ [e]) = madeCalls deps es ++ callsIn new := by
  rw [madeCalls, hshown, callsIn, List.filterMap_append]
  rfl

private theorem nested_of_shown {call : DiscoverCall}
    (hshown : Runtime.shown deps (es ++ [e]) = Runtime.shown deps es ++ new)
    (hone : callsIn new = [call]) (hnested : (madeCalls deps (es ++ [e])).Pairwise ListsNested) :
    ∀ earlier ∈ madeCalls deps es, ListsNested earlier call := by
  intro earlier hin
  rw [madeCalls_of_shown hshown, hone, List.pairwise_append] at hnested
  exact hnested.2.2 earlier hin call (List.mem_singleton_self _)

private theorem Sound.concat (h : Sound deps es s)
    (hshown : Runtime.shown deps (es ++ [e]) = Runtime.shown deps es ++ new)
    (hcaches : CachesSound deps.sdk (es ++ [e]) (madeCalls deps es ++ callsIn new) s'.caches)
    (hprovider : ∀ p d, s'.discovery p = some d →
      DiscoverySound deps.sdk (es ++ [e]) (deps.providers p).allowedAuthorizationServers d)
    (hnew : ∀ o ∈ new, ObservationSound deps (es ++ [e]) o) : Sound deps (es ++ [e]) s' := by
  refine ⟨?_, hprovider, ?_⟩
  · rw [madeCalls_of_shown hshown]
    exact hcaches
  · intro o ho
    rw [hshown, List.mem_append] at ho
    rcases ho with ho | ho
    · exact (h.shown o ho).concat
    · exact hnew o ho

/-- A call that discovers nothing keeps the invariant. -/
private theorem Sound.quiet {o : RuntimeObservation} (h : Sound deps es s)
    (hshown : Runtime.shown deps (es ++ [e]) = Runtime.shown deps es ++ [o])
    (hnone : callsIn [o] = []) (ho : ObservationSound deps (es ++ [e]) o) :
    Sound deps (es ++ [e]) s := by
  apply h.concat hshown
  · rw [hnone, List.append_nil]
    exact h.caches.concat
  · exact h.provider_concat
  · intro o' ho'
    rw [List.mem_singleton.mp ho']
    exact ho

/-- So does a direct call. -/
private theorem Sound.direct {call : DiscoverCall} (h : Sound deps es s)
    (hshown : Runtime.shown deps (es ++ [e]) = Runtime.shown deps es ++
      [.discovered call (discoverMcpAuthorization deps.sdk e.net e.clock s.caches call).2])
    (hnested : (madeCalls deps (es ++ [e])).Pairwise ListsNested) :
    Sound deps (es ++ [e])
      { s with caches := (discoverMcpAuthorization deps.sdk e.net e.clock s.caches call).1 } := by
  obtain ⟨hcaches, hresult⟩ := discover_sound (e := e) h.caches (nested_of_shown hshown rfl hnested)
  apply h.concat hshown
  · exact hcaches
  · exact h.provider_concat
  · intro o ho
    rw [List.mem_singleton] at ho
    subst ho
    cases hd : (discoverMcpAuthorization deps.sdk e.net e.clock s.caches call).2 with
    | error err => trivial
    | ok d => exact hresult d hd

/-- So does a provider's call that fails. -/
private theorem Sound.failed {err : Thrown} (h : Sound deps es s)
    (hcall : discoverMcpAuthorization deps.sdk e.net e.clock s.caches
      ((deps.providers p).call force challenge) = (caches, .error err))
    (hrest : rest = [] ∨ rest = [.thrown err])
    (hshown : Runtime.shown deps (es ++ [e]) = Runtime.shown deps es ++
      .discovered ((deps.providers p).call force challenge) (.error err) :: rest)
    (hnested : (madeCalls deps (es ++ [e])).Pairwise ListsNested) :
    Sound deps (es ++ [e]) ⟨caches, s.discovery⟩ := by
  have hone :
      callsIn (.discovered ((deps.providers p).call force challenge) (.error err) :: rest) =
      [(deps.providers p).call force challenge] := by
    rcases hrest with rfl | rfl <;> rfl
  obtain ⟨hcaches, -⟩ := discover_sound (e := e) h.caches (nested_of_shown hshown hone hnested)
  rw [hcall] at hcaches
  apply h.concat hshown
  · rw [hone]
    exact hcaches
  · exact h.provider_concat
  · intro o ho
    rcases List.mem_cons.mp ho with rfl | ho
    · trivial
    · rcases hrest with rfl | rfl
      · cases ho
      · rw [List.mem_singleton] at ho
        subst ho
        trivial

/-- So does one that finds its server, which the provider holds from then on. -/
private theorem Sound.found {d : McpAuthDiscovery} (h : Sound deps es s)
    (hcall : discoverMcpAuthorization deps.sdk e.net e.clock s.caches
      ((deps.providers p).call force challenge) = (caches, .ok d))
    (hrest : rest = [] ∨ rest = [.exchange p (exchangeInput d force)])
    (hshown : Runtime.shown deps (es ++ [e]) = Runtime.shown deps es ++
      .discovered ((deps.providers p).call force challenge) (.ok d) :: rest)
    (hnested : (madeCalls deps (es ++ [e])).Pairwise ListsNested) :
    Sound deps (es ++ [e]) ⟨caches, Function.update s.discovery p (some d)⟩ := by
  have hone : callsIn (.discovered ((deps.providers p).call force challenge) (.ok d) :: rest) =
      [(deps.providers p).call force challenge] := by
    rcases hrest with rfl | rfl <;> rfl
  obtain ⟨hcaches, hresult⟩ :=
    discover_sound (e := e) h.caches (nested_of_shown hshown hone hnested)
  rw [hcall] at hcaches hresult
  have hsound := hresult d rfl
  apply h.concat hshown
  · rw [hone]
    exact hcaches
  · intro q d' hheld
    by_cases hq : q = p
    · subst hq
      simp only [Function.update_self] at hheld
      cases hheld
      exact hsound
    · simp only [Function.update_of_ne hq] at hheld
      exact h.provider_concat q d' hheld
  · intro o ho
    rcases List.mem_cons.mp ho with rfl | ho
    · exact hsound
    · rcases hrest with rfl | rfl
      · cases ho
      · rw [List.mem_singleton] at ho
        subst ho
        exact ⟨rfl, hsound⟩

/-- A call keeps the invariant when its list contains those it may read from. -/
private theorem Sound.step {out : RuntimeState × List RuntimeObservation} (h : Sound deps es s)
    (hmoves : Moves deps s e out)
    (hshown : Runtime.shown deps (es ++ [e]) = Runtime.shown deps es ++ out.2)
    (hnested : (madeCalls deps (es ++ [e])).Pairwise ListsNested) :
    Sound deps (es ++ [e]) out.1 := by
  cases hmoves with
  | quiet err => exact h.quiet hshown rfl trivial
  | reuse _ hheld => exact h.quiet hshown rfl ⟨rfl, h.provider_concat _ _ hheld⟩
  | direct call => exact h.direct hshown hnested
  | failed hcall hrest => exact h.failed hcall hrest hshown hnested
  | found hcall hrest => exact h.found hcall hrest hshown hnested

end Step

/-- The invariant holds after every run whose lists are nested. -/
theorem sound_run (deps : RuntimeDeps) (es : List RuntimeEvent)
    (hnested : (madeCalls deps es).Pairwise ListsNested) :
    Sound deps es ((runtime deps).run es) := by
  apply (runtime deps).run_induction_on (C := fun es ↦ (madeCalls deps es).Pairwise ListsNested)
    (P := Sound deps) _ _ _ es hnested
  · intro es e h
    rw [madeCalls, shown_concat, callsIn, List.filterMap_append, List.pairwise_append] at h
    exact h.1
  · refine ⟨⟨InsertionMap.forall_empty _, InsertionMap.forall_empty _⟩, ?_, ?_⟩
    · intro p d hd
      cases hd
    · intro o ho
      cases ho
  · intro es e hnested h
    exact h.step (runtimeStep_moves deps ((runtime deps).run es) e) shown_concat hnested

/-- In a run whose later calls with a list allow every server that an earlier call for the same
server URL allows, unless they bypass the cache, every discovery returned to a call with a list
names a server of that list, and every token endpoint that a provider exchanges with was learnt
from a server of the provider's own list. -/
theorem authorization_server_pinned (hnested : (madeCalls deps es).Pairwise ListsNested) :
    (∀ call d, .discovered call (.ok d) ∈ shown deps es →
      ∀ servers, call.opts.allowedAuthorizationServers = some servers →
        normalizeUrl d.authorizationServer ∈ servers.map normalizeUrl) ∧
    ∀ p input, .exchange p input ∈ shown deps es →
      ∀ servers, (deps.providers p).allowedAuthorizationServers = some servers →
        ∃ server ∈ servers, LearntFrom deps.sdk es (normalizeUrl server) input.tokenEndpoint := by
  have hsound := sound_run deps es hnested
  constructor
  · intro call d hin servers hallowed
    have hd : DiscoverySound deps.sdk es call.opts.allowedAuthorizationServers d :=
      hsound.shown _ hin
    exact hd.pinned servers hallowed
  · intro p input hin servers hallowed
    obtain ⟨hendpoint, hd⟩ := hsound.shown _ hin
    obtain ⟨server, hserver, hsame⟩ := List.mem_map.mp (hd.pinned servers hallowed)
    refine ⟨server, hserver, ?_⟩
    rw [hsame, hendpoint]
    exact hd.learnt

end Runs

section Sample

private def sampleServer : String := "https://mcp-gateway.localtest.me/inspect/mcp"

/-- Two providers for one MCP server, each with a list of its own. -/
private def sampleDeps : RuntimeDeps where
  sdk :=
    { parseUrl := fun _ ↦ .error "Invalid URL"
      assertSecureTokenEndpoint := .ok }
  providers := fun p ↦
    ⟨sampleServer,
      some (if p = 0 then ["https://curity.localtest.me"]
        else ["https://curity.localtest.me/", "https://other.localtest.me"]), none⟩

private def sampleMetadata (issuer : String) : Json :=
  .obj [("issuer", .str issuer), ("token_endpoint", .str (issuer ++ "/token")),
    ("client_id_metadata_document_supported", .bool true)]

/-- The MCP server names `issuer`, whose metadata can be fetched. -/
private def sampleNet (issuer : String) : Network where
  probe := fun _ ↦
    .ok (401, ⟨some ⟨"https:", "https://mcp-gateway.localtest.me", "/prm", "https://prm"⟩,
      some "inspect:read", some "invalid_token", "Bearer"⟩)
  get := fun _ ↦
    .ok (200, .ok (.obj [("resource", .str sampleServer),
      ("authorization_servers", .arr [.str issuer])]))
  discoverMetadata := fun key ↦ .ok (if key = issuer then some (sampleMetadata issuer) else none)

private def sampleEvent (issuer : String) (action : RuntimeAction) : RuntimeEvent :=
  ⟨action, sampleNet issuer, ⟨1000, 1000, 1000, 1000⟩⟩

private def sampleDiscovery (issuer : String) : McpAuthDiscovery :=
  ⟨sampleServer, "https://prm", .obj [("resource", .str sampleServer),
      ("authorization_servers", .arr [.str issuer])], issuer, sampleMetadata issuer,
    issuer ++ "/token", "inspect:read", .challenge, 1000⟩

private def sampleRun : List RuntimeEvent :=
  [sampleEvent "https://curity.localtest.me" (.provider 0 .acquire),
    sampleEvent "https://curity.localtest.me" (.provider 1 .acquire)]

private theorem sampleRun_shown : shown sampleDeps sampleRun =
    [.discovered ((sampleDeps.providers 0).call false none)
        (.ok (sampleDiscovery "https://curity.localtest.me")),
      .exchange 0 (exchangeInput (sampleDiscovery "https://curity.localtest.me") false),
      .discovered ((sampleDeps.providers 1).call false none)
        (.ok (sampleDiscovery "https://curity.localtest.me")),
      .exchange 1 (exchangeInput (sampleDiscovery "https://curity.localtest.me") false)] := by
  rfl

/-- The second provider is answered from the cache, within its own list. -/
theorem authorization_server_pinned_sample :
    ∃ server ∈ ["https://curity.localtest.me/", "https://other.localtest.me"],
      LearntFrom sampleDeps.sdk sampleRun (normalizeUrl server)
        "https://curity.localtest.me/token" := by
  have hcalls : madeCalls sampleDeps sampleRun =
      [(sampleDeps.providers 0).call false none, (sampleDeps.providers 1).call false none] := by
    rw [madeCalls, sampleRun_shown]
    rfl
  have hnested : ListsNested ((sampleDeps.providers 0).call false none)
      ((sampleDeps.providers 1).call false none) := by
    intro _ _ servers hservers
    refine ⟨["https://curity.localtest.me"], rfl, ?_⟩
    intro a ha
    rw [List.mem_singleton] at ha
    obtain rfl := Option.some.inj hservers
    subst ha
    decide
  have hpairwise : (madeCalls sampleDeps sampleRun).Pairwise ListsNested := by
    rw [hcalls]
    apply List.Pairwise.cons
    · intro later hlater
      rw [List.mem_singleton] at hlater
      subst hlater
      exact hnested
    · exact List.pairwise_singleton _ _
  have hpinned := authorization_server_pinned hpairwise
  exact hpinned.2 1 (exchangeInput (sampleDiscovery "https://curity.localtest.me") false)
    (by rw [sampleRun_shown]; simp) _ rfl

/-- A call without a list fills the cache, and a provider acquires a token. -/
private def divertedRun : List RuntimeEvent :=
  [sampleEvent "https://elsewhere.example"
      (.discover ⟨sampleServer, ⟨none, false, none, none⟩⟩),
    sampleEvent "https://elsewhere.example" (.provider 0 .acquire)]

private theorem divertedRun_shown : shown sampleDeps divertedRun =
    [.discovered ⟨sampleServer, ⟨none, false, none, none⟩⟩
        (.ok (sampleDiscovery "https://elsewhere.example")),
      .discovered ((sampleDeps.providers 0).call false none)
        (.ok (sampleDiscovery "https://elsewhere.example")),
      .exchange 0 (exchangeInput (sampleDiscovery "https://elsewhere.example") false)] := by
  rfl

/-- A provider is handed a cached server outside its list and exchanges with a token endpoint
that no server of its list has named. -/
theorem cached_server_not_pinned :
    (¬ ∀ es call d, .discovered call (.ok d) ∈ shown sampleDeps es →
      ∀ servers, call.opts.allowedAuthorizationServers = some servers →
        normalizeUrl d.authorizationServer ∈ servers.map normalizeUrl) ∧
    ¬ ∀ es p input, .exchange p input ∈ shown sampleDeps es →
      ∀ servers, (sampleDeps.providers p).allowedAuthorizationServers = some servers →
        ∃ server ∈ servers, LearntFrom sampleDeps.sdk es (normalizeUrl server)
          input.tokenEndpoint := by
  constructor
  · intro h
    have hin := h divertedRun ((sampleDeps.providers 0).call false none)
      (sampleDiscovery "https://elsewhere.example") (by rw [divertedRun_shown]; simp) _ rfl
    exact absurd hin (by decide)
  · intro h
    obtain ⟨server, hserver, e, he, value, hfetch, -⟩ := h divertedRun 0
      (exchangeInput (sampleDiscovery "https://elsewhere.example") false)
      (by rw [divertedRun_shown]; simp) _ rfl
    have hnone : ∀ e ∈ divertedRun, ∀ value, fetchMetadata sampleDeps.sdk e.net.discoverMetadata
        (normalizeUrl "https://curity.localtest.me") ≠ .ok value := by
      intro e he value hvalue
      simp only [divertedRun, List.mem_cons, List.not_mem_nil, or_false] at he
      rcases he with rfl | rfl <;> cases hvalue
    rw [show server = "https://curity.localtest.me" from List.mem_singleton.mp hserver] at hfetch
    exact hnone e he value hfetch

end Sample
end AgentsAuth.Runtime
