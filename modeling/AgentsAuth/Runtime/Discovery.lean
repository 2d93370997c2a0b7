import AgentsAuth.Runtime.Pinning

/-!
# What a discovery returns and how it fails

One call of `discoverMcpAuthorization` after any sequence of calls. A discovery is put
together from the challenge, the protected resource metadata and the metadata of the
server named there, and nothing is cached before the last check. The documents are read
at their declared types, which a remote server need not respect.
-/

namespace AgentsAuth.Runtime

open AgentsAuth.AuthCurity AgentsAuth.Base AgentsAuth.Lib

/-- `DISCOVERY_CODES`. -/
def discoveryCodes : List CurityAuthErrorCode :=
  [.discoveryFailed, .resourceMismatch, .cimdUnsupported, .scopeUnavailable]

/-- Model of `mcp-oauth-client.ts:62–64`. -/
def isDiscoveryFailure : Thrown → Bool
  | .curityAuth e => discoveryCodes.contains e.code
  | .other _ _ => false

/-- The challenge that a call goes by. -/
def challengeOf (net : Network) (call : DiscoverCall) : Except Thrown Challenge :=
  call.opts.challenge.elim (probeUnauthenticated net (normalizeUrl call.serverUrl)) .ok

/-- The challenge that a call goes by, with the document that it leads to and where that was. -/
def readPrm (sdk : Sdk) (net : Network) (call : DiscoverCall) :
    Except Thrown (Challenge × String × Json) := do
  let key := normalizeUrl call.serverUrl
  let challenge ← challengeOf net call
  let candidates ← prmCandidates sdk key challenge.resourceMetadataUrl
  let some (prmUrl, prm) ← findPrm net candidates
    | .error (discoveryFailed ("no protected resource metadata for " ++ key ++ " (tried " ++
        ", ".intercalate candidates ++ ")"))
  return (challenge, prmUrl, prm)

/-- A discovery that some call may be answered with from the cache. -/
def cachedFor (caches : Caches) (clock : Clock) (call : DiscoverCall) : Option McpAuthDiscovery :=
  (caches.discovery.get? (normalizeUrl call.serverUrl)).filter fun hit ↦
    reusable call.opts.force (call.opts.ttlMs.getD discoveryTtlMs) clock.now hit.discoveredAt

section Read

variable {sdk : Sdk} {net : Network} {clock : Clock} {caches : Caches} {call : DiscoverCall}

/-- A hit is returned and changes nothing. -/
theorem discover_of_hit {hit : McpAuthDiscovery} (h : cachedFor caches clock call = some hit) :
    discoverMcpAuthorization sdk net clock caches call = (caches, .ok hit) := by
  unfold cachedFor at h
  simp only [discoverMcpAuthorization, h]

/-- A miss runs the chain. -/
theorem discover_of_miss (h : cachedFor caches clock call = none) :
    discoverMcpAuthorization sdk net clock caches call =
      discoverUncached sdk net clock caches call := by
  unfold cachedFor at h
  simp only [discoverMcpAuthorization, h]

/-- A document is located once it is read and names a server that the call allows. -/
theorem locate_eq (sdk : Sdk) (net : Network) (call : DiscoverCall) :
    locate sdk net call = readPrm sdk net call >>= fun read ↦
    namedServer (normalizeUrl call.serverUrl) read.2.1 read.2.2 >>= fun server ↦
      checkAllowed read.2.1 server call.opts.allowedAuthorizationServers >>= fun _ ↦
        .ok ⟨read.1.scope, read.2.1, read.2.2, server⟩ := by
  unfold locate readPrm
  change (challengeOf net call >>= _) = (challengeOf net call >>= _) >>= _
  cases challengeOf net call with
  | error e => rfl
  | ok challenge =>
    change (prmCandidates sdk (normalizeUrl call.serverUrl) challenge.resourceMetadataUrl >>= _) =
      (prmCandidates sdk (normalizeUrl call.serverUrl) challenge.resourceMetadataUrl >>= _) >>= _
    cases prmCandidates sdk (normalizeUrl call.serverUrl) challenge.resourceMetadataUrl with
    | error e => rfl
    | ok candidates =>
      change (findPrm net candidates >>= _) = (findPrm net candidates >>= _) >>= _
      cases findPrm net candidates with
      | error e => rfl
      | ok found =>
        cases found with
        | none => rfl
        | some found => rfl

end Read

section Typed

variable {sdk : Sdk} {net : Network} {clock : Clock} {caches : Caches} {call : DiscoverCall}
  {e : Thrown}

/-- The server that the document names for this URL is a string, if there is one at all. -/
def ServersTyped (key : String) (prm : Json) : Prop :=
  normalizeUrl ((Json.string? (prm.get? "resource")).getD "") = key →
    ∀ v, index0 (prm.get? "authorization_servers") = some v → v.truthy = true → ∃ s, v = .str s

/-- The scopes are a list of values with a text, or nothing that has a length. -/
def ScopesTyped : Option Json → Prop
  | some (.arr items) => Json.itemsHaveText items = true
  | some (.str s) => s = ""
  | some (.obj members) => ∀ length, members.lookup "length" = some length →
      length.positive? = some false
  | _ => True

/-- The documents have the types that a call relies on, as far as it comes to rely on them. -/
structure DocumentsTyped (sdk : Sdk) (net : Network) (clock : Clock) (caches : Caches)
    (call : DiscoverCall) : Prop where
  servers : ∀ challenge prmUrl prm, readPrm sdk net call = .ok (challenge, prmUrl, prm) →
    ServersTyped (normalizeUrl call.serverUrl) prm
  scopes : ∀ challenge prmUrl prm server resolved,
    readPrm sdk net call = .ok (challenge, prmUrl, prm) →
    namedServer (normalizeUrl call.serverUrl) prmUrl prm = .ok server →
    checkAllowed prmUrl server call.opts.allowedAuthorizationServers = .ok () →
    (resolveAuthorizationServer sdk caches.metadata server call.opts.force
      (call.opts.ttlMs.getD discoveryTtlMs) net.discoverMetadata clock.metadataNow
      clock.fetchedAt).2 = .ok resolved →
    (challenge.scope.map trim).filter (· ≠ "") = none → ScopesTyped (prm.get? "scopes_supported")

private theorem challengeOf_error (h : challengeOf net call = .error e) :
    isDiscoveryFailure e = true := by
  unfold challengeOf at h
  cases hchallenge : call.opts.challenge with
  | some challenge =>
    rw [hchallenge] at h
    cases h
  | none =>
    rw [hchallenge] at h
    change probeUnauthenticated net (normalizeUrl call.serverUrl) = _ at h
    unfold probeUnauthenticated at h
    split at h
    · cases h
      rfl
    · split at h
      · cases h
        rfl
      · cases h

private theorem findPrm_error {candidates : List String} (h : findPrm net candidates = .error e) :
    isDiscoveryFailure e = true := by
  induction candidates with
  | nil => cases h
  | cons url candidates ih =>
    rw [findPrm] at h
    split at h
    · cases h
      rfl
    · exact ih h
    · cases h

/-- With a server URL that parses, reading the document fails typed. -/
private theorem readPrm_error (hurl : ∃ u, sdk.parseUrl (normalizeUrl call.serverUrl) = .ok u)
    (h : readPrm sdk net call = .error e) : isDiscoveryFailure e = true := by
  obtain ⟨u, hu⟩ := hurl
  unfold readPrm at h
  change (challengeOf net call >>= _) = _ at h
  cases hchallenge : challengeOf net call with
  | error e' =>
    rw [hchallenge] at h
    cases h
    exact challengeOf_error hchallenge
  | ok challenge =>
    rw [hchallenge] at h
    change (prmCandidates sdk (normalizeUrl call.serverUrl) challenge.resourceMetadataUrl >>= _) = _
      at h
    cases hcandidates : prmCandidates sdk (normalizeUrl call.serverUrl)
        challenge.resourceMetadataUrl with
    | error e' =>
      rw [hcandidates] at h
      cases h
      unfold prmCandidates wellKnownPrmUrls at hcandidates
      rw [hu] at hcandidates
      split at hcandidates
      · cases hcandidates
      · split at hcandidates
        · cases hcandidates
          rfl
        · cases hcandidates
    | ok candidates =>
      rw [hcandidates] at h
      change (findPrm net candidates >>= _) = _ at h
      cases hfound : findPrm net candidates with
      | error e' =>
        rw [hfound] at h
        cases h
        exact findPrm_error hfound
      | ok found =>
        rw [hfound] at h
        cases found with
        | none =>
          cases h
          rfl
        | some found => cases h

/-- Metadata of another resource is refused. -/
theorem namedServer_of_ne {key : String} (prmUrl : String) {prm : Json}
    (h : normalizeUrl ((Json.string? (prm.get? "resource")).getD "") ≠ key) :
    ∃ message, namedServer key prmUrl prm = .error (.curityAuth ⟨message, .resourceMismatch⟩) := by
  unfold namedServer
  simp only [if_pos h]
  exact ⟨_, rfl⟩

/-- That of the resource itself is asked for its first authorization server. -/
theorem namedServer_of_eq {key prmUrl : String} {prm : Json}
    (h : normalizeUrl ((Json.string? (prm.get? "resource")).getD "") = key) :
    namedServer key prmUrl prm =
      match (index0 (prm.get? "authorization_servers")).filter (·.truthy) with
      | none =>
        .error (discoveryFailed
          ("protected resource metadata at " ++ prmUrl ++ " lists no authorization_servers"))
      | some (.str authorizationServer) =>
        if isHttps authorizationServer then .ok authorizationServer
        else
          .error (discoveryFailed ("protected resource metadata at " ++ prmUrl ++
            " names a non-https authorization server: " ++ authorizationServer))
      | some _ =>
        .error (.other "TypeError" "authorizationServer.startsWith is not a function") := by
  unfold namedServer
  simp only [if_neg (not_not_intro h)]
  rfl

/-- The named server is judged typed exactly when it is of its declared type. -/
private theorem namedServer_typed_iff (key prmUrl : String) (prm : Json) :
    (∀ e, namedServer key prmUrl prm = .error e → isDiscoveryFailure e = true) ↔
      ServersTyped key prm := by
  unfold ServersTyped
  by_cases hkey : normalizeUrl ((Json.string? (prm.get? "resource")).getD "") = key
  · rw [namedServer_of_eq hkey]
    constructor
    · intro h _ v hv htruthy
      rw [hv, Option.filter_some, if_pos htruthy] at h
      cases v with
      | str s => exact ⟨s, rfl⟩
      | null => cases htruthy
      | bool b => cases h _ rfl
      | num n => cases h _ rfl
      | arr items => cases h _ rfl
      | obj members => cases h _ rfl
    · intro h e he
      split at he
      · cases he
        rfl
      · split at he
        · cases he
        · cases he
          rfl
      · next v hnot hfilter =>
        obtain ⟨hv, htruthy⟩ := Option.filter_eq_some_iff.mp hfilter
        obtain ⟨s, rfl⟩ := h hkey v hv htruthy
        exact absurd rfl (hnot s)
  · obtain ⟨message, hmessage⟩ := namedServer_of_ne prmUrl hkey
    rw [hmessage]
    constructor
    · intro _ hkey'
      exact absurd hkey' hkey
    · intro _ e he
      cases he
      rfl

private theorem checkAllowed_error {prmUrl server : String} {allowed : Option (List String)}
    (h : checkAllowed prmUrl server allowed = .error e) : isDiscoveryFailure e = true := by
  unfold checkAllowed at h
  split at h
  · cases h
  · simp only at h
    split at h
    · cases h
    · cases h
      rfl

private theorem resolve_error {err : CurityAuthError} {cache : MetadataCache} {issuer : String}
    {force : Bool} {ttlMs now fetchedAt : Int} {fetch : String → Except String (Option Json)}
    (h : (resolveAuthorizationServer sdk cache issuer force ttlMs fetch now fetchedAt).2 =
      .error err) : isDiscoveryFailure (.curityAuth err) = true := by
  unfold resolveAuthorizationServer at h
  simp only at h
  split at h
  · cases h
    rfl
  · split at h
    · cases h
    · split at h
      · next e' hfetch =>
        cases h
        unfold fetchMetadata at hfetch
        split at hfetch
        · cases hfetch
          rfl
        · cases hfetch
          rfl
        · unfold validateAuthorizationServerMetadata at hfetch
          split at hfetch
          · split at hfetch
            · cases hfetch
              rfl
            · split at hfetch
              · cases hfetch
                rfl
              · cases hfetch
          · cases hfetch
            rfl
      · cases h

private theorem joinScopes_obj_cases (members : List (String × Json)) :
    (ScopesTyped (some (.obj members)) ∧ ∃ text, joinScopes (some (.obj members)) = .ok text) ∨
      (¬ ScopesTyped (some (.obj members)) ∧
        ∃ e, joinScopes (some (.obj members)) = .error e ∧ isDiscoveryFailure e = false) := by
  simp only [ScopesTyped, joinScopes]
  cases members.lookup "length" with
  | none =>
    refine Or.inl ⟨?_, _, rfl⟩
    intro length h
    cases h
  | some length =>
    simp only [Option.some.injEq, forall_eq']
    cases length.positive? with
    | none => exact Or.inr ⟨by decide, _, rfl, rfl⟩
    | some positive =>
      cases positive with
      | false => exact Or.inl ⟨rfl, _, rfl⟩
      | true => exact Or.inr ⟨by decide, _, rfl, rfl⟩

/-- The scopes are joined exactly when they are typed, and what is thrown otherwise is raw. -/
private theorem joinScopes_cases (value : Option Json) :
    (ScopesTyped value ∧ ∃ text, joinScopes value = .ok text) ∨
      (¬ ScopesTyped value ∧ ∃ e, joinScopes value = .error e ∧ isDiscoveryFailure e = false) := by
  cases value with
  | none => exact Or.inl ⟨trivial, _, rfl⟩
  | some v =>
    cases v with
    | null => exact Or.inl ⟨trivial, _, rfl⟩
    | bool b => exact Or.inl ⟨trivial, _, rfl⟩
    | num n => exact Or.inl ⟨trivial, _, rfl⟩
    | str s =>
      by_cases hempty : s = ""
      · exact Or.inl ⟨hempty, _, if_pos hempty⟩
      · exact Or.inr ⟨hempty, _, if_neg hempty, rfl⟩
    | arr items =>
      by_cases htext : Json.itemsHaveText items = true
      · exact Or.inl ⟨htext, _, if_pos htext⟩
      · exact Or.inr ⟨htext, _, if_neg htext, rfl⟩
    | obj members => exact joinScopes_obj_cases members

/-- The scope is selected typed exactly when the challenge names one or the list can be joined. -/
private theorem selectScope_typed_iff (key : String) (loc : Located) :
    (∀ e, selectScope key loc = .error e → isDiscoveryFailure e = true) ↔
      ((loc.challengeScope.map trim).filter (· ≠ "") = none →
        ScopesTyped (loc.prm.get? "scopes_supported")) := by
  unfold selectScope
  split
  · next scope hscope =>
    apply iff_of_true
    · intro e he
      cases he
    · intro hnone
      rw [hscope] at hnone
      cases hnone
  · next hblank =>
    rcases joinScopes_cases (loc.prm.get? "scopes_supported") with
      ⟨htyped, text, htext⟩ | ⟨huntyped, e', he', hraw⟩
    · rw [htext]
      apply iff_of_true
      · intro e he
        simp only at he
        split at he
        · cases he
          rfl
        · cases he
      · intro _
        exact htyped
    · rw [he']
      apply iff_of_false
      · intro h
        have htyped := h e' rfl
        rw [hraw] at htyped
        cases htyped
      · intro h
        exact huntyped (h hblank)

/-- A located document names a server that is allowed, and conversely. -/
private theorem locate_of_readPrm {challenge : Challenge} {prmUrl : String} {prm : Json}
    (hread : readPrm sdk net call = .ok (challenge, prmUrl, prm)) :
    locate sdk net call =
      namedServer (normalizeUrl call.serverUrl) prmUrl prm >>= fun server ↦
        checkAllowed prmUrl server call.opts.allowedAuthorizationServers >>= fun _ ↦
          .ok ⟨challenge.scope, prmUrl, prm, server⟩ := by
  rw [locate_eq, hread]
  exact pure_bind (challenge, prmUrl, prm) _

private theorem discoverUncached_of_locate_error (h : locate sdk net call = .error e) :
    (discoverUncached sdk net clock caches call).2 = .error e := by
  simp only [discoverUncached, h]

/-- A call that has located its document fails as the metadata or the scope does. -/
private theorem discoverUncached_of_located {loc : Located} (h : locate sdk net call = .ok loc) :
    (discoverUncached sdk net clock caches call).2 = .error e ↔
      (∃ err, (resolveAuthorizationServer sdk caches.metadata loc.authorizationServer
          call.opts.force (call.opts.ttlMs.getD discoveryTtlMs) net.discoverMetadata
          clock.metadataNow clock.fetchedAt).2 = .error err ∧ e = .curityAuth err) ∨
        (∃ resolved, (resolveAuthorizationServer sdk caches.metadata loc.authorizationServer
          call.opts.force (call.opts.ttlMs.getD discoveryTtlMs) net.discoverMetadata
          clock.metadataNow clock.fetchedAt).2 = .ok resolved) ∧
          selectScope (normalizeUrl call.serverUrl) loc = .error e := by
  simp only [discoverUncached, h]
  generalize resolveAuthorizationServer sdk caches.metadata loc.authorizationServer
    call.opts.force (call.opts.ttlMs.getD discoveryTtlMs) net.discoverMetadata clock.metadataNow
    clock.fetchedAt = out
  obtain ⟨metadata, result⟩ := out
  cases result with
  | error err =>
    constructor
    · intro he
      cases he
      exact Or.inl ⟨err, rfl, rfl⟩
    · rintro (⟨err', herr, rfl⟩ | ⟨⟨resolved, hresolved⟩, -⟩)
      · cases herr
        rfl
      · cases hresolved
  | ok resolved =>
    cases hscope : selectScope (normalizeUrl call.serverUrl) loc with
    | error e' =>
      constructor
      · intro he
        cases he
        exact Or.inr ⟨⟨resolved, rfl⟩, rfl⟩
      · rintro (⟨err', herr, rfl⟩ | ⟨-, he⟩)
        · cases herr
        · cases he
          rfl
    | ok found =>
      constructor
      · intro he
        cases he
      · rintro (⟨err', herr, rfl⟩ | ⟨-, he⟩)
        · cases herr
        · cases he

/-- An uncached call without a document fails typed. -/
private theorem typed_of_readPrm_error {e' : Thrown}
    (hurl : ∃ u, sdk.parseUrl (normalizeUrl call.serverUrl) = .ok u)
    (hread : readPrm sdk net call = .error e') :
    (∀ e, (discoverUncached sdk net clock caches call).2 = .error e →
        isDiscoveryFailure e = true) ∧ DocumentsTyped sdk net clock caches call := by
  have hlocate : locate sdk net call = .error e' := by
    rw [locate_eq, hread]
    rfl
  constructor
  · intro e he
    rw [discoverUncached_of_locate_error hlocate] at he
    cases he
    exact readPrm_error hurl hread
  · constructor
    · intro challenge prmUrl prm h
      rw [hread] at h
      cases h
    · intro challenge prmUrl prm server resolved h
      rw [hread] at h
      cases h

section Document

variable {challenge : Challenge} {prmUrl server : String} {prm : Json} {e' : Thrown}

/-- A document that names its server has it typed. -/
private theorem serversTyped_of_readPrm
    (hread : readPrm sdk net call = .ok (challenge, prmUrl, prm))
    (hserver : namedServer (normalizeUrl call.serverUrl) prmUrl prm = .ok server) :
    ∀ challenge' prmUrl' prm', readPrm sdk net call = .ok (challenge', prmUrl', prm') →
      ServersTyped (normalizeUrl call.serverUrl) prm' := by
  intro challenge' prmUrl' prm' hread'
  rw [hread] at hread'
  cases hread'
  apply (namedServer_typed_iff (normalizeUrl call.serverUrl) prmUrl prm).mp
  intro e he
  rw [hserver] at he
  cases he

/-- A document that does not name its server is refused typed exactly when its servers are typed. -/
private theorem typed_iff_of_namedServer_error
    (hread : readPrm sdk net call = .ok (challenge, prmUrl, prm))
    (hserver : namedServer (normalizeUrl call.serverUrl) prmUrl prm = .error e') :
    (∀ e, (discoverUncached sdk net clock caches call).2 = .error e →
        isDiscoveryFailure e = true) ↔ DocumentsTyped sdk net clock caches call := by
  have hlocate := locate_of_readPrm hread
  have htyped := namedServer_typed_iff (normalizeUrl call.serverUrl) prmUrl prm
  rw [hserver] at hlocate htyped
  have hresult := @discoverUncached_of_locate_error _ _ clock caches _ _ hlocate
  constructor
  · intro h
    constructor
    · intro challenge' prmUrl' prm' hread'
      rw [hread] at hread'
      cases hread'
      apply htyped.mp
      intro e he
      cases he
      exact h e' hresult
    · intro challenge' prmUrl' prm' server resolved hread' hserver'
      rw [hread] at hread'
      cases hread'
      rw [hserver] at hserver'
      cases hserver'
  · intro h e he
    rw [hresult] at he
    cases he
    exact htyped.mpr (h.servers challenge prmUrl prm hread) e' rfl

/-- A server outside of the list is refused typed. -/
private theorem typed_of_notAllowed (hread : readPrm sdk net call = .ok (challenge, prmUrl, prm))
    (hserver : namedServer (normalizeUrl call.serverUrl) prmUrl prm = .ok server)
    (hallowed : checkAllowed prmUrl server call.opts.allowedAuthorizationServers = .error e') :
    (∀ e, (discoverUncached sdk net clock caches call).2 = .error e →
        isDiscoveryFailure e = true) ∧ DocumentsTyped sdk net clock caches call := by
  have hlocate := locate_of_readPrm hread
  rw [hserver] at hlocate
  change _ = (checkAllowed prmUrl server call.opts.allowedAuthorizationServers >>= _) at hlocate
  rw [hallowed] at hlocate
  have hresult := @discoverUncached_of_locate_error _ _ clock caches _ _ hlocate
  constructor
  · intro e he
    rw [hresult] at he
    cases he
    exact checkAllowed_error hallowed
  · refine ⟨serversTyped_of_readPrm hread hserver, ?_⟩
    intro challenge' prmUrl' prm' server' resolved hread' hserver' hallowed'
    rw [hread] at hread'
    cases hread'
    rw [hserver] at hserver'
    cases hserver'
    rw [hallowed] at hallowed'
    cases hallowed'

/-- Behind a server of the list it comes down to the scopes. -/
private theorem typed_iff_of_located (hread : readPrm sdk net call = .ok (challenge, prmUrl, prm))
    (hserver : namedServer (normalizeUrl call.serverUrl) prmUrl prm = .ok server)
    (hallowed : checkAllowed prmUrl server call.opts.allowedAuthorizationServers = .ok ()) :
    (∀ e, (discoverUncached sdk net clock caches call).2 = .error e →
        isDiscoveryFailure e = true) ↔ DocumentsTyped sdk net clock caches call := by
  have hlocate := locate_of_readPrm hread
  rw [hserver] at hlocate
  change _ = (checkAllowed prmUrl server call.opts.allowedAuthorizationServers >>= _) at hlocate
  rw [hallowed] at hlocate
  change locate sdk net call = .ok ⟨challenge.scope, prmUrl, prm, server⟩ at hlocate
  have hscope := selectScope_typed_iff (normalizeUrl call.serverUrl)
    ⟨challenge.scope, prmUrl, prm, server⟩
  constructor
  · intro h
    refine ⟨serversTyped_of_readPrm hread hserver, ?_⟩
    intro challenge' prmUrl' prm' server' resolved hread' hserver' hallowed' hresolved
    rw [hread] at hread'
    cases hread'
    rw [hserver] at hserver'
    cases hserver'
    apply hscope.mp
    intro e he
    exact h e ((discoverUncached_of_located hlocate).mpr (Or.inr ⟨⟨resolved, hresolved⟩, he⟩))
  · intro h e he
    rcases (discoverUncached_of_located hlocate).mp he with
      ⟨err, herr, rfl⟩ | ⟨⟨resolved, hresolved⟩, hselect⟩
    · exact resolve_error herr
    · exact hscope.mpr (h.scopes challenge prmUrl prm server resolved hread hserver hallowed
        hresolved) e hselect

end Document

/-- An uncached call fails typed exactly when the documents have their declared types. -/
private theorem discoverUncached_typed_iff
    (hurl : ∃ u, sdk.parseUrl (normalizeUrl call.serverUrl) = .ok u) :
    (∀ e, (discoverUncached sdk net clock caches call).2 = .error e →
        isDiscoveryFailure e = true) ↔ DocumentsTyped sdk net clock caches call := by
  cases hread : readPrm sdk net call with
  | error e' =>
    obtain ⟨hfails, htyped⟩ := @typed_of_readPrm_error _ _ clock caches _ _ hurl hread
    exact iff_of_true hfails htyped
  | ok read =>
    obtain ⟨challenge, prmUrl, prm⟩ := read
    cases hserver : namedServer (normalizeUrl call.serverUrl) prmUrl prm with
    | error e' => exact typed_iff_of_namedServer_error hread hserver
    | ok server =>
      cases hallowed : checkAllowed prmUrl server call.opts.allowedAuthorizationServers with
      | error e' =>
        obtain ⟨hfails, htyped⟩ :=
          @typed_of_notAllowed _ _ clock caches _ _ _ _ _ _ hread hserver hallowed
        exact iff_of_true hfails htyped
      | ok u => exact typed_iff_of_located hread hserver hallowed

/-- A discovery for a URL that parses without its trailing slashes fails typed exactly when it is
answered from the cache or its documents have their declared types. -/
theorem discover_typed_iff (hkey : ∃ u, sdk.parseUrl (normalizeUrl call.serverUrl) = .ok u) :
    (∀ e, (discoverMcpAuthorization sdk net clock caches call).2 = .error e →
        isDiscoveryFailure e = true) ↔
      (cachedFor caches clock call = none → DocumentsTyped sdk net clock caches call) := by
  cases hhit : cachedFor caches clock call with
  | some hit =>
    rw [discover_of_hit hhit]
    apply iff_of_true
    · intro e he
      cases he
    · intro h
      cases h
  | none =>
    rw [discover_of_miss hhit]
    exact (discoverUncached_typed_iff hkey).trans (imp_iff_right rfl).symm

/-- With a server URL that parses, with or without its trailing slashes, a discovery that is not
answered from the cache fails with a discovery code, if it fails, exactly when the documents that
it comes to rely on have their declared types. -/
theorem discovery_typed_iff
    (hurl : ∃ u, sdk.parseUrl call.serverUrl = .ok u)
    (hslashes : ∀ url u, sdk.parseUrl url = .ok u →
      ∃ u', sdk.parseUrl (normalizeUrl url) = .ok u') :
    (∀ e, (discoverMcpAuthorization sdk net clock caches call).2 = .error e →
        isDiscoveryFailure e = true) ↔
      (cachedFor caches clock call = none → DocumentsTyped sdk net clock caches call) := by
  apply discover_typed_iff
  obtain ⟨u, hu⟩ := hurl
  exact hslashes call.serverUrl u hu

end Typed

section TypedSample

/-- A parser of URLs that knows those of the sample. -/
private def typedSdk : Sdk where
  parseUrl := fun url ↦
    if normalizeUrl url = "https://gateway.example/mcp" then
      .ok ⟨"https:", "https://gateway.example", "/mcp", url⟩
    else .error "Invalid URL"
  assertSecureTokenEndpoint := .ok

private def typedCall : DiscoverCall := ⟨"https://gateway.example/mcp/", ⟨none, false, none, none⟩⟩

/-- A server whose challenge says nothing and whose document is at the first candidate. -/
private def typedNet (servers scopes : Json) : Network where
  probe := fun _ ↦ .ok (401, ⟨none, none, none, "Bearer"⟩)
  get := fun _ ↦ .ok (200, .ok (.obj [("resource", .str "https://gateway.example/mcp"),
    ("authorization_servers", servers), ("scopes_supported", scopes)]))
  discoverMetadata := fun _ ↦ .ok (some (.obj [
    ("client_id_metadata_document_supported", .bool true),
    ("token_endpoint", .str "https://curity.example/token")]))

private def typedCaches : Caches := ⟨.empty, .empty⟩

private def typedResult (servers scopes : Json) : Except Thrown McpAuthDiscovery :=
  (discoverMcpAuthorization typedSdk (typedNet servers scopes) ⟨0, 0, 0, 0⟩ typedCaches
    typedCall).2

private theorem readPrm_typed (servers scopes : Json) :
    ∃ challenge prmUrl, readPrm typedSdk (typedNet servers scopes) typedCall =
      .ok (challenge, prmUrl, .obj [("resource", .str "https://gateway.example/mcp"),
        ("authorization_servers", servers), ("scopes_supported", scopes)]) :=
  ⟨_, _, rfl⟩

/-- A document with an empty list of scopes is refused with a discovery code. -/
theorem discovery_typed_iff_sample :
    ∃ e, typedResult (.arr [.str "https://curity.example"]) (.arr []) = .error e ∧
      isDiscoveryFailure e = true := by
  have hurl : ∃ u, typedSdk.parseUrl typedCall.serverUrl = .ok u := ⟨_, rfl⟩
  have hslashes : ∀ url u, typedSdk.parseUrl url = .ok u →
      ∃ u', typedSdk.parseUrl (normalizeUrl url) = .ok u' := by
    intro url u h
    have hknown : normalizeUrl url = "https://gateway.example/mcp" := by
      by_contra hne
      simp only [typedSdk, if_neg hne] at h
      cases h
    rw [hknown]
    exact ⟨_, rfl⟩
  have htyped : ∀ e, typedResult (.arr [.str "https://curity.example"]) (.arr []) = .error e →
      isDiscoveryFailure e = true := by
    apply (discovery_typed_iff hurl hslashes).mpr
    intro _
    constructor
    · intro challenge prmUrl prm hread _ v hv htruthy
      obtain ⟨_, _, hdocument⟩ := readPrm_typed (.arr [.str "https://curity.example"]) (.arr [])
      cases hdocument.symm.trans hread
      obtain rfl := Option.some.inj hv
      exact ⟨_, rfl⟩
    · intro challenge prmUrl prm server resolved hread _ _ _ _
      obtain ⟨_, _, hdocument⟩ := readPrm_typed (.arr [.str "https://curity.example"]) (.arr [])
      cases hdocument.symm.trans hread
      rfl
  exact ⟨_, rfl, htyped _ rfl⟩

/-- Neither a number for a server nor a text for the scopes is refused with a discovery code. -/
theorem discovery_untyped :
    (¬ ∀ servers scopes e, typedResult servers scopes = .error e → isDiscoveryFailure e = true) ∧
      typedResult (.arr [.num ⟨5, "5"⟩]) (.arr []) =
        .error (.other "TypeError" "authorizationServer.startsWith is not a function") ∧
      typedResult (.arr [.str "https://curity.example"]) (.str "inspect:read") =
        .error (.other "TypeError" "prm.scopes_supported.join is not a function") := by
  refine ⟨?_, rfl, rfl⟩
  intro h
  have htyped := h (.arr [.num ⟨5, "5"⟩]) (.arr []) _ rfl
  cases htyped

end TypedSample
end AgentsAuth.Runtime
