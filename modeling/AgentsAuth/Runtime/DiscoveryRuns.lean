import AgentsAuth.Runtime.Discovery
import AgentsAuth.Runtime.Pinning

/-!
# Where a discovery comes from

After any calls, the next one either hands out a discovery that its own time to live still
covers or runs the whole chain, and only a chain that passes every check is cached.
-/

namespace AgentsAuth.Runtime

open AgentsAuth.AuthCurity AgentsAuth.Base AgentsAuth.Lib

/-- The metadata advertises Client ID Metadata Documents and this token endpoint. -/
structure MetadataValid (sdk : Sdk) (metadata : Json) (tokenEndpoint : String) : Prop where
  cimd : metadata.get? "client_id_metadata_document_supported" = some (.bool true)
  endpoint : ∃ endpoint, metadata.get? "token_endpoint" = some (.str endpoint) ∧ endpoint ≠ "" ∧
    sdk.assertSecureTokenEndpoint endpoint = .ok tokenEndpoint

/-- What holds of every discovery, cached or not, for a server URL without trailing slashes. -/
structure WellFounded (sdk : Sdk) (key : String) (d : McpAuthDiscovery) : Prop where
  serverUrl : d.serverUrl = key
  resource : ∃ resource, d.resourceMetadata.get? "resource" = some (.str resource) ∧
    normalizeUrl resource = key
  server : index0 (d.resourceMetadata.get? "authorization_servers") =
    some (.str d.authorizationServer)
  https : isHttps d.authorizationServer = true
  metadata : MetadataValid sdk d.authorizationServerMetadata d.tokenEndpoint

/-- A candidate that does not have the document. -/
def Answers404 (net : Network) (url : String) : Prop := ∃ body, net.get url = .ok (404, body)

/-- Where the document is read: where the challenge points, over https, or else at the first
well-known candidate that does not answer 404. -/
def ReadAt (sdk : Sdk) (net : Network) (key : String) (fromHeader : Option Url) (prmUrl : String) :
    Prop :=
  match fromHeader with
  | some u => u.protocol = "https:" ∧ prmUrl = u.href
  | none => ∃ before after, wellKnownPrmUrls sdk key = .ok (before ++ prmUrl :: after) ∧
      (∀ url ∈ before, Answers404 net url) ∧ ¬ Answers404 net prmUrl

/-- Where the scope comes from: the challenge if it names one, and else the document. -/
def ScopeOf (challengeScope : Option String) (prm : Json) (scope : String) : ScopeSource → Prop
  | .challenge => ∃ text, challengeScope = some text ∧ trim text ≠ "" ∧ scope = trim text
  | .scopesSupported => (∀ text, challengeScope = some text → trim text = "") ∧ scope ≠ "" ∧
      ∃ items, prm.get? "scopes_supported" = some (.arr items) ∧
        scope = " ".intercalate (Json.itemTexts items)

/-- A server has answered a call of the run with this metadata, which was stored at this time. -/
def AnsweredIn (es : List RuntimeEvent) (server : String) (metadata : Json) (fetchedAt : Int) :
    Prop :=
  ∃ e ∈ es, e.net.discoverMetadata server = .ok (some metadata) ∧ e.clock.fetchedAt = fetchedAt

/-- Where a call after a run has the metadata of a server from: the server answers it now, or has
answered a call of the run that the call's time to live still covers. -/
inductive MetadataOf (es : List RuntimeEvent) (net : Network) (clock : Clock)
    (call : DiscoverCall) (server : String) (metadata : Json) : Prop
  | fetched (hanswer : net.discoverMetadata server = .ok (some metadata))
  | held {fetchedAt : Int} (hanswered : AnsweredIn es server metadata fetchedAt)
    (hnotForced : call.opts.force = false) (httl : 0 < call.opts.ttlMs.getD discoveryTtlMs)
    (hfresh : clock.metadataNow - fetchedAt < call.opts.ttlMs.getD discoveryTtlMs)

/-- A discovery that a call after a run has learnt from the network. -/
structure LearntBy (sdk : Sdk) (es : List RuntimeEvent) (net : Network) (clock : Clock)
    (call : DiscoverCall) (d : McpAuthDiscovery) : Prop where
  discoveredAt : d.discoveredAt = clock.discoveredAt
  document : ∃ status, (200 ≤ status ∧ status ≤ 299) ∧
    net.get d.resourceMetadataUrl = .ok (status, .ok d.resourceMetadata)
  challenge : ∃ challenge, challengeOf net call = .ok challenge ∧
    ReadAt sdk net (normalizeUrl call.serverUrl) challenge.resourceMetadataUrl
      d.resourceMetadataUrl ∧
    ScopeOf challenge.scope d.resourceMetadata d.scope d.scopeSource
  metadata : MetadataOf es net clock call (normalizeUrl d.authorizationServer)
    d.authorizationServerMetadata

/-- A discovery that is cached and that the caller's time to live still covers, with metadata of
the server it names. -/
structure Reused (es : List RuntimeEvent) (caches : Caches) (clock : Clock) (call : DiscoverCall)
    (d : McpAuthDiscovery) : Prop where
  answered : ∃ fetchedAt,
    AnsweredIn es (normalizeUrl d.authorizationServer) d.authorizationServerMetadata fetchedAt
  cached : caches.discovery.get? (normalizeUrl call.serverUrl) = some d
  notForced : call.opts.force = false
  ttl : 0 < call.opts.ttlMs.getD discoveryTtlMs
  fresh : clock.now - d.discoveredAt < call.opts.ttlMs.getD discoveryTtlMs

/-- The caches hold checked metadata, under the server that has answered with it, and checked
discoveries. -/
structure CachesValid (sdk : Sdk) (es : List RuntimeEvent) (caches : Caches) : Prop where
  metadata : caches.metadata.Forall fun key entry ↦
    MetadataValid sdk entry.value.metadata entry.value.tokenEndpoint ∧
      AnsweredIn es key entry.value.metadata entry.fetchedAt
  discovery : caches.discovery.Forall fun key d ↦
    WellFounded sdk key d ∧ ∃ fetchedAt,
      AnsweredIn es (normalizeUrl d.authorizationServer) d.authorizationServerMetadata fetchedAt

section Chain

variable {sdk : Sdk} {es : List RuntimeEvent} {e : RuntimeEvent} {net : Network} {clock : Clock}
  {caches : Caches} {call : DiscoverCall} {d : McpAuthDiscovery}

/-- Metadata that passes its checks. -/
theorem validate_ok {metadata : Json} {value : ResolvedAuthorizationServer}
    (h : validateAuthorizationServerMetadata sdk metadata = .ok value) :
    value.metadata = metadata ∧ MetadataValid sdk value.metadata value.tokenEndpoint := by
  unfold validateAuthorizationServerMetadata at h
  split at h
  · next hcimd =>
    split at h
    · cases h
    · next endpoint hendpoint =>
      obtain ⟨htext, hnonempty⟩ := Option.filter_eq_some_iff.mp hendpoint
      split at h
      · cases h
      · next href hhref =>
        cases h
        refine ⟨rfl, hcimd, endpoint, Json.string?_eq_some_iff.mp htext, ?_, hhref⟩
        simpa using hnonempty
  · cases h

/-- Metadata that is fetched is what the server answers, and has passed its checks. -/
theorem fetchMetadata_ok {fetch : String → Except String (Option Json)} {key : String}
    {value : ResolvedAuthorizationServer} (h : fetchMetadata sdk fetch key = .ok value) :
    fetch key = .ok (some value.metadata) ∧
      MetadataValid sdk value.metadata value.tokenEndpoint := by
  unfold fetchMetadata at h
  split at h
  · cases h
  · cases h
  · next metadata hanswer =>
    obtain ⟨hsame, hvalid⟩ := validate_ok h
    rw [hsame] at hvalid ⊢
    exact ⟨hanswer, hvalid⟩

private theorem AnsweredIn.concat {server : String} {metadata : Json} {fetchedAt : Int}
    (h : AnsweredIn es server metadata fetchedAt) :
    AnsweredIn (es ++ [e]) server metadata fetchedAt := by
  obtain ⟨e', he', hrest⟩ := h
  exact ⟨e', List.mem_append_left _ he', hrest⟩

private theorem answeredIn_self {server : String} {metadata : Json}
    (h : e.net.discoverMetadata server = .ok (some metadata)) :
    AnsweredIn (es ++ [e]) server metadata e.clock.fetchedAt :=
  ⟨e, List.mem_append_right _ (List.mem_singleton_self _), h, rfl⟩

private theorem CachesValid.concat (h : CachesValid sdk es caches) :
    CachesValid sdk (es ++ [e]) caches where
  metadata := h.metadata.imp fun _ _ ⟨hvalid, hanswered⟩ ↦ ⟨hvalid, hanswered.concat⟩
  discovery := h.discovery.imp fun _ _ ⟨hfounded, fetchedAt, hanswered⟩ ↦
    ⟨hfounded, fetchedAt, hanswered.concat⟩

/-- Metadata that a call uses is metadata that its server has answered with. -/
private theorem MetadataOf.answeredIn {server : String} {metadata : Json}
    (h : MetadataOf es e.net e.clock call server metadata) :
    ∃ fetchedAt, AnsweredIn (es ++ [e]) server metadata fetchedAt := by
  cases h with
  | fetched hanswer => exact ⟨_, answeredIn_self hanswer⟩
  | held hanswered _ _ _ => exact ⟨_, hanswered.concat⟩

/-- A server that a call resolves has checked metadata that the server itself has answered with. -/
private theorem resolve_spec {issuer : String} {metadata : MetadataCache}
    {resolved : ResolvedAuthorizationServer} (h : CachesValid sdk es caches)
    (hresolve : resolveAuthorizationServer sdk caches.metadata issuer call.opts.force
      (call.opts.ttlMs.getD discoveryTtlMs) net.discoverMetadata clock.metadataNow clock.fetchedAt =
        (metadata, .ok resolved)) :
    MetadataValid sdk resolved.metadata resolved.tokenEndpoint ∧
      MetadataOf es net clock call (normalizeUrl issuer) resolved.metadata := by
  rcases resolve_ok (congrArg Prod.snd hresolve) with ⟨entry, hentry, hreusable, rfl⟩ | hfetch
  · obtain ⟨hvalid, hanswered⟩ := h.metadata.of_get? hentry
    simp only [reusable, Bool.and_eq_true, Bool.not_eq_true', decide_eq_true_eq] at hreusable
    exact ⟨hvalid, .held hanswered hreusable.1.1 hreusable.1.2 hreusable.2⟩
  · obtain ⟨hanswer, hvalid⟩ := fetchMetadata_ok hfetch
    exact ⟨hvalid, .fetched hanswer⟩

private theorem fetchPrm_none {url : String} (h : fetchPrm net url = .ok none) :
    Answers404 net url := by
  obtain ⟨⟨status, body⟩, hget, h⟩ := bind_eq_ok_iff.mp h
  simp only at h
  by_cases h404 : status = 404
  · subst h404
    exact ⟨body, hget⟩
  · rw [if_neg h404] at h
    by_cases hok : 200 ≤ status ∧ status ≤ 299
    · rw [if_neg (not_not_intro hok)] at h
      obtain ⟨doc, -, h⟩ := bind_eq_ok_iff.mp h
      split at h
      · cases h
      · cases h
    · rw [if_pos hok] at h
      cases h

private theorem fetchPrm_some {url : String} {prm : Json} (h : fetchPrm net url = .ok (some prm)) :
    ∃ status, (200 ≤ status ∧ status ≤ 299) ∧ net.get url = .ok (status, .ok prm) ∧
      ∃ resource, prm.get? "resource" = some (.str resource) := by
  obtain ⟨⟨status, body⟩, hget, h⟩ := bind_eq_ok_iff.mp h
  simp only at h
  by_cases h404 : status = 404
  · rw [if_pos h404] at h
    cases h
  · rw [if_neg h404] at h
    by_cases hok : 200 ≤ status ∧ status ≤ 299
    · rw [if_neg (not_not_intro hok)] at h
      obtain ⟨doc, hdoc, hread⟩ := bind_eq_ok_iff.mp h
      subst hdoc
      split at hread
      · next resource hresource =>
        cases hread
        exact ⟨status, hok, hget, resource, Json.string?_eq_some_iff.mp hresource⟩
      · cases hread
    · rw [if_pos hok] at h
      cases h

/-- The document found is at the first candidate that does not answer 404. -/
private theorem findPrm_some {candidates : List String} {prmUrl : String} {prm : Json}
    (h : findPrm net candidates = .ok (some (prmUrl, prm))) :
    fetchPrm net prmUrl = .ok (some prm) ∧
      ∃ before after, candidates = before ++ prmUrl :: after ∧
        ∀ url ∈ before, Answers404 net url := by
  induction candidates with
  | nil => cases h
  | cons url candidates ih =>
    rw [findPrm] at h
    split at h
    · cases h
    · next hnone =>
      obtain ⟨hfetch, before, after, rfl, hbefore⟩ := ih h
      refine ⟨hfetch, url :: before, after, rfl, ?_⟩
      intro url' hin
      rcases List.mem_cons.mp hin with rfl | hin
      · exact fetchPrm_none hnone
      · exact hbefore url' hin
    · next hfetch =>
      cases h
      refine ⟨hfetch, [], candidates, rfl, ?_⟩
      intro url' hin
      cases hin

/-- A document that is read comes from where the challenge or the well-known URLs say. -/
theorem readPrm_ok {challenge : Challenge} {prmUrl : String} {prm : Json}
    (h : readPrm sdk net call = .ok (challenge, prmUrl, prm)) :
    challengeOf net call = .ok challenge ∧
      ReadAt sdk net (normalizeUrl call.serverUrl) challenge.resourceMetadataUrl prmUrl ∧
      fetchPrm net prmUrl = .ok (some prm) := by
  obtain ⟨challenge', hchallenge, h⟩ := bind_eq_ok_iff.mp h
  obtain ⟨candidates, hcandidates, h⟩ := bind_eq_ok_iff.mp h
  obtain ⟨found, hfound, h⟩ := bind_eq_ok_iff.mp h
  cases found with
  | none => cases h
  | some found =>
    obtain ⟨rfl, rfl⟩ : (challenge', found) = (challenge, prmUrl, prm) := Except.ok.inj h
    obtain ⟨hfetch, before, after, rfl, hbefore⟩ := findPrm_some hfound
    refine ⟨hchallenge, ?_, hfetch⟩
    unfold prmCandidates at hcandidates
    unfold ReadAt
    split at hcandidates
    · next hnone =>
      rw [hnone]
      refine ⟨before, after, hcandidates, hbefore, ?_⟩
      rintro ⟨body, hbody⟩
      obtain ⟨status, hok, hget, -⟩ := fetchPrm_some hfetch
      rw [hbody] at hget
      cases hget
      omega
    · next u hsome =>
      rw [hsome]
      split at hcandidates
      · cases hcandidates
      · next hhttps =>
        have hone := Except.ok.inj hcandidates
        have hlast : prmUrl ∈ [u.href] := by
          rw [hone]
          exact List.mem_append_right _ List.mem_cons_self
        exact ⟨not_not.mp hhttps, List.mem_singleton.mp hlast⟩

/-- A named server is the first of the list, over https, in a document about this server. -/
theorem namedServer_ok {key prmUrl server : String} {prm : Json}
    (h : namedServer key prmUrl prm = .ok server) :
    normalizeUrl ((Json.string? (prm.get? "resource")).getD "") = key ∧
      index0 (prm.get? "authorization_servers") = some (.str server) ∧ isHttps server = true := by
  by_cases hkey : normalizeUrl ((Json.string? (prm.get? "resource")).getD "") = key
  · rw [namedServer_of_eq hkey] at h
    split at h
    · cases h
    · next server' hserver =>
      split at h
      · next hhttps =>
        cases h
        exact ⟨hkey, (Option.filter_eq_some_iff.mp hserver).1, hhttps⟩
      · cases h
    · cases h
  · obtain ⟨message, hmessage⟩ := namedServer_of_ne prmUrl hkey
    rw [hmessage] at h
    cases h

private theorem joinScopes_ok {value : Option Json} {text : String}
    (h : joinScopes value = .ok text) (hne : text ≠ "") :
    ∃ items, value = some (.arr items) ∧ text = " ".intercalate (Json.itemTexts items) := by
  unfold joinScopes at h
  split at h
  · next items =>
    split at h
    · cases h
      exact ⟨items, rfl, rfl⟩
    · cases h
  · split at h
    · cases h
      exact absurd rfl hne
    · cases h
  · split at h
    · cases h
      exact absurd rfl hne
    · split at h
      · cases h
      · cases h
        exact absurd rfl hne
      · cases h
  · cases h
    exact absurd rfl hne

/-- A scope that is selected comes from the challenge, or else from the document. -/
theorem selectScope_ok {key : String} {loc : Located} {scope : String} {source : ScopeSource}
    (h : selectScope key loc = .ok (scope, source)) :
    ScopeOf loc.challengeScope loc.prm scope source := by
  unfold selectScope at h
  split at h
  · next scope' hscope =>
    cases h
    obtain ⟨hmap, hnonblank⟩ := Option.filter_eq_some_iff.mp hscope
    obtain ⟨text, htext, rfl⟩ := Option.map_eq_some_iff.mp hmap
    exact ⟨text, htext, by simpa using hnonblank, rfl⟩
  · next hblank =>
    split at h
    · cases h
    · next joined hjoined =>
      by_cases hempty : joined = ""
      · rw [if_pos hempty] at h
        cases h
      · rw [if_neg hempty] at h
        cases h
        refine ⟨?_, hempty, joinScopes_ok hjoined hempty⟩
        intro text htext
        rw [htext] at hblank
        simpa using hblank

/-- What is located has been read and names an https server for this URL. -/
theorem locate_spec {loc : Located} (h : locate sdk net call = .ok loc) :
    (∃ challenge, readPrm sdk net call = .ok (challenge, loc.prmUrl, loc.prm) ∧
      loc.challengeScope = challenge.scope) ∧
    namedServer (normalizeUrl call.serverUrl) loc.prmUrl loc.prm = .ok loc.authorizationServer := by
  rw [locate_eq] at h
  obtain ⟨⟨challenge, prmUrl, prm⟩, hread, h⟩ := bind_eq_ok_iff.mp h
  obtain ⟨server, hserver, h⟩ := bind_eq_ok_iff.mp h
  obtain ⟨allowed, -, h⟩ := bind_eq_ok_iff.mp h
  cases h
  exact ⟨⟨challenge, hread, rfl⟩, hserver⟩

/-- What is put together of a located document, checked metadata and a selected scope. -/
private theorem learnt_of_located {loc : Located} {resolved : ResolvedAuthorizationServer}
    {scope : String} {source : ScopeSource} (hlocate : locate sdk net call = .ok loc)
    (hmetadata : MetadataValid sdk resolved.metadata resolved.tokenEndpoint)
    (hof : MetadataOf es net clock call (normalizeUrl loc.authorizationServer) resolved.metadata)
    (hscope : selectScope (normalizeUrl call.serverUrl) loc = .ok (scope, source))
    (hd : d = ⟨normalizeUrl call.serverUrl, loc.prmUrl, loc.prm, loc.authorizationServer,
      resolved.metadata, resolved.tokenEndpoint, scope, source, clock.discoveredAt⟩) :
    WellFounded sdk (normalizeUrl call.serverUrl) d ∧ LearntBy sdk es net clock call d := by
  subst hd
  obtain ⟨⟨challenge, hread, hchallengeScope⟩, hserver⟩ := locate_spec hlocate
  obtain ⟨hchallenge, hat, hfetch⟩ := readPrm_ok hread
  obtain ⟨status, hok, hget, resource, hresource⟩ := fetchPrm_some hfetch
  obtain ⟨hkey, hfirst, hhttps⟩ := namedServer_ok hserver
  have hselected := selectScope_ok hscope
  rw [hchallengeScope] at hselected
  constructor
  · refine ⟨rfl, ⟨resource, hresource, ?_⟩, hfirst, hhttps, hmetadata⟩
    rw [hresource] at hkey
    exact hkey
  · exact ⟨rfl, ⟨status, hok, hget⟩, ⟨challenge, hchallenge, hat, hselected⟩, hof⟩

/-- A chain caches what it returns, and nothing when it fails. -/
theorem discoverUncached_spec (h : CachesValid sdk es caches) :
    CachesValid sdk (es ++ [e]) (discoverUncached sdk e.net e.clock caches call).1 ∧
    (∀ err, (discoverUncached sdk e.net e.clock caches call).2 = .error err →
      (discoverUncached sdk e.net e.clock caches call).1.discovery = caches.discovery) ∧
    ∀ d, (discoverUncached sdk e.net e.clock caches call).2 = .ok d →
      (discoverUncached sdk e.net e.clock caches call).1.discovery =
        caches.discovery.set (normalizeUrl call.serverUrl) d ∧
      WellFounded sdk (normalizeUrl call.serverUrl) d ∧
      LearntBy sdk es e.net e.clock call d := by
  have hlater := h.concat (e := e)
  unfold discoverUncached
  simp only
  split
  · refine ⟨hlater, fun _ _ ↦ rfl, ?_⟩
    intro d hd
    cases hd
  · next loc hlocate =>
    have hcache := @forall_resolve sdk caches.metadata loc.authorizationServer call.opts.force
      (call.opts.ttlMs.getD discoveryTtlMs) e.net.discoverMetadata e.clock.metadataNow
      e.clock.fetchedAt _ hlater.metadata (by
        intro value hvalue
        obtain ⟨hanswer, hvalid⟩ := fetchMetadata_ok hvalue
        exact ⟨hvalid, answeredIn_self hanswer⟩)
    split
    · next metadata err hresolve =>
      rw [hresolve] at hcache
      refine ⟨⟨hcache, hlater.discovery⟩, fun _ _ ↦ rfl, ?_⟩
      intro d hd
      cases hd
    · next metadata resolved hresolve =>
      rw [hresolve] at hcache
      obtain ⟨hmetadata, hof⟩ := resolve_spec h hresolve
      split
      · refine ⟨⟨hcache, hlater.discovery⟩, fun _ _ ↦ rfl, ?_⟩
        intro d hd
        cases hd
      · next scope source hscope =>
        have hlearnt := @learnt_of_located sdk es e.net e.clock call _ loc resolved scope source
          hlocate hmetadata hof hscope rfl
        refine ⟨⟨hcache, hlater.discovery.set ⟨hlearnt.1, hof.answeredIn⟩⟩, ?_, ?_⟩
        · intro err herr
          cases herr
        · intro d hd
          cases hd
          exact ⟨rfl, hlearnt⟩

/-- A discovery from the cache is one that the caller's time to live still covers. -/
theorem reused_of_cachedFor (hvalid : CachesValid sdk es caches)
    (h : cachedFor caches clock call = some d) : Reused es caches clock call d := by
  obtain ⟨hget, hreusable⟩ := Option.filter_eq_some_iff.mp h
  simp only [reusable, Bool.and_eq_true, Bool.not_eq_true', decide_eq_true_eq] at hreusable
  exact ⟨(hvalid.discovery.of_get? hget).2, hget, hreusable.1.1, hreusable.1.2, hreusable.2⟩

/-- A call keeps the caches valid. -/
theorem discover_valid (h : CachesValid sdk es caches) :
    CachesValid sdk (es ++ [e]) (discoverMcpAuthorization sdk e.net e.clock caches call).1 := by
  cases hhit : cachedFor caches e.clock call with
  | some hit =>
    rw [discover_of_hit hhit]
    exact h.concat
  | none =>
    rw [discover_of_miss hhit]
    exact (discoverUncached_spec h).1

end Chain

section Runs

variable {deps : RuntimeDeps}

/-- The caches of the process after some calls. -/
def cachesAfter (deps : RuntimeDeps) (es : List RuntimeEvent) : Caches :=
  ((runtime deps).run es).caches

/-- The caches are valid after every run. -/
theorem cachesValid_run (deps : RuntimeDeps) (es : List RuntimeEvent) :
    CachesValid deps.sdk es (cachesAfter deps es) := by
  apply (runtime deps).run_induction (P := fun es s ↦ CachesValid deps.sdk es s.caches)
  · exact ⟨InsertionMap.forall_empty _, InsertionMap.forall_empty _⟩
  · intro es e h
    generalize (runtime deps).run es = s at h
    have hcall : ∀ call caches result,
        discoverMcpAuthorization deps.sdk e.net e.clock s.caches call = (caches, result) →
        CachesValid deps.sdk (es ++ [e]) caches := by
      intro call caches result heq
      have hvalid := @discover_valid deps.sdk es e s.caches call h
      rw [heq] at hvalid
      exact hvalid
    have hmoves := runtimeStep_moves deps s e
    show CachesValid deps.sdk (es ++ [e]) (runtimeStep deps s e).1.caches
    generalize runtimeStep deps s e = out at hmoves
    cases hmoves with
    | quiet err => exact h.concat
    | reuse force hheld => exact h.concat
    | direct call => exact discover_valid h
    | failed heq hrest => exact hcall _ _ _ heq
    | found heq hrest => exact hcall _ _ _ heq

/-- After any calls, a call that rejects leaves the discovery cache as it was, and one that
returns hands out a discovery about this server with checked metadata, which the server that it
names has answered with: either one from the cache that the call's time to live still covers and
that it does not force anew, or one that it has learnt from where the challenge or the well-known
URLs say, and caches. -/
theorem discovery_of_run (es : List RuntimeEvent) (net : Network) (clock : Clock)
    (call : DiscoverCall) :
    (∀ e, (discoverMcpAuthorization deps.sdk net clock (cachesAfter deps es) call).2 = .error e →
      (discoverMcpAuthorization deps.sdk net clock (cachesAfter deps es) call).1.discovery =
        (cachesAfter deps es).discovery) ∧
    ∀ d, (discoverMcpAuthorization deps.sdk net clock (cachesAfter deps es) call).2 = .ok d →
      WellFounded deps.sdk (normalizeUrl call.serverUrl) d ∧
      ((Reused es (cachesAfter deps es) clock call d ∧
          (discoverMcpAuthorization deps.sdk net clock (cachesAfter deps es) call).1 =
            cachesAfter deps es) ∨
        (LearntBy deps.sdk es net clock call d ∧
          (discoverMcpAuthorization deps.sdk net clock (cachesAfter deps es) call).1.discovery =
            (cachesAfter deps es).discovery.set (normalizeUrl call.serverUrl) d)) := by
  have hvalid := cachesValid_run deps es
  cases hhit : cachedFor (cachesAfter deps es) clock call with
  | some hit =>
    rw [discover_of_hit hhit]
    refine ⟨fun _ _ ↦ rfl, ?_⟩
    intro d hd
    cases hd
    have hreused := reused_of_cachedFor hvalid hhit
    exact ⟨(hvalid.discovery.of_get? hreused.cached).1, Or.inl ⟨hreused, rfl⟩⟩
  | none =>
    rw [discover_of_miss hhit]
    obtain ⟨-, herror, hok⟩ := @discoverUncached_spec deps.sdk es ⟨.discover call, net, clock⟩
      (cachesAfter deps es) call hvalid
    refine ⟨herror, ?_⟩
    intro d hd
    obtain ⟨hset, hfounded, hlearnt⟩ := hok d hd
    exact ⟨hfounded, Or.inr ⟨hlearnt, hset⟩⟩

end Runs

section Sample

private def servedUrl : String := "https://mcp-gateway.localtest.me/inspect/mcp"

private def servedDeps : RuntimeDeps where
  sdk :=
    { parseUrl := fun _ ↦ .error "Invalid URL"
      assertSecureTokenEndpoint := .ok }
  providers := fun _ ↦ ⟨servedUrl, none, none⟩

private def servedMetadata : Json :=
  .obj [("token_endpoint", .str "https://curity.localtest.me/oauth/v2/oauth-token"),
    ("client_id_metadata_document_supported", .bool true)]

/-- The MCP server names Curity, whose metadata can be fetched. -/
private def servedNet : Network where
  probe := fun _ ↦
    .ok (401, ⟨some ⟨"https:", "https://mcp-gateway.localtest.me", "/prm", "https://prm"⟩,
      some "inspect:read", some "invalid_token", "Bearer"⟩)
  get := fun _ ↦
    .ok (200, .ok (.obj [("resource", .str servedUrl),
      ("authorization_servers", .arr [.str "https://curity.localtest.me"])]))
  discoverMetadata := fun server ↦
    .ok (if server = "https://curity.localtest.me" then some servedMetadata else none)

private def downNet : Network :=
  ⟨fun _ ↦ .error "down", fun _ ↦ .error "down", fun _ ↦ .error "down"⟩

private def servedCall : DiscoverCall := ⟨servedUrl, ⟨none, false, none, none⟩⟩

private def servedDiscovery : McpAuthDiscovery where
  serverUrl := servedUrl
  resourceMetadataUrl := "https://prm"
  resourceMetadata := .obj [("resource", .str servedUrl),
    ("authorization_servers", .arr [.str "https://curity.localtest.me"])]
  authorizationServer := "https://curity.localtest.me"
  authorizationServerMetadata := servedMetadata
  tokenEndpoint := "https://curity.localtest.me/oauth/v2/oauth-token"
  scope := "inspect:read"
  scopeSource := .challenge
  discoveredAt := 1000

/-- A first call learns the discovery, and a second one reuses it while the network is down. -/
theorem discovery_of_run_sample :
    LearntBy servedDeps.sdk [] servedNet ⟨1000, 1000, 1000, 1000⟩ servedCall servedDiscovery ∧
      Reused [⟨.discover servedCall, servedNet, ⟨1000, 1000, 1000, 1000⟩⟩]
        (cachesAfter servedDeps [⟨.discover servedCall, servedNet, ⟨1000, 1000, 1000, 1000⟩⟩])
        ⟨2000, 2000, 2000, 2000⟩ servedCall servedDiscovery := by
  constructor
  · obtain ⟨-, hreused | hlearnt⟩ := (@discovery_of_run servedDeps [] servedNet
      ⟨1000, 1000, 1000, 1000⟩ servedCall).2 servedDiscovery rfl
    · have hcached := hreused.1.cached
      cases hcached
    · exact hlearnt.1
  · obtain ⟨-, hreused | hlearnt⟩ := (@discovery_of_run servedDeps
      [⟨.discover servedCall, servedNet, ⟨1000, 1000, 1000, 1000⟩⟩] downNet
      ⟨2000, 2000, 2000, 2000⟩ servedCall).2 servedDiscovery rfl
    · exact hreused.1
    · exact absurd hlearnt.1.discoveredAt (by decide)

end Sample
end AgentsAuth.Runtime
