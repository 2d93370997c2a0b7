import AgentsAuth.Copilot.Exchanges
import AgentsAuth.Runtime.Discovery

/-!
# The read path of agent-copilot

How `/chat` in `apps/agent-copilot/src/server.ts` answers when it cannot acquire a token for the
MCP server: a failure to learn the authorization server is an outage, and every other
failure is taken for a refusal by it.
-/

namespace AgentsAuth.Copilot

open AgentsAuth.Agents AgentsAuth.AuthCurity AgentsAuth.Base AgentsAuth.Lib AgentsAuth.Runtime

/-- What a request on the read path finds and meets: the caches and clocks, the HTTP answers to its
discovery, what it prepares an exchange with, and what its one or two requests to the token
endpoint yield. -/
structure ReadDeps where
  sdk : Sdk
  net : Network
  clock : Clock
  caches : Caches
  discoveryTtlMs : Option Int
  tokens : TokenExchangeCache
  now : Int
  preparation : Preparation
  nonce : Option String
  first : Except Thrown TokenResponse
  second : Except Thrown TokenResponse

/-- The discovery of the provider of a request: `mcp-auth.ts:16–25`. -/
def readDiscovery (cfg : Config) (deps : ReadDeps) : DiscoverCall :=
  (ProviderOpts.mk cfg.mcpInspectUrl (some [cfg.curityIssuer]) deps.discoveryTtlMs).call false none

/-- The exchange of a request on the read path for what it has discovered,
`mcp-client.ts:57–137`. -/
def exchangeForRead (cfg : Config) (decodeJwt : String → Option Claims) (opts : ObtainOpts)
    (deps : ReadDeps) (d : McpAuthDiscovery) : Except Thrown String := do
  let key : CacheKey := ⟨opts.subjectSub, d.scope, cfg.mcpInspectAudience, opts.subjectAcr⟩
  match (deps.tokens.get key deps.now).2 with
  | some cached => return cached.accessToken
  | none =>
    let call := obtainMcpToken cfg decodeJwt opts d.tokenEndpoint d.scope false
    let result ← doExchange (← call.exchangeParams deps.preparation) deps.nonce deps.first
      deps.second
    return result.accessToken

/-- `acquire` of the provider of a request on the read path, `mcp-oauth-client.ts:368–377`. -/
def acquire (cfg : Config) (decodeJwt : String → Option Claims) (opts : ObtainOpts)
    (deps : ReadDeps) : Except Thrown String := do
  let d ← (discoverMcpAuthorization deps.sdk deps.net deps.clock deps.caches
    (readDiscovery cfg deps)).2
  exchangeForRead cfg decodeJwt opts deps d

/-- An answer with an error. -/
structure ErrorAnswer where
  status : Nat
  error : String
  description : String
deriving DecidableEq

/-- The answer to a failed `acquire`: `server.ts:200–211`. -/
def acquireFailure (e : Thrown) : ErrorAnswer :=
  if isDiscoveryFailure e then ⟨502, "mcp_unavailable", e.message⟩
  else
    match e with
    | .curityAuth err => ⟨403, err.code.toText, err.message⟩
    | .other _ message => ⟨403, "exchange_failed", message⟩

/-- The OAuth errors with which a token endpoint reports a failure of its own, as the procedure does
when it cannot fetch the keys of SPIRE: `token-exchange.js:264–269`. -/
def outageErrors : List String := ["server_error", "temporarily_unavailable"]

/-- A refusal by the token endpoint: a client error whose body names an OAuth error, other than one
for a failure of the endpoint itself. -/
def Refusal (r : TokenResponse) : Prop :=
  400 ≤ r.status ∧ r.status < 500 ∧
    ∃ error, r.member "error" = some (.str error) ∧ error ≠ "" ∧ error ∉ outageErrors

/-- The answer that decides an exchange: the second where a nonce is asked for. -/
def decidingAnswer (params : ExchangeTokenParams) (nonce : Option String)
    (first second : Except Thrown TokenResponse) : Except Thrown TokenResponse := do
  let response ← first
  if params.dpop ∧ nonce.any (· ≠ "") ∧ response.status = 400 ∧
      Json.string? (response.member "error") = some "use_dpop_nonce" then second
  else return response

/-- The request discovers this server, has no cached token for it and exchanges so. -/
structure Exchanges (cfg : Config) (decodeJwt : String → Option Claims) (opts : ObtainOpts)
    (deps : ReadDeps) (d : McpAuthDiscovery) : Prop where
  discovered : (discoverMcpAuthorization deps.sdk deps.net deps.clock deps.caches
    (readDiscovery cfg deps)).2 = .ok d
  missed : (deps.tokens.get ⟨opts.subjectSub, d.scope, cfg.mcpInspectAudience, opts.subjectAcr⟩
    deps.now).2 = none

/-- The token endpoint answers the exchange of a request with a refusal. -/
def RefusedByCurity (cfg : Config) (decodeJwt : String → Option Claims) (opts : ObtainOpts)
    (deps : ReadDeps) : Prop :=
  ∃ d params r, Exchanges cfg decodeJwt opts deps d ∧
    (obtainMcpToken cfg decodeJwt opts d.tokenEndpoint d.scope false).exchangeParams
      deps.preparation = .ok params ∧
    decidingAnswer params deps.nonce deps.first deps.second = .ok r ∧ Refusal r

/-- An answer that is read as a token: a success with a JSON body other than `null`. -/
def Readable (r : TokenResponse) : Prop :=
  r.ok = true ∧ ∃ body, r.body = .ok body ∧ body.notNull = true

/-- Nothing but a discovery failure and a refusal stops the request: the documents it relies on have
their declared types, it has what it prepares an exchange with, and the token endpoint can be
reached and answers with a token or a refusal. -/
structure OnlyRefusals (cfg : Config) (decodeJwt : String → Option Claims) (opts : ObtainOpts)
    (deps : ReadDeps) : Prop where
  documents : cachedFor deps.caches deps.clock (readDiscovery cfg deps) = none →
    DocumentsTyped deps.sdk deps.net deps.clock deps.caches (readDiscovery cfg deps)
  prepared : ∀ d e, Exchanges cfg decodeJwt opts deps d →
    (obtainMcpToken cfg decodeJwt opts d.tokenEndpoint d.scope false).exchangeParams
      deps.preparation = .error e → isDiscoveryFailure e = true
  reached : ∀ d params e, Exchanges cfg decodeJwt opts deps d →
    (obtainMcpToken cfg decodeJwt opts d.tokenEndpoint d.scope false).exchangeParams
      deps.preparation = .ok params →
    decidingAnswer params deps.nonce deps.first deps.second = .error e → isDiscoveryFailure e = true
  answered : ∀ d params r, Exchanges cfg decodeJwt opts deps d →
    (obtainMcpToken cfg decodeJwt opts d.tokenEndpoint d.scope false).exchangeParams
      deps.preparation = .ok params →
    decidingAnswer params deps.nonce deps.first deps.second = .ok r → Readable r ∨ Refusal r

/-- A failed `acquire` is answered with 403 where Curity has refused, and with 502 elsewhere. -/
def ToldApart (cfg : Config) (decodeJwt : String → Option Claims) (opts : ObtainOpts)
    (deps : ReadDeps) : Prop :=
  ∀ e, acquire cfg decodeJwt opts deps = .error e →
    ((acquireFailure e).status = 403 ↔ RefusedByCurity cfg decodeJwt opts deps) ∧
      ((acquireFailure e).status = 502 ↔ ¬ RefusedByCurity cfg decodeJwt opts deps)

section Exchange

variable {params : ExchangeTokenParams} {nonce : Option String}
  {first second : Except Thrown TokenResponse}

/-- An exchange is its deciding answer, read. -/
theorem doExchange_eq : doExchange params nonce first second =
    decidingAnswer params nonce first second >>= readExchange params := by
  cases first with
  | error e => rfl
  | ok response =>
    change (if _ then second >>= readExchange params else readExchange params response) =
      (if _ then second else .ok response) >>= readExchange params
    split
    · rfl
    · rfl

/-- The codes of refusals are not those of discovery failures. -/
theorem isDiscoveryFailure_refusal (r : TokenResponse) :
    isDiscoveryFailure (refusal r) = false := by
  have hclassify : ∀ error description,
      isDiscoveryFailure (.curityAuth (classify r.status error description)) = false := by
    intro error description
    unfold classify
    simp only
    split
    · next code hcode =>
      obtain ⟨before, after, heq, -⟩ := List.lookup_eq_some_iff.mp (property_eq_own_iff.mp hcode)
      have hmem : (error.toText, code) ∈ errorMap := by
        rw [heq]
        exact List.mem_append_right _ List.mem_cons_self
      simp only [errorMap, List.mem_cons, Prod.mk.injEq, List.not_mem_nil, or_false] at hmem
      rcases hmem with ⟨-, rfl⟩ | ⟨-, rfl⟩ | ⟨-, rfl⟩ | ⟨-, rfl⟩ <;> rfl
    · rfl
    · split
      · rfl
      · split <;> rfl
  unfold refusal
  simp only
  split
  · rfl
  · split <;> rfl
  · split
    · exact hclassify _ _
    · rfl

/-- An answer is read exactly when it is readable, and no failure to read it is one to discover. -/
theorem readExchange_cases (params : ExchangeTokenParams) (r : TokenResponse) :
    (Readable r ∧ ∃ result, readExchange params r = .ok result) ∨
      (¬ Readable r ∧ ∃ e, readExchange params r = .error e ∧ isDiscoveryFailure e = false) := by
  obtain ⟨status, body⟩ := r
  unfold readExchange Readable
  by_cases hok : (TokenResponse.mk status body).ok = true
  · simp only [if_pos hok]
    cases body with
    | error message =>
      refine Or.inr ⟨?_, _, rfl, rfl⟩
      rintro ⟨-, body, h, -⟩
      cases h
    | ok body =>
      cases body with
      | null =>
        refine Or.inr ⟨?_, _, rfl, rfl⟩
        rintro ⟨-, body, h, hnull⟩
        cases h
        cases hnull
      | bool b => exact Or.inl ⟨⟨hok, _, rfl, rfl⟩, _, rfl⟩
      | num n => exact Or.inl ⟨⟨hok, _, rfl, rfl⟩, _, rfl⟩
      | str s => exact Or.inl ⟨⟨hok, _, rfl, rfl⟩, _, rfl⟩
      | arr items => exact Or.inl ⟨⟨hok, _, rfl, rfl⟩, _, rfl⟩
      | obj members => exact Or.inl ⟨⟨hok, _, rfl, rfl⟩, _, rfl⟩
  · rw [if_neg hok]
    exact Or.inr ⟨fun h ↦ hok h.1, _, rfl, isDiscoveryFailure_refusal _⟩

end Exchange

section Status

variable {cfg : Config} {decodeJwt : String → Option Claims} {opts : ObtainOpts} {deps : ReadDeps}
  {d : McpAuthDiscovery}

/-- The status tells discovery failures from all others. -/
private theorem status_acquireFailure (e : Thrown) :
    (acquireFailure e).status = if isDiscoveryFailure e then 502 else 403 := by
  unfold acquireFailure
  by_cases h : isDiscoveryFailure e = true
  · rw [if_pos h, if_pos h]
  · rw [if_neg h, if_neg h]
    cases e <;> rfl

/-- A request that fails with this error is answered as it should where the error is a discovery
failure exactly if Curity has not refused. -/
private theorem toldApart_of_error {e : Thrown} (h : acquire cfg decodeJwt opts deps = .error e) :
    ToldApart cfg decodeJwt opts deps ↔
      (isDiscoveryFailure e = true ↔ ¬ RefusedByCurity cfg decodeJwt opts deps) := by
  have hall : ToldApart cfg decodeJwt opts deps ↔
      ((acquireFailure e).status = 403 ↔ RefusedByCurity cfg decodeJwt opts deps) ∧
        ((acquireFailure e).status = 502 ↔ ¬ RefusedByCurity cfg decodeJwt opts deps) := by
    constructor
    · intro hall
      exact hall e h
    · intro hthis e' he'
      rw [h] at he'
      cases he'
      exact hthis
  rw [hall, status_acquireFailure]
  by_cases hdiscovery : isDiscoveryFailure e = true
  · simp [hdiscovery]
  · simp [hdiscovery]

private theorem toldApart_of_ok {token : String} (h : acquire cfg decodeJwt opts deps = .ok token) :
    ToldApart cfg decodeJwt opts deps := by
  intro e he
  rw [h] at he
  cases he

private theorem Exchanges.unique {d' : McpAuthDiscovery} (h : Exchanges cfg decodeJwt opts deps d)
    (h' : Exchanges cfg decodeJwt opts deps d') : d' = d := by
  have hdiscovered := h'.discovered
  rw [h.discovered] at hdiscovered
  exact (Except.ok.inj hdiscovered).symm

/-- What a request comes to that exchanges. -/
private theorem acquire_of_exchanges (h : Exchanges cfg decodeJwt opts deps d) :
    acquire cfg decodeJwt opts deps =
      (obtainMcpToken cfg decodeJwt opts d.tokenEndpoint d.scope false).exchangeParams
        deps.preparation >>= fun params ↦
      doExchange params deps.nonce deps.first deps.second >>= fun result ↦
      .ok result.accessToken := by
  unfold acquire exchangeForRead
  rw [h.discovered]
  change (match (deps.tokens.get
    ⟨opts.subjectSub, d.scope, cfg.mcpInspectAudience, opts.subjectAcr⟩ deps.now).2 with
    | some cached => _
    | none => _) = _
  rw [h.missed]
  rfl

/-- A request that exchanges is answered as it should when it can prepare the exchange and its
deciding answer is a token or a refusal. -/
private theorem toldApart_of_exchanges (h : Exchanges cfg decodeJwt opts deps d) :
    ToldApart cfg decodeJwt opts deps ↔
      (∀ e, (obtainMcpToken cfg decodeJwt opts d.tokenEndpoint d.scope false).exchangeParams
        deps.preparation = .error e → isDiscoveryFailure e = true) ∧
      ∀ params, (obtainMcpToken cfg decodeJwt opts d.tokenEndpoint d.scope false).exchangeParams
        deps.preparation = .ok params →
        (∀ e, decidingAnswer params deps.nonce deps.first deps.second = .error e →
          isDiscoveryFailure e = true) ∧
        ∀ r, decidingAnswer params deps.nonce deps.first deps.second = .ok r →
          Readable r ∨ Refusal r := by
  have hacquire := acquire_of_exchanges h
  have hrefused : RefusedByCurity cfg decodeJwt opts deps ↔ ∃ params r,
      (obtainMcpToken cfg decodeJwt opts d.tokenEndpoint d.scope false).exchangeParams
        deps.preparation = .ok params ∧
      decidingAnswer params deps.nonce deps.first deps.second = .ok r ∧ Refusal r := by
    constructor
    · rintro ⟨d', params, r, h', hrest⟩
      obtain rfl := h.unique h'
      exact ⟨params, r, hrest⟩
    · rintro ⟨params, r, hrest⟩
      exact ⟨d, params, r, h, hrest⟩
  cases hparams : (obtainMcpToken cfg decodeJwt opts d.tokenEndpoint d.scope false).exchangeParams
      deps.preparation with
  | error e =>
    rw [hparams] at hacquire hrefused
    rw [toldApart_of_error hacquire, hrefused]
    constructor
    · intro hiff
      refine ⟨?_, fun params hok ↦ (by cases hok)⟩
      intro e' he'
      cases he'
      apply hiff.mpr
      rintro ⟨params, r, hok, -⟩
      cases hok
    · rintro ⟨hdiscovery, -⟩
      apply iff_of_true (hdiscovery e rfl)
      rintro ⟨params, r, hok, -⟩
      cases hok
  | ok params =>
    rw [hparams] at hacquire hrefused
    change _ = (doExchange params deps.nonce deps.first deps.second >>= _) at hacquire
    rw [doExchange_eq] at hacquire
    simp only [Except.ok.injEq, exists_and_left, exists_eq_left', reduceCtorEq, false_implies,
      implies_true, true_and, forall_eq'] at hrefused ⊢
    cases hanswer : decidingAnswer params deps.nonce deps.first deps.second with
    | error e =>
      rw [hanswer] at hacquire hrefused
      rw [toldApart_of_error hacquire, hrefused]
      simp
    | ok r =>
      rw [hanswer] at hacquire hrefused
      change _ = (readExchange params r >>= _) at hacquire
      rcases readExchange_cases params r with
        ⟨hreadable, result, hresult⟩ | ⟨hunreadable, e, he, hraw⟩
      · rw [hresult] at hacquire
        apply iff_of_true (toldApart_of_ok hacquire)
        simp [hreadable]
      · rw [he] at hacquire
        rw [toldApart_of_error hacquire, hrefused, hraw]
        simp [hunreadable]

/-- A failed `acquire` is answered with 403 where Curity has refused and with 502 elsewhere exactly
when nothing else stops the request that the code does not know for a discovery failure. -/
theorem told_apart_iff
    (hurl : ∃ u, deps.sdk.parseUrl cfg.mcpInspectUrl = .ok u)
    (hslashes : ∀ url u, deps.sdk.parseUrl url = .ok u →
      ∃ u', deps.sdk.parseUrl (normalizeUrl url) = .ok u') :
    ToldApart cfg decodeJwt opts deps ↔ OnlyRefusals cfg decodeJwt opts deps := by
  obtain ⟨u, hu⟩ := hurl
  have htyped := @discover_typed_iff deps.sdk deps.net deps.clock deps.caches
    (readDiscovery cfg deps) (hslashes _ u hu)
  cases hdiscover : (discoverMcpAuthorization deps.sdk deps.net deps.clock deps.caches
      (readDiscovery cfg deps)).2 with
  | error e =>
    have hnone : ∀ d, ¬ Exchanges cfg decodeJwt opts deps d := by
      intro d h
      have hdiscovered := h.discovered
      rw [hdiscover] at hdiscovered
      cases hdiscovered
    have hacquire : acquire cfg decodeJwt opts deps = .error e := by
      unfold acquire
      rw [hdiscover]
      rfl
    rw [hdiscover] at htyped
    rw [toldApart_of_error hacquire]
    have hrefused : ¬ RefusedByCurity cfg decodeJwt opts deps := by
      rintro ⟨d, params, r, h, -⟩
      exact hnone d h
    constructor
    · intro hiff
      refine ⟨htyped.mp ?_, fun d e h ↦ absurd h (hnone d), fun d params e h ↦ absurd h (hnone d),
        fun d params r h ↦ absurd h (hnone d)⟩
      intro e' he'
      cases he'
      exact hiff.mpr hrefused
    · intro honly
      exact iff_of_true (htyped.mpr honly.documents e rfl) hrefused
  | ok d =>
    rw [hdiscover] at htyped
    have hdocuments := htyped.mp (fun e he ↦ (by cases he))
    cases hcached : (deps.tokens.get
        ⟨opts.subjectSub, d.scope, cfg.mcpInspectAudience, opts.subjectAcr⟩ deps.now).2 with
    | some cached =>
      have hnone : ∀ d, ¬ Exchanges cfg decodeJwt opts deps d := by
        intro d' h
        have hdiscovered := h.discovered
        rw [hdiscover] at hdiscovered
        cases hdiscovered
        have hmissed := h.missed
        rw [hcached] at hmissed
        cases hmissed
      have hacquire : acquire cfg decodeJwt opts deps = .ok cached.accessToken := by
        unfold acquire exchangeForRead
        rw [hdiscover]
        change (match (deps.tokens.get
          ⟨opts.subjectSub, d.scope, cfg.mcpInspectAudience, opts.subjectAcr⟩ deps.now).2 with
          | some cached => _
          | none => _) = _
        rw [hcached]
        rfl
      apply iff_of_true (toldApart_of_ok hacquire)
      exact ⟨hdocuments, fun d e h ↦ absurd h (hnone d), fun d params e h ↦ absurd h (hnone d),
        fun d params r h ↦ absurd h (hnone d)⟩
    | none =>
      have hexchanges : Exchanges cfg decodeJwt opts deps d := ⟨hdiscover, hcached⟩
      rw [toldApart_of_exchanges hexchanges]
      constructor
      · rintro ⟨hprepared, hexchanged⟩
        refine ⟨hdocuments, ?_, ?_, ?_⟩
        · intro d' e h
          obtain rfl := hexchanges.unique h
          exact hprepared e
        · intro d' params e h hparams
          obtain rfl := hexchanges.unique h
          exact (hexchanged params hparams).1 e
        · intro d' params r h hparams
          obtain rfl := hexchanges.unique h
          exact (hexchanged params hparams).2 r
      · intro honly
        refine ⟨fun e ↦ honly.prepared d e hexchanges, ?_⟩
        intro params hparams
        exact ⟨fun e ↦ honly.reached d params e hexchanges hparams,
          fun r ↦ honly.answered d params r hexchanges hparams⟩

end Status

section Sample

private def readSdk : Sdk where
  parseUrl := fun url ↦
    if url = sampleConfig.mcpInspectUrl then
      .ok ⟨"http:", "http://agentgateway.mcp.svc.cluster.local:8080", "/inspect/mcp", url⟩
    else .error "Invalid URL"
  assertSecureTokenEndpoint := .ok

private def readDiscovered : McpAuthDiscovery where
  serverUrl := sampleConfig.mcpInspectUrl
  resourceMetadataUrl := "https://gateway.localtest.me/prm"
  resourceMetadata := .obj [("resource", .str sampleConfig.mcpInspectUrl)]
  authorizationServer := sampleConfig.curityIssuer
  authorizationServerMetadata := .obj []
  tokenEndpoint := "https://curity.localtest.me/oauth/v2/oauth-token"
  scope := "inspect:read"
  scopeSource := .challenge
  discoveredAt := 0

/-- A request that discovers from the cache and meets these answers of the token endpoint. -/
private def readDeps (svid : Option String) (first : Except Thrown TokenResponse) : ReadDeps where
  sdk := readSdk
  net := ⟨fun _ ↦ .error "down", fun _ ↦ .error "down", fun _ ↦ .error "down"⟩
  clock := ⟨1000, 1000, 1000, 1000⟩
  caches := ⟨InsertionMap.empty.set sampleConfig.mcpInspectUrl readDiscovered, .empty⟩
  discoveryTtlMs := none
  tokens := .empty
  now := 1000
  preparation := ⟨svid, .ok "kid", .error noText⟩
  nonce := none
  first := first
  second := .error noText

private theorem normalizeUrl_mcpInspectUrl :
    normalizeUrl sampleConfig.mcpInspectUrl = sampleConfig.mcpInspectUrl := by
  decide

private def readOpts : ObtainOpts := ⟨"bearer", "alice", "mfa", none⟩

private theorem readDeps_cached (svid : Option String) (first : Except Thrown TokenResponse) :
    cachedFor (readDeps svid first).caches (readDeps svid first).clock
      (readDiscovery sampleConfig (readDeps svid first)) = some readDiscovered := by
  show (InsertionMap.get? (InsertionMap.empty.set sampleConfig.mcpInspectUrl readDiscovered)
    (normalizeUrl sampleConfig.mcpInspectUrl)).filter _ = _
  rw [normalizeUrl_mcpInspectUrl, InsertionMap.get?_set_self]
  rfl

private theorem readSdk_mcpInspectUrl :
    ∃ u, readSdk.parseUrl sampleConfig.mcpInspectUrl = .ok u := by
  simp only [readSdk, if_pos, Except.ok.injEq, exists_eq']

private theorem readDeps_deciding (svid : Option String) (first : Except Thrown TokenResponse)
    (params : ExchangeTokenParams) :
    decidingAnswer params (readDeps svid first).nonce (readDeps svid first).first
      (readDeps svid first).second = first := by
  cases first with
  | error e => rfl
  | ok response =>
    change (if _ then _ else _) = _
    apply if_neg
    rintro ⟨-, h, -⟩
    cases h

private theorem readSdk_slashes (url : String) (u : Url) (h : readSdk.parseUrl url = .ok u) :
    ∃ u', readSdk.parseUrl (normalizeUrl url) = .ok u' := by
  by_cases hurl : url = sampleConfig.mcpInspectUrl
  · rw [hurl, normalizeUrl_mcpInspectUrl]
    exact readSdk_mcpInspectUrl
  · simp only [readSdk, if_neg hurl] at h
    cases h

private def deniedAnswer : TokenResponse :=
  ⟨403, .ok (.obj [("error", .str "access_denied")])⟩

/-- A refusal is answered as a refusal. -/
theorem told_apart_iff_sample :
    ToldApart sampleConfig (fun _ ↦ none) readOpts (readDeps (some "svid") (.ok deniedAnswer)) := by
  apply (told_apart_iff readSdk_mcpInspectUrl readSdk_slashes).mpr
  refine ⟨?_, ?_, ?_, ?_⟩
  · intro hnone
    rw [readDeps_cached] at hnone
    cases hnone
  · intro d e _ he
    cases he
  · intro d params e _ _ he
    rw [readDeps_deciding] at he
    cases he
  · intro d params r _ _ hr
    rw [readDeps_deciding] at hr
    cases hr
    exact Or.inr ⟨by decide, by decide, "access_denied", rfl, by decide, by decide⟩

private def brokenAnswer : TokenResponse :=
  ⟨500, .ok (.obj [("error", .str "server_error")])⟩

/-- Neither a token endpoint that cannot be reached nor one that is broken is told apart from a
refusal. -/
theorem outage_told_as_refusal :
    (¬ ∀ svid first, ToldApart sampleConfig (fun _ ↦ none) readOpts (readDeps svid first)) ∧
    (acquire sampleConfig (fun _ ↦ none) readOpts (readDeps (some "svid")
        (.error (.curityAuth ⟨"token-exchange fetch failed: fetch failed", .exchangeFailed⟩)))) =
      .error (.curityAuth ⟨"token-exchange fetch failed: fetch failed", .exchangeFailed⟩) ∧
    acquireFailure (.curityAuth ⟨"token-exchange fetch failed: fetch failed", .exchangeFailed⟩) =
      ⟨403, "exchange_failed", "token-exchange fetch failed: fetch failed"⟩ ∧
    (acquire sampleConfig (fun _ ↦ none) readOpts (readDeps (some "svid") (.ok brokenAnswer))) =
      .error (.curityAuth ⟨"token-exchange failed: HTTP 500 server_error", .exchangeFailed⟩) ∧
    ¬ Refusal brokenAnswer := by
  have hacquire : acquire sampleConfig (fun _ ↦ none) readOpts (readDeps (some "svid")
      (.error (.curityAuth ⟨"token-exchange fetch failed: fetch failed", .exchangeFailed⟩))) =
      .error (.curityAuth ⟨"token-exchange fetch failed: fetch failed", .exchangeFailed⟩) := by
    rfl
  refine ⟨?_, hacquire, rfl, rfl, ?_⟩
  · intro h
    obtain ⟨d, params, r, -, -, hr, -⟩ := (h _ _ _ hacquire).1.mp rfl
    rw [readDeps_deciding] at hr
    cases hr
  · rintro ⟨-, hstatus, -⟩
    exact absurd hstatus (by decide)

end Sample
end AgentsAuth.Copilot
