import AgentsAuth.EndToEnd.Causes

/-!
# Wrong role or missing MFA

A privileged request of a user without a write role is denied, and one of a user who only
lacks the required `acr` is challenged. Both verdicts hang on the order of the gates in the
procedure and on what the agents make of its refusals. A user is told so whenever the login
shares a scope with what the copilot asks for; the cache key must tell users apart, and a header
must be able to carry the challenge.
-/

namespace AgentsAuth.EndToEnd

open AgentsAuth.A2a AgentsAuth.Agents AgentsAuth.AuthCurity AgentsAuth.Base AgentsAuth.Copilot
open AgentsAuth.Curity AgentsAuth.Lib AgentsAuth.Runtime

/-- The exchange of agent-copilot for agent-specialist. -/
def specialistEdge : Edge :=
  ⟨copilotClient, spiffeCopilot, "agent-specialist", ["inspect:read", "ops:write", "llm:invoke"],
    some spiffeSpecialist⟩

/-- The exchange of agent-specialist for the gateway. -/
def opsEdge : Edge :=
  ⟨specialistClient, spiffeSpecialist, "mcp-gateway", ["inspect:read", "ops:write"],
    some spiffeGateway⟩

/-- The agents are configured as deployed, and Curity's authorizers only ever withhold
`ops:write`. -/
structure Deployed (sys : System) : Prop where
  copilotClient : sys.copilot.agentClientId = copilotClient
  specialistAudience : sys.copilot.specialistAudience = "agent-specialist"
  specialistClient : sys.specialist.agentClientId = specialistClient
  mcpOpsAudience : sys.specialist.mcpOpsAudience = "mcp-gateway"
  authorizers : ∀ clientId t audience narrowed fresh, "ops:write" ∉ narrowed →
    ∃ d, sys.endpoint.server.getInitializedContext clientId t audience narrowed fresh = .ok d

/-- The `acr` of a token, where none reads as the empty one. -/
def presentedAcr (t : TokenData) : String := t.acr.getD ""

variable {sys : System} {es : List (Nat × ChatEvent)} {r : ChatRequest} {t : TokenData}

section Login

/-- A request is authorized by the claims of its login. -/
theorem LoginOf.payload (h : LoginOf sys r t) : r.authed.caller.payload = tokenClaims t := by
  obtain ⟨authorization, hauthorized⟩ := h.authorized
  unfold authMiddleware at hauthorized
  obtain ⟨token, -, hverified⟩ := Option.bind_eq_some_iff.mp hauthorized
  obtain ⟨caller, hcaller, hauthed⟩ := Option.bind_eq_some_iff.mp hverified
  have hpair : (⟨caller, token⟩ : AuthedRequest) = r.authed := Option.some.inj hauthed
  have htoken : token = sys.endpoint.jose.compact t := by
    rw [← h.bearer, ← hpair]
  rw [htoken] at hcaller
  rw [← hpair]
  cases hv : verifyJwt sys.endpoint.jose (sys.endpoint.jose.compact t)
      ⟨sys.copilot.curityIssuer, sys.copilot.expectedAudience, some sys.copilot.curityJwksUri, none,
        none⟩ with
  | error e =>
    rw [hv] at hcaller
    cases hcaller
  | ok verified =>
    rw [hv] at hcaller
    cases hcaller
    exact (verifyJwt_compact h.recognised.verified hv).1

private theorem claimOr_acr (t : TokenData) :
    claimOr (tokenClaims t) "acr" "" = presentedAcr t := by
  obtain ⟨sub, jti, exp, aud, scope, acr, roles, act, mayAct⟩ := t
  cases acr <;> rfl

/-- The cache key of a request names the user and the `acr` of its login. -/
theorem LoginOf.key_eq (h : LoginOf sys r t) :
    sys.key r = ⟨t.sub, sys.copilot.specialistScope, sys.copilot.specialistAudience,
      presentedAcr t⟩ := by
  rw [System.key, chatOpts, h.payload, claimOr_acr]
  rfl

/-- The exchange of a request follows the edge to agent-specialist. -/
theorem LoginOf.requests {params : ExchangeTokenParams} (h : LoginOf sys r t)
    (hdeployed : Deployed sys)
    (hparams : ParamsOf (sys.helpers.callOf (specialistRequest r)) params) :
    sys.endpoint.Requests params t specialistEdge where
  edge := by decide
  subject := by
    rw [hparams.subjectToken]
    show sys.endpoint.presented r.authed.bearerToken = _
    rw [h.bearer]
    exact h.recognised.presented
  client := hparams.clientId.trans hdeployed.copilotClient
  audience := hparams.audience.trans hdeployed.specialistAudience

end Login

section Token

/-- What a token issued to a request says about its login. -/
structure TokenOf (sys : System) (t : TokenData) (d : TokenData) : Prop where
  recognised : sys.endpoint.Recognises d
  writeRole : t.hasWriteRole = true
  acr : d.acr = t.acr
  scopes : ∀ s ∈ d.subjectScopes, s ∈ t.subjectScopes

end Token

section Exchange

variable {params : ExchangeTokenParams} {thrown : Thrown}

end Exchange

section Reply

variable {token : String} {deps : Specialist.RemediationDeps} {d : TokenData}

/-- The message of a request has a goal. -/
private theorem goal_ne_empty (json : JsonText) (r : ChatRequest) :
    trim (Specialist.goalFromMessage json (userMessage r)) ≠ "" := by
  obtain ⟨c, hmem, hspace⟩ := trim_ne_empty_iff.mp r.nonBlank
  have hne : r.message ≠ "" := by
    intro hempty
    rw [hempty] at hmem
    cases hmem
  have hjoined : ∀ text, c ∈ (" ".intercalate ([r.message, text].filter (· ≠ ""))).toList := by
    intro text
    rw [List.filter_cons_of_pos (by simp [hne])]
    cases [text].filter (· ≠ "") with
    | nil => simpa using hmem
    | cons text' texts =>
      rw [String.intercalate_cons_cons, String.toList_append, String.toList_append]
      simp [hmem]
  rw [trim_ne_empty_iff]
  exact ⟨c, mem_trim (hjoined _) hspace, hspace⟩

/-- The `acr` of a token has a text. -/
private theorem acr_tokenClaims (d : TokenData) :
    ∃ acr, Specialist.stringClaim (tokenClaims d) "acr" "(none)" = .ok acr := by
  obtain ⟨sub, jti, exp, aud, scope, acr, roles, act, mayAct⟩ := d
  cases acr with
  | none => exact ⟨_, rfl⟩
  | some acr => exact ⟨_, rfl⟩

/-- The exchange of the specialist for a token without `ops:write` fails on the scope. -/
private theorem acquireOps_of_serves {sub : String}
    (hdeployed : Deployed sys) (hserves : Serves sys token deps)
    (htoken : token = sys.endpoint.jose.compact d) (hof : TokenOf sys t d)
    (hops : "ops:write" ∉ d.subjectScopes) {discovery : McpAuthDiscovery}
    (hscope : discovery.scope = "ops:write") :
    Specialist.acquireOps sys.specialist token sub discovery deps =
      .error (.curityAuth ⟨"invalid_scope" ++ " " ++ noScope opsEdge, .invalidScope⟩) := by
  obtain ⟨params, hparams⟩ := exchangeParams_ready hserves.prepared
  have hof' := exchangeParams_ok hparams
  have hanswer := hserves.exchanged sub discovery.tokenEndpoint params (by rw [← hscope, hparams])
  have hrequests : sys.endpoint.Requests params d opsEdge := by
    constructor
    · decide
    · rw [hof'.subjectToken]
      show sys.endpoint.presented token = _
      rw [htoken]
      exact hof.recognised.presented
    · exact hof'.clientId.trans hdeployed.specialistClient
    · exact hof'.audience.trans hdeployed.mcpOpsAudience
  have hnot : ¬ Shares (.collection (words params.scope)) d opsEdge := by
    have hscope' : params.scope = "ops:write" := hof'.scope.trans hscope
    rintro ⟨s, hs, hmem, -⟩
    have hwords : words "ops:write" = ["ops:write"] := by decide
    rw [hscope', hwords] at hs
    have hsame : s = "ops:write" := List.mem_singleton.mp hs
    subst hsame
    exact hops hmem
  have hrefused := hanswer.of_not_shares hrequests hnot
  unfold Specialist.acquireOps
  simp only [hparams]
  change (deps.exchangeOps params >>= _) = _
  rw [hrefused]
  rfl

/-- A token without the required `acr` gets a challenge out of the specialist, and no tool runs. -/
private theorem stepUp_of_serves (hdeployed : Deployed sys) (hserves : Serves sys token deps)
    (htoken : token = sys.endpoint.jose.compact d) (hof : TokenOf sys t d)
    (hops : "ops:write" ∉ d.subjectScopes) {discovery : McpAuthDiscovery} {fields : StepUpFields}
    (hdiscover : deps.discoverOps = .ok discovery)
    (hfields : Specialist.stepUpFields discovery sys.specialist = .ok fields) (r : ChatRequest) :
    (sys.execute r token deps).ranLlm = false ∧
      ∃ state, (sys.execute r token deps).published = .final fields.toPayload state := by
  obtain ⟨verified, hverified⟩ := hserves.verified
  have hpayload : verified.payload = tokenClaims d := by
    rw [htoken] at hverified
    exact (verifyJwt_compact hof.recognised.verified hverified).1
  have hsub : Specialist.stringClaim verified.payload "sub" "unknown" = .ok d.sub := by
    rw [hpayload]
    rfl
  obtain ⟨acr, hacr⟩ : ∃ acr, Specialist.stringClaim verified.payload "acr" "(none)" = .ok acr := by
    rw [hpayload]
    exact acr_tokenClaims d
  obtain ⟨discovery', hdiscover', hscope⟩ := hserves.discovered
  obtain rfl := Except.ok.inj (hdiscover.symm.trans hdiscover')
  obtain ⟨state, hexecute⟩ := Specialist.execute_of_verified hserves.bearer hverified hsub
  rw [Specialist.runRemediation_of_invalidScope (goal_ne_empty sys.json r) hsub hacr hdiscover
    hfields (acquireOps_of_serves hdeployed hserves htoken hof hops hscope)] at hexecute
  rw [System.execute, hexecute]
  exact ⟨rfl, state, rfl⟩

end Reply

section Verdict

variable {token : String} {answer : ChatAnswer}

end Verdict

section Sample

/-- What a call meets that has everything it waits for. -/
private def samplePreparation (svid : String) : Preparation := ⟨some svid, .ok "kid-1", .ok "token"⟩

/-- The answer of `sampleEndpoint` to an exchange whose token gets this `jti`. -/
private def sampleAnswer (tokens : List TokenData) (jti : String) (params : ExchangeTokenParams) :
    Except Thrown ExchangeTokenResult :=
  doExchange params none
    (.ok (sampleRespond (result sampleServer .initial
      ((sampleEndpoint tokens).context params ⟨0, 0, .response 200 "key"⟩ ⟨jti, 600⟩)).2))
    (.error noText)

/-- The ops server, which offers this `acr`. -/
private def sampleDiscovery (acr : String) : McpAuthDiscovery where
  serverUrl := "http://agentgateway.mcp.svc.cluster.local:8080/ops/mcp"
  resourceMetadataUrl := "https://gateway.localtest.me/prm"
  resourceMetadata := .obj [("acr_values_supported", .arr [.str acr])]
  authorizationServer := "https://curity.localtest.me/oauth/v2/oauth-anonymous"
  authorizationServerMetadata := .obj []
  tokenEndpoint := "https://curity.localtest.me/oauth/v2/oauth-token"
  scope := "ops:write"
  scopeSource := .challenge
  discoveredAt := 0

/-- A specialist that is answered by `sampleEndpoint`. -/
private def sampleDeps (acr : String) (tokens : List TokenData) : Specialist.RemediationDeps where
  discoverOps := .ok (sampleDiscovery acr)
  prepareOps := samplePreparation "e30.specialist.sig"
  exchangeOps := sampleAnswer tokens "ops"
  acquireInspect := .error noText
  openInspect := .error noText
  openOps := ⟨.error noText, none⟩
  obtainLlmToken := ⟨.error noText, none⟩
  runLlm := ⟨.error noText, none⟩
  closeInspect := ⟨.ok (), none⟩
  closeOps := ⟨.ok (), none⟩

private def sampleFields (acr : String) : StepUpFields :=
  ⟨acr, "https://gateway.localtest.me/prm", "ops:write"⟩

private def sampleText (acr : String) : String :=
  "\x7b\n  \"code\": -33001,\n  \"message\": \"step-up required: acr_values=" ++ acr ++
  "\",\n" ++
  "  \"data\": \x7b\n    \"acrValues\": \"" ++ acr ++ "\",\n" ++
  "    \"resourceMetadata\": \"https://gateway.localtest.me/prm\",\n" ++
  "    \"scope\": \"ops:write\"\n  \x7d\n\x7d"

/-- The `acr` that a challenge offers. -/
private def sampleAcr (payload : Json) : String :=
  (Json.string? ((payload.get? "data").bind (·.get? "acrValues"))).getD ""

/-- `JSON` as far as these runs use it. -/
private def sampleJson : JsonText where
  stringify := fun _ ↦ "\x7b\"deployment\":\"checkout\"\x7d"
  stringifyIndented := fun payload ↦ sampleText (sampleAcr payload)
  parse := fun text ↦
    (["mfa", "mfa→"].find? (sampleText · = text)).map fun acr ↦ (sampleFields acr).toPayload

private def sampleSystem (specialistScope : String) (tokens : List TokenData) : System where
  copilot := { Copilot.sampleConfig with specialistScope := specialistScope }
  specialist := Specialist.sampleConfig
  endpoint := sampleEndpoint tokens
  json := sampleJson
  decodeJwt := fun token ↦ (sampleToken tokens token).map tokenClaims

/-- The request of a user who has logged in with this token. -/
private def sampleRequest (t : TokenData) : ChatRequest :=
  ⟨⟨⟨tokenClaims t, parseScopes (tokenClaims t)⟩, sampleCompact t⟩, "restart checkout",
    ⟨"checkout", none, none⟩, by decide⟩

private def sampleReply (acr : String) : SendMessageResult :=
  .message ⟨.agent, [.text (sampleText acr)]⟩

section Facts

variable {scope : String} {tokens : List TokenData} {t : TokenData}

private theorem sample_deployed : Deployed (sampleSystem scope tokens) where
  copilotClient := rfl
  specialistAudience := rfl
  specialistClient := rfl
  mcpOpsAudience := rfl
  authorizers := fun _ _ _ _ _ _ ↦ ⟨_, rfl⟩

private theorem sample_answers {workload jti : String} {params : ExchangeTokenParams}
    (hactor : params.actorToken ≠ "")
    (hworkload : presentedActor sampleServer .initial
      ((sampleEndpoint tokens).context params ⟨0, 0, .response 200 "key"⟩ ⟨jti, 600⟩) =
        some workload)
    (hknown : ∀ response, (result sampleServer .initial
      ((sampleEndpoint tokens).context params ⟨0, 0, .response 200 "key"⟩ ⟨jti, 600⟩)).2 =
        .ok response →
      sampleToken tokens (sampleCompact response.accessToken) = some response.accessToken) :
    (sampleEndpoint tokens).Answers workload params (sampleAnswer tokens jti params) := by
  refine ⟨hactor, .initial, ⟨0, 0, .response 200 "key"⟩, ⟨jti, 600⟩, none, _, .error noText,
    hworkload, .atOnce _ ?_, ?_, rfl⟩
  · rintro ⟨-, hnonce, -⟩
    cases hnonce
  · intro response hresponse
    exact recognises_sampleEndpoint_iff.mpr (hknown response hresponse)

end Facts

/-- The parameters of the exchange for a request. -/
private def sampleParams (scope : String) (t : TokenData) : ExchangeTokenParams :=
  ⟨"token", Copilot.sampleConfig.agentClientId, .privateKeyJwt "kid-1" "token", sampleCompact t,
    "e30.copilot.sig", "agent-specialist", scope, false⟩

/-- A request up to the answer of its exchange. -/
private def opening (scope : String) (tokens : List TokenData) (c : Nat) (t : TokenData)
    (jti : String) : List (Nat × ChatEvent) :=
  [(c, .chat (sampleRequest t) 0),
    (c, .obtain (.prepared (samplePreparation "e30.copilot.sig"))),
    (c, .obtain (.exchanged (sampleAnswer tokens jti (sampleParams scope t)) 1))]

private def aliceLogin : TokenData := authorizationCodeToken
  ⟨"alice", "a0", 600, some "openid inspect:read llm:invoke", .items (.array ["sre"]), none⟩

private def bobLogin : TokenData := authorizationCodeToken
  ⟨"bob", "b0", 600, some "openid inspect:read llm:invoke", .items .absent, some "mfa"⟩

private def aliceToken : TokenData :=
  ⟨"alice", "t1", 600, ["agent-specialist"], some "inspect:read llm:invoke", none,
    .items (.array ["sre"]), some (wrapAct spiffeCopilot none), .map (some spiffeSpecialist)⟩

private def sampleTokens : List TokenData := [aliceLogin, bobLogin, aliceToken]

private def defaultScope : String := "inspect:read ops:write llm:invoke"

/-- Bob is denied, and Alice is challenged. -/
private def sampleRun : List (Nat × ChatEvent) :=
  opening defaultScope sampleTokens 0 bobLogin "t0" ++
    opening defaultScope sampleTokens 1 aliceLogin "t1" ++
    [(1, ChatEvent.replied (sampleDeps "mfa" sampleTokens) (.ok (sampleReply "mfa")))]

section Runs

variable {scope jti acr : String} {tokens : List TokenData} {t d : TokenData} {c : Nat}
  {es : List (Nat × ChatEvent)}

/-- The challenge arrives. -/
private theorem sample_served
    (hserves : Serves (sampleSystem scope tokens) (sampleCompact d) (sampleDeps acr tokens))
    (hof : TokenOf (sampleSystem scope tokens) t d) (hops : "ops:write" ∉ d.subjectScopes)
    (hlossless : sampleJson.Lossless (sampleFields acr).toPayload) (r : ChatRequest) :
    Served (sampleSystem scope tokens) r (sampleCompact d) (sampleDeps acr tokens)
      (sampleReply acr) := by
  refine ⟨hserves, ?_⟩
  have hfields : Specialist.stepUpFields (sampleDiscovery acr) Specialist.sampleConfig =
      .ok (sampleFields acr) := rfl
  obtain ⟨-, state, hpublished⟩ :=
    stepUp_of_serves sample_deployed hserves rfl hof hops rfl hfields r
  rw [hpublished]
  exact ⟨rfl, hlossless⟩

end Runs

section Logins

variable {scope : String} {tokens : List TokenData} {es : List (Nat × ChatEvent)}

end Logins

end Sample
end AgentsAuth.EndToEnd
