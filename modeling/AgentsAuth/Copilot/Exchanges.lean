import AgentsAuth.Agents.TokenOrigin

/-!
# The exchanges of agent-copilot

`obtainSpecialistToken`, `obtainMcpToken` and `obtainLlmToken` of `apps/agent-copilot/src`:
three helpers of one shape, each with a cache and a slot of its own, and the requests of
`/chat` and `/tools` that call them.
-/

namespace AgentsAuth.Copilot

open AgentsAuth.Agents AgentsAuth.AuthCurity AgentsAuth.Base AgentsAuth.Lib

/-- The fields of `Config` that the exchanges, the middleware and the routes read:
`apps/agent-copilot/src/config.ts:1–49`. -/
structure Config where
  curityIssuer : String
  curityJwksUri : String
  expectedAudience : String
  exchangeCacheTtlMs : Nat
  agentClientId : String
  mcpInspectUrl : String
  mcpInspectAudience : String
  specialistA2aUrl : String
  specialistAudience : String
  specialistScope : String
  llmGatewayAudience : String
  llmGatewayScope : String

/-- The modules with a cache and a slot: `specialist-client.ts`, `mcp-client.ts`, `llm-token.ts`. -/
inductive Helper where
  | specialist
  | inspect
  | llm
deriving DecidableEq

/-- `lastExchange`, the same type in the three modules; `atMs` is `at`. -/
structure ExchangeSlot where
  sub : String
  accessToken : String
  atMs : Int
  subjectJti : Option String
deriving DecidableEq

/-- The options that the three helpers share. -/
structure ObtainOpts where
  subjectToken : String
  subjectSub : String
  subjectAcr : String
  recordLastExchange : Option Bool
deriving DecidableEq

/-- `SVID_FILE` of `apps/agent-copilot/src/spiffe-constants.ts`. -/
def svidFile : String := "/run/spiffe/curity-actor.jwt"

/-- Model of `jtiOf`, `specialist-client.ts:25–32`; `decodeJwt` yields `none` where it throws. -/
def jtiOf (decodeJwt : String → Option Claims) (token : String) : Option String :=
  match decodeJwt token with
  | none => none
  | some claims => Json.string? (claims "jti")

/-- The slot that an exchange leaves behind: `specialist-client.ts:83–88`. -/
def exchangeSlot (decodeJwt : String → Option Claims) (opts : ObtainOpts) (accessToken : String)
    (now : Int) : ExchangeSlot :=
  ⟨opts.subjectSub, accessToken, now, jtiOf decodeJwt opts.subjectToken⟩

/-- The slot function of a call with `recordLastExchange`. -/
def recordingSlot (decodeJwt : String → Option Claims) (opts : ObtainOpts) :
    Option (String → Int → ExchangeSlot) :=
  if opts.recordLastExchange = some false then none else some (exchangeSlot decodeJwt opts)

/-- Model of `apps/agent-copilot/src/specialist-client.ts:50–125`. -/
def obtainSpecialistToken (cfg : Config) (decodeJwt : String → Option Claims)
    (opts : ObtainOpts) : ObtainCall Helper ExchangeSlot where
  helper := .specialist
  key := some ⟨opts.subjectSub, cfg.specialistScope, cfg.specialistAudience, opts.subjectAcr⟩
  bypassCache := false
  svidMissing := "SPIFFE JWT-SVID not available at " ++ svidFile
  tokenEndpoint := none
  clientId := cfg.agentClientId
  clientSecret := none
  subjectToken := opts.subjectToken
  audience := cfg.specialistAudience
  scope := cfg.specialistScope
  dpop := false
  slot := recordingSlot decodeJwt opts

/-- Model of `apps/agent-copilot/src/mcp-client.ts:57–137`. -/
def obtainMcpToken (cfg : Config) (decodeJwt : String → Option Claims) (opts : ObtainOpts)
    (tokenEndpoint scope : String) (bypassCache : Bool) : ObtainCall Helper ExchangeSlot where
  helper := .inspect
  key := some ⟨opts.subjectSub, scope, cfg.mcpInspectAudience, opts.subjectAcr⟩
  bypassCache := bypassCache
  svidMissing := "SPIFFE JWT-SVID not available at " ++ svidFile ++ " (spiffe-helper not ready?)"
  tokenEndpoint := some tokenEndpoint
  clientId := cfg.agentClientId
  clientSecret := none
  subjectToken := opts.subjectToken
  audience := cfg.mcpInspectAudience
  scope := scope
  dpop := true
  slot := recordingSlot decodeJwt opts

/-- Model of `apps/agent-copilot/src/llm-token.ts:47–114`, which always records. -/
def obtainLlmToken (cfg : Config) (decodeJwt : String → Option Claims) (opts : ObtainOpts) :
    ObtainCall Helper ExchangeSlot where
  helper := .llm
  key := some ⟨opts.subjectSub, cfg.llmGatewayScope, cfg.llmGatewayAudience, opts.subjectAcr⟩
  bypassCache := false
  svidMissing := "SPIFFE JWT-SVID not available at " ++ svidFile ++ " (spiffe-helper not ready?)"
  tokenEndpoint := none
  clientId := cfg.agentClientId
  clientSecret := none
  subjectToken := opts.subjectToken
  audience := cfg.llmGatewayAudience
  scope := cfg.llmGatewayScope
  dpop := false
  slot := some (exchangeSlot decodeJwt opts)

/-- A call of one of the helpers; endpoint, scope and `forced` of the MCP hop come from its
authorization provider, `apps/agent-copilot/src/mcp-auth.ts:26–37`. -/
inductive CopilotRequest where
  | specialist (opts : ObtainOpts)
  | inspect (opts : ObtainOpts) (tokenEndpoint scope : String) (forced : Bool)
  | llm (opts : ObtainOpts)
deriving DecidableEq

/-- The options of a request. -/
def CopilotRequest.opts : CopilotRequest → ObtainOpts
  | .specialist opts => opts
  | .inspect opts _ _ _ => opts
  | .llm opts => opts

/-- The process with its three helpers. -/
def copilot (cfg : Config) (decodeJwt : String → Option Claims) :
    ObtainDeps Helper ExchangeSlot CopilotRequest where
  exchangeCacheTtlMs := cfg.exchangeCacheTtlMs
  callOf
    | .specialist opts => obtainSpecialistToken cfg decodeJwt opts
    | .inspect opts tokenEndpoint scope forced =>
      obtainMcpToken cfg decodeJwt opts tokenEndpoint scope forced
    | .llm opts => obtainLlmToken cfg decodeJwt opts
  -- `invalidateSpecialistTokenCache`, `specialist-client.ts:127–138`
  invalidates
    | .specialist _ => true
    | .inspect _ _ _ _ | .llm _ => false

/-- `AuthedRequest` of `apps/agent-copilot/src/auth-middleware.ts:5–8`. -/
structure AuthedRequest where
  caller : VerifiedJwt
  bearerToken : String

/-- What `authMiddleware` lets through: `apps/agent-copilot/src/auth-middleware.ts:10–46`. -/
def authMiddleware (jose : Jose) (cfg : Config) (authorization : Option String) :
    Option AuthedRequest := do
  let token ← bearerToken authorization
  let caller ← (verifyJwt jose token
    ⟨cfg.curityIssuer, cfg.expectedAudience, some cfg.curityJwksUri, none, none⟩).toOption
  return ⟨caller, token⟩

/-- The options that `/chat` passes: `server.ts:60–65,98–104`. -/
def chatOpts (authed : AuthedRequest) : ObtainOpts :=
  ⟨authed.bearerToken, claimOr authed.caller.payload "sub" "unknown",
    claimOr authed.caller.payload "acr" "", none⟩

section Calls

variable {cfg : Config} {decodeJwt : String → Option Claims}

/-- Every call exchanges the subject token of its options. -/
theorem callOf_subjectToken (req : CopilotRequest) :
    ((copilot cfg decodeJwt).callOf req).subjectToken = req.opts.subjectToken := by
  cases req <;> rfl

/-- Where a call records, the slot says whose exchange it was. -/
theorem callOf_slot {req : CopilotRequest} {slot : String → Int → ExchangeSlot}
    (h : ((copilot cfg decodeJwt).callOf req).slot = some slot) :
    slot = exchangeSlot decodeJwt req.opts := by
  have hrecording : ∀ opts, recordingSlot decodeJwt opts = some slot →
      slot = exchangeSlot decodeJwt opts := by
    intro opts hopts
    unfold recordingSlot at hopts
    split at hopts
    · cases hopts
    · exact (Option.some.inj hopts).symm
  cases req with
  | specialist opts => exact hrecording opts h
  | inspect opts tokenEndpoint scope forced => exact hrecording opts h
  | llm opts => exact (Option.some.inj h).symm

end Calls

/-- A configuration with the defaults of `loadConfig` and the audience of the gateway. -/
def sampleConfig : Config where
  curityIssuer := "https://curity.localtest.me/oauth/v2/oauth-anonymous"
  curityJwksUri := "https://curity.localtest.me/oauth/v2/oauth-anonymous/jwks"
  expectedAudience := "agent-copilot"
  exchangeCacheTtlMs := 60000
  agentClientId := "https://copilot.localtest.me/.well-known/oauth-client"
  mcpInspectUrl := "http://agentgateway.mcp.svc.cluster.local:8080/inspect/mcp"
  mcpInspectAudience := "mcp-gateway"
  specialistA2aUrl := "http://agent-specialist.agents.svc.cluster.local:8082/a2a"
  specialistAudience := "agent-specialist"
  specialistScope := "inspect:read ops:write llm:invoke"
  llmGatewayAudience := "llm-gateway"
  llmGatewayScope := "llm:invoke"

end AgentsAuth.Copilot
