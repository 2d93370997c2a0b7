import AgentsAuth.Agents.TokenOrigin

/-!
# The exchanges of agent-specialist

`obtainOpsToken`, `obtainInspectToken` and `obtainLlmToken` of `apps/agent-specialist/src`:
only the last one has a cache, and the slots of the last two name no user.
-/

namespace AgentsAuth.Specialist

open AgentsAuth.Agents AgentsAuth.AuthCurity

/-- The fields of `Config` that the exchanges, the executor and the routes read:
`apps/agent-specialist/src/config.ts:1–57`. -/
structure Config where
  curityIssuer : String
  curityJwksUri : String
  expectedAudience : String
  exchangeCacheTtlMs : Nat
  agentClientId : String
  mcpOpsUrl : String
  mcpOpsAudience : String
  mcpInspectUrl : String
  mcpInspectAudience : String
  llmGatewayAudience : String
  llmGatewayScope : String
  requiredAcr : String

/-- The modules with a slot: `mcp-ops-client.ts`, `inspect-token.ts`, `llm-token.ts`. -/
inductive Helper where
  | ops
  | inspect
  | llm
deriving DecidableEq

/-- A slot; `atMs` is `at`, and only `mcp-ops-client.ts` has a `sub`. -/
structure ExchangeSlot where
  sub : Option String
  accessToken : String
  atMs : Int
deriving DecidableEq

/-- `SVID_FILE` of `apps/agent-specialist/src/spiffe-constants.ts`. -/
def svidFile : String := "/run/spiffe/curity-actor.jwt"

/-- Model of `apps/agent-specialist/src/mcp-ops-client.ts:36–84`. -/
def obtainOpsToken (cfg : Config) (subjectToken subjectSub tokenEndpoint scope : String)
    (recordLastExchange : Option Bool) : ObtainCall Helper ExchangeSlot where
  helper := .ops
  key := none
  bypassCache := false
  svidMissing := "SPIFFE JWT-SVID not available at " ++ svidFile ++ " (spiffe-helper not ready?)"
  tokenEndpoint := some tokenEndpoint
  clientId := cfg.agentClientId
  clientSecret := none
  subjectToken := subjectToken
  audience := cfg.mcpOpsAudience
  scope := scope
  dpop := true
  slot :=
    if recordLastExchange = some false then none
    else some fun accessToken now ↦ ⟨some subjectSub, accessToken, now⟩

/-- Model of `apps/agent-specialist/src/inspect-token.ts:26–60`. -/
def obtainInspectToken (cfg : Config) (subjectToken tokenEndpoint scope : String) :
    ObtainCall Helper ExchangeSlot where
  helper := .inspect
  key := none
  bypassCache := false
  svidMissing := "SPIFFE JWT-SVID not available at " ++ svidFile
  tokenEndpoint := some tokenEndpoint
  clientId := cfg.agentClientId
  clientSecret := none
  subjectToken := subjectToken
  audience := cfg.mcpInspectAudience
  scope := scope
  dpop := true
  slot := some fun accessToken now ↦ ⟨none, accessToken, now⟩

/-- Model of `apps/agent-specialist/src/llm-token.ts:30–84`. -/
def obtainLlmToken (cfg : Config) (subjectToken subjectSub subjectAcr : String) :
    ObtainCall Helper ExchangeSlot where
  helper := .llm
  key := some ⟨subjectSub, cfg.llmGatewayScope, cfg.llmGatewayAudience, subjectAcr⟩
  bypassCache := false
  svidMissing := "SPIFFE JWT-SVID not available at " ++ svidFile ++ " (spiffe-helper not ready?)"
  tokenEndpoint := none
  clientId := cfg.agentClientId
  clientSecret := none
  subjectToken := subjectToken
  audience := cfg.llmGatewayAudience
  scope := cfg.llmGatewayScope
  dpop := false
  slot := some fun accessToken now ↦ ⟨none, accessToken, now⟩

/-- A call of one of the helpers. -/
inductive SpecialistRequest where
  | ops (subjectToken subjectSub tokenEndpoint scope : String) (recordLastExchange : Option Bool)
  | inspect (subjectToken tokenEndpoint scope : String)
  | llm (subjectToken subjectSub subjectAcr : String)
deriving DecidableEq

/-- The process with its three helpers. -/
def specialist (cfg : Config) : ObtainDeps Helper ExchangeSlot SpecialistRequest where
  exchangeCacheTtlMs := cfg.exchangeCacheTtlMs
  callOf
    | .ops subjectToken subjectSub tokenEndpoint scope recordLastExchange =>
      obtainOpsToken cfg subjectToken subjectSub tokenEndpoint scope recordLastExchange
    | .inspect subjectToken tokenEndpoint scope =>
      obtainInspectToken cfg subjectToken tokenEndpoint scope
    | .llm subjectToken subjectSub subjectAcr =>
      obtainLlmToken cfg subjectToken subjectSub subjectAcr

section Calls

variable {cfg : Config} {req : SpecialistRequest} {slot : String → Int → ExchangeSlot}

/-- Whatever a call records, the slot holds its token. -/
theorem callOf_slot_accessToken (h : ((specialist cfg).callOf req).slot = some slot)
    (accessToken : String) (now : Int) : (slot accessToken now).accessToken = accessToken := by
  cases req with
  | ops subjectToken subjectSub tokenEndpoint scope recordLastExchange =>
    simp only [specialist, obtainOpsToken] at h
    split at h
    · cases h
    · cases h
      rfl
  | inspect subjectToken tokenEndpoint scope =>
    cases h
    rfl
  | llm subjectToken subjectSub subjectAcr =>
    cases h
    rfl

end Calls

/-- A configuration with the defaults of `loadConfig` and the audience of the gateway. -/
def sampleConfig : Config where
  curityIssuer := "https://curity.localtest.me/oauth/v2/oauth-anonymous"
  curityJwksUri := "https://curity.localtest.me/oauth/v2/oauth-anonymous/jwks"
  expectedAudience := "agent-specialist"
  exchangeCacheTtlMs := 60000
  agentClientId := "https://specialist.localtest.me/.well-known/oauth-client"
  mcpOpsUrl := "http://agentgateway.mcp.svc.cluster.local:8080/ops/mcp"
  mcpOpsAudience := "mcp-gateway"
  mcpInspectUrl := "http://agentgateway.mcp.svc.cluster.local:8080/inspect/mcp"
  mcpInspectAudience := "mcp-gateway"
  llmGatewayAudience := "llm-gateway"
  llmGatewayScope := "llm:invoke"
  requiredAcr := "mfa"

end AgentsAuth.Specialist
