import AgentsAuth.Agents.ChainHop
import AgentsAuth.Agents.TokenOrigin

/-!
# The MCP servers: their exchange and their debug chain

mcp-ops and mcp-inspect exchange every inbound token for one of their resource server and
keep both tokens of the last exchange for `/last-token`. The two services differ in names.
-/

namespace AgentsAuth.Mcp

open AgentsAuth.Agents AgentsAuth.AuthCurity

/-- The fields of `Config` that the exchange and the debug route read, with one name for the
audience and the scope of the resource server: `apps/mcp-ops/src/config.ts:3–38`,
`apps/mcp-inspect/src/config.ts:1–19`. -/
structure Config where
  curityIssuer : String
  curityJwksUri : String
  expectedAudience : String
  curityTokenEndpoint : String
  clientId : String
  clientSecret : String
  apiAudience : String
  apiScope : String

/-- `LastExchange` of `ops-api-client.ts:16–20`; `atMs` is `at`. -/
structure LastExchange where
  subjectToken : String
  accessToken : String
  atMs : Int
deriving DecidableEq

/-- The exchange for the resource server. -/
def obtainApiToken (cfg : Config) (subjectToken : String) : ObtainCall Unit LastExchange where
  helper := ()
  key := none
  bypassCache := false
  svidMissing := "SPIFFE JWT-SVID not available at /run/spiffe/curity-actor.jwt " ++
    "(spiffe-helper not ready?)"
  tokenEndpoint := some cfg.curityTokenEndpoint
  clientId := cfg.clientId
  clientSecret := some cfg.clientSecret
  subjectToken := subjectToken
  audience := cfg.apiAudience
  scope := cfg.apiScope
  dpop := false
  slot := some fun accessToken now ↦ ⟨subjectToken, accessToken, now⟩

/-- Model of `apps/mcp-ops/src/ops-api-client.ts:56–86`. -/
def obtainOpsApiToken := obtainApiToken

/-- Model of `apps/mcp-inspect/src/inspect-api-client.ts:43–71`. -/
def obtainInspectApiToken := obtainApiToken

/-- The process: its requests are the subject tokens of its tool calls. -/
def server (cfg : Config) : ObtainDeps Unit LastExchange String where
  exchangeCacheTtlMs := 0
  callOf := obtainApiToken cfg

/-- The rows of the last tool call under the names of a service. -/
def chainRows (inboundHop outboundHop : String) (reader : JwtReader) (last : Option LastExchange)
    (includeRaw : Bool) : List ChainHop :=
  let hop (name token : String) : ChainHop :=
    ⟨name, decodePart reader token 0, decodePart reader token 1,
      if includeRaw then some token else none, none⟩
  match last with
  | none => []
  | some last => [hop inboundHop last.subjectToken, hop outboundHop last.accessToken]

/-- `buildChain` of `apps/mcp-ops/src/last-token-route.ts:60–80`. -/
def opsBuildChain := chainRows "agentgateway → mcp-ops" "mcp-ops → ops-api"

/-- `buildChain` of `apps/mcp-inspect/src/last-token-route.ts:57–77`. -/
def inspectBuildChain := chainRows "agentgateway → mcp-inspect" "mcp-inspect → inspect-api"

end AgentsAuth.Mcp
