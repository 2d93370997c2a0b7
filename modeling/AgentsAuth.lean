import AgentsAuth.Lib.Machine
import AgentsAuth.Lib.InsertionMap
import AgentsAuth.Lib.Words
import AgentsAuth.Lib.Delegation
import AgentsAuth.Base.Json
import AgentsAuth.Curity.Token
import AgentsAuth.Curity.ClientPolicy
import AgentsAuth.Curity.ActorToken
import AgentsAuth.Curity.TokenExchange
import AgentsAuth.AuthCurity.Verify
import AgentsAuth.Api.Middleware
import AgentsAuth.Api.OpsApi
import AgentsAuth.Api.InspectApi
import AgentsAuth.Curity.Minting
import AgentsAuth.Curity.Derivation
import AgentsAuth.Api.Provenance
import AgentsAuth.Curity.Attenuation
import AgentsAuth.AuthCurity.Dpop
import AgentsAuth.AuthCurity.DpopReplay
import AgentsAuth.Shim.ExchangeCache
import AgentsAuth.Shim.ExchangeHandler
import AgentsAuth.Shim.Justified
import AgentsAuth.Agents.ObtainToken
import AgentsAuth.Agents.TokenOrigin
import AgentsAuth.Copilot.Exchanges
import AgentsAuth.Copilot.CacheTransparency
import AgentsAuth.Agents.ChainHop
import AgentsAuth.Copilot.LastToken
import AgentsAuth.Mcp.LastToken
import AgentsAuth.Specialist.Exchanges
import AgentsAuth.Specialist.LastToken
import AgentsAuth.Debug.UserIsolation
import AgentsAuth.Runtime.AuthorizationServer
import AgentsAuth.Runtime.McpOAuthClient
import AgentsAuth.Runtime.Pinning
import AgentsAuth.A2a.Payload
import AgentsAuth.Specialist.Executor
import AgentsAuth.Copilot.Chat
import AgentsAuth.Curity.TokenEndpoint
import AgentsAuth.EndToEnd.PrivilegedChat
import AgentsAuth.EndToEnd.Causes
import AgentsAuth.EndToEnd.RoleOrStepUp
import AgentsAuth.Curity.ErrorCodes
import AgentsAuth.Runtime.Discovery
import AgentsAuth.Runtime.DiscoveryRuns
import AgentsAuth.Specialist.StepUpSink
import AgentsAuth.Specialist.ToolsRoute
import AgentsAuth.Web.AgentRoute
import AgentsAuth.Copilot.ReadPath
import AgentsAuth.EndToEnd.RoundTrip
import AgentsAuth.AuthCurity.IdentitySpan
import AgentsAuth.Api.McpOps
import AgentsAuth.Api.ChainIntegrity
import AgentsAuth.Display.ActorChains
import AgentsAuth.Copilot.Recovery
import AgentsAuth.Copilot.RecoveryRuns
import AgentsAuth.Copilot.Reacquisition
import AgentsAuth.AuthCurity.ExchangeSettlement
import AgentsAuth.Curity.ProcedureOutcome
import AgentsAuth.Curity.JwksFloor
import AgentsAuth.Shim.AllowList
import AgentsAuth.Lib.MapData
import AgentsAuth.AuthCurity.ReplayRefinement
import AgentsAuth.Lib.Recency
import AgentsAuth.Shim.CacheLaws
import AgentsAuth.Agents.CachedLifetimes
import AgentsAuth.AuthCurity.DpopProof
import AgentsAuth.Base.Headers
import AgentsAuth.Runtime.DpopFetch
import AgentsAuth.Display.Ledger
import AgentsAuth.Specialist.Connections
import AgentsAuth.Display.ExchangeTrees
import AgentsAuth.Display.PermittedActor
import AgentsAuth.Display.LeafRows
import AgentsAuth.Display.TraceRows
import AgentsAuth.AuthCurity.VerifyErrors
import AgentsAuth.Api.ToolRoles
import AgentsAuth.EndToEnd.CallableTools
import AgentsAuth.Lib.Regex
import AgentsAuth.Specialist.StepUpChallenge
import AgentsAuth.Lib.AuthChallenge
import AgentsAuth.Api.McpInspect
import AgentsAuth.EndToEnd.Challenges
import AgentsAuth.Copilot.Intent
import AgentsAuth.Lib.BackReferences
import AgentsAuth.Otel.WireLog
import AgentsAuth.Copilot.DownstreamChain
import AgentsAuth.Lib.Needs
import AgentsAuth.Otel.WireFormat
import AgentsAuth.Otel.WireTotal
import AgentsAuth.Agents.TokenExchangeCache
import AgentsAuth.AuthCurity.Exchange
import AgentsAuth.Lib.Fallible
import AgentsAuth.Lib.LastWriter
import AgentsAuth.Lib.Pairing
import AgentsAuth.Lib.Preorder
import AgentsAuth.Lib.Remembered
import AgentsAuth.Api.ClusterWrites
import AgentsAuth.EndToEnd.WriteTools
import AgentsAuth.Lib.PercentEncoding
import AgentsAuth.Lib.WebUrl
import AgentsAuth.Api.InspectReads
import AgentsAuth.EndToEnd.ReadTools
import AgentsAuth.Gateway.Policies
import AgentsAuth.Lib.Cel
import AgentsAuth.EndToEnd.FrontDoor
import AgentsAuth.Gateway.LlmEgress
import AgentsAuth.Web.ChatPage
import AgentsAuth.Curity.Delegability
import AgentsAuth.EndToEnd.Authority
import AgentsAuth.Debug.RawTokens
import AgentsAuth.Web.TokenRoutes
import AgentsAuth.Lib.Double
import AgentsAuth.EndToEnd.LedgerLeaves
