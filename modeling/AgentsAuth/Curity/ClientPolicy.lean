import AgentsAuth.Base.Json

/-!
# Client policy of the token exchange

The static table of `k8s/curity/procedures/token-exchange.js:86–137`: which
workload may act for which client, which audiences the client may ask for, which
scopes each of them may carry and which workload may act next.
-/

namespace AgentsAuth.Curity

open AgentsAuth.Base

/-- `SPIRE_TRUST_DOMAIN`. -/
def spireTrustDomain : String := "spiffe://demo.curity.local"

/-- `SPIFFE_COPILOT`. -/
def spiffeCopilot : String := spireTrustDomain ++ "/ns/agents/sa/agent-copilot"

/-- `SPIFFE_SPECIALIST`. -/
def spiffeSpecialist : String := spireTrustDomain ++ "/ns/agents/sa/agent-specialist"

/-- `SPIFFE_GATEWAY`. -/
def spiffeGateway : String := spireTrustDomain ++ "/ns/mcp/sa/agentgateway"

/-- `SPIFFE_MCP_OPS`. -/
def spiffeMcpOps : String := spireTrustDomain ++ "/ns/mcp/sa/mcp-ops"

/-- `SPIFFE_MCP_INSPECT`. -/
def spiffeMcpInspect : String := spireTrustDomain ++ "/ns/mcp/sa/mcp-inspect"

/-- An entry of `perAudience`; its two fields are `undefined` on an inherited property. -/
structure AudiencePolicy where
  scopes : Option (List String)
  mayAct : Option String

/-- An entry of `CLIENT_POLICY`. -/
structure ClientPolicy where
  perAudience : List (String × AudiencePolicy)
  allowedActor : String

/-- The CIMD client ID of agent-copilot. -/
def copilotClient : String := "https://copilot.localtest.me/.well-known/oauth-client"

/-- The CIMD client ID of agent-specialist. -/
def specialistClient : String := "https://specialist.localtest.me/.well-known/oauth-client"

/-- The client ID of agentgateway. -/
def gatewayClient : String := "agentgateway"

/-- The client ID of mcp-ops. -/
def mcpOpsClient : String := "mcp-ops"

/-- The client ID of mcp-inspect. -/
def mcpInspectClient : String := "mcp-inspect"

/-- `CLIENT_POLICY`. -/
def clientPolicy : List (String × ClientPolicy) :=
  [(copilotClient,
      { perAudience :=
          [("mcp-gateway", ⟨some ["inspect:read"], some spiffeGateway⟩),
           ("agent-specialist",
             ⟨some ["inspect:read", "ops:write", "llm:invoke"], some spiffeSpecialist⟩),
           ("llm-gateway", ⟨some ["llm:invoke"], none⟩)]
        allowedActor := spiffeCopilot }),
   (specialistClient,
      { perAudience :=
          [("mcp-gateway", ⟨some ["inspect:read", "ops:write"], some spiffeGateway⟩),
           ("llm-gateway", ⟨some ["llm:invoke"], none⟩)]
        allowedActor := spiffeSpecialist }),
   (gatewayClient,
      { perAudience :=
          [("mcp-inspect", ⟨some ["inspect:read"], some spiffeMcpInspect⟩),
           ("mcp-ops", ⟨some ["ops:write"], some spiffeMcpOps⟩)]
        allowedActor := spiffeGateway }),
   (mcpOpsClient,
      { perAudience := [("ops-api", ⟨some ["ops:write"], none⟩)]
        allowedActor := spiffeMcpOps }),
   (mcpInspectClient,
      { perAudience := [("inspect-api", ⟨some ["inspect:read"], none⟩)]
        allowedActor := spiffeMcpInspect })]

/-- `policy.perAudience[requestedAudience]`: an inherited property has neither field. -/
def ClientPolicy.audience (policy : ClientPolicy) (name : String) : Option AudiencePolicy :=
  match property scriptPrototype policy.perAudience name with
  | .own audPolicy => some audPolicy
  | .inherited => some ⟨none, none⟩
  | .missing => none

/-- An edge of the delegation graph: a client, its workload, an audience and what it may carry. -/
structure Edge where
  clientId : String
  actor : String
  audience : String
  scopes : List String
  mayAct : Option String
deriving DecidableEq

/-- The edges that `CLIENT_POLICY` spells out. -/
def policyEdges : List Edge :=
  clientPolicy.flatMap fun c ↦ c.2.perAudience.map fun a ↦
    ⟨c.1, c.2.allowedActor, a.1, a.2.scopes.getD [], a.2.mayAct⟩

/-- An audience found with a scope list is an edge of the graph. -/
theorem mem_policyEdges {clientId audience : String} {policy : ClientPolicy}
    {audPolicy : AudiencePolicy} {scopes : List String}
    (hc : property scriptPrototype clientPolicy clientId = .own policy)
    (ha : policy.audience audience = some audPolicy) (hs : audPolicy.scopes = some scopes) :
    ⟨clientId, policy.allowedActor, audience, scopes, audPolicy.mayAct⟩ ∈ policyEdges := by
  have hc' := mem_of_property_eq_own hc
  rw [ClientPolicy.audience] at ha
  split at ha
  · next found hfound =>
    obtain rfl : found = audPolicy := by simpa using ha
    have ha' := mem_of_property_eq_own hfound
    refine List.mem_flatMap.mpr ⟨_, hc', List.mem_map.mpr ⟨_, ha', ?_⟩⟩
    simp [hs]
  · simp at ha
    simp [← ha] at hs
  · simp at ha

/-- An edge is determined by its client and its audience. -/
theorem edge_unique : ∀ e ∈ policyEdges, ∀ e' ∈ policyEdges, e'.clientId = e.clientId →
    e'.audience = e.audience → e' = e := by
  decide

/-- An edge of the graph is an entry of the policy. -/
theorem exists_policy {e : Edge} (he : e ∈ policyEdges) :
    ∃ policy audPolicy, property scriptPrototype clientPolicy e.clientId = .own policy ∧
      policy.audience e.audience = some audPolicy ∧ policy.allowedActor = e.actor ∧
      audPolicy.scopes = some e.scopes ∧ audPolicy.mayAct = e.mayAct := by
  simp only [policyEdges, clientPolicy, List.flatMap_cons, List.flatMap_nil, List.map_cons,
    List.map_nil, List.cons_append, List.nil_append, List.append_nil, Option.getD_some,
    List.mem_cons, List.not_mem_nil, or_false] at he
  rcases he with rfl | rfl | rfl | rfl | rfl | rfl | rfl | rfl | rfl <;>
    exact ⟨_, _, rfl, rfl, rfl, rfl, rfl⟩

end AgentsAuth.Curity
