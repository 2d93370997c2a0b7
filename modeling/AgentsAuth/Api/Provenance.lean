import AgentsAuth.Api.InspectApi
import AgentsAuth.Api.OpsApi
import AgentsAuth.Curity.Derivation

/-!
# What an accepted token has been through

The resource servers look at the last token only: its audience, scope, actor chain
and `acr`. Together with the client policy these determine every exchange that led
to it, back to the login.
-/

namespace AgentsAuth.Api

open AgentsAuth.AuthCurity AgentsAuth.Base AgentsAuth.Curity AgentsAuth.Lib

/-- The exchanges behind a token for ops-api, newest first. -/
def opsHops : List Hop :=
  [⟨mcpOpsClient, some spiffeMcpOps, ["ops-api"]⟩,
    ⟨gatewayClient, some spiffeGateway, ["mcp-ops"]⟩,
    ⟨specialistClient, some spiffeSpecialist, ["mcp-gateway"]⟩,
    ⟨copilotClient, some spiffeCopilot, ["agent-specialist"]⟩]

/-- The exchanges behind a token for inspect-api on copilot's own read path, newest first. -/
def inspectHops : List Hop :=
  [⟨mcpInspectClient, some spiffeMcpInspect, ["inspect-api"]⟩,
    ⟨gatewayClient, some spiffeGateway, ["mcp-inspect"]⟩,
    ⟨copilotClient, some spiffeCopilot, ["mcp-gateway"]⟩]

/-- The exchanges behind a token for inspect-api on the specialist's read path, newest first. -/
def inspectHopsViaSpecialist : List Hop :=
  [⟨mcpInspectClient, some spiffeMcpInspect, ["inspect-api"]⟩,
    ⟨gatewayClient, some spiffeGateway, ["mcp-inspect"]⟩,
    ⟨specialistClient, some spiffeSpecialist, ["mcp-gateway"]⟩,
    ⟨copilotClient, some spiffeCopilot, ["agent-specialist"]⟩]

/-- Whether an actor may come after the edge; nothing comes after the newest one. -/
private def allows (e : Edge) : Option String → Bool
  | none => true
  | some later => e.mayAct = none || e.mayAct = some later

/-- For a scope that every edge of a path carries, the actors of the path leave no choice of
edges but the given hops. -/
private def forced (scope : String) : Option String → List Hop → Bool
  | _, [] => true
  | later, hop :: rest =>
    (policyEdges.all fun e ↦
      !(e.scopes.contains scope && some e.actor = hop.actor && allows e later) || e.hop = hop) &&
    forced scope hop.actor rest

private theorem hops_of_forced {scope : String} {later : Option String} {edges : List Edge}
    {hops : List Hop} (hforced : forced scope later hops = true)
    (hactors : (edges.map fun e ↦ some e.actor) = hops.map Hop.actor)
    (hedges : ∀ e ∈ edges, e ∈ policyEdges ∧ scope ∈ e.scopes)
    (hchain : edges.IsChain fun later earlier ↦ Delegation.MayAct earlier.mayAct later.actor)
    (hlater : ∀ e ∈ edges.head?, allows e later = true) : edges.map Edge.hop = hops := by
  induction edges generalizing later hops with
  | nil =>
    rw [List.map_nil, eq_comm, List.map_eq_nil_iff] at hactors
    rw [hactors, List.map_nil]
  | cons e edges ih =>
    cases hops with
    | nil => cases hactors
    | cons hop rest =>
      rw [List.map_cons, List.map_cons, List.cons.injEq] at hactors
      rw [forced, Bool.and_eq_true, List.all_eq_true] at hforced
      have hedge := hedges e (List.mem_cons_self ..)
      have hallows := hlater e rfl
      have hhop : e.hop = hop := by
        have hall := hforced.1 e hedge.1
        simpa [hedge.2, hactors.1, hallows] using hall
      have hrest : edges.map Edge.hop = rest := by
        apply ih hforced.2 hactors.2 fun e' he' ↦ hedges e' (List.mem_cons_of_mem e he')
        · exact hchain.of_cons
        · intro e' he'
          rw [← hactors.1]
          cases edges with
          | nil => cases he'
          | cons e'' edges =>
            cases he'
            have hmay := (List.isChain_cons_cons.mp hchain).1
            rw [allows, Bool.or_eq_true, decide_eq_true_iff, decide_eq_true_iff]
            exact hmay
      rw [List.map_cons, hhop, hrest]

/-- The SPIFFE IDs that a configured chain of namespaces and service accounts stands for. -/
private def spiffeIds (ids : List (String × String)) : List String :=
  ids.map fun id ↦ "spiffe://demo.curity.local/ns/" ++ id.1 ++ "/sa/" ++ id.2

section Accepted

variable {C : Server} {es : List MintEvent} {j : Nat} {m : Minted} {scope : String} {top : Json}

/-- A minted token with a scope and an actor chain that together force a path went that path. -/
private theorem derivedFrom_of_forced (ids : List (String × String)) (hops : List Hop)
    (hm : ((minting C).run es).ledger[j]? = some m)
    (hscope : scope ∈ parseScopes (tokenClaims m.token))
    (hact : actObject (tokenClaims m.token) = some top)
    (hmatch : ChainMatches (walkActChain top) (ids.map fun id ↦ spiffeIdPattern id.1 id.2))
    (hids : hops.map Hop.actor = (spiffeIds ids).map some) (hne : hops ≠ [])
    (hforced : forced scope none hops = true) :
    ∃ login ctx edges,
      ((minting C).run es).ledger[login]? = some ⟨authorizationCodeToken ctx, .login⟩ ∧
      DerivedFrom ((minting C).run es).ledger login hops j ∧ edges ≠ [] ∧
      scope ∈ m.token.subjectScopes ∧
      Derivation (authorizationCodeToken ctx) edges m.token := by
  obtain ⟨login, hops', hfrom⟩ := exists_derivedFrom hm
  obtain ⟨ctx, edges, hlogin, rfl, hd⟩ := derivation_of_derivedFrom hfrom hm
  have htop : m.token.act = some top := (Option.filter_eq_some_iff.mp hact).1
  have hactors : edges.map Edge.actor = spiffeIds ids := by
    have hwalk : m.token.actors = walkActChain top := by
      unfold TokenData.actors
      rw [htop]
    have hlogin : (authorizationCodeToken ctx).actors = [] := rfl
    rw [hd.actors_eq, hlogin, List.append_nil] at hwalk
    rw [hwalk]
    exact eq_of_chainMatches hmatch
  have hsome : (edges.map fun e ↦ some e.actor) = hops.map Hop.actor := by
    rw [hids, ← hactors, List.map_map]
    rfl
  have hedges : edges ≠ [] := by
    intro hnil
    rw [hnil, List.map_nil, eq_comm, List.map_eq_nil_iff] at hsome
    exact hne hsome
  have hs : scope ∈ m.token.subjectScopes := by
    rwa [parseScopes_tokenClaims (fun s ↦ TokenData.isWord_of_mem_subjectScopes)
      (hd.scope hedges)] at hscope
  have hpath : edges.map Edge.hop = hops := by
    apply hops_of_forced hforced hsome
    · exact fun e he ↦ ⟨hd.policy e he, (hd.mem_scopes hs).2 e he⟩
    · exact hd.isChain
    · exact fun _ _ ↦ rfl
  rw [hpath] at hfrom
  exact ⟨login, ctx, edges, hlogin, hfrom, hedges, hs, hd⟩

end Accepted

section Acceptance

variable {C : Server} {jose : Jose} {es : List MintEvent} {j : Nat} {m : Minted}
  {authorization : Option String} {issuer jwksUri : String} {caller : VerifiedJwt}

/-- A minted token that ops-api lets pass comes from a login by the exchanges of the write path. -/
theorem opsApi_provenance (hm : ((minting C).run es).ledger[j]? = some m)
    (hsound : jose.SoundFor m.token)
    (hbearer : bearerToken authorization = some (jose.compact m.token))
    (hnext : OpsApi.authMiddleware jose (OpsApi.loadConfig issuer jwksUri) authorization =
      .next caller) :
    ∃ login ctx,
      ((minting C).run es).ledger[login]? = some ⟨authorizationCodeToken ctx, .login⟩ ∧
      DerivedFrom ((minting C).run es).ledger login opsHops j ∧
      "ops:write" ∈ (authorizationCodeToken ctx).subjectScopes ∧ ctx.acr = some "mfa" ∧
      ("sre" ∈ claimToArray ctx.roles ∨ "oncall" ∈ claimToArray ctx.roles) := by
  obtain ⟨token, top, htoken, hverify, hscopes, hact, hchain, hacr⟩ :=
    OpsApi.authMiddleware_next hnext
  rw [hbearer, Option.some.injEq] at htoken
  subst htoken
  obtain ⟨hpayload, -, hparsed⟩ := verifyJwt_compact hsound hverify
  have hscope : "ops:write" ∈ parseScopes (tokenClaims m.token) := by
    rw [← hparsed]
    exact hscopes "ops:write" (List.mem_singleton_self _)
  rw [hpayload] at hact hacr
  obtain ⟨login, ctx, edges, hlogin, hfrom, hedges, hs, hd⟩ :=
    derivedFrom_of_forced
      [("mcp", "mcp-ops"), ("mcp", "agentgateway"), ("agents", "agent-specialist"),
        ("agents", "agent-copilot")]
      opsHops hm hscope hact hchain (by decide) (by decide) (by decide)
  have hmfa : ctx.acr = some "mfa" := by
    have htoken : m.token.acr = ctx.acr := hd.acr
    have hjson : m.token.acr.map Json.str = some (.str "mfa") := hacr
    rw [htoken] at hjson
    obtain ⟨acr, hctx, heq⟩ := Option.map_eq_some_iff.mp hjson
    rw [hctx, Json.str.inj heq]
  have hrole : (authorizationCodeToken ctx).hasWriteRole = true := hd.writeRole hedges hs
  refine ⟨login, ctx, hlogin, hfrom, (hd.mem_scopes hs).1, hmfa, ?_⟩
  simpa [TokenData.hasWriteRole, authorizationCodeToken] using hrole

private theorem inspectApi_provenance (hm : ((minting C).run es).ledger[j]? = some m)
    (hsound : jose.SoundFor m.token)
    (hbearer : bearerToken authorization = some (jose.compact m.token))
    (hnext : InspectApi.authMiddleware jose (InspectApi.loadConfig issuer jwksUri)
      authorization = .next caller) :
    ∃ login hops, (hops = inspectHops ∨ hops = inspectHopsViaSpecialist) ∧
      DerivedFrom ((minting C).run es).ledger login hops j := by
  obtain ⟨token, top, expected, htoken, hverify, hscopes, hact, hexpected, hchain⟩ :=
    InspectApi.authMiddleware_next hnext
  rw [hbearer, Option.some.injEq] at htoken
  subst htoken
  obtain ⟨hpayload, -, hparsed⟩ := verifyJwt_compact hsound hverify
  have hscope : "inspect:read" ∈ parseScopes (tokenClaims m.token) := by
    rw [← hparsed]
    exact hscopes "inspect:read" (List.mem_singleton_self _)
  rw [hpayload] at hact
  rcases List.mem_cons.mp hexpected with rfl | hexpected
  · obtain ⟨login, ctx, edges, -, hfrom, -⟩ :=
      derivedFrom_of_forced
        [("mcp", "mcp-inspect"), ("mcp", "agentgateway"), ("agents", "agent-copilot")] inspectHops
        hm hscope hact hchain (by decide) (by decide) (by decide)
    exact ⟨login, inspectHops, Or.inl rfl, hfrom⟩
  · rw [List.mem_singleton] at hexpected
    subst hexpected
    obtain ⟨login, ctx, edges, -, hfrom, -⟩ :=
      derivedFrom_of_forced
        [("mcp", "mcp-inspect"), ("mcp", "agentgateway"), ("agents", "agent-specialist"),
          ("agents", "agent-copilot")]
        inspectHopsViaSpecialist hm hscope hact hchain (by decide) (by decide) (by decide)
    exact ⟨login, inspectHopsViaSpecialist, Or.inr rfl, hfrom⟩

/-- A minted token that ops-api lets pass has been through the four exchanges of the write path,
from a login with `ops:write`, the required `acr` and a write role; one that inspect-api lets
pass has been through one of the two read paths. Neither has any other derivation. -/
theorem accepted_token_provenance (hm : ((minting C).run es).ledger[j]? = some m)
    (hsound : jose.SoundFor m.token)
    (hbearer : bearerToken authorization = some (jose.compact m.token)) :
    (∀ caller, OpsApi.authMiddleware jose (OpsApi.loadConfig issuer jwksUri) authorization =
        .next caller →
      ∃ login ctx,
        ((minting C).run es).ledger[login]? = some ⟨authorizationCodeToken ctx, .login⟩ ∧
        (∀ login' hops, DerivedFrom ((minting C).run es).ledger login' hops j ↔
          login' = login ∧ hops = opsHops) ∧
        "ops:write" ∈ (authorizationCodeToken ctx).subjectScopes ∧
        ctx.acr = some (OpsApi.loadConfig issuer jwksUri).requiredAcr ∧
        ("sre" ∈ claimToArray ctx.roles ∨ "oncall" ∈ claimToArray ctx.roles)) ∧
    (∀ caller, InspectApi.authMiddleware jose (InspectApi.loadConfig issuer jwksUri)
        authorization = .next caller →
      ∃ login hops, (hops = inspectHops ∨ hops = inspectHopsViaSpecialist) ∧
        ∀ login' hops', DerivedFrom ((minting C).run es).ledger login' hops' j ↔
          login' = login ∧ hops' = hops) := by
  constructor
  · intro caller hnext
    obtain ⟨login, ctx, hlogin, hfrom, hs, hacr, hrole⟩ := opsApi_provenance hm hsound hbearer hnext
    exact ⟨login, ctx, hlogin, hfrom.eq_iff, hs, hacr, hrole⟩
  · intro caller hnext
    obtain ⟨login, hops, hhops, hfrom⟩ := inspectApi_provenance hm hsound hbearer hnext
    exact ⟨login, hops, hhops, hfrom.eq_iff⟩

end Acceptance

/-- The four exchanges of the write path. -/
private def writePath : List MintEvent :=
  [.login sampleLogin,
    sampleExchange 0 copilotClient "e30.copilot.sig" "agent-specialist" "ops:write" "t1",
    sampleExchange 1 specialistClient "e30.specialist.sig" "mcp-gateway" "ops:write" "t2",
    sampleExchange 2 gatewayClient "e30.gateway.sig" "mcp-ops" "ops:write" "t3",
    sampleExchange 3 mcpOpsClient "e30.mcp-ops.sig" "ops-api" "ops:write" "t4"]

/-- The three exchanges of copilot's own read path. -/
private def readPath : List MintEvent :=
  [.login sampleLogin,
    sampleExchange 0 copilotClient "e30.copilot.sig" "mcp-gateway" "inspect:read" "t1",
    sampleExchange 1 gatewayClient "e30.gateway.sig" "mcp-inspect" "inspect:read" "t2",
    sampleExchange 2 mcpInspectClient "e30.mcp-inspect.sig" "inspect-api" "inspect:read" "t3"]

private def opsToken : TokenData :=
  ⟨"alice", "t4", 600, ["ops-api"], some "ops:write", some "mfa", .items (.array ["sre"]),
    some (wrapAct spiffeMcpOps (some (wrapAct spiffeGateway (some (wrapAct spiffeSpecialist
      (some (wrapAct spiffeCopilot none))))))), .absent⟩

private def inspectToken : TokenData :=
  ⟨"alice", "t3", 600, ["inspect-api"], some "inspect:read", some "mfa", .items (.array ["sre"]),
    some (wrapAct spiffeMcpInspect (some (wrapAct spiffeGateway
      (some (wrapAct spiffeCopilot none))))), .absent⟩

/-- The `jose` library where only the token `t` has been signed. -/
private def sampleJose (t : TokenData) : Jose where
  jwtVerify := fun token opts ↦
    if token = "e30.token.sig" ∧ opts.audience ∈ t.aud then .ok (tokenClaims t)
    else .error "signature verification failed"
  compact := fun _ ↦ "e30.token.sig"

private theorem sampleJose_soundFor (t : TokenData) : (sampleJose t).SoundFor t := by
  intro opts claims h
  unfold sampleJose at h
  simp only at h
  split at h
  · next hok =>
    cases h
    exact ⟨rfl, hok.2⟩
  · cases h

private theorem sampleBearer :
    bearerToken (some "Bearer e30.token.sig") = some "e30.token.sig" := by
  decide

private theorem scopesWritable_tokenClaims (t : TokenData) : ScopesWritable (tokenClaims t) := by
  intro items h
  cases h

private theorem opsApi_passes :
    OpsApi.authMiddleware (sampleJose opsToken) (OpsApi.loadConfig "curity" "jwks")
        (some "Bearer e30.token.sig") =
      .next ⟨tokenClaims opsToken, parseScopes (tokenClaims opsToken)⟩ := by
  refine OpsApi.authMiddleware_next_iff.mpr ⟨_, sampleBearer, rfl, ?_, ?_, ⟨_, rfl, ?_⟩, rfl⟩
  · exact scopesWritable_tokenClaims opsToken
  · decide
  · exact (OpsApi.chainMatches_iff (i := 0)).mpr ⟨rfl, rfl⟩

private theorem inspectApi_passes :
    InspectApi.authMiddleware (sampleJose inspectToken) (InspectApi.loadConfig "curity" "jwks")
        (some "Bearer e30.token.sig") =
      .next ⟨tokenClaims inspectToken, parseScopes (tokenClaims inspectToken)⟩ := by
  refine InspectApi.authMiddleware_next_iff.mpr ⟨_, sampleBearer, rfl, ?_, ?_, _, rfl, ?_⟩
  · exact scopesWritable_tokenClaims inspectToken
  · decide
  · exact InspectApi.chainMatchesAny_iff.mp rfl

/-- Both statements are about tokens that exist: one went the write path, one the read path. -/
theorem accepted_token_provenance_sample :
    (∃ login ctx,
      ((minting sampleServer).run writePath).ledger[login]? =
        some ⟨authorizationCodeToken ctx, .login⟩ ∧
      (∀ login' hops, DerivedFrom ((minting sampleServer).run writePath).ledger login' hops 4 ↔
        login' = login ∧ hops = opsHops) ∧
      "ops:write" ∈ (authorizationCodeToken ctx).subjectScopes ∧ ctx.acr = some "mfa" ∧
      ("sre" ∈ claimToArray ctx.roles ∨ "oncall" ∈ claimToArray ctx.roles)) ∧
    (∃ login hops, (hops = inspectHops ∨ hops = inspectHopsViaSpecialist) ∧
      ∀ login' hops', DerivedFrom ((minting sampleServer).run readPath).ledger login' hops' 3 ↔
        login' = login ∧ hops' = hops) := by
  constructor
  · exact (accepted_token_provenance (j := 4)
      (m := ⟨opsToken, .exchange 3 ⟨mcpOpsClient, some spiffeMcpOps, ["ops-api"]⟩⟩) rfl
      (sampleJose_soundFor opsToken) sampleBearer).1 _ opsApi_passes
  · exact (accepted_token_provenance (j := 3)
      (m := ⟨inspectToken, .exchange 2 ⟨mcpInspectClient, some spiffeMcpInspect,
        ["inspect-api"]⟩⟩) rfl
      (sampleJose_soundFor inspectToken) sampleBearer).2 _ inspectApi_passes

end AgentsAuth.Api
