import AgentsAuth.Api.McpInspect
import AgentsAuth.Api.McpOps
import AgentsAuth.Api.Provenance
import AgentsAuth.Gateway.Policies

/-!
# The way out to the model

The route `llm` of the gateway lets a token out of the trust domain of Curity, as far as the
provider. Whatever is exchanged from such a token afterwards, by whomever, no other service ever
takes it.
-/

namespace AgentsAuth.Gateway

open AgentsAuth.Api AgentsAuth.AuthCurity AgentsAuth.Base AgentsAuth.Curity AgentsAuth.Lib

/-- `jwtAuth` and `authorization` of the route `llm`: `agentgateway-config.yaml:370–380`. `verify`
checks a token for an audience. -/
def llmAdmits (verify : String → String → Option Claims) (authorization : Option String) : Bool :=
  match authorization.bind fun header ↦ verify "llm-gateway" (stripPrefix "Bearer " header) with
  | none => false
  | some claims => applies claims (.other "POST") llmRequirement

/-- `Descends ledger i j`: entry `j` is entry `i`, or has been exchanged from it in some steps. -/
inductive Descends (ledger : List Minted) (i : Nat) : Nat → Prop
  | refl : Descends ledger i i
  | exchange {j subject : Nat} {t : TokenData} {hop : Hop}
      (h : ledger[j]? = some ⟨t, .exchange subject hop⟩)
      (before : Descends ledger i subject) : Descends ledger i j

/-- A token for nothing but the model: the provider's own, or one for the specialist that can only
be exchanged for that again. -/
structure Confined (t : TokenData) : Prop where
  scopes : ∀ s ∈ t.subjectScopes, s = "llm:invoke"
  aud : t.aud = ["llm-gateway"] ∨ t.aud = ["agent-specialist"]

/-- No service with something to protect lets a request with the token pass. -/
structure Refused (t : TokenData) : Prop where
  opsApi : ∀ (jose : Jose) issuer jwksUri authorization caller, jose.SoundFor t →
    bearerToken authorization = some (jose.compact t) →
    OpsApi.authMiddleware jose (OpsApi.loadConfig issuer jwksUri) authorization ≠ .next caller
  inspectApi : ∀ (jose : Jose) issuer jwksUri authorization caller, jose.SoundFor t →
    bearerToken authorization = some (jose.compact t) →
    InspectApi.authMiddleware jose (InspectApi.loadConfig issuer jwksUri) authorization ≠
      .next caller
  mcpOps : ∀ (jose : Jose) issuer jwksUri authorization caller auth, jose.SoundFor t →
    bearerToken authorization = some (jose.compact t) →
    McpOps.authMiddleware jose (McpOps.loadConfig issuer jwksUri) authorization ≠ .next caller auth
  mcpInspect : ∀ (jose : Jose) issuer jwksUri authorization caller auth, jose.SoundFor t →
    bearerToken authorization = some (jose.compact t) →
    McpInspect.authMiddleware jose (McpInspect.loadConfig issuer jwksUri) authorization ≠
      .next caller auth
  gateway : opsRoute.audience ∉ t.aud

/-- What is behind a token that the route admits, and what can become of it. -/
structure Egress (ledger : List Minted) (i : Nat) (m : Minted) : Prop where
  consented : ∃ login ctx hops, ledger[login]? = some ⟨authorizationCodeToken ctx, .login⟩ ∧
    DerivedFrom ledger login hops i ∧ "llm:invoke" ∈ (authorizationCodeToken ctx).subjectScopes ∧
    m.token.sub = ctx.sub ∧
    ∀ hop ∈ hops, hop.actor = some spiffeCopilot ∨ hop.actor = some spiffeSpecialist
  confined : ∀ j m', Descends ledger i j → ledger[j]? = some m' →
    Confined m'.token ∧ m'.token.sub = m.token.sub ∧ Refused m'.token

/-- The edges that hand `llm:invoke` on. -/
private theorem edge_llm : ∀ e ∈ policyEdges, "llm:invoke" ∈ e.scopes →
    (e.actor = spiffeCopilot ∨ e.actor = spiffeSpecialist) ∧
      (e.audience = "llm-gateway" ∨ e.audience = "agent-specialist") ∧
      (e.audience = "llm-gateway" → e.scopes = ["llm:invoke"]) := by
  decide

/-- A confined token is exchanged for a confined one. -/
private theorem Confined.exchange {C : Server} {t d : TokenData} {e : Edge} {ctx : ExchangeContext}
    (h : Confined t) (hex : Exchanged ctx (presentToken C t) e d) : Confined d := by
  have hscopes : ∀ s ∈ d.subjectScopes, s = "llm:invoke" := fun s hs ↦
    h.scopes s (hex.mem_subjectScopes.mp hs).2.1
  obtain ⟨s, hs⟩ := List.exists_mem_of_ne_nil _ hex.subjectScopes_ne_nil
  have hcarried := (hex.mem_subjectScopes.mp hs).2.2
  rw [hscopes s hs] at hcarried
  refine ⟨hscopes, ?_⟩
  rw [hex.aud]
  rcases (edge_llm e hex.edge hcarried).2.1 with haud | haud
  · rw [haud]
    exact Or.inl rfl
  · rw [haud]
    exact Or.inr rfl

private theorem Confined.not_mem {t : TokenData} (h : Confined t) (audience : String)
    (hllm : audience ≠ "llm-gateway") (hspecialist : audience ≠ "agent-specialist") :
    audience ∉ t.aud := by
  rcases h.aud with haud | haud
  · rw [haud, List.mem_singleton]
    exact hllm
  · rw [haud, List.mem_singleton]
    exact hspecialist

private theorem Confined.refused {t : TokenData} (h : Confined t) : Refused t where
  opsApi := by
    intro jose issuer jwksUri authorization caller hsound hbearer hnext
    obtain ⟨token, top, htoken, hverify, -⟩ := OpsApi.authMiddleware_next hnext
    rw [hbearer, Option.some.injEq] at htoken
    subst htoken
    exact h.not_mem "ops-api" (by decide) (by decide)
      (verifyJwt_compact hsound hverify).2.1
  inspectApi := by
    intro jose issuer jwksUri authorization caller hsound hbearer hnext
    obtain ⟨token, top, expected, htoken, hverify, -⟩ := InspectApi.authMiddleware_next hnext
    rw [hbearer, Option.some.injEq] at htoken
    subst htoken
    exact h.not_mem "inspect-api" (by decide) (by decide)
      (verifyJwt_compact hsound hverify).2.1
  mcpOps := by
    intro jose issuer jwksUri authorization caller auth hsound hbearer hnext
    obtain ⟨token, htoken, hverify, -⟩ := McpOps.authMiddleware_next_iff.mp hnext
    rw [hbearer, Option.some.injEq] at htoken
    subst htoken
    exact h.not_mem "mcp-ops" (by decide) (by decide)
      (verifyJwt_compact hsound hverify).2.1
  mcpInspect := by
    intro jose issuer jwksUri authorization caller auth hsound hbearer hnext
    obtain ⟨token, actor, sub, htoken, hverify, -⟩ := McpInspect.authMiddleware_next_iff.mp hnext
    rw [hbearer, Option.some.injEq] at htoken
    subst htoken
    exact h.not_mem "mcp-inspect" (by decide) (by decide)
      (verifyJwt_compact hsound hverify).2.1
  gateway := h.not_mem _ (by decide) (by decide)

section Containment

variable {C : Server} {es : List MintEvent} {i j : Nat} {m m' : Minted}

private theorem confined_of_descends (hi : ((minting C).run es).ledger[i]? = some m)
    (hm : Confined m.token) (hj : Descends ((minting C).run es).ledger i j)
    (hm' : ((minting C).run es).ledger[j]? = some m') :
    Confined m'.token ∧ m'.token.sub = m.token.sub := by
  induction hj generalizing m' with
  | refl =>
    rw [hi] at hm'
    cases hm'
    exact ⟨hm, rfl⟩
  | exchange h _ ih =>
    rw [h] at hm'
    cases hm'
    obtain ⟨parent, ctx, e, -, hparent, hex, -⟩ := exchange_entry h
    obtain ⟨hconfined, hsub⟩ := ih hparent
    exact ⟨hconfined.exchange hex, hex.sub.trans hsub⟩

/-- Behind every token that the gateway lets out to the model stand a login with consent to that
and exchanges of the two agents only; and nothing that is exchanged from it, in whatever steps, is
good for anything else. -/
theorem llm_egress_contained {verify : String → String → Option Claims}
    {compact : TokenData → String}
    (hi : ((minting C).run es).ledger[i]? = some m)
    (hverified : ∀ audience claims, verify audience (compact m.token) = some claims →
      claims = tokenClaims m.token ∧ audience ∈ m.token.aud)
    (hadmits : llmAdmits verify (some ("Bearer " ++ compact m.token)) = true) :
    Egress ((minting C).run es).ledger i m := by
  rw [llmAdmits, Option.bind_some, stripPrefix_append] at hadmits
  split at hadmits
  · cases hadmits
  · next claims hverify =>
    obtain ⟨rfl, haud⟩ := hverified _ _ hverify
    obtain ⟨login, hops, hfrom⟩ := exists_derivedFrom hi
    obtain ⟨ctx, edges, hlogin, rfl, hd⟩ := derivation_of_derivedFrom hfrom hi
    cases edges with
    | nil =>
      rw [hd.aud] at haud
      exact absurd haud (by decide : "llm-gateway" ∉ ["agent-copilot"])
    | cons e edges =>
      have hne : e :: edges ≠ [] := List.cons_ne_nil e edges
      have hscope : "llm:invoke" ∈ m.token.subjectScopes :=
        (applies_hasScope_joined_iff (hd.someScope hne) (hd.scope hne)).mp hadmits
      obtain ⟨hconsent, hcarried⟩ := hd.mem_scopes hscope
      have hlast : e.audience = "llm-gateway" := by
        rw [hd.aud] at haud
        exact (List.mem_singleton.mp haud).symm
      have hconfined : Confined m.token := by
        have hmem := List.mem_cons_self (a := e) (l := edges)
        have honly := (edge_llm e (hd.policy e hmem) (hcarried e hmem)).2.2 hlast
        refine ⟨?_, Or.inl ?_⟩
        · intro s hs
          have hedge := (hd.mem_scopes hs).2 e hmem
          rw [honly] at hedge
          exact List.mem_singleton.mp hedge
        · rw [hd.aud, List.head?_cons, Option.map_some, Option.getD_some, hlast]
      refine ⟨⟨login, ctx, _, hlogin, hfrom, hconsent, hd.sub, ?_⟩, ?_⟩
      · intro hop hhop
        obtain ⟨e', he', rfl⟩ := List.mem_map.mp hhop
        rcases (edge_llm e' (hd.policy e' he') (hcarried e' he')).1 with hactor | hactor
        · exact Or.inl (congrArg some hactor)
        · exact Or.inr (congrArg some hactor)
      · intro j m' hj hm'
        obtain ⟨hconfined', hsub⟩ := confined_of_descends hi hconfined hj hm'
        exact ⟨hconfined', hsub, hconfined'.refused⟩

end Containment

section Sample

/-- A login, copilot's token for the model, and what copilot gets for the specialist with that. -/
private def egressRun : List MintEvent :=
  [.login sampleLogin,
    sampleExchange 0 copilotClient "e30.copilot.sig" "llm-gateway" "llm:invoke" "t1",
    sampleExchange 1 copilotClient "e30.copilot.sig" "agent-specialist" "llm:invoke" "t2"]

private def llmIssued : TokenData :=
  ⟨"alice", "t1", 600, ["llm-gateway"], some "llm:invoke", some "mfa", .items (.array ["sre"]),
    some (wrapAct spiffeCopilot none), .absent⟩

private def specialistIssued : TokenData :=
  ⟨"alice", "t2", 600, ["agent-specialist"], some "llm:invoke", some "mfa",
    .items (.array ["sre"]), some (wrapAct spiffeCopilot (some (wrapAct spiffeCopilot none))),
    .map (some spiffeSpecialist)⟩

private def egressVerify (audience token : String) : Option Claims :=
  if audience = "llm-gateway" ∧ token = "e30.t1.sig" then some (tokenClaims llmIssued) else none

/-- What copilot makes of its token for the model is good for nothing else. -/
theorem llm_egress_contained_sample :
    llmAdmits egressVerify (some "Bearer e30.t1.sig") = true ∧
      ((minting sampleServer).run egressRun).ledger[2]? = some ⟨specialistIssued,
        .exchange 1 ⟨copilotClient, some spiffeCopilot, ["agent-specialist"]⟩⟩ ∧
      Refused specialistIssued := by
  have hentry : ((minting sampleServer).run egressRun).ledger[2]? = some ⟨specialistIssued,
      .exchange 1 ⟨copilotClient, some spiffeCopilot, ["agent-specialist"]⟩⟩ := rfl
  refine ⟨rfl, hentry, ?_⟩
  have hegress := @llm_egress_contained sampleServer egressRun 1
    ⟨llmIssued, .exchange 0 ⟨copilotClient, some spiffeCopilot, ["llm-gateway"]⟩⟩
    egressVerify (fun t ↦ "e30." ++ t.jti ++ ".sig") rfl
    (by
      intro audience claims hclaims
      unfold egressVerify at hclaims
      split at hclaims
      · next hboth =>
        cases hclaims
        exact ⟨rfl, List.mem_singleton.mpr hboth.1⟩
      · cases hclaims)
    rfl
  exact (hegress.confined 2 _ (.exchange hentry .refl) hentry).2.2

end Sample

end AgentsAuth.Gateway
