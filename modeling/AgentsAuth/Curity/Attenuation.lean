import AgentsAuth.Curity.Derivation

/-!
# What an exchange can add

Nothing: an exchange keeps the roles and the `acr`, drops scopes, and puts one actor
in front of the chain. Which party may make it is fixed by the token exchanged, as
long as that token names a party; a token for a terminal audience names nobody.
-/

namespace AgentsAuth.Curity

open AgentsAuth.Api AgentsAuth.Base AgentsAuth.Lib

section Attenuation

variable {C : Server} {es : List MintEvent} {i subject : Nat} {t : TokenData} {hop : Hop}

private theorem act_ne_null {m : Minted} (h : ((minting C).run es).ledger[i]? = some m) :
    m.token.act ≠ some .null := by
  obtain ⟨t, origin⟩ := m
  cases origin with
  | login =>
    obtain ⟨ctx, rfl⟩ := login_entry h
    intro hact
    cases hact
  | exchange subject hop =>
    obtain ⟨parent, ctx, e, -, -, hex, -⟩ := exchange_entry h
    intro hact
    have hwrap : t.act = some (wrapAct e.actor parent.token.act) := hex.act
    rw [hwrap, Option.some.injEq] at hact
    unfold wrapAct at hact
    split at hact <;> cases hact

private theorem wrapAct_of_ne_null {actor : String} {act : Option Json} (h : act ≠ some .null) :
    wrapAct actor act =
      .obj (("sub", .str actor) :: (act.map fun inner ↦ ("act", inner)).toList) := by
  cases act with
  | none => rfl
  | some inner =>
    cases inner with
    | null => exact absurd rfl h
    | _ => rfl

/-- Every exchanged token, against the token it was exchanged from: some of its scopes and of
the policy's, the presenting actor around its `act`, its `acr`, its roles, and `ops:write` only
after a login with that scope and a write role. -/
theorem exchange_attenuates
    (h : ((minting C).run es).ledger[i]? = some ⟨t, .exchange subject hop⟩) :
    ∃ parent actor, ((minting C).run es).ledger[subject]? = some parent ∧
      hop.actor = some actor ∧
      t.subjectScopes ≠ [] ∧ t.subjectScopes ⊆ parent.token.subjectScopes ∧
      (∃ e ∈ policyEdges, e.clientId = hop.clientId ∧ [e.audience] = hop.audiences ∧
        t.subjectScopes ⊆ e.scopes) ∧
      t.act = some (.obj (("sub", .str actor) ::
        (parent.token.act.map fun inner ↦ ("act", inner)).toList)) ∧
      t.acr = parent.token.acr ∧
      claimToArray t.roles = claimToArray parent.token.roles ∧
      ("ops:write" ∈ t.subjectScopes →
        ∃ login ctx hops, DerivedFrom ((minting C).run es).ledger login hops i ∧
          ((minting C).run es).ledger[login]? = some ⟨authorizationCodeToken ctx, .login⟩ ∧
          "ops:write" ∈ (authorizationCodeToken ctx).subjectScopes ∧
          ("sre" ∈ claimToArray ctx.roles ∨ "oncall" ∈ claimToArray ctx.roles)) := by
  obtain ⟨parent, ctx, e, -, hparent, hex, rfl⟩ := exchange_entry h
  have hmem : ∀ s ∈ t.subjectScopes, s ∈ parent.token.subjectScopes ∧ s ∈ e.scopes :=
    fun s hs ↦ (hex.mem_subjectScopes.mp hs).2
  refine ⟨parent, e.actor, hparent, rfl, hex.subjectScopes_ne_nil, fun s hs ↦ (hmem s hs).1,
    ⟨e, hex.edge, rfl, rfl, fun s hs ↦ (hmem s hs).2⟩, ?_, hex.acr, ?_, ?_⟩
  · rw [← wrapAct_of_ne_null (act_ne_null hparent)]
    exact hex.act
  · exact hex.roles.trans (C.claimToArray_presentRoles parent.token.roles)
  · intro hs
    obtain ⟨login, hops, hfrom⟩ := exists_derivedFrom h
    obtain ⟨loginCtx, edges, hlogin, hhops, hd⟩ := derivation_of_derivedFrom hfrom h
    have hedges : edges ≠ [] := by
      intro hnil
      rw [hnil, List.map_nil] at hhops
      subst hhops
      cases hfrom with
      | login hfrom =>
        rw [h] at hfrom
        cases hfrom
    have hrole : (authorizationCodeToken loginCtx).hasWriteRole = true := hd.writeRole hedges hs
    refine ⟨login, loginCtx, hops, hfrom, hlogin, (hd.mem_scopes hs).1, ?_⟩
    simpa [TokenData.hasWriteRole, authorizationCodeToken] using hrole

end Attenuation

/-- A login and copilot's exchange of its token, with no scope requested: the `llm-gateway` policy
alone narrows it. -/
private def llmLeaf : List MintEvent :=
  [.login sampleLogin,
    .exchange ⟨0, 0, copilotClient, some "e30.copilot.sig", .collection ["llm-gateway"], .absent,
      ⟨0, 0, .response 200 "key"⟩, ⟨"t1", 600⟩⟩]

private def llmHop : Hop := ⟨copilotClient, some spiffeCopilot, ["llm-gateway"]⟩

private def llmToken : TokenData :=
  ⟨"alice", "t1", 600, ["llm-gateway"], some "llm:invoke", some "mfa", .items (.array ["sre"]),
    some (wrapAct spiffeCopilot none), .absent⟩

/-- An exchange without requested scopes narrows the login token too. -/
theorem exchange_attenuates_sample :
    ∃ parent actor, ((minting sampleServer).run llmLeaf).ledger[0]? = some parent ∧
      llmHop.actor = some actor ∧ llmToken.subjectScopes ⊆ parent.token.subjectScopes ∧
      llmToken.acr = parent.token.acr ∧
      claimToArray llmToken.roles = claimToArray parent.token.roles := by
  obtain ⟨parent, actor, hparent, hactor, -, hscopes, -, -, hacr, hroles, -⟩ :=
    @exchange_attenuates sampleServer llmLeaf 1 0 llmToken llmHop rfl
  exact ⟨parent, actor, hparent, hactor, hscopes, hacr, hroles⟩

/-- The audiences whose tokens name no next actor. -/
def terminalAudiences : List String :=
  (policyEdges.filter fun e ↦ e.mayAct = none).map Edge.audience

private theorem mayAct_of_not_terminal : ∀ e ∈ policyEdges, e.audience ∉ terminalAudiences →
    e.mayAct ≠ none := by
  decide

private theorem scopes_of_terminal : ∀ e ∈ policyEdges, e.audience ∈ terminalAudiences →
    e.scopes.length = 1 := by
  decide

/-- The actors of a minted token took edges of the policy, copilot first. After a token that
names a party comes that party. Only a terminal token can be taken further by another one, and
whatever comes of it has just the one scope of the terminal audience. -/
theorem actors_follow_policy {C : Server} {es : List MintEvent} {login i : Nat}
    {hops : List Hop} {m : Minted} (h : DerivedFrom ((minting C).run es).ledger login hops i)
    (hm : ((minting C).run es).ledger[i]? = some m) :
    ∃ edges : List Edge, hops = edges.map Edge.hop ∧ (∀ e ∈ edges, e ∈ policyEdges) ∧
      m.token.actors = edges.map Edge.actor ∧
      (∀ e ∈ edges.getLast?, e.actor = spiffeCopilot) ∧
      (edges.IsChain fun later earlier ↦
        earlier.audience ∉ terminalAudiences → earlier.mayAct = some later.actor) ∧
      ∀ e ∈ edges, e.audience ∈ terminalAudiences →
        ∀ s, s ∈ m.token.subjectScopes ↔ s ∈ e.scopes := by
  obtain ⟨ctx, edges, -, hhops, hd⟩ := derivation_of_derivedFrom h hm
  refine ⟨edges, hhops, hd.policy, ?_, ?_, ?_, ?_⟩
  · have hlogin : (authorizationCodeToken ctx).actors = [] := rfl
    rw [hd.actors_eq, hlogin, List.append_nil]
  · intro e he
    rcases hd.mayAct_getLast he with hnone | hsome
    · cases hnone
    · exact (Option.some.inj hsome).symm
  · apply hd.isChain.imp_of_mem_imp
    intro later earlier _ hearlier hmay hnot
    rcases hmay with hnone | hsome
    · exact absurd hnone (mayAct_of_not_terminal earlier (hd.policy earlier hearlier) hnot)
    · exact hsome
  · intro e he hterminal s
    refine ⟨fun hs ↦ (hd.mem_scopes hs).2 e he, fun hs ↦ ?_⟩
    -- some scope is left, and the edge has only one
    have hne := hd.someScope (List.ne_nil_of_mem he)
    obtain ⟨s', hs'⟩ := List.exists_mem_of_ne_nil _ hne
    have hlength := scopes_of_terminal e (hd.policy e he) hterminal
    obtain ⟨only, honly⟩ := List.length_eq_one_iff.mp hlength
    have hse := (hd.mem_scopes hs').2 e he
    rw [honly, List.mem_singleton] at hse hs
    rwa [hs, ← hse]

/-- Copilot exchanges its `llm-gateway` token again, for agent-specialist. -/
private def llmReexchange : List MintEvent :=
  llmLeaf ++ [sampleExchange 1 copilotClient "e30.copilot.sig" "agent-specialist" "llm:invoke" "t2"]

private def reexchangedHop : Hop := ⟨copilotClient, some spiffeCopilot, ["agent-specialist"]⟩

private def reexchangedToken : TokenData :=
  ⟨"alice", "t2", 600, ["agent-specialist"], some "llm:invoke", some "mfa",
    .items (.array ["sre"]), some (wrapAct spiffeCopilot (some (wrapAct spiffeCopilot none))),
    .map (some spiffeSpecialist)⟩

private theorem llmReexchange_derivedFrom :
    DerivedFrom ((minting sampleServer).run llmReexchange).ledger 0 [reexchangedHop, llmHop] 2 :=
  .exchange (t := reexchangedToken) rfl
    (.exchange (t := llmToken) rfl
      (.login (t := authorizationCodeToken sampleLogin) rfl))

/-- The re-exchanged token keeps to the policy in this sense: `llm:invoke` is all it has. -/
theorem actors_follow_policy_sample :
    ∃ edges : List Edge, [reexchangedHop, llmHop] = edges.map Edge.hop ∧
      ∀ e ∈ edges, e.audience ∈ terminalAudiences →
        ∀ s, s ∈ reexchangedToken.subjectScopes ↔ s ∈ e.scopes := by
  obtain ⟨edges, hhops, -, -, -, -, hscopes⟩ :=
    actors_follow_policy (m := ⟨reexchangedToken, .exchange 1 reexchangedHop⟩)
      llmReexchange_derivedFrom rfl
  exact ⟨edges, hhops, hscopes⟩

/-- Terminal tokens are no leaves, and not every actor chain is a path of `may_act` edges. -/
theorem terminal_tokens_not_leaves :
    (¬ ∀ (C : Server) (es : List MintEvent) (i subject : Nat) (t : TokenData) (hop : Hop)
        (parent : Minted), ((minting C).run es).ledger[i]? = some ⟨t, .exchange subject hop⟩ →
      ((minting C).run es).ledger[subject]? = some parent →
      ∀ audience ∈ parent.token.aud, audience ∉ terminalAudiences) ∧
    ¬ ∀ (C : Server) (es : List MintEvent) (i : Nat) (m : Minted),
      ((minting C).run es).ledger[i]? = some m →
      m.token.actors.IsChain fun later earlier ↦
        ∃ e ∈ policyEdges, e.actor = earlier ∧ e.mayAct = some later := by
  constructor
  · intro h
    have hleaf := h sampleServer llmReexchange 2 1 reexchangedToken reexchangedHop
      ⟨llmToken, .exchange 0 llmHop⟩ rfl rfl "llm-gateway" (List.mem_singleton_self _)
    exact hleaf (by decide)
  · intro h
    have hpath := h sampleServer llmReexchange 2 ⟨reexchangedToken, .exchange 1 reexchangedHop⟩ rfl
    exact absurd hpath (by decide)

end AgentsAuth.Curity
