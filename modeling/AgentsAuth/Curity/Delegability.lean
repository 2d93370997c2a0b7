import AgentsAuth.Curity.Derivation
import AgentsAuth.Curity.TokenEndpoint

/-!
# What can be delegated

Nobody can take a token further than `CLIENT_POLICY` and `may_act` let them. As long as Curity and
the workloads do their part the converse holds as well: from a login every passable scope arrives
at the end of every passable chain of exchanges.
-/

namespace AgentsAuth.Curity

open AgentsAuth.Base AgentsAuth.Lib

/-- Curity's own part in an exchange at `now`: its Token Issuance Authorizer releases `ops:write` at
`acr` `mfa` only, and it takes any token that has not expired: `k8s/curity/configmap.yaml:236–246`,
`447–461`. -/
structure Authorizes (C : Server) (now : Int) : Prop where
  refuses : ∀ {clientId t audience narrowed fresh d},
    C.getInitializedContext clientId t audience narrowed fresh = .ok d →
      "ops:write" ∈ narrowed → t.acr = some "mfa"
  issues : ∀ {clientId t audience narrowed fresh}, now < t.exp →
    ("ops:write" ∈ narrowed → t.acr = some "mfa") →
      ∃ d, C.getInitializedContext clientId t audience narrowed fresh = .ok d

/-- Every workload of the policy has an SVID that a new worker verifies. -/
def Attested (C : Server) : Prop :=
  ∀ e ∈ policyEdges, ∃ svid env, svid ≠ "" ∧
    (verifySpiffeSvid C.jose4j .initial env svid).2 = .ok e.actor

/-- The scope can be handed on from the login along the edges, newest first. -/
structure Delegable (ctx : LoginContext) (edges : List Edge) (scope : String) : Prop where
  policy : ∀ e ∈ edges, e ∈ policyEdges
  passable :
    Delegation.Passable (authorizationCodeToken ctx).grant (edges.map Edge.delegation) scope
  write : edges ≠ [] → scope = "ops:write" →
    ctx.acr = some "mfa" ∧ (authorizationCodeToken ctx).hasWriteRole = true

/-- Edges of the policy that all carry the scope, each by the actor that the one before it names
and the first by copilot, are a chain for it. -/
theorem delegable_of_edges {ctx : LoginContext} {edges : List Edge} {scope : String}
    (hheld : scope ∈ (authorizationCodeToken ctx).subjectScopes)
    (hpolicy : ∀ e ∈ edges, e ∈ policyEdges ∧ scope ∈ e.scopes)
    (hchain : edges.IsChain fun later earlier ↦ Delegation.MayAct earlier.mayAct later.actor)
    (hfirst : ∀ e ∈ edges.getLast?, e.actor = spiffeCopilot)
    (hwrite : scope = "ops:write" →
      ctx.acr = some "mfa" ∧ (authorizationCodeToken ctx).hasWriteRole = true) :
    Delegable ctx edges scope where
  policy := fun e he ↦ (hpolicy e he).1
  passable := by
    refine ⟨hheld, ?_, (List.isChain_map _).mpr hchain, ?_⟩
    · exact List.forall_mem_map.mpr fun e he ↦ (hpolicy e he).2
    · intro h hlast
      rw [List.getLast?_map] at hlast
      obtain ⟨e, he, rfl⟩ := Option.map_eq_some_iff.mp hlast
      exact Or.inr (congrArg some (hfirst e he).symm)
  write := fun _ ↦ hwrite

section Issued

variable {C : Server} {cache : JwksCache} {ctx : ExchangeContext} {response : ExchangeResponse}

/-- An issued token stamps what Curity's own part has made. -/
private theorem context_of_result (h : (result C cache ctx).2 = .ok response) :
    ∃ r d actor, narrowRequest ctx = .ok r ∧
      C.getInitializedContext ctx.clientId r.subjectToken r.audience r.narrowed ctx.fresh = .ok d ∧
      response.accessToken = stampClaims r.subjectToken actor r.audPolicy d := by
  unfold result at h
  split at h
  · cases h
  · next r hr =>
    split at h
    · cases h
    · next d hd =>
      split at h
      · cases h
      · next cache' actor _ =>
        split at h
        · cases h
        · cases h
          exact ⟨r, d, actor, hr, hd, rfl⟩

private theorem exp_of_result (h : (result C cache ctx).2 = .ok response) :
    response.accessToken.exp = ctx.fresh.exp := by
  obtain ⟨r, d, actor, -, hd, haccess⟩ := context_of_result h
  rw [haccess]
  exact (C.defaultTokenData hd).exp

/-- `ops:write` is issued at `acr` `mfa` only. -/
private theorem acr_of_result {now : Int} (hC : Authorizes C now)
    (h : (result C cache ctx).2 = .ok response)
    (hwrite : "ops:write" ∈ response.accessToken.subjectScopes) :
    response.accessToken.acr = some "mfa" := by
  obtain ⟨r, d, actor, hr, hd, haccess⟩ := context_of_result h
  obtain ⟨-, -, -, -, -, -, allowed, -, hmem, -⟩ := narrowRequest_ok hr
  obtain ⟨ss, hss, hscope⟩ := (C.defaultTokenData hd).scope
  have hwords : ∀ s ∈ ss, IsWord isSpace s := fun s hs ↦
    TokenData.isWord_of_mem_subjectScopes ((hmem s).mp ((hss s).mp hs)).2.1
  have hissued : response.accessToken.scope = some (" ".intercalate ss) := by
    rw [haccess]
    exact hscope
  rw [TokenData.subjectScopes_of_intercalate hwords hissued, hss] at hwrite
  have hacr := hC.refuses hd hwrite
  rw [haccess]
  simp only [stampClaims, hacr]

end Issued

section Runs

variable {C : Server} {es : List MintEvent} {i : Nat} {now : Int}

/-- Some worker has not served any request yet. -/
private theorem exists_unused (C : Server) (es : List MintEvent) :
    ∃ worker, ((minting C).run es).caches worker = .initial := by
  have hall : ∃ n, ∀ worker, n ≤ worker → ((minting C).run es).caches worker = .initial := by
    apply (minting C).run_invariant
      (I := fun s ↦ ∃ n, ∀ worker, n ≤ worker → s.caches worker = .initial)
    · exact ⟨0, fun _ _ ↦ rfl⟩
    · rintro s e ⟨n, hn⟩
      cases e with
      | login ctx => exact ⟨n, hn⟩
      | exchange r =>
        refine ⟨max n (r.worker + 1), fun worker hworker ↦ ?_⟩
        have hne : worker ≠ r.worker := by omega
        have hold : s.caches worker = .initial := hn worker (by omega)
        show (exchangeStep C s r).1.caches worker = .initial
        unfold exchangeStep
        split
        · simpa [hne] using hold
        · simpa [hne] using hold
  obtain ⟨n, hn⟩ := hall
  exact ⟨n, hn n (Nat.le_refl n)⟩

/-- In every run every exchanged token with `ops:write` has `acr` `mfa`. -/
theorem acr_of_exchange (hC : Authorizes C now) (es : List MintEvent) :
    ∀ m ∈ ((minting C).run es).ledger, m.origin ≠ .login →
      "ops:write" ∈ m.token.subjectScopes → m.token.acr = some "mfa" := by
  apply (minting C).run_invariant (I := fun s ↦ ∀ m ∈ s.ledger, m.origin ≠ .login →
    "ops:write" ∈ m.token.subjectScopes → m.token.acr = some "mfa")
  · intro m hm
    cases hm
  · intro s e hs m hm horigin hwrite
    cases e with
    | login ctx =>
      rcases List.mem_append.mp hm with hm | hm
      · exact hs m hm horigin hwrite
      · rw [List.mem_singleton.mp hm] at horigin
        exact absurd rfl horigin
    | exchange r =>
      have hstep : ((minting C).step s (.exchange r)).1 = (exchangeStep C s r).1 := rfl
      rw [hstep, exchangeStep] at hm
      split at hm
      · exact hs m hm horigin hwrite
      · next cache response hresult =>
        rcases List.mem_append.mp hm with hm | hm
        · exact hs m hm horigin hwrite
        · rw [List.mem_singleton.mp hm] at hwrite ⊢
          exact acr_of_result hC (congrArg Prod.snd hresult) hwrite

/-- An entry stays where it is. -/
theorem getElem?_of_isPrefix {ledger ledger' : List Minted} {j : Nat} {m : Minted}
    (hj : ledger[j]? = some m) (hledger : ledger <+: ledger') : ledger'[j]? = some m := by
  obtain ⟨later, rfl⟩ := hledger
  rw [List.getElem?_append_left (List.getElem?_eq_some_iff.mp hj).1, hj]

/-- A derivation is not changed by what is minted later. -/
theorem DerivedFrom.mono {ledger ledger' : List Minted} {login j : Nat} {hops : List Hop}
    (h : DerivedFrom ledger login hops j) (hledger : ledger <+: ledger') :
    DerivedFrom ledger' login hops j := by
  induction h with
  | login h => exact .login (getElem?_of_isPrefix h hledger)
  | exchange h _ ih => exact .exchange (getElem?_of_isPrefix h hledger) ih

/-- A token can be exchanged along an edge that its `may_act` allows for a scope of both. -/
private theorem exists_exchange {t : TokenData} {origin : Origin} {e : Edge} {scope : String}
    (hC : Authorizes C now) (hsvids : Attested C)
    (ht : ((minting C).run es).ledger[i]? = some ⟨t, origin⟩) (hexp : now < t.exp)
    (he : e ∈ policyEdges) (hheld : scope ∈ t.subjectScopes) (hcarried : scope ∈ e.scopes)
    (hmayAct : Delegation.MayAct (mayActSub t.mayAct) e.actor)
    (hwrite : scope = "ops:write" → t.acr = some "mfa" ∧ t.hasWriteRole = true) :
    ∃ r d, ((minting C).run (es ++ [.exchange r])).ledger =
        ((minting C).run es).ledger ++ [⟨d, .exchange i e.hop⟩] ∧
      (∃ ctx, Exchanged ctx (presentToken C t) e d) ∧ now < d.exp ∧ scope ∈ d.subjectScopes := by
  obtain ⟨svid, env, hsvid, hverify⟩ := hsvids e he
  obtain ⟨worker, hcache⟩ := exists_unused C es
  let r : ExchangeRequest := ⟨worker, i, e.clientId, some svid, .collection [e.audience],
    .collection [scope], env, ⟨"", now + 1⟩⟩
  let ctx := exchangeContext C ((minting C).run es).ledger r
  have hpresents : Presents ctx (presentToken C t) e := by
    refine ⟨he, ?_, ⟨svid, rfl, hsvid⟩, rfl, rfl⟩
    show ((minting C).run es).ledger[i]?.map _ = _
    rw [ht]
    rfl
  have hrequested : requestedOrSubject (presentToken C t) ctx.requestedScopes = [scope] := rfl
  have hgate : checkWriteRole (presentToken C t)
      (requestedOrSubject (presentToken C t) ctx.requestedScopes) e.scopes = .ok () := by
    rw [hrequested, checkWriteRole]
    by_cases hscope : scope = "ops:write"
    · rw [if_neg]
      simp [hasWriteRole_presentToken, (hwrite hscope).2]
    · rw [if_neg]
      simp [hcarried, Ne.symm hscope]
  obtain ⟨n, hn, htoken, haudience, hactor, -⟩ := narrowRequest_of_gate hpresents
    ⟨scope, List.mem_singleton_self scope, hheld, hcarried⟩ hgate
  have hacr : "ops:write" ∈ n.narrowed → (presentToken C t).acr = some "mfa" := by
    intro hmem
    obtain ⟨-, -, -, -, -, -, allowed, -, hnarrowed, -⟩ := narrowRequest_ok hn
    have hscope : "ops:write" ∈ [scope] := ((hnarrowed _).mp hmem).1
    exact (hwrite (List.mem_singleton.mp hscope).symm).1
  obtain ⟨d, hd⟩ := @Authorizes.issues C now hC ctx.clientId (presentToken C t) n.audience
    n.narrowed ctx.fresh hexp hacr
  have hpresented : presentedActor C (((minting C).run es).caches worker) ctx = some e.actor := by
    show (verifySpiffeSvid C.jose4j (((minting C).run es).caches worker) env svid).2.toOption = _
    rw [hcache, hverify]
    rfl
  obtain ⟨response, hresponse⟩ := result_of_narrowRequest hn (htoken.symm ▸ hd)
    (hactor.symm ▸ hpresented) (by
      rw [htoken, hactor]
      intro expected hexpected
      rcases hmayAct with hnone | hsome
      · exact absurd (hnone.symm.trans hexpected) (by simp)
      · exact Option.some.inj (hexpected.symm.trans hsome))
  obtain ⟨t', e', hex, hactor'⟩ := exchanged_of_result hresponse
  obtain rfl : presentToken C t = t' :=
    Option.some.inj (hpresents.subject.symm.trans hex.presented)
  obtain rfl : e' = e := by
    apply edge_unique e he e' hex.edge
    · exact hex.client.symm
    · exact (List.cons.inj hex.requestedAudience).1.symm
  refine ⟨r, response.accessToken, ?_, ⟨ctx, hex⟩, ?_, ?_⟩
  · have hhop : requestHop C ((minting C).run es) r = e'.hop := by
      show Hop.mk e'.clientId (presentedActor C _ ctx) [e'.audience] = _
      rw [hpresented]
      rfl
    rw [Machine.run_concat, ← hhop]
    show (exchangeStep C ((minting C).run es) r).1.ledger = _
    unfold exchangeStep
    split
    · next cache error herror =>
      have hsame : (result C (((minting C).run es).caches worker) ctx).2 = .error error :=
        congrArg Prod.snd herror
      rw [hresponse] at hsame
      cases hsame
    · next cache issued hissued =>
      have hsame : (result C (((minting C).run es).caches worker) ctx).2 = .ok issued :=
        congrArg Prod.snd hissued
      rw [hresponse] at hsame
      cases hsame
      rfl
  · rw [exp_of_result hresponse]
    exact Int.lt_succ now
  · exact hex.mem_subjectScopes.mpr ⟨List.mem_singleton_self scope, hheld, hcarried⟩

/-- A passable scope arrives at the end of the edges. -/
theorem exists_delegation {ctx : LoginContext} {edges : List Edge} {scope : String}
    (hC : Authorizes C now) (hsvids : Attested C)
    (hlogin : ((minting C).run es).ledger[i]? = some ⟨authorizationCodeToken ctx, .login⟩)
    (hexp : now < ctx.exp) (h : Delegable ctx edges scope) :
    ∃ es' j m, ((minting C).run (es ++ es')).ledger[j]? = some m ∧
      DerivedFrom ((minting C).run (es ++ es')).ledger i (edges.map Edge.hop) j ∧
      Derivation (authorizationCodeToken ctx) edges m.token ∧
      scope ∈ m.token.subjectScopes ∧ now < m.token.exp := by
  induction edges with
  | nil =>
    refine ⟨[], i, ⟨authorizationCodeToken ctx, .login⟩, ?_, ?_, .refl _, h.passable.held, hexp⟩
    · rw [List.append_nil, hlogin]
    · rw [List.append_nil]
      exact .login hlogin
  | cons e edges ih =>
    obtain ⟨hbefore, hcarried, hmayAct⟩ := Delegation.Passable.of_cons h.passable
    have hwrite := h.write (List.cons_ne_nil e edges)
    obtain ⟨es', j, m, hm, hfrom, hd, hheld, hfresh⟩ := ih
      ⟨fun e' he' ↦ h.policy e' (List.mem_cons_of_mem e he'), hbefore, fun _ ↦ hwrite⟩
    have hrole : m.token.hasWriteRole = (authorizationCodeToken ctx).hasWriteRole := by
      rw [TokenData.hasWriteRole, TokenData.hasWriteRole, hd.roles]
    have hnext : Delegation.MayAct (mayActSub m.token.mayAct) e.actor := by
      rw [← hd.grant.next_eq] at hmayAct
      exact hmayAct
    obtain ⟨r, d, hledger, ⟨ctx', hex⟩, hexp', hscope⟩ := exists_exchange hC hsvids hm hfresh
      (h.policy e (List.mem_cons_self ..)) hheld hcarried hnext (by
        intro heq
        rw [hd.acr, hrole]
        exact hwrite heq)
    rw [List.append_assoc] at hledger
    have hentry : ((minting C).run (es ++ (es' ++ [.exchange r]))).ledger[((minting C).run
        (es ++ es')).ledger.length]? = some ⟨d, .exchange j e.hop⟩ := by
      rw [hledger, List.getElem?_concat_length]
    have hderived : Derivation (authorizationCodeToken ctx) (e :: edges) d := hd.exchange hex
    have hlater : DerivedFrom ((minting C).run (es ++ (es' ++ [.exchange r]))).ledger i
        (edges.map Edge.hop) j := by
      apply hfrom.mono
      rw [hledger]
      exact List.prefix_append _ _
    exact ⟨es' ++ [.exchange r], _, ⟨d, .exchange j e.hop⟩, hentry, .exchange hentry hlater,
      hderived, hscope, hexp'⟩

/-- A scope that has arrived was passable. -/
private theorem delegable_of_derivedFrom {ctx : LoginContext} {hops : List Hop} {j : Nat}
    {m : Minted} {scope : String} (hC : Authorizes C now)
    (hlogin : ((minting C).run es).ledger[i]? = some ⟨authorizationCodeToken ctx, .login⟩)
    (hm : ((minting C).run es).ledger[j]? = some m)
    (hfrom : DerivedFrom ((minting C).run es).ledger i hops j)
    (hscope : scope ∈ m.token.subjectScopes) :
    ∃ edges, hops = edges.map Edge.hop ∧ Delegable ctx edges scope := by
  obtain ⟨ctx', edges, hlogin', rfl, hd⟩ := derivation_of_derivedFrom hfrom hm
  have htoken : authorizationCodeToken ctx' = authorizationCodeToken ctx :=
    congrArg Minted.token (Option.some.inj (hlogin'.symm.trans hlogin))
  rw [htoken] at hd
  refine ⟨edges, rfl, hd.policy, Delegation.exists_derives_iff.mp ⟨_, hd.grant, hscope⟩, ?_⟩
  rintro hne rfl
  have horigin : m.origin ≠ .login := by
    cases edges with
    | nil => exact absurd rfl hne
    | cons e edges =>
      cases hfrom with
      | exchange h _ =>
        rw [hm] at h
        cases h
        intro horigin
        cases horigin
  have hacr := acr_of_exchange hC es m (List.mem_of_getElem? hm) horigin hscope
  rw [hd.acr] at hacr
  exact ⟨hacr, hd.writeRole hne hscope⟩

/-- From a login that has not expired, a scope can be brought along a chain of exchanges, by some
continuation of the run, exactly when the policy and the login allow it. -/
theorem delegable_iff {ctx : LoginContext} (hC : Authorizes C now) (hsvids : Attested C)
    (hlogin : ((minting C).run es).ledger[i]? = some ⟨authorizationCodeToken ctx, .login⟩)
    (hexp : now < ctx.exp) (hops : List Hop) (scope : String) :
    (∃ es' j m, ((minting C).run (es ++ es')).ledger[j]? = some m ∧
      DerivedFrom ((minting C).run (es ++ es')).ledger i hops j ∧
      scope ∈ m.token.subjectScopes) ↔
      ∃ edges, hops = edges.map Edge.hop ∧ Delegable ctx edges scope := by
  constructor
  · rintro ⟨es', j, m, hm, hfrom, hscope⟩
    have hkept := getElem?_of_isPrefix hlogin (ledger_append C es es')
    exact delegable_of_derivedFrom hC hkept hm hfrom hscope
  · rintro ⟨edges, rfl, h⟩
    obtain ⟨es', j, m, hm, hfrom, -, hscope, -⟩ := exists_delegation hC hsvids hlogin hexp h
    exact ⟨es', j, m, hm, hfrom, hscope⟩

end Runs

section Sample

/-- The tokens of `sampleServer` behind the Token Issuance Authorizer for `ops:write`. -/
def issueAuthorized (t : TokenData) (audience : String) (narrowed : List String) (fresh : Fresh) :
    Except ProcedureError TokenData :=
  if "ops:write" ∈ narrowed ∧ t.acr ≠ some "mfa" then
    .error (.curity "access_denied" "require-mfa-for-privileged")
  else
    .ok ⟨t.sub, fresh.jti, fresh.exp, [audience], some (" ".intercalate narrowed), none,
      .items .absent, none, .absent⟩

private theorem defaultTokenData_of_issueAuthorized {t : TokenData} {audience : String}
    {narrowed : List String} {fresh : Fresh} {d : TokenData}
    (h : issueAuthorized t audience narrowed fresh = .ok d) :
    DefaultTokenData t audience narrowed fresh d := by
  unfold issueAuthorized at h
  split at h
  · cases h
  · cases h
    exact ⟨rfl, rfl, rfl, rfl, ⟨narrowed, fun s ↦ Iff.rfl, rfl⟩, rfl, rfl, rfl, rfl⟩

/-- `sampleServer` with that authorizer. -/
def authorizingServer : Server where
  jose4j := sampleServer.jose4j
  getInitializedContext := fun _ ↦ issueAuthorized
  presentRoles := id
  secondsUntil := id
  defaultTokenData := fun h ↦ defaultTokenData_of_issueAuthorized h
  claimToArray_presentRoles := sampleServer.claimToArray_presentRoles

/-- It authorizes at any time. -/
theorem authorizes_authorizingServer (now : Int) : Authorizes authorizingServer now where
  refuses := by
    intro clientId t audience narrowed fresh d h hwrite
    by_contra hacr
    have herror : authorizingServer.getInitializedContext clientId t audience narrowed fresh =
        .error (.curity "access_denied" "require-mfa-for-privileged") := if_pos ⟨hwrite, hacr⟩
    rw [herror] at h
    cases h
  issues := by
    intro clientId t audience narrowed fresh _ hwrite
    exact ⟨_, if_neg fun h ↦ h.2 (hwrite h.1)⟩

/-- Its workloads have SVIDs. -/
theorem attested_authorizingServer : Attested authorizingServer := by
  have hsvids : ∀ e ∈ policyEdges, ∃ p ∈ sampleSvids, p.1 ≠ "" ∧
      (verifySpiffeSvid sampleServer.jose4j .initial ⟨0, 0, .response 200 "key"⟩ p.1).2 =
        .ok e.actor := by
    decide
  intro e he
  obtain ⟨p, -, hne, hverify⟩ := hsvids e he
  exact ⟨p.1, _, hne, hverify⟩

/-- The edge that copilot takes for the specialist. -/
private def specialistEdge : Edge :=
  ⟨copilotClient, spiffeCopilot, "agent-specialist", ["inspect:read", "ops:write", "llm:invoke"],
    some spiffeSpecialist⟩

/-- Copilot can take the login on to the specialist with `ops:write`, and the specialist cannot. -/
theorem delegable_iff_sample :
    (∃ es' j m, ((minting authorizingServer).run ([.login sampleLogin] ++ es')).ledger[j]? =
        some m ∧
      DerivedFrom ((minting authorizingServer).run ([.login sampleLogin] ++ es')).ledger 0
        [⟨copilotClient, some spiffeCopilot, ["agent-specialist"]⟩] j ∧
      "ops:write" ∈ m.token.subjectScopes) ∧
    ¬ ∃ es' j m, ((minting authorizingServer).run ([.login sampleLogin] ++ es')).ledger[j]? =
        some m ∧
      DerivedFrom ((minting authorizingServer).run ([.login sampleLogin] ++ es')).ledger 0
        [⟨specialistClient, some spiffeSpecialist, ["mcp-gateway"]⟩] j ∧
      "ops:write" ∈ m.token.subjectScopes := by
  have hiff := @delegable_iff authorizingServer [.login sampleLogin] 0 0 sampleLogin
    (authorizes_authorizingServer 0) attested_authorizingServer rfl (by decide)
  constructor
  · refine (hiff _ _).mpr ⟨[specialistEdge], rfl, delegable_of_edges ?_ ?_ ?_ ?_ ?_⟩
    · decide
    · decide
    · exact List.isChain_singleton _
    · rintro e ⟨⟩
      rfl
    · exact fun _ ↦ ⟨rfl, by decide⟩
  · rw [hiff]
    rintro ⟨edges, hhops, h⟩
    cases edges with
    | nil => cases hhops
    | cons e edges =>
      rw [List.map_cons, List.cons.injEq, eq_comm (a := []), List.map_eq_nil_iff] at hhops
      obtain ⟨hhop, rfl⟩ := hhops
      -- The login names copilot, and the hop is the specialist's.
      have hactor : e.actor = spiffeSpecialist :=
        Option.some.inj (congrArg Hop.actor hhop).symm
      have hfirst : Delegation.MayAct (some spiffeCopilot) e.actor :=
        h.passable.first e.delegation rfl
      rw [hactor] at hfirst
      exact absurd hfirst (by decide)

end Sample
end AgentsAuth.Curity
