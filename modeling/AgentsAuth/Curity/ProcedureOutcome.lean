import AgentsAuth.Curity.ErrorCodes

/-!
# How the token-exchange procedure ends

`result` of `k8s/curity/procedures/token-exchange.js` with the call of the issuer made
visible. The procedure means to end every refusal in an exception of its own
`exceptionFactory`; `handled_iff` says for which requests it does.
-/

namespace AgentsAuth.Curity

open AgentsAuth.Base AgentsAuth.Lib

/-- `badRequestException`, `forbiddenException` or `internalServerException` of the
`exceptionFactory`. -/
def ProcedureError.own : ProcedureError → Bool
  | .badRequest _ => true
  | .badRequestWithCode _ _ => true
  | .forbidden _ => true
  | .internalServer _ => true
  | .curity _ _ => false
  | .engine _ => false

/-- What a run of the procedure leaves behind: the cache, the issued tokens and how it ends. -/
structure ProcedureRun where
  cache : JwksCache
  issued : List TokenData
  outcome : Except ProcedureError ExchangeResponse

/-- Model of `k8s/curity/procedures/token-exchange.js:326–529` with the tokens that
`getDefaultAccessTokenJwtIssuer().issue` issues. -/
def runProcedure (C : Server) (cache : JwksCache) (ctx : ExchangeContext) : ProcedureRun :=
  match narrowRequest ctx with
  | .error e => ⟨cache, [], .error e⟩
  | .ok r =>
    match C.getInitializedContext ctx.clientId r.subjectToken r.audience r.narrowed ctx.fresh with
    | .error e => ⟨cache, [], .error e⟩
    | .ok tokenData =>
      match verifySpiffeSvid C.jose4j cache ctx.env r.actorRaw with
      | (cache, .error e) => ⟨cache, [], .error e⟩
      | (cache, .ok actor) =>
        match checkActor ctx.clientId r.policy r.subjectToken actor with
        | .error e => ⟨cache, [], .error e⟩
        | .ok () =>
          let tokenData := stampClaims r.subjectToken actor r.audPolicy tokenData
          ⟨cache, [tokenData],
            .ok ⟨" ".intercalate r.narrowed, tokenData, C.secondsUntil tokenData.exp⟩⟩

/-- The actor token has a header that the script cannot read, or the library refuses it with the
keys that the resolver holds. -/
inductive Unverified (C : Server) (cache : JwksCache) (ctx : ExchangeContext) (raw : String) : Prop
  | malformed {e : ProcedureError} (h : jwtHeaderKid C.jose4j raw = .error e)
  | refused {kid : Option String} {keys : List JsonWebKey}
    (hheader : jwtHeaderKid C.jose4j raw = .ok kid)
    (hkeys : (getResolver C.jose4j cache ctx.env kid).2 = .ok keys)
    (h : C.jose4j.processToClaims keys expectedActorAud 30 ctx.env.now raw = none)

/-- How a request should end: with one token, or with none and an exception of the procedure's own;
an actor token that does not verify and an audience that is not listed, where a request gets that
far, with the refusal meant for it. -/
structure Handled (C : Server) (cache : JwksCache) (ctx : ExchangeContext) (run : ProcedureRun) :
    Prop where
  issued : ∀ response, run.outcome = .ok response → run.issued = [response.accessToken]
  refused : ∀ e, run.outcome = .error e → run.issued = [] ∧ e.own = true
  actor : ∀ r d, narrowRequest ctx = .ok r →
    C.getInitializedContext ctx.clientId r.subjectToken r.audience r.narrowed ctx.fresh = .ok d →
    Unverified C cache ctx r.actorRaw →
    run.outcome =
      invalidRequest "actor_token is not a valid SPIFFE JWT-SVID for this token endpoint"
  audience : ∀ t raw policy audience, Identified ctx t raw policy →
    setToArray ctx.requestedAudiences = [audience] → policy.perAudience.lookup audience = none →
    run.outcome = invalidRequest
      ("audience " ++ audience ++ " not allowed for client " ++ ctx.clientId)

/-- The requests that end as they should: neither the client nor the one audience is named like a
property of every object, Curity refuses with exceptions of the same kinds if at all, and when it
does not, the header of the actor token can be read and a key set that is fetched is one. -/
structure Manageable (C : Server) (cache : JwksCache) (ctx : ExchangeContext) : Prop where
  client : ∀ t raw, ctx.subjectToken = some t → ctx.actorToken.filter (· ≠ "") = some raw →
    ctx.clientId ∈ scriptPrototype → (setToArray ctx.requestedAudiences).length ≠ 1
  audience : ∀ t raw policy audience, Identified ctx t raw policy →
    setToArray ctx.requestedAudiences = [audience] → audience ∉ scriptPrototype
  context : ∀ r e, narrowRequest ctx = .ok r →
    C.getInitializedContext ctx.clientId r.subjectToken r.audience r.narrowed ctx.fresh = .error e →
    e.own = true
  header : ∀ r d, narrowRequest ctx = .ok r →
    C.getInitializedContext ctx.clientId r.subjectToken r.audience r.narrowed ctx.fresh = .ok d →
    ∃ kid, jwtHeaderKid C.jose4j r.actorRaw = .ok kid
  keys : ∀ r d kid body, narrowRequest ctx = .ok r →
    C.getInitializedContext ctx.clientId r.subjectToken r.audience r.narrowed ctx.fresh = .ok d →
    jwtHeaderKid C.jose4j r.actorRaw = .ok kid → cache.mustFetch ctx.env.now kid = true →
    fetchJwks ctx.env.answer = some body → ∃ keys, C.jose4j.parseKeySet body = some keys

section Run

variable {C : Server} {cache : JwksCache} {ctx : ExchangeContext} {e : ProcedureError}
  {r : NarrowedRequest} {d : TokenData}

/-- The run ends as `result` does and leaves its cache. -/
theorem runProcedure_result (C : Server) (cache : JwksCache) (ctx : ExchangeContext) :
    ((runProcedure C cache ctx).cache, (runProcedure C cache ctx).outcome) =
      result C cache ctx := by
  unfold runProcedure result
  cases narrowRequest ctx with
  | error e => rfl
  | ok r =>
    dsimp only
    cases C.getInitializedContext ctx.clientId r.subjectToken r.audience r.narrowed ctx.fresh with
    | error e => rfl
    | ok d =>
      dsimp only
      cases verifySpiffeSvid C.jose4j cache ctx.env r.actorRaw with
      | mk cache' verdict =>
        cases verdict with
        | error e => rfl
        | ok actor =>
          dsimp only
          cases checkActor ctx.clientId r.policy r.subjectToken actor with
          | error e => rfl
          | ok value => rfl

/-- One token is issued for a response and none for an exception. -/
theorem issued_runProcedure (C : Server) (cache : JwksCache) (ctx : ExchangeContext) :
    (runProcedure C cache ctx).issued =
      match (runProcedure C cache ctx).outcome with
      | .ok response => [response.accessToken]
      | .error _ => [] := by
  unfold runProcedure
  split
  · rfl
  · split
    · rfl
    · split
      · rfl
      · split <;> rfl

private theorem outcome_of_narrow_error (h : narrowRequest ctx = .error e) :
    (runProcedure C cache ctx).outcome = .error e := by
  unfold runProcedure
  rw [h]

private theorem outcome_of_context_error (hr : narrowRequest ctx = .ok r)
    (h : C.getInitializedContext ctx.clientId r.subjectToken r.audience r.narrowed ctx.fresh =
      .error e) : (runProcedure C cache ctx).outcome = .error e := by
  unfold runProcedure
  rw [hr]
  dsimp only
  rw [h]

private theorem outcome_of_svid_error (hr : narrowRequest ctx = .ok r)
    (hd : C.getInitializedContext ctx.clientId r.subjectToken r.audience r.narrowed ctx.fresh =
      .ok d) (h : (verifySpiffeSvid C.jose4j cache ctx.env r.actorRaw).2 = .error e) :
    (runProcedure C cache ctx).outcome = .error e := by
  unfold runProcedure
  rw [hr]
  dsimp only
  rw [hd]
  dsimp only
  cases hsvid : verifySpiffeSvid C.jose4j cache ctx.env r.actorRaw with
  | mk cache' verdict =>
    rw [hsvid] at h
    subst h
    rfl

private theorem svid_of_header_error {raw : String} (h : jwtHeaderKid C.jose4j raw = .error e) :
    (verifySpiffeSvid C.jose4j cache ctx.env raw).2 = .error e := by
  unfold verifySpiffeSvid
  rw [h]

private theorem svid_of_keys_error {raw : String} {kid : Option String}
    (hheader : jwtHeaderKid C.jose4j raw = .ok kid)
    (h : (getResolver C.jose4j cache ctx.env kid).2 = .error e) :
    (verifySpiffeSvid C.jose4j cache ctx.env raw).2 = .error e := by
  unfold verifySpiffeSvid
  rw [hheader]
  dsimp only
  cases hresolver : getResolver C.jose4j cache ctx.env kid with
  | mk cache' keys =>
    rw [hresolver] at h
    subst h
    rfl

private theorem svid_of_refused {raw : String} {kid : Option String} {keys : List JsonWebKey}
    (hheader : jwtHeaderKid C.jose4j raw = .ok kid)
    (hkeys : (getResolver C.jose4j cache ctx.env kid).2 = .ok keys)
    (h : C.jose4j.processToClaims keys expectedActorAud 30 ctx.env.now raw = none) :
    (verifySpiffeSvid C.jose4j cache ctx.env raw).2 =
      invalidRequest "actor_token is not a valid SPIFFE JWT-SVID for this token endpoint" := by
  unfold verifySpiffeSvid
  rw [hheader]
  dsimp only
  cases hresolver : getResolver C.jose4j cache ctx.env kid with
  | mk cache' found =>
    rw [hresolver] at hkeys
    subst hkeys
    dsimp only
    rw [h]

private theorem clientPolicy_not_inherited :
    ∀ name ∈ scriptPrototype, (clientPolicy.lookup name).isNone = true := by decide

private theorem perAudience_not_inherited :
    ∀ entry ∈ clientPolicy, ∀ name ∈ scriptPrototype,
      (entry.2.perAudience.lookup name).isNone = true := by decide

/-- Which audience of a client is found, for a name that is one of its entries or not. -/
theorem audience_of_lookup_none {policy : ClientPolicy} {audience : String}
    (h : policy.perAudience.lookup audience = none) :
    policy.audience audience = if audience ∈ scriptPrototype then some ⟨none, none⟩ else none := by
  unfold ClientPolicy.audience property
  rw [h]
  dsimp only
  by_cases hname : audience ∈ scriptPrototype
  · rw [if_pos hname, if_pos hname]
  · rw [if_neg hname, if_neg hname]

private theorem identified_own {t : TokenData} {raw : String} {policy : ClientPolicy}
    (h : Identified ctx t raw policy) :
    property scriptPrototype clientPolicy ctx.clientId = .own policy :=
  property_eq_own_iff.mpr h.client

/-- What steps 1 to 3 do for an identified request is decided from the audience on. -/
private theorem narrowRequest_of_identified {t : TokenData} {raw : String} {policy : ClientPolicy}
    (h : Identified ctx t raw policy)
    (haudience : findAudience ctx.clientId (some policy) ctx.requestedAudiences = .error e) :
    narrowRequest ctx = .error e := by
  unfold narrowRequest
  simp only [h.subject, h.actor, findPolicy, identified_own h]
  show (findAudience ctx.clientId (some policy) ctx.requestedAudiences >>= _) = _
  rw [haudience]
  rfl

/-- For an audience that is a property of every object, no scope list is there to narrow to. -/
private theorem narrowRequest_of_inherited_audience {t : TokenData} {raw audience : String}
    {policy : ClientPolicy} (h : Identified ctx t raw policy)
    (hone : setToArray ctx.requestedAudiences = [audience])
    (hpolicy : policy.audience audience = some ⟨none, none⟩) :
    ∃ e, narrowRequest ctx = .error e ∧ ∀ description, e ≠ .badRequest description := by
  have haudience : findAudience ctx.clientId (some policy) ctx.requestedAudiences =
      .ok (audience, policy, ⟨none, none⟩) := by
    unfold findAudience
    rw [hone]
    dsimp only
    rw [hpolicy]
  unfold narrowRequest
  simp only [h.subject, h.actor, findPolicy, identified_own h]
  show ∃ e, (findAudience ctx.clientId (some policy) ctx.requestedAudiences >>= _) = _ ∧ _
  rw [haudience]
  by_cases hany : (requestedOrSubject t ctx.requestedScopes).any t.subjectScopes.contains = true
  · refine ⟨.engine "TypeError: indexOf is undefined", ?_, fun _ h ↦ ?_⟩
    · show (narrowScopes ctx.clientId audience t ⟨none, none⟩ _ >>= _) = _
      simp only [narrowScopes, hany, if_true]
      rfl
    · cases h
  · refine ⟨.badRequestWithCode "invalid_scope"
      ("no scope intersects subject + policy for client " ++ ctx.clientId ++ " / audience " ++
        audience), ?_, fun _ h ↦ ?_⟩
    · show (narrowScopes ctx.clientId audience t ⟨none, none⟩ _ >>= _) = _
      simp only [narrowScopes, hany]
      rfl
    · cases h

/-- A client named like a property of every object has no audiences to look one up in. -/
private theorem narrowRequest_of_inherited_client {t : TokenData} {raw : String}
    (hsubject : ctx.subjectToken = some t) (hactor : ctx.actorToken.filter (· ≠ "") = some raw)
    (hclient : ctx.clientId ∈ scriptPrototype)
    (hone : (setToArray ctx.requestedAudiences).length = 1) :
    narrowRequest ctx = .error (.engine "TypeError: perAudience is undefined") := by
  have hinherited : property scriptPrototype clientPolicy ctx.clientId = .inherited := by
    unfold property
    rw [Option.isNone_iff_eq_none.mp (clientPolicy_not_inherited _ hclient)]
    exact if_pos hclient
  obtain ⟨audience, haudience⟩ := List.length_eq_one_iff.mp hone
  unfold narrowRequest
  simp only [hsubject, hactor, findPolicy, hinherited]
  show (findAudience ctx.clientId none ctx.requestedAudiences >>= _) = _
  unfold findAudience
  rw [haudience]
  rfl

/-- A request that ends as it should is manageable. -/
private theorem manageable_of_handled (h : Handled C cache ctx (runProcedure C cache ctx)) :
    Manageable C cache ctx where
  client := by
    intro t raw hsubject hactor hclient hone
    have hnarrow := narrowRequest_of_inherited_client hsubject hactor hclient hone
    obtain ⟨-, hown⟩ := h.refused _ (outcome_of_narrow_error hnarrow)
    cases hown
  audience := by
    intro t raw policy audience hid hone hname
    have hlookup : policy.perAudience.lookup audience = none := by
      have hmem := mem_of_property_eq_own (identified_own hid)
      exact Option.isNone_iff_eq_none.mp (perAudience_not_inherited _ hmem _ hname)
    have hpolicy := audience_of_lookup_none hlookup
    rw [if_pos hname] at hpolicy
    obtain ⟨e, hnarrow, hne⟩ := narrowRequest_of_inherited_audience hid hone hpolicy
    have hrefused := h.audience t raw policy audience hid hone hlookup
    rw [outcome_of_narrow_error hnarrow] at hrefused
    exact hne _ (Except.error.inj hrefused)
  context := by
    intro r e hnarrow hcontext
    exact (h.refused e (outcome_of_context_error hnarrow hcontext)).2
  header := by
    intro r d hnarrow hcontext
    cases hheader : jwtHeaderKid C.jose4j r.actorRaw with
    | ok kid => exact ⟨kid, rfl⟩
    | error e =>
      have hsvid : (verifySpiffeSvid C.jose4j cache ctx.env r.actorRaw).2 = .error e :=
        svid_of_header_error hheader
      obtain ⟨-, hown⟩ := h.refused e (outcome_of_svid_error hnarrow hcontext hsvid)
      obtain ⟨message, rfl⟩ := jwtHeaderKid_error hheader
      cases hown
  keys := by
    intro r d kid body hnarrow hcontext hheader hfetch hbody
    cases hkeys : C.jose4j.parseKeySet body with
    | some keys => exact ⟨keys, rfl⟩
    | none =>
      have hresolver : (getResolver C.jose4j cache ctx.env kid).2 =
          .error (.engine "the body is not a JSON Web Key Set") := by
        obtain ⟨-, hrefresh⟩ | ⟨hkept, -⟩ := getResolver_cases C.jose4j cache ctx.env kid
        · rw [hrefresh]
          unfold refreshResolver
          rw [hbody]
          dsimp only
          rw [hkeys]
        · rw [hkept] at hfetch
          cases hfetch
      have hsvid := svid_of_keys_error hheader hresolver
      obtain ⟨-, hown⟩ := h.refused _ (outcome_of_svid_error hnarrow hcontext hsvid)
      cases hown

/-- What the resolver fails with, for a key set that is one, is the procedure's own exception. -/
private theorem own_of_resolver_error {kid : Option String}
    (hkeys : ∀ body, cache.mustFetch ctx.env.now kid = true →
      fetchJwks ctx.env.answer = some body → ∃ keys, C.jose4j.parseKeySet body = some keys)
    (h : (getResolver C.jose4j cache ctx.env kid).2 = .error e) : e.own = true := by
  obtain ⟨hfetch, hrefresh⟩ | ⟨-, keys, -, hkept⟩ := getResolver_cases C.jose4j cache ctx.env kid
  · rw [hrefresh] at h
    unfold refreshResolver at h
    split at h
    · cases h
      rfl
    · next body hbody =>
      obtain ⟨keys, hparse⟩ := hkeys body hfetch hbody
      rw [hparse] at h
      cases h
  · rw [hkept] at h
    cases h

private theorem scopes_listed :
    ∀ entry ∈ clientPolicy, ∀ audience ∈ entry.2.perAudience,
      audience.2.scopes.isSome = true := by decide

private theorem mem_prototype_of_inherited {ν : Type} {table : List (String × ν)} {name : String}
    (h : property scriptPrototype table name = .inherited) : name ∈ scriptPrototype := by
  unfold property at h
  split at h
  · cases h
  · split at h
    · next hmem => exact hmem
    · cases h

/-- An audience without a scope list is a property of every object. -/
private theorem mem_prototype_of_no_scopes {t : TokenData} {raw audience : String}
    {policy : ClientPolicy} {audPolicy : AudiencePolicy}
    (h : Addressed ctx t raw policy audience audPolicy) (hlist : audPolicy.scopes = none) :
    audience ∈ scriptPrototype := by
  have hallowed := h.allowed
  unfold ClientPolicy.audience at hallowed
  split at hallowed
  · next found hfound =>
    cases hallowed
    have hentry := mem_of_property_eq_own (identified_own h.toIdentified)
    have hlisted := scopes_listed _ hentry _ (mem_of_property_eq_own hfound)
    rw [hlist] at hlisted
    cases hlisted
  · next hinherited => exact mem_prototype_of_inherited hinherited
  · cases hallowed

/-- A refusal of a request that Curity's own checks refuse is theirs. -/
private theorem own_of_context (h : Manageable C cache ctx)
    (hrefused : (result C cache ctx).2 = .error e) (hnarrow : narrowRequest ctx = .ok r)
    (hgate : ∀ d, C.getInitializedContext ctx.clientId r.subjectToken r.audience r.narrowed
      ctx.fresh = .ok d → e.own = true) : e.own = true := by
  cases hcontext : C.getInitializedContext ctx.clientId r.subjectToken r.audience r.narrowed
      ctx.fresh with
  | ok d => exact hgate d hcontext
  | error e' =>
    have houtcome : (runProcedure C cache ctx).outcome = .error e' :=
      outcome_of_context_error hnarrow hcontext
    rw [← runProcedure_result, houtcome] at hrefused
    cases hrefused
    exact h.context r e hnarrow hcontext

/-- A manageable request is refused, if at all, by an exception of the procedure's own. -/
private theorem own_of_manageable (h : Manageable C cache ctx)
    (hrefused : (result C cache ctx).2 = .error e) : e.own = true := by
  obtain ⟨r, hnarrow, hcontext⟩ | ⟨code, hfor⟩ := refusedByCurity_or_refusedFor hrefused
  · exact h.context r e hnarrow hcontext
  · cases hfor with
    | noSubject _ => rfl
    | noActor _ _ => rfl
    | unknownClient _ _ _ => rfl
    | inheritedClient hsubject hactor hclient he =>
      have hmany := h.client _ _ hsubject hactor (mem_prototype_of_inherited hclient)
      unfold findAudience at he
      split at he
      · next audience hone =>
        rw [hone] at hmany
        exact absurd rfl hmany
      · cases he
        rfl
    | audienceCount _ _ => rfl
    | audience _ _ _ => rfl
    | noScope _ _ => rfl
    | noScopeList haddressed hlist _ _ =>
      have hname := mem_prototype_of_no_scopes haddressed hlist
      exact absurd hname (h.audience _ _ _ _ haddressed.toIdentified haddressed.one)
    | noRole _ _ _ _ _ => rfl
    | header hnarrow hheader =>
      apply own_of_context h hrefused hnarrow
      intro d hcontext
      obtain ⟨kid, hread⟩ := h.header _ d hnarrow hcontext
      rw [hread] at hheader
      cases hheader
    | keys hnarrow hheader hkeys =>
      apply own_of_context h hrefused hnarrow
      intro d hcontext
      exact own_of_resolver_error
        (fun body ↦ h.keys _ d _ body hnarrow hcontext hheader) hkeys
    | svid _ _ _ _ => rfl
    | actor _ _ _ => rfl
    | mayAct _ _ _ _ => rfl

/-- A manageable request ends as it should. -/
private theorem handled_of_manageable (h : Manageable C cache ctx) :
    Handled C cache ctx (runProcedure C cache ctx) where
  issued := by
    intro response hresponse
    rw [issued_runProcedure, hresponse]
  refused := by
    intro e he
    refine ⟨by rw [issued_runProcedure, he], own_of_manageable h ?_⟩
    rw [← runProcedure_result]
    exact he
  actor := by
    intro r d hnarrow hcontext hunverified
    cases hunverified with
    | malformed hheader =>
      obtain ⟨kid, hread⟩ := h.header r d hnarrow hcontext
      rw [hread] at hheader
      cases hheader
    | refused hheader hkeys hclaims =>
      exact outcome_of_svid_error hnarrow hcontext (svid_of_refused hheader hkeys hclaims)
  audience := by
    intro t raw policy audience hid hone hlookup
    have hpolicy := audience_of_lookup_none hlookup
    rw [if_neg (h.audience t raw policy audience hid hone)] at hpolicy
    apply outcome_of_narrow_error
    apply narrowRequest_of_identified hid
    unfold findAudience
    rw [hone]
    dsimp only
    rw [hpolicy]
    rfl

/-- A request ends in one token or in the refusal meant for it exactly when it is manageable. -/
theorem handled_iff (C : Server) (cache : JwksCache) (ctx : ExchangeContext) :
    Handled C cache ctx (runProcedure C cache ctx) ↔ Manageable C cache ctx :=
  ⟨manageable_of_handled, handled_of_manageable⟩

end Run

section Sample

/-- A request of agent-copilot for the audience `toString`. -/
private def inheritedAudienceContext : ExchangeContext where
  subjectToken := some (authorizationCodeToken sampleLogin)
  actorToken := some "e30.copilot.sig"
  clientId := copilotClient
  requestedAudiences := .collection ["toString"]
  requestedScopes := .collection ["inspect:read"]
  env := ⟨0, 0, .response 200 "key"⟩
  fresh := ⟨"t1", 600⟩

/-- A request for the audience `toString` ends in an error of the script engine. -/
theorem inherited_audience_not_handled :
    ¬ ∀ C cache ctx, Handled C cache ctx (runProcedure C cache ctx) := by
  intro h
  have hhandled := h sampleServer .initial inheritedAudienceContext
  obtain ⟨-, hown⟩ := hhandled.refused (.engine "TypeError: indexOf is undefined") rfl
  cases hown

end Sample
end AgentsAuth.Curity
