import AgentsAuth.Curity.ActorToken
import AgentsAuth.Curity.ClientPolicy
import AgentsAuth.Curity.Token

/-!
# The token-exchange procedure

`result` of `k8s/curity/procedures/token-exchange.js`, check by check. What Curity
itself contributes is a parameter whose fields state the documented behaviour of
the initialized context. `exchanged_of_result` says everything a successful
exchange establishes, so that later proofs need not open the procedure.
-/

namespace AgentsAuth.Curity

open AgentsAuth.Base AgentsAuth.Lib

/-- What Curity draws for the token it is about to issue. -/
structure Fresh where
  jti : String
  exp : Int

/-- What the procedure reads of the exchange request and of its surroundings. -/
structure ExchangeContext where
  subjectToken : Option TokenData
  actorToken : Option String
  clientId : String
  requestedAudiences : Items
  requestedScopes : Items
  env : Surroundings
  fresh : Fresh

/-- The standard claims of an initialized context: the subject's `sub`, one audience, the
narrowed scopes in an order of Curity's own, and none of the claims the procedures stamp. -/
structure DefaultTokenData (t : TokenData) (audience : String) (narrowed : List String)
    (fresh : Fresh) (d : TokenData) : Prop where
  sub : d.sub = t.sub
  jti : d.jti = fresh.jti
  exp : d.exp = fresh.exp
  aud : d.aud = [audience]
  scope : ∃ ss, (∀ s, s ∈ ss ↔ s ∈ narrowed) ∧ d.scope = some (" ".intercalate ss)
  acr : d.acr = none
  roles : d.roles = .items .absent
  act : d.act = none
  mayAct : d.mayAct = .absent

/-- The authorization server around the procedures. -/
structure Server where
  jose4j : Jose4j
  /-- `getDefaultAccessTokenData()` of `getInitializedContext(…)`, or the refusal of Curity's
  own checks and Token Issuance Authorizers. -/
  getInitializedContext : String → TokenData → String → List String → Fresh →
    Except ProcedureError TokenData
  /-- The shape in which a `roles` claim is handed to the procedure. -/
  presentRoles : RolesClaim → RolesClaim
  /-- `secondsUntil`. -/
  secondsUntil : Int → Int
  defaultTokenData : ∀ {clientId t audience narrowed fresh d},
    getInitializedContext clientId t audience narrowed fresh = .ok d →
      DefaultTokenData t audience narrowed fresh d
  claimToArray_presentRoles : ∀ roles, claimToArray (presentRoles roles) = claimToArray roles

/-- `CLIENT_POLICY[clientId]`: `token-exchange.js:340–343`. An inherited property passes the
check and has no `perAudience`. -/
def findPolicy (clientId : String) : Except ProcedureError (Option ClientPolicy) :=
  match property scriptPrototype clientPolicy clientId with
  | .own policy => .ok (some policy)
  | .inherited => .ok none
  | .missing =>
    failWithCode "invalid_client"
      ("client " ++ clientId ++ " is not configured for token exchange")

/-- The one requested audience and its policy: `token-exchange.js:348–356`. -/
def findAudience (clientId : String) (policy : Option ClientPolicy) (requested : Items) :
    Except ProcedureError (String × ClientPolicy × AudiencePolicy) :=
  match setToArray requested with
  | [requestedAudience] =>
    match policy with
    | none => .error (.engine "TypeError: perAudience is undefined")
    | some policy =>
      match policy.audience requestedAudience with
      | some audPolicy => .ok (requestedAudience, policy, audPolicy)
      | none =>
        invalidRequest
          ("audience " ++ requestedAudience ++ " not allowed for client " ++ clientId)
  | audiences =>
    invalidRequest ("exactly one audience is required, got " ++ toString audiences.length)

/-- The requested scopes, or the subject's when none are: `token-exchange.js:364–366`. -/
def requestedOrSubject (t : TokenData) (requestedScopes : Items) : List String :=
  match setToArray requestedScopes with
  | [] => t.subjectScopes
  | requested => requested

/-- requested ∩ subject ∩ policy: `token-exchange.js:367–378`. Without a scope list the
filter throws at the first requested scope that the subject has. -/
def narrowScopes (clientId audience : String) (t : TokenData) (audPolicy : AudiencePolicy)
    (requested : List String) : Except ProcedureError (List String × List String) :=
  let noScope : Except ProcedureError (List String × List String) :=
    failWithCode "invalid_scope"
      ("no scope intersects subject + policy for client " ++ clientId ++ " / audience " ++ audience)
  match audPolicy.scopes with
  | none =>
    if requested.any t.subjectScopes.contains then
      .error (.engine "TypeError: indexOf is undefined")
    else noScope
  | some allowed =>
    match requested.filter fun s ↦ t.subjectScopes.contains s && allowed.contains s with
    | [] => noScope
    | narrowed => .ok (allowed, narrowed)

/-- The role gate on requested ∩ policy: `token-exchange.js:398–408`. -/
def checkWriteRole (t : TokenData) (requested allowed : List String) :
    Except ProcedureError Unit :=
  if (requested.filter allowed.contains).contains "ops:write" && !t.hasWriteRole then
    accessDenied "user lacks a write role ('sre' or 'oncall') for ops:write"
  else .ok ()

/-- What steps 1 to 3 hand on. -/
structure NarrowedRequest where
  subjectToken : TokenData
  actorRaw : String
  policy : ClientPolicy
  audience : String
  audPolicy : AudiencePolicy
  narrowed : List String

/-- Steps 1 to 3 of the procedure: `token-exchange.js:329–408`. -/
def narrowRequest (ctx : ExchangeContext) : Except ProcedureError NarrowedRequest := do
  let some subjectToken := ctx.subjectToken | invalidRequest "subject_token is required"
  let some actorRaw := ctx.actorToken.filter (· ≠ "") | invalidRequest "actor_token is required"
  let policy ← findPolicy ctx.clientId
  let (audience, policy, audPolicy) ← findAudience ctx.clientId policy ctx.requestedAudiences
  let requested := requestedOrSubject subjectToken ctx.requestedScopes
  let (allowed, narrowed) ← narrowScopes ctx.clientId audience subjectToken audPolicy requested
  checkWriteRole subjectToken requested allowed
  return ⟨subjectToken, actorRaw, policy, audience, audPolicy, narrowed⟩

/-- Step 6, `allowedActor` and `may_act`: `token-exchange.js:425–450`. -/
def checkActor (clientId : String) (policy : ClientPolicy) (t : TokenData) (actor : String) :
    Except ProcedureError Unit :=
  if actor ≠ policy.allowedActor then
    invalidRequest
      ("actor SPIFFE ID " ++ actor ++ " is not on the allow-list for client " ++ clientId)
  else
    match mayActSub t.mayAct with
    | none => .ok ()
    | some expectedActor =>
      if expectedActor ≠ actor then
        invalidRequest ("actor " ++ actor ++ " is not authorized by the subject token may_act (" ++
          expectedActor ++ ")")
      else .ok ()

/-- Step 7, the claims stamped on the default token data: `token-exchange.js:473–513`. -/
def stampClaims (t : TokenData) (actor : String) (audPolicy : AudiencePolicy) (d : TokenData) :
    TokenData :=
  { d with
    act := some (wrapAct actor t.act)
    mayAct :=
      match audPolicy.mayAct with
      | some next => .map (some next)
      | none => d.mayAct
    acr :=
      match t.acr with
      | some acr => some acr
      | none => d.acr
    roles :=
      match claimToArray t.roles with
      | [] => d.roles
      | roles => .items (.array roles) }

/-- The response of a successful exchange. -/
structure ExchangeResponse where
  scope : String
  accessToken : TokenData
  expiresIn : Int

/-- Model of `k8s/curity/procedures/token-exchange.js:326–529`. -/
def result (C : Server) (cache : JwksCache) (ctx : ExchangeContext) :
    JwksCache × Except ProcedureError ExchangeResponse :=
  match narrowRequest ctx with
  | .error e => (cache, .error e)
  | .ok r =>
    match C.getInitializedContext ctx.clientId r.subjectToken r.audience r.narrowed ctx.fresh with
    | .error e => (cache, .error e)
    | .ok tokenData =>
      match verifySpiffeSvid C.jose4j cache ctx.env r.actorRaw with
      | (cache, .error e) => (cache, .error e)
      | (cache, .ok actor) =>
        match checkActor ctx.clientId r.policy r.subjectToken actor with
        | .error e => (cache, .error e)
        | .ok () =>
          let issued := stampClaims r.subjectToken actor r.audPolicy tokenData
          (cache, .ok ⟨" ".intercalate r.narrowed, issued, C.secondsUntil issued.exp⟩)

/-- The subject of the presented SVID, once it verifies. -/
def presentedActor (C : Server) (cache : JwksCache) (ctx : ExchangeContext) : Option String :=
  match ctx.actorToken with
  | none => none
  | some rawJwt => (verifySpiffeSvid C.jose4j cache ctx.env rawJwt).2.toOption

/-- What a successful exchange of `t` along the edge `e` establishes about the token `d`. -/
structure Exchanged (ctx : ExchangeContext) (t : TokenData) (e : Edge) (d : TokenData) :
    Prop where
  presented : ctx.subjectToken = some t
  client : ctx.clientId = e.clientId
  requestedAudience : setToArray ctx.requestedAudiences = [e.audience]
  edge : e ∈ policyEdges
  mayAct : mayActSub t.mayAct = none ∨ mayActSub t.mayAct = some e.actor
  nextActor : mayActSub d.mayAct = e.mayAct
  sub : d.sub = t.sub
  jti : d.jti = ctx.fresh.jti
  aud : d.aud = [e.audience]
  act : d.act = some (wrapAct e.actor t.act)
  acr : d.acr = t.acr
  roles : claimToArray d.roles = claimToArray t.roles
  scope : ∃ ss, d.scope = some (" ".intercalate ss) ∧ ss ≠ [] ∧
    ∀ s, s ∈ ss ↔ s ∈ requestedOrSubject t ctx.requestedScopes ∧ s ∈ t.subjectScopes ∧ s ∈ e.scopes
  writeRole : "ops:write" ∈ requestedOrSubject t ctx.requestedScopes → "ops:write" ∈ e.scopes →
    t.hasWriteRole = true

private theorem findAudience_ok {clientId audience : String} {found : Option ClientPolicy}
    {requested : Items} {policy : ClientPolicy} {audPolicy : AudiencePolicy}
    (h : findAudience clientId found requested = .ok (audience, policy, audPolicy)) :
    setToArray requested = [audience] ∧ found = some policy ∧
      policy.audience audience = some audPolicy := by
  unfold findAudience at h
  split at h
  · next requestedAudience hrequested =>
    split at h
    · cases h
    · next own =>
      split at h
      · next hown =>
        cases h
        exact ⟨hrequested, rfl, hown⟩
      · cases h
  · cases h

private theorem findPolicy_ok {clientId : String} {policy : ClientPolicy}
    (h : findPolicy clientId = .ok (some policy)) :
    property scriptPrototype clientPolicy clientId = .own policy := by
  unfold findPolicy at h
  split at h
  · next own hown =>
    cases h
    exact hown
  · cases h
  · cases h

/-- What is narrowed is what is requested, held and allowed, and there is some of it. -/
theorem narrowScopes_ok {clientId audience : String} {t : TokenData}
    {audPolicy : AudiencePolicy} {requested allowed narrowed : List String}
    (h : narrowScopes clientId audience t audPolicy requested = .ok (allowed, narrowed)) :
    audPolicy.scopes = some allowed ∧ narrowed ≠ [] ∧
      ∀ s, s ∈ narrowed ↔ s ∈ requested ∧ s ∈ t.subjectScopes ∧ s ∈ allowed := by
  unfold narrowScopes at h
  split at h
  · split at h <;> cases h
  · next scopes hscopes =>
    split at h
    · cases h
    · next hne =>
      cases h
      refine ⟨hscopes, hne, fun s ↦ ?_⟩
      rw [List.mem_filter]
      simp

private theorem checkWriteRole_ok {t : TokenData} {requested allowed : List String}
    (h : checkWriteRole t requested allowed = .ok ()) (hr : "ops:write" ∈ requested)
    (ha : "ops:write" ∈ allowed) : t.hasWriteRole = true := by
  unfold checkWriteRole at h
  split at h
  · cases h
  · next hgate => simpa [hr, ha] using hgate

private theorem checkActor_ok {clientId actor : String} {policy : ClientPolicy} {t : TokenData}
    (h : checkActor clientId policy t actor = .ok ()) :
    actor = policy.allowedActor ∧
      (mayActSub t.mayAct = none ∨ mayActSub t.mayAct = some actor) := by
  unfold checkActor at h
  split at h
  · cases h
  · next hactor =>
    refine ⟨not_not.mp hactor, ?_⟩
    split at h
    · next hnone => exact Or.inl hnone
    · next expectedActor hsome =>
      split at h
      · cases h
      · next heq =>
        rw [not_not] at heq
        exact Or.inr (heq ▸ hsome)

/-- What steps 1 to 3 establish. -/
theorem narrowRequest_ok {ctx : ExchangeContext} {r : NarrowedRequest}
    (h : narrowRequest ctx = .ok r) :
    ctx.subjectToken = some r.subjectToken ∧ ctx.actorToken = some r.actorRaw ∧
      property scriptPrototype clientPolicy ctx.clientId = .own r.policy ∧
      setToArray ctx.requestedAudiences = [r.audience] ∧
      r.policy.audience r.audience = some r.audPolicy ∧ r.narrowed ≠ [] ∧
      ∃ allowed, r.audPolicy.scopes = some allowed ∧
        (∀ s, s ∈ r.narrowed ↔ s ∈ requestedOrSubject r.subjectToken ctx.requestedScopes ∧
          s ∈ r.subjectToken.subjectScopes ∧ s ∈ allowed) ∧
        ("ops:write" ∈ requestedOrSubject r.subjectToken ctx.requestedScopes →
          "ops:write" ∈ allowed → r.subjectToken.hasWriteRole = true) := by
  unfold narrowRequest at h
  split at h
  · next t ht =>
    split at h
    · next actorRaw hraw =>
      obtain ⟨found, hfound, h⟩ := bind_eq_ok_iff.mp h
      obtain ⟨⟨audience, policy, audPolicy⟩, haudience, h⟩ := bind_eq_ok_iff.mp h
      obtain ⟨⟨allowed, narrowed⟩, hnarrowed, h⟩ := bind_eq_ok_iff.mp h
      obtain ⟨⟨⟩, hrole, h⟩ := bind_eq_ok_iff.mp h
      cases h
      obtain ⟨hrequested, rfl, hpolicy⟩ := findAudience_ok haudience
      obtain ⟨hallowed, hne, hmem⟩ := narrowScopes_ok hnarrowed
      exact ⟨ht, (Option.filter_eq_some_iff.mp hraw).1, findPolicy_ok hfound, hrequested, hpolicy,
        hne, allowed, hallowed, hmem, checkWriteRole_ok hrole⟩
    · cases h
  · cases h

private theorem claimToArray_stampClaims {t d : TokenData} {actor : String}
    {audPolicy : AudiencePolicy} (hd : d.roles = .items .absent) :
    claimToArray (stampClaims t actor audPolicy d).roles = claimToArray t.roles := by
  simp only [stampClaims]
  split
  · next hnil => rw [hd, hnil]; rfl
  · rfl

private theorem acr_stampClaims {t d : TokenData} {actor : String}
    {audPolicy : AudiencePolicy} (hd : d.acr = none) :
    (stampClaims t actor audPolicy d).acr = t.acr := by
  simp only [stampClaims]
  split
  · next acr hacr => rw [hacr]
  · next hacr => rw [hd, hacr]

private theorem mayAct_stampClaims {t d : TokenData} {actor : String}
    {audPolicy : AudiencePolicy} (hd : d.mayAct = .absent) :
    mayActSub (stampClaims t actor audPolicy d).mayAct = audPolicy.mayAct := by
  simp only [stampClaims]
  split
  · next next hnext => rw [hnext]; rfl
  · next hnext => rw [hd, hnext]; rfl

/-- A successful exchange follows an edge of the policy and stamps the claims it names. -/
theorem exchanged_of_result {C : Server} {cache : JwksCache} {ctx : ExchangeContext}
    {response : ExchangeResponse} (h : (result C cache ctx).2 = .ok response) :
    ∃ t e, Exchanged ctx t e response.accessToken ∧
      presentedActor C cache ctx = some e.actor := by
  unfold result at h
  split at h
  · cases h
  · next r hr =>
    obtain ⟨ht, hraw, hpolicy, haudience, haudPolicy, hne, allowed, hallowed, hmem, hrole⟩ :=
      narrowRequest_ok hr
    split at h
    · cases h
    · next d hd =>
      have default := C.defaultTokenData hd
      split at h
      · cases h
      · next cache' actor hactorToken =>
        split at h
        · cases h
        · next hactor =>
          obtain ⟨rfl, hmayAct⟩ := checkActor_ok hactor
          cases h
          obtain ⟨ss, hss, hscope⟩ := default.scope
          refine ⟨r.subjectToken,
            ⟨ctx.clientId, r.policy.allowedActor, r.audience, allowed, r.audPolicy.mayAct⟩, ?_, ?_⟩
          · exact
              { presented := ht
                client := rfl
                requestedAudience := haudience
                edge := mem_policyEdges hpolicy haudPolicy hallowed
                mayAct := hmayAct
                nextActor := mayAct_stampClaims default.mayAct
                sub := default.sub
                jti := default.jti
                aud := default.aud
                act := rfl
                acr := acr_stampClaims default.acr
                roles := claimToArray_stampClaims default.roles
                scope := by
                  refine ⟨ss, hscope, ?_, fun s ↦ (hss s).trans (hmem s)⟩
                  obtain ⟨s, hs⟩ := List.exists_mem_of_ne_nil _ hne
                  exact List.ne_nil_of_mem ((hss s).mpr hs)
                writeRole := hrole }
          · simp only [presentedActor, hraw, hactorToken]
            rfl

/-- A successful exchange writes the roles as an array, and leaves the claim out where there are
none. -/
theorem roles_of_result {C : Server} {cache : JwksCache} {ctx : ExchangeContext}
    {response : ExchangeResponse} (h : (result C cache ctx).2 = .ok response) :
    response.accessToken.roles = .items .absent ∨
      ∃ roles, response.accessToken.roles = .items (.array roles) := by
  unfold result at h
  split at h
  · cases h
  · next r _ =>
    split at h
    · cases h
    · next d hd =>
      have hroles := (C.defaultTokenData hd).roles
      split at h
      · cases h
      · split at h
        · cases h
        · cases h
          simp only [stampClaims]
          split
          · exact Or.inl hroles
          · exact Or.inr ⟨_, rfl⟩

namespace Exchanged

variable {ctx : ExchangeContext} {t d : TokenData} {e : Edge}

private theorem subjectScopes_spec (h : Exchanged ctx t e d) :
    d.scope = some (" ".intercalate d.subjectScopes) ∧ d.subjectScopes ≠ [] ∧
      ∀ s, s ∈ d.subjectScopes ↔
        s ∈ requestedOrSubject t ctx.requestedScopes ∧ s ∈ t.subjectScopes ∧ s ∈ e.scopes := by
  obtain ⟨ss, hscope, hne, hss⟩ := h.scope
  have hw : ∀ s ∈ ss, IsWord isSpace s := fun s hs ↦
    TokenData.isWord_of_mem_subjectScopes ((hss s).mp hs).2.1
  rw [TokenData.subjectScopes_of_intercalate hw hscope]
  exact ⟨hscope, hne, hss⟩

/-- The scope claim joins the scopes by single blanks. -/
theorem scope_eq (h : Exchanged ctx t e d) : d.scope = some (" ".intercalate d.subjectScopes) :=
  h.subjectScopes_spec.1

/-- The new token has some scope. -/
theorem subjectScopes_ne_nil (h : Exchanged ctx t e d) : d.subjectScopes ≠ [] :=
  h.subjectScopes_spec.2.1

/-- The scopes of the new token: requested, the subject's and the edge's. -/
theorem mem_subjectScopes (h : Exchanged ctx t e d) {s : String} :
    s ∈ d.subjectScopes ↔
      s ∈ requestedOrSubject t ctx.requestedScopes ∧ s ∈ t.subjectScopes ∧ s ∈ e.scopes :=
  h.subjectScopes_spec.2.2 s

/-- Whoever obtains `ops:write` exchanged a token with a write role. -/
theorem hasWriteRole (h : Exchanged ctx t e d) (hs : "ops:write" ∈ d.subjectScopes) :
    t.hasWriteRole = true := by
  have hmem := h.mem_subjectScopes.mp hs
  exact h.writeRole hmem.1 hmem.2.2

end Exchanged
end AgentsAuth.Curity
