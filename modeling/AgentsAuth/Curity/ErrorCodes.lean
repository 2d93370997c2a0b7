import AgentsAuth.Curity.TokenEndpoint

/-!
# Error codes across the token endpoint

Which code each refusal of `k8s/curity/procedures/token-exchange.js` calls for, gate by gate,
and which one `packages/auth-curity/src/exchange.ts` makes of it. The procedure describes its
refusals in prose, and the client looks for words in that prose.
-/

namespace AgentsAuth.Curity

open AgentsAuth.AuthCurity AgentsAuth.Base AgentsAuth.Lib

/-- A request that names a subject token, an actor token and a configured client. -/
structure Identified (ctx : ExchangeContext) (t : TokenData) (raw : String)
    (policy : ClientPolicy) : Prop where
  subject : ctx.subjectToken = some t
  actor : ctx.actorToken.filter (· ≠ "") = some raw
  client : clientPolicy.lookup ctx.clientId = some policy

/-- An identified request for one audience of its client. -/
structure Addressed (ctx : ExchangeContext) (t : TokenData) (raw : String) (policy : ClientPolicy)
    (audience : String) (audPolicy : AudiencePolicy) : Prop
    extends Identified ctx t raw policy where
  one : setToArray ctx.requestedAudiences = [audience]
  allowed : policy.audience audience = some audPolicy

/-- The refusals of the procedure, in the order of its gates, with the code that each calls
for. -/
inductive RefusedFor (C : Server) (cache : JwksCache) (ctx : ExchangeContext) :
    ProcedureError → CurityAuthErrorCode → Prop
  | noSubject (h : ctx.subjectToken = none) :
    RefusedFor C cache ctx (.badRequest "subject_token is required") .exchangeFailed
  | noActor {t : TokenData} (hsubject : ctx.subjectToken = some t)
    (h : ctx.actorToken.filter (· ≠ "") = none) :
    RefusedFor C cache ctx (.badRequest "actor_token is required") .invalidActor
  | unknownClient {t : TokenData} {raw : String} (hsubject : ctx.subjectToken = some t)
    (hactor : ctx.actorToken.filter (· ≠ "") = some raw)
    (h : property scriptPrototype clientPolicy ctx.clientId = .missing) :
    RefusedFor C cache ctx (.badRequestWithCode "invalid_client"
      ("client " ++ ctx.clientId ++ " is not configured for token exchange")) .invalidClient
  | inheritedClient {t : TokenData} {raw : String} {e : ProcedureError}
    (hsubject : ctx.subjectToken = some t)
    (hactor : ctx.actorToken.filter (· ≠ "") = some raw)
    (h : property scriptPrototype clientPolicy ctx.clientId = .inherited)
    (he : findAudience ctx.clientId none ctx.requestedAudiences = .error e) :
    RefusedFor C cache ctx e .invalidClient
  | audienceCount {t : TokenData} {raw : String} {policy : ClientPolicy}
    (h : Identified ctx t raw policy) (hcount : (setToArray ctx.requestedAudiences).length ≠ 1) :
    RefusedFor C cache ctx (.badRequest ("exactly one audience is required, got " ++
      toString (setToArray ctx.requestedAudiences).length)) .exchangeFailed
  | audience {t : TokenData} {raw audience : String} {policy : ClientPolicy}
    (h : Identified ctx t raw policy) (hone : setToArray ctx.requestedAudiences = [audience])
    (hno : policy.audience audience = none) :
    RefusedFor C cache ctx
      (.badRequest ("audience " ++ audience ++ " not allowed for client " ++ ctx.clientId))
      .exchangeFailed
  | noScope {t : TokenData} {raw audience : String} {policy : ClientPolicy}
    {audPolicy : AudiencePolicy} (h : Addressed ctx t raw policy audience audPolicy)
    (hnone : ∀ s ∈ requestedOrSubject t ctx.requestedScopes, s ∈ t.subjectScopes →
      ∃ allowed, audPolicy.scopes = some allowed ∧ s ∉ allowed) :
    RefusedFor C cache ctx (.badRequestWithCode "invalid_scope"
      ("no scope intersects subject + policy for client " ++ ctx.clientId ++ " / audience " ++
        audience)) .invalidScope
  | noScopeList {t : TokenData} {raw audience s : String} {policy : ClientPolicy}
    {audPolicy : AudiencePolicy} (h : Addressed ctx t raw policy audience audPolicy)
    (hlist : audPolicy.scopes = none) (hs : s ∈ requestedOrSubject t ctx.requestedScopes)
    (hsubject : s ∈ t.subjectScopes) :
    RefusedFor C cache ctx (.engine "TypeError: indexOf is undefined") .exchangeFailed
  | noRole {t : TokenData} {raw audience : String} {policy : ClientPolicy}
    {audPolicy : AudiencePolicy} {allowed : List String}
    (h : Addressed ctx t raw policy audience audPolicy) (hscopes : audPolicy.scopes = some allowed)
    (hops : "ops:write" ∈ requestedOrSubject t ctx.requestedScopes)
    (hallowed : "ops:write" ∈ allowed) (hrole : t.hasWriteRole = false) :
    RefusedFor C cache ctx (.forbidden noWriteRole) .accessDenied
  | header {r : NarrowedRequest} {e : ProcedureError} (h : narrowRequest ctx = .ok r)
    (hheader : jwtHeaderKid C.jose4j r.actorRaw = .error e) : RefusedFor C cache ctx e .invalidActor
  | keys {r : NarrowedRequest} {kid : Option String} {e : ProcedureError}
    (h : narrowRequest ctx = .ok r) (hheader : jwtHeaderKid C.jose4j r.actorRaw = .ok kid)
    (hkeys : (getResolver C.jose4j cache ctx.env kid).2 = .error e) :
    RefusedFor C cache ctx e .exchangeFailed
  | svid {r : NarrowedRequest} {kid : Option String} {keys : List JsonWebKey}
    (h : narrowRequest ctx = .ok r) (hheader : jwtHeaderKid C.jose4j r.actorRaw = .ok kid)
    (hkeys : (getResolver C.jose4j cache ctx.env kid).2 = .ok keys)
    (hclaims : C.jose4j.processToClaims keys expectedActorAud 30 ctx.env.now r.actorRaw = none) :
    RefusedFor C cache ctx
      (.badRequest "actor_token is not a valid SPIFFE JWT-SVID for this token endpoint")
      .invalidActor
  | actor {r : NarrowedRequest} {actor : String} (h : narrowRequest ctx = .ok r)
    (hactor : presentedActor C cache ctx = some actor) (hne : actor ≠ r.policy.allowedActor) :
    RefusedFor C cache ctx (.badRequest
      ("actor SPIFFE ID " ++ actor ++ " is not on the allow-list for client " ++ ctx.clientId))
      .invalidActor
  | mayAct {r : NarrowedRequest} {actor expectedActor : String} (h : narrowRequest ctx = .ok r)
    (hactor : presentedActor C cache ctx = some actor)
    (hmayAct : mayActSub r.subjectToken.mayAct = some expectedActor) (hne : expectedActor ≠ actor) :
    RefusedFor C cache ctx (.badRequest
      ("actor " ++ actor ++ " is not authorized by the subject token may_act (" ++
        expectedActor ++ ")"))
      .invalidActor

/-- A request that passes steps 1 to 3 and is refused by Curity's own checks. -/
def RefusedByCurity (C : Server) (ctx : ExchangeContext) (e : ProcedureError) : Prop :=
  ∃ r, narrowRequest ctx = .ok r ∧
    C.getInitializedContext ctx.clientId r.subjectToken r.audience r.narrowed ctx.fresh = .error e

/-- A request whose refusal, if it is refused, the client can tell: its client is configured, an
audience that is not allowed does not look like another refusal, and the header of its actor
token can be read. -/
structure Tellable (C : Server) (ctx : ExchangeContext) : Prop where
  client : ∀ t raw, ctx.subjectToken = some t → ctx.actorToken.filter (· ≠ "") = some raw →
    ∃ policy, clientPolicy.lookup ctx.clientId = some policy
  audience : ∀ t raw policy audience, Identified ctx t raw policy →
    setToArray ctx.requestedAudiences = [audience] → policy.audience audience = none →
    mentions audience "actor" = false ∧ mentions audience "invalid_scope" = false
  header : ∀ r, narrowRequest ctx = .ok r → ∃ kid, jwtHeaderKid C.jose4j r.actorRaw = .ok kid

section Gates

variable {C : Server} {cache : JwksCache} {ctx : ExchangeContext} {e : ProcedureError}

private theorem narrowScopes_error {clientId audience : String} {t : TokenData}
    {audPolicy : AudiencePolicy} {requested : List String}
    (h : narrowScopes clientId audience t audPolicy requested = .error e) :
    (e = .badRequestWithCode "invalid_scope" ("no scope intersects subject + policy for client " ++
        clientId ++ " / audience " ++ audience) ∧
      ∀ s ∈ requested, s ∈ t.subjectScopes → ∃ allowed, audPolicy.scopes = some allowed ∧
        s ∉ allowed) ∨
    (e = .engine "TypeError: indexOf is undefined" ∧ audPolicy.scopes = none ∧
      ∃ s ∈ requested, s ∈ t.subjectScopes) := by
  unfold narrowScopes at h
  split at h
  · next hscopes =>
    split at h
    · next hany =>
      cases h
      obtain ⟨s, hs, hsubject⟩ := List.any_eq_true.mp hany
      exact Or.inr ⟨rfl, hscopes, s, hs, List.contains_iff_mem.mp hsubject⟩
    · next hany =>
      cases h
      refine Or.inl ⟨rfl, fun s hs hsubject ↦ absurd ?_ hany⟩
      exact List.any_eq_true.mpr ⟨s, hs, List.contains_iff_mem.mpr hsubject⟩
  · next allowed hscopes =>
    split at h
    · next hnil =>
      cases h
      refine Or.inl ⟨rfl, fun s hs hsubject ↦ ⟨allowed, hscopes, fun hallowed ↦ ?_⟩⟩
      have hmem := List.filter_eq_nil_iff.mp hnil s hs
      simp [hsubject, hallowed] at hmem
    · cases h

private theorem checkWriteRole_error {t : TokenData} {requested allowed : List String}
    (h : checkWriteRole t requested allowed = .error e) :
    e = .forbidden noWriteRole ∧ "ops:write" ∈ requested ∧ "ops:write" ∈ allowed ∧
      t.hasWriteRole = false := by
  unfold checkWriteRole at h
  split at h
  · next hgate =>
    cases h
    simp only [Bool.and_eq_true, List.contains_iff_mem, List.mem_filter,
      Bool.not_eq_true'] at hgate
    exact ⟨rfl, hgate.1.1, hgate.1.2, hgate.2⟩
  · cases h

/-- The gates behind the client's: audience, scopes and role. -/
private theorem refusedFor_of_identified {t : TokenData} {raw : String} {policy : ClientPolicy}
    (hid : Identified ctx t raw policy)
    (h : (do
      let (audience, policy, audPolicy) ←
        findAudience ctx.clientId (some policy) ctx.requestedAudiences
      let requested := requestedOrSubject t ctx.requestedScopes
      let (allowed, narrowed) ← narrowScopes ctx.clientId audience t audPolicy requested
      checkWriteRole t requested allowed
      return (⟨t, raw, policy, audience, audPolicy, narrowed⟩ : NarrowedRequest)) = .error e) :
    ∃ code, RefusedFor C cache ctx e code := by
  unfold findAudience at h
  split at h
  · next audience hone =>
    cases hallowed : policy.audience audience with
    | none =>
      simp only [hallowed] at h
      cases h
      exact ⟨_, .audience hid hone hallowed⟩
    | some audPolicy =>
      have haddressed : Addressed ctx t raw policy audience audPolicy := ⟨hid, hone, hallowed⟩
      simp only [hallowed] at h
      change (narrowScopes ctx.clientId audience t audPolicy
        (requestedOrSubject t ctx.requestedScopes) >>= _) = _ at h
      cases hnarrow : narrowScopes ctx.clientId audience t audPolicy
          (requestedOrSubject t ctx.requestedScopes) with
      | error e' =>
        rw [hnarrow] at h
        cases h
        rcases narrowScopes_error hnarrow with ⟨rfl, hnone⟩ | ⟨rfl, hlist, s, hs, hsubject⟩
        · exact ⟨_, .noScope haddressed hnone⟩
        · exact ⟨_, .noScopeList haddressed hlist hs hsubject⟩
      | ok found =>
        obtain ⟨allowed, narrowed⟩ := found
        rw [hnarrow] at h
        change (checkWriteRole t (requestedOrSubject t ctx.requestedScopes) allowed >>= _) = _ at h
        cases hrole : checkWriteRole t (requestedOrSubject t ctx.requestedScopes) allowed with
        | error e' =>
          rw [hrole] at h
          cases h
          obtain ⟨rfl, hops, hmem, hnot⟩ := checkWriteRole_error hrole
          exact ⟨_, .noRole haddressed (narrowScopes_ok hnarrow).1 hops hmem hnot⟩
        | ok u =>
          rw [hrole] at h
          cases h
  · next hmany =>
    cases h
    refine ⟨_, .audienceCount hid fun hlength ↦ ?_⟩
    obtain ⟨audience, hone⟩ := List.length_eq_one_iff.mp hlength
    exact hmany audience hone

/-- Every refusal of steps 1 to 3 is at one of the gates. -/
private theorem refusedFor_of_narrowRequest (h : narrowRequest ctx = .error e) :
    ∃ code, RefusedFor C cache ctx e code := by
  unfold narrowRequest at h
  split at h
  · next t hsubject =>
    split at h
    · next raw hactor =>
      cases hproperty : property scriptPrototype clientPolicy ctx.clientId with
      | missing =>
        simp only [findPolicy, hproperty] at h
        cases h
        exact ⟨_, .unknownClient hsubject hactor hproperty⟩
      | inherited =>
        simp only [findPolicy, hproperty] at h
        change (findAudience ctx.clientId none ctx.requestedAudiences >>= _) = _ at h
        cases haudience : findAudience ctx.clientId none ctx.requestedAudiences with
        | error e' =>
          rw [haudience] at h
          cases h
          exact ⟨_, .inheritedClient hsubject hactor hproperty haudience⟩
        | ok found =>
          unfold findAudience at haudience
          split at haudience <;> cases haudience
      | own policy =>
        have hid : Identified ctx t raw policy :=
          ⟨hsubject, hactor, property_eq_own_iff.mp hproperty⟩
        simp only [findPolicy, hproperty] at h
        exact refusedFor_of_identified hid h
    · next hactor =>
      cases h
      exact ⟨_, .noActor hsubject (Option.eq_none_iff_forall_ne_some.mpr hactor)⟩
  · next hsubject =>
    cases h
    exact ⟨_, .noSubject (Option.eq_none_iff_forall_ne_some.mpr hsubject)⟩

/-- A refused actor token is refused for its header, for SPIRE's keys or as a whole. -/
private theorem refusedFor_of_verifySpiffeSvid {r : NarrowedRequest}
    (hnarrow : narrowRequest ctx = .ok r)
    (h : (verifySpiffeSvid C.jose4j cache ctx.env r.actorRaw).2 = .error e) :
    ∃ code, RefusedFor C cache ctx e code := by
  unfold verifySpiffeSvid at h
  split at h
  · next e' hheader =>
    cases h
    exact ⟨_, .header hnarrow hheader⟩
  · next kid hheader =>
    split at h
    · next cache' e' hresolver =>
      cases h
      exact ⟨_, .keys hnarrow hheader (by rw [hresolver])⟩
    · next cache' keys hresolver =>
      split at h
      · cases h
      · next hclaims =>
        cases h
        exact ⟨_, .svid hnarrow hheader (by rw [hresolver]) hclaims⟩

/-- A workload is refused for the client's policy or for the subject's `may_act`. -/
private theorem refusedFor_of_checkActor {r : NarrowedRequest} {actor : String}
    (hnarrow : narrowRequest ctx = .ok r) (hactor : presentedActor C cache ctx = some actor)
    (h : checkActor ctx.clientId r.policy r.subjectToken actor = .error e) :
    ∃ code, RefusedFor C cache ctx e code := by
  unfold checkActor at h
  split at h
  · next hne =>
    cases h
    exact ⟨_, .actor hnarrow hactor hne⟩
  · split at h
    · cases h
    · next expectedActor hmayAct =>
      split at h
      · next hne =>
        cases h
        exact ⟨_, .mayAct hnarrow hactor hmayAct hne⟩
      · cases h

/-- Every refusal of the procedure is Curity's own or at one of the gates. -/
theorem refusedByCurity_or_refusedFor (h : (result C cache ctx).2 = .error e) :
    RefusedByCurity C ctx e ∨ ∃ code, RefusedFor C cache ctx e code := by
  unfold result at h
  split at h
  · next e' hnarrow =>
    cases h
    exact Or.inr (refusedFor_of_narrowRequest hnarrow)
  · next r hnarrow =>
    split at h
    · next e' hinit =>
      cases h
      exact Or.inl ⟨r, hnarrow, hinit⟩
    · right
      have hraw : ctx.actorToken = some r.actorRaw := (narrowRequest_ok hnarrow).2.1
      split at h
      · next cache' e' hsvid =>
        cases h
        exact refusedFor_of_verifySpiffeSvid hnarrow (by rw [hsvid])
      · next cache' actor hsvid =>
        have hactor : presentedActor C cache ctx = some actor := by
          rw [presentedActor, hraw]
          simp only [hsvid, Except.toOption]
        split at h
        · next e' hcheck =>
          cases h
          exact refusedFor_of_checkActor hnarrow hactor hcheck
        · cases h

end Gates
section Told

/-- The code that the words of an `invalid_request` give it. -/
def wordsCode (description : String) : CurityAuthErrorCode :=
  if mentions description "actor" then .invalidActor
  else if mentions description "invalid_scope" then .invalidScope
  else .exchangeFailed

/-- The code that the client makes of a refusal of the procedure. -/
def told : ProcedureError → CurityAuthErrorCode
  | .badRequest description => wordsCode description
  | .badRequestWithCode code description => wordsCode (code ++ " " ++ description)
  | .forbidden _ => .accessDenied
  | _ => .exchangeFailed

/-- No refusal is told as a client that is not configured. -/
theorem told_ne_invalidClient (e : ProcedureError) : told e ≠ .invalidClient := by
  have hwords : ∀ description, wordsCode description ≠ .invalidClient := by
    intro description h
    unfold wordsCode at h
    split at h
    · cases h
    · split at h <;> cases h
  intro h
  cases e with
  | badRequest description => exact hwords description h
  | badRequestWithCode code description => exact hwords _ h
  | forbidden description => cases h
  | internalServer description => cases h
  | curity code description => cases h
  | engine message => cases h

/-- The client reads the response to a refusal of the procedure's own as told. -/
theorem readExchange_told {T : TokenEndpoint} {e : ProcedureError} (params : ExchangeTokenParams)
    (hown : ∀ code description, e ≠ .curity code description) :
    ∃ err, readExchange params (T.respond (.error e)) = .error (.curityAuth err) ∧
      err.code = told e := by
  cases e with
  | badRequest description =>
    exact ⟨_, readExchange_of_refuses (T.respond_badRequest description) (by decide),
      classify_invalidRequest _ _⟩
  | badRequestWithCode code description =>
    exact ⟨_, readExchange_of_refuses (T.respond_badRequestWithCode code description) (by decide),
      classify_invalidRequest _ _⟩
  | forbidden description =>
    exact ⟨_, readExchange_forbidden (T.respond_forbidden description), rfl⟩
  | internalServer description =>
    exact ⟨_, readExchange_of_refuses (T.respond_internalServer description) (by decide), rfl⟩
  | curity code description => exact absurd rfl (hown code description)
  | engine message =>
    obtain ⟨description, hrefuses⟩ := T.respond_engine message
    exact ⟨_, readExchange_of_refuses hrefuses (by decide), rfl⟩

end Told

section Words

/-- A digit has no other case. -/
private theorem toLower_of_isDigit {c : Char} (h : c.isDigit = true) : c.toLower = c := by
  have hle := (Char.isDigit_iff_toNat.mp h).2
  unfold Char.toLower
  split
  · next hupper =>
    have hge : 'A'.toNat ≤ c.toNat := UInt32.le_iff_toNat_le.mp hupper.1
    have hdigit : '9'.toNat < 'A'.toNat := by decide
    omega
  · rfl

/-- A number mentions nothing that starts with a letter. -/
private theorem mentions_toString (n : Nat) {first : Char} (hfirst : first.isDigit = false)
    (rest : List Char) : mentions (toString n) (String.ofList (first :: rest)) = false := by
  rw [Bool.eq_false_iff]
  intro h
  simp only [mentions, includes_iff, String.toList_ofList] at h
  have hmem : first ∈ (toString n).toList.map Char.toLower :=
    h.subset (List.mem_cons_self ..)
  obtain ⟨c, hc, rfl⟩ := List.mem_map.mp hmem
  have hdigits : (toString n).toList = Nat.toDigits 10 n := Nat.toList_repr
  rw [hdigits] at hc
  have hdigit := Nat.isDigit_of_mem_toDigits (by decide) (by decide) hc
  rw [toLower_of_isDigit hdigit, hdigit] at hfirst
  cases hfirst

private theorem wordsCode_actor {description : String} (h : mentions description "actor" = true) :
    wordsCode description = .invalidActor := by
  rw [wordsCode, if_pos h]

private theorem wordsCode_neither {description : String}
    (hactor : mentions description "actor" = false)
    (hscope : mentions description "invalid_scope" = false) :
    wordsCode description = .exchangeFailed := by
  rw [wordsCode, hactor, hscope]
  rfl

private theorem wordsCode_noSubject : wordsCode "subject_token is required" = .exchangeFailed :=
  wordsCode_neither ((mentions_ofList _ _).trans (by decide))
    ((mentions_ofList _ _).trans (by decide))

private theorem wordsCode_noActor : wordsCode "actor_token is required" = .invalidActor :=
  wordsCode_actor ((mentions_ofList _ _).trans (by decide))

private theorem wordsCode_audienceCount (n : Nat) :
    wordsCode ("exactly one audience is required, got " ++ toString n) = .exchangeFailed := by
  have hprose : "exactly one audience is required, got " =
      "exactly one audience is required, got" ++ " " := by decide
  rw [hprose]
  have hactor : mentions "exactly one audience is required, got" "actor" = false :=
    (mentions_ofList _ _).trans (by decide)
  have hscope : mentions "exactly one audience is required, got" "invalid_scope" = false :=
    (mentions_ofList _ _).trans (by decide)
  apply wordsCode_neither
  · rw [mentions_append (by decide), hactor, Bool.false_or]
    exact mentions_toString n (by decide) _
  · rw [mentions_append (by decide), hscope, Bool.false_or]
    exact mentions_toString n (by decide) _

/-- The words for an audience that is not allowed are its own. -/
private theorem mentions_notAllowed {audience clientId word : String} (hblank : ' ' ∉ word.toList)
    (hprose : mentions "audience" word = false ∧ mentions "not allowed for client" word = false)
    (hclient : mentions clientId word = false) :
    mentions ("audience " ++ audience ++ " not allowed for client " ++ clientId) word =
      mentions audience word := by
  have hbefore : "audience " = "audience" ++ " " := by decide
  have hafter : " not allowed for client " = " " ++ "not allowed for client" ++ " " := by
    decide
  have hassoc : "audience" ++ " " ++ audience ++ (" " ++ "not allowed for client" ++ " ") ++
      clientId = "audience" ++ " " ++ (audience ++ " " ++
        ("not allowed for client" ++ " " ++ clientId)) := by
    simp only [String.append_assoc]
  rw [hbefore, hafter, hassoc, mentions_append hblank, mentions_append hblank,
    mentions_append hblank, hprose.1, hprose.2, hclient]
  simp only [Bool.false_or, Bool.or_false]

private theorem wordsCode_audience {audience clientId : String} {policy : ClientPolicy}
    (h : clientPolicy.lookup clientId = some policy) :
    wordsCode ("audience " ++ audience ++ " not allowed for client " ++ clientId) =
        .exchangeFailed ↔
      mentions audience "actor" = false ∧ mentions audience "invalid_scope" = false := by
  obtain ⟨hactor, hscope⟩ := mentions_client h
  rw [wordsCode, mentions_notAllowed (by decide) ⟨(mentions_ofList _ _).trans (by decide),
      (mentions_ofList _ _).trans (by decide)⟩ hactor,
    mentions_notAllowed (by decide) ⟨(mentions_ofList _ _).trans (by decide),
      (mentions_ofList _ _).trans (by decide)⟩ hscope]
  cases mentions audience "actor" <;> cases mentions audience "invalid_scope" <;> simp

private theorem wordsCode_svid :
    wordsCode "actor_token is not a valid SPIFFE JWT-SVID for this token endpoint" =
      .invalidActor :=
  wordsCode_actor ((mentions_ofList _ _).trans (by decide))

/-- A description that starts with the actor is about the actor. -/
private theorem wordsCode_of_actor {rest : String} (description : String)
    (h : description = "actor" ++ " " ++ rest) : wordsCode description = .invalidActor := by
  have hactor : mentions "actor" "actor" = true := (mentions_ofList _ _).trans (by decide)
  apply wordsCode_actor
  rw [h, mentions_append (by decide), hactor, Bool.true_or]

end Words

section Agreement

variable {C : Server} {cache : JwksCache} {ctx : ExchangeContext} {e : ProcedureError}
  {code : CurityAuthErrorCode}

private theorem findAudience_none_error
    (h : findAudience ctx.clientId none ctx.requestedAudiences = .error e) :
    (∃ description, e = .badRequest description) ∨ ∃ message, e = .engine message := by
  unfold findAudience at h
  split at h
  · cases h
    exact Or.inr ⟨_, rfl⟩
  · cases h
    exact Or.inl ⟨_, rfl⟩

/-- A header that cannot be read fails in the engine. -/
theorem jwtHeaderKid_error {raw : String} (h : jwtHeaderKid C.jose4j raw = .error e) :
    ∃ message, e = .engine message := by
  unfold jwtHeaderKid at h
  split at h
  · split at h
    · cases h
      exact ⟨_, rfl⟩
    · cases h
      exact ⟨_, rfl⟩
    · split at h
      · split at h
        · cases h
        · cases h
          exact ⟨_, rfl⟩
      · cases h
  · cases h

private theorem getResolver_error {kid : Option String}
    (h : (getResolver C.jose4j cache ctx.env kid).2 = .error e) :
    (∃ description, e = .internalServer description) ∨ ∃ message, e = .engine message := by
  have hrefresh : (refreshResolver C.jose4j cache ctx.env).2 = .error e →
      (∃ description, e = .internalServer description) ∨ ∃ message, e = .engine message := by
    intro h
    unfold refreshResolver at h
    split at h
    · cases h
      exact Or.inl ⟨_, rfl⟩
    · split at h
      · cases h
        exact Or.inr ⟨_, rfl⟩
      · cases h
  unfold getResolver at h
  split at h
  · split at h
    · cases h
    · split at h
      · cases h
      · exact hrefresh h
  · exact hrefresh h

/-- No refusal at a gate is one of Curity's own. -/
theorem RefusedFor.ne_curity (h : RefusedFor C cache ctx e code) (name description : String) :
    e ≠ .curity name description := by
  rintro rfl
  cases h with
  | inheritedClient _ _ _ he =>
    rcases findAudience_none_error he with ⟨_, hbad⟩ | ⟨_, hengine⟩
    · cases hbad
    · cases hengine
  | header _ hheader =>
    obtain ⟨_, hengine⟩ := jwtHeaderKid_error hheader
    cases hengine
  | keys _ _ hkeys =>
    rcases getResolver_error hkeys with ⟨_, hserver⟩ | ⟨_, hengine⟩
    · cases hserver
    · cases hengine

/-- A request that passes steps 1 to 3 can be told when the header can be read. -/
private theorem tellable_of_narrowRequest {r : NarrowedRequest} {kid : Option String}
    (h : narrowRequest ctx = .ok r) (hheader : jwtHeaderKid C.jose4j r.actorRaw = .ok kid) :
    Tellable C ctx := by
  obtain ⟨-, -, hpolicy, hone, hallowed, -⟩ := narrowRequest_ok h
  have hlookup := property_eq_own_iff.mp hpolicy
  constructor
  · intro t raw _ _
    exact ⟨_, hlookup⟩
  · intro t raw policy audience hid hone' hno
    have hsame : some policy = some r.policy := by
      rw [← hid.client, hlookup]
    rw [hone, List.singleton_inj] at hone'
    rw [Option.some.inj hsame, ← hone', hallowed] at hno
    cases hno
  · intro r' h'
    rw [h, Except.ok.injEq] at h'
    rw [← h']
    exact ⟨kid, hheader⟩

/-- A request of a configured client whose audience is not in doubt can be told when it does not
pass steps 1 to 3. -/
private theorem tellable_of_not_narrowed {t : TokenData} {raw : String} {policy : ClientPolicy}
    (h : Identified ctx t raw policy)
    (haudience : ∀ audience, setToArray ctx.requestedAudiences = [audience] →
      policy.audience audience = none →
      mentions audience "actor" = false ∧ mentions audience "invalid_scope" = false)
    (hnot : ∀ r, narrowRequest ctx ≠ .ok r) : Tellable C ctx := by
  constructor
  · intro t' raw' _ _
    exact ⟨policy, h.client⟩
  · intro t' raw' policy' audience hid hone hno
    have hsame : some policy' = some policy := by
      rw [← hid.client, h.client]
    rw [Option.some.inj hsame] at hno
    exact haudience audience hone hno
  · intro r hr
    exact absurd hr (hnot r)

/-- The header of a verified actor token can be read. -/
private theorem header_of_presentedActor {r : NarrowedRequest} {actor : String}
    (h : narrowRequest ctx = .ok r) (hactor : presentedActor C cache ctx = some actor) :
    ∃ kid, jwtHeaderKid C.jose4j r.actorRaw = .ok kid := by
  have hraw : ctx.actorToken = some r.actorRaw := (narrowRequest_ok h).2.1
  simp only [presentedActor, hraw] at hactor
  cases hheader : jwtHeaderKid C.jose4j r.actorRaw with
  | ok kid => exact ⟨kid, rfl⟩
  | error e =>
    simp only [verifySpiffeSvid, hheader] at hactor
    cases hactor

/-- What passes steps 1 to 3 is what is addressed. -/
private theorem Addressed.of_narrowRequest {t : TokenData} {raw audience : String}
    {policy : ClientPolicy} {audPolicy : AudiencePolicy} {r : NarrowedRequest}
    (h : Addressed ctx t raw policy audience audPolicy) (hr : narrowRequest ctx = .ok r) :
    r.subjectToken = t ∧ r.audPolicy = audPolicy := by
  obtain ⟨hsubject, -, hpolicy, hone, hallowed, -⟩ := narrowRequest_ok hr
  have hpolicies : some policy = some r.policy := by
    rw [← h.client, property_eq_own_iff.mp hpolicy]
  rw [h.one, List.singleton_inj] at hone
  rw [← hone, ← Option.some.inj hpolicies, h.allowed, Option.some.injEq] at hallowed
  rw [h.subject, Option.some.injEq] at hsubject
  exact ⟨hsubject.symm, hallowed.symm⟩

/-- An addressed request that does not pass steps 1 to 3 can be told. -/
private theorem Addressed.tellable {t : TokenData} {raw audience : String}
    {policy : ClientPolicy} {audPolicy : AudiencePolicy}
    (h : Addressed ctx t raw policy audience audPolicy)
    (hnot : ∀ r, narrowRequest ctx ≠ .ok r) : Tellable C ctx := by
  apply tellable_of_not_narrowed h.toIdentified _ hnot
  intro audience' hone hno
  rw [h.one, List.singleton_inj] at hone
  rw [← hone, h.allowed] at hno
  cases hno

/-- Without a subject token there is nothing to mistake. -/
private theorem tellable_of_noSubject (h : ctx.subjectToken = none) : Tellable C ctx := by
  constructor
  · intro t raw ht
    rw [h] at ht
    cases ht
  · intro t raw policy audience hid
    have ht := hid.subject
    rw [h] at ht
    cases ht
  · intro r hr
    have ht := (narrowRequest_ok hr).1
    rw [h] at ht
    cases ht

/-- Nor is there without an actor token. -/
private theorem tellable_of_noActor {t : TokenData} (hsubject : ctx.subjectToken = some t)
    (h : ctx.actorToken.filter (· ≠ "") = none) : Tellable C ctx := by
  constructor
  · intro t raw _ hraw
    rw [h] at hraw
    cases hraw
  · intro t raw policy audience hid
    have hraw := hid.actor
    rw [h] at hraw
    cases hraw
  · intro r hr
    unfold narrowRequest at hr
    simp only [hsubject, h] at hr
    cases hr

/-- A client without a policy of its own is never told so. -/
private theorem not_tellable_of_client {t : TokenData} {raw : String}
    (hsubject : ctx.subjectToken = some t) (hactor : ctx.actorToken.filter (· ≠ "") = some raw)
    (h : ∀ policy, property scriptPrototype clientPolicy ctx.clientId ≠ .own policy) :
    ¬ Tellable C ctx := by
  intro hcan
  obtain ⟨policy, hpolicy⟩ := hcan.client t raw hsubject hactor
  exact h policy (property_eq_own_iff.mpr hpolicy)

/-- Nothing is mistaken where there is not one audience. -/
private theorem tellable_of_audienceCount {t : TokenData} {raw : String} {policy : ClientPolicy}
    (hid : Identified ctx t raw policy) (hcount : (setToArray ctx.requestedAudiences).length ≠ 1) :
    Tellable C ctx := by
  apply tellable_of_not_narrowed hid
  · intro audience hone
    rw [hone] at hcount
    exact absurd rfl hcount
  · intro r hr
    obtain ⟨-, -, -, hone, -⟩ := narrowRequest_ok hr
    rw [hone] at hcount
    exact hcount rfl

/-- An audience that is not allowed is told by its words. -/
private theorem tellable_audience_iff {t : TokenData} {raw audience : String}
    {policy : ClientPolicy} (hid : Identified ctx t raw policy)
    (hone : setToArray ctx.requestedAudiences = [audience])
    (hno : policy.audience audience = none) :
    mentions audience "actor" = false ∧ mentions audience "invalid_scope" = false ↔
      Tellable C ctx := by
  have hnot : ∀ r, narrowRequest ctx ≠ .ok r := by
    intro r hr
    obtain ⟨-, -, hpolicy, hone', hallowed, -⟩ := narrowRequest_ok hr
    have hsame : some policy = some r.policy := by
      rw [← hid.client, property_eq_own_iff.mp hpolicy]
    rw [hone, List.singleton_inj] at hone'
    rw [← hone', ← Option.some.inj hsame, hno] at hallowed
    cases hallowed
  constructor
  · intro hwords
    apply tellable_of_not_narrowed hid _ hnot
    intro audience' hone' _
    rw [hone, List.singleton_inj] at hone'
    rw [← hone']
    exact hwords
  · intro hcan
    exact hcan.audience t raw policy audience hid hone hno

section Addressing

variable {t : TokenData} {raw audience : String} {policy : ClientPolicy}
  {audPolicy : AudiencePolicy}

/-- A request without a scope that is left can be told. -/
private theorem Addressed.tellable_of_noScope
    (h : Addressed ctx t raw policy audience audPolicy)
    (hnone : ∀ s ∈ requestedOrSubject t ctx.requestedScopes, s ∈ t.subjectScopes →
      ∃ allowed, audPolicy.scopes = some allowed ∧ s ∉ allowed) : Tellable C ctx := by
  apply h.tellable
  intro r hr
  obtain ⟨-, -, -, -, -, hne, allowed, hallowed, hmem, -⟩ := narrowRequest_ok hr
  obtain ⟨hsubject, haud⟩ := h.of_narrowRequest hr
  obtain ⟨s, hs⟩ := List.exists_mem_of_ne_nil _ hne
  rw [hmem, hsubject] at hs
  obtain ⟨allowed', hallowed', hnot⟩ := hnone s hs.1 hs.2.1
  rw [← haud, hallowed, Option.some.injEq] at hallowed'
  rw [← hallowed'] at hnot
  exact hnot hs.2.2

/-- So can one for an audience without a list of scopes. -/
private theorem Addressed.tellable_of_noScopeList
    (h : Addressed ctx t raw policy audience audPolicy) (hlist : audPolicy.scopes = none) :
    Tellable C ctx := by
  apply h.tellable
  intro r hr
  obtain ⟨-, -, -, -, -, -, allowed, hallowed, -⟩ := narrowRequest_ok hr
  rw [(h.of_narrowRequest hr).2, hlist] at hallowed
  cases hallowed

/-- So can one that lacks a role. -/
private theorem Addressed.tellable_of_noRole {allowed : List String}
    (h : Addressed ctx t raw policy audience audPolicy) (hscopes : audPolicy.scopes = some allowed)
    (hops : "ops:write" ∈ requestedOrSubject t ctx.requestedScopes)
    (hallowed : "ops:write" ∈ allowed) (hrole : t.hasWriteRole = false) : Tellable C ctx := by
  apply h.tellable
  intro r hr
  obtain ⟨-, -, -, -, -, -, allowed', hallowed', -, hwrite⟩ := narrowRequest_ok hr
  obtain ⟨hsubject, haud⟩ := h.of_narrowRequest hr
  rw [haud, hscopes, Option.some.injEq] at hallowed'
  rw [hsubject, ← hallowed', hrole] at hwrite
  cases hwrite hops hallowed

/-- The refusal of a request without a scope is told by its prefix. -/
private theorem Addressed.wordsCode_noScope (h : Addressed ctx t raw policy audience audPolicy) :
    told (.badRequestWithCode "invalid_scope" ("no scope intersects subject + policy for client " ++
      ctx.clientId ++ " / audience " ++ audience)) = .invalidScope := by
  show wordsCode _ = _
  obtain ⟨hactor, hscope⟩ := mentions_noScope (mentions_client h.client).1
    (mentions_audience h.client h.allowed)
  rw [wordsCode, hactor, hscope]
  rfl

end Addressing

/-- A header that cannot be read is told as no refusal in particular. -/
private theorem told_header_iff {r : NarrowedRequest} (hnarrow : narrowRequest ctx = .ok r)
    (hheader : jwtHeaderKid C.jose4j r.actorRaw = .error e) :
    told e = .invalidActor ↔ Tellable C ctx := by
  obtain ⟨message, rfl⟩ := jwtHeaderKid_error hheader
  apply iff_of_false
  · intro htold
    cases htold
  · intro hcan
    obtain ⟨kid, hkid⟩ := hcan.header _ hnarrow
    rw [hheader] at hkid
    cases hkid

/-- The client tells a refusal by the code that it calls for exactly when the request can be
told. -/
private theorem RefusedFor.told_eq_iff (h : RefusedFor C cache ctx e code) :
    told e = code ↔ Tellable C ctx := by
  cases h with
  | noSubject hsubject => exact iff_of_true wordsCode_noSubject (tellable_of_noSubject hsubject)
  | noActor hsubject hactor =>
    exact iff_of_true wordsCode_noActor (tellable_of_noActor hsubject hactor)
  | unknownClient hsubject hactor hmissing =>
    apply iff_of_false (told_ne_invalidClient _)
    apply not_tellable_of_client hsubject hactor
    intro policy hpolicy
    rw [hmissing] at hpolicy
    cases hpolicy
  | inheritedClient hsubject hactor hinherited _ =>
    apply iff_of_false (told_ne_invalidClient _)
    apply not_tellable_of_client hsubject hactor
    intro policy hpolicy
    rw [hinherited] at hpolicy
    cases hpolicy
  | audienceCount hid hcount =>
    exact iff_of_true (wordsCode_audienceCount _) (tellable_of_audienceCount hid hcount)
  | audience hid hone hno =>
    exact (wordsCode_audience hid.client).trans (tellable_audience_iff hid hone hno)
  | noScope haddressed hnone =>
    exact iff_of_true haddressed.wordsCode_noScope (haddressed.tellable_of_noScope hnone)
  | noScopeList haddressed hlist _ _ =>
    exact iff_of_true rfl (haddressed.tellable_of_noScopeList hlist)
  | noRole haddressed hscopes hops hallowed hrole =>
    exact iff_of_true rfl (haddressed.tellable_of_noRole hscopes hops hallowed hrole)
  | header hnarrow hheader => exact told_header_iff hnarrow hheader
  | keys hnarrow hheader hkeys =>
    apply iff_of_true _ (tellable_of_narrowRequest hnarrow hheader)
    rcases getResolver_error hkeys with ⟨description, rfl⟩ | ⟨message, rfl⟩ <;> rfl
  | svid hnarrow hheader _ _ =>
    exact iff_of_true wordsCode_svid (tellable_of_narrowRequest hnarrow hheader)
  | actor hnarrow hactor _ =>
    obtain ⟨kid, hheader⟩ := header_of_presentedActor hnarrow hactor
    apply iff_of_true _ (tellable_of_narrowRequest hnarrow hheader)
    apply wordsCode_of_actor
    have hprose : "actor SPIFFE ID " = "actor" ++ " " ++ "SPIFFE ID " := by decide
    rw [hprose, String.append_assoc, String.append_assoc, String.append_assoc]
  | mayAct hnarrow hactor _ _ =>
    obtain ⟨kid, hheader⟩ := header_of_presentedActor hnarrow hactor
    apply iff_of_true _ (tellable_of_narrowRequest hnarrow hheader)
    apply wordsCode_of_actor
    have hprose : "actor " = "actor" ++ " " := by decide
    rw [hprose, String.append_assoc, String.append_assoc, String.append_assoc]

/-- Every refusal is at a gate, or Curity's own; and the client's error has the code that the
gate calls for exactly when the request can be told. -/
theorem error_codes_agree_iff {T : TokenEndpoint} {params : ExchangeTokenParams}
    {nonce : Option String} {first second : Except Thrown TokenResponse}
    (hrefused : (result T.server cache ctx).2 = .error e)
    (hdelivered : TokenEndpoint.Delivered params nonce (T.respond (.error e)) first second) :
    (RefusedByCurity T.server ctx e ∨ ∃ code, RefusedFor T.server cache ctx e code) ∧
      ∀ code, RefusedFor T.server cache ctx e code →
        ∃ err, doExchange params nonce first second = .error (.curityAuth err) ∧
          (err.code = code ↔ Tellable T.server ctx) := by
  refine ⟨refusedByCurity_or_refusedFor hrefused, fun code hfor ↦ ?_⟩
  obtain ⟨err, hread, htold⟩ := readExchange_told (T := T) params hfor.ne_curity
  rw [doExchange_of_delivered hdelivered]
  refine ⟨err, hread, ?_⟩
  rw [htold]
  exact hfor.told_eq_iff

end Agreement

section Sample

/-- The context of a request of agent-copilot, or of another client, for one audience. -/
private def sampleContext (clientId audience : String) : ExchangeContext where
  subjectToken := some (authorizationCodeToken sampleLogin)
  actorToken := some "e30.copilot.sig"
  clientId := clientId
  requestedAudiences := .collection [audience]
  requestedScopes := .collection ["inspect:read"]
  env := ⟨0, 0, .response 200 "key"⟩
  fresh := ⟨"t1", 600⟩

private def sampleParams : ExchangeTokenParams :=
  ⟨"token", copilotClient, .privateKeyJwt "kid-1" "token", "e30.t0.sig", "e30.copilot.sig",
    "mcp-ops", "inspect:read", false⟩

private theorem sample_delivered (r : TokenResponse) :
    TokenEndpoint.Delivered sampleParams none r (.ok r) (.error noText) := by
  apply TokenEndpoint.Delivered.atOnce
  rintro ⟨hdpop, -⟩
  cases hdpop

/-- An audience that agent-copilot may not ask for is told as no refusal in particular. -/
theorem error_codes_agree_iff_sample :
    ∃ err, doExchange sampleParams none
        (.ok (sampleRespond (.error (.badRequest ("audience " ++ "mcp-ops" ++
          " not allowed for client " ++ copilotClient))))) (.error noText) =
        .error (.curityAuth err) ∧
      err.code = .exchangeFailed := by
  have hid : Identified (sampleContext copilotClient "mcp-ops") (authorizationCodeToken sampleLogin)
      "e30.copilot.sig" _ := ⟨rfl, rfl, rfl⟩
  have hno : ∀ r, narrowRequest (sampleContext copilotClient "mcp-ops") ≠ .ok r := by
    intro r hr
    cases hr
  obtain ⟨-, hall⟩ := @error_codes_agree_iff .initial (sampleContext copilotClient "mcp-ops") _
    (sampleEndpoint []) sampleParams none _ _ rfl (sample_delivered _)
  obtain ⟨err, herr, hiff⟩ := hall _ (.audience hid rfl rfl)
  refine ⟨err, herr, hiff.mpr (tellable_of_not_narrowed hid ?_ hno)⟩
  intro audience hone _
  rw [← List.singleton_inj.mp hone]
  exact ⟨(mentions_ofList _ _).trans (by decide), (mentions_ofList _ _).trans (by decide)⟩

/-- A client that is not configured is not told so. -/
theorem unknown_client_not_told :
    ¬ ∀ (T : TokenEndpoint) (cache : JwksCache) (ctx : ExchangeContext) (e : ProcedureError)
      (params : ExchangeTokenParams) (nonce : Option String)
      (first second : Except Thrown TokenResponse),
      (result T.server cache ctx).2 = .error e →
      TokenEndpoint.Delivered params nonce (T.respond (.error e)) first second →
      ∀ code, RefusedFor T.server cache ctx e code →
        ∃ err, doExchange params nonce first second = .error (.curityAuth err) ∧
          err.code = code := by
  intro h
  have hfor : RefusedFor sampleServer .initial (sampleContext "https://ghost.example" "mcp-ops")
      (.badRequestWithCode "invalid_client"
        ("client " ++ (sampleContext "https://ghost.example" "mcp-ops").clientId ++
          " is not configured for token exchange"))
      .invalidClient := .unknownClient rfl rfl rfl
  obtain ⟨err, herr, hcode⟩ := h (sampleEndpoint []) .initial
    (sampleContext "https://ghost.example" "mcp-ops") _ sampleParams none _ _ rfl
    (sample_delivered _) _ hfor
  obtain ⟨err', hread, htold⟩ :=
    readExchange_told (T := sampleEndpoint []) sampleParams hfor.ne_curity
  rw [doExchange_of_delivered (sample_delivered _), hread, Except.error.injEq,
    Thrown.curityAuth.injEq] at herr
  rw [herr] at htold
  exact told_ne_invalidClient _ (htold.symm.trans hcode)

end Sample
end AgentsAuth.Curity
