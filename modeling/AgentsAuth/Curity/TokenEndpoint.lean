import AgentsAuth.AuthCurity.Exchange
import AgentsAuth.Curity.Minting

/-!
# The token endpoint

When the token-exchange procedure refuses a request and when it grants one, and which error
code the client in `packages/auth-curity/src/exchange.ts` makes of it. How Curity writes an
exception of the procedure on the wire is what the comments of both files say; it is a
parameter here.
-/

namespace AgentsAuth.Curity

open AgentsAuth.AuthCurity AgentsAuth.Base AgentsAuth.Lib

/-- A response is an OAuth error of this name with this description. -/
structure Refuses (r : TokenResponse) (error description : String) : Prop where
  notOk : r.ok = false
  error : r.member "error" = some (.str error)
  description : r.member "error_description" = some (.str description)

/-- Curity in front of the procedure. -/
structure TokenEndpoint where
  server : Server
  jose : Jose
  /-- The data of a subject token that Curity recognises. -/
  presented : String → Option TokenData
  respond : Except ProcedureError ExchangeResponse → TokenResponse
  respond_badRequest : ∀ description,
    Refuses (respond (.error (.badRequest description))) "invalid_request" description
  /-- A code that is not Curity's is prefixed to the description. -/
  respond_badRequestWithCode : ∀ code description,
    Refuses (respond (.error (.badRequestWithCode code description))) "invalid_request"
      (code ++ " " ++ description)
  respond_error : ∀ e, (respond (.error e)).ok = false
  respond_forbidden : ∀ description,
    Refuses (respond (.error (.forbidden description))) "access_denied" description
  respond_internalServer : ∀ description,
    Refuses (respond (.error (.internalServer description))) "server_error" description
  respond_engine : ∀ message, ∃ description,
    Refuses (respond (.error (.engine message))) "server_error" description
  respond_ok : ∀ response, (respond (.ok response)).ok = true ∧
    (respond (.ok response)).member "access_token" =
      some (.str (jose.compact response.accessToken))

namespace TokenEndpoint

/-- The context in which the procedure serves a request with these parameters. -/
def context (T : TokenEndpoint) (params : ExchangeTokenParams) (env : Surroundings)
    (fresh : Fresh) : ExchangeContext where
  subjectToken := T.presented params.subjectToken
  actorToken := some params.actorToken
  clientId := params.clientId
  requestedAudiences := .collection [params.audience]
  requestedScopes := .collection (words params.scope)
  env := env
  fresh := fresh

/-- Curity and `jose` read the compact form of a token as that token. -/
structure Recognises (T : TokenEndpoint) (t : TokenData) : Prop where
  presented : T.presented (T.jose.compact t) = some (presentToken T.server t)
  verified : T.jose.SoundFor t

/-- The response that the client reads in the end, after a DPoP nonce challenge or at once. -/
inductive Delivered (params : ExchangeTokenParams) (nonce : Option String)
    (r : TokenResponse) : Except Thrown TokenResponse →
      Except Thrown TokenResponse → Prop
  | atOnce (second : Except Thrown TokenResponse)
    (h : ¬ (params.dpop ∧ nonce.any (· ≠ "") ∧ r.status = 400 ∧
      Json.string? (r.member "error") = some "use_dpop_nonce")) :
      Delivered params nonce r (.ok r) second
  | challenged (challenge : TokenResponse)
    (h : params.dpop ∧ nonce.any (· ≠ "") ∧ challenge.status = 400 ∧
      Json.string? (challenge.member "error") = some "use_dpop_nonce") :
    Delivered params nonce r (.ok challenge) (.ok r)

/-- The answer to an exchange by a workload whose SVID verifies: the procedure runs on the
request, its response arrives, and a token it issues is recognised from then on. -/
def Answers (T : TokenEndpoint) (workload : String) (params : ExchangeTokenParams)
    (answer : Except Thrown ExchangeTokenResult) : Prop :=
  params.actorToken ≠ "" ∧ ∃ cache env fresh nonce first second,
    presentedActor T.server cache (T.context params env fresh) = some workload ∧
    Delivered params nonce (T.respond (result T.server cache (T.context params env fresh)).2)
      first second ∧
    (∀ response, (result T.server cache (T.context params env fresh)).2 = .ok response →
      T.Recognises response.accessToken) ∧
    answer = doExchange params nonce first second

end TokenEndpoint

/-- A request along an edge of the policy for a subject token. -/
structure Presents (ctx : ExchangeContext) (t : TokenData) (e : Edge) : Prop where
  edge : e ∈ policyEdges
  subject : ctx.subjectToken = some t
  actor : ∃ raw, ctx.actorToken = some raw ∧ raw ≠ ""
  client : ctx.clientId = e.clientId
  audience : setToArray ctx.requestedAudiences = [e.audience]

/-- The description of `invalid_scope`: `token-exchange.js:371–378`. -/
def noScope (e : Edge) : String :=
  "no scope intersects subject + policy for client " ++ e.clientId ++ " / audience " ++ e.audience

/-- The description of `access_denied`: `token-exchange.js:407`. -/
def noWriteRole : String := "user lacks a write role ('sre' or 'oncall') for ops:write"

/-- A scope that is requested, the subject's and the edge's. -/
def Shares (requested : Items) (t : TokenData) (e : Edge) : Prop :=
  ∃ s ∈ requestedOrSubject t requested, s ∈ t.subjectScopes ∧ s ∈ e.scopes

/-- Presenting a token keeps its roles. -/
theorem hasWriteRole_presentToken (C : Server) (t : TokenData) :
    (presentToken C t).hasWriteRole = t.hasWriteRole := by
  simp only [TokenData.hasWriteRole, presentToken, C.claimToArray_presentRoles]

section Outcome

variable {ctx : ExchangeContext} {t : TokenData} {e : Edge}

/-- The scopes that a request along the edge narrows to. -/
private def shared (ctx : ExchangeContext) (t : TokenData) (e : Edge) : List String :=
  (requestedOrSubject t ctx.requestedScopes).filter fun s ↦
    t.subjectScopes.contains s && e.scopes.contains s

private theorem shared_eq_nil_iff : shared ctx t e = [] ↔ ¬ Shares ctx.requestedScopes t e := by
  simp [shared, Shares, List.filter_eq_nil_iff]

private theorem narrowScopes_eq {audPolicy : AudiencePolicy}
    (hscopes : audPolicy.scopes = some e.scopes) :
    narrowScopes e.clientId e.audience t audPolicy (requestedOrSubject t ctx.requestedScopes) =
      if shared ctx t e = [] then failWithCode "invalid_scope" (noScope e)
      else .ok (e.scopes, shared ctx t e) := by
  unfold narrowScopes
  simp only [hscopes]
  split
  · next hnone =>
    have hnil : shared ctx t e = [] := hnone
    rw [if_pos hnil]
    rfl
  · next hsome =>
    have hne : shared ctx t e ≠ [] := hsome
    rw [if_neg hne]
    rfl

/-- Steps 1 and 2 pass, and step 3 decides on the scopes and the roles. -/
private theorem narrowRequest_eq (h : Presents ctx t e) :
    ∃ policy audPolicy raw, policy.allowedActor = e.actor ∧
      narrowRequest ctx =
        if shared ctx t e = [] then failWithCode "invalid_scope" (noScope e)
        else (checkWriteRole t (requestedOrSubject t ctx.requestedScopes) e.scopes).map fun _ ↦
          ⟨t, raw, policy, e.audience, audPolicy, shared ctx t e⟩ := by
  obtain ⟨policy, audPolicy, hpolicy, haudience, hactor, hscopes, -⟩ := exists_policy h.edge
  obtain ⟨raw, hraw, hne⟩ := h.actor
  refine ⟨policy, audPolicy, raw, hactor, ?_⟩
  have hfilter : (some raw).filter (· ≠ "") = some raw := by simp [hne]
  have hfound : findPolicy ctx.clientId = .ok (some policy) := by
    rw [h.client, findPolicy, hpolicy]
  have haud : findAudience ctx.clientId (some policy) ctx.requestedAudiences =
      .ok (e.audience, policy, audPolicy) := by
    simp only [findAudience, h.audience, haudience]
  unfold narrowRequest
  simp only [h.subject, hraw, hfilter, hfound]
  change (findAudience ctx.clientId (some policy) ctx.requestedAudiences >>= _) = _
  rw [haud, h.client]
  change (narrowScopes e.clientId e.audience t audPolicy
    (requestedOrSubject t ctx.requestedScopes) >>= _) = _
  rw [narrowScopes_eq hscopes]
  split
  · rfl
  · change (checkWriteRole t (requestedOrSubject t ctx.requestedScopes) e.scopes >>= _) = _
    cases checkWriteRole t (requestedOrSubject t ctx.requestedScopes) e.scopes <;> rfl

/-- Without a common scope the request is refused, whatever the roles. -/
theorem narrowRequest_of_not_shares (h : Presents ctx t e) (hs : ¬ Shares ctx.requestedScopes t e) :
    narrowRequest ctx = failWithCode "invalid_scope" (noScope e) := by
  obtain ⟨policy, audPolicy, raw, -, heq⟩ := narrowRequest_eq h
  rw [heq, if_pos (shared_eq_nil_iff.mpr hs)]

/-- A common scope and a passed role gate pass steps 1 to 3. -/
theorem narrowRequest_of_gate (h : Presents ctx t e) (hs : Shares ctx.requestedScopes t e)
    (hgate : checkWriteRole t (requestedOrSubject t ctx.requestedScopes) e.scopes = .ok ()) :
    ∃ r, narrowRequest ctx = .ok r ∧ r.subjectToken = t ∧ r.audience = e.audience ∧
      r.policy.allowedActor = e.actor ∧ ∀ s ∈ r.narrowed, s ∈ t.subjectScopes := by
  obtain ⟨policy, audPolicy, raw, hactor, heq⟩ := narrowRequest_eq h
  have hne : shared ctx t e ≠ [] := fun hnil ↦ shared_eq_nil_iff.mp hnil hs
  rw [heq, if_neg hne, hgate]
  refine ⟨_, rfl, rfl, rfl, hactor, fun s hmem ↦ ?_⟩
  simp only [shared, List.mem_filter, Bool.and_eq_true] at hmem
  exact List.contains_iff_mem.mp hmem.2.1

/-- A refusal in steps 1 to 3 is the result of the procedure. -/
theorem result_of_refusal (C : Server) (cache : JwksCache) {error : ProcedureError}
    (h : narrowRequest ctx = .error error) : (result C cache ctx).2 = .error error := by
  unfold result
  simp only [h]

/-- A request that passes steps 1 to 3 is granted to its workload when Curity agrees. -/
theorem result_of_narrowRequest {C : Server} {cache : JwksCache} {r : NarrowedRequest}
    {d : TokenData} (h : narrowRequest ctx = .ok r)
    (hinit : C.getInitializedContext ctx.clientId r.subjectToken r.audience r.narrowed ctx.fresh =
      .ok d)
    (hactor : presentedActor C cache ctx = some r.policy.allowedActor)
    (hmayAct : ∀ expected ∈ mayActSub r.subjectToken.mayAct, expected = r.policy.allowedActor) :
    ∃ response, (result C cache ctx).2 = .ok response := by
  have hraw : ctx.actorToken = some r.actorRaw := (narrowRequest_ok h).2.1
  have hcheck : checkActor ctx.clientId r.policy r.subjectToken r.policy.allowedActor = .ok () := by
    unfold checkActor
    rw [if_neg (not_not_intro rfl)]
    split
    · rfl
    · next expected hexpected => rw [if_neg (not_not_intro (hmayAct expected hexpected))]
  simp only [presentedActor, hraw] at hactor
  unfold result
  simp only [h, hinit]
  split
  · next cache' error hsvid =>
    rw [hsvid] at hactor
    cases hactor
  · next cache' actor hsvid =>
    rw [hsvid] at hactor
    cases hactor
    rw [hcheck]
    exact ⟨_, rfl⟩

end Outcome

section Reading

variable {params : ExchangeTokenParams} {r : TokenResponse}

/-- Whatever nonces are exchanged, the client reads the response delivered in the end. -/
theorem doExchange_of_delivered {nonce : Option String}
    {first second : Except Thrown TokenResponse}
    (h : TokenEndpoint.Delivered params nonce r first second) :
    doExchange params nonce first second = readExchange params r := by
  cases h with
  | atOnce second h =>
    change (if _ then _ else _) = _
    rw [if_neg h]
  | challenged challenge h =>
    change (if _ then _ else _) = _
    rw [if_pos h]
    rfl

/-- No client of the policy looks like a refusal. -/
theorem mentions_client {clientId : String} {policy : ClientPolicy}
    (h : clientPolicy.lookup clientId = some policy) :
    mentions clientId "actor" = false ∧ mentions clientId "invalid_scope" = false := by
  have hmem : clientId ∈ clientPolicy.map Prod.fst := by
    obtain ⟨before, after, heq, -⟩ := List.lookup_eq_some_iff.mp h
    rw [heq, List.map_append]
    exact List.mem_append_right _ (List.mem_cons_self ..)
  simp only [clientPolicy, List.map_cons, List.map_nil, List.mem_cons, List.not_mem_nil,
    or_false] at hmem
  rcases hmem with rfl | rfl | rfl | rfl | rfl <;>
    exact ⟨(mentions_ofList _ _).trans (by decide),
      (mentions_ofList _ _).trans (by decide)⟩

/-- An audience that a client finds is spelled out for some client, or inherited. -/
private theorem mem_of_audience {clientId audience : String} {policy : ClientPolicy}
    {audPolicy : AudiencePolicy} (hpolicy : clientPolicy.lookup clientId = some policy)
    (h : policy.audience audience = some audPolicy) :
    audience ∈ (clientPolicy.flatMap fun c ↦ c.2.perAudience.map Prod.fst) ++ scriptPrototype := by
  rw [List.mem_append]
  rw [ClientPolicy.audience] at h
  split at h
  · next found hfound =>
    left
    obtain ⟨before, after, heq, -⟩ := List.lookup_eq_some_iff.mp hpolicy
    rw [List.mem_flatMap]
    refine ⟨(clientId, policy), ?_, List.mem_map.mpr ⟨_, mem_of_property_eq_own hfound, rfl⟩⟩
    rw [heq]
    exact List.mem_append_right _ (List.mem_cons_self ..)
  · next hinherited =>
    right
    rw [property] at hinherited
    split at hinherited
    · cases hinherited
    · split at hinherited
      · next hmem => exact hmem
      · cases hinherited
  · cases h

/-- No audience that a client finds looks like a refusal for the actor. -/
theorem mentions_audience {clientId audience : String} {policy : ClientPolicy}
    {audPolicy : AudiencePolicy} (hpolicy : clientPolicy.lookup clientId = some policy)
    (h : policy.audience audience = some audPolicy) : mentions audience "actor" = false := by
  have hmem := mem_of_audience hpolicy h
  simp only [clientPolicy, scriptPrototype, List.flatMap_cons, List.flatMap_nil, List.map_cons,
    List.map_nil, List.cons_append, List.nil_append, List.append_nil, List.mem_cons,
    List.not_mem_nil, or_false] at hmem
  rcases hmem with rfl | rfl | rfl | rfl | rfl | rfl | rfl | rfl | rfl | rfl | rfl | rfl | rfl |
    rfl | rfl | rfl | rfl <;>
    exact (mentions_ofList _ _).trans (by decide)

/-- The description of `invalid_scope` mentions its code, and not the actor. -/
theorem mentions_noScope {clientId audience : String} (hclient : mentions clientId "actor" = false)
    (haudience : mentions audience "actor" = false) :
    mentions ("invalid_scope" ++ " " ++ ("no scope intersects subject + policy for client " ++
        clientId ++ " / audience " ++ audience)) "actor" = false ∧
      mentions ("invalid_scope" ++ " " ++ ("no scope intersects subject + policy for client " ++
        clientId ++ " / audience " ++ audience)) "invalid_scope" = true := by
  have htext : "no scope intersects subject + policy for client " =
      "no scope intersects subject + policy for client" ++ " " := by decide
  have hjoin : " / audience " = " " ++ "/ audience" ++ " " := by decide
  rw [htext, hjoin]
  have hwords : ∀ word : String, ' ' ∉ word.toList →
      mentions ("invalid_scope" ++ " " ++ ("no scope intersects subject + policy for client" ++
          " " ++ clientId ++ (" " ++ "/ audience" ++ " ") ++ audience)) word =
        (mentions "invalid_scope" word ||
          (mentions "no scope intersects subject + policy for client" word ||
            (mentions clientId word ||
              (mentions "/ audience" word || mentions audience word)))) := by
    intro word hblank
    have hassoc : "no scope intersects subject + policy for client" ++ " " ++ clientId ++
        (" " ++ "/ audience" ++ " ") ++ audience =
        "no scope intersects subject + policy for client" ++ " " ++ (clientId ++ " " ++
          ("/ audience" ++ " " ++ audience)) := by
      simp only [String.append_assoc]
    rw [hassoc]
    simp only [mentions_append hblank]
  have hcode : mentions "invalid_scope" "actor" = false ∧
      mentions "invalid_scope" "invalid_scope" = true :=
    ⟨(mentions_ofList _ _).trans (by decide), (mentions_ofList _ _).trans (by decide)⟩
  have hprose : mentions "no scope intersects subject + policy for client" "actor" = false ∧
      mentions "/ audience" "actor" = false :=
    ⟨(mentions_ofList _ _).trans (by decide), (mentions_ofList _ _).trans (by decide)⟩
  rw [hwords "actor" (by decide), hwords "invalid_scope" (by decide), hclient, haudience, hcode.1,
    hcode.2, hprose.1, hprose.2]
  exact ⟨rfl, Bool.true_or _⟩

private theorem readExchange_of_not_ok (h : r.ok = false) :
    readExchange params r = .error (refusal r) := by
  rw [readExchange, h]
  rfl

/-- The client classifies an OAuth error by its name and its description. -/
theorem readExchange_of_refuses {error description : String} (h : Refuses r error description)
    (hne : error ≠ "") :
    readExchange params r =
      .error (.curityAuth (classify r.status (.str error) (some (.str description)))) := by
  have herror : (some (Json.str error)).filter (·.truthy) = some (.str error) := by
    simp [Json.truthy, hne]
  rw [readExchange_of_not_ok h.notOk, refusal, h.error, h.description, herror]
  split
  · next heq =>
    have hmember := h.error
    rw [TokenResponse.member, heq] at hmember
    cases hmember
  · next hnone _ => cases hnone
  · next hsome _ =>
    cases hsome
    rfl

/-- The words in the description of an `invalid_request` decide on its code. -/
theorem classify_invalidRequest (status : Nat) (description : String) :
    (classify status (.str "invalid_request") (some (.str description))).code =
      if mentions description "actor" then .invalidActor
      else if mentions description "invalid_scope" then .invalidScope
      else .exchangeFailed := by
  have hproperty : property nodePrototype errorMap "invalid_request" = .missing := by rfl
  unfold classify
  simp only [Json.toText_str, hproperty, Json.string?, true_and, Option.elim_some]
  split
  · rfl
  · split <;> rfl

/-- The client finds the procedure's `invalid_scope` in the description. -/
theorem readExchange_noScope {e : Edge} (he : e ∈ policyEdges)
    (h : Refuses r "invalid_request" ("invalid_scope" ++ " " ++ noScope e)) :
    readExchange params r =
      .error (.curityAuth ⟨"invalid_scope" ++ " " ++ noScope e, .invalidScope⟩) := by
  obtain ⟨policy, audPolicy, hpolicy, haudience, -⟩ := exists_policy he
  have hlookup := property_eq_own_iff.mp hpolicy
  obtain ⟨hactor, hscope⟩ := mentions_noScope (mentions_client hlookup).1
    (mentions_audience hlookup haudience)
  change mentions ("invalid_scope" ++ " " ++ noScope e) "actor" = false at hactor
  change mentions ("invalid_scope" ++ " " ++ noScope e) "invalid_scope" = true at hscope
  have hproperty : property nodePrototype errorMap "invalid_request" = .missing := by rfl
  rw [readExchange_of_refuses h (by decide), classify]
  simp only [Json.toText_str, hproperty, Json.string?, Option.elim_some, hactor, hscope]
  rfl

/-- The client takes `access_denied` as it is. -/
theorem readExchange_forbidden {description : String} (h : Refuses r "access_denied" description) :
    readExchange params r = .error (.curityAuth ⟨description, .accessDenied⟩) := by
  have hproperty : property nodePrototype errorMap "access_denied" = .own .accessDenied := by rfl
  rw [readExchange_of_refuses h (by decide), classify]
  simp only [Json.toText_str, hproperty, Option.getD_some]

end Reading

namespace TokenEndpoint

/-- The exchange of a token along an edge of the policy. -/
structure Requests (T : TokenEndpoint) (params : ExchangeTokenParams) (t : TokenData)
    (e : Edge) : Prop where
  edge : e ∈ policyEdges
  subject : T.presented params.subjectToken = some (presentToken T.server t)
  client : params.clientId = e.clientId
  audience : params.audience = e.audience

variable {T : TokenEndpoint} {workload : String} {params : ExchangeTokenParams} {t : TokenData}
  {e : Edge} {answer : Except Thrown ExchangeTokenResult}

private theorem Requests.presents (h : T.Requests params t e) (hactor : params.actorToken ≠ "")
    (env : Surroundings) (fresh : Fresh) :
    Presents (T.context params env fresh) (presentToken T.server t) e where
  edge := h.edge
  subject := h.subject
  actor := ⟨params.actorToken, rfl, hactor⟩
  client := h.client
  audience := by
    rw [← h.audience]
    rfl

/-- Without a common scope the client is told `invalid_scope`. -/
theorem Answers.of_not_shares (h : T.Answers workload params answer) (hr : T.Requests params t e)
    (hs : ¬ Shares (.collection (words params.scope)) t e) :
    answer = .error (.curityAuth ⟨"invalid_scope" ++ " " ++ noScope e, .invalidScope⟩) := by
  obtain ⟨hactor, cache, env, fresh, nonce, first, second, -, hdelivered, -, rfl⟩ := h
  have hresult := result_of_refusal T.server cache
    (narrowRequest_of_not_shares (hr.presents hactor env fresh) hs)
  rw [hresult] at hdelivered
  rw [doExchange_of_delivered hdelivered,
    readExchange_noScope hr.edge (T.respond_badRequestWithCode "invalid_scope" (noScope e))]

private theorem readExchange_issued (T : TokenEndpoint) (params : ExchangeTokenParams)
    (response : ExchangeResponse) :
    ∃ result, readExchange params (T.respond (.ok response)) = .ok result ∧
      result.accessToken = T.jose.compact response.accessToken := by
  obtain ⟨hok, hmember⟩ := T.respond_ok response
  rw [readExchange, if_pos hok]
  split
  · next message hbody =>
    rw [TokenResponse.member, hbody] at hmember
    cases hmember
  · next hbody =>
    rw [TokenResponse.member, hbody] at hmember
    cases hmember
  · next json _ hbody =>
    have haccess : json.get? "access_token" =
        some (.str (T.jose.compact response.accessToken)) := by
      rw [← hmember, TokenResponse.member, hbody]
    refine ⟨_, rfl, ?_⟩
    simp only [haccess, Option.elim_some, Json.toText_str]

/-- A token that the client obtains was exchanged along the edge it asked for. -/
theorem Answers.granted {result : ExchangeTokenResult} (h : T.Answers workload params (.ok result))
    (hr : T.Requests params t e) :
    ∃ ctx d, ctx.requestedScopes = .collection (words params.scope) ∧
      Exchanged ctx (presentToken T.server t) e d ∧ T.Recognises d ∧
      result.accessToken = T.jose.compact d := by
  obtain ⟨-, cache, env, fresh, nonce, first, second, -, hdelivered, hrecognised, hanswer⟩ := h
  rw [doExchange_of_delivered hdelivered] at hanswer
  cases hresponse : (Curity.result T.server cache (T.context params env fresh)).2 with
  | error error =>
    rw [hresponse, readExchange_of_not_ok (T.respond_error error)] at hanswer
    cases hanswer
  | ok response =>
    obtain ⟨issued, hissued, htoken⟩ := readExchange_issued T params response
    rw [hresponse, hissued] at hanswer
    cases hanswer
    obtain ⟨t', e', hex, -⟩ := exchanged_of_result hresponse
    have hsubject : some (presentToken T.server t) = some t' := by
      rw [← hr.subject]
      exact hex.presented
    have haudience : [params.audience] = [e'.audience] := hex.requestedAudience
    have hedge : e' = e := by
      apply edge_unique e hr.edge e' hex.edge
      · rw [← hr.client]
        exact hex.client.symm
      · rw [← hr.audience]
        exact (List.singleton_inj.mp haudience).symm
    rw [Option.some.injEq] at hsubject
    subst hsubject hedge
    exact ⟨_, response.accessToken, rfl, hex, hrecognised response hresponse, htoken⟩

end TokenEndpoint

section Sample

/-- The compact form that `sampleEndpoint` gives a token. -/
def sampleCompact (t : TokenData) : String := "e30." ++ t.jti ++ ".sig"

/-- The token with this compact form. -/
def sampleToken (tokens : List TokenData) (compact : String) : Option TokenData :=
  tokens.find? fun t ↦ sampleCompact t = compact

/-- An OAuth error response. -/
def sampleError (status : Nat) (error description : String) : TokenResponse :=
  ⟨status, .ok (.obj [("error", .str error), ("error_description", .str description)])⟩

/-- How Curity answers for the procedure. -/
def sampleRespond : Except ProcedureError ExchangeResponse → TokenResponse
  | .ok response =>
    ⟨200, .ok (.obj [("access_token", .str (sampleCompact response.accessToken)),
      ("scope", .str response.scope)])⟩
  | .error (.badRequest description) => sampleError 400 "invalid_request" description
  | .error (.badRequestWithCode code description) =>
    sampleError 400 "invalid_request" (code ++ " " ++ description)
  | .error (.forbidden description) => sampleError 403 "access_denied" description
  | .error (.internalServer description) => sampleError 500 "server_error" description
  | .error (.curity code description) => sampleError 400 code description
  | .error (.engine _) => sampleError 500 "server_error" "unexpected error"

/-- `sampleServer` behind its token endpoint, where these tokens are about. -/
def sampleEndpoint (tokens : List TokenData) : TokenEndpoint where
  server := sampleServer
  jose :=
    { jwtVerify := fun token opts ↦
        match sampleToken tokens token with
        | none => .error "signature verification failed"
        | some t =>
          if opts.audience ∈ t.aud then .ok (tokenClaims t)
          else .error "unexpected \"aud\" claim value"
      compact := sampleCompact }
  presented := sampleToken tokens
  respond := sampleRespond
  respond_badRequest := fun _ ↦ ⟨rfl, rfl, rfl⟩
  respond_badRequestWithCode := fun _ _ ↦ ⟨rfl, rfl, rfl⟩
  respond_error := fun e ↦ by cases e <;> rfl
  respond_forbidden := fun _ ↦ ⟨rfl, rfl, rfl⟩
  respond_internalServer := fun _ ↦ ⟨rfl, rfl, rfl⟩
  respond_engine := fun _ ↦ ⟨_, rfl, rfl, rfl⟩
  respond_ok := fun _ ↦ ⟨rfl, rfl⟩

/-- The tokens that `sampleEndpoint` recognises are those that it finds. -/
theorem recognises_sampleEndpoint_iff {tokens : List TokenData} {t : TokenData} :
    (sampleEndpoint tokens).Recognises t ↔ sampleToken tokens (sampleCompact t) = some t := by
  constructor
  · intro h
    exact h.presented
  · intro h
    refine ⟨h, fun opts claims hclaims ↦ ?_⟩
    change (match sampleToken tokens (sampleCompact t) with
      | none => _
      | some t => _) = _ at hclaims
    rw [h] at hclaims
    simp only at hclaims
    split at hclaims
    · next haud =>
      cases hclaims
      exact ⟨rfl, haud⟩
    · cases hclaims

end Sample
end AgentsAuth.Curity
