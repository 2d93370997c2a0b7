import AgentsAuth.AuthCurity.Exchange

/-!
# How a token exchange settles

`packages/auth-curity/src/exchange.ts:84–289` with the values that the answer really
holds: nothing is converted to the declared result type, and the code of a refusal is
whatever `ERROR_MAP` yields. An exchange keeps its promise of a usable token or of a
known error code for exactly the answers that `Answerable` describes.
-/

namespace AgentsAuth.AuthCurity

open AgentsAuth.Base AgentsAuth.Lib

/-- `code` of a thrown `CurityAuthError`: `ERROR_MAP` also answers for the names it inherits. -/
inductive ThrownCode where
  | known (code : CurityAuthErrorCode)
  | inherited (name : String)
deriving DecidableEq

/-- What `exchangeToken` rejects with. -/
inductive Rejection where
  | curityAuth (message : String) (code : ThrownCode)
  | other (name message : String)
deriving DecidableEq

/-- What `exchangeToken` resolves with: members of the body, `none` being `undefined`. -/
structure Resolution where
  accessToken : Option Json
  tokenType : Json
  expiresInSec : Json
  scope : Json
  issuedTokenType : Json

/-- An answer of the token endpoint with its `dpop-nonce` header. -/
structure TokenAnswer extends TokenResponse where
  dpopNonce : Option String

/-- What one call of `sendExchange` meets outside: the import of the client's key, the signatures of
assertion and proof with the name and message of an error, and the network. -/
structure Attempt where
  importKey : Except String Unit
  signAssertion : Except (String × String) Unit
  signProof : Except (String × String) Unit
  fetch : Except String TokenAnswer

/-- A request to the token endpoint; what is signed or encoded stands for its text. -/
structure TokenRequest where
  url : String
  form : List (String × String)
  basic : Option (String × String)
  assertion : Option (String × String)
  proof : Option (String × String × Option String)
deriving DecidableEq

/-- A nonce that a condition takes. -/
def heldNonce (nonce : Option String) : Option String := nonce.filter (· ≠ "")

/-- The request of `exchange.ts:228–262` for the nonce that the key holds. -/
def tokenRequest (params : ExchangeTokenParams) (nonce : Option String) : TokenRequest where
  url := params.tokenEndpoint
  form :=
    [("grant_type", "urn:ietf:params:oauth:grant-type:token-exchange"),
      ("subject_token", params.subjectToken),
      ("subject_token_type", "urn:ietf:params:oauth:token-type:access_token"),
      ("actor_token", params.actorToken),
      ("actor_token_type", "urn:ietf:params:oauth:token-type:jwt"),
      ("requested_token_type", "urn:ietf:params:oauth:token-type:access_token"),
      ("audience", params.audience), ("scope", params.scope)] ++
    match params.clientAuth with
    | .privateKeyJwt _ _ =>
      [("client_id", params.clientId),
        ("client_assertion_type", "urn:ietf:params:oauth:client-assertion-type:jwt-bearer")]
    | .basic _ => []
  basic :=
    match params.clientAuth with
    | .basic clientSecret => some (params.clientId, clientSecret)
    | .privateKeyJwt _ _ => none
  assertion :=
    match params.clientAuth with
    | .privateKeyJwt kid assertionAudience => some (kid, assertionAudience)
    | .basic _ => none
  proof := if params.dpop then some ("POST", params.tokenEndpoint, heldNonce nonce) else none

/-- An error that `sendExchange` does not catch. -/
def uncaught (result : Except (String × String) Unit) : Except Rejection Unit :=
  result.mapError fun e ↦ .other e.1 e.2

/-- Model of `buildClientAssertion`, `exchange.ts:291–316`. -/
def buildClientAssertion (attempt : Attempt) : Except Rejection Unit :=
  match attempt.importKey with
  | .error message =>
    .error
      (.curityAuth ("failed to import client signing key: " ++ message) (.known .invalidClient))
  | .ok () => uncaught attempt.signAssertion

/-- What precedes the request: `exchange.ts:244–262`. -/
def signRequest (params : ExchangeTokenParams) (attempt : Attempt) : Except Rejection Unit := do
  match params.clientAuth with
  | .privateKeyJwt _ _ => buildClientAssertion attempt
  | .basic _ => pure ()
  if params.dpop then uncaught attempt.signProof else pure ()

/-- What a call of `sendExchange` leaves behind: requests, the nonce of the key, the outcome. -/
structure Sent where
  requests : List TokenRequest
  nonce : Option String
  outcome : Except Rejection TokenAnswer

/-- The nonce that the key holds after an answer: `exchange.ts:278–279`. -/
def nonceAfter (params : ExchangeTokenParams) (nonce : Option String) (answer : TokenAnswer) :
    Option String :=
  if params.dpop then (heldNonce answer.dpopNonce).or nonce else nonce

/-- Model of `sendExchange`, `exchange.ts:227–281`. -/
def sendExchange (params : ExchangeTokenParams) (nonce : Option String) (attempt : Attempt) :
    Sent :=
  match signRequest params attempt with
  | .error e => ⟨[], nonce, .error e⟩
  | .ok () =>
    match attempt.fetch with
    | .error message =>
      ⟨[tokenRequest params nonce], nonce,
        .error (.curityAuth ("token-exchange fetch failed: " ++ message) (.known .exchangeFailed))⟩
    | .ok answer => ⟨[tokenRequest params nonce], nonceAfter params nonce answer, .ok answer⟩

/-- The rejection for an error that the answer names: `exchange.ts:198–223`. -/
def namedRejection (status : Nat) (oauthError : Json) (description : Option Json) : Rejection :=
  let text := description.elim "" Json.toText
  let invalidRequest := Json.string? (some oauthError) = some "invalid_request"
  match property nodePrototype errorMap oauthError.toText with
  | .own code => .curityAuth (description.getD oauthError).toText (.known code)
  | .inherited => .curityAuth (description.getD oauthError).toText (.inherited oauthError.toText)
  | .missing =>
    if invalidRequest ∧ mentions text "actor" then
      .curityAuth (description.elim "invalid actor_token" Json.toText) (.known .invalidActor)
    else if invalidRequest ∧ mentions text "invalid_scope" then
      .curityAuth (description.elim "invalid_scope" Json.toText) (.known .invalidScope)
    else
      .curityAuth ("token-exchange failed: HTTP " ++ toString status ++ " " ++ oauthError.toText ++
        (description.filter (·.truthy)).elim "" (": " ++ ·.toText)) (.known .exchangeFailed)

/-- The `TypeError` of a conversion to text. -/
def textless : Rejection := .other "TypeError" "Cannot convert object to primitive value"

/-- The `TypeError` of reading a member of a `null` body. -/
def nullBody (name : String) : Rejection :=
  .other "TypeError" ("Cannot read properties of null (reading '" ++ name ++ "')")

/-- The rejection for a refused exchange: `exchange.ts:190–224`. -/
def refusedWith (r : TokenResponse) : Rejection :=
  let description := (r.member "error_description").filter (·.notNull)
  match r.body with
  | .ok .null => nullBody "error"
  | _ =>
    match (r.member "error").filter (·.truthy) with
    | none =>
      if description.all (·.hasText) then
        .curityAuth ("token-exchange failed: HTTP " ++ toString r.status ++
          (description.filter (·.truthy)).elim "" (": " ++ ·.toText)) (.known .exchangeFailed)
      else textless
    | some oauthError =>
      if oauthError.hasText && description.all (·.hasText) then
        namedRejection r.status oauthError description
      else textless

/-- `json[name] ?? fallback`. -/
def orElse (json : Json) (name : String) (fallback : Json) : Json :=
  ((json.get? name).filter (·.notNull)).getD fallback

/-- How an answer is read: `exchange.ts:149–224`. -/
def readAnswer (params : ExchangeTokenParams) (r : TokenResponse) : Except Rejection Resolution :=
  if r.ok then
    match r.body with
    | .error message =>
      .error (.curityAuth ("token-exchange returned malformed JSON: " ++ message)
        (.known .exchangeFailed))
    | .ok .null => .error (nullBody "scope")
    | .ok json =>
      .ok
        { accessToken := json.get? "access_token"
          tokenType := orElse json "token_type" (.str "Bearer")
          expiresInSec := orElse json "expires_in" (.num ⟨0, "0"⟩)
          scope := orElse json "scope" (.str params.scope)
          issuedTokenType :=
            orElse json "issued_token_type" (.str "urn:ietf:params:oauth:token-type:access_token") }
  else .error (refusedWith r)

/-- The condition of the nonce retry: `exchange.ts:145`. -/
def wantsNonce (params : ExchangeTokenParams) (nonce : Option String) (r : TokenResponse) : Bool :=
  params.dpop && (heldNonce nonce).isSome && r.status = 400 &&
    Json.string? (r.member "error") = some "use_dpop_nonce"

/-- What an exchange leaves behind: requests, the nonce of the key, the outcome. -/
structure Exchanged where
  requests : List TokenRequest
  nonce : Option String
  outcome : Except Rejection Resolution

/-- Model of `exchangeToken`, `exchange.ts:91–115` and `141–224`: `attempts` is what the calls of
`sendExchange` meet, one after the other. -/
def exchangeToken (params : ExchangeTokenParams) (nonce : Option String) (attempts : ℕ → Attempt) :
    Exchanged :=
  let first := sendExchange params nonce (attempts 0)
  match first.outcome with
  | .error e => ⟨first.requests, first.nonce, .error e⟩
  | .ok response =>
    if wantsNonce params first.nonce response.toTokenResponse then
      let second := sendExchange params first.nonce (attempts 1)
      ⟨first.requests ++ second.requests, second.nonce,
        second.outcome >>= fun response ↦ readAnswer params response.toTokenResponse⟩
    else ⟨first.requests, first.nonce, readAnswer params response.toTokenResponse⟩

/-- A rejection as the callers that look at the code see it. -/
def Rejection.thrown : Rejection → Thrown
  | .curityAuth message (.known code) => .curityAuth ⟨message, code⟩
  | .curityAuth message (.inherited _) => .curityAuth ⟨message, .exchangeFailed⟩
  | .other name message => .other name message

/-- A result as it is written into headers, responses and caches. -/
def Resolution.result (r : Resolution) : ExchangeTokenResult where
  accessToken := r.accessToken.elim "undefined" Json.toText
  tokenType := r.tokenType.toText
  expiresInSec :=
    match r.expiresInSec with
    | .num n => n.value
    | _ => 0
  scope := r.scope.toText
  issuedTokenType := r.issuedTokenType.toText

/-- An outcome as the callers see it. -/
def readOutcome (outcome : Except Rejection Resolution) : Except Thrown ExchangeTokenResult :=
  (outcome.map Resolution.result).mapError Rejection.thrown

/-- A call of `sendExchange` as the callers see it. -/
def Sent.response (sent : Sent) : Except Thrown TokenResponse :=
  (sent.outcome.map TokenAnswer.toTokenResponse).mapError Rejection.thrown

/-- The rejections of both models for an error that an answer names are the same to a caller. -/
theorem thrown_namedRejection (status : Nat) (oauthError : Json) (description : Option Json) :
    (namedRejection status oauthError description).thrown =
      .curityAuth (classify status oauthError description) := by
  unfold namedRejection classify
  cases property nodePrototype errorMap oauthError.toText with
  | own code => rfl
  | inherited => rfl
  | missing =>
    dsimp only
    split
    · rfl
    · split <;> rfl

/-- The rejections of both models for a refused exchange are the same to a caller. -/
theorem thrown_refusedWith (r : TokenResponse) : (refusedWith r).thrown = refusal r := by
  unfold refusedWith refusal
  cases hbody : r.body with
  | error message =>
    have hmember (name : String) : r.member name = none := by
      rw [TokenResponse.member, hbody]
    rw [hmember, hmember]
    rfl
  | ok body =>
    dsimp only
    cases (r.member "error").filter (·.truthy) with
    | none =>
      cases body with
      | null => rfl
      | _ =>
        dsimp only
        split <;> rfl
    | some oauthError =>
      cases body with
      | null => rfl
      | _ =>
        dsimp only
        split
        · exact thrown_namedRejection r.status oauthError _
        · rfl

/-- Reading an answer is the same to a caller in both models. -/
theorem readOutcome_readAnswer (params : ExchangeTokenParams) (r : TokenResponse) :
    readOutcome (readAnswer params r) = readExchange params r := by
  unfold readAnswer readExchange
  split
  · cases r.body with
    | error message => rfl
    | ok json =>
      have htext (name fallback : String) :
          (orElse json name (.str fallback)).toText =
            ((json.get? name).filter (·.notNull)).elim fallback Json.toText := by
        unfold orElse
        cases (json.get? name).filter (·.notNull) <;> rfl
      cases json with
      | null => rfl
      | _ =>
        show Except.ok (Resolution.result _) = Except.ok _
        simp only [Resolution.result, htext]
        unfold orElse
        cases Json.get? _ "expires_in" with
        | none => rfl
        | some value => cases value <;> rfl
  · rw [← thrown_refusedWith]
    rfl

/-- A caller sees of an exchange what `doExchange` yields for the answers it gets. -/
theorem readOutcome_exchangeToken (params : ExchangeTokenParams) (nonce : Option String)
    (attempts : ℕ → Attempt) :
    readOutcome (exchangeToken params nonce attempts).outcome =
      doExchange params (sendExchange params nonce (attempts 0)).nonce
        (sendExchange params nonce (attempts 0)).response
        (sendExchange params (sendExchange params nonce (attempts 0)).nonce
          (attempts 1)).response := by
  unfold exchangeToken doExchange
  generalize sendExchange params nonce (attempts 0) = first
  obtain ⟨requests, held, outcome⟩ := first
  cases outcome with
  | error e => rfl
  | ok response =>
    show readOutcome (Exchanged.outcome (if _ then _ else _)) = if _ then _ else _
    have hwants : wantsNonce params held response.toTokenResponse = true ↔
        params.dpop = true ∧ held.any (· ≠ "") = true ∧ response.status = 400 ∧
          Json.string? (response.member "error") = some "use_dpop_nonce" := by
      unfold wantsNonce heldNonce
      cases held <;> simp [and_assoc]
    split
    · next h =>
      rw [if_pos (hwants.mp h)]
      cases sendExchange params held (attempts 1) with
      | mk requests nonce outcome =>
        cases outcome with
        | error e => rfl
        | ok response => exact readOutcome_readAnswer params response.toTokenResponse
    · next h =>
      rw [if_neg (fun hall ↦ h (hwants.mpr hall))]
      exact readOutcome_readAnswer params response.toTokenResponse

/-- A rejection that names a code of `CurityAuthErrorCode`. -/
def Rejection.Known (e : Rejection) : Prop := ∃ message code, e = .curityAuth message (.known code)

/-- A result as its type declares it, with a token. -/
def Resolution.Usable (r : Resolution) : Prop :=
  (∃ token, token ≠ "" ∧ r.accessToken = some (.str token)) ∧ ∃ n, r.expiresInSec = .num n

/-- An outcome that callers are prepared for. -/
def Promised : Except Rejection Resolution → Prop
  | .ok r => r.Usable
  | .error e => e.Known

/-- How an exchange should go for what its first call of `sendExchange` meets: at most two requests,
the second for a nonce that the key holds by then, and a promised outcome. -/
structure Settles (params : ExchangeTokenParams) (nonce : Option String) (attempt : Attempt)
    (out : Exchanged) : Prop where
  requests : out.requests.length ≤ 2
  retried : out.requests.length = 2 → ∃ response held,
    attempt.fetch = .ok response ∧ response.status = 400 ∧
      Json.string? (response.member "error") = some "use_dpop_nonce" ∧
      params.dpop = true ∧ held ≠ "" ∧ nonceAfter params nonce response = some held
  promised : Promised out.outcome

/-- No signature that the request needs fails; without a key nothing is signed. -/
def Attempt.SignsFor (params : ExchangeTokenParams) (attempt : Attempt) : Prop :=
  match params.clientAuth, attempt.importKey with
  | .privateKeyJwt _ _, .error _ => True
  | .privateKeyJwt _ _, .ok () =>
    attempt.signAssertion.isOk ∧ (params.dpop = true → attempt.signProof.isOk)
  | .basic _, _ => params.dpop = true → attempt.signProof.isOk

/-- The answer to a request whose signatures are made, if the key is there and one arrives. -/
def Attempt.answer? (params : ExchangeTokenParams) (attempt : Attempt) : Option TokenAnswer :=
  match params.clientAuth, attempt.importKey with
  | .privateKeyJwt _ _, .error _ => none
  | _, _ => attempt.fetch.toOption

/-- `typeof value === 'number'`. -/
def isNumber : Json → Bool
  | .num _ => true
  | _ => false

/-- An answer that can be read as the types declare it: no JSON at all, a token with a lifetime that
is a number or left out, or a refusal with texts whose error is no property of every object. -/
def TokenResponse.legible (r : TokenResponse) : Bool :=
  match r.body with
  | .error _ => true
  | .ok body =>
    if r.ok then
      (Json.string? (body.get? "access_token")).any (· ≠ "") &&
        ((body.get? "expires_in").filter (·.notNull)).all isNumber
    else
      body.notNull &&
        ((body.get? "error").filter (·.truthy)).all
          (fun error ↦ error.hasText && error.toText ∉ nodePrototype) &&
        ((body.get? "error_description").filter (·.notNull)).all (·.hasText)

/-- The answer that decides an exchange, if one arrives, is legible, and nothing fails to sign. -/
def Answerable (params : ExchangeTokenParams) (nonce : Option String) (attempts : ℕ → Attempt) :
    Prop :=
  (attempts 0).SignsFor params ∧
    ∀ response, (attempts 0).answer? params = some response →
      if wantsNonce params (nonceAfter params nonce response) response.toTokenResponse then
        (attempts 1).SignsFor params ∧
          ∀ response', (attempts 1).answer? params = some response' → response'.legible = true
      else response.legible = true

/-- A `TypeError` is no rejection that callers know. -/
private theorem not_known_other {name message : String} :
    ¬ (Rejection.other name message).Known := by
  intro h
  obtain ⟨message, code, h⟩ := h
  cases h

private theorem known_curityAuth {message : String} {code : CurityAuthErrorCode} :
    (Rejection.curityAuth message (.known code)).Known := ⟨message, code, rfl⟩

private theorem errorMap_not_inherited :
    ∀ name ∈ nodePrototype, (errorMap.lookup name).isNone = true := by decide

/-- A named error is a known one unless every object has a property of that name. -/
theorem namedRejection_known_iff {status : Nat} {oauthError : Json} {description : Option Json} :
    (namedRejection status oauthError description).Known ↔ oauthError.toText ∉ nodePrototype := by
  unfold namedRejection property
  by_cases hname : oauthError.toText ∈ nodePrototype
  · rw [Option.isNone_iff_eq_none.mp (errorMap_not_inherited _ hname), if_pos hname]
    constructor
    · intro h
      obtain ⟨message, code, h⟩ := h
      cases h
    · intro h
      exact absurd hname h
  · apply iff_of_true _ hname
    cases errorMap.lookup oauthError.toText with
    | some code => exact known_curityAuth
    | none =>
      rw [if_neg hname]
      show Rejection.Known (if _ then _ else _)
      split
      · exact known_curityAuth
      · split <;> exact known_curityAuth

/-- A refusal is a known one when it can be read. -/
theorem refusedWith_known_iff {r : TokenResponse} (hok : r.ok = false) :
    (refusedWith r).Known ↔ r.legible = true := by
  unfold refusedWith TokenResponse.legible TokenResponse.member
  cases r.body with
  | error message => exact iff_of_true known_curityAuth rfl
  | ok body =>
    rw [hok]
    cases hnull : body.notNull with
    | false =>
      have hbody : body = .null := by
        cases body <;> first | rfl | cases hnull
      subst hbody
      exact iff_of_false not_known_other (by decide)
    | true =>
      have hne : body ≠ .null := by
        intro h
        rw [h] at hnull
        cases hnull
      simp only [Bool.false_eq_true, if_false, Bool.and_eq_true]
      split
      · next h => exact absurd (Except.ok.inj h) hne
      · cases (body.get? "error").filter (·.truthy) with
        | none =>
          simp only [Option.all_none, hnull, true_and]
          split
          · next h => exact iff_of_true known_curityAuth h
          · next h => exact iff_of_false not_known_other h
        | some oauthError =>
          simp only [Option.all_some, hnull, true_and, Bool.and_eq_true, decide_eq_true_eq]
          split
          · next h => rw [namedRejection_known_iff, and_iff_right h.1, and_iff_left h.2]
          · next h => exact iff_of_false not_known_other fun hall ↦ h ⟨hall.1.1, hall.2⟩

/-- A lifetime that is left out is the number zero. -/
private theorem expires_iff {json : Json} :
    (∃ n, orElse json "expires_in" (.num ⟨0, "0"⟩) = .num n) ↔
      ((json.get? "expires_in").filter (·.notNull)).all isNumber = true := by
  unfold orElse
  cases (json.get? "expires_in").filter (·.notNull) with
  | none => exact iff_of_true ⟨_, rfl⟩ rfl
  | some value => cases value <;> simp [isNumber]

private theorem token_iff {member : Option Json} :
    (∃ token, token ≠ "" ∧ member = some (.str token)) ↔
      (Json.string? member).any (· ≠ "") = true := by
  constructor
  · intro h
    obtain ⟨token, hne, rfl⟩ := h
    simpa [Json.string?] using hne
  · intro h
    cases hs : Json.string? member with
    | none =>
      rw [hs] at h
      cases h
    | some token =>
      rw [hs] at h
      exact ⟨token, by simpa using h, Json.string?_eq_some_iff.mp hs⟩

/-- How an answer is read keeps the promise when the answer is legible. -/
theorem readAnswer_promised_iff {params : ExchangeTokenParams} {r : TokenResponse} :
    Promised (readAnswer params r) ↔ r.legible = true := by
  unfold readAnswer
  cases hok : r.ok with
  | false => exact refusedWith_known_iff hok
  | true =>
    rw [if_pos rfl]
    unfold TokenResponse.legible
    cases r.body with
    | error message => exact iff_of_true known_curityAuth rfl
    | ok body =>
      rw [hok]
      simp only [if_true, Bool.and_eq_true]
      split
      · next h => cases h
      · next h =>
        rw [Except.ok.inj h]
        exact iff_of_false not_known_other (by simp [Json.get?, Json.string?])
      · next json hnull h =>
        rw [Except.ok.inj h, ← token_iff, ← expires_iff]
        rfl

/-- What precedes a request: nothing fails, a signature fails, or the key cannot be imported. -/
theorem signRequest_cases (params : ExchangeTokenParams) (attempt : Attempt) :
    (signRequest params attempt = .ok () ∧ attempt.SignsFor params ∧
        attempt.answer? params = attempt.fetch.toOption) ∨
      (¬ attempt.SignsFor params ∧
        ∃ name message, signRequest params attempt = .error (.other name message)) ∨
      (attempt.SignsFor params ∧ attempt.answer? params = none ∧
        ∃ e, signRequest params attempt = .error e ∧ e.Known) := by
  have hproof : (params.dpop = true → attempt.signProof.isOk) ∧
        (if params.dpop then uncaught attempt.signProof else pure ()) = .ok () ∨
      ¬ (params.dpop = true → attempt.signProof.isOk) ∧ ∃ name message,
        (if params.dpop then uncaught attempt.signProof else pure ()) =
          .error (.other name message) := by
    cases params.dpop with
    | false => exact .inl ⟨fun h ↦ (Bool.false_ne_true h).elim, rfl⟩
    | true =>
      cases attempt.signProof with
      | ok value => exact .inl ⟨fun _ ↦ rfl, rfl⟩
      | error e => exact .inr ⟨fun h ↦ Bool.false_ne_true (h rfl), e.1, e.2, rfl⟩
  unfold signRequest Attempt.SignsFor Attempt.answer? buildClientAssertion
  cases params.clientAuth with
  | basic clientSecret =>
    obtain ⟨hsigns, hrun⟩ | ⟨hsigns, name, message, hrun⟩ := hproof
    · exact .inl ⟨hrun, hsigns, rfl⟩
    · exact .inr (.inl ⟨hsigns, name, message, hrun⟩)
  | privateKeyJwt kid assertionAudience =>
    cases attempt.importKey with
    | error message => exact .inr (.inr ⟨trivial, rfl, _, rfl, known_curityAuth⟩)
    | ok value =>
      cases attempt.signAssertion with
      | error e => exact .inr (.inl ⟨fun h ↦ Bool.false_ne_true h.1, e.1, e.2, rfl⟩)
      | ok value =>
        obtain ⟨hsigns, hrun⟩ | ⟨hsigns, name, message, hrun⟩ := hproof
        · exact .inl ⟨hrun, ⟨rfl, hsigns⟩, rfl⟩
        · exact .inr (.inl ⟨fun h ↦ hsigns h.2, name, message, hrun⟩)

/-- A call of `sendExchange` makes one request at most. -/
theorem requests_sendExchange (params : ExchangeTokenParams) (nonce : Option String)
    (attempt : Attempt) : (sendExchange params nonce attempt).requests.length ≤ 1 := by
  unfold sendExchange
  split
  · exact Nat.zero_le 1
  · split <;> exact le_rfl

/-- What a call of `sendExchange` comes to: a failed signature, a known error, or the answer. -/
theorem sendExchange_cases (params : ExchangeTokenParams) (nonce : Option String)
    (attempt : Attempt) :
    (¬ attempt.SignsFor params ∧ ∃ name message,
        (sendExchange params nonce attempt).outcome = .error (.other name message)) ∨
      (attempt.SignsFor params ∧ attempt.answer? params = none ∧
        ∃ e, (sendExchange params nonce attempt).outcome = .error e ∧ e.Known) ∨
      (attempt.SignsFor params ∧ ∃ response, attempt.answer? params = some response ∧
        attempt.fetch = .ok response ∧
        (sendExchange params nonce attempt).outcome = .ok response ∧
        (sendExchange params nonce attempt).nonce = nonceAfter params nonce response) := by
  unfold sendExchange
  obtain ⟨hrun, hsigns, hanswer⟩ | ⟨hsigns, name, message, hrun⟩ | ⟨hsigns, hanswer, e, hrun, he⟩ :=
    signRequest_cases params attempt
  · rw [hrun, hanswer]
    cases attempt.fetch with
    | error message => exact .inr (.inl ⟨hsigns, rfl, _, rfl, known_curityAuth⟩)
    | ok response => exact .inr (.inr ⟨hsigns, response, rfl, rfl, rfl, rfl⟩)
  · rw [hrun]
    exact .inl ⟨hsigns, name, message, rfl⟩
  · rw [hrun]
    exact .inr (.inl ⟨hsigns, hanswer, e, rfl, he⟩)

/-- The outcome of the last call of `sendExchange` is promised when nothing fails to sign and the
answer, if there is one, is legible. -/
private theorem promised_second {params : ExchangeTokenParams} {nonce : Option String}
    {attempt : Attempt} :
    Promised ((sendExchange params nonce attempt).outcome >>= fun response ↦
        readAnswer params response.toTokenResponse) ↔
      attempt.SignsFor params ∧
        ∀ response, attempt.answer? params = some response → response.legible = true := by
  obtain ⟨hsigns, name, message, hout⟩ | ⟨hsigns, hanswer, e, hout, he⟩ |
    ⟨hsigns, response, hanswer, -, hout, -⟩ := sendExchange_cases params nonce attempt
  · rw [hout]
    exact iff_of_false not_known_other fun h ↦ hsigns h.1
  · rw [hout, hanswer]
    exact iff_of_true he ⟨hsigns, nofun⟩
  · rw [hout, hanswer]
    show Promised (readAnswer params response.toTokenResponse) ↔ _
    rw [readAnswer_promised_iff]
    constructor
    · intro h
      refine ⟨hsigns, ?_⟩
      intro response' hresponse
      cases hresponse
      exact h
    · intro h
      exact h.2 response rfl

/-- The requests of an exchange: two at most, and two only for a nonce. -/
theorem requests_exchangeToken (params : ExchangeTokenParams) (nonce : Option String)
    (attempts : ℕ → Attempt) :
    (exchangeToken params nonce attempts).requests.length ≤ 2 ∧
      ((exchangeToken params nonce attempts).requests.length = 2 → ∃ response,
        (attempts 0).fetch = .ok response ∧
          wantsNonce params (nonceAfter params nonce response) response.toTokenResponse =
            true) := by
  have hfirst := requests_sendExchange params nonce (attempts 0)
  unfold exchangeToken
  obtain ⟨hsigns, name, message, hout⟩ | ⟨hsigns, hanswer, e, hout, he⟩ |
    ⟨hsigns, response, hanswer, hfetch, hout, hnonce⟩ :=
      sendExchange_cases params nonce (attempts 0)
  · simp only [hout]
    omega
  · simp only [hout]
    omega
  · simp only [hout, hnonce]
    split
    · next hwants =>
      have hsecond := requests_sendExchange params (nonceAfter params nonce response) (attempts 1)
      rw [List.length_append]
      exact ⟨by omega, fun _ ↦ ⟨response, hfetch, hwants⟩⟩
    · dsimp only
      omega

/-- The outcome of an exchange is promised when it is answerable. -/
theorem promised_exchangeToken_iff (params : ExchangeTokenParams) (nonce : Option String)
    (attempts : ℕ → Attempt) :
    Promised (exchangeToken params nonce attempts).outcome ↔ Answerable params nonce attempts := by
  unfold exchangeToken Answerable
  obtain ⟨hsigns, name, message, hout⟩ | ⟨hsigns, hanswer, e, hout, he⟩ |
    ⟨hsigns, response, hanswer, -, hout, hnonce⟩ := sendExchange_cases params nonce (attempts 0)
  · simp only [hout]
    exact iff_of_false not_known_other fun h ↦ hsigns h.1
  · simp only [hout, hanswer]
    exact iff_of_true he ⟨hsigns, nofun⟩
  · simp only [hout, hnonce, hanswer]
    rw [and_iff_right hsigns]
    constructor
    · intro h response' hresponse
      cases hresponse
      split at h
      · next hwants =>
        rw [if_pos hwants]
        exact promised_second.mp h
      · next hwants =>
        rw [if_neg hwants]
        exact readAnswer_promised_iff.mp h
    · intro h
      have hresponse := h response rfl
      split at hresponse
      · next hwants =>
        rw [if_pos hwants]
        exact promised_second.mpr hresponse
      · next hwants =>
        rw [if_neg hwants]
        exact readAnswer_promised_iff.mpr hresponse

/-- An exchange settles as its callers expect for exactly the answers that can be read. -/
theorem exchangeToken_settles_iff (params : ExchangeTokenParams) (nonce : Option String)
    (attempts : ℕ → Attempt) :
    Settles params nonce (attempts 0) (exchangeToken params nonce attempts) ↔
      Answerable params nonce attempts := by
  rw [← promised_exchangeToken_iff]
  constructor
  · intro h
    exact h.promised
  · intro h
    obtain ⟨hcount, hretry⟩ := requests_exchangeToken params nonce attempts
    refine ⟨hcount, ?_, h⟩
    intro htwo
    obtain ⟨response, hfetch, hwants⟩ := hretry htwo
    simp only [wantsNonce, Bool.and_eq_true, decide_eq_true_eq] at hwants
    obtain ⟨⟨⟨hdpop, hheld⟩, hstatus⟩, herror⟩ := hwants
    obtain ⟨held, hheld⟩ := Option.isSome_iff_exists.mp hheld
    obtain ⟨hsome, hne⟩ := Option.filter_eq_some_iff.mp hheld
    exact ⟨response, held, hfetch, hstatus, herror, hdpop, by simpa using hne, hsome⟩

private def bareParams : ExchangeTokenParams where
  tokenEndpoint := "https://curity.localtest.me/oauth/v2/oauth-token"
  clientId := "agent-copilot"
  clientAuth := .basic "s3cret"
  subjectToken := "eyJ.subject.jwt"
  actorToken := "eyJ.actor.svid"
  audience := "mcp-inspect"
  scope := "inspect:read"
  dpop := false

private def emptyAnswer : Attempt where
  importKey := .ok ()
  signAssertion := .ok ()
  signProof := .ok ()
  fetch := .ok ⟨⟨200, .ok (.obj [])⟩, none⟩

/-- A 200 answer without a token resolves with `undefined` for a token. -/
theorem exchangeToken_resolves_without_token :
    ¬ ∀ params nonce attempts,
      Settles params nonce (attempts 0) (exchangeToken params nonce attempts) := by
  intro h
  have hresolved := (h bareParams none fun _ ↦ emptyAnswer).promised
  obtain ⟨⟨token, -, htoken⟩, -⟩ := hresolved
  cases htoken

end AgentsAuth.AuthCurity
