import AgentsAuth.AuthCurity.Verify
import Mathlib.Data.Rat.Floor

/-!
# The client side of a token exchange

`packages/auth-curity/src/exchange.ts`: what an agent asks of the token endpoint and
how it reads the answer. `CurityAuthError` codes are all that the callers look at, so
the order of the checks on a refused exchange decides what a user is told.
-/

namespace AgentsAuth.AuthCurity

open AgentsAuth.Base AgentsAuth.Lib

/-- What a call throws: an error with a code, or another error with its name. -/
inductive Thrown where
  | curityAuth (e : CurityAuthError)
  | other (name message : String)
deriving DecidableEq

/-- `e.message`. -/
def Thrown.message : Thrown → String
  | .curityAuth e => e.message
  | .other _ message => message

/-- `String(e)`. -/
def Thrown.toText : Thrown → String
  | .curityAuth e => "CurityAuthError: " ++ e.message
  | .other name message => name ++ ": " ++ message

/-- `ClientAuth` of `exchange.ts:18–36`, without the key material. -/
inductive ClientAuth where
  | basic (clientSecret : String)
  | privateKeyJwt (kid assertionAudience : String)
deriving DecidableEq

/-- `ExchangeTokenParams` of `exchange.ts:38–63`; the token types keep their defaults. -/
structure ExchangeTokenParams where
  tokenEndpoint : String
  clientId : String
  clientAuth : ClientAuth
  subjectToken : String
  actorToken : String
  audience : String
  scope : String
  dpop : Bool
deriving DecidableEq

/-- `ExchangeTokenResult` of `exchange.ts:65–71`. -/
structure ExchangeTokenResult where
  accessToken : String
  tokenType : String
  expiresInSec : ℚ
  scope : String
  issuedTokenType : String
deriving DecidableEq

/-- An HTTP answer of the token endpoint; a body that is no JSON has a parse error. -/
structure TokenResponse where
  status : Nat
  body : Except String Json

/-- `response.ok`. -/
def TokenResponse.ok (r : TokenResponse) : Bool := 200 ≤ r.status && r.status ≤ 299

/-- `ERROR_MAP` of `exchange.ts:84–89`. -/
def errorMap : List (String × CurityAuthErrorCode) :=
  [("invalid_scope", .invalidScope), ("invalid_grant", .invalidGrant),
    ("access_denied", .accessDenied), ("invalid_client", .invalidClient)]

/-- A member of a parsed body; `none` is `undefined`. -/
def TokenResponse.member (r : TokenResponse) (name : String) : Option Json :=
  match r.body with
  | .ok body => body.get? name
  | .error _ => none

/-- The error of reading a member of `null`. -/
def nullMember (name : String) : Thrown :=
  .other "TypeError" ("Cannot read properties of null (reading '" ++ name ++ "')")

/-- The error of writing a value without a text. -/
def noText : Thrown := .other "TypeError" "Cannot convert object to primitive value"

/-- `new RegExp(word, 'i').test(text)` for a word of lower-case letters. -/
def mentions (text word : String) : Bool :=
  includes (String.ofList (text.toList.map Char.toLower)) word

/-- What a text mentions, character by character. -/
theorem mentions_ofList (text word : List Char) :
    mentions (String.ofList text) (String.ofList word) =
      (text.map Char.toLower).tails.any word.isPrefixOf := by
  simp only [mentions, includes, String.toList_ofList]

/-- A word without blanks is mentioned on one side of a blank. -/
theorem mentions_append {word : String} (hblank : ' ' ∉ word.toList) (a b : String) :
    mentions (a ++ " " ++ b) word = (mentions a word || mentions b word) := by
  rw [Bool.eq_iff_iff, Bool.or_eq_true]
  simp only [mentions, includes_iff, String.toList_ofList, String.toList_append, List.map_append]
  change word.toList <:+: _ ++ [' '] ++ _ ↔ _
  rw [List.append_assoc]
  exact infix_append_cons_iff hblank

/-- The code and the message of an error that `parsed.error` names: `exchange.ts:198–223`. A name
that `ERROR_MAP` inherits gives a code that no caller names. -/
def classify (status : Nat) (oauthError : Json) (description : Option Json) : CurityAuthError :=
  let text := description.elim "" Json.toText
  let invalidRequest := Json.string? (some oauthError) = some "invalid_request"
  match property nodePrototype errorMap oauthError.toText with
  | .own code => ⟨(description.getD oauthError).toText, code⟩
  | .inherited => ⟨(description.getD oauthError).toText, .exchangeFailed⟩
  | .missing =>
    if invalidRequest ∧ mentions text "actor" then
      ⟨description.elim "invalid actor_token" Json.toText, .invalidActor⟩
    else if invalidRequest ∧ mentions text "invalid_scope" then
      ⟨description.elim "invalid_scope" Json.toText, .invalidScope⟩
    else
      ⟨"token-exchange failed: HTTP " ++ toString status ++ " " ++ oauthError.toText ++
        (description.filter (·.truthy)).elim "" (": " ++ ·.toText), .exchangeFailed⟩

/-- The error of a refused exchange: `exchange.ts:190–224`. -/
def refusal (r : TokenResponse) : Thrown :=
  let description := (r.member "error_description").filter (·.notNull)
  match r.body, (r.member "error").filter (·.truthy) with
  | .ok .null, _ => nullMember "error"
  | _, none =>
    if description.all (·.hasText) then
      .curityAuth ⟨"token-exchange failed: HTTP " ++ toString r.status ++
        (description.filter (·.truthy)).elim "" (": " ++ ·.toText), .exchangeFailed⟩
    else noText
  | _, some oauthError =>
    if oauthError.hasText && description.all (·.hasText) then
      .curityAuth (classify r.status oauthError description)
    else noText

/-- The number that a member holds. -/
private def number? : Option Json → Option ℚ
  | some (.num n) => some n.value
  | _ => none

/-- How an answer is read: `exchange.ts:147–224`. -/
def readExchange (params : ExchangeTokenParams) (r : TokenResponse) :
    Except Thrown ExchangeTokenResult :=
  if r.ok then
    match r.body with
    | .error message =>
      .error (.curityAuth
        ⟨"token-exchange returned malformed JSON: " ++ message, .exchangeFailed⟩)
    | .ok .null => .error (nullMember "scope")
    | .ok json =>
      let text (name fallback : String) : String :=
        ((json.get? name).filter (·.notNull)).elim fallback Json.toText
      .ok
        { accessToken := (json.get? "access_token").elim "undefined" Json.toText
          tokenType := text "token_type" "Bearer"
          expiresInSec := (number? (json.get? "expires_in")).getD 0
          scope := text "scope" params.scope
          issuedTokenType :=
            text "issued_token_type" "urn:ietf:params:oauth:token-type:access_token" }
  else .error (refusal r)

/-- Model of `doExchange`, `exchange.ts:139–225`: `first` and `second` are what `sendExchange`
yields, and `nonce` is the one that the key of the request holds after the first answer. -/
def doExchange (params : ExchangeTokenParams) (nonce : Option String)
    (first second : Except Thrown TokenResponse) : Except Thrown ExchangeTokenResult := do
  let response ← first
  if params.dpop ∧ nonce.any (· ≠ "") ∧ response.status = 400 ∧
      Json.string? (response.member "error") = some "use_dpop_nonce" then
    readExchange params (← second)
  else readExchange params response

end AgentsAuth.AuthCurity
