import AgentsAuth.Base.Json
import AgentsAuth.Lib.Fallible
import AgentsAuth.Lib.Words

/-!
# Verification of the actor token

How `k8s/curity/procedures/token-exchange.js` verifies a SPIFFE JWT-SVID against
SPIRE's key set, and the key set cache of a worker thread. The jose4j library, the
clock and the HTTP client are outside the repository.
-/

namespace AgentsAuth.Curity

open AgentsAuth.Base AgentsAuth.Lib

/-- How a procedure ends without a result: an exception of its `exceptionFactory`, one of
Curity's own checks, or an exception of the script engine. -/
inductive ProcedureError where
  | badRequest (description : String)
  | badRequestWithCode (code description : String)
  | forbidden (description : String)
  | internalServer (description : String)
  | curity (code description : String)
  | engine (message : String)
deriving DecidableEq

/-- Model of `k8s/curity/procedures/token-exchange.js:152–154`. -/
def invalidRequest {α : Type} (description : String) : Except ProcedureError α :=
  .error (.badRequest description)

/-- Model of `k8s/curity/procedures/token-exchange.js:156–158`. -/
def failWithCode {α : Type} (code description : String) : Except ProcedureError α :=
  .error (.badRequestWithCode code description)

/-- Model of `k8s/curity/procedures/token-exchange.js:160–162`. -/
def accessDenied {α : Type} (description : String) : Except ProcedureError α :=
  .error (.forbidden description)

/-- A key of SPIRE's key set; `getKeyId()` may be null. -/
structure JsonWebKey where
  kid : Option String
  key : String

/-- `JWKS_CACHE`: the resolver is the keys it was built from. -/
structure JwksCache where
  resolver : Option (List JsonWebKey)
  kids : List String
  fetchedAt : Int

/-- `JWKS_CACHE` of a new worker: `token-exchange.js:40`. -/
def JwksCache.initial : JwksCache := ⟨none, [], 0⟩

/-- `JWKS_REFETCH_MIN_INTERVAL_MS`. -/
def jwksRefetchMinIntervalMs : Int := 30000

/-- `EXPECTED_ACTOR_AUD`. -/
def expectedActorAud : String := "https://curity.localtest.me/oauth/v2/oauth-token"

/-- What the script uses of the engine's Java classes. `none` is a thrown exception. -/
structure Jose4j where
  /-- `JSON.parse` of the Base64url-decoded header part of a compact JWT. -/
  decodeHeader : String → Option Json
  /-- The keys of `new JsonWebKeySet(body)`. -/
  parseKeySet : String → Option (List JsonWebKey)
  /-- `getSubject()` of `processToClaims`, for keys, expected audience, skew, clock and JWT. -/
  processToClaims : List JsonWebKey → String → Int → Int → String → Option String

/-- How the call to SPIRE's key set endpoint ends. -/
inductive JwksAnswer where
  | failed
  | response (status : Nat) (body : String)

/-- What one run of the procedure meets: the clock before and after a fetch, and the fetch. -/
structure Surroundings where
  now : Int
  fetchedAt : Int
  answer : JwksAnswer

/-- Model of `k8s/curity/procedures/token-exchange.js:220–227`; `none` is a thrown error. -/
def fetchJwks : JwksAnswer → Option String
  | .failed => none
  | .response status body => if status ≠ 200 then none else some body

/-- Model of `k8s/curity/procedures/token-exchange.js:231–241`. -/
def jwtHeaderKid (jose : Jose4j) (rawJwt : String) : Except ProcedureError (Option String) :=
  match piecesBy (· = '.') rawJwt with
  | first :: _ :: _ =>
    match jose.decodeHeader first with
    | none => .error (.engine "the header is not Base64url-encoded JSON")
    | some .null => .error (.engine "TypeError: null has no property kid")
    | some header =>
      match (header.get? "kid").filter (·.truthy) with
      | some kid =>
        if kid.hasText then .ok (some kid.toText)
        else .error (.engine "TypeError: cannot convert kid to a string")
      | none => .ok none
  | _ => .ok none

/-- `neededKid && JWKS_CACHE.kids[neededKid]`. -/
def JwksCache.covers (cache : JwksCache) : Option String → Bool
  | none => false
  | some neededKid =>
    neededKid ≠ "" &&
      match property scriptPrototype (cache.kids.map fun kid ↦ (kid, ())) neededKid with
      | .missing => false
      | _ => true

/-- The fetching half of `getResolver`: `token-exchange.js:261–284`. -/
def refreshResolver (jose : Jose4j) (cache : JwksCache) (env : Surroundings) :
    JwksCache × Except ProcedureError (List JsonWebKey) :=
  match fetchJwks env.answer with
  | none => (cache, .error (.internalServer "SPIRE JWKS unavailable"))
  | some body =>
    match jose.parseKeySet body with
    | none => (cache, .error (.engine "the body is not a JSON Web Key Set"))
    | some keys =>
      let kids := keys.filterMap fun key ↦ key.kid.filter (· ≠ "")
      (⟨some keys, kids, env.fetchedAt⟩, .ok keys)

/-- Model of `k8s/curity/procedures/token-exchange.js:249–285`. -/
def getResolver (jose : Jose4j) (cache : JwksCache) (env : Surroundings)
    (neededKid : Option String) : JwksCache × Except ProcedureError (List JsonWebKey) :=
  match cache.resolver with
  | some keys =>
    if cache.covers neededKid then (cache, .ok keys)
    else if env.now - cache.fetchedAt < jwksRefetchMinIntervalMs then (cache, .ok keys)
    else refreshResolver jose cache env
  | none => refreshResolver jose cache env

/-- Whether `getResolver` calls `fetchJwks`: `token-exchange.js:250–260`. -/
def JwksCache.mustFetch (cache : JwksCache) (now : Int) (neededKid : Option String) : Bool :=
  cache.resolver.isNone ||
    (!cache.covers neededKid && jwksRefetchMinIntervalMs ≤ now - cache.fetchedAt)

/-- A resolver comes from the cache or from a fetch. -/
theorem getResolver_cases (jose : Jose4j) (cache : JwksCache) (env : Surroundings)
    (neededKid : Option String) :
    (cache.mustFetch env.now neededKid = true ∧
        getResolver jose cache env neededKid = refreshResolver jose cache env) ∨
      (cache.mustFetch env.now neededKid = false ∧ ∃ keys, cache.resolver = some keys ∧
        getResolver jose cache env neededKid = (cache, .ok keys)) := by
  unfold getResolver JwksCache.mustFetch
  cases cache.resolver with
  | none => exact Or.inl ⟨rfl, rfl⟩
  | some keys =>
    cases cache.covers neededKid with
    | true => exact Or.inr ⟨rfl, keys, rfl, rfl⟩
    | false =>
      by_cases hrecent : env.now - cache.fetchedAt < jwksRefetchMinIntervalMs
      · exact Or.inr ⟨by simpa using hrecent, keys, rfl, by simp [hrecent]⟩
      · exact Or.inl ⟨by simpa using hrecent, by simp [hrecent]⟩

/-- Model of `k8s/curity/procedures/token-exchange.js:289–310`; the result is `sub`. -/
def verifySpiffeSvid (jose : Jose4j) (cache : JwksCache) (env : Surroundings) (rawJwt : String) :
    JwksCache × Except ProcedureError String :=
  match jwtHeaderKid jose rawJwt with
  | .error e => (cache, .error e)
  | .ok kid =>
    match getResolver jose cache env kid with
    | (cache, .error e) => (cache, .error e)
    | (cache, .ok keys) =>
      match jose.processToClaims keys expectedActorAud 30 env.now rawJwt with
      | some sub => (cache, .ok sub)
      | none =>
        (cache, invalidRequest
          "actor_token is not a valid SPIFFE JWT-SVID for this token endpoint")

end AgentsAuth.Curity
