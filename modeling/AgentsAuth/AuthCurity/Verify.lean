import AgentsAuth.Base.Json
import AgentsAuth.Curity.Token
import AgentsAuth.Lib.Words

/-!
# Verification of access tokens

`packages/auth-curity/src/verify.ts`: a service verifies a compact JWT through the
`jose` library and reads its scopes. The library and the compact form are outside
the repository; what is relied on is a field of `Jose`.
-/

namespace AgentsAuth.AuthCurity

open AgentsAuth.Base AgentsAuth.Curity AgentsAuth.Lib

/-- The claims of a verified payload by name; `none` is `undefined`. -/
abbrev Claims := String → Option Json

/-- A list of strings as a JSON array. -/
def jsonStrings (items : List String) : Json := .arr (items.map Json.str)

/-- The `roles` claim on the wire. -/
def rolesJson : RolesClaim → Option Json
  | .text s => some (.str s)
  | .items .absent => none
  | .items v => some (jsonStrings (setToArray v))

/-- The claims that a token issued by Curity carries on the wire. -/
def tokenClaims (t : TokenData) : Claims
  | "sub" => some (.str t.sub)
  | "jti" => some (.str t.jti)
  | "exp" => some (.num ⟨t.exp, toString t.exp⟩)
  | "aud" => some (jsonStrings t.aud)
  | "scope" => t.scope.map Json.str
  | "acr" => t.acr.map Json.str
  | "roles" => rolesJson t.roles
  | "act" => t.act
  | "may_act" => (mayActSub t.mayAct).map fun sub ↦ .obj [("sub", .str sub)]
  | _ => none

/-- `CurityAuthErrorCode` of `packages/auth-curity/src/errors.ts:1–20`. -/
inductive CurityAuthErrorCode where
  | accessDenied
  | cimdUnsupported
  | discoveryFailed
  | exchangeFailed
  | expiredToken
  | invalidActor
  | invalidAudience
  | invalidClient
  | invalidGrant
  | invalidIssuer
  | invalidScope
  | invalidToken
  | jwksFailed
  | resourceMismatch
  | scopeUnavailable
  | stepUpRequired
deriving DecidableEq

/-- The text of an error code. -/
def CurityAuthErrorCode.toText : CurityAuthErrorCode → String
  | .accessDenied => "access_denied"
  | .cimdUnsupported => "cimd_unsupported"
  | .discoveryFailed => "discovery_failed"
  | .exchangeFailed => "exchange_failed"
  | .expiredToken => "expired_token"
  | .invalidActor => "invalid_actor"
  | .invalidAudience => "invalid_audience"
  | .invalidClient => "invalid_client"
  | .invalidGrant => "invalid_grant"
  | .invalidIssuer => "invalid_issuer"
  | .invalidScope => "invalid_scope"
  | .invalidToken => "invalid_token"
  | .jwksFailed => "jwks_failed"
  | .resourceMismatch => "resource_mismatch"
  | .scopeUnavailable => "scope_unavailable"
  | .stepUpRequired => "step_up_required"

/-- `CurityAuthError` of `packages/auth-curity/src/errors.ts:22–31`. -/
structure CurityAuthError where
  message : String
  code : CurityAuthErrorCode
deriving DecidableEq

/-- The options of `jwtVerify` that `verifyJwt` sets. -/
structure VerifyOptions where
  issuer : String
  audience : String
  jwksUri : String
  algorithms : List String
  clockToleranceSec : Nat

/-- The `jose` library and the compact form of Curity's tokens. -/
structure Jose where
  /-- `jwtVerify`: the payload, or the message of the error it rejects with. -/
  jwtVerify : String → VerifyOptions → Except String Claims
  /-- The compact JWT that Curity issues for some token data. -/
  compact : TokenData → String

/-- Verification is sound for a token of Curity's: if its compact form verifies, the payload is
the token's claims and the audience asked for is one of its own. -/
def Jose.SoundFor (jose : Jose) (t : TokenData) : Prop :=
  ∀ opts claims, jose.jwtVerify (jose.compact t) opts = .ok claims →
    claims = tokenClaims t ∧ opts.audience ∈ t.aud

/-- `VerifyJwtOptions` of `packages/auth-curity/src/verify.ts:4–15`. -/
structure VerifyJwtOptions where
  issuer : String
  audience : String
  jwksUri : Option String
  algorithms : Option (List String)
  clockToleranceSec : Option Nat

/-- `VerifiedJwt`; its scopes are a set, here without repetition being relevant. -/
structure VerifiedJwt where
  payload : Claims
  scopes : List String

/-- Model of `packages/auth-curity/src/verify.ts:82–88`. A non-string item of `scp` is no scope
that any string equals. -/
def parseScopes (payload : Claims) : List String :=
  match payload "scp" with
  | some (.arr items) => items.filterMap fun item ↦ Json.string? (some item)
  | _ =>
    match payload "scope" with
    | some (.str scope) => wordsBy (· = ' ') scope
    | _ => []

/-- The error that `verifyJwt` throws for a message of `jwtVerify`: `verify.ts:67–79`. -/
def verifyError (msg : String) : CurityAuthError :=
  if includes msg "JWTExpired" || includes msg "\"exp\"" then
    ⟨"Token expired", .expiredToken⟩
  else if includes msg "issuer" || includes msg "iss" then
    ⟨"Invalid issuer: " ++ msg, .invalidIssuer⟩
  else if includes msg "audience" || includes msg "aud" then
    ⟨"Invalid audience: " ++ msg, .invalidAudience⟩
  else ⟨"Token verification failed: " ++ msg, .invalidToken⟩

/-- Model of `packages/auth-curity/src/verify.ts:47–80`. -/
def verifyJwt (jose : Jose) (token : String) (opts : VerifyJwtOptions) :
    Except CurityAuthError VerifiedJwt :=
  match opts.jwksUri.filter (· ≠ "") with
  | none =>
    .error ⟨"verifyJwt: jwksUri is required (call getOidcConfig first if you only have the " ++
      "issuer URL)", .jwksFailed⟩
  | some jwksUri =>
    match jose.jwtVerify token
        ⟨opts.issuer, opts.audience, jwksUri, opts.algorithms.getD ["RS256", "ES256"],
          opts.clockToleranceSec.getD 30⟩ with
    | .error msg => .error (verifyError msg)
    | .ok payload => .ok ⟨payload, parseScopes payload⟩

/-- A claim that the types declare a string, or what stands for its absence. -/
def claimOr (claims : Claims) (name fallback : String) : String :=
  match claims name with
  | none => fallback
  | some .null => fallback
  | some value => value.toText

/-- The token of an `Authorization` header with the `bearer` scheme in any case, as every
service reads it. -/
def bearerToken (authorization : Option String) : Option String :=
  match authorization with
  | none => none
  | some authz =>
    if (authz.toList.take 7).map Char.toLower = "bearer ".toList then
      some (trim (String.ofList (authz.toList.drop 7)))
    else none

/-- What a service learns from a verified token that Curity issued. -/
theorem verifyJwt_compact {jose : Jose} {t : TokenData} {opts : VerifyJwtOptions}
    {verified : VerifiedJwt} (hsound : jose.SoundFor t)
    (h : verifyJwt jose (jose.compact t) opts = .ok verified) :
    verified.payload = tokenClaims t ∧ opts.audience ∈ t.aud ∧
      verified.scopes = parseScopes (tokenClaims t) := by
  unfold verifyJwt at h
  split at h
  · cases h
  · next jwksUri _ =>
    split at h
    · cases h
    · next payload hpayload =>
      cases h
      obtain ⟨rfl, haud⟩ := hsound _ _ hpayload
      exact ⟨rfl, haud, rfl⟩

/-- A token whose scope claim joins words by blanks has these words as its scopes. -/
theorem parseScopes_tokenClaims {t : TokenData} {ss : List String}
    (hw : ∀ s ∈ ss, IsWord isSpace s) (h : t.scope = some (" ".intercalate ss)) :
    parseScopes (tokenClaims t) = ss := by
  have hblank : ∀ s ∈ ss, IsWord (· = ' ') s := by
    intro s hs
    refine ⟨(hw s hs).1, fun c hc ↦ ?_⟩
    have hspace := (hw s hs).2 c hc
    by_cases hcb : c = ' '
    · subst hcb
      exact absurd hspace (by decide)
    · simp [hcb]
  simp only [parseScopes, tokenClaims, h, Option.map_some]
  exact wordsBy_intercalate (c := ' ') (by decide) hblank

end AgentsAuth.AuthCurity
