import AgentsAuth.Api.McpOps

/-!
# The middleware of mcp-inspect

`apps/mcp-inspect/src/auth-middleware.ts` with the defaults of `apps/mcp-inspect/src/config.ts`:
the actor that calls is checked before the scopes, the chain behind it is not, and there is no
`acr` gate.
-/

namespace AgentsAuth.Api.McpInspect

open AgentsAuth.Base AgentsAuth.AuthCurity

/-- The fields of `Config` that the middleware reads: `apps/mcp-inspect/src/config.ts:1–19`. -/
structure Config where
  curityIssuer : String
  curityJwksUri : String
  expectedAudience : String
  requiredScopes : List String
  resourceMetadataUrl : String
  actorPattern : String → Bool

/-- `loadConfig()` with only the required variables set: `apps/mcp-inspect/src/config.ts:27–54`. -/
def loadConfig (curityIssuer curityJwksUri : String) : Config :=
  { curityIssuer := curityIssuer
    curityJwksUri := curityJwksUri
    expectedAudience := "mcp-inspect"
    requiredScopes := ["inspect:read"]
    resourceMetadataUrl :=
      "https://mcp-gateway.localtest.me/.well-known/oauth-protected-resource/inspect/mcp"
    actorPattern := spiffeIdPattern "mcp" "agentgateway" }

/-- Model of `apps/mcp-inspect/src/auth-middleware.ts:14–19`, the same as in mcp-ops. -/
def bearerChallenge (params : List (String × Option String)) : String :=
  McpOps.bearerChallenge params

/-- The response to a request without a bearer token: `auth-middleware.ts:24–41`. -/
def missingBearer (cfg : Config) : Response :=
  ⟨401, some (bearerChallenge
      [("realm", some cfg.expectedAudience), ("scope", some (" ".intercalate cfg.requiredScopes)),
        ("resource_metadata", some cfg.resourceMetadataUrl)]),
    errorBody "invalid_token" "missing Bearer token"⟩

/-- The challenge for a token that is invalid: `auth-middleware.ts:52–66,104–120`. -/
def invalidToken (cfg : Config) (description : String) : String :=
  bearerChallenge
    [("realm", some cfg.expectedAudience), ("error", some "invalid_token"),
      ("error_description", some description),
      ("resource_metadata", some cfg.resourceMetadataUrl)]

/-- The response to a token that does not verify. -/
def verificationFailed (cfg : Config) (e : CurityAuthError) : Response :=
  challenged (invalidToken cfg (e.code.toText ++ ": " ++ e.message))
    (errorBody e.code.toText e.message)

/-- The response to a token without an actor. -/
def missingActor (cfg : Config) : Response :=
  ⟨401, some (invalidToken cfg "missing act.sub (OBO required)"),
    errorBody "invalid_token" "missing act.sub (OBO required)"⟩

private def actorNotAllowed (actor : String) : Response :=
  ⟨403, some "Bearer error=\"access_denied\", error_description=\"actor not allowed\"",
    errorBody "access_denied" ("actor " ++ actor ++ " not allowed")⟩

private def insufficientScope (cfg : Config) (missing : List String) : Response :=
  ⟨403, some ("Bearer error=\"insufficient_scope\", scope=\"" ++ " ".intercalate missing ++
      "\", resource_metadata=\"" ++ cfg.resourceMetadataUrl ++ "\""),
    .obj [("error", .str "insufficient_scope"), ("missing_scopes", jsonStrings missing)]⟩

/-- `AuthInfo` of the MCP SDK, as the middleware fills it in. -/
structure AuthInfo where
  token : String
  clientId : String
  scopes : List Json
  sub : String

/-- How the middleware ends. -/
inductive Outcome where
  | next (caller : VerifiedJwt) (auth : AuthInfo)
  | respond (response : Response)

/-- `verified.payload.act?.sub` where it is not falsy. -/
def actSub (payload : Claims) : Option Json :=
  ((payload "act").bind (Json.get? · "sub")).filter Json.truthy

/-- `req.auth` of `apps/mcp-inspect/src/auth-middleware.ts:95–100`; `none` where a claim has no
text. -/
def authInfo (token : String) (verified : VerifiedJwt) (actor : Json) : Option AuthInfo := do
  let clientId ← (((verified.payload "client_id").filter Json.notNull).getD actor).text?
  let sub ← (((verified.payload "sub").filter Json.notNull).getD (.str "unknown")).text?
  return ⟨token, clientId, scopeItems verified.payload, sub⟩

/-- Model of `apps/mcp-inspect/src/auth-middleware.ts:21–126`. -/
def authMiddleware (jose : Jose) (cfg : Config) (authorization : Option String) : Outcome :=
  match bearerToken authorization with
  | none => .respond (missingBearer cfg)
  | some token =>
    match verifyJwt jose token
        ⟨cfg.curityIssuer, cfg.expectedAudience, some cfg.curityJwksUri, none, none⟩ with
    | .error e => .respond (verificationFailed cfg e)
    | .ok verified =>
      match actSub verified.payload with
      | none => .respond (missingActor cfg)
      | some actor =>
        match actor.text? with
        | none => .respond serverError
        | some sub =>
          if cfg.actorPattern sub = false then .respond (actorNotAllowed sub)
          else
            match cfg.requiredScopes.filter fun s ↦ !verified.scopes.contains s with
            | [] =>
              match authInfo token verified actor with
              | none => .respond serverError
              | some auth =>
                match decorateSpanWithIdentity verified with
                | none => .respond serverError
                | some _ => .next verified auth
            | missing => .respond (insufficientScope cfg missing)

/-- The requests that pass: the token verifies, its actor is allowed, it has the required scopes,
and `req.auth` and the span can be filled in. -/
theorem authMiddleware_next_iff {jose : Jose} {cfg : Config} {authorization : Option String}
    {caller : VerifiedJwt} {auth : AuthInfo} :
    authMiddleware jose cfg authorization = .next caller auth ↔
      ∃ token actor sub, bearerToken authorization = some token ∧
        verifyJwt jose token
          ⟨cfg.curityIssuer, cfg.expectedAudience, some cfg.curityJwksUri, none, none⟩ =
            .ok caller ∧
        actSub caller.payload = some actor ∧ actor.text? = some sub ∧
        cfg.actorPattern sub = true ∧ (∀ s ∈ cfg.requiredScopes, s ∈ caller.scopes) ∧
        authInfo token caller actor = some auth ∧ ScopesWritable caller.payload := by
  constructor
  · intro h
    unfold authMiddleware at h
    split at h
    · cases h
    · next token htoken =>
      split at h
      · cases h
      · next verified hverified =>
        split at h
        · cases h
        · next actor hactor =>
          split at h
          · cases h
          · next sub hsub =>
            split at h
            · cases h
            · next hallowed =>
              split at h
              · next hscopes =>
                split at h
                · cases h
                · next auth' hauth =>
                  split at h
                  · cases h
                  · next attributes hspan =>
                    cases h
                    have hwritable := decorateSpanWithIdentity_isSome_iff.mp
                      (Option.isSome_iff_exists.mpr ⟨attributes, hspan⟩)
                    exact ⟨token, actor, sub, htoken, hverified, hactor, hsub,
                      eq_true_of_ne_false hallowed, missing_eq_nil_iff.mp hscopes, hauth, hwritable⟩
              · cases h
  · rintro ⟨token, actor, sub, htoken, hverified, hactor, hsub, hallowed, hscopes, hauth, hwritable⟩
    obtain ⟨attributes, hspan⟩ :=
      Option.isSome_iff_exists.mp (decorateSpanWithIdentity_isSome_iff.mpr hwritable)
    have hmissing := missing_eq_nil_iff.mpr hscopes
    rw [authMiddleware, htoken]
    simp only [hverified, hactor, hsub, hallowed, hmissing, hauth, hspan, Bool.true_eq_false,
      if_false]

end AgentsAuth.Api.McpInspect
