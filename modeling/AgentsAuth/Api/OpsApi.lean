import AgentsAuth.Api.Middleware

/-!
# The middleware of ops-api

`apps/ops-api/src/auth-middleware.ts` with the defaults of `apps/ops-api/src/config.ts`:
one expected actor chain, checked for length and position, and an `acr` gate.
-/

namespace AgentsAuth.Api.OpsApi

open AgentsAuth.Base AgentsAuth.AuthCurity

/-- The fields of `Config` that the middleware reads: `apps/ops-api/src/config.ts:1–24`. -/
structure Config where
  curityIssuer : String
  curityJwksUri : String
  expectedAudience : String
  requiredScopes : List String
  expectedActorChain : List (String → Bool)
  requiredAcr : String
  resourceMetadataUrl : String

/-- `loadConfig()` with only the required variables set: `apps/ops-api/src/config.ts:35–55`. -/
def loadConfig (curityIssuer curityJwksUri : String) : Config :=
  { curityIssuer := curityIssuer
    curityJwksUri := curityJwksUri
    expectedAudience := "ops-api"
    requiredScopes := ["ops:write"]
    expectedActorChain :=
      [spiffeIdPattern "mcp" "mcp-ops", spiffeIdPattern "mcp" "agentgateway",
        spiffeIdPattern "agents" "agent-specialist", spiffeIdPattern "agents" "agent-copilot"]
    requiredAcr := "mfa"
    resourceMetadataUrl := "https://ops-api.localtest.me/.well-known/oauth-protected-resource" }

/-- The first position whose actor fails its pattern. -/
def firstMismatch : Nat → List String → List (String → Bool) → Option (Nat × String)
  | i, sub :: chain, pattern :: expected =>
    if pattern sub then firstMismatch (i + 1) chain expected else some (i, sub)
  | _, _, _ => none

/-- The response to a chain of another length. -/
def chainLength (cfg : Config) (chain : List String) : Response :=
  ⟨403, some (accessDeniedChallenge "act_chain_length"),
    .obj [("error", .str "act_chain_length"),
      ("error_description", .str ("expected " ++ toString cfg.expectedActorChain.length ++
        " actors, got " ++ toString chain.length)),
      ("chain", jsonStrings chain)]⟩

/-- The response to an actor in a position that is not its own. -/
def chainPosition (cfg : Config) (chain : List String) (i : Nat) (sub : String) :
    Response :=
  let errCode :=
    if cfg.expectedActorChain.any fun pattern ↦ pattern sub then "act_chain_order"
    else "act_chain_unknown"
  ⟨403, some (accessDeniedChallenge errCode),
    .obj [("error", .str errCode), ("position", .num ⟨i, toString i⟩), ("sub", .str sub),
      ("chain", jsonStrings chain)]⟩

/-- The step-up challenge. -/
def stepUp (cfg : Config) : Response :=
  ⟨401, some ("Bearer realm=\"" ++ cfg.expectedAudience ++
      "\", error=\"insufficient_user_authentication\", acr_values=\"" ++ cfg.requiredAcr ++
      "\", resource_metadata=\"" ++ cfg.resourceMetadataUrl ++ "\""),
    .obj [("error", .str "insufficient_user_authentication"),
      ("required_acr", .str cfg.requiredAcr)]⟩

/-- Model of `apps/ops-api/src/auth-middleware.ts:35–137`. -/
def authMiddleware (jose : Jose) (cfg : Config) (authorization : Option String) : Outcome :=
  match bearerToken authorization with
  | none => .respond (missingBearer cfg.expectedAudience)
  | some token =>
    match verifyJwt jose token
        ⟨cfg.curityIssuer, cfg.expectedAudience, some cfg.curityJwksUri, none, none⟩ with
    | .error e => .respond (verificationFailed e)
    | .ok verified =>
      match decorateSpanWithIdentity verified with
      | none => .respond serverError
      | some _ =>
        match cfg.requiredScopes.filter fun s ↦ !verified.scopes.contains s with
        | [] =>
          match actObject verified.payload with
          | none => .respond actRequired
          | some top =>
            let chain := walkActChain top
            if chain.length ≠ cfg.expectedActorChain.length then .respond (chainLength cfg chain)
            else
              match firstMismatch 0 chain cfg.expectedActorChain with
              | some (i, sub) => .respond (chainPosition cfg chain i sub)
              | none =>
                if Json.string? (verified.payload "acr") ≠ some cfg.requiredAcr then
                  .respond (stepUp cfg)
                else .next verified
        | missing => .respond (insufficientScope missing)

/-- A chain passes the checks of length and position when it matches the expected one. -/
theorem chainMatches_iff {i : Nat} {chain : List String} {expected : List (String → Bool)} :
    ChainMatches chain expected ↔
      chain.length = expected.length ∧ firstMismatch i chain expected = none := by
  induction chain generalizing i expected with
  | nil =>
    cases expected with
    | nil => simp [ChainMatches, firstMismatch]
    | cons pattern expected => simp [ChainMatches]
  | cons sub chain ih =>
    cases expected with
    | nil => simp [ChainMatches]
    | cons pattern expected =>
      rw [ChainMatches, List.forall₂_cons, ← ChainMatches, ih (i := i + 1), firstMismatch]
      by_cases hsub : pattern sub = true
      · simp [hsub]
      · simp [hsub]

/-- The requests that pass: the token verifies, its span can be decorated, it has the required
scopes, the expected actor chain and the required `acr`. -/
theorem authMiddleware_next_iff {jose : Jose} {cfg : Config} {authorization : Option String}
    {caller : VerifiedJwt} :
    authMiddleware jose cfg authorization = .next caller ↔
      ∃ token, bearerToken authorization = some token ∧
        verifyJwt jose token
          ⟨cfg.curityIssuer, cfg.expectedAudience, some cfg.curityJwksUri, none, none⟩ =
            .ok caller ∧
        ScopesWritable caller.payload ∧ (∀ s ∈ cfg.requiredScopes, s ∈ caller.scopes) ∧
        (∃ top, actObject caller.payload = some top ∧
          ChainMatches (walkActChain top) cfg.expectedActorChain) ∧
        caller.payload "acr" = some (.str cfg.requiredAcr) := by
  constructor
  · intro h
    unfold authMiddleware at h
    split at h
    · cases h
    · next token htoken =>
      split at h
      · cases h
      · next verified hverified =>
        split at h
        · cases h
        · next attributes hspan =>
          split at h
          · next hscopes =>
            split at h
            · cases h
            · next top htop =>
              simp only at h
              split at h
              · cases h
              · next hlength =>
                split at h
                · cases h
                · next hmatch =>
                  split at h
                  · cases h
                  · next hacr =>
                    cases h
                    have hwritable := decorateSpanWithIdentity_isSome_iff.mp
                      (Option.isSome_iff_exists.mpr ⟨attributes, hspan⟩)
                    have hchain := chainMatches_iff.mpr ⟨not_not.mp hlength, hmatch⟩
                    exact ⟨token, htoken, hverified, hwritable, missing_eq_nil_iff.mp hscopes,
                      ⟨top, htop, hchain⟩, Json.string?_eq_some_iff.mp (not_not.mp hacr)⟩
          · cases h
  · rintro ⟨token, htoken, hverified, hwritable, hscopes, ⟨top, htop, hchain⟩, hacr⟩
    obtain ⟨attributes, hspan⟩ :=
      Option.isSome_iff_exists.mp (decorateSpanWithIdentity_isSome_iff.mpr hwritable)
    have hmissing := missing_eq_nil_iff.mpr hscopes
    obtain ⟨hlength, hmatch⟩ := (chainMatches_iff (i := 0)).mp hchain
    rw [authMiddleware, htoken]
    simp only [hverified, hspan, hmissing, htop, hlength, hmatch,
      Json.string?_eq_some_iff.mpr hacr, ne_eq, not_true_eq_false, if_false]

/-- A request that passes presents a verified token with the required scopes, the expected
actor chain and the required `acr`. -/
theorem authMiddleware_next {jose : Jose} {cfg : Config} {authorization : Option String}
    {caller : VerifiedJwt} (h : authMiddleware jose cfg authorization = .next caller) :
    ∃ token top, bearerToken authorization = some token ∧
      verifyJwt jose token
        ⟨cfg.curityIssuer, cfg.expectedAudience, some cfg.curityJwksUri, none, none⟩ =
          .ok caller ∧
      (∀ s ∈ cfg.requiredScopes, s ∈ caller.scopes) ∧ actObject caller.payload = some top ∧
      ChainMatches (walkActChain top) cfg.expectedActorChain ∧
      caller.payload "acr" = some (.str cfg.requiredAcr) := by
  obtain ⟨token, htoken, hverified, -, hscopes, ⟨top, htop, hchain⟩, hacr⟩ :=
    authMiddleware_next_iff.mp h
  exact ⟨token, top, htoken, hverified, hscopes, htop, hchain, hacr⟩

end AgentsAuth.Api.OpsApi
