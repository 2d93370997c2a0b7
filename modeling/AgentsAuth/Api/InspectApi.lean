import AgentsAuth.Api.Middleware

/-!
# The middleware of inspect-api

`apps/inspect-api/src/auth-middleware.ts` with the defaults of
`apps/inspect-api/src/config.ts`: several actor chains are allowed and there is no
`acr` gate.
-/

namespace AgentsAuth.Api.InspectApi

open AgentsAuth.Base AgentsAuth.AuthCurity

/-- The fields of `Config` that the middleware reads: `apps/inspect-api/src/config.ts:1–15`. -/
structure Config where
  curityIssuer : String
  curityJwksUri : String
  expectedAudience : String
  requiredScopes : List String
  expectedActorChains : List (List (String → Bool))

/-- `loadConfig()` with only the required variables set: `apps/inspect-api/src/config.ts:26–50`. -/
def loadConfig (curityIssuer curityJwksUri : String) : Config :=
  { curityIssuer := curityIssuer
    curityJwksUri := curityJwksUri
    expectedAudience := "inspect-api"
    requiredScopes := ["inspect:read"]
    expectedActorChains :=
      [[spiffeIdPattern "mcp" "mcp-inspect", spiffeIdPattern "mcp" "agentgateway",
          spiffeIdPattern "agents" "agent-copilot"],
        [spiffeIdPattern "mcp" "mcp-inspect", spiffeIdPattern "mcp" "agentgateway",
          spiffeIdPattern "agents" "agent-specialist", spiffeIdPattern "agents" "agent-copilot"]] }

/-- Every actor of the chain passes the pattern at its position. -/
def everyMatches : List String → List (String → Bool) → Bool
  | sub :: chain, pattern :: expected => pattern sub && everyMatches chain expected
  | [], [] => true
  | _, _ => false

/-- Model of `apps/inspect-api/src/auth-middleware.ts:34–41`. -/
def chainMatchesAny (chain : List String) (allowed : List (List (String → Bool))) : Bool :=
  allowed.any fun expected ↦ expected.length = chain.length && everyMatches chain expected

private def actChain (chain : List String) : Response :=
  ⟨403, some (accessDeniedChallenge "act_chain"),
    .obj [("error", .str "act_chain"), ("error_description", .str "actor chain not allowed"),
      ("chain", jsonStrings chain)]⟩

/-- Model of `apps/inspect-api/src/auth-middleware.ts:43–108`. -/
def authMiddleware (jose : Jose) (cfg : Config) (authorization : Option String) : Outcome :=
  match bearerToken authorization with
  | none => .respond (missingBearer cfg.expectedAudience)
  | some token =>
    match verifyJwt jose token
        ⟨cfg.curityIssuer, cfg.expectedAudience, some cfg.curityJwksUri, none, none⟩ with
    | .error e => .respond (verificationFailed e)
    | .ok verified =>
      match decorateSpanWithIdentity verified with
      | none => .respond serverError
      | some _ =>
        match cfg.requiredScopes.filter fun s ↦ !verified.scopes.contains s with
        | [] =>
          match actObject verified.payload with
          | none => .respond actRequired
          | some top =>
            if chainMatchesAny (walkActChain top) cfg.expectedActorChains then .next verified
            else .respond (actChain (walkActChain top))
        | missing => .respond (insufficientScope missing)

private theorem everyMatches_iff {chain : List String} {expected : List (String → Bool)} :
    everyMatches chain expected = true ↔ ChainMatches chain expected := by
  induction chain generalizing expected with
  | nil =>
    cases expected with
    | nil => simp [everyMatches, ChainMatches]
    | cons pattern expected => simp [everyMatches, ChainMatches]
  | cons sub chain ih =>
    cases expected with
    | nil => simp [everyMatches, ChainMatches]
    | cons pattern expected =>
      rw [everyMatches, Bool.and_eq_true, ih, ChainMatches, ChainMatches, List.forall₂_cons]

/-- A chain is allowed when it matches one of the expected ones. -/
theorem chainMatchesAny_iff {chain : List String} {allowed : List (List (String → Bool))} :
    chainMatchesAny chain allowed = true ↔ ∃ expected ∈ allowed, ChainMatches chain expected := by
  rw [chainMatchesAny, List.any_eq_true]
  refine exists_congr fun expected ↦ and_congr_right fun _ ↦ ?_
  rw [Bool.and_eq_true, decide_eq_true_eq, everyMatches_iff]
  constructor
  · intro h
    exact h.2
  · intro h
    exact ⟨h.length_eq.symm, h⟩

/-- The requests that pass: the token verifies, its span can be decorated, it has the required
scopes and one of the allowed actor chains. -/
theorem authMiddleware_next_iff {jose : Jose} {cfg : Config} {authorization : Option String}
    {caller : VerifiedJwt} :
    authMiddleware jose cfg authorization = .next caller ↔
      ∃ token, bearerToken authorization = some token ∧
        verifyJwt jose token
          ⟨cfg.curityIssuer, cfg.expectedAudience, some cfg.curityJwksUri, none, none⟩ =
            .ok caller ∧
        ScopesWritable caller.payload ∧ (∀ s ∈ cfg.requiredScopes, s ∈ caller.scopes) ∧
        ∃ top, actObject caller.payload = some top ∧
          ∃ expected ∈ cfg.expectedActorChains, ChainMatches (walkActChain top) expected := by
  constructor
  · intro h
    unfold authMiddleware at h
    split at h
    · cases h
    · next token htoken =>
      split at h
      · cases h
      · next verified hverified =>
        split at h
        · cases h
        · next attributes hspan =>
          split at h
          · next hscopes =>
            split at h
            · cases h
            · next top htop =>
              split at h
              · next hany =>
                cases h
                have hwritable := decorateSpanWithIdentity_isSome_iff.mp
                  (Option.isSome_iff_exists.mpr ⟨attributes, hspan⟩)
                exact ⟨token, htoken, hverified, hwritable, missing_eq_nil_iff.mp hscopes, top,
                  htop, chainMatchesAny_iff.mp hany⟩
              · cases h
          · cases h
  · rintro ⟨token, htoken, hverified, hwritable, hscopes, top, htop, hany⟩
    obtain ⟨attributes, hspan⟩ :=
      Option.isSome_iff_exists.mp (decorateSpanWithIdentity_isSome_iff.mpr hwritable)
    have hmissing := missing_eq_nil_iff.mpr hscopes
    rw [authMiddleware, htoken]
    simp only [hverified, hspan, hmissing, htop, chainMatchesAny_iff.mpr hany, if_true]

/-- A request that passes presents a verified token with the required scopes and one of the
allowed actor chains. -/
theorem authMiddleware_next {jose : Jose} {cfg : Config} {authorization : Option String}
    {caller : VerifiedJwt} (h : authMiddleware jose cfg authorization = .next caller) :
    ∃ token top expected, bearerToken authorization = some token ∧
      verifyJwt jose token
        ⟨cfg.curityIssuer, cfg.expectedAudience, some cfg.curityJwksUri, none, none⟩ =
          .ok caller ∧
      (∀ s ∈ cfg.requiredScopes, s ∈ caller.scopes) ∧ actObject caller.payload = some top ∧
      expected ∈ cfg.expectedActorChains ∧ ChainMatches (walkActChain top) expected := by
  obtain ⟨token, htoken, hverified, -, hscopes, top, htop, expected, hexpected, hchain⟩ :=
    authMiddleware_next_iff.mp h
  exact ⟨token, top, expected, htoken, hverified, hscopes, htop, hexpected, hchain⟩

end AgentsAuth.Api.InspectApi
