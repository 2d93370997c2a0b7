import AgentsAuth.Api.OpsApi
import AgentsAuth.Lib.Fallible

/-!
# The middleware of mcp-ops

`apps/mcp-ops/src/auth-middleware.ts` with the defaults of `apps/mcp-ops/src/config.ts`: the
checks of ops-api with challenges that a client can start discovery from, and the pass-through
`AuthInfo` of the MCP SDK.
-/

namespace AgentsAuth.Api.McpOps

open AgentsAuth.Base AgentsAuth.AuthCurity AgentsAuth.Lib OpsApi

/-- `loadConfig()` with only the required variables set: `apps/mcp-ops/src/config.ts:90–117`. The
middleware reads the fields that it has in common with ops-api. -/
def loadConfig (curityIssuer curityJwksUri : String) : Config :=
  { curityIssuer := curityIssuer
    curityJwksUri := curityJwksUri
    expectedAudience := "mcp-ops"
    requiredScopes := ["ops:write"]
    expectedActorChain :=
      [spiffeIdPattern "mcp" "agentgateway", spiffeIdPattern "agents" "agent-specialist",
        spiffeIdPattern "agents" "agent-copilot"]
    requiredAcr := "mfa"
    resourceMetadataUrl :=
      "https://mcp-gateway.localtest.me/.well-known/oauth-protected-resource/ops/mcp" }

/-- Model of `apps/mcp-ops/src/auth-middleware.ts:17–22`; `none` where a role has no text. -/
def readRoles (payload : Claims) : Option (List String) :=
  match payload "roles" with
  | some (.arr roles) => roles.mapM Json.text?
  | some (.str roles) => some (words roles)
  | _ => some []

/-- `v.replace(/"/g, "'")`. -/
def downgradeQuotes (v : String) : String :=
  v.map fun c ↦ if c = '"' then Char.ofNat 39 else c

/-- No quotation mark is left. -/
theorem quote_not_mem_downgradeQuotes (v : String) : '"' ∉ (downgradeQuotes v).toList := by
  rw [downgradeQuotes, String.toList_map, List.mem_map]
  rintro ⟨c, -, hc⟩
  split at hc
  · exact absurd hc (by decide)
  · next hne => exact hne hc

/-- A text without quotation marks stays as it is. -/
theorem downgradeQuotes_eq_self_iff {v : String} :
    downgradeQuotes v = v ↔ '"' ∉ v.toList := by
  constructor
  · intro h
    rw [← h]
    exact quote_not_mem_downgradeQuotes v
  · intro h
    rw [downgradeQuotes, ← String.toList_inj, String.toList_map, ← List.map_id v.toList,
      List.map_map]
    apply List.map_congr_left
    intro c hc
    exact if_neg (ne_of_mem_of_not_mem hc h)

/-- Model of `apps/mcp-ops/src/auth-middleware.ts:55–60`. -/
def bearerChallenge (params : List (String × Option String)) : String :=
  "Bearer " ++ ", ".intercalate (params.filterMap fun (k, v) ↦
    v.map fun v ↦ k ++ "=\"" ++ downgradeQuotes v ++ "\"")

/-- The response to a request without a bearer token: `auth-middleware.ts:66–80`. -/
def missingBearer (cfg : Config) : Response :=
  ⟨401, some (bearerChallenge
      [("realm", some cfg.expectedAudience), ("scope", some (" ".intercalate cfg.requiredScopes)),
        ("resource_metadata", some cfg.resourceMetadataUrl)]),
    errorBody "invalid_token" "missing Bearer token"⟩

/-- The response to a token that does not verify: `auth-middleware.ts:192–207`. -/
def verificationFailed (cfg : Config) (e : CurityAuthError) : Response :=
  challenged
    (bearerChallenge
      [("realm", some cfg.expectedAudience), ("error", some "invalid_token"),
        ("error_description", some (e.code.toText ++ ": " ++ e.message)),
        ("resource_metadata", some cfg.resourceMetadataUrl)])
    (errorBody e.code.toText e.message)

private def insufficientScope (cfg : Config) (missing : List String) : Response :=
  ⟨403, some ("Bearer error=\"insufficient_scope\", scope=\"" ++ " ".intercalate missing ++
      "\", resource_metadata=\"" ++ cfg.resourceMetadataUrl ++ "\""),
    .obj [("error", .str "insufficient_scope"), ("missing_scopes", jsonStrings missing)]⟩

/-- `AuthInfo` of the MCP SDK, as the middleware fills it in. -/
structure AuthInfo where
  token : String
  clientId : String
  scopes : List Json
  sub : String
  roles : List String

/-- How the middleware ends. -/
inductive Outcome where
  | next (caller : VerifiedJwt) (auth : AuthInfo)
  | respond (response : Response)

/-- `req.auth` of `apps/mcp-ops/src/auth-middleware.ts:180–188`; `none` where a claim has no
text. -/
def authInfo (token : String) (verified : VerifiedJwt) (chain : List String) : Option AuthInfo := do
  let clientId ← (((verified.payload "client_id").filter Json.notNull).getD
    (.str (chain.head?.getD "unknown"))).text?
  let sub ← (((verified.payload "sub").filter Json.notNull).getD (.str "unknown")).text?
  let roles ← readRoles verified.payload
  return ⟨token, clientId, scopeItems verified.payload, sub, roles⟩

/-- Model of `apps/mcp-ops/src/auth-middleware.ts:62–213`. -/
def authMiddleware (jose : Jose) (cfg : Config) (authorization : Option String) : Outcome :=
  match bearerToken authorization with
  | none => .respond (missingBearer cfg)
  | some token =>
    match verifyJwt jose token
        ⟨cfg.curityIssuer, cfg.expectedAudience, some cfg.curityJwksUri, none, none⟩ with
    | .error e => .respond (verificationFailed cfg e)
    | .ok verified =>
      match decorateSpanWithIdentity verified with
      | none => .respond serverError
      | some _ =>
        match cfg.requiredScopes.filter fun s ↦ !verified.scopes.contains s with
        | [] =>
          match actObject verified.payload with
          | none => .respond actRequired
          | some top =>
            let chain := walkActChain top
            if chain.length ≠ cfg.expectedActorChain.length then .respond (chainLength cfg chain)
            else
              match firstMismatch 0 chain cfg.expectedActorChain with
              | some (i, sub) => .respond (chainPosition cfg chain i sub)
              | none =>
                if Json.string? (verified.payload "acr") ≠ some cfg.requiredAcr then
                  .respond (stepUp cfg)
                else
                  match authInfo token verified chain with
                  | some auth => .next verified auth
                  | none => .respond serverError
        | missing => .respond (insufficientScope cfg missing)

/-- The claims that `req.auth` writes as texts have texts. -/
structure IdentityWritable (payload : Claims) : Prop where
  clientId : ∀ value, payload "client_id" = some value → value.hasText = true
  sub : ∀ value, payload "sub" = some value → value.hasText = true
  roles : ∀ items, payload "roles" = some (.arr items) → ∀ item ∈ items, item.hasText = true

private theorem readRoles_isSome_iff {payload : Claims} :
    (readRoles payload).isSome ↔
      ∀ items, payload "roles" = some (.arr items) → ∀ item ∈ items, item.hasText = true := by
  unfold readRoles
  split
  · next items hroles => simp [isSome_mapM_iff, Json.isSome_text?_iff, hroles]
  · next roles hroles => simp [hroles]
  · next hroles _ =>
    constructor
    · intro _ items hitems
      exact absurd hitems (hroles items)
    · intro _
      rfl

private theorem getD_text?_isSome_iff {value : Option Json} {fallback : String} :
    ((value.filter Json.notNull).getD (.str fallback)).text?.isSome ↔
      ∀ v, value = some v → v.hasText = true := by
  rw [Json.isSome_text?_iff]
  cases value with
  | none => simp [Json.hasText]
  | some value =>
    by_cases hnull : value.notNull = true
    · simp [Option.filter, hnull]
    · have hvalue : value = .null := by
        cases value with
        | null => rfl
        | _ => exact absurd rfl hnull
      simp [hvalue, Option.filter, Json.notNull, Json.hasText]

/-- `req.auth` is filled in when the claims that it writes have texts. -/
theorem authInfo_isSome_iff {token : String} {verified : VerifiedJwt} {chain : List String} :
    (authInfo token verified chain).isSome ↔ IdentityWritable verified.payload := by
  have hparts : (authInfo token verified chain).isSome ↔
      (((verified.payload "client_id").filter Json.notNull).getD
        (.str (chain.head?.getD "unknown"))).text?.isSome ∧
      (((verified.payload "sub").filter Json.notNull).getD (.str "unknown")).text?.isSome ∧
      (readRoles verified.payload).isSome := by
    unfold authInfo
    generalize Json.text? _ = clientId
    generalize Json.text? _ = sub
    cases clientId with
    | none => simp
    | some clientId =>
      cases sub with
      | none => simp
      | some sub =>
        cases readRoles verified.payload with
        | none => simp
        | some roles => simp
  rw [hparts, getD_text?_isSome_iff, getD_text?_isSome_iff, readRoles_isSome_iff]
  constructor
  · rintro ⟨hclient, hsub, hroles⟩
    exact ⟨hclient, hsub, hroles⟩
  · rintro ⟨hclient, hsub, hroles⟩
    exact ⟨hclient, hsub, hroles⟩

/-- mcp-ops makes the checks of ops-api, and lets a request through once `req.auth` is filled in. -/
theorem authMiddleware_next_iff_opsApi {jose : Jose} {cfg : Config} {authorization : Option String}
    {caller : VerifiedJwt} {auth : AuthInfo} :
    authMiddleware jose cfg authorization = .next caller auth ↔
      OpsApi.authMiddleware jose cfg authorization = .next caller ∧
        ∃ token top, bearerToken authorization = some token ∧
          actObject caller.payload = some top ∧
          authInfo token caller (walkActChain top) = some auth := by
  unfold authMiddleware OpsApi.authMiddleware
  cases htoken : bearerToken authorization with
  | none => simp
  | some token =>
    simp only
    cases verifyJwt jose token
        ⟨cfg.curityIssuer, cfg.expectedAudience, some cfg.curityJwksUri, none, none⟩ with
    | error e => simp
    | ok verified =>
      simp only
      cases decorateSpanWithIdentity verified with
      | none => simp
      | some attributes =>
        simp only
        cases cfg.requiredScopes.filter fun s ↦ !verified.scopes.contains s with
        | cons scope missing => simp
        | nil =>
          simp only
          cases htop : actObject verified.payload with
          | none => simp
          | some top =>
            simp only
            by_cases hlength : (walkActChain top).length ≠ cfg.expectedActorChain.length
            · simp [hlength]
            · simp only [if_neg hlength]
              cases firstMismatch 0 (walkActChain top) cfg.expectedActorChain with
              | some mismatch => simp
              | none =>
                by_cases hacr : Json.string? (verified.payload "acr") ≠ some cfg.requiredAcr
                · simp [hacr]
                · simp only [if_neg hacr]
                  constructor
                  · intro h
                    split at h
                    · next auth' hauth =>
                      cases h
                      exact ⟨rfl, token, top, rfl, htop, hauth⟩
                    · cases h
                  · rintro ⟨h, token', top', htoken', htop', hauth⟩
                    cases h
                    cases htoken'
                    rw [htop, Option.some.injEq] at htop'
                    rw [htop', hauth]

/-- The requests that pass: those that ops-api's checks let through and that `req.auth` can be
filled in for. -/
theorem authMiddleware_next_iff {jose : Jose} {cfg : Config} {authorization : Option String}
    {caller : VerifiedJwt} {auth : AuthInfo} :
    authMiddleware jose cfg authorization = .next caller auth ↔
      ∃ token, bearerToken authorization = some token ∧
        verifyJwt jose token
          ⟨cfg.curityIssuer, cfg.expectedAudience, some cfg.curityJwksUri, none, none⟩ =
            .ok caller ∧
        ScopesWritable caller.payload ∧ (∀ s ∈ cfg.requiredScopes, s ∈ caller.scopes) ∧
        (∃ top, actObject caller.payload = some top ∧
          ChainMatches (walkActChain top) cfg.expectedActorChain ∧
          authInfo token caller (walkActChain top) = some auth) ∧
        caller.payload "acr" = some (.str cfg.requiredAcr) := by
  rw [authMiddleware_next_iff_opsApi, OpsApi.authMiddleware_next_iff]
  constructor
  · rintro ⟨⟨token, htoken, hverified, hwritable, hscopes, ⟨top, htop, hchain⟩, hacr⟩,
      token', top', htoken', htop', hauth⟩
    obtain rfl : token = token' := Option.some.inj (htoken.symm.trans htoken')
    obtain rfl : top = top' := Option.some.inj (htop.symm.trans htop')
    exact ⟨token, htoken, hverified, hwritable, hscopes, ⟨top, htop, hchain, hauth⟩, hacr⟩
  · rintro ⟨token, htoken, hverified, hwritable, hscopes, ⟨top, htop, hchain, hauth⟩, hacr⟩
    exact ⟨⟨token, htoken, hverified, hwritable, hscopes, ⟨top, htop, hchain⟩, hacr⟩,
      token, top, htoken, htop, hauth⟩

/-- A request that passes every check before the one of the `acr`, and does not have the required
one. -/
def RefusedForAcr (jose : Jose) (cfg : Config) (authorization : Option String) : Prop :=
  ∃ token caller top, bearerToken authorization = some token ∧
    verifyJwt jose token
      ⟨cfg.curityIssuer, cfg.expectedAudience, some cfg.curityJwksUri, none, none⟩ = .ok caller ∧
    ScopesWritable caller.payload ∧ (∀ s ∈ cfg.requiredScopes, s ∈ caller.scopes) ∧
    actObject caller.payload = some top ∧ ChainMatches (walkActChain top) cfg.expectedActorChain ∧
    caller.payload "acr" ≠ some (.str cfg.requiredAcr)

/-- Such a request is told to step up. -/
theorem authMiddleware_of_refusedForAcr {jose : Jose} {cfg : Config}
    {authorization : Option String} (h : RefusedForAcr jose cfg authorization) :
    authMiddleware jose cfg authorization = .respond (stepUp cfg) := by
  obtain ⟨token, caller, top, htoken, hverified, hwritable, hscopes, htop, hchain, hacr⟩ := h
  obtain ⟨attributes, hspan⟩ :=
    Option.isSome_iff_exists.mp (decorateSpanWithIdentity_isSome_iff.mpr hwritable)
  have hmissing := missing_eq_nil_iff.mpr hscopes
  obtain ⟨hlength, hmatch⟩ := (chainMatches_iff (i := 0)).mp hchain
  rw [ne_eq, ← Json.string?_eq_some_iff] at hacr
  rw [authMiddleware, htoken]
  simp only [hverified, hspan, hmissing, htop, hlength, hmatch, hacr, ne_eq, not_true_eq_false,
    not_false_eq_true, if_false, if_true]

/-- A request is answered with a 401 when it has no bearer token, when its token does not verify
and when it is refused for its `acr`. -/
theorem unauthorized_cases {jose : Jose} {cfg : Config} {authorization : Option String}
    {response : Response} (h : authMiddleware jose cfg authorization = .respond response)
    (hstatus : response.status = 401) :
    response = missingBearer cfg ∧ bearerToken authorization = none ∨
      (∃ token e, response = verificationFailed cfg e ∧ bearerToken authorization = some token ∧
        verifyJwt jose token
          ⟨cfg.curityIssuer, cfg.expectedAudience, some cfg.curityJwksUri, none, none⟩ =
            .error e) ∨
      response = stepUp cfg ∧ RefusedForAcr jose cfg authorization := by
  unfold authMiddleware at h
  split at h
  · next htoken =>
    cases h
    exact Or.inl ⟨rfl, htoken⟩
  · next token htoken =>
    right
    split at h
    · next e he =>
      cases h
      exact Or.inl ⟨token, e, rfl, htoken, he⟩
    · next verified hverified =>
      right
      split at h
      · cases h
        cases hstatus
      · next attributes hspan =>
        split at h
        · next hscopes =>
          split at h
          · cases h
            cases hstatus
          · next top htop =>
            simp only at h
            split at h
            · cases h
              cases hstatus
            · next hlength =>
              split at h
              · cases h
                cases hstatus
              · next hmatch =>
                split at h
                · next hacr =>
                  cases h
                  have hwritable := decorateSpanWithIdentity_isSome_iff.mp
                    (Option.isSome_iff_exists.mpr ⟨attributes, hspan⟩)
                  have hchain := chainMatches_iff.mpr ⟨not_not.mp hlength, hmatch⟩
                  refine ⟨rfl, token, verified, top, htoken, hverified, hwritable,
                    missing_eq_nil_iff.mp hscopes, htop, hchain, ?_⟩
                  rwa [ne_eq, Json.string?_eq_some_iff] at hacr
                · split at h
                  · cases h
                  · cases h
                    cases hstatus
        · cases h
          cases hstatus

end AgentsAuth.Api.McpOps
