import AgentsAuth.Api.InspectApi
import AgentsAuth.Api.McpOps

/-!
# Chain integrity of the resource servers

What an `act` claim says is a matter of its nested objects, read from the outside in: each is an
actor, an object with a string `sub`, until one is not. The middlewares of ops-api, mcp-ops and
inspect-api accept by the actors, and by nothing that is below them.
-/

namespace AgentsAuth.Api

open AgentsAuth.Base AgentsAuth.AuthCurity
open McpOps (IdentityWritable authInfo_isSome_iff)

/-- An object with a string `sub`. -/
def IsActor (act : Option Json) : Prop :=
  ∃ members sub, act = some (.obj members) ∧ members.lookup "sub" = some (.str sub)

/-- The claim nests one actor for each pattern, outer to inner, and `ends` holds of what is below
the last. -/
def Nested (ends : Option Json → Prop) : List (String → Bool) → Option Json → Prop
  | [], act => ends act
  | pattern :: expected, act =>
    ∃ members sub, act = some (.obj members) ∧ members.lookup "sub" = some (.str sub) ∧
      pattern sub = true ∧ Nested ends expected (members.lookup "act")

/-- No further node: the member `act` is missing or `null`. -/
def NoNode (below : Option Json) : Prop := below = none ∨ below = some .null

/-- No further actor, whatever else may be there. -/
def NoActor (below : Option Json) : Prop := ¬ IsActor below

/-- What is `n` levels below the claim. -/
def below : Nat → Option Json → Option Json
  | 0, act => act
  | n + 1, act => below n (act.bind (Json.get? · "act"))

private theorem walkActMember_eq {members : List (String × Json)} :
    walkActMember members = ((members.lookup "act").map walkActChain).getD [] := by
  induction members with
  | nil => rfl
  | cons member rest ih =>
    obtain ⟨name, value⟩ := member
    rw [walkActMember, List.lookup_cons]
    by_cases hname : name = "act"
    · simp [hname]
    · have hne : ("act" == name) = false := by simpa using fun h ↦ hname h.symm
      simp [hname, hne, ih]

/-- The actors that the walk finds in a claim. -/
def walked (act : Option Json) : List String := (act.map walkActChain).getD []

/-- The walk of an actor. -/
theorem walked_eq_cons {members : List (String × Json)} {sub : String}
    (hsub : members.lookup "sub" = some (.str sub)) :
    walked (some (.obj members)) = sub :: walked (members.lookup "act") := by
  rw [walked, Option.map_some, Option.getD_some, walkActChain, hsub]
  simp only
  rw [walkActMember_eq, walked]

/-- The walk finds nothing where there is no actor. -/
theorem walked_eq_nil_iff {act : Option Json} : walked act = [] ↔ NoActor act := by
  constructor
  · rintro hnil ⟨members, sub, rfl, hsub⟩
    rw [walked_eq_cons hsub] at hnil
    cases hnil
  · intro hnone
    cases act with
    | none => rfl
    | some value =>
      cases value with
      | obj members =>
        rw [walked, Option.map_some, Option.getD_some, walkActChain]
        split
        · next sub hsub => exact absurd ⟨members, sub, rfl, hsub⟩ hnone
        · rfl
      | _ => rfl

/-- The walk finds an actor and then what it finds below. -/
theorem walked_eq_cons_iff {act : Option Json} {sub : String} {rest : List String} :
    walked act = sub :: rest ↔
      ∃ members, act = some (.obj members) ∧ members.lookup "sub" = some (.str sub) ∧
        walked (members.lookup "act") = rest := by
  constructor
  · intro hcons
    by_cases hactor : IsActor act
    · obtain ⟨members, sub', rfl, hsub⟩ := hactor
      rw [walked_eq_cons hsub] at hcons
      cases hcons
      exact ⟨members, rfl, hsub, rfl⟩
    · rw [walked_eq_nil_iff.mpr hactor] at hcons
      cases hcons
  · rintro ⟨members, rfl, hsub, rfl⟩
    exact walked_eq_cons hsub

/-- The walked chain matches when the claim nests the patterns and no further actor. -/
theorem chainMatches_walked_iff {act : Option Json} {expected : List (String → Bool)} :
    ChainMatches (walked act) expected ↔ Nested NoActor expected act := by
  induction expected generalizing act with
  | nil =>
    rw [ChainMatches, List.forall₂_nil_right_iff, walked_eq_nil_iff, Nested]
  | cons pattern expected ih =>
    rw [ChainMatches, List.forall₂_cons_right_iff, Nested]
    constructor
    · rintro ⟨sub, rest, hpattern, hrest, hwalked⟩
      obtain ⟨members, rfl, hsub, rfl⟩ := walked_eq_cons_iff.mp hwalked
      exact ⟨members, sub, rfl, hsub, hpattern, ih.mp hrest⟩
    · rintro ⟨members, sub, rfl, hsub, hpattern, hrest⟩
      exact ⟨sub, _, hpattern, ih.mpr hrest, walked_eq_cons hsub⟩

/-- The claim is an object that nests the expected actors, and no further one. -/
def Carries (expected : List (String → Bool)) (act : Option Json) : Prop :=
  (∃ top, act = some top ∧ top.isObject = true) ∧ Nested NoActor expected act

/-- The chain check of the middlewares. -/
theorem carries_iff {payload : Claims} {expected : List (String → Bool)} :
    (∃ top, actObject payload = some top ∧ ChainMatches (walkActChain top) expected) ↔
      Carries expected (payload "act") := by
  simp only [actObject, Option.filter_eq_some_iff, Carries, ← chainMatches_walked_iff]
  constructor
  · rintro ⟨top, ⟨htop, hobject⟩, hchain⟩
    rw [htop]
    exact ⟨⟨top, rfl, hobject⟩, hchain⟩
  · rintro ⟨⟨top, htop, hobject⟩, hchain⟩
    rw [htop] at hchain
    exact ⟨top, ⟨htop, hobject⟩, hchain⟩

/-- The `act` claim of a delegation to the given actors, outermost first. -/
def actClaim : List String → Option Json
  | [] => none
  | sub :: rest => some (.obj (Json.members [("sub", some (.str sub)), ("act", actClaim rest)]))

/-- The request presents a token that verifies for the service. -/
def Presents (jose : Jose) (curityIssuer expectedAudience curityJwksUri : String)
    (authorization : Option String) (caller : VerifiedJwt) : Prop :=
  ∃ token, bearerToken authorization = some token ∧
    verifyJwt jose token ⟨curityIssuer, expectedAudience, some curityJwksUri, none, none⟩ =
      .ok caller

/-- The requests that each resource server lets through. -/
theorem chain_integrity (jose : Jose) (authorization : Option String) (caller : VerifiedJwt) :
    (∀ cfg : OpsApi.Config,
      OpsApi.authMiddleware jose cfg authorization = .next caller ↔
        Presents jose cfg.curityIssuer cfg.expectedAudience cfg.curityJwksUri authorization
          caller ∧
        ScopesWritable caller.payload ∧ (∀ s ∈ cfg.requiredScopes, s ∈ caller.scopes) ∧
        Carries cfg.expectedActorChain (caller.payload "act") ∧
        caller.payload "acr" = some (.str cfg.requiredAcr)) ∧
    (∀ cfg : OpsApi.Config,
      (∃ auth, McpOps.authMiddleware jose cfg authorization = .next caller auth) ↔
        Presents jose cfg.curityIssuer cfg.expectedAudience cfg.curityJwksUri authorization
          caller ∧
        ScopesWritable caller.payload ∧ IdentityWritable caller.payload ∧
        (∀ s ∈ cfg.requiredScopes, s ∈ caller.scopes) ∧
        Carries cfg.expectedActorChain (caller.payload "act") ∧
        caller.payload "acr" = some (.str cfg.requiredAcr)) ∧
    (∀ cfg : InspectApi.Config,
      InspectApi.authMiddleware jose cfg authorization = .next caller ↔
        Presents jose cfg.curityIssuer cfg.expectedAudience cfg.curityJwksUri authorization
          caller ∧
        ScopesWritable caller.payload ∧ (∀ s ∈ cfg.requiredScopes, s ∈ caller.scopes) ∧
        ∃ expected ∈ cfg.expectedActorChains, Carries expected (caller.payload "act")) := by
  refine ⟨fun cfg ↦ ?_, fun cfg ↦ ?_, fun cfg ↦ ?_⟩
  · rw [OpsApi.authMiddleware_next_iff, carries_iff]
    simp only [Presents, exists_and_right, ← and_assoc]
  · simp only [McpOps.authMiddleware_next_iff, ← carries_iff]
    constructor
    · rintro ⟨auth, token, htoken, hverified, hwritable, hscopes, ⟨top, htop, hchain, hauth⟩, hacr⟩
      have hidentity : IdentityWritable caller.payload :=
        authInfo_isSome_iff.mp (Option.isSome_iff_exists.mpr ⟨auth, hauth⟩)
      exact ⟨⟨token, htoken, hverified⟩, hwritable, hidentity, hscopes, ⟨top, htop, hchain⟩, hacr⟩
    · rintro ⟨⟨token, htoken, hverified⟩, hwritable, hidentity, hscopes, ⟨top, htop, hchain⟩, hacr⟩
      obtain ⟨auth, hauth⟩ := Option.isSome_iff_exists.mp
        ((@authInfo_isSome_iff token caller (walkActChain top)).mpr hidentity)
      exact ⟨auth, token, htoken, hverified, hwritable, hscopes, ⟨top, htop, hchain, hauth⟩, hacr⟩
  · simp only [InspectApi.authMiddleware_next_iff, ← carries_iff]
    constructor
    · rintro ⟨token, htoken, hverified, hwritable, hscopes, top, htop, expected, hmem, hchain⟩
      exact ⟨⟨token, htoken, hverified⟩, hwritable, hscopes, expected, hmem, top, htop, hchain⟩
    · rintro ⟨⟨token, htoken, hverified⟩, hwritable, hscopes, expected, hmem, top, htop, hchain⟩
      exact ⟨token, htoken, hverified, hwritable, hscopes, top, htop, expected, hmem, hchain⟩

/-- A delegation to the given services with a malformed node below the first of them. -/
private def sampleAct : List (String × String) → Json
  | [] => .obj [("not_sub", .str "x")]
  | (ns, sa) :: rest =>
    .obj [("sub", .str ("spiffe://demo.curity.local/ns/" ++ ns ++ "/sa/" ++ sa)),
      ("act", sampleAct rest)]

private def sampleClaims (services : List (String × String)) : Claims
  | "scope" => some (.str "inspect:read ops:write")
  | "acr" => some (.str "mfa")
  | "act" => some (sampleAct services)
  | _ => none

/-- The `jose` library where every token has the same payload. -/
private def payloadJose (payload : Claims) : Jose where
  jwtVerify := fun _ _ ↦ .ok payload
  compact := fun _ ↦ "e30.token.sig"

private theorem payloadBearer :
    bearerToken (some "Bearer e30.token.sig") = some "e30.token.sig" := by
  decide

private theorem scopesWritable_sampleClaims (services : List (String × String)) :
    ScopesWritable (sampleClaims services) := by
  intro items h
  cases h

private theorem not_noNode_sampleAct (services : List (String × String)) :
    ¬ NoNode (some (sampleAct services)) := by
  rintro (hnone | hnull)
  · cases hnone
  · cases services with
    | nil => cases hnull
    | cons service services => cases hnull

private theorem not_nested_sampleAct {services : List (String × String)}
    {expected : List (String → Bool)} : ¬ Nested NoNode expected (some (sampleAct services)) := by
  induction services generalizing expected with
  | nil =>
    intro hnested
    cases expected with
    | nil => exact not_noNode_sampleAct _ hnested
    | cons pattern expected =>
      obtain ⟨members, sub, hmembers, hsub, -⟩ := hnested
      cases hmembers
      cases hsub
  | cons service services ih =>
    intro hnested
    cases expected with
    | nil => exact not_noNode_sampleAct _ hnested
    | cons pattern expected =>
      obtain ⟨members, sub, hmembers, -, -, hrest⟩ := hnested
      cases hmembers
      exact ih hrest

private def opsServices : List (String × String) :=
  [("mcp", "mcp-ops"), ("mcp", "agentgateway"), ("agents", "agent-specialist"),
    ("agents", "agent-copilot")]

private def inspectServices : List (String × String) :=
  [("mcp", "mcp-inspect"), ("mcp", "agentgateway"), ("agents", "agent-copilot")]

/-- A malformed node below the last expected actor is accepted by every service. -/
theorem malformed_below_accepted :
    (¬ ∀ jose authorization caller,
      OpsApi.authMiddleware jose (OpsApi.loadConfig "curity" "jwks") authorization =
          .next caller →
        Nested NoNode (OpsApi.loadConfig "curity" "jwks").expectedActorChain
          (caller.payload "act")) ∧
    (¬ ∀ jose authorization caller auth,
      McpOps.authMiddleware jose (McpOps.loadConfig "curity" "jwks") authorization =
          .next caller auth →
        Nested NoNode (McpOps.loadConfig "curity" "jwks").expectedActorChain
          (caller.payload "act")) ∧
    ¬ ∀ jose authorization caller,
      InspectApi.authMiddleware jose (InspectApi.loadConfig "curity" "jwks") authorization =
          .next caller →
        ∃ expected ∈ (InspectApi.loadConfig "curity" "jwks").expectedActorChains,
          Nested NoNode expected (caller.payload "act") := by
  refine ⟨fun h ↦ ?_, fun h ↦ ?_, fun h ↦ ?_⟩
  · have hnested := h (payloadJose (sampleClaims opsServices)) (some "Bearer e30.token.sig") _
      (OpsApi.authMiddleware_next_iff.mpr ⟨_, payloadBearer, rfl,
        scopesWritable_sampleClaims opsServices, by decide,
        ⟨_, rfl, (OpsApi.chainMatches_iff (i := 0)).mpr ⟨rfl, rfl⟩⟩, rfl⟩)
    exact not_nested_sampleAct hnested
  · have hnested := h (payloadJose (sampleClaims opsServices.tail)) (some "Bearer e30.token.sig")
      _ _ (McpOps.authMiddleware_next_iff.mpr ⟨_, payloadBearer, rfl,
        scopesWritable_sampleClaims opsServices.tail, by decide,
        ⟨_, rfl, (OpsApi.chainMatches_iff (i := 0)).mpr ⟨rfl, rfl⟩, rfl⟩, rfl⟩)
    exact not_nested_sampleAct hnested
  · obtain ⟨expected, -, hnested⟩ :=
      h (payloadJose (sampleClaims inspectServices)) (some "Bearer e30.token.sig") _
        (InspectApi.authMiddleware_next_iff.mpr ⟨_, payloadBearer, rfl,
          scopesWritable_sampleClaims inspectServices, by decide, _, rfl,
          InspectApi.chainMatchesAny_iff.mp rfl⟩)
    exact not_nested_sampleAct hnested

end AgentsAuth.Api
