import AgentsAuth.AuthCurity.IdentitySpan
import AgentsAuth.Base.Headers
import Mathlib.Data.List.Forall2

/-!
# What the resource servers share

The response of an Express middleware, the walk over an `act` claim and the patterns
that its actors are tested against, as `apps/ops-api`, `apps/inspect-api` and
`apps/mcp-ops` repeat them.
-/

namespace AgentsAuth.Api

open AgentsAuth.Base AgentsAuth.AuthCurity

/-- An HTTP response with a JSON body. -/
structure Response where
  status : Nat
  wwwAuthenticate : Option String
  body : Json

/-- How a middleware ends: `next()` with the caller set, or a response. -/
inductive Outcome where
  | next (caller : VerifiedJwt)
  | respond (response : Response)

/-- A body with an error code and a description. -/
def errorBody (error description : String) : Json :=
  .obj [("error", .str error), ("error_description", .str description)]

/-- The response to a request without a bearer token. -/
def missingBearer (realm : String) : Response :=
  ⟨401, some ("Bearer realm=\"" ++ realm ++ "\""), errorBody "invalid_token" "missing Bearer token"⟩

/-- No response, as status 0: the `catch` of a middleware has thrown, and nothing handles that. -/
def unanswered : Response := ⟨0, none, .null⟩

/-- The 401 of a `catch` with a challenge that holds the message of the error; `res.set` throws
where a header cannot. -/
def challenged (header : String) (body : Json) : Response :=
  if headerSafe header then ⟨401, some header, body⟩ else unanswered

/-- The response to a token that does not verify. -/
def verificationFailed (e : CurityAuthError) : Response :=
  challenged
    ("Bearer error=\"" ++ e.code.toText ++ "\", error_description=\"" ++ e.message ++ "\"")
    (errorBody e.code.toText e.message)

/-- A challenge that is sent has status 401, and a header can hold it. -/
theorem of_challenged {header sent : String} {body : Json}
    (h : (challenged header body).wwwAuthenticate = some sent) :
    sent = header ∧ headerSafe header = true := by
  unfold challenged at h
  split at h
  · next hsafe => exact ⟨(Option.some.inj h).symm, hsafe⟩
  · cases h

/-- Either it is sent or nothing is. -/
theorem status_challenged (header : String) (body : Json) :
    (challenged header body).status = 401 ∨ (challenged header body).status = 0 := by
  unfold challenged
  split
  · exact Or.inl rfl
  · exact Or.inr rfl

/-- The response to a token that lacks scopes. -/
def insufficientScope (missing : List String) : Response :=
  ⟨403, some ("Bearer error=\"insufficient_scope\", scope=\"" ++ " ".intercalate missing ++ "\""),
    .obj [("error", .str "insufficient_scope"), ("missing_scopes", jsonStrings missing)]⟩

/-- The challenge of a 403 for a reason with the actor chain. -/
def accessDeniedChallenge (errCode : String) : String :=
  "Bearer error=\"access_denied\", error_description=\"" ++ errCode ++ "\""

/-- The response to a token without an `act` object. -/
def actRequired : Response :=
  ⟨403, some (accessDeniedChallenge "act_required"),
    errorBody "act_required" "OBO actor chain missing"⟩

/-- The response to any other error. -/
def serverError : Response := ⟨500, none, .obj [("error", .str "server_error")]⟩

/-- `verified.payload.act` when it is an object. -/
def actObject (payload : Claims) : Option Json := (payload "act").filter Json.isObject

mutual

/-- Model of `apps/ops-api/src/auth-middleware.ts:23–33`, outermost actor first. An array has no
`sub`. -/
def walkActChain : Json → List String
  | .obj members =>
    match members.lookup "sub" with
    | some (.str sub) => sub :: walkActMember members
    | _ => []
  | _ => []
termination_by structural top => top

/-- The walk below the member `act`. -/
def walkActMember : List (String × Json) → List String
  | [] => []
  | (name, value) :: rest => if name = "act" then walkActChain value else walkActMember rest
termination_by structural members => members

end

/-- `SPIFFE_ID` of the service configurations: an anchored pattern of literal characters. -/
def spiffeIdPattern (ns sa : String) : String → Bool :=
  fun s ↦ s = "spiffe://demo.curity.local/ns/" ++ ns ++ "/sa/" ++ sa

/-- The chain has the length of the expected one and matches it position by position. -/
def ChainMatches (chain : List String) (expected : List (String → Bool)) : Prop :=
  List.Forall₂ (fun sub pattern ↦ pattern sub = true) chain expected

/-- No required scope is missing. -/
theorem missing_eq_nil_iff {required scopes : List String} :
    (required.filter fun s ↦ !scopes.contains s) = [] ↔ ∀ s ∈ required, s ∈ scopes := by
  rw [List.filter_eq_nil_iff]
  simp

/-- A chain that matches SPIFFE ID patterns is the list of these IDs. -/
theorem eq_of_chainMatches {chain : List String} {ids : List (String × String)}
    (h : ChainMatches chain (ids.map fun id ↦ spiffeIdPattern id.1 id.2)) :
    chain = ids.map fun id ↦ "spiffe://demo.curity.local/ns/" ++ id.1 ++ "/sa/" ++ id.2 := by
  induction ids generalizing chain with
  | nil =>
    cases h
    rfl
  | cons id ids ih =>
    cases h with
    | cons hsub hrest =>
      rw [List.map_cons, ← ih hrest, of_decide_eq_true hsub]

end AgentsAuth.Api
