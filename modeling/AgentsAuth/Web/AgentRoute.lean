import AgentsAuth.A2a.Payload
import AgentsAuth.Runtime.McpOAuthClient

/-!
# The browser's side of a question

How `apps/web/src/app/api/agent/route.ts` passes the copilot's answer on, and how
`apps/web/src/lib/chat-rules.ts` tells a challenge, a denial and a failure apart.
-/

namespace AgentsAuth.Web

open AgentsAuth.A2a AgentsAuth.Base AgentsAuth.Runtime

/-- An HTTP answer, without its content type. -/
structure HttpAnswer where
  status : Nat
  text : String

/-- `authServer`: `route.ts:69–77`. `fetchMetadata` is the JSON fetched from a URL, if any. -/
def authServer (fetchMetadata : Option Json → Option Json) (resourceMetadata : Option Json) :
    Json :=
  match (fetchMetadata resourceMetadata).bind fun md ↦ index0 (md.get? "authorization_servers") with
  | none => .str ""
  | some .null => .str ""
  | some server => server

/-- Model of `POST` from the answer of agent-copilot on: `route.ts:56–95`. -/
def post (json : JsonText) (fetchMetadata : Option Json → Option Json) (upstream : HttpAnswer) :
    HttpAnswer :=
  if upstream.status = 401 ∨ upstream.status = 403 then
    let parsed := if upstream.text = "" then none else json.parse upstream.text
    match parsed.filter (·.isObject) with
    | none => upstream
    | some body =>
      let kind := Json.string? (body.get? "kind")
      if upstream.status = 401 ∧ kind = some "step-up" then
        ⟨401, json.stringify (.obj (("kind", .str "step-up") ::
          Json.members [("acrValues", body.get? "acrValues"), ("scope", body.get? "scope"),
            ("authServer", some (authServer fetchMetadata (body.get? "resourceMetadata")))]))⟩
      else if upstream.status = 403 ∧ kind = some "access-denied" then
        ⟨403, json.stringify (.obj (("kind", .str "access-denied") ::
          Json.members [("reason", body.get? "reason")]))⟩
      else upstream
  else upstream

/-- `AgentFailure` of `chat-rules.ts:104–107`. -/
inductive AgentFailure where
  | stepUp (acrValues scope : String)
  | denied (reason : String)
  | failed (message detail : String)
deriving DecidableEq

/-- Model of `friendlyErrorMessage`, `apps/web/src/lib/fetch-error.ts:7–24`. -/
def friendlyErrorMessage (status : Nat) (code : Option String) (subject : String) : String :=
  if status = 401 ∨ code = some "session_expired" ∨ code = some "unauthenticated" ∨
      code = some "no_access_token" then
    "Your session has expired. Sign in again to refresh your tokens."
  else if status = 502 ∨ code = some "upstream_error" then
    "Couldn't reach the agent to load " ++ subject ++
      ". It may be restarting — try again in a moment."
  else "Couldn't load " ++ subject ++ ". Please try again."

/-- `String(value ?? fallback)`. -/
def textOr (value : Option Json) (fallback : String) : String :=
  match value with
  | none => fallback
  | some .null => fallback
  | some value => value.toText

/-- Model of `classifyAgentFailure`, `chat-rules.ts:115–136`. -/
def classifyAgentFailure (json : JsonText) (status : Nat) (body : Option Json) : AgentFailure :=
  let member (name : String) : Option Json := body.bind (·.get? name)
  let kind := Json.string? (member "kind")
  if status = 401 ∧ kind = some "step-up" then
    .stepUp (textOr (member "acrValues") "") (textOr (member "scope") "")
  else if status = 403 ∧ kind = some "access-denied" then
    .denied (textOr (member "reason") "access denied")
  else
    let raw :=
      match body with
      | none => ""
      | some (.str text) => text
      | some body => json.stringify body
    .failed
      (friendlyErrorMessage status (Json.string? (member "error")) "an answer from the copilot")
      (if raw = "" then "HTTP " ++ toString status else "HTTP " ++ toString status ++ " · " ++ raw)

/-- What the browser makes of the copilot's answer: `apps/web/src/app/chat.tsx:143–153`. -/
def failureOf (json : JsonText) (fetchMetadata : Option Json → Option Json)
    (upstream : HttpAnswer) : AgentFailure :=
  let response := post json fetchMetadata upstream
  classifyAgentFailure json response.status (json.parse response.text)

section StepUp

variable {json : JsonText} {fetchMetadata : Option Json → Option Json} {fields : StepUpFields}

/-- The body of the copilot's answer that carries a challenge. -/
def challengeBody (fields : StepUpFields) : Json :=
  .obj [("kind", .str "step-up"), ("acrValues", .str fields.acrValues),
    ("resourceMetadata", .str fields.resourceMetadata), ("scope", .str fields.scope)]

/-- The body of the answer that passes a challenge on to the browser. -/
def passedOnBody (fields : StepUpFields) (server : Json) : Json :=
  .obj [("kind", .str "step-up"), ("acrValues", .str fields.acrValues),
    ("scope", .str fields.scope), ("authServer", server)]

/-- A challenge reaches the browser when the two bodies on its way lose nothing. -/
theorem failureOf_challenge
    (hbody : json.RoundTrips (challengeBody fields))
    (hpassed : json.RoundTrips
      (passedOnBody fields (authServer fetchMetadata (some (.str fields.resourceMetadata))))) :
    failureOf json fetchMetadata ⟨401, json.stringify (challengeBody fields)⟩ =
      .stepUp fields.acrValues fields.scope := by
  have hpost : post json fetchMetadata ⟨401, json.stringify (challengeBody fields)⟩ =
      ⟨401, json.stringify
        (passedOnBody fields
          (authServer fetchMetadata (some (.str fields.resourceMetadata))))⟩ := by
    unfold post
    simp only [if_neg hbody.1, hbody.2]
    rfl
  rw [failureOf, hpost]
  simp only [hpassed.2]
  rfl

end StepUp
end AgentsAuth.Web
