import AgentsAuth.A2a.Payload
import AgentsAuth.Base.Headers
import AgentsAuth.Copilot.Exchanges

/-!
# The privileged path of agent-copilot

How `apps/agent-copilot/src/specialist-client.ts` reads the specialist's reply, and how the
privileged branch of `/chat` in `server.ts` turns a reply or a thrown error into a response.
The requests here are those for which `detectIntent` answers `restart`.
-/

namespace AgentsAuth.Copilot

open AgentsAuth.A2a AgentsAuth.AuthCurity AgentsAuth.Base AgentsAuth.Lib

/-- The `restart` intent of `apps/agent-copilot/src/intent.ts:16–21`. -/
structure RestartIntent where
  deployment : String
  nameSpace : Option String
  reasonHint : Option String

/-- A privileged `/chat` request that has passed the middleware and the check of its message. -/
structure ChatRequest where
  authed : AuthedRequest
  message : String
  intent : RestartIntent
  nonBlank : trim message ≠ ""

/-- `SpecialistResponse['status']`: a task state or `step-up`. -/
inductive SpecialistStatus where
  | task (state : TaskState)
  | stepUp
deriving DecidableEq

/-- `SpecialistResponse` of `specialist-client.ts:140–148`. -/
structure SpecialistResponse where
  ok : Bool
  status : SpecialistStatus
  text : Option String
  result : Option Json
  stepUp : Option Json

/-- The message that `callSpecialist` sends: `specialist-client.ts:218–233`. -/
def userMessage (r : ChatRequest) : Message where
  role := .user
  parts :=
    [.text r.message,
      .data (.obj (("deployment", .str r.intent.deployment) ::
        ((r.intent.nameSpace.map fun name ↦ ("namespace", .str name)).toList ++
          (r.intent.reasonHint.map fun reason ↦ ("reason", .str reason)).toList)))]

/-- Model of `specialist-client.ts:306–310`. -/
def isErrorPayload (v : Json) : Bool :=
  match v.get? "ok" with
  | some (.bool false) => true
  | _ => (Json.string? (v.get? "error")).isSome

/-- Model of `specialist-client.ts:312–318`. -/
def lastAgentMessage (history : Option (List Message)) : Option Message :=
  (history.getD []).reverse.find? fun m ↦ m.role = .agent

/-- Model of `specialist-client.ts:320–328`. -/
def extractText (json : JsonText) (m : Option Message) : Option String :=
  match m with
  | none => none
  | some m =>
    let texts := m.parts.map fun
      | .text text => text
      | .data data => json.stringify data
      | .file => ""
    some ("\n".intercalate (texts.filter (· ≠ ""))) |>.filter (· ≠ "")

/-- Model of `specialist-client.ts:330–336`. -/
def tryParse (json : JsonText) (text : String) : Json := (json.parse text).getD (.str text)

/-- The response for the text of a reply: its payload is trusted over the state. -/
def readReply (json : JsonText) (text : Option String) (state : TaskState) : SpecialistResponse :=
  let parsed := text.map (tryParse json)
  if parsed.any isStepUpPayload then
    ⟨false, .stepUp, text, parsed, parsed.bind fun p ↦ p.get? "data"⟩
  else if parsed.any isErrorPayload then ⟨false, .task .failed, text, parsed, none⟩
  else ⟨state = .completed, .task state, text, parsed, none⟩

/-- Model of `callSpecialist` from the reply on: `specialist-client.ts:255–299`. -/
def callSpecialist (json : JsonText) : SendMessageResult → SpecialistResponse
  | .task t =>
    readReply json (extractText json ((lastAgentMessage t.history).or t.statusMessage))
      (t.state.getD .unknown)
  | .message m => readReply json (extractText json (some m)) .completed

/-- Model of `buildPrivilegedAnswer`, `specialist-client.ts:159–171`. -/
def buildPrivilegedAnswer (resp : SpecialistResponse) (deployment : String) : String :=
  if resp.ok then
    let summary := trim ((Json.string? (resp.result.bind (·.get? "summary"))).getD "")
    if summary = "" then
      "Remediation on '" ++ deployment ++ "' finished, but the specialist returned no summary."
    else summary
  else "Remediation on '" ++ deployment ++ "' failed: " ++ resp.text.getD "unknown error"

/-- The `identity` of a response. -/
structure ChatIdentity where
  sub : String
  scopes : List String
  roles : List String
  acr : String

/-- The responses of the privileged path. -/
inductive ChatAnswer where
  | stepUp (wwwAuthenticate : String) (acrValues resourceMetadata scope : Option Json)
  | answer (text : String) (intent : RestartIntent) (steps : Option Json)
      (specialist : SpecialistResponse) (identity : ChatIdentity)
  | accessDenied (reason : String)
  | failed (error description : String)

/-- The HTTP status of a response. -/
def ChatAnswer.status : ChatAnswer → Nat
  | .stepUp .. => 401
  | .answer .. => 200
  | .accessDenied _ => 403
  | .failed .. => 502

/-- The body of a response that is no answer: `server.ts:145–150,182,186`. -/
def ChatAnswer.failureBody : ChatAnswer → Option Json
  | .stepUp _ acrValues resourceMetadata scope =>
    some (.obj (("kind", .str "step-up") :: Json.members [("acrValues", acrValues),
      ("resourceMetadata", resourceMetadata), ("scope", scope)]))
  | .answer .. => none
  | .accessDenied reason => some (.obj [("kind", .str "access-denied"), ("reason", .str reason)])
  | .failed error description =>
    some (.obj [("error", .str error), ("error_description", .str description)])

/-- `userRoles`: `server.ts:66–71`. -/
def userRoles (payload : Claims) : List String :=
  match payload "roles" with
  | some (.arr items) => items.map Json.toText
  | some (.str roles) => words roles
  | _ => []

/-- `identity` of a request: `server.ts:60–71,168–173`. -/
def chatIdentity (authed : AuthedRequest) : ChatIdentity :=
  ⟨(chatOpts authed).subjectSub, authed.caller.scopes, userRoles authed.caller.payload,
    (chatOpts authed).subjectAcr⟩

/-- The response for a thrown error: `server.ts:178–188`. -/
def chatFailure : Thrown → ChatAnswer
  | .curityAuth e =>
    if e.code = .accessDenied then .accessDenied e.message
    else .failed e.code.toText e.message
  | .other _ message => .failed "specialist_failed" message

/-- The `WWW-Authenticate` header for the `data` of a step-up payload: `server.ts:139–143`. -/
def challengeHeader (su : Json) : String :=
  let text (name : String) : String := (su.get? name).elim "undefined" Json.toText
  "Bearer realm=\"agent-copilot\", error=\"insufficient_user_authentication\", acr_values=\"" ++
    text "acrValues" ++ "\", resource_metadata=\"" ++ text "resourceMetadata" ++ "\""

/-- The challenge for the `data` of a step-up payload, or the response for what the writing of its
header throws: `server.ts:136–152`. -/
def challenge (su : Json) : ChatAnswer :=
  if (su.get? "acrValues").all Json.hasText && (su.get? "resourceMetadata").all Json.hasText then
    if headerSafe (challengeHeader su) then
      .stepUp (challengeHeader su) (su.get? "acrValues") (su.get? "resourceMetadata")
        (su.get? "scope")
    else
      chatFailure (.other "TypeError" "Invalid character in header content [\"WWW-Authenticate\"]")
  else chatFailure noText

/-- The response for what the specialist replies: `server.ts:136–177`. -/
def chatAnswer (r : ChatRequest) (resp : SpecialistResponse) : ChatAnswer :=
  match resp.status, resp.stepUp.filter (·.truthy) with
  | .stepUp, some su => challenge su
  | _, _ =>
    let steps := (resp.result.bind (·.get? "steps")).filter fun
      | .arr _ => true
      | _ => false
    .answer (buildPrivilegedAnswer resp r.intent.deployment) r.intent steps resp
      (chatIdentity r.authed)

/-- The message in which a reply carries the specialist's last word. -/
def replyMessage : SendMessageResult → Option Message
  | .task t => (lastAgentMessage t.history).or t.statusMessage
  | .message m => some m

/-- The state that a reply reports; a bare message counts as completed. -/
def replyState : SendMessageResult → TaskState
  | .task t => t.state.getD .unknown
  | .message _ => .completed

section Reading

variable {json : JsonText}

/-- A challenge whose header can be set. -/
theorem challenge_of_headerSafe {fields : StepUpFields}
    (h : headerSafe (challengeHeader fields.toData) = true) :
    challenge fields.toData = .stepUp (challengeHeader fields.toData) (some (.str fields.acrValues))
      (some (.str fields.resourceMetadata)) (some (.str fields.scope)) := by
  unfold challenge
  rw [if_pos h]
  rfl

/-- A reply that carries a payload without loss is read by that payload. -/
theorem callSpecialist_of_carried {reply : SendMessageResult} {payload : Json}
    (hmessage : replyMessage reply = some ⟨.agent, [.text (json.stringifyIndented payload)]⟩)
    (hlossless : json.Lossless payload) :
    callSpecialist json reply =
      readReply json (some (json.stringifyIndented payload)) (replyState reply) ∧
    tryParse json (json.stringifyIndented payload) = payload := by
  constructor
  · have htext : extractText json (replyMessage reply) =
        some (json.stringifyIndented payload) := by
      rw [hmessage]
      simp [extractText, hlossless.1]
    rw [← htext]
    cases reply with
    | task t => rfl
    | message m => rfl
  · rw [tryParse, hlossless.2]
    rfl

/-- A reply that carries a step-up payload without loss is answered with the challenge. -/
theorem chatAnswer_of_stepUp {reply : SendMessageResult} {fields : StepUpFields}
    (hmessage : replyMessage reply =
      some ⟨.agent, [.text (json.stringifyIndented fields.toPayload)]⟩)
    (hlossless : json.Lossless fields.toPayload) (r : ChatRequest) :
    chatAnswer r (callSpecialist json reply) = challenge fields.toData := by
  obtain ⟨hread, hparsed⟩ := callSpecialist_of_carried hmessage hlossless
  rw [hread, readReply]
  simp only [Option.map_some, hparsed, Option.any_some, isStepUpPayload_toPayload, if_true]
  rfl

end Reading
end AgentsAuth.Copilot
