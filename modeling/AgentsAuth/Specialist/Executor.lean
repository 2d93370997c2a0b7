import AgentsAuth.A2a.Payload
import AgentsAuth.Runtime.McpOAuthClient
import AgentsAuth.Specialist.Exchanges

/-!
# The remediation of agent-specialist

`apps/agent-specialist/src/executor.ts`: the gates in front of the tool-calling loop, in the
order of the source, and what the executor publishes. A missing scope and a missing `acr`
both become a step-up challenge; every other refusal becomes an error payload.
-/

namespace AgentsAuth.Specialist

open AgentsAuth.A2a AgentsAuth.Agents AgentsAuth.AuthCurity AgentsAuth.Base AgentsAuth.Lib
open AgentsAuth.Runtime

/-- What `runLlm` resolves to; the steps are passed on as they are. -/
structure LlmRun where
  text : String
  steps : Json

/-- `RemediationResult` of `executor.ts:84–87`. -/
inductive RemediationResult where
  | ok (summary : String) (steps : Json)
  | stepUp (fields : StepUpFields)
  | error (error description : String)

/-- An awaited call that may use the intercepting fetch: its outcome, and the challenge that the
fetch meets meanwhile. -/
structure Awaited (α : Type) where
  outcome : Except Thrown α
  challenge : Option StepUpFields

/-- What a remediation awaits, in the order of the source. The intercepting fetch is built for
`openOps`. -/
structure RemediationDeps where
  discoverOps : Except Thrown McpAuthDiscovery
  prepareOps : Preparation
  exchangeOps : ExchangeTokenParams → Except Thrown ExchangeTokenResult
  acquireInspect : Except Thrown String
  openInspect : Except Thrown Unit
  openOps : Awaited Unit
  obtainLlmToken : Awaited String
  runLlm : Awaited LlmRun
  closeInspect : Awaited Unit
  closeOps : Awaited Unit

/-- How a remediation ends: what it resolves or rejects with, what `stepUpSink` then holds, and
whether `runLlm` has been called. -/
structure Remediation where
  result : Except Thrown RemediationResult
  sink : Option StepUpFields
  ranLlm : Bool

/-- The error result of a failed call: `executor.ts:143–144,152–153,197–198`. -/
def failure : Thrown → RemediationResult
  | .curityAuth e => .error e.code.toText e.message
  | .other name message => .error "specialist_failure" (Thrown.other name message).toText

/-- `String(value)`, which throws where the value has no text. -/
def stringOf (value : Json) : Except Thrown String := value.text?.elim (.error noText) .ok

/-- `String(claims[name] ?? fallback)`. -/
def stringClaim (claims : Claims) (name fallback : String) : Except Thrown String :=
  match claims name with
  | none => .ok fallback
  | some .null => .ok fallback
  | some value => stringOf value

/-- The `acr` that a discovery says to step up to: `executor.ts:237`. -/
def offeredAcr (d : McpAuthDiscovery) (cfg : Config) : Json :=
  match index0 (d.resourceMetadata.get? "acr_values_supported") with
  | none => .str cfg.requiredAcr
  | some .null => .str cfg.requiredAcr
  | some value => value

/-- The challenge for what a discovery says. The message of a `StepUpRequiredError` has the offered
`acr` in it, so that one without a text throws. -/
def stepUpFields (d : McpAuthDiscovery) (cfg : Config) : Except Thrown StepUpFields := do
  return ⟨← stringOf (offeredAcr d cfg), d.resourceMetadataUrl, d.scope⟩

/-- Model of `stepUpFromDiscovery`, `executor.ts:235–242`. -/
def stepUpFromDiscovery (d : McpAuthDiscovery) (cfg : Config) : Except Thrown RemediationResult :=
  (stepUpFields d cfg).map .stepUp

/-- The result of a refused token, `executor.ts:148–154,191–199`: only a missing scope calls for
a step-up. -/
def gateFailure (d : McpAuthDiscovery) (cfg : Config) : Thrown → Except Thrown RemediationResult
  | .curityAuth e =>
    if e.code = .invalidScope then stepUpFromDiscovery d cfg else .ok (failure (.curityAuth e))
  | e => .ok (failure e)

/-- `acquire` of the ops provider after its `discover`: `mcp-auth.ts:12–36`. -/
def acquireOps (cfg : Config) (bearer sub : String) (d : McpAuthDiscovery)
    (deps : RemediationDeps) : Except Thrown String := do
  let call := obtainOpsToken cfg bearer sub d.tokenEndpoint d.scope none
  let result ← deps.exchangeOps (← call.exchangeParams deps.prepareOps)
  return result.accessToken

/-- The read token and the read toolset: `executor.ts:173–180`. -/
def openRead (deps : RemediationDeps) : Except Thrown Unit := do
  let _ ← deps.acquireInspect
  deps.openInspect

/-- A recorded challenge wins over the outcome of the loop: `executor.ts:216,221`. -/
def judged (sink : Option StepUpFields) (result : RemediationResult) : RemediationResult :=
  match sink with
  | some fields => .stepUp fields
  | none => result

/-- The tool-calling loop: `executor.ts:201–223`. The first challenge is the one recorded. -/
def runTools (deps : RemediationDeps) : Remediation :=
  let sink := deps.openOps.challenge.or deps.obtainLlmToken.challenge
  match deps.obtainLlmToken.outcome with
  | .error e => ⟨.ok (judged sink (.error "specialist_failure" e.toText)), sink, false⟩
  | .ok _ =>
    let sink := sink.or deps.runLlm.challenge
    match deps.runLlm.outcome with
    | .error e => ⟨.ok (judged sink (.error "specialist_failure" e.toText)), sink, true⟩
    | .ok run => ⟨.ok (judged sink (.ok run.text run.steps)), sink, true⟩

/-- Both toolsets are closed after the loop, and a failure to close wins: `executor.ts:223–226`. -/
def closeToolsets (deps : RemediationDeps) (out : Remediation) : Remediation :=
  let sink := out.sink.or deps.closeInspect.challenge
  match deps.closeInspect.outcome with
  | .error e => ⟨.error e, sink, out.ranLlm⟩
  | .ok () =>
    let sink := sink.or deps.closeOps.challenge
    match deps.closeOps.outcome with
    | .error e => ⟨.error e, sink, out.ranLlm⟩
    | .ok () => ⟨out.result, sink, out.ranLlm⟩

/-- The read toolset is closed when the other one does not open: `executor.ts:190–199`. -/
def abandonOpening (deps : RemediationDeps) (result : Except Thrown RemediationResult) :
    Remediation :=
  let sink := deps.openOps.challenge.or deps.closeInspect.challenge
  match deps.closeInspect.outcome with
  | .error e => ⟨.error e, sink, false⟩
  | .ok () => ⟨result, sink, false⟩

/-- Model of `remediate`, `executor.ts:127–227`. -/
def remediate (cfg : Config) (bearer goal : String) (payload : Claims) (deps : RemediationDeps) :
    Remediation :=
  match stringClaim payload "sub" "unknown" with
  | .error e => ⟨.error e, none, false⟩
  | .ok sub =>
    if trim goal = "" then ⟨.ok (.error "bad_request" "empty request"), none, false⟩
    else
      match deps.discoverOps with
      | .error e => ⟨.ok (failure e), none, false⟩
      | .ok d =>
        match acquireOps cfg bearer sub d deps with
        | .error e => ⟨gateFailure d cfg e, none, false⟩
        | .ok _ =>
          match stringClaim payload "acr" "" with
          | .error e => ⟨.error e, none, false⟩
          | .ok acr =>
            if acr ≠ cfg.requiredAcr then ⟨stepUpFromDiscovery d cfg, none, false⟩
            else
              match openRead deps with
              | .error e => ⟨gateFailure d cfg e, none, false⟩
              | .ok () =>
                match deps.openOps.outcome with
                | .error e => abandonOpening deps (gateFailure d cfg e)
                | .ok () => closeToolsets deps (runTools deps)

/-- A challenge is written to the log, with the `acr` of the caller in it: `executor.ts:109–123`. -/
def logged (payload : Claims) (out : Remediation) : Remediation :=
  match out.result with
  | .ok (.stepUp fields) =>
    { out with result := (stringClaim payload "acr" "(none)").map fun _ ↦ .stepUp fields }
  | _ => out

/-- Model of `runRemediation`, `executor.ts:107–125`. -/
def runRemediation (cfg : Config) (bearer goal : String) (payload : Claims)
    (deps : RemediationDeps) : Remediation :=
  logged payload (remediate cfg bearer goal payload deps)

/-- The payload that the executor publishes: `executor.ts:409–425`. -/
def RemediationResult.payload : RemediationResult → Json
  | .ok summary steps => .obj [("ok", .bool true), ("summary", .str summary), ("steps", steps)]
  | .stepUp fields => fields.toPayload
  | .error code description =>
    .obj [("error", .str code), ("error_description", .str description)]

/-- What the executor publishes last: a bare status, or a message and then a status, or nothing but
the task it works on. -/
inductive Published where
  | working
  | status (text : String)
  | final (payload : Json) (state : TaskState)

/-- What the executor publishes, and whether `runLlm` has been called. -/
structure Execution where
  published : Published
  ranLlm : Bool

/-- Model of `goalFromMessage`, `executor.ts:246–252`. -/
def goalFromMessage (json : JsonText) (message : Message) : String :=
  let texts := message.parts.map fun
    | .text text => text
    | .data data => if data.truthy then json.stringify data else ""
    | .file => ""
  trim (" ".intercalate (texts.filter (· ≠ "")))

/-- What is published for a remediation; one that rejects is an error: `executor.ts:426–432`. -/
def RemediationResult.settled : Except Thrown RemediationResult → RemediationResult
  | .ok result => result
  | .error e => .error "specialist_failure" e.toText

/-- Model of `execute`, `executor.ts:359–436`. -/
def execute (jose : Jose) (json : JsonText) (cfg : Config) (bearer : String) (message : Message)
    (deps : RemediationDeps) : Execution :=
  if bearer = "" then ⟨.status "unauthenticated", false⟩
  else
    match verifyJwt jose bearer
        ⟨cfg.curityIssuer, cfg.expectedAudience, some cfg.curityJwksUri, none, none⟩ with
    | .error e => ⟨.status (e.code.toText ++ ": " ++ e.message), false⟩
    | .ok verified =>
      -- the log line of a received task writes the `sub`, outside the `try`
      match stringClaim verified.payload "sub" "unknown" with
      | .error _ => ⟨.working, false⟩
      | .ok _ =>
        let out := runRemediation cfg bearer (goalFromMessage json message) verified.payload deps
        match RemediationResult.settled out.result with
        | .ok summary steps =>
          ⟨.final (RemediationResult.ok summary steps).payload .completed, out.ranLlm⟩
        | result => ⟨.final result.payload .failed, out.ranLlm⟩

section Texts

variable {d : McpAuthDiscovery} {cfg : Config} {payload : Claims} {name fallback : String}

/-- A value with a text is written as it. -/
theorem stringOf_eq_ok_iff {value : Json} {text : String} :
    stringOf value = .ok text ↔ value.hasText = true ∧ value.toText = text := by
  unfold stringOf Json.text?
  split
  · next h => simp [h]
  · next h => simp [h]

/-- Which fallback stands for an absent claim makes no difference to whether it has a text. -/
theorem stringClaim_isOk_iff (fallback' : String) :
    (∃ text, stringClaim payload name fallback = .ok text) ↔
      ∃ text, stringClaim payload name fallback' = .ok text := by
  unfold stringClaim
  split
  · simp
  · simp
  · exact Iff.rfl

/-- A challenge can be made of a discovery exactly when the `acr` it offers has a text. -/
theorem stepUpFields_eq_ok_iff {fields : StepUpFields} :
    stepUpFields d cfg = .ok fields ↔ (offeredAcr d cfg).hasText = true ∧
      fields = ⟨(offeredAcr d cfg).toText, d.resourceMetadataUrl, d.scope⟩ := by
  unfold stepUpFields
  rw [bind_eq_ok_iff]
  constructor
  · rintro ⟨text, htext, hfields⟩
    obtain ⟨hhas, rfl⟩ := stringOf_eq_ok_iff.mp htext
    cases hfields
    exact ⟨hhas, rfl⟩
  · rintro ⟨hhas, rfl⟩
    exact ⟨_, stringOf_eq_ok_iff.mpr ⟨hhas, rfl⟩, rfl⟩

end Texts

section Gates

variable {cfg : Config} {bearer goal : String} {payload : Claims} {deps : RemediationDeps}
  {d : McpAuthDiscovery}

/-- Without the scope the ops server asks for, the user is challenged and no tool runs. -/
theorem runRemediation_of_invalidScope {message sub acr : String} {fields : StepUpFields}
    (hgoal : trim goal ≠ "") (hsub : stringClaim payload "sub" "unknown" = .ok sub)
    (hacr : stringClaim payload "acr" "(none)" = .ok acr) (hdiscover : deps.discoverOps = .ok d)
    (hfields : stepUpFields d cfg = .ok fields)
    (hacquire : acquireOps cfg bearer sub d deps =
      .error (.curityAuth ⟨message, .invalidScope⟩)) :
    runRemediation cfg bearer goal payload deps = ⟨.ok (.stepUp fields), none, false⟩ := by
  have hgates : remediate cfg bearer goal payload deps = ⟨.ok (.stepUp fields), none, false⟩ := by
    unfold remediate
    rw [hsub]
    simp only [if_neg hgoal, hdiscover, hacquire, gateFailure, if_true, stepUpFromDiscovery,
      hfields]
    rfl
  rw [runRemediation, hgates, logged, hacr]
  rfl

end Gates

/-- With a bearer token that verifies and whose `sub` has a text, what the remediation comes to is
published. -/
theorem execute_of_verified {jose : Jose} {json : JsonText} {cfg : Config} {bearer sub : String}
    {message : Message} {deps : RemediationDeps} {verified : VerifiedJwt} (hbearer : bearer ≠ "")
    (hverified : verifyJwt jose bearer
      ⟨cfg.curityIssuer, cfg.expectedAudience, some cfg.curityJwksUri, none, none⟩ =
        .ok verified)
    (hsub : stringClaim verified.payload "sub" "unknown" = .ok sub) :
    ∃ state, execute jose json cfg bearer message deps =
      ⟨.final (RemediationResult.settled (runRemediation cfg bearer (goalFromMessage json message)
          verified.payload deps).result).payload state,
        (runRemediation cfg bearer (goalFromMessage json message) verified.payload
          deps).ranLlm⟩ := by
  simp only [execute, if_neg hbearer, hverified, hsub]
  cases RemediationResult.settled
      (runRemediation cfg bearer (goalFromMessage json message) verified.payload deps).result with
  | ok summary steps => exact ⟨.completed, rfl⟩
  | stepUp fields => exact ⟨.failed, rfl⟩
  | error code description => exact ⟨.failed, rfl⟩

/-- What the ops server of the demo is discovered to be. -/
def sampleOpsDiscovery : McpAuthDiscovery where
  serverUrl := sampleConfig.mcpOpsUrl
  resourceMetadataUrl := "https://gateway.localtest.me/prm"
  resourceMetadata := .obj [("acr_values_supported", .arr [.str "mfa"])]
  authorizationServer := sampleConfig.curityIssuer
  authorizationServerMetadata := .obj []
  tokenEndpoint := "https://curity.localtest.me/oauth/v2/oauth-token"
  scope := "ops:write"
  scopeSource := .challenge
  discoveredAt := 0

end AgentsAuth.Specialist
