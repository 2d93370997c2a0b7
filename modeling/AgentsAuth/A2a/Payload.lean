import AgentsAuth.Base.Json

/-!
# Messages between the agents

What `packages/a2a-helpers/src/step-up-error.ts` and the two agents read and write of A2A
messages and tasks. The A2A SDK and `JSON` are outside the repository; a step-up challenge
travels as the JSON text of a message.
-/

namespace AgentsAuth.A2a

open AgentsAuth.Base

/-- `StepUpFields` of `packages/a2a-helpers/src/step-up-error.ts:3–7`. -/
structure StepUpFields where
  acrValues : String
  resourceMetadata : String
  scope : String
deriving DecidableEq

/-- `STEP_UP_CODE`. -/
def stepUpCode : JsonNumber := ⟨-33001, "-33001"⟩

/-- The `data` of the payload of a `StepUpRequiredError`. -/
def StepUpFields.toData (fields : StepUpFields) : Json :=
  .obj
    [("acrValues", .str fields.acrValues), ("resourceMetadata", .str fields.resourceMetadata),
      ("scope", .str fields.scope)]

/-- The payload of a `StepUpRequiredError`: `step-up-error.ts:15–36`. -/
def StepUpFields.toPayload (fields : StepUpFields) : Json :=
  .obj
    [("code", .num stepUpCode),
      ("message", .str ("step-up required: acr_values=" ++ fields.acrValues)),
      ("data", fields.toData)]

/-- Model of `step-up-error.ts:42–50`. -/
def isStepUpPayload (p : Json) : Bool :=
  match p.get? "code", p.get? "data" with
  | some (.num code), some data =>
    code.value = stepUpCode.value && data.isObject && (data.get? "acrValues").isSome
  | _, _ => false

/-- A part of a message; a file has neither text nor data. -/
inductive Part where
  | text (text : String)
  | data (data : Json)
  | file

/-- Who wrote a message. -/
inductive Role where
  | user
  | agent
deriving DecidableEq

/-- `Message` of the SDK, without the identifiers. -/
structure Message where
  role : Role
  parts : List Part

/-- `TaskState` of the SDK. -/
inductive TaskState where
  | submitted
  | working
  | inputRequired
  | completed
  | canceled
  | failed
  | rejected
  | authRequired
  | unknown
deriving DecidableEq

/-- `Task` of the SDK, without the identifiers. -/
structure Task where
  state : Option TaskState
  statusMessage : Option Message
  history : Option (List Message)

/-- What `sendMessage` resolves to. -/
inductive SendMessageResult where
  | task (t : Task)
  | message (m : Message)

/-- `JSON.stringify`, the same with two blanks of indentation, and `JSON.parse`; `none` is a
thrown error. -/
structure JsonText where
  stringify : Json → String
  stringifyIndented : Json → String
  parse : String → Option Json

/-- The text of a value can be parsed again, to the same value. -/
def JsonText.Lossless (json : JsonText) (value : Json) : Prop :=
  json.stringifyIndented value ≠ "" ∧ json.parse (json.stringifyIndented value) = some value

/-- The text of a value without indentation can be parsed again, to the same value. -/
def JsonText.RoundTrips (json : JsonText) (value : Json) : Prop :=
  json.stringify value ≠ "" ∧ json.parse (json.stringify value) = some value

/-- A challenge is recognised by its payload. -/
theorem isStepUpPayload_toPayload (fields : StepUpFields) :
    isStepUpPayload fields.toPayload = true := by
  simp [isStepUpPayload, StepUpFields.toPayload, StepUpFields.toData, Json.get?, Json.isObject,
    List.lookup_cons]

end AgentsAuth.A2a
