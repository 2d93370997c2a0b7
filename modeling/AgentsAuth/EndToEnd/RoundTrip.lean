import AgentsAuth.Copilot.Chat
import AgentsAuth.Specialist.Executor
import AgentsAuth.Web.AgentRoute

/-!
# From the specialist to the browser

What becomes of a remediation result on its way through the executor, the A2A reply,
agent-copilot and the web application. Each of them recognises the kinds of a result by the
shape of a payload, and no payload has the shape of two kinds.
-/

namespace AgentsAuth.EndToEnd

open AgentsAuth.A2a AgentsAuth.AuthCurity AgentsAuth.Base AgentsAuth.Copilot AgentsAuth.Specialist
open AgentsAuth.Web

/-- A reply whose last word is this payload. -/
def Carries (json : JsonText) (reply : SendMessageResult) (payload : Json) : Prop :=
  replyMessage reply = some ⟨.agent, [.text (json.stringifyIndented payload)]⟩

/-- A task that has failed. -/
def ReportsFailure (reply : SendMessageResult) : Prop :=
  ∃ t, reply = .task t ∧ t.state = some .failed

/-- A bare message, or a task that is completed. -/
def ReportsSuccess (reply : SendMessageResult) : Prop := replyState reply = .completed

/-- A response tells the kind of a result, with what belongs to it. -/
structure Decoded (reply : SendMessageResult) (r : RemediationResult) (resp : SpecialistResponse) :
    Prop where
  challenged : resp.status = .stepUp ↔ ∃ fields, r = .stepUp fields
  challenge : ∀ fields, r = .stepUp fields ↔
    resp.status = .stepUp ∧ resp.stepUp = some fields.toData
  failed : resp.ok = false ∧ resp.status = .task .failed ↔
    (∃ code description, r = .error code description) ∨
      (∃ summary steps, r = .ok summary steps) ∧ ReportsFailure reply
  completed : ReportsSuccess reply → ∀ summary steps, r = .ok summary steps ↔
    resp.ok = true ∧ resp.status = .task .completed ∧
      resp.result.bind (·.get? "summary") = some (.str summary) ∧
      resp.result.bind (·.get? "steps") = some steps

/-- What the browser makes of a response of `/chat` that is no answer. -/
def shownFailure (json : JsonText) (fetchMetadata : Option Json → Option Json)
    (answer : ChatAnswer) : Option AgentFailure :=
  answer.failureBody.map fun body ↦
    failureOf json fetchMetadata ⟨answer.status, json.stringify body⟩

/-- The texts on the way of a challenge lose nothing, and its header can be set. -/
structure Passes (json : JsonText) (fetchMetadata : Option Json → Option Json)
    (fields : StepUpFields) : Prop where
  header : headerSafe (challengeHeader fields.toData) = true
  copilot : json.RoundTrips (challengeBody fields)
  web : json.RoundTrips
    (passedOnBody fields (authServer fetchMetadata (some (.str fields.resourceMetadata))))

section Reading

variable {json : JsonText} {reply : SendMessageResult} {r : RemediationResult}

private theorem toData_injective {fields fields' : StepUpFields}
    (h : fields.toData = fields'.toData) : fields = fields' := by
  obtain ⟨acrValues, resourceMetadata, scope⟩ := fields
  obtain ⟨acrValues', resourceMetadata', scope'⟩ := fields'
  simp only [StepUpFields.toData, Json.obj.injEq, List.cons.injEq, Prod.mk.injEq, Json.str.injEq,
    true_and, and_true] at h
  obtain ⟨rfl, rfl, rfl⟩ := h
  rfl

/-- A payload that is read without loss tells its kind. -/
private theorem readReply_payload (text : String) (hparsed : tryParse json text = r.payload)
    (state : TaskState) :
    readReply json (some text) state =
      match r with
      | .stepUp fields => ⟨false, .stepUp, some text, some r.payload, some fields.toData⟩
      | .error _ _ => ⟨false, .task .failed, some text, some r.payload, none⟩
      | .ok _ _ => ⟨state = .completed, .task state, some text, some r.payload, none⟩ := by
  rw [readReply]
  simp only [Option.map_some, hparsed, Option.any_some]
  cases r with
  | stepUp fields =>
    have hstepUp : isStepUpPayload (RemediationResult.stepUp fields).payload = true :=
      isStepUpPayload_toPayload fields
    rw [if_pos hstepUp]
    rfl
  | error code description => rfl
  | ok summary steps => rfl

private theorem replyState_failed_iff : replyState reply = .failed ↔ ReportsFailure reply := by
  constructor
  · intro hfailed
    cases reply with
    | message m => cases hfailed
    | task t =>
      refine ⟨t, rfl, ?_⟩
      cases hts : t.state with
      | none =>
        rw [replyState, hts] at hfailed
        cases hfailed
      | some state =>
        rw [replyState, hts] at hfailed
        exact congrArg some hfailed
  · rintro ⟨t, rfl, hstate⟩
    simp [replyState, hstate]

/-- What challenges on neither side tells of no challenge. -/
private theorem challenge_iff_of_ne {resp : SpecialistResponse} (hr : ∀ fields, r ≠ .stepUp fields)
    (hstatus : resp.status ≠ .stepUp) :
    (resp.status = .stepUp ↔ ∃ fields, r = .stepUp fields) ∧
      ∀ fields, r = .stepUp fields ↔ resp.status = .stepUp ∧ resp.stepUp = some fields.toData := by
  constructor
  · apply iff_of_false hstatus
    rintro ⟨fields, h⟩
    exact hr fields h
  · intro fields
    apply iff_of_false (hr fields)
    rintro ⟨h, -⟩
    exact hstatus h

/-- What succeeds on neither side tells of no success. -/
private theorem success_iff_of_ne {resp : SpecialistResponse}
    (hr : ∀ summary steps, r ≠ .ok summary steps) (hok : resp.ok = false) (summary : String)
    (steps : Json) :
    r = .ok summary steps ↔ resp.ok = true ∧ resp.status = .task .completed ∧
      resp.result.bind (·.get? "summary") = some (.str summary) ∧
      resp.result.bind (·.get? "steps") = some steps := by
  apply iff_of_false (hr summary steps)
  rintro ⟨h, -⟩
  rw [hok] at h
  cases h

/-- A result that is carried without loss is decoded as what it is. -/
theorem decoded_of_carries (hcarries : Carries json reply r.payload)
    (hlossless : json.Lossless r.payload) : Decoded reply r (callSpecialist json reply) := by
  obtain ⟨hread, hparsed⟩ := callSpecialist_of_carried hcarries hlossless
  rw [hread, readReply_payload _ hparsed]
  cases r with
  | stepUp fields =>
    constructor
    · exact iff_of_true rfl ⟨fields, rfl⟩
    · intro fields'
      constructor
      · intro h
        cases h
        exact ⟨rfl, rfl⟩
      · rintro ⟨-, h⟩
        rw [toData_injective (Option.some.inj h)]
    · apply iff_of_false
      · rintro ⟨-, h⟩
        cases h
      · rintro (⟨code, description, h⟩ | ⟨⟨summary, steps, h⟩, -⟩)
        · cases h
        · cases h
    · exact fun _ ↦ success_iff_of_ne (fun _ _ h ↦ by cases h) rfl
  | error code description =>
    constructor
    · exact (challenge_iff_of_ne (fun _ h ↦ by cases h) (fun h ↦ by cases h)).1
    · exact (challenge_iff_of_ne (fun _ h ↦ by cases h) (fun h ↦ by cases h)).2
    · exact iff_of_true ⟨rfl, rfl⟩ (Or.inl ⟨code, description, rfl⟩)
    · exact fun _ ↦ success_iff_of_ne (fun _ _ h ↦ by cases h) rfl
  | ok summary steps =>
    constructor
    · exact (challenge_iff_of_ne (fun _ h ↦ by cases h) (fun h ↦ by cases h)).1
    · exact (challenge_iff_of_ne (fun _ h ↦ by cases h) (fun h ↦ by cases h)).2
    · constructor
      · rintro ⟨-, hstate⟩
        exact Or.inr ⟨⟨summary, steps, rfl⟩,
          replyState_failed_iff.mp (SpecialistStatus.task.inj hstate)⟩
      · rintro (⟨code, description, h⟩ | ⟨-, hfailure⟩)
        · cases h
        · simp [replyState_failed_iff.mpr hfailure]
    · intro hsuccess summary' steps'
      have hstate : replyState reply = .completed := hsuccess
      simp only [hstate]
      constructor
      · intro h
        cases h
        exact ⟨rfl, trivial, rfl, rfl⟩
      · rintro ⟨-, -, hsummary, hsteps⟩
        cases hsummary
        cases hsteps
        rfl

/-- A result that is carried without loss is decoded as what it is, where a success in a task that
has failed is decoded as a failure; and a challenge whose texts lose nothing and whose header
can be set reaches the browser. -/
theorem round_trip (hcarries : Carries json reply r.payload) (hlossless : json.Lossless r.payload) :
    Decoded reply r (callSpecialist json reply) ∧
    ∀ fields fetchMetadata request, r = .stepUp fields → Passes json fetchMetadata fields →
      shownFailure json fetchMetadata (chatAnswer request (callSpecialist json reply)) =
        some (.stepUp fields.acrValues fields.scope) := by
  refine ⟨decoded_of_carries hcarries hlossless, ?_⟩
  rintro fields fetchMetadata request rfl hpasses
  rw [chatAnswer_of_stepUp hcarries hlossless, challenge_of_headerSafe hpasses.header]
  exact congrArg some (failureOf_challenge hpasses.copilot hpasses.web)

end Reading

section Sample

private def tripFields (acrValues : String) : StepUpFields :=
  ⟨acrValues, "https://gateway.localtest.me/prm", "ops:write"⟩

/-- The text of the payload with `acr` for the text of its `acrValues` in a string of JSON. -/
private def tripText (acr : String) : String :=
  "\x7b\n  \"code\": -33001,\n  \"message\": \"step-up required: acr_values=" ++ acr ++ "\",\n" ++
  "  \"data\": \x7b\n    \"acrValues\": \"" ++ acr ++ "\",\n" ++
  "    \"resourceMetadata\": \"https://gateway.localtest.me/prm\",\n" ++
  "    \"scope\": \"ops:write\"\n  \x7d\n\x7d"

private def tripBodyText (acr : String) : String :=
  "\x7b\"kind\":\"step-up\",\"acrValues\":\"" ++ acr ++
  "\",\"resourceMetadata\":\"https://gateway.localtest.me/prm\",\"scope\":\"ops:write\"\x7d"

private def tripPassedText (acr : String) : String :=
  "\x7b\"kind\":\"step-up\",\"acrValues\":\"" ++ acr ++
  "\",\"scope\":\"ops:write\",\"authServer\":\"\"\x7d"

/-- `JSON` as far as a challenge uses it. -/
private def tripJson (acrValues acr : String) : JsonText where
  stringify := fun v ↦
    if (v.get? "authServer").isSome then tripPassedText acr else tripBodyText acr
  stringifyIndented := fun _ ↦ tripText acr
  parse := fun text ↦
    if text = tripText acr then some (tripFields acrValues).toPayload
    else if text = tripBodyText acr then some (challengeBody (tripFields acrValues))
    else if text = tripPassedText acr then some (passedOnBody (tripFields acrValues) (.str ""))
    else none

/-- The texts of a challenge are told apart. -/
private structure TripTexts (acr : String) : Prop where
  payload : tripText acr ≠ ""
  body : tripBodyText acr ≠ "" ∧ tripBodyText acr ≠ tripText acr
  passed : tripPassedText acr ≠ "" ∧ tripPassedText acr ≠ tripText acr ∧
    tripPassedText acr ≠ tripBodyText acr

private theorem trip_lossless {acrValues acr : String} (h : TripTexts acr) :
    (tripJson acrValues acr).Lossless (tripFields acrValues).toPayload := by
  refine ⟨h.payload, ?_⟩
  simp only [tripJson, if_pos]

private theorem trip_body {acrValues acr : String} (h : TripTexts acr) :
    (tripJson acrValues acr).RoundTrips (challengeBody (tripFields acrValues)) := by
  have htext : (tripJson acrValues acr).stringify (challengeBody (tripFields acrValues)) =
      tripBodyText acr := rfl
  rw [JsonText.RoundTrips, htext]
  refine ⟨h.body.1, ?_⟩
  simp only [tripJson, if_neg h.body.2, if_pos]

private theorem trip_passed {acrValues acr : String} (h : TripTexts acr) :
    (tripJson acrValues acr).RoundTrips (passedOnBody (tripFields acrValues) (.str "")) := by
  have htext : (tripJson acrValues acr).stringify (passedOnBody (tripFields acrValues) (.str "")) =
      tripPassedText acr := rfl
  rw [JsonText.RoundTrips, htext]
  refine ⟨h.passed.1, ?_⟩
  simp only [tripJson, if_neg h.passed.2.1, if_neg h.passed.2.2, if_pos]

private theorem tripTexts_mfa : TripTexts "mfa" := by
  constructor <;> decide

private theorem tripMessage_nonBlank : Lib.trim "restart checkout" ≠ "" := by
  decide

private def tripRequest : ChatRequest :=
  ⟨⟨⟨fun _ ↦ none, []⟩, "bearer"⟩, "restart checkout", ⟨"checkout", none, none⟩,
    tripMessage_nonBlank⟩

/-- A challenge of the demo reaches the browser. -/
theorem round_trip_sample :
    shownFailure (tripJson "mfa" "mfa") (fun _ ↦ none)
      (chatAnswer tripRequest (callSpecialist (tripJson "mfa" "mfa")
        (.message ⟨.agent, [.text (tripText "mfa")]⟩))) = some (.stepUp "mfa" "ops:write") := by
  have htrip := @round_trip (tripJson "mfa" "mfa") (.message ⟨.agent, [.text (tripText "mfa")]⟩)
    (.stepUp (tripFields "mfa")) rfl (trip_lossless tripTexts_mfa)
  apply htrip.2 (tripFields "mfa") _ _ rfl
  refine ⟨?_, trip_body tripTexts_mfa, trip_passed tripTexts_mfa⟩
  decide +kernel

private def doneText : String :=
  "\x7b\n  \"ok\": true,\n  \"summary\": \"restarted\",\n  \"steps\": []\n\x7d"

/-- `JSON` as far as a success uses it. -/
private def doneJson : JsonText where
  stringify := fun _ ↦ "\x7b\"ok\":true,\"summary\":\"restarted\",\"steps\":[]\x7d"
  stringifyIndented := fun _ ↦ doneText
  parse := fun text ↦
    if text = doneText then some (RemediationResult.ok "restarted" (.arr [])).payload else none

private theorem tripTexts_newline : TripTexts "mfa\\n" := by
  constructor <;> decide

/-- A success in a task that has failed is decoded as a failure, and a challenge whose `acrValues`
contain a line break does not reach the browser as one. -/
theorem trip_not_exact :
    (¬ ∀ json reply (r : RemediationResult), Carries json reply r.payload →
      json.Lossless r.payload →
      ((callSpecialist json reply).ok = false ∧
          (callSpecialist json reply).status = .task .failed ↔
        ∃ code description, r = .error code description)) ∧
    ¬ ∀ json reply fields fetchMetadata request, Carries json reply fields.toPayload →
      json.Lossless fields.toPayload → json.RoundTrips (challengeBody fields) →
      json.RoundTrips
        (passedOnBody fields (authServer fetchMetadata (some (.str fields.resourceMetadata)))) →
      shownFailure json fetchMetadata (chatAnswer request (callSpecialist json reply)) =
        some (.stepUp fields.acrValues fields.scope) := by
  constructor
  · intro h
    have hlossless : doneJson.Lossless (RemediationResult.ok "restarted" (.arr [])).payload := by
      refine ⟨?_, ?_⟩
      · show doneText ≠ ""
        decide
      · show doneJson.parse doneText = _
        simp only [doneJson, if_pos]
    have hreply : Carries doneJson (.task ⟨some .failed, none, some [⟨.agent, [.text doneText]⟩]⟩)
        (RemediationResult.ok "restarted" (.arr [])).payload := rfl
    obtain ⟨hread, hparsed⟩ := callSpecialist_of_carried hreply hlossless
    have hfailed := (h doneJson _ (.ok "restarted" (.arr [])) hreply hlossless).mp (by
      rw [hread, readReply_payload (r := .ok "restarted" (.arr [])) _ hparsed]
      exact ⟨rfl, rfl⟩)
    obtain ⟨code, description, herror⟩ := hfailed
    cases herror
  · intro h
    have hcarries : Carries (tripJson "mfa\n" "mfa\\n")
        (.message ⟨.agent, [.text (tripText "mfa\\n")]⟩) (tripFields "mfa\n").toPayload := rfl
    have hshown := h (tripJson "mfa\n" "mfa\\n") _ (tripFields "mfa\n") (fun _ ↦ none) tripRequest
      hcarries (trip_lossless tripTexts_newline) (trip_body tripTexts_newline)
      (trip_passed tripTexts_newline)
    have hnotSafe : headerSafe (challengeHeader (tripFields "mfa\n").toData) = false := by
      decide +kernel
    rw [chatAnswer_of_stepUp hcarries (trip_lossless tripTexts_newline)] at hshown
    have hchallenge : challenge (tripFields "mfa\n").toData = chatFailure
        (.other "TypeError" "Invalid character in header content [\"WWW-Authenticate\"]") := by
      unfold challenge
      rw [hnotSafe]
      rfl
    rw [hchallenge] at hshown
    cases hshown

end Sample
end AgentsAuth.EndToEnd
