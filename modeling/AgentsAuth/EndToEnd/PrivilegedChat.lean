import AgentsAuth.Copilot.Chat
import AgentsAuth.Curity.TokenEndpoint
import AgentsAuth.Specialist.Executor

/-!
# Privileged requests, end to end

The privileged branch of `/chat` in `apps/agent-copilot/src/server.ts` as a machine: a request
obtains a token for the specialist, hands it over and answers with what comes back. Many
requests are under way at once, on one exchange cache. The specialist's own run is part of
the stretch in which its reply arrives, since it shares nothing with the copilot.
-/

namespace AgentsAuth.EndToEnd

open AgentsAuth.A2a AgentsAuth.Agents AgentsAuth.AuthCurity AgentsAuth.Base AgentsAuth.Copilot
open AgentsAuth.Curity AgentsAuth.Lib

/-- Both agents, the token endpoint and the libraries that the agents share. -/
structure System where
  copilot : Copilot.Config
  specialist : Specialist.Config
  endpoint : TokenEndpoint
  json : JsonText
  decodeJwt : String → Option Claims

/-- Where a request stands. -/
inductive ChatPhase where
  | idle
  | obtaining (r : ChatRequest)
  | calling (r : ChatRequest) (token : String)
  | answered

/-- The copilot: its exchange helpers and its requests. -/
structure ChatState where
  helpers : ObtainState Copilot.Helper Copilot.ExchangeSlot CopilotRequest
  phase : Nat → ChatPhase

/-- What lets a request go on. A reply comes with what the specialist meets on its way to it. -/
inductive ChatEvent where
  | chat (r : ChatRequest) (now : Int)
  | obtain (e : ObtainEvent CopilotRequest)
  | replied (deps : Specialist.RemediationDeps) (reply : Except Thrown SendMessageResult)

/-- What a request makes happen. -/
inductive ChatObservation where
  | called (r : ChatRequest) (token : String)
  | ranLlm (r : ChatRequest)
  | answered (r : ChatRequest) (answer : ChatAnswer)

/-- The helpers of the copilot. -/
def System.helpers (sys : System) :
    ObtainDeps Copilot.Helper Copilot.ExchangeSlot CopilotRequest :=
  Copilot.copilot sys.copilot sys.decodeJwt

/-- The call of `obtainSpecialistToken` that a request makes. -/
def specialistRequest (r : ChatRequest) : CopilotRequest := .specialist (chatOpts r.authed)

/-- The key under which the token of a request is cached. -/
def System.key (sys : System) (r : ChatRequest) : CacheKey :=
  ⟨(chatOpts r.authed).subjectSub, sys.copilot.specialistScope, sys.copilot.specialistAudience,
    (chatOpts r.authed).subjectAcr⟩

/-- How a call of a helper has ended, if it has. -/
def settled (observations : List (Observation CopilotRequest)) : Option (Except Thrown String) :=
  observations.findSome? fun
    | .returned _ token => some (.ok token)
    | .refused e => some (.error e)
    | _ => none

/-- The request `c` moves on to `p`. -/
def ChatState.goto (s : ChatState) (c : Nat) (p : ChatPhase) : ChatState :=
  { s with phase := Function.update s.phase c p }

/-- A request goes on after a stretch of its helper: `server.ts:98–131,178–188`. -/
def ChatState.obtained (s : ChatState) (c : Nat) (r : ChatRequest)
    (out : ObtainState Copilot.Helper Copilot.ExchangeSlot CopilotRequest ×
      List (Observation CopilotRequest)) : ChatState × List ChatObservation :=
  let s := { s with helpers := out.1 }
  match settled out.2 with
  | none => (s.goto c (.obtaining r), [])
  | some (.ok token) => (s.goto c (.calling r token), [.called r token])
  | some (.error e) => (s.goto c .answered, [.answered r (chatFailure e)])

/-- `invalidateSpecialistTokenCache`, `specialist-client.ts:127–138`. -/
def ChatState.invalidate (s : ChatState) (sys : System) (r : ChatRequest) : ChatState :=
  { s with helpers := s.helpers.invalidate (sys.helpers.callOf (specialistRequest r)) }

/-- What the specialist does with the call of a request. -/
def System.execute (sys : System) (r : ChatRequest) (token : String)
    (deps : Specialist.RemediationDeps) : Specialist.Execution :=
  Specialist.execute sys.endpoint.jose sys.json sys.specialist token (userMessage r) deps

/-- One stretch of a request, `server.ts:97–189`. An event that the request is not waiting for
does nothing. -/
def chatStep (sys : System) (s : ChatState) (c : Nat) (event : ChatEvent) :
    ChatState × List ChatObservation :=
  match s.phase c, event with
  | .idle, .chat r now =>
    s.obtained c r (obtainStep sys.helpers s.helpers c (.start (specialistRequest r) now))
  | .obtaining r, .obtain e => s.obtained c r (obtainStep sys.helpers s.helpers c e)
  | .calling r token, .replied deps reply =>
    let ran := if (sys.execute r token deps).ranLlm then [ChatObservation.ranLlm r] else []
    match reply with
    | .error e =>
      ((s.invalidate sys r).goto c .answered, ran ++ [.answered r (chatFailure e)])
    | .ok reply =>
      (s.goto c .answered, ran ++ [.answered r (chatAnswer r (callSpecialist sys.json reply))])
  | _, _ => (s, [])

/-- The privileged requests of one copilot, in the order in which their stretches run. -/
def chatting (sys : System) : Machine ChatState (Nat × ChatEvent) (List ChatObservation) where
  init := ⟨(obtaining sys.helpers).init, fun _ ↦ .idle⟩
  step s e := chatStep sys s e.1 e.2

/-- Everything that a run does, oldest first. -/
def shown (sys : System) (es : List (Nat × ChatEvent)) : List ChatObservation :=
  ((chatting sys).transcript es).flatMap Prod.snd

/-- The requests that a run receives. -/
def chats (es : List (Nat × ChatEvent)) : List ChatRequest :=
  es.filterMap fun e ↦
    match e.2 with
    | .chat r _ => some r
    | _ => none

section History

variable {sys : System} {es : List (Nat × ChatEvent)} {e : Nat × ChatEvent}

/-- One more event shows what it answers. -/
theorem shown_concat :
    shown sys (es ++ [e]) = shown sys es ++ (chatStep sys ((chatting sys).run es) e.1 e.2).2 := by
  rw [shown, Machine.transcript_concat, List.flatMap_append]
  simp only [List.flatMap_cons, List.flatMap_nil, List.append_nil]
  rfl

/-- A later run has the same requests and more. -/
theorem chats_concat {r : ChatRequest} (h : r ∈ chats es) : r ∈ chats (es ++ [e]) := by
  rw [chats, List.filterMap_append]
  exact List.mem_append_left _ h

/-- An event that brings a request adds it. -/
theorem mem_chats_chat (es : List (Nat × ChatEvent)) (c : Nat) (r : ChatRequest) (now : Int) :
    r ∈ chats (es ++ [(c, ChatEvent.chat r now)]) := by
  rw [chats, List.filterMap_append]
  exact List.mem_append_right _ (List.mem_singleton_self _)

end History
end AgentsAuth.EndToEnd
