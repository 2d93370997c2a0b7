import AgentsAuth.Lib.Machine
import AgentsAuth.Lib.Words
import AgentsAuth.Web.AgentRoute

/-!
# The chat page

The component of `apps/web/src/app/chat.tsx` in one browser tab, with the storage of
`apps/web/src/lib/step-up-return.ts` that outlives the redirect of a step-up. What the page shows of
a question is what became of the last one that it asked, and it asks again on its own once for every
step-up that the user has started.
-/

namespace AgentsAuth.Web

open AgentsAuth.A2a AgentsAuth.Base AgentsAuth.Lib

/-- `Flow` of `chat-rules.ts:7`. -/
inductive Flow where
  | read
  | privileged
deriving DecidableEq

/-- The panels below the answer. -/
inductive Panel where
  | svids
  | obo
  | tools
deriving DecidableEq

/-- A value that is neither `undefined` nor `null`. -/
def present (value : Option Json) : Option Json := value.filter Json.notNull

/-- Model of `flowOf`, `chat-rules.ts:14–16`; `none` is a thrown error. -/
def flowOf (response : Option Json) : Option Flow :=
  (present response).map fun body ↦
    if ((body.get? "route").filter Json.truthy).isSome ||
        ((body.get? "specialist").filter Json.truthy).isSome then .privileged
    else .read

/-- Model of `svidFlowToShow`, `chat-rules.ts:26–32`. -/
def svidFlowToShow (response : Option Json) (override : Option Flow) : Option Flow :=
  match override with
  | some flow => some flow
  | none => flowOf (response.filter Json.truthy)

/-- `StepUpReturn` of `step-up-return.ts:13–17`. -/
structure StepUpReturn where
  message : String
  scope : String
  retry : Bool

/-- The three items of the tab's `sessionStorage`: `step-up-return.ts:9–11`. -/
structure Storage where
  message : Option String
  scope : Option String
  retry : Option String

/-- Storage without any of the three. -/
def Storage.empty : Storage := ⟨none, none, none⟩

/-- Model of `step-up-return.ts:19–23`. -/
def stashStepUp (_ : Storage) (message scope : String) : Storage :=
  ⟨some message, some scope, some "1"⟩

/-- Model of `step-up-return.ts:26–35`. -/
def takeStepUpReturn (storage : Storage) : Storage × Option StepUpReturn :=
  match storage.message with
  | none => (storage, none)
  | some message =>
    (.empty, some ⟨message, storage.scope.getD "", storage.retry.isSome⟩)

/-- A question on its way, with the panels that were open when it was asked. -/
structure Question where
  text : String
  opened : Panel → Bool

/-- What comes of the request for an answer. -/
inductive Answer where
  | unreachable (detail : String)
  | response (status : Nat) (body : Option Json)

/-- The state of the component about the question: `chat.tsx:86–96`. -/
structure Ask where
  message : String
  loading : Bool
  response : Option Json
  asked : Option String
  error : Option AgentFailure
  stepUp : Option (String × String)
  mfaReturn : Option StepUpReturn
  questions : List Question

/-- The state about one panel. -/
structure PanelState where
  shown : Option Json
  loading : Bool
  error : Option String

/-- A request for the content of a panel. -/
structure Load where
  panel : Panel
  flow : Option Flow

/-- What comes of such a request. -/
inductive LoadAnswer where
  | content (body : Json)
  | refused (message : String)
  | threw (message : String)

/-- The state about the panels: `chat.tsx:98–112`. -/
structure Panels where
  panel : Panel → PanelState
  svidFlow : Flow
  loads : List Load

/-- A tab: its storage and the page in it. -/
structure Tab where
  storage : Storage
  ask : Ask
  panels : Panels

/-- What happens in a tab. -/
inductive PageEvent where
  /-- The page is loaded, also on the way back from a login, whatever that has led to. -/
  | mount
  | edit (text : String)
  | send
  | answer (i : Nat) (a : Answer)
  | authenticate
  | showPanel (panel : Panel)
  | hidePanel (panel : Panel)
  | loaded (i : Nat) (a : LoadAnswer)

/-- What a tab does outside of itself. -/
inductive Output where
  | ask (question : Question) (fromStepUp : Bool)
  | signIn (acrValues scope stashed : String)
  | load (request : Load)

/-- The question that is asked. -/
def Output.question : Output → Option Question
  | ask q _ => some q
  | _ => none

/-- `r.ok`. -/
def isOk (status : Nat) : Bool := 200 ≤ status && status < 300

/-- `DEFAULT_PROMPT`, `chat-rules.ts:95`. -/
def defaultPrompt : String := "List all pods in the prod namespace"

/-- The component before anything has happened. -/
def Ask.initial : Ask := ⟨defaultPrompt, false, none, none, none, none, none, []⟩

/-- The panels before anything has happened. -/
def Panels.initial : Panels := ⟨fun _ ↦ ⟨none, false, none⟩, .read, []⟩

namespace Panels

/-- The panels that show something. -/
def opened (panels : Panels) (panel : Panel) : Bool := (panels.panel panel).shown.isSome

/-- The panels with another state of one. -/
def set (panels : Panels) (panel : Panel) (state : PanelState) : Panels :=
  { panels with panel := Function.update panels.panel panel state }

/-- The common part of `loadSvids`, `loadObo` and `loadTools` up to the `fetch`: `chat.tsx:188–190`,
`220–222`, `239–241`. -/
def request (panels : Panels) (load : Load) : Panels × List Output :=
  ({ panels.set load.panel ⟨none, true, none⟩ with loads := panels.loads ++ [load] }, [.load load])

/-- Model of `loadSvids` up to the `fetch`, `chat.tsx:186–203`, for the response that the page
shows. -/
def loadSvids (panels : Panels) (response : Option Json) (override : Option Flow) :
    Panels × List Output :=
  match svidFlowToShow response override with
  | none => (panels.set .svids ⟨some (.arr []), false, none⟩, [])
  | some flow => panels.request ⟨.svids, some flow⟩

/-- What becomes of a panel when the answer is there: `chat.tsx:204–216`, `225–235`, `244–253`. -/
def receive (panels : Panels) (load : Load) (a : LoadAnswer) : Panels :=
  let state := panels.panel load.panel
  match a with
  | .content body =>
    { panels.set load.panel ⟨present (some body), false, state.error⟩ with
      svidFlow := load.flow.getD panels.svidFlow }
  | .refused message => panels.set load.panel ⟨state.shown, false, some message⟩
  | .threw message =>
    panels.set load.panel
      ⟨if load.panel = .obo then none else state.shown, false, some message⟩

/-- The panels that an answer reloads, `chat.tsx:165–174`; `none` is the error that `flowOf`
throws, with the chain's request made before it. -/
def refresh (panels : Panels) (q : Question) (body : Option Json) :
    (Panels × List Output) × Bool :=
  let (panels, chain) :=
    if q.opened .obo then panels.request ⟨.obo, none⟩ else (panels, [])
  let withTools (panels : Panels) (before : List Output) : Panels × List Output :=
    if q.opened .tools then
      ((panels.request ⟨.tools, none⟩).1, before ++ (panels.request ⟨.tools, none⟩).2)
    else (panels, before)
  if q.opened .svids then
    match flowOf body with
    | none => ((panels, chain), false)
    | some flow =>
      let (panels, svids) := panels.loadSvids body (some flow)
      (withTools panels (chain ++ svids), true)
  else (withTools panels chain, true)

end Panels

/-- The error of `flowOf` for a body that is missing or `null`. -/
def missingBody (body : Option Json) : AgentFailure :=
  .failed "Couldn't reach the copilot. Check your connection and try again."
    ("TypeError: Cannot read properties of " ++ (if body.isSome then "null" else "undefined") ++
      " (reading 'route')")

namespace Tab

/-- Model of `submit` up to the `fetch`, `chat.tsx:128–141`. -/
def submit (tab : Tab) (outgoing : String) (fromStepUp : Bool) : Tab × List Output :=
  if trim outgoing = "" then (tab, [])
  else
    let q : Question := ⟨outgoing, tab.panels.opened⟩
    ({ tab with
        ask := { tab.ask with
          loading := true
          error := none
          response := none
          stepUp := none
          mfaReturn := if fromStepUp then tab.ask.mfaReturn else none
          questions := tab.ask.questions ++ [q] } },
      [.ask q fromStepUp])

/-- Model of the rest of `submit`, `chat.tsx:143–184`. -/
def receive (json : JsonText) (tab : Tab) (q : Question) (a : Answer) : Tab × List Output :=
  match a with
  | .unreachable detail =>
    ({ tab with
        ask := { tab.ask with
          error := some (.failed
            "Couldn't reach the copilot. Check your connection and try again." detail)
          loading := false } }, [])
  | .response status body =>
    if isOk status then
      let ((panels, loads), reached) := tab.panels.refresh q body
      ({ tab with
          ask := { tab.ask with
            response := present body
            asked := some q.text
            error := if reached then tab.ask.error else some (missingBody body)
            loading := false }
          panels := panels }, loads)
    else
      match classifyAgentFailure json status body with
      | .stepUp acrValues scope =>
        ({ tab with ask := { tab.ask with stepUp := some (acrValues, scope), loading := false } },
          [])
      | failure =>
        ({ tab with ask := { tab.ask with error := some failure, loading := false } }, [])

/-- A page that is loaded, with the effect of `chat.tsx:117–126`. -/
def mount (tab : Tab) : Tab × List Output :=
  match takeStepUpReturn tab.storage with
  | (storage, none) => (⟨storage, .initial, .initial⟩, [])
  | (storage, some back) =>
    let ask : Ask := { Ask.initial with message := back.message }
    if back.retry then
      submit ⟨storage, { ask with mfaReturn := some back }, .initial⟩ back.message true
    else (⟨storage, ask, .initial⟩, [])

/-- The button of the step-up card, `chat.tsx:421–441`; there is none without a challenge. -/
def authenticate (tab : Tab) : Tab × List Output :=
  match tab.ask.stepUp with
  | none => (tab, [])
  | some (acrValues, scope) =>
    ({ tab with storage := stashStepUp tab.storage tab.ask.message scope },
      [.signIn acrValues ("openid inspect:read llm:invoke " ++ scope) tab.ask.message])

/-- Ask for what a panel shows. -/
def showPanel (tab : Tab) (panel : Panel) : Tab × List Output :=
  if (tab.panels.panel panel).loading then (tab, [])
  else
    let (panels, outputs) :=
      match panel with
      | .svids => tab.panels.loadSvids tab.ask.response none
      | panel => tab.panels.request ⟨panel, none⟩
    ({ tab with panels := panels }, outputs)

/-- A step of a tab. -/
def step (json : JsonText) (tab : Tab) : PageEvent → Tab × List Output
  | .mount => tab.mount
  | .edit text => ({ tab with ask := { tab.ask with message := text } }, [])
  | .send => if tab.ask.loading then (tab, []) else tab.submit tab.ask.message false
  | .answer i a =>
    match tab.ask.questions[i]? with
    | none => (tab, [])
    | some q =>
      receive json
        { tab with ask := { tab.ask with questions := tab.ask.questions.eraseIdx i } } q a
  | .authenticate => tab.authenticate
  | .showPanel panel => tab.showPanel panel
  | .hidePanel panel =>
    if (tab.panels.panel panel).loading then (tab, [])
    else ({ tab with panels := tab.panels.set panel ⟨none, false, none⟩ }, [])
  | .loaded i a =>
    match tab.panels.loads[i]? with
    | none => (tab, [])
    | some load =>
      ({ tab with
          panels := { tab.panels.receive load a with loads := tab.panels.loads.eraseIdx i } }, [])

/-- A tab that is opened. -/
def machine (json : JsonText) : Machine Tab PageEvent (List Output) where
  init := ⟨.empty, .initial, .initial⟩
  step := step json

end Tab

/-- What became of a question. -/
inductive Verdict where
  | none
  | answer (body : Option Json)
  | stepUp (acrValues scope : String)
  | trouble (failure : AgentFailure)

/-- What becomes of a question with an answer: it is shown, is a challenge, or is some trouble. -/
def verdictOf (json : JsonText) (q : Question) : Answer → Verdict
  | .unreachable detail =>
    .trouble (.failed "Couldn't reach the copilot. Check your connection and try again." detail)
  | .response status body =>
    if isOk status then
      if q.opened .svids ∧ present body = Option.none then .trouble (missingBody body)
      else .answer body
    else
      match classifyAgentFailure json status body with
      | .stepUp acrValues scope => .stepUp acrValues scope
      | failure => .trouble failure

/-- The conversation of a page with the copilot: about one question at a time. -/
inductive Conversation where
  | idle
  | asking (q : Question)
  | answered (q : Question) (a : Answer)

namespace Conversation

/-- The question that waits for an answer. -/
def pending : Conversation → List Question
  | asking q => [q]
  | _ => []

/-- The last question. -/
def question : Conversation → Option Question
  | idle => none
  | asking q => some q
  | answered q _ => some q

/-- What became of the last question. -/
def verdict (json : JsonText) : Conversation → Verdict
  | answered q a => verdictOf json q a
  | _ => .none

/-- What a step of the tab does to the conversation: the page forgets it when it is loaded, a
question replaces the one before it, and an answer is to the question that waits for one. -/
def step (c : Conversation) (e : PageEvent × List Output) : Conversation :=
  match e.2.findSome? Output.question with
  | some q => asking q
  | none =>
    match e.1, c with
    | .mount, _ => idle
    | .answer 0 a, asking q => answered q a
    | _, c => c

end Conversation

/-- The conversation after a run. -/
def conversation (transcript : List (PageEvent × List Output)) : Conversation :=
  transcript.foldl Conversation.step .idle

/-- What the page shows of a conversation: the verdict on its last question and nothing else, under
the text of that question, and that it is waiting as long as there is none. -/
structure Shows (json : JsonText) (ask : Ask) (c : Conversation) : Prop where
  questions : ask.questions = c.pending
  loading : ask.loading = !c.pending.isEmpty
  response : ask.response =
    match c.verdict json with
    | .answer body => present body
    | _ => none
  error : ask.error =
    match c.verdict json with
    | .trouble failure => some failure
    | _ => none
  stepUp : ask.stepUp =
    match c.verdict json with
    | .stepUp acrValues scope => some (acrValues, scope)
    | _ => none
  asked : ask.response ≠ none → ask.asked = c.question.map Question.text

/-- The text for which the page goes to a login. -/
def Output.stashed : Output → Option String
  | signIn _ _ text => some text
  | _ => none

/-- The page asks on its own, on the way back from a login. -/
def Output.retries : Output → Bool
  | ask _ fromStepUp => fromStepUp
  | _ => false

/-- What the user has in mind: the text in the box, and the one that waits for a login. -/
structure Intent where
  box : String
  back : Option String

/-- What a step of the tab does to it: a page that is loaded takes the waiting text into the box. -/
def Intent.step (intent : Intent) (e : PageEvent × List Output) : Intent :=
  match e.1 with
  | .mount => ⟨intent.back.getD defaultPrompt, none⟩
  | .edit text => { intent with box := text }
  | _ => { intent with back := (e.2.findSome? Output.stashed).or intent.back }

/-- What the user has in mind after a run. -/
def intentOf (transcript : List (PageEvent × List Output)) : Intent :=
  transcript.foldl Intent.step ⟨defaultPrompt, none⟩

/-- A question that the page asks on its own. -/
def retries (transcript : List (PageEvent × List Output)) : Nat :=
  transcript.countP fun e ↦ e.2.any Output.retries

/-- The logins that the user has started. -/
def logins (transcript : List (PageEvent × List Output)) : Nat :=
  transcript.countP fun e ↦ (e.2.findSome? Output.stashed).isSome

/-- Questions and logins, as opposed to requests for panels. -/
def Output.talks : Output → Bool
  | load _ => false
  | _ => true

/-- What a page says in an event, by what its user has in mind and the conversation so far. -/
def said (json : JsonText) (intent : Intent) (c : Conversation) (opened : Panel → Bool) :
    PageEvent → List Output
  | .mount =>
    match intent.back with
    | none => []
    | some text => if trim text = "" then [] else [.ask ⟨text, fun _ ↦ false⟩ true]
  | .send =>
    if c.pending.isEmpty ∧ trim intent.box ≠ "" then [.ask ⟨intent.box, opened⟩ false] else []
  | .authenticate =>
    match c.verdict json with
    | .stepUp acrValues scope =>
      [.signIn acrValues ("openid inspect:read llm:invoke " ++ scope) intent.box]
    | _ => []
  | _ => []

section Conversations

variable {json : JsonText} {tab : Tab} {c : Conversation} {q : Question}

/-- Requests for panels only. -/
private def OnlyLoads (os : List Output) : Prop := ∀ o ∈ os, ∃ load, o = .load load

private theorem onlyLoads_nil : OnlyLoads [] := by
  intro o ho
  cases ho

private theorem OnlyLoads.append {os os' : List Output} (h : OnlyLoads os)
    (h' : OnlyLoads os') : OnlyLoads (os ++ os') := by
  intro o ho
  exact (List.mem_append.mp ho).elim (h o) (h' o)

/-- Nothing that a panel is not about is read off its requests. -/
private theorem OnlyLoads.findSome? {β : Type} {f : Output → Option β} {os : List Output}
    (h : OnlyLoads os) (hf : ∀ load, f (.load load) = none) : os.findSome? f = none := by
  apply List.findSome?_eq_none_iff.mpr
  intro o ho
  obtain ⟨load, rfl⟩ := h o ho
  exact hf load

private theorem loads_request (panels : Panels) (load : Load) :
    OnlyLoads (panels.request load).2 := by
  intro o ho
  exact ⟨load, List.mem_singleton.mp ho⟩

private theorem loads_loadSvids (panels : Panels) (response : Option Json)
    (override : Option Flow) : OnlyLoads (panels.loadSvids response override).2 := by
  unfold Panels.loadSvids
  split
  · exact onlyLoads_nil
  · exact loads_request panels _

/-- An answer reloads panels only, and all that it should unless the body is missing. -/
private theorem refresh_spec (panels : Panels) (q : Question) (body : Option Json) :
    OnlyLoads (panels.refresh q body).1.2 ∧
      ((panels.refresh q body).2 = false ↔ q.opened .svids ∧ present body = none) := by
  have hflow : flowOf body = none ↔ present body = none := Option.map_eq_none_iff
  have hobo :
      OnlyLoads (if q.opened .obo then panels.request ⟨.obo, none⟩ else (panels, [])).2 := by
    split
    · exact loads_request panels _
    · exact onlyLoads_nil
  unfold Panels.refresh
  generalize (if q.opened .obo then panels.request ⟨.obo, none⟩ else (panels, [])) = before at hobo
  obtain ⟨panels', chain⟩ := before
  simp only at hobo ⊢
  have htools (panels : Panels) {os : List Output} (h : OnlyLoads os) :
      OnlyLoads (if q.opened .tools then
          ((panels.request ⟨.tools, none⟩).1, os ++ (panels.request ⟨.tools, none⟩).2)
        else (panels, os)).2 := by
    split
    · exact h.append (loads_request panels _)
    · exact h
  by_cases hsvids : q.opened .svids = true
  · rw [if_pos hsvids]
    split
    · next hnone => exact ⟨hobo, by simp [hsvids, hflow.mp hnone]⟩
    · next flow hsome =>
      have hpresent : present body ≠ none := by
        rw [ne_eq, ← hflow, hsome]
        exact Option.some_ne_none flow
      exact ⟨htools _ (hobo.append (loads_loadSvids _ _ _)), by simp [hpresent]⟩
  · rw [if_neg hsvids]
    exact ⟨htools _ hobo, by simp [hsvids]⟩

private theorem loads_receive {a : Answer} (tab : Tab) :
    OnlyLoads (Tab.receive json tab q a).2 := by
  cases a with
  | unreachable detail => exact onlyLoads_nil
  | response status body =>
    by_cases hok : isOk status = true
    · simp only [Tab.receive, if_pos hok]
      exact (refresh_spec tab.panels q body).1
    · simp only [Tab.receive, if_neg hok]
      split
      · exact onlyLoads_nil
      · exact onlyLoads_nil

private theorem loads_showPanel (panel : Panel) : OnlyLoads (tab.showPanel panel).2 := by
  unfold Tab.showPanel
  split
  · exact onlyLoads_nil
  · cases panel with
    | svids => exact loads_loadSvids _ _ _
    | obo => exact loads_request tab.panels _
    | tools => exact loads_request tab.panels _

/-- A step that asks nothing, loads no page and answers nothing leaves the conversation. -/
private theorem step_of_quiet {e : PageEvent} {os : List Output}
    (h : os.findSome? Output.question = none) (hmount : e ≠ .mount)
    (hanswer : ∀ i a, e ≠ .answer i a) : c.step (e, os) = c := by
  unfold Conversation.step
  rw [h]
  cases e with
  | mount => exact absurd rfl hmount
  | answer i a => exact absurd rfl (hanswer i a)
  | _ => rfl

private theorem step_of_answer {a : Answer} {os : List Output}
    (h : os.findSome? Output.question = none) :
    (Conversation.asking q).step (.answer 0 a, os) = .answered q a := by
  unfold Conversation.step
  rw [h]
  rfl

private theorem shows_submit {outgoing : String} {fromStepUp : Bool} {e : PageEvent}
    (hidle : tab.ask.questions = []) (hne : trim outgoing ≠ "") :
    Shows json (tab.submit outgoing fromStepUp).1.ask
      (c.step (e, (tab.submit outgoing fromStepUp).2)) := by
  unfold Tab.submit
  rw [if_neg hne]
  show Shows json _ (.asking ⟨outgoing, tab.panels.opened⟩)
  constructor
  · simp only [hidle]
    rfl
  · rfl
  · rfl
  · rfl
  · rfl
  · intro h
    exact absurd rfl h

private theorem shows_receive {a : Answer} (h : Shows json tab.ask (.asking q)) :
    Shows json (Tab.receive json
        { tab with ask := { tab.ask with questions := tab.ask.questions.eraseIdx 0 } } q a).1.ask
      (.answered q a) := by
  have hquestions : tab.ask.questions.eraseIdx 0 = [] := by
    rw [h.questions]
    rfl
  have herror : tab.ask.error = none := h.error
  have hresponse : tab.ask.response = none := h.response
  have hstepUp : tab.ask.stepUp = none := h.stepUp
  cases a with
  | unreachable detail =>
    exact ⟨hquestions, rfl, hresponse, rfl, hstepUp, fun hne ↦ absurd hresponse hne⟩
  | response status body =>
    obtain ⟨-, hreached⟩ := refresh_spec tab.panels q body
    by_cases hok : isOk status = true
    · by_cases hmissing : q.opened .svids ∧ present body = none
      · have hverdict : verdictOf json q (.response status body) = .trouble (missingBody body) := by
          rw [verdictOf, if_pos hok, if_pos hmissing]
        simp only [Tab.receive, if_pos hok, hreached.mpr hmissing]
        refine ⟨hquestions, rfl, ?_, ?_, ?_, fun _ ↦ rfl⟩
        · simp only [Conversation.verdict, hverdict, hmissing.2]
        · simp only [Conversation.verdict, hverdict]
          rfl
        · simp only [Conversation.verdict, hverdict, hstepUp]
      · have hverdict : verdictOf json q (.response status body) = .answer body := by
          rw [verdictOf, if_pos hok, if_neg hmissing]
        have htrue : (tab.panels.refresh q body).2 = true := by
          rw [← Bool.not_eq_false, hreached]
          exact hmissing
        simp only [Tab.receive, if_pos hok, htrue, if_true]
        refine ⟨hquestions, rfl, ?_, ?_, ?_, fun _ ↦ rfl⟩
        · simp only [Conversation.verdict, hverdict]
        · simp only [Conversation.verdict, hverdict, herror]
        · simp only [Conversation.verdict, hverdict, hstepUp]
    · simp only [Tab.receive, if_neg hok]
      cases hclass : classifyAgentFailure json status body with
      | stepUp acrValues scope =>
        have hverdict : verdictOf json q (.response status body) = .stepUp acrValues scope := by
          rw [verdictOf, if_neg hok, hclass]
        refine ⟨hquestions, rfl, ?_, ?_, ?_, fun hne ↦ absurd hresponse hne⟩
        · simp only [Conversation.verdict, hverdict, hresponse]
        · simp only [Conversation.verdict, hverdict, herror]
        · simp only [Conversation.verdict, hverdict]
      | denied reason =>
        have hverdict : verdictOf json q (.response status body) = .trouble (.denied reason) := by
          rw [verdictOf, if_neg hok, hclass]
        refine ⟨hquestions, rfl, ?_, ?_, ?_, fun hne ↦ absurd hresponse hne⟩
        · simp only [Conversation.verdict, hverdict, hresponse]
        · simp only [Conversation.verdict, hverdict]
        · simp only [Conversation.verdict, hverdict, hstepUp]
      | failed message detail =>
        have hverdict : verdictOf json q (.response status body) =
            .trouble (.failed message detail) := by
          rw [verdictOf, if_neg hok, hclass]
        refine ⟨hquestions, rfl, ?_, ?_, ?_, fun hne ↦ absurd hresponse hne⟩
        · simp only [Conversation.verdict, hverdict, hresponse]
        · simp only [Conversation.verdict, hverdict]
        · simp only [Conversation.verdict, hverdict, hstepUp]

/-- An answer to a question that is not there is no answer. -/
private theorem shows_stale {i : Nat} {a : Answer} (h : Shows json tab.ask c)
    (hnone : c.pending[i]? = none) :
    Shows json (Tab.step json tab (.answer i a)).1.ask
      (c.step (.answer i a, (Tab.step json tab (.answer i a)).2)) := by
  have hstep : Tab.step json tab (.answer i a) = (tab, []) := by
    simp only [Tab.step, h.questions, hnone]
  rw [hstep]
  cases c with
  | idle => cases i <;> exact h
  | answered q' a' => cases i <;> exact h
  | asking q =>
    cases i with
    | zero => cases hnone
    | succ i => exact h

private theorem shows_mount : Shows json (tab.mount).1.ask (c.step (.mount, (tab.mount).2)) := by
  unfold Tab.mount
  split
  · exact ⟨rfl, rfl, rfl, rfl, rfl, fun hne ↦ absurd rfl hne⟩
  · next storage back _ =>
    simp only
    split
    · by_cases hblank : trim back.message = ""
      · unfold Tab.submit
        rw [if_pos hblank]
        exact ⟨rfl, rfl, rfl, rfl, rfl, fun hne ↦ absurd rfl hne⟩
      · exact shows_submit rfl hblank
    · exact ⟨rfl, rfl, rfl, rfl, rfl, fun hne ↦ absurd rfl hne⟩

/-- One step keeps what the page shows in line with the conversation. -/
private theorem shows_step (e : PageEvent) (h : Shows json tab.ask c) :
    Shows json (Tab.step json tab e).1.ask (c.step (e, (Tab.step json tab e).2)) := by
  cases e with
  | mount => exact shows_mount
  | edit text =>
    exact ⟨h.questions, h.loading, h.response, h.error, h.stepUp, h.asked⟩
  | send =>
    show Shows json (if tab.ask.loading then (tab, []) else tab.submit tab.ask.message false).1.ask
      (c.step (.send, (if tab.ask.loading then (tab, []) else
        tab.submit tab.ask.message false).2))
    by_cases hloading : tab.ask.loading = true
    · rw [if_pos hloading]
      exact h
    · rw [if_neg hloading]
      by_cases hblank : trim tab.ask.message = ""
      · unfold Tab.submit
        rw [if_pos hblank]
        exact h
      · apply shows_submit
        · rw [h.questions]
          rw [h.loading] at hloading
          simpa using hloading
        · exact hblank
  | answer i a =>
    cases hpending : c.pending[i]? with
    | none => exact shows_stale h hpending
    | some q =>
      cases c with
      | idle => cases hpending
      | answered q' a' => cases hpending
      | asking q' =>
        -- The page waits for one answer, so this is the answer to its question.
        have hi : i = 0 := by
          have hlt := (List.getElem?_eq_some_iff.mp hpending).1
          simpa [Conversation.pending] using hlt
        subst hi
        have hstep : Tab.step json tab (.answer 0 a) = Tab.receive json
            { tab with ask := { tab.ask with questions := tab.ask.questions.eraseIdx 0 } }
            q' a := by
          simp only [Tab.step, h.questions]
          rfl
        rw [hstep, step_of_answer ((loads_receive _).findSome? fun _ ↦ rfl)]
        exact shows_receive h
  | authenticate =>
    show Shows json (tab.authenticate).1.ask (c.step (.authenticate, (tab.authenticate).2))
    unfold Tab.authenticate
    split
    · exact h
    · exact h
  | showPanel panel =>
    have hask : (tab.showPanel panel).1.ask = tab.ask := by
      unfold Tab.showPanel
      split
      · rfl
      · rfl
    show Shows json (tab.showPanel panel).1.ask
      (c.step (.showPanel panel, (tab.showPanel panel).2))
    rw [step_of_quiet ((loads_showPanel panel).findSome? fun _ ↦ rfl) (by simp) (by simp), hask]
    exact h
  | hidePanel panel =>
    by_cases hloading : (tab.panels.panel panel).loading = true
    · simp only [Tab.step, if_pos hloading]
      exact h
    · simp only [Tab.step, if_neg hloading]
      exact h
  | loaded i a =>
    cases hload : tab.panels.loads[i]? with
    | none =>
      simp only [Tab.step, hload]
      exact h
    | some load =>
      simp only [Tab.step, hload]
      exact h

private theorem shows_run (json : JsonText) (es : List PageEvent) :
    Shows json ((Tab.machine json).run es).ask
      (conversation ((Tab.machine json).transcript es)) := by
  induction es using List.reverseRecOn with
  | nil => exact ⟨rfl, rfl, rfl, rfl, rfl, fun hne ↦ absurd rfl hne⟩
  | append_singleton es e ih =>
    rw [Machine.run_concat, Machine.transcript_concat, conversation, List.foldl_append]
    exact shows_step e ih

/-- In every run the page shows the verdict on its last question, and asks no other question while
it waits. -/
theorem page_shows_conversation (json : JsonText) (es : List PageEvent) :
    Shows json ((Tab.machine json).run es).ask
      (conversation ((Tab.machine json).transcript es)) :=
  shows_run json es

/-- The tab holds what the user has in mind, and asks again on the way back from any login. -/
private structure Keeps (tab : Tab) (intent : Intent) : Prop where
  box : tab.ask.message = intent.box
  back : tab.storage.message = intent.back
  retry : intent.back ≠ none → tab.storage.retry.isSome

private theorem message_submit {outgoing : String} {fromStepUp : Bool} :
    (tab.submit outgoing fromStepUp).1.ask.message = tab.ask.message ∧
      (tab.submit outgoing fromStepUp).1.storage = tab.storage := by
  unfold Tab.submit
  split
  · exact ⟨rfl, rfl⟩
  · exact ⟨rfl, rfl⟩

private theorem message_receive {a : Answer} (tab : Tab) :
    (Tab.receive json tab q a).1.ask.message = tab.ask.message ∧
      (Tab.receive json tab q a).1.storage = tab.storage := by
  cases a with
  | unreachable detail => exact ⟨rfl, rfl⟩
  | response status body =>
    by_cases hok : isOk status = true
    · simp only [Tab.receive, if_pos hok, and_self]
    · simp only [Tab.receive, if_neg hok]
      split
      · exact ⟨rfl, rfl⟩
      · exact ⟨rfl, rfl⟩

private theorem stashed_submit {outgoing : String} {fromStepUp : Bool} :
    (tab.submit outgoing fromStepUp).2.findSome? Output.stashed = none := by
  unfold Tab.submit
  split
  · rfl
  · rfl

private theorem keeps_of_frame {tab' : Tab} {intent : Intent} {e : PageEvent} {os : List Output}
    (h : Keeps tab intent)
    (hframe : tab'.ask.message = tab.ask.message ∧ tab'.storage = tab.storage)
    (hos : os.findSome? Output.stashed = none) (hmount : e ≠ .mount) (hedit : ∀ t, e ≠ .edit t) :
    Keeps tab' (intent.step (e, os)) := by
  have hintent : intent.step (e, os) = intent := by
    unfold Intent.step
    rw [hos]
    cases e with
    | mount => exact absurd rfl hmount
    | edit text => exact absurd rfl (hedit text)
    | _ => rfl
  rw [hintent]
  constructor
  · rw [hframe.1]
    exact h.box
  · rw [hframe.2]
    exact h.back
  · rw [hframe.2]
    exact h.retry

/-- What the page does when it is loaded. -/
private theorem mount_spec {intent : Intent} (h : Keeps tab intent) :
    Keeps (tab.mount).1 (intent.step (.mount, (tab.mount).2)) ∧
      (tab.mount).2 =
        match intent.back with
        | none => []
        | some text =>
          if trim text = "" then [] else [.ask ⟨text, fun _ ↦ false⟩ true] := by
  unfold Tab.mount takeStepUpReturn
  cases hback : intent.back with
  | none =>
    rw [h.back, hback]
    have hintent (os : List Output) : intent.step (.mount, os) = ⟨defaultPrompt, none⟩ := by
      rw [Intent.step, hback]
      rfl
    rw [hintent]
    exact ⟨⟨rfl, by rw [h.back, hback], fun hne ↦ absurd rfl hne⟩, rfl⟩
  | some text =>
    have hretry : tab.storage.retry.isSome = true := h.retry (by simp [hback])
    have hintent (os : List Output) : intent.step (.mount, os) = ⟨text, none⟩ := by
      rw [Intent.step, hback]
      rfl
    rw [h.back, hback, hintent]
    simp only [hretry, if_true]
    constructor
    · constructor
      · exact message_submit.1
      · rw [message_submit.2]
        rfl
      · intro hne
        exact absurd rfl hne
    · unfold Tab.submit
      split
      · rfl
      · rfl

private theorem step_send : Tab.step json tab .send =
    if tab.ask.loading then (tab, []) else tab.submit tab.ask.message false := rfl

/-- Only a load of the page, a question and the button of a step-up do more than to load panels. -/
private theorem step_other {e : PageEvent} (hmount : e ≠ .mount) (hedit : ∀ t, e ≠ .edit t)
    (hsend : e ≠ .send) (hauthenticate : e ≠ .authenticate) :
    OnlyLoads (Tab.step json tab e).2 ∧
      (Tab.step json tab e).1.ask.message = tab.ask.message ∧
      (Tab.step json tab e).1.storage = tab.storage := by
  cases e with
  | mount => exact absurd rfl hmount
  | edit text => exact absurd rfl (hedit text)
  | send => exact absurd rfl hsend
  | authenticate => exact absurd rfl hauthenticate
  | answer i a =>
    cases hquestion : tab.ask.questions[i]? with
    | none =>
      simp only [Tab.step, hquestion]
      exact ⟨onlyLoads_nil, by simp⟩
    | some q =>
      have hstep : Tab.step json tab (.answer i a) = Tab.receive json
          { tab with ask := { tab.ask with questions := tab.ask.questions.eraseIdx i } } q a := by
        simp only [Tab.step, hquestion]
      rw [hstep]
      exact ⟨loads_receive _, message_receive _⟩
  | showPanel panel =>
    refine ⟨loads_showPanel panel, ?_⟩
    show (tab.showPanel panel).1.ask.message = _ ∧ (tab.showPanel panel).1.storage = _
    unfold Tab.showPanel
    split
    · exact ⟨rfl, rfl⟩
    · exact ⟨rfl, rfl⟩
  | hidePanel panel =>
    by_cases hloading : (tab.panels.panel panel).loading = true
    · simp only [Tab.step, if_pos hloading]
      exact ⟨onlyLoads_nil, by simp⟩
    · simp only [Tab.step, if_neg hloading]
      exact ⟨onlyLoads_nil, by simp⟩
  | loaded i a =>
    cases hload : tab.panels.loads[i]? with
    | none =>
      simp only [Tab.step, hload]
      exact ⟨onlyLoads_nil, by simp⟩
    | some load =>
      simp only [Tab.step, hload]
      exact ⟨onlyLoads_nil, by simp⟩

private theorem keeps_step {intent : Intent} (e : PageEvent) (h : Keeps tab intent) :
    Keeps (Tab.step json tab e).1 (intent.step (e, (Tab.step json tab e).2)) := by
  by_cases hmount : e = .mount
  · subst hmount
    exact (mount_spec h).1
  by_cases hsend : e = .send
  · subst hsend
    rw [step_send]
    split
    · exact keeps_of_frame h ⟨rfl, rfl⟩ rfl (by simp) (by simp)
    · exact keeps_of_frame h message_submit stashed_submit (by simp) (by simp)
  by_cases hauthenticate : e = .authenticate
  · subst hauthenticate
    show Keeps (tab.authenticate).1 (intent.step (.authenticate, (tab.authenticate).2))
    unfold Tab.authenticate
    split
    · exact keeps_of_frame h ⟨rfl, rfl⟩ rfl (by simp) (by simp)
    · exact ⟨h.box, rfl, fun _ ↦ rfl⟩
  by_cases hedit : ∃ text, e = .edit text
  · obtain ⟨text, rfl⟩ := hedit
    exact ⟨rfl, h.back, h.retry⟩
  · have hedit' : ∀ t, e ≠ .edit t := fun t ht ↦ hedit ⟨t, ht⟩
    obtain ⟨hloads, hframe⟩ := @step_other json tab e hmount hedit' hsend hauthenticate
    exact keeps_of_frame h hframe (hloads.findSome? fun _ ↦ rfl) hmount hedit'

/-- What the page shows and holds is what the transcript says. -/
private theorem keeps_run (json : JsonText) (es : List PageEvent) :
    Keeps ((Tab.machine json).run es) (intentOf ((Tab.machine json).transcript es)) := by
  induction es using List.reverseRecOn with
  | nil => exact ⟨rfl, rfl, fun hne ↦ absurd rfl hne⟩
  | append_singleton es e ih =>
    rw [Machine.run_concat, Machine.transcript_concat, intentOf, List.foldl_append]
    exact keeps_step e ih

private theorem OnlyLoads.filter {os : List Output} (h : OnlyLoads os) :
    os.filter Output.talks = [] := by
  rw [List.filter_eq_nil_iff]
  intro o ho
  obtain ⟨load, rfl⟩ := h o ho
  exact Bool.false_ne_true

/-- One step says what the conversation and the user's mind make it say. -/
private theorem says_step {intent : Intent} (e : PageEvent) (hkeeps : Keeps tab intent)
    (hshows : Shows json tab.ask c) :
    (Tab.step json tab e).2.filter Output.talks = said json intent c tab.panels.opened e := by
  by_cases hmount : e = .mount
  · subst hmount
    show (tab.mount).2.filter Output.talks = _
    rw [(mount_spec hkeeps).2, said]
    split
    · rfl
    · split
      · rfl
      · rfl
  by_cases hsend : e = .send
  · subst hsend
    have hloading : tab.ask.loading = !c.pending.isEmpty := hshows.loading
    rw [step_send, said, ← hkeeps.box, hloading]
    by_cases hidle : c.pending.isEmpty = true
    · unfold Tab.submit
      by_cases hblank : trim tab.ask.message = ""
      · simp [hidle, hblank]
      · simp [hidle, hblank, Output.talks]
    · simp [hidle]
  by_cases hauthenticate : e = .authenticate
  · subst hauthenticate
    have hstepUp := hshows.stepUp
    show (tab.authenticate).2.filter Output.talks = _
    rw [Tab.authenticate, said, hstepUp, ← hkeeps.box]
    cases c.verdict json with
    | stepUp acrValues scope => rfl
    | none => rfl
    | answer body => rfl
    | trouble failure => rfl
  by_cases hedit : ∃ text, e = .edit text
  · obtain ⟨text, rfl⟩ := hedit
    rfl
  · have hedit' : ∀ t, e ≠ .edit t := fun t ht ↦ hedit ⟨t, ht⟩
    have hnone : said json intent c tab.panels.opened e = [] := by
      cases e with
      | mount => exact absurd rfl hmount
      | send => exact absurd rfl hsend
      | authenticate => exact absurd rfl hauthenticate
      | _ => rfl
    rw [(step_other hmount hedit' hsend hauthenticate).1.filter, hnone]

/-- The page asks on its own only when it is loaded. -/
private theorem no_retry {e : PageEvent} (hmount : e ≠ .mount) :
    (Tab.step json tab e).2.any Output.retries = false := by
  by_cases hsend : e = .send
  · subst hsend
    rw [step_send]
    split
    · rfl
    · unfold Tab.submit
      split
      · rfl
      · rfl
  by_cases hauthenticate : e = .authenticate
  · subst hauthenticate
    show (tab.authenticate).2.any Output.retries = false
    unfold Tab.authenticate
    split
    · rfl
    · rfl
  by_cases hedit : ∃ text, e = .edit text
  · obtain ⟨text, rfl⟩ := hedit
    rfl
  · have hloads :=
      (@step_other json tab e hmount (fun t ht ↦ hedit ⟨t, ht⟩) hsend hauthenticate).1
    rw [List.any_eq_false]
    intro o ho
    obtain ⟨load, rfl⟩ := hloads o ho
    exact Bool.false_ne_true

/-- Every question that the page asks on its own uses up a login. -/
private theorem retries_step {intent : Intent} (e : PageEvent) (h : Keeps tab intent) :
    ((Tab.step json tab e).2.any Output.retries).toNat +
        (intent.step (e, (Tab.step json tab e).2)).back.isSome.toNat ≤
      ((Tab.step json tab e).2.findSome? Output.stashed).isSome.toNat +
        intent.back.isSome.toNat := by
  by_cases hmount : e = .mount
  · subst hmount
    have hback : (intent.step (.mount, (Tab.step json tab .mount).2)).back = none := rfl
    have hos : (Tab.step json tab .mount).2 = (tab.mount).2 := rfl
    rw [hback, hos, (mount_spec h).2]
    cases intent.back with
    | none => simp
    | some text =>
      show (List.any (if trim text = "" then [] else [.ask ⟨text, fun _ ↦ false⟩ true])
        Output.retries).toNat + 0 ≤ _ + 1
      have hle := Bool.toNat_le (List.any (if trim text = "" then []
        else [.ask ⟨text, fun _ ↦ false⟩ true]) Output.retries)
      omega
  · rw [no_retry hmount, Bool.toNat_false, Nat.zero_add]
    unfold Intent.step
    split
    · next heq => exact absurd heq hmount
    · exact Nat.le_add_left _ _
    · cases (Tab.step json tab e).2.findSome? Output.stashed with
      | none => simp
      | some text => simp

private theorem box_of_said {intent : Intent} {opened : Panel → Bool} {e : PageEvent}
    {fromStepUp : Bool} (os : List Output)
    (h : .ask q fromStepUp ∈ said json intent c opened e) :
    (intent.step (e, os)).box = q.text := by
  cases e with
  | mount =>
    show intent.back.getD defaultPrompt = q.text
    rw [said] at h
    cases hback : intent.back with
    | none => simp [hback] at h
    | some text =>
      by_cases hblank : trim text = ""
      · simp [hback, hblank] at h
      · simp only [hback, if_neg hblank, List.mem_singleton, Output.ask.injEq] at h
        rw [h.1]
        rfl
  | send =>
    rw [said] at h
    split at h
    · simp only [List.mem_singleton, Output.ask.injEq] at h
      rw [h.1]
      rfl
    · cases h
  | authenticate =>
    rw [said] at h
    split at h
    · simp at h
    · cases h
  | _ => cases h

/-- As long as nobody edits it, the box holds the question that was asked last. -/
private theorem box_of_asked {before after : List PageEvent} {e : PageEvent} {fromStepUp : Bool}
    (hasked : .ask q fromStepUp ∈ (Tab.machine json).answer before e)
    (hafter : ∀ e ∈ after, e ≠ .mount ∧ ∀ t, e ≠ .edit t) :
    (intentOf ((Tab.machine json).transcript (before ++ [e] ++ after))).box = q.text := by
  induction after using List.reverseRecOn with
  | nil =>
    have hsaid : .ask q fromStepUp ∈ said json
        (intentOf ((Tab.machine json).transcript before))
        (conversation ((Tab.machine json).transcript before))
        ((Tab.machine json).run before).panels.opened e := by
      rw [← says_step e (keeps_run json before) (shows_run json before)]
      exact List.mem_filter.mpr ⟨hasked, rfl⟩
    rw [List.append_nil, Machine.transcript_concat, intentOf, List.foldl_append]
    exact box_of_said _ hsaid
  | append_singleton after e' ih =>
    rw [← List.append_assoc, Machine.transcript_concat, intentOf, List.foldl_append]
    have hbefore := ih fun d hd ↦ hafter d (List.mem_append_left _ hd)
    obtain ⟨hmount, hedit⟩ := hafter e' (by simp)
    rw [← hbefore]
    cases e' with
    | mount => exact absurd rfl hmount
    | edit text => exact absurd rfl (hedit text)
    | _ => rfl

private theorem retries_run (json : JsonText) (es : List PageEvent) :
    retries ((Tab.machine json).transcript es) +
        (intentOf ((Tab.machine json).transcript es)).back.isSome.toNat ≤
      logins ((Tab.machine json).transcript es) := by
  induction es using List.reverseRecOn with
  | nil => exact Nat.zero_le _
  | append_singleton es e ih =>
    have hstep := @retries_step json _ _ e (keeps_run json es)
    rw [Machine.transcript_concat, retries, logins, intentOf, List.countP_append,
      List.countP_append, List.foldl_append, List.countP_singleton, List.countP_singleton,
      ← Bool.cond_eq_ite, ← Bool.cond_eq_ite]
    calc _ + ((Tab.step json ((Tab.machine json).run es) e).2.any Output.retries).toNat + _
        ≤ retries ((Tab.machine json).transcript es) +
            (((Tab.step json ((Tab.machine json).run es) e).2.findSome?
              Output.stashed).isSome.toNat +
            (intentOf ((Tab.machine json).transcript es)).back.isSome.toNat) := by
          rw [Nat.add_assoc]
          exact Nat.add_le_add_left hstep _
      _ ≤ _ := by
          rw [Nat.add_left_comm, Nat.add_comm]
          exact Nat.add_le_add_right ih _

/-- A page talks as its user and the conversation make it talk: it asks what is in the box, goes to
a login for a challenge only, with the text in the box, and asks that text once, on the way back. -/
theorem step_up_handshake (json : JsonText) (es : List PageEvent) :
    (∀ e, ((Tab.machine json).answer es e).filter Output.talks =
      said json (intentOf ((Tab.machine json).transcript es))
        (conversation ((Tab.machine json).transcript es))
        ((Tab.machine json).run es).panels.opened e) ∧
    retries ((Tab.machine json).transcript es) ≤ logins ((Tab.machine json).transcript es) ∧
    ∀ before e q fromStepUp after, es = before ++ [e] ++ after →
      .ask q fromStepUp ∈ (Tab.machine json).answer before e →
      (∀ e' ∈ after, e' ≠ .mount ∧ ∀ t, e' ≠ .edit t) →
      (intentOf ((Tab.machine json).transcript es)).box = q.text := by
  refine ⟨?_, ?_, ?_⟩
  · intro e
    exact says_step e (keeps_run json es) (shows_run json es)
  · have hle := retries_run json es
    omega
  · rintro before e q fromStepUp after rfl hasked hafter
    exact box_of_asked hasked hafter

end Conversations

end AgentsAuth.Web
