import AgentsAuth.EndToEnd.PrivilegedChat

/-!
# Why a privileged request is answered as it is

The invariant of the privileged requests, over every interleaving in which Curity and the
specialist answer: a request is answered with a refusal of its own exchange, or with what
the specialist makes of a token that was issued to a request under the same cache key.
-/

namespace AgentsAuth.EndToEnd

open AgentsAuth.A2a AgentsAuth.Agents AgentsAuth.AuthCurity AgentsAuth.Base AgentsAuth.Copilot
open AgentsAuth.Curity AgentsAuth.Lib AgentsAuth.Runtime

/-- A request presents the access token `t` of a login, and Curity and `jose` recognise it. -/
structure LoginOf (sys : System) (r : ChatRequest) (t : TokenData) : Prop where
  login : ∃ ctx, t = authorizationCodeToken ctx
  bearer : r.authed.bearerToken = sys.endpoint.jose.compact t
  authorized : ∃ authorization,
    authMiddleware sys.endpoint.jose sys.copilot authorization = some r.authed
  recognised : sys.endpoint.Recognises t

/-- Everything that an exchange waits for is there. -/
structure Ready (p : Preparation) : Prop where
  svid : ∃ svid, p.svid = some svid
  identity : ∃ kid, p.identity = .ok kid
  authorizationServer : ∃ endpoint, p.authorizationServer = .ok endpoint

/-- A reply carries what the specialist has published, and its text loses nothing. -/
def Carried (json : JsonText) (published : Specialist.Published) (reply : SendMessageResult) :
    Prop :=
  match published with
  | .working => True
  | .status _ => True
  | .final payload _ =>
    replyMessage reply = some ⟨.agent, [.text (json.stringifyIndented payload)]⟩ ∧
      json.Lossless payload

/-- The specialist verifies the token, discovers the ops scope and is answered by Curity. -/
structure Serves (sys : System) (token : String) (deps : Specialist.RemediationDeps) : Prop where
  bearer : token ≠ ""
  verified : ∃ verified, verifyJwt sys.endpoint.jose token
    ⟨sys.specialist.curityIssuer, sys.specialist.expectedAudience,
      some sys.specialist.curityJwksUri, none, none⟩ = .ok verified
  discovered : ∃ d, deps.discoverOps = .ok d ∧ d.scope = "ops:write"
  prepared : Ready deps.prepareOps
  exchanged : ∀ sub tokenEndpoint params,
    (Specialist.obtainOpsToken sys.specialist token sub tokenEndpoint "ops:write"
      none).exchangeParams deps.prepareOps = .ok params →
    sys.endpoint.Answers spiffeSpecialist params (deps.exchangeOps params)

/-- The specialist serves the call of a request, and its reply arrives. -/
structure Served (sys : System) (r : ChatRequest) (token : String)
    (deps : Specialist.RemediationDeps) (reply : SendMessageResult) : Prop
    extends Serves sys token deps where
  carried : Carried sys.json (sys.execute r token deps).published reply

/-- An event in which nothing of the infrastructure fails. -/
def Fair (sys : System) (s : ChatState) (e : Nat × ChatEvent) : Prop :=
  match e.2 with
  | .chat r _ => ∃ t, LoginOf sys r t
  | .obtain (.start _ _) | .obtain (.invalidated _) => True
  | .obtain (.prepared p) => Ready p
  | .obtain (.exchanged answer _) => ∀ req params, s.helpers.phase e.1 = .exchanging req params →
    sys.endpoint.Answers spiffeCopilot params answer
  | .replied deps reply => ∀ r token, s.phase e.1 = .calling r token →
    ∃ result, reply = .ok result ∧ Served sys r token deps result

/-- Curity has issued the token for the exchange of a request. -/
def IssuedFor (sys : System) (r : ChatRequest) (token : String) : Prop :=
  ∃ params result, ParamsOf (sys.helpers.callOf (specialistRequest r)) params ∧
    sys.endpoint.Answers spiffeCopilot params (.ok result) ∧ result.accessToken = token

/-- A request holds a token that was issued to itself or under its cache key. -/
def Entitled (sys : System) (es : List (Nat × ChatEvent)) (r : ChatRequest) (token : String) :
    Prop :=
  ∃ r' ∈ chats es, keyOf (sys.key r') = keyOf (sys.key r) ∧ IssuedFor sys r' token

/-- A reply has arrived, and this is what the specialist met on its way to it. -/
def RepliedIn (es : List (Nat × ChatEvent)) (deps : Specialist.RemediationDeps)
    (reply : SendMessageResult) : Prop :=
  ∃ c, (c, .replied deps (.ok reply)) ∈ es

/-- How a request comes to its answer. -/
inductive Cause (sys : System) (es : List (Nat × ChatEvent)) (r : ChatRequest) :
    ChatAnswer → Prop
  | refused {params : ExchangeTokenParams} {e : Thrown}
    (hparams : ParamsOf (sys.helpers.callOf (specialistRequest r)) params)
    (hanswer : sys.endpoint.Answers spiffeCopilot params (.error e)) :
    Cause sys es r (chatFailure e)
  | replied {token : String} {deps : Specialist.RemediationDeps} {reply : SendMessageResult}
    (hentitled : Entitled sys es r token) (hserved : Served sys r token deps reply)
    (hreplied : RepliedIn es deps reply) :
    Cause sys es r (chatAnswer r (callSpecialist sys.json reply))

/-- A cached token was issued to a request under the key of the entry. -/
def CachedFor (sys : System) (es : List (Nat × ChatEvent)) (h : Copilot.Helper) (k : String)
    (entry : CacheEntry) : Prop :=
  h = .specialist → ∃ r ∈ chats es, keyOf (sys.key r) = k ∧ IssuedFor sys r entry.accessToken

/-- What a request has established where it stands, and where its helper call stands then. -/
def PhaseSound (sys : System) (es : List (Nat × ChatEvent)) (helper : Phase CopilotRequest) :
    ChatPhase → Prop
  | .idle => helper = .notStarted
  | .obtaining r => r ∈ chats es ∧ (helper = .preparing (specialistRequest r) ∨
    ∃ params, helper = .exchanging (specialistRequest r) params ∧
      ParamsOf (sys.helpers.callOf (specialistRequest r)) params)
  | .calling r token => r ∈ chats es ∧ Entitled sys es r token
  | .answered => True

/-- What an observation says about the run. -/
def ObservationSound (sys : System) (es : List (Nat × ChatEvent)) : ChatObservation → Prop
  | .called r token => r ∈ chats es ∧ Entitled sys es r token
  | .ranLlm r => r ∈ chats es ∧ ∃ token deps reply, Entitled sys es r token ∧
    Served sys r token deps reply ∧ RepliedIn es deps reply ∧
    (sys.execute r token deps).ranLlm = true
  | .answered r answer => r ∈ chats es ∧ Cause sys es r answer

/-- The invariant of the requests, relative to their history. -/
structure Sound (sys : System) (es : List (Nat × ChatEvent)) (s : ChatState) : Prop where
  cache : ∀ h, InsertionMap.Forall (CachedFor sys es h) (s.helpers.cache h)
  phase : ∀ c, PhaseSound sys es (s.helpers.phase c) (s.phase c)
  shown : ∀ o ∈ shown sys es, ObservationSound sys es o

variable {sys : System} {es : List (Nat × ChatEvent)} {e : Nat × ChatEvent}

section History

private theorem Entitled.concat {r : ChatRequest} {token : String}
    (h : Entitled sys es r token) : Entitled sys (es ++ [e]) r token := by
  obtain ⟨r', hr', hrest⟩ := h
  exact ⟨r', chats_concat hr', hrest⟩

private theorem RepliedIn.concat {deps : Specialist.RemediationDeps} {reply : SendMessageResult}
    (h : RepliedIn es deps reply) : RepliedIn (es ++ [e]) deps reply := by
  obtain ⟨c, hc⟩ := h
  exact ⟨c, List.mem_append_left _ hc⟩

private theorem Cause.concat {r : ChatRequest} {answer : ChatAnswer}
    (h : Cause sys es r answer) : Cause sys (es ++ [e]) r answer := by
  cases h with
  | refused hparams hanswer => exact .refused hparams hanswer
  | replied hentitled hserved hreplied =>
    exact .replied hentitled.concat hserved hreplied.concat

private theorem CachedFor.concat {h : Copilot.Helper} {k : String} {entry : CacheEntry}
    (hc : CachedFor sys es h k entry) : CachedFor sys (es ++ [e]) h k entry := by
  intro hh
  obtain ⟨r, hr, hrest⟩ := hc hh
  exact ⟨r, chats_concat hr, hrest⟩

private theorem PhaseSound.concat {helper : Phase CopilotRequest} {p : ChatPhase}
    (h : PhaseSound sys es helper p) : PhaseSound sys (es ++ [e]) helper p := by
  cases p with
  | idle => exact h
  | obtaining r => exact ⟨chats_concat h.1, h.2⟩
  | calling r token => exact ⟨chats_concat h.1, h.2.concat⟩
  | answered => trivial

private theorem ObservationSound.concat {o : ChatObservation} (h : ObservationSound sys es o) :
    ObservationSound sys (es ++ [e]) o := by
  cases o with
  | called r token => exact ⟨chats_concat h.1, h.2.concat⟩
  | ranLlm r =>
    obtain ⟨hr, token, deps, reply, hentitled, hserved, hreplied, hran⟩ := h
    exact ⟨chats_concat hr, token, deps, reply, hentitled.concat, hserved, hreplied.concat, hran⟩
  | answered r answer => exact ⟨chats_concat h.1, h.2.concat⟩

end History

section Obtaining

variable {helper : Phase CopilotRequest} {r : ChatRequest} {req : CopilotRequest}
  {params : ExchangeTokenParams}

private theorem started_of_obtaining (h : PhaseSound sys es helper (.obtaining r)) :
    helper ≠ .notStarted := by
  intro hstart
  rcases h.2 with hprep | ⟨params, hexch, -⟩
  · rw [hstart] at hprep
    cases hprep
  · rw [hstart] at hexch
    cases hexch

private theorem preparing_of_obtaining (h : PhaseSound sys es helper (.obtaining r))
    (hreq : helper = .preparing req) : req = specialistRequest r := by
  rcases h.2 with hprep | ⟨params, hexch, -⟩
  · rw [hreq] at hprep
    cases hprep
    rfl
  · rw [hreq] at hexch
    cases hexch

private theorem exchanging_of_obtaining (h : PhaseSound sys es helper (.obtaining r))
    (hreq : helper = .exchanging req params) :
    req = specialistRequest r ∧ ParamsOf (sys.helpers.callOf (specialistRequest r)) params := by
  rcases h.2 with hprep | ⟨params', hexch, hparams⟩
  · rw [hreq] at hprep
    cases hprep
  · rw [hreq] at hexch
    cases hexch
    exact ⟨rfl, hparams⟩

end Obtaining

section Settled

variable {s : ObtainState Copilot.Helper Copilot.ExchangeSlot CopilotRequest}

/-- A helper call that finishes settles with its token. -/
private theorem settled_finish (sys : System) (before : List (Observation CopilotRequest))
    (c : Nat) (req : CopilotRequest) (token : String) (now : Int)
    (hbefore : settled before = none) :
    settled (before ++ (s.finish sys.helpers c req token now).2) = some (.ok token) := by
  have hfinish : settled (s.finish sys.helpers c req token now).2 = some (.ok token) := by
    unfold ObtainState.finish
    split <;> rfl
  rw [settled] at hbefore hfinish ⊢
  rw [List.findSome?_append, hbefore, hfinish]
  rfl

/-- A call with everything it waits for has its parameters. -/
theorem exchangeParams_ready {η σ : Type} {call : ObtainCall η σ} {p : Preparation}
    (h : Ready p) : ∃ params, call.exchangeParams p = .ok params := by
  obtain ⟨svid, hsvid⟩ := h.svid
  obtain ⟨kid, hkid⟩ := h.identity
  obtain ⟨endpoint, hendpoint⟩ := h.authorizationServer
  unfold ObtainCall.exchangeParams
  rw [hsvid, hkid, hendpoint]
  cases call.clientSecret <;> cases call.tokenEndpoint <;> exact ⟨_, rfl⟩

end Settled

section Step

variable {s : ChatState} {c : Nat}

private theorem Sound.concat {s' : ChatState} {new : List ChatObservation}
    (h : Sound sys es s)
    (hshown : EndToEnd.shown sys (es ++ [e]) = EndToEnd.shown sys es ++ new)
    (hcache : ∀ h, InsertionMap.Forall (CachedFor sys (es ++ [e]) h) (s'.helpers.cache h))
    (hphase : ∀ c, PhaseSound sys (es ++ [e]) (s'.helpers.phase c) (s'.phase c))
    (hnew : ∀ o ∈ new, ObservationSound sys (es ++ [e]) o) : Sound sys (es ++ [e]) s' := by
  refine ⟨hcache, hphase, fun o ho ↦ ?_⟩
  rw [hshown, List.mem_append] at ho
  rcases ho with hold | hadded
  · exact (h.shown o hold).concat
  · exact hnew o hadded

private theorem Sound.cache_concat (h : Sound sys es s) (a : Copilot.Helper) :
    InsertionMap.Forall (CachedFor sys (es ++ [e]) a) (s.helpers.cache a) :=
  (h.cache a).imp fun _ _ hc ↦ hc.concat

/-- Only the request `c` and its helper call move. -/
private theorem Sound.phase_goto {helper : Nat → Phase CopilotRequest} {p : Phase CopilotRequest}
    {q : ChatPhase} (h : Sound sys es s)
    (hhelper : ∀ d, d ≠ c → helper d = s.helpers.phase d) (hc : helper c = p)
    (hp : PhaseSound sys (es ++ [e]) p q) (d : Nat) :
    PhaseSound sys (es ++ [e]) (helper d) (Function.update s.phase c q d) := by
  by_cases hd : d = c
  · subst hd
    rw [Function.update_self, hc]
    exact hp
  · rw [Function.update_of_ne hd, hhelper d hd]
    exact (h.phase d).concat

private theorem key_eq (r : ChatRequest) :
    (sys.helpers.callOf (specialistRequest r)).key = some (sys.key r) := rfl

/-- What a lookup serves was issued under the key of the request. -/
private theorem entitled_of_hit {r : ChatRequest} {now : Int} {value : CacheValue}
    (h : Sound sys es s)
    (hget : (s.helpers.lookup (sys.helpers.callOf (specialistRequest r)) now).2 = some value) :
    Entitled sys es r value.accessToken := by
  obtain ⟨key, entry, hkey, -, hentry, rfl⟩ := lookup_hit hget
  rw [key_eq, Option.some.injEq] at hkey
  subst hkey
  exact (h.cache _).of_get? hentry rfl

/-- A helper call that ends with a token it was entitled to keeps the invariant. -/
private theorem Sound.served {r : ChatRequest} {token : String} {now : Int}
    {helpers : ObtainState Copilot.Helper Copilot.ExchangeSlot CopilotRequest}
    (h : Sound sys es s) (before : List (Observation CopilotRequest))
    (hcache : ∀ a, InsertionMap.Forall (CachedFor sys (es ++ [e]) a) (helpers.cache a))
    (hphase : helpers.phase = s.helpers.phase) (hr : r ∈ chats (es ++ [e]))
    (hentitled : Entitled sys (es ++ [e]) r token) (hbefore : settled before = none)
    (hshown : EndToEnd.shown sys (es ++ [e]) = EndToEnd.shown sys es ++
      (s.obtained c r
        ((helpers.finish sys.helpers c (specialistRequest r) token now).1,
          before ++ (helpers.finish sys.helpers c (specialistRequest r) token now).2)).2) :
    Sound sys (es ++ [e])
      (s.obtained c r
        ((helpers.finish sys.helpers c (specialistRequest r) token now).1,
          before ++ (helpers.finish sys.helpers c (specialistRequest r) token now).2)).1 := by
  have hsettled := settled_finish sys (s := helpers) before c (specialistRequest r) token now
    hbefore
  simp only [ChatState.obtained, hsettled, ChatState.goto] at hshown ⊢
  apply h.concat hshown
  · intro a
    rw [finish_cache]
    exact hcache a
  · apply h.phase_goto
    · intro d hd
      rw [finish_phase, Function.update_of_ne hd, hphase]
    · rfl
    · exact ⟨hr, hentitled⟩
  · intro o ho
    rw [List.mem_singleton] at ho
    subst ho
    exact ⟨hr, hentitled⟩

/-- A helper call that Curity refuses keeps the invariant. -/
private theorem Sound.refused {r : ChatRequest} {err : Thrown} (h : Sound sys es s)
    (hr : r ∈ chats (es ++ [e])) (hcause : Cause sys (es ++ [e]) r (chatFailure err))
    (hshown : EndToEnd.shown sys (es ++ [e]) = EndToEnd.shown sys es ++
      (s.obtained c r (s.helpers.goto c .finished, [.refused err])).2) :
    Sound sys (es ++ [e]) (s.obtained c r (s.helpers.goto c .finished, [.refused err])).1 := by
  simp only [ChatState.obtained, settled, List.findSome?_cons, ChatState.goto] at hshown ⊢
  apply h.concat hshown
  · exact h.cache_concat
  · apply h.phase_goto
    · intro d hd
      exact Function.update_of_ne hd ..
    · rfl
    · trivial
  · intro o ho
    rw [List.mem_singleton] at ho
    subst ho
    exact ⟨hr, hcause⟩

/-- The first stretch of a request keeps the invariant. -/
private theorem Sound.chat {r : ChatRequest} {now : Int} (h : Sound sys es s)
    (hphase : s.phase c = .idle) (he : e = (c, .chat r now))
    (hshown : EndToEnd.shown sys (es ++ [e]) = EndToEnd.shown sys es ++
      (s.obtained c r (obtainStep sys.helpers s.helpers c (.start (specialistRequest r) now))).2) :
    Sound sys (es ++ [e])
      (s.obtained c r
        (obtainStep sys.helpers s.helpers c (.start (specialistRequest r) now))).1 := by
  have hidle : s.helpers.phase c = .notStarted := by
    have hsound := h.phase c
    rw [hphase] at hsound
    exact hsound
  have hr : r ∈ chats (es ++ [e]) := by
    rw [he]
    exact mem_chats_chat es c r now
  have hmoves := obtainStep_moves sys.helpers s.helpers c (.start (specialistRequest r) now)
  generalize obtainStep sys.helpers s.helpers c (.start (specialistRequest r) now) = out
    at hmoves hshown ⊢
  cases hmoves with
  | idle hnot => exact absurd rfl (hnot _ _ hidle)
  | refuse hrefused => cases hrefused
  | @hit _ _ value _ hget =>
    apply h.served [] _ (lookup_phase now) hr (entitled_of_hit h hget).concat rfl hshown
    exact forall_lookup h.cache_concat now
  | miss _ _ _ =>
    simp only [ChatState.obtained, settled, List.findSome?_nil, ChatState.goto,
      ObtainState.goto] at hshown ⊢
    apply h.concat hshown
    · intro a
      show InsertionMap.Forall _
        ((s.helpers.lookup (sys.helpers.callOf (specialistRequest r)) now).1.cache a)
      exact forall_lookup h.cache_concat now a
    · apply h.phase_goto
      · intro d hd
        simp only [lookup_phase, Function.update_of_ne hd]
      · rfl
      · simp only [Function.update_self]
        exact ⟨hr, Or.inl rfl⟩
    · intro o ho
      cases ho

/-- A later stretch of a helper call keeps the invariant. -/
private theorem Sound.obtain {r : ChatRequest} {event : ObtainEvent CopilotRequest}
    (h : Sound sys es s) (hphase : s.phase c = .obtaining r) (he : e = (c, .obtain event))
    (hfair : Fair sys s e)
    (hshown : EndToEnd.shown sys (es ++ [e]) = EndToEnd.shown sys es ++
      (s.obtained c r (obtainStep sys.helpers s.helpers c event)).2) :
    Sound sys (es ++ [e]) (s.obtained c r (obtainStep sys.helpers s.helpers c event)).1 := by
  have hsound := h.phase c
  rw [hphase] at hsound
  have hr' : r ∈ chats (es ++ [e]) := chats_concat hsound.1
  subst he
  have hmoves := obtainStep_moves sys.helpers s.helpers c event
  generalize obtainStep sys.helpers s.helpers c event = out at hmoves hshown ⊢
  cases hmoves with
  | idle _ =>
    simp only [ChatState.obtained, settled, List.findSome?_nil, ChatState.goto] at hshown ⊢
    apply h.concat hshown
    · exact h.cache_concat
    · exact h.phase_goto (fun _ _ ↦ rfl) rfl ⟨hr', hsound.2⟩
    · intro o ho
      cases ho
  | refuse hrefused =>
    cases hrefused with
    | @preparation req p err hreq hparams =>
      have hready : Ready p := hfair
      obtain ⟨params, hok⟩ := exchangeParams_ready hready
      rw [hok] at hparams
      cases hparams
    | @exchange req params err now hreq =>
      have hanswer := hfair req params hreq
      obtain ⟨-, hparams⟩ := exchanging_of_obtaining hsound hreq
      exact h.refused hr' (.refused hparams hanswer) hshown
  | hit hstart _ => exact absurd hstart (started_of_obtaining hsound)
  | miss _ _ hstart => exact absurd hstart (started_of_obtaining hsound)
  | @prepare req p params hreq hparams =>
    obtain rfl := preparing_of_obtaining hsound hreq
    simp only [ChatState.obtained, settled, List.findSome?_nil, ChatState.goto,
      ObtainState.goto] at hshown ⊢
    apply h.concat hshown
    · exact h.cache_concat
    · apply h.phase_goto
      · intro d hd
        simp only [Function.update_of_ne hd]
      · rfl
      · simp only [Function.update_self]
        exact ⟨hr', Or.inr ⟨params, rfl, exchangeParams_ok hparams⟩⟩
    · intro o ho
      cases ho
  | @mint req params result now hreq =>
    have hanswer := hfair req params hreq
    obtain ⟨rfl, hparams⟩ := exchanging_of_obtaining hsound hreq
    have hissued : IssuedFor sys r result.accessToken := ⟨params, result, hparams, hanswer, rfl⟩
    have hentitled : Entitled sys (es ++ [(c, .obtain (.exchanged (.ok result) now))]) r
        result.accessToken := ⟨r, hr', rfl, hissued⟩
    apply h.served [.minted (specialistRequest r) params result] _ (store_phase ..) hr'
      hentitled rfl hshown
    apply forall_store h.cache_concat
    intro key entry hkey _ htoken hspecialist
    rw [key_eq, Option.some.injEq] at hkey
    subst hkey
    rw [htoken]
    exact ⟨r, hr', rfl, hissued⟩
  | drop req =>
    simp only [ChatState.obtained, settled, List.findSome?_nil, ChatState.goto] at hshown ⊢
    apply h.concat hshown
    · exact forall_invalidate h.cache_concat
    · apply h.phase_goto
      · intro d _
        rw [invalidate_phase]
      · rfl
      · rw [invalidate_phase]
        exact ⟨hr', hsound.2⟩
    · intro o ho
      cases ho

/-- The last stretch of a request keeps the invariant. -/
private theorem Sound.replied {r : ChatRequest} {token : String}
    {deps : Specialist.RemediationDeps} {reply : SendMessageResult} (h : Sound sys es s)
    (hphase : s.phase c = .calling r token) (hserved : Served sys r token deps reply)
    (he : e = (c, .replied deps (.ok reply)))
    (hshown : EndToEnd.shown sys (es ++ [e]) = EndToEnd.shown sys es ++
      ((if (sys.execute r token deps).ranLlm then [ChatObservation.ranLlm r] else []) ++
        [.answered r (chatAnswer r (callSpecialist sys.json reply))])) :
    Sound sys (es ++ [e]) (s.goto c .answered) := by
  have hsound := (h.phase c).concat (e := e)
  rw [hphase] at hsound
  obtain ⟨hr, hentitled⟩ := hsound
  have hreplied : RepliedIn (es ++ [e]) deps reply := by
    refine ⟨c, List.mem_append_right _ ?_⟩
    rw [he]
    exact List.mem_singleton_self _
  apply h.concat hshown
  · exact h.cache_concat
  · exact h.phase_goto (fun _ _ ↦ rfl) rfl trivial
  · intro o ho
    rw [List.mem_append, List.mem_singleton] at ho
    rcases ho with hran | rfl
    · split at hran
      · next hllm =>
        rw [List.mem_singleton] at hran
        subst hran
        exact ⟨hr, token, deps, reply, hentitled, hserved, hreplied, hllm⟩
      · cases hran
    · exact ⟨hr, .replied hentitled hserved hreplied⟩

end Step

/-- A fair stretch keeps the invariant. -/
private theorem Sound.step {s : ChatState} {c : Nat} {event : ChatEvent} (h : Sound sys es s)
    (hfair : Fair sys s (c, event))
    (hshown : EndToEnd.shown sys (es ++ [(c, event)]) =
      EndToEnd.shown sys es ++ (chatStep sys s c event).2) :
    Sound sys (es ++ [(c, event)]) (chatStep sys s c event).1 := by
  revert hshown
  unfold chatStep
  split
  · next r now hphase =>
    intro hshown
    exact h.chat hphase rfl hshown
  · next r event hphase =>
    intro hshown
    exact h.obtain hphase rfl hfair hshown
  · next r token deps reply hphase =>
    obtain ⟨result, rfl, hserved⟩ := hfair r token hphase
    intro hshown
    exact h.replied hphase hserved rfl hshown
  · intro hshown
    apply h.concat hshown
    · exact h.cache_concat
    · intro d
      exact (h.phase d).concat
    · intro o ho
      cases ho

/-- The invariant holds after every run in which nothing of the infrastructure fails. -/
theorem sound_run (sys : System) (es : List (Nat × ChatEvent))
    (hfair : (chatting sys).Along (Fair sys) es) : Sound sys es ((chatting sys).run es) := by
  apply (chatting sys).run_induction_along (C := Fair sys) (P := Sound sys) _ _ es hfair
  · refine ⟨fun _ ↦ InsertionMap.forall_empty _, fun _ ↦ rfl, ?_⟩
    intro o ho
    cases ho
  · intro es e hfair h
    exact h.step (c := e.1) hfair shown_concat

end AgentsAuth.EndToEnd
