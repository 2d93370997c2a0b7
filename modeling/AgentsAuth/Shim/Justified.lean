import AgentsAuth.Shim.ExchangeHandler

/-!
# What stands behind a response of the shim

Whatever the interleaving, a response to a bound caller token follows an accepted
proof in the same call, and its access token was granted for the caller token and
the audience of the call. The store and the phases of the calls carry the evidence.
-/

namespace AgentsAuth.Shim

open AgentsAuth.AuthCurity AgentsAuth.Base AgentsAuth.Lib

variable (deps : HandlerDeps)

/-- An event of the call `c` in the run has met a state with it in `P`. -/
def Met (P : ShimState → ShimEvent → Prop) (es : List (Nat × ShimEvent)) (c : Nat) : Prop :=
  ∃ before event, before ++ [(c, event)] <+: es ∧ P ((handling deps).run before) event

/-- `verifyDpopProof` has accepted a proof for the call `c`, on the replay cache as it was then. -/
def Accepted (es : List (Nat × ShimEvent)) (c : Nat) (call : ProofCall) : Prop :=
  Met deps (fun s event ↦ event = .checkProof ∧ ∃ req scope replay,
    s.phase c = .checkingProof req scope call ∧ s.replay = some replay ∧
      (verifyDpopProof deps.tools replay call).2 = .ok ()) es c

/-- The exchange that the call `c` was waiting for, with these parameters, has been granted. -/
def Granted (es : List (Nat × ShimEvent)) (c : Nat) (params : ExchangeParams)
    (result : ExchangeResponse) : Prop :=
  Met deps (fun s event ↦ ∃ req now, event = .exchanged (.ok result) now ∧
    s.phase c = .exchanging req params) es c

/-- The call `c` was started with the request `req`. -/
def Requested (es : List (Nat × ShimEvent)) (c : Nat) (req : ExchangeRequest) : Prop :=
  ∃ now, (c, .start req now) ∈ es

/-- The caller tokens of a run. -/
def callerTokens (es : List (Nat × ShimEvent)) : List String :=
  es.filterMap fun e ↦
    match e.2 with
    | .start req _ => some req.callerToken
    | _ => none

/-- If the caller token is bound, the call has had a proof for it accepted. -/
def Proven (es : List (Nat × ShimEvent)) (c : Nat) (req : ExchangeRequest) : Prop :=
  ∀ jkt, boundKey deps req.callerToken = some jkt →
    ∃ now call, proofCall req jkt now = some call ∧ Accepted deps es c call

/-- A stored token was granted for the subject token and the audience of its key. -/
def StoredFor (es : List (Nat × ShimEvent)) (k : String) (e : Entry) : Prop :=
  ∃ c req params result, Requested es c req ∧ Granted deps es c params result ∧
    params.subjectToken = req.callerToken ∧
    k = keyOf deps.tools.sha256 req.callerToken params.audience ∧
    allowedScope deps params.audience = some params.scope ∧ e.accessToken = result.accessToken

/-- What a call has established when it stands somewhere. -/
def PhaseSound (es : List (Nat × ShimEvent)) (c : Nat) : Phase → Prop
  | .notStarted => True
  | .checkingProof req scope call =>
    Requested es c req ∧ allowedScope deps req.targetAudience = some scope ∧
      ∃ jkt now, boundKey deps req.callerToken = some jkt ∧ proofCall req jkt now = some call
  | .lookingUp req scope =>
    Requested es c req ∧ allowedScope deps req.targetAudience = some scope ∧ Proven deps es c req
  | .awaitingSvid req scope =>
    Requested es c req ∧ allowedScope deps req.targetAudience = some scope ∧ Proven deps es c req
  | .exchanging req params =>
    Requested es c req ∧ Proven deps es c req ∧
      ∃ scope actorToken, allowedScope deps req.targetAudience = some scope ∧
        params = exchangeParams deps req scope actorToken
  | .finished => True

/-- The invariant of the process, relative to its history. -/
structure Sound (es : List (Nat × ShimEvent)) (s : ShimState) : Prop where
  store : InsertionMap.Forall (StoredFor deps es) s.store
  phase : ∀ c, PhaseSound deps es c (s.phase c)

variable {deps} {es : List (Nat × ShimEvent)} {e : Nat × ShimEvent} {c : Nat}

section Monotone

private theorem Met.concat {P : ShimState → ShimEvent → Prop} (h : Met deps P es c) :
    Met deps P (es ++ [e]) c := by
  obtain ⟨before, event, hpre, hP⟩ := h
  exact ⟨before, event, hpre.trans (List.prefix_append es [e]), hP⟩

private theorem met_concat_self {P : ShimState → ShimEvent → Prop} {event : ShimEvent}
    (h : P ((handling deps).run es) event) : Met deps P (es ++ [(c, event)]) c :=
  ⟨es, event, List.prefix_refl _, h⟩

private theorem Requested.concat {req : ExchangeRequest} (h : Requested es c req) :
    Requested (es ++ [e]) c req := by
  obtain ⟨now, hin⟩ := h
  exact ⟨now, List.mem_append_left _ hin⟩

private theorem Proven.concat {req : ExchangeRequest} (h : Proven deps es c req) :
    Proven deps (es ++ [e]) c req := by
  intro jkt hjkt
  obtain ⟨now, call, hcall, haccepted⟩ := h jkt hjkt
  exact ⟨now, call, hcall, Met.concat haccepted⟩

private theorem StoredFor.concat {k : String} {entry : Entry} (h : StoredFor deps es k entry) :
    StoredFor deps (es ++ [e]) k entry := by
  obtain ⟨c, req, params, result, hreq, hgranted, hrest⟩ := h
  exact ⟨c, req, params, result, hreq.concat, Met.concat hgranted, hrest⟩

private theorem PhaseSound.concat {p : Phase} (h : PhaseSound deps es c p) :
    PhaseSound deps (es ++ [e]) c p := by
  cases p with
  | notStarted => trivial
  | checkingProof req scope call => exact ⟨h.1.concat, h.2⟩
  | lookingUp req scope => exact ⟨h.1.concat, h.2.1, h.2.2.concat⟩
  | awaitingSvid req scope => exact ⟨h.1.concat, h.2.1, h.2.2.concat⟩
  | exchanging req params => exact ⟨h.1.concat, h.2.1.concat, h.2.2⟩
  | finished => trivial

end Monotone

private theorem phaseSound_goto {s : ShimState} {p : Phase}
    (h : ∀ c, PhaseSound deps es c (s.phase c))
    (hp : PhaseSound deps (es ++ [e]) c p) (d : Nat) :
    PhaseSound deps (es ++ [e]) d ((s.goto c p).phase d) := by
  unfold ShimState.goto
  simp only
  by_cases hd : d = c
  · subst hd
    rw [Function.update_self]
    exact hp
  · rw [Function.update_of_ne hd]
    exact (h d).concat

private theorem requested_concat_start {req : ExchangeRequest} {now : ℚ} :
    Requested (es ++ [(c, ShimEvent.start req now)]) c req :=
  ⟨now, List.mem_append_right _ (List.mem_singleton_self _)⟩

/-- One move after a run keeps the invariant. -/
private theorem Sound.move {s s' : ShimState} {event : ShimEvent} {shown : List Observation}
    (h : Sound deps es s) (hrun : (handling deps).run es = s)
    (hmove : Moves deps s c event s' shown) : Sound deps (es ++ [(c, event)]) s' := by
  have hstore : InsertionMap.Forall (StoredFor deps (es ++ [(c, event)])) s.store :=
    h.store.imp fun _ _ hstored ↦ hstored.concat
  cases hmove with
  | idle => exact ⟨hstore, fun d ↦ (h.phase d).concat⟩
  | refuse e => exact ⟨hstore, phaseSound_goto h.phase trivial⟩
  | toProof now hscope hjkt hcall =>
    exact ⟨hstore, phaseSound_goto h.phase
      ⟨requested_concat_start, hscope, _, now, hjkt, hcall⟩⟩
  | toLookup now hscope hjkt =>
    refine ⟨hstore, phaseSound_goto h.phase ⟨requested_concat_start, hscope, ?_⟩⟩
    intro jkt hsome
    rw [hjkt] at hsome
    cases hsome
  | proven hphase hreplay hverify =>
    have hp := h.phase c
    rw [hphase] at hp
    obtain ⟨hreq, hscope, jkt, now, hjkt, hcall⟩ := hp
    refine ⟨hstore, phaseSound_goto h.phase ⟨hreq.concat, hscope, ?_⟩⟩
    intro jkt' hjkt'
    obtain rfl : jkt = jkt' := Option.some.inj (hjkt.symm.trans hjkt')
    exact ⟨now, _, hcall, met_concat_self
      ⟨rfl, _, _, _, by rw [hrun]; exact hphase, by rw [hrun]; exact hreplay, hverify⟩⟩
  | uncached now hphase =>
    have hp := h.phase c
    rw [hphase] at hp
    exact ⟨hstore, phaseSound_goto h.phase hp.concat⟩
  | hit opts now hphase hget => exact ⟨Store.forall_get hstore, phaseSound_goto h.phase trivial⟩
  | miss opts now hphase =>
    have hp := h.phase c
    rw [hphase] at hp
    exact ⟨Store.forall_get hstore, phaseSound_goto h.phase hp.concat⟩
  | toExchange actorToken hphase =>
    have hp := h.phase c
    rw [hphase] at hp
    exact ⟨hstore, phaseSound_goto h.phase
      ⟨hp.1.concat, hp.2.2.concat, _, actorToken, hp.2.1, rfl⟩⟩
  | grant response now store hphase hput =>
    have hp := h.phase c
    rw [hphase] at hp
    obtain ⟨hreq, -, scope, actorToken, hscope, rfl⟩ := hp
    refine ⟨?_, phaseSound_goto h.phase trivial⟩
    rcases hput with rfl | ⟨opts, rfl⟩
    · exact hstore
    · apply Store.forall_put hstore
      intro entry hentry
      exact ⟨c, _, _, response, hreq.concat,
        met_concat_self ⟨_, now, rfl, by rw [hrun]; exact hphase⟩, rfl, rfl, hscope, hentry⟩

/-- The invariant holds after every interleaving. -/
theorem sound_run (es : List (Nat × ShimEvent)) : Sound deps es ((handling deps).run es) := by
  apply (handling deps).run_induction (P := Sound deps)
  · exact ⟨InsertionMap.forall_empty _, fun _ ↦ trivial⟩
  · rintro es ⟨c, event⟩ h
    exact h.move rfl (handleStep_moves deps _ c event)

private theorem mem_callerTokens {req : ExchangeRequest} (h : Requested es c req) :
    req.callerToken ∈ callerTokens es := by
  obtain ⟨now, hin⟩ := h
  exact List.mem_filterMap.mpr ⟨_, hin, rfl⟩

private theorem proofCall_eq_some {req : ExchangeRequest} {jkt : String} {now : ℚ}
    {call : ProofCall} (h : proofCall req jkt now = some call) :
    call.accessToken = req.callerToken ∧ call.jkt = jkt ∧
      req.dpop = some ⟨some call.proof, some call.htm, some call.htu⟩ := by
  unfold proofCall at h
  obtain ⟨fields, hfields, h⟩ := Option.bind_eq_some_iff.mp h
  obtain ⟨proof, hproof, h⟩ := Option.bind_eq_some_iff.mp h
  obtain ⟨htm, hhtm, h⟩ := Option.bind_eq_some_iff.mp h
  obtain ⟨htu, hhtu, h⟩ := Option.bind_eq_some_iff.mp h
  cases h
  obtain ⟨fproof, fhtm, fhtu⟩ := fields
  rw [Option.filter_eq_some_iff] at hproof hhtm hhtu
  simp only at hproof hhtm hhtu
  rw [hfields, hproof.1, hhtm.1, hhtu.1]
  exact ⟨rfl, rfl, rfl⟩

private theorem Moves.of_responded {s s' : ShimState} {event : ShimEvent}
    {shown : List Observation} {req : ExchangeRequest} {response : ExchangeResponse}
    (h : Moves deps s c event s' shown) (hshown : .responded req response ∈ shown) :
    (∃ scope opts now, s.phase c = .lookingUp req scope ∧
      (s.store.get opts (keyOf deps.tools.sha256 req.callerToken req.targetAudience) now).2 =
        some response) ∨
    ∃ params now, s.phase c = .exchanging req params ∧ event = .exchanged (.ok response) now := by
  cases h with
  | idle => cases hshown
  | refuse e =>
    rw [List.mem_singleton] at hshown
    cases hshown
  | toProof => cases hshown
  | toLookup => cases hshown
  | proven => cases hshown
  | uncached => cases hshown
  | hit opts now hphase hget =>
    rw [List.mem_singleton] at hshown
    cases hshown
    exact Or.inl ⟨_, opts, now, hphase, hget⟩
  | miss => cases hshown
  | toExchange => cases hshown
  | grant response' now store hphase hput =>
    rw [List.mem_singleton] at hshown
    cases hshown
    exact Or.inr ⟨_, now, hphase, rfl⟩

private theorem Moves.of_refused {s s' : ShimState} {event : ShimEvent}
    {shown : List Observation} {e : HandlerError} (h : Moves deps s c event s' shown)
    (hshown : .refused e ∈ shown) : s'.store = s.store ∧ s'.replay = s.replay := by
  cases h with
  | refuse e => exact ⟨rfl, rfl⟩
  | idle => exact ⟨rfl, rfl⟩
  | toProof => exact ⟨rfl, rfl⟩
  | toLookup => exact ⟨rfl, rfl⟩
  | uncached => exact ⟨rfl, rfl⟩
  | toExchange => exact ⟨rfl, rfl⟩
  | miss => cases hshown
  | proven => cases hshown
  | hit =>
    rw [List.mem_singleton] at hshown
    cases hshown
  | grant =>
    rw [List.mem_singleton] at hshown
    cases hshown

/-- A stored token found for a request was granted for its caller token and audience, if the
digest separates the caller tokens of the run. -/
private theorem granted_of_get {s : ShimState} {opts : ExchangeCacheOptions} {now : ℚ}
    {req : ExchangeRequest} {response : ExchangeResponse}
    (hnul : ∀ t ∈ callerTokens es, '\x00' ∉ (deps.tools.sha256 t).toList)
    (hsha : ∀ t ∈ callerTokens es, ∀ t' ∈ callerTokens es,
      deps.tools.sha256 t = deps.tools.sha256 t' → t = t')
    (hstore : InsertionMap.Forall (StoredFor deps es) s.store) (hreq : Requested es c req)
    (hget : (s.store.get opts
      (keyOf deps.tools.sha256 req.callerToken req.targetAudience) now).2 = some response) :
    ∃ c' params result, Granted deps es c' params result ∧
      params.subjectToken = req.callerToken ∧ params.audience = req.targetAudience ∧
      allowedScope deps req.targetAudience = some params.scope ∧
      response.accessToken = result.accessToken := by
  obtain ⟨entry, hentry, htoken⟩ := Store.exists_entry_of_get hget
  obtain ⟨c', req', params, result, hreq', hgranted, hsubject, hkey, hscope, haccess⟩ :=
    hstore.of_get? hentry
  have hin := mem_callerTokens hreq
  have hin' := mem_callerTokens hreq'
  obtain ⟨hdigest, haudience⟩ := keyOf_inj (hnul _ hin) (hnul _ hin') hkey
  have hcaller : req.callerToken = req'.callerToken := hsha _ hin _ hin' hdigest
  refine ⟨c', params, result, hgranted, ?_, haudience.symm, ?_, htoken.trans haccess⟩
  · rw [hsubject, hcaller]
  · rw [haudience]
    exact hscope

/-- In every interleaving: a response to a bound caller token follows an accepted proof for that
token, key, method and URL in the same call; its access token was granted to an exchange with
the call's caller token, audience and allowed scope; and a refusal changes neither cache. -/
theorem responses_justified {event : ShimEvent}
    (hnul : ∀ t ∈ callerTokens es, '\x00' ∉ (deps.tools.sha256 t).toList)
    (hsha : ∀ t ∈ callerTokens es, ∀ t' ∈ callerTokens es,
      deps.tools.sha256 t = deps.tools.sha256 t' → t = t') :
    (∀ req response, .responded req response ∈ (handling deps).answer es (c, event) →
      Requested es c req ∧
      (∀ jkt, boundKey deps req.callerToken = some jkt →
        ∃ call, Accepted deps es c call ∧ call.accessToken = req.callerToken ∧
          call.jkt = jkt ∧ req.dpop = some ⟨some call.proof, some call.htm, some call.htu⟩) ∧
      ∃ c' params result, Granted deps (es ++ [(c, event)]) c' params result ∧
        params.subjectToken = req.callerToken ∧ params.audience = req.targetAudience ∧
        allowedScope deps req.targetAudience = some params.scope ∧
        response.accessToken = result.accessToken) ∧
    ∀ e, .refused e ∈ (handling deps).answer es (c, event) →
      ((handling deps).run (es ++ [(c, event)])).store = ((handling deps).run es).store ∧
      ((handling deps).run (es ++ [(c, event)])).replay = ((handling deps).run es).replay := by
  have hsound : Sound deps es ((handling deps).run es) := sound_run es
  have hmoves := handleStep_moves deps ((handling deps).run es) c event
  have hproof : ∀ req, Proven deps es c req → ∀ jkt, boundKey deps req.callerToken = some jkt →
      ∃ call, Accepted deps es c call ∧ call.accessToken = req.callerToken ∧
        call.jkt = jkt ∧ req.dpop = some ⟨some call.proof, some call.htm, some call.htu⟩ := by
    intro req hproven jkt hjkt
    obtain ⟨now, call, hcall, haccepted⟩ := hproven jkt hjkt
    exact ⟨call, haccepted, proofCall_eq_some hcall⟩
  constructor
  · intro req response hresponse
    have hphase := hsound.phase c
    rcases hmoves.of_responded hresponse with
      ⟨scope, opts, now, hlook, hget⟩ | ⟨params, now, hex, rfl⟩
    · rw [hlook] at hphase
      obtain ⟨hreq, -, hproven⟩ := hphase
      obtain ⟨c', params, result, hgranted, hrest⟩ :=
        granted_of_get hnul hsha hsound.store hreq hget
      exact ⟨hreq, hproof req hproven, c', params, result, Met.concat hgranted, hrest⟩
    · have hgranted : Granted deps (es ++ [(c, .exchanged (.ok response) now)]) c params response :=
        met_concat_self ⟨req, now, rfl, hex⟩
      rw [hex] at hphase
      obtain ⟨hreq, hproven, scope, actorToken, hscope, rfl⟩ := hphase
      exact ⟨hreq, hproof req hproven, c, _, response, hgranted, rfl, rfl, hscope, rfl⟩
  · intro e hrefused
    rw [Machine.run_concat]
    exact hmoves.of_refused hrefused

section Sample

private theorem sampleTtl_nonneg : (0 : ℚ) ≤ 60000 := by norm_num

private def sampleDeps : HandlerDeps where
  tools := sampleTools
  decodeJwt := fun _ ↦ some fun name ↦
    if name = "cnf" then some (.obj [("jkt", .str "thumbprint")]) else none
  tokenEndpoint := "https://curity.localtest.me/oauth/v2/oauth-token"
  clientId := "agentgateway"
  clientSecret := "secret"
  audienceScopes := [("mcp-inspect", "inspect:read"), ("mcp-ops", "ops:write")]
  cache := some ⟨60000, 1000, 30000, sampleTtl_nonneg, Nat.succ_pos 999⟩
  replay := some (.empty 10000 (Nat.succ_pos 9999))

private def sampleRequest (proof : String) : ExchangeRequest :=
  ⟨"e30.token.sig", "mcp-inspect",
    some ⟨some proof, some "POST", some "https://mcp-gateway.localtest.me/inspect/mcp"⟩⟩

/-- One call makes an exchange; a second one proves possession again and reuses it. -/
private def sampleEvents : List (Nat × ShimEvent) :=
  [(0, .start (sampleRequest "e30.proof0.sig") 1000000), (0, .checkProof), (0, .lookUp 1000001),
    (1, .start (sampleRequest "e30.proof1.sig") 1000002), (0, .svid (.ok "e30.gateway.sig")),
    (0, .exchanged (.ok ⟨"e30.issued.sig", "bearer", 600⟩) 1000003), (1, .checkProof)]

/-- The second call's response is justified by its own proof and the first call's exchange. -/
theorem responses_justified_sample :
    ∃ c params result, Granted sampleDeps (sampleEvents ++ [(1, .lookUp 1000004)]) c params result ∧
      params.subjectToken = "e30.token.sig" ∧ params.audience = "mcp-inspect" ∧
      "e30.issued.sig" = result.accessToken := by
  have hcallers : callerTokens sampleEvents = ["e30.token.sig", "e30.token.sig"] := rfl
  have hdigest : '\x00' ∉ "hash".toList := by decide
  have hjustified := @responses_justified sampleDeps sampleEvents 1 (.lookUp 1000004)
    (fun _ _ ↦ hdigest) (by rw [hcallers]; simp)
  obtain ⟨-, -, c, params, result, hgranted, hsubject, haudience, -, htoken⟩ :=
    hjustified.1 (sampleRequest "e30.proof1.sig") ⟨"e30.issued.sig", "bearer", 599⟩
      (by decide +kernel)
  exact ⟨c, params, result, hgranted, hsubject, haudience, htoken⟩

end Sample
end AgentsAuth.Shim
