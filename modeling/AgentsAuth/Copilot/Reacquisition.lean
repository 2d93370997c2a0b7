import AgentsAuth.Copilot.RecoveryRuns

/-!
# The token after a 401

A call that answers a 401 ends in one of three ways: it throws at once, where the 401 asks for a
step-up; it throws what its discovery or its exchange fails with; or it resolves to the token of a
request that it has sent itself, for a server that it has discovered again.
-/

namespace AgentsAuth.Copilot.Recovery

open AgentsAuth.Agents AgentsAuth.AuthCurity AgentsAuth.Base AgentsAuth.Lib AgentsAuth.Runtime
open scoped List

variable (deps : RecoveryDeps)

/-- The key of the exchange cache for what a provider has discovered:
`apps/agent-copilot/src/mcp-client.ts:84`. -/
def RecoveryDeps.cacheKey (p : Nat) (d : McpAuthDiscovery) : CacheKey :=
  ⟨(deps.optsOf p).subjectSub, d.scope, deps.cfg.mcpInspectAudience, (deps.optsOf p).subjectAcr⟩

/-- The provider has asked the network again and fails at `event`, or its exchange does. -/
inductive Fails (es : List (Nat × RecoveryEvent)) (c p : Nat) (op : ProviderOp) :
    RecoveryEvent → Thrown → Prop
  | document {net : Network} {clock : Clock} {now : Int} {e : Thrown}
    (hstarted : ∃ clock now, (c, .start p op clock now) ∈ es)
    (hfails : ∀ fetch clock caches, (discoverMcpAuthorization deps.sdk
      { net with discoverMetadata := fetch } clock caches (deps.discovery op)).2 = .error e) :
    Fails es c p op (.located net clock now) e
  | metadata {net : Network} {fetch : String → Except String (Option Json)} {clock : Clock}
    {now : Int} {e : Thrown} (hlocated : LocatedBy es c p op net)
    (hfails : ∀ caches, (discoverMcpAuthorization deps.sdk { net with discoverMetadata := fetch }
      clock caches (deps.discovery op)).2 = .error e) :
    Fails es c p op (.resolved fetch clock now) e
  | preparation {d : McpAuthDiscovery} {preparation : Preparation} {e : Thrown}
    (hrediscovered : Rediscovered deps es c p op d)
    (hfails : ((copilot deps.cfg deps.decodeJwt).callOf
      (deps.exchangeFor p op d)).exchangeParams preparation = .error e) :
    Fails es c p op (.prepared preparation) e
  | exchange {d : McpAuthDiscovery} {params : ExchangeTokenParams} {e : Thrown} {now : Int}
    (hrediscovered : Rediscovered deps es c p op d) (hparams : RequestFor deps p op d params)
    (hshown : [.began c p op, .discovered c d, .sent c params] <+ shown deps es) :
    Fails es c p op (.exchanged (.error e) now) e

/-- The call `c` neither resolves nor throws. -/
def GoesOn (c : Nat) (obs : List RecoveryObservation) : Prop :=
  (∀ token, .resolved c token ∉ obs) ∧ ∀ e, .thrown c e ∉ obs

/-- What a stretch does of a call that answers a 401 without a request for a step-up. -/
inductive Recovers (es : List (Nat × RecoveryEvent)) (s : RecoveryState) (c p : Nat)
    (op : ProviderOp) : RecoveryEvent → RecoveryState × List RecoveryObservation → Prop
  | goesOn {event : RecoveryEvent} {out : RecoveryState × List RecoveryObservation}
    (hgoesOn : GoesOn c out.2) : Recovers es s c p op event out
  | fails {event : RecoveryEvent} {s' : RecoveryState} (obs : List (Observation CopilotRequest))
    {e : Thrown} (htoken : s'.token = s.token) (hfails : Fails deps es c p op event e) :
    Recovers es s c p op event (s', obs.map (.exchange c) ++ [.thrown c e])
  | regains {d : McpAuthDiscovery} {params : ExchangeTokenParams} {result : ExchangeTokenResult}
    {now : Int} {exchanges : ObtainState Helper ExchangeSlot CopilotRequest}
    {obs : List (Observation CopilotRequest)} (hrediscovered : Rediscovered deps es c p op d)
    (hparams : RequestFor deps p op d params)
    (hshown : [.began c p op, .discovered c d, .sent c params] <+ shown deps es)
    (hcache : exchanges.cache = Function.update s.exchanges.cache .inspect
      ((s.exchanges.cache .inspect).set (deps.cacheKey p d)
        ⟨result.accessToken, result.expiresInSec, result.scope⟩ deps.cfg.exchangeCacheTtlMs now)) :
    Recovers es s c p op (.exchanged (.ok result) now)
      ({ s with
          exchanges := exchanges
          token := Function.update s.token p (some result.accessToken) }.goto c .finished,
        .exchange c (.minted (deps.exchangeFor p op d) params result) :: obs.map (.exchange c) ++
          [.resolved c (some result.accessToken)])

variable {deps} {es : List (Nat × RecoveryEvent)} {s : RecoveryState} {c p : Nat}
  {event : RecoveryEvent} {out : RecoveryState × List RecoveryObservation} {challenge : Challenge}

section Stretches

private theorem goesOn_nil : GoesOn c [] :=
  ⟨fun _ ↦ List.not_mem_nil, fun _ ↦ List.not_mem_nil⟩

private theorem goesOn_map (obs : List (Observation CopilotRequest)) :
    GoesOn c (obs.map (.exchange c)) := by
  simp [GoesOn]

/-- The exchange of a call that answers a 401 goes on, fails or brings a token. -/
private theorem Recovers.of_prepared {op : ProviderOp} {d : McpAuthDiscovery}
    {preparation : Preparation} {s' : RecoveryState} {done : List RecoveryObservation}
    (hrediscovered : Rediscovered deps es c p op d)
    (hexchanging : Exchanging deps es c p op d (s.exchanges.phase c))
    (hsettle : settle s c p op (helperStep deps s c (.prepared preparation)) = (s', done)) :
    Recovers deps es s c p op (.prepared preparation) (s', done ++ sentBy s s' c) := by
  generalize hhelper : s.exchanges.phase c = helper at hexchanging
  cases hexchanging with
  | preparing _ =>
    rw [settle_prepared hhelper] at hsettle
    cases hparams : ((copilot deps.cfg deps.decodeJwt).callOf
        (deps.exchangeFor p op d)).exchangeParams preparation with
    | error e =>
      rw [hparams] at hsettle
      cases hsettle
      have hsent : sentBy s ({ s with exchanges := s.exchanges.goto c .finished }.goto c .finished)
          c = [] := by
        simp [sentBy, hhelper, RecoveryState.goto]
      rw [hsent, List.append_nil]
      exact .fails [.refused e] rfl (.preparation hrediscovered hparams)
    | ok params =>
      rw [hparams] at hsettle
      cases hsettle
      apply Recovers.goesOn
      simp [GoesOn, sentBy, hhelper, RecoveryState.goto]
  | exchanging _ _ =>
    rw [settle_prepared_again hhelper] at hsettle
    cases hsettle
    apply Recovers.goesOn
    simp [GoesOn, sentBy, hhelper, RecoveryState.goto]

private theorem Recovers.of_exchanged {op : ProviderOp} {d : McpAuthDiscovery}
    {answer : Except Thrown ExchangeTokenResult} {now : Int}
    (hrediscovered : Rediscovered deps es c p op d)
    (hexchanging : Exchanging deps es c p op d (s.exchanges.phase c)) :
    Recovers deps es s c p op (.exchanged answer now)
      (settle s c p op (helperStep deps s c (.exchanged answer now))) := by
  generalize hhelper : s.exchanges.phase c = helper at hexchanging
  cases hexchanging with
  | preparing _ =>
    rw [settle_exchanged_early hhelper]
    exact .goesOn goesOn_nil
  | exchanging hparams hshown =>
    cases answer with
    | error e =>
      rw [settle_refused hhelper]
      exact .fails [.refused e] rfl (.exchange hrediscovered hparams hshown)
    | ok result =>
      obtain ⟨exchanges, obs, hcache, hsettle⟩ := settle_exchanged (s := s) (c := c)
        (p := p) hhelper
      rw [hsettle]
      exact .regains hrediscovered hparams hshown hcache

/-- A forced call that exchanges has rediscovered what it exchanges for. -/
private theorem exchanging_of_began {p' : Nat} {op op' : ProviderOp}
    {helper : Phase CopilotRequest} (hstanding : Standing deps es c helper (.exchanging p' op'))
    (hbegan : beganBy (shown deps (es ++ [(c, event)])) c = some (p, op))
    (hforced : forced op = true) :
    p' = p ∧ op' = op ∧
      ∃ d, Rediscovered deps es c p op d ∧ Exchanging deps es c p op d helper := by
  obtain ⟨hstarted, hexchanging⟩ := hstanding
  rw [beganBy_concat hstarted.began] at hbegan
  cases hbegan
  exact ⟨rfl, rfl, hexchanging hforced⟩

/-- Every stretch of a call that answers a 401 without a request for a step-up is one of these. -/
theorem recovers_of_steps (h : Sound deps es s) (hsteps : Steps deps s c event out)
    (hanswer : (recovering deps).answer es (c, event) = out.2)
    (hbegan : beganBy (shown deps (es ++ [(c, event)])) c = some (p, .onUnauthorized challenge))
    (hasks : ¬ AsksForStepUp challenge) :
    Recovers deps es s c p (.onUnauthorized challenge) event out := by
  have hstanding := h.standing c
  have hforced : forced (.onUnauthorized challenge) = true := rfl
  cases hsteps with
  | silent _ _ _ => exact .goesOn goesOn_nil
  | stepUp hphase hstepUp =>
    rw [hphase] at hstanding
    rw [beganBy_start hstanding.1 hanswer] at hbegan
    cases hbegan
    exact absurd hstepUp hasks
  | @start p' op clock now hphase _ =>
    rw [hphase] at hstanding
    rw [beganBy_start hstanding.1 hanswer] at hbegan
    cases hbegan
    rw [start_of_forced hforced]
    apply Recovers.goesOn
    simp [GoesOn]
  | @located p' op net clock now hphase =>
    rw [hphase] at hstanding
    rw [beganBy_concat hstanding.1.began] at hbegan
    cases hbegan
    rcases located_of_forced (s := s) (c := c) (p := p) hforced net clock now with
      ⟨e, hfails, hlocated⟩ | ⟨loc, _, _, hlocated⟩
    · rw [hlocated]
      exact .fails [] rfl (.document hstanding.1.started hfails)
    · rw [hlocated]
      exact .goesOn goesOn_nil
  | @resolved p' op loc fetch clock now hphase =>
    rw [hphase] at hstanding
    obtain ⟨hstarted, hhelper, hlocated⟩ := hstanding
    rw [beganBy_concat hstarted.began] at hbegan
    cases hbegan
    obtain ⟨net, hnet, hlocate, hhttps⟩ := hlocated hforced
    rcases resolved_of_forced (p := p) hforced hhelper hlocate hhttps fetch clock now with
      ⟨caches, e, hfails, hresolved⟩ | ⟨caches, exchanges, discovery, d, _, _, hresolved⟩
    · rw [hresolved]
      exact .fails [] rfl (.metadata hnet hfails)
    · rw [hresolved]
      apply Recovers.goesOn
      simp [GoesOn]
  | prepared hphase hsettle =>
    rw [hphase] at hstanding
    obtain ⟨rfl, rfl, d, hrediscovered, hexchanging⟩ :=
      exchanging_of_began hstanding hbegan hforced
    exact Recovers.of_prepared hrediscovered hexchanging hsettle
  | exchanged hphase =>
    rw [hphase] at hstanding
    obtain ⟨rfl, rfl, d, hrediscovered, hexchanging⟩ :=
      exchanging_of_began hstanding hbegan hforced
    exact Recovers.of_exchanged hrediscovered hexchanging
  | helper _ => exact .goesOn (goesOn_map _)

end Stretches

section Tokens

/-- A resolution is known to be one of the provider that its call began with. -/
private theorem beganBy_of_resolved {t : String} {op : ProviderOp} (h : Sound deps es s)
    (hsteps : Steps deps s c event out) (hanswer : (recovering deps).answer es (c, event) = out.2)
    (hmem : .resolved c (some t) ∈ out.2) (hcurrent : current (s.phase c) event = some (p, op)) :
    beganBy (shown deps (es ++ [(c, event)])) c = some (p, op) := by
  have hstanding := h.standing c
  cases hsteps with
  | silent _ _ _ => cases hmem
  | stepUp hphase _ =>
    rw [hphase] at hstanding hcurrent
    cases hcurrent
    exact beganBy_start hstanding.1 hanswer
  | start hphase _ =>
    rw [hphase] at hstanding hcurrent
    cases hcurrent
    exact beganBy_start hstanding.1 hanswer
  | located hphase =>
    rw [hphase] at hstanding hcurrent
    cases hcurrent
    exact beganBy_concat hstanding.1.began
  | resolved hphase =>
    rw [hphase] at hstanding hcurrent
    cases hcurrent
    exact beganBy_concat hstanding.1.began
  | prepared hphase _ =>
    rw [hphase] at hstanding hcurrent
    cases hcurrent
    exact beganBy_concat hstanding.1.began
  | exchanged hphase =>
    rw [hphase] at hstanding hcurrent
    cases hcurrent
    exact beganBy_concat hstanding.1.began
  | helper hphase =>
    rcases hphase with hphase | hphase
    · rw [hphase] at hcurrent
      cases hcurrent
    · rw [hphase] at hcurrent
      cases hcurrent

variable (deps)

/-- No call of the provider `p` resolves to a token in what follows `before`. -/
def Undisturbed (p : Nat) (before after : List (Nat × RecoveryEvent)) : Prop :=
  ∀ pre e post, after = pre ++ e :: post → ∀ t op,
    .resolved e.1 (some t) ∈ (recovering deps).answer (before ++ pre) e →
    beganBy (shown deps (before ++ pre ++ [e])) e.1 ≠ some (p, op)

variable {deps}

/-- One stretch changes the token of a provider only if a call of the provider resolves in it. -/
private theorem token_of_other
    (hother : ∀ t op, .resolved c (some t) ∈ (recovering deps).answer es (c, event) →
      beganBy (shown deps (es ++ [(c, event)])) c ≠ some (p, op)) :
    ((recovering deps).run (es ++ [(c, event)])).token p = ((recovering deps).run es).token p := by
  obtain ⟨p', hlocal, hcurrent⟩ := recoveryStep_local deps ((recovering deps).run es) c event
  rw [Machine.run_concat]
  rcases hlocal.token with ⟨-, heq⟩ | ⟨t, hmem, heq⟩
  · exact congrFun heq p
  · obtain ⟨op, hop⟩ := hcurrent t hmem
    have hbegan := beganBy_of_resolved (sound_run deps es)
      (recoveryStep_steps deps ((recovering deps).run es) c event) rfl hmem hop
    have hne : p ≠ p' := by
      rintro rfl
      exact hother t op hmem hbegan
    exact (congrFun heq p).trans (Function.update_of_ne hne ..)

/-- A provider keeps its token for as long as no call of it resolves. -/
private theorem token_of_undisturbed {after : List (Nat × RecoveryEvent)}
    (h : Undisturbed deps p es after) :
    ((recovering deps).run (es ++ after)).token p = ((recovering deps).run es).token p := by
  induction after using List.reverseRecOn with
  | nil => rw [List.append_nil]
  | append_singleton after e ih =>
    have hbefore : Undisturbed deps p es after := by
      intro pre e' post hafter
      apply h pre e' (post ++ [e])
      rw [hafter, List.append_assoc]
      rfl
    rw [← ih hbefore, ← List.append_assoc]
    exact token_of_other (h after e [] rfl)

end Tokens

section Cache

/-- Without a positive time to live the exchange cache of a run stays empty. -/
private theorem get_of_zero_ttl (deps : RecoveryDeps) (es : List (Nat × RecoveryEvent))
    (hzero : deps.cfg.exchangeCacheTtlMs = 0) (helper : Helper) (key : CacheKey) (now : Int) :
    ((((recovering deps).run es).exchanges.cache helper).get key now).2 = none := by
  obtain ⟨hs, hrun⟩ := exchanges_run deps es
  cases hget : ((((recovering deps).run es).exchanges.cache helper).get key now).2 with
  | none => rfl
  | some value =>
    obtain ⟨entry, hentry, -⟩ := TokenExchangeCache.exists_entry_of_get hget
    rw [hrun] at hentry
    have hstored := ((Agents.sound_run _ hs).cache helper).of_get? hentry
    have hpos : 0 < deps.cfg.exchangeCacheTtlMs := hstored.1
    omega

end Cache

variable (deps)

/-- The call has asked the network for its server again and sent a request of its own for it, both
after it began, and ends with the answer: the exchange cache serves the new token, if it serves
any, and the provider holds it until another call of it resolves. -/
structure Reacquired (es : List (Nat × RecoveryEvent)) (c p : Nat) (op : ProviderOp)
    (d : McpAuthDiscovery) (params : ExchangeTokenParams) (result : ExchangeTokenResult)
    (now : Int) : Prop where
  rediscovered : Rediscovered deps es c p op d
  request : RequestFor deps p op d params
  order : [.began c p op, .discovered c d, .sent c params,
    .exchange c (.minted (deps.exchangeFor p op d) params result),
    .resolved c (some result.accessToken)] <+ shown deps es
  finished : ((recovering deps).run es).phase c = .finished
  cached : ((((recovering deps).run es).exchanges.cache .inspect).get (deps.cacheKey p d) now).2 =
    if deps.cfg.exchangeCacheTtlMs = 0 then none
    else some ⟨result.accessToken, result.expiresInSec, result.scope⟩
  held : ∀ after, Undisturbed deps p es after →
    ((recovering deps).run (es ++ after)).token p = some result.accessToken

variable {deps}

/-- A stretch in which a call gets its token is the end of a reacquisition. -/
private theorem reacquired_of_regains {op : ProviderOp} {d : McpAuthDiscovery}
    {params : ExchangeTokenParams} {result : ExchangeTokenResult} {now : Int}
    {obs : List (Observation CopilotRequest)} (hrediscovered : Rediscovered deps es c p op d)
    (hparams : RequestFor deps p op d params)
    (hshown : [.began c p op, .discovered c d, .sent c params] <+ shown deps es)
    (hcache : ((recovering deps).run (es ++ [(c, event)])).exchanges.cache = Function.update
      ((recovering deps).run es).exchanges.cache .inspect
      ((((recovering deps).run es).exchanges.cache .inspect).set (deps.cacheKey p d)
        ⟨result.accessToken, result.expiresInSec, result.scope⟩ deps.cfg.exchangeCacheTtlMs now))
    (hphase : ((recovering deps).run (es ++ [(c, event)])).phase c = .finished)
    (htoken : ((recovering deps).run (es ++ [(c, event)])).token p = some result.accessToken)
    (hanswer : (recovering deps).answer es (c, event) =
      .exchange c (.minted (deps.exchangeFor p op d) params result) :: obs.map (.exchange c) ++
        [.resolved c (some result.accessToken)]) :
    Reacquired deps (es ++ [(c, event)]) c p op d params result now where
  rediscovered := hrediscovered.concat
  request := hparams
  order := by
    rw [shown_concat, hanswer]
    apply hshown.append
    apply List.Sublist.cons_cons
    exact List.sublist_append_right ..
  finished := hphase
  cached := by
    split
    · next hzero => exact get_of_zero_ttl deps _ hzero ..
    · next hne =>
      rw [hcache, Function.update_self]
      exact TokenExchangeCache.get_set (Nat.cast_pos.mpr (Nat.pos_of_ne_zero hne)) rfl
  held after hundisturbed := by
    rw [token_of_undisturbed hundisturbed]
    exact htoken

/-- Whatever happens in the process meanwhile, a call that answers a 401 either throws at once and
does nothing else, where the 401 asks for a step-up; or throws what its own discovery or its own
exchange fails with, and the providers keep their tokens; or resolves to a token that it has
requested after the 401, for a server that it has discovered from the challenge after the 401. -/
theorem unauthorized_reacquires (deps : RecoveryDeps) (es : List (Nat × RecoveryEvent)) (c p : Nat)
    (challenge : Challenge) (event : RecoveryEvent)
    (hbegan : beganBy (shown deps (es ++ [(c, event)])) c = some (p, .onUnauthorized challenge)) :
    (AsksForStepUp challenge →
      ((recovering deps).run (es ++ [(c, event)])).phase c = .finished ∧
      shownBy (shown deps (es ++ [(c, event)])) c =
        [.began c p (.onUnauthorized challenge), .thrown c (stepUpRequired challenge)] ∧
      (beganBy (shown deps es) c = none → (recovering deps).run (es ++ [(c, event)]) =
        ((recovering deps).run es).goto c .finished)) ∧
    (¬ AsksForStepUp challenge →
      (∀ token, .resolved c token ∈ (recovering deps).answer es (c, event) →
        ∃ d params result now, event = .exchanged (.ok result) now ∧
          token = some result.accessToken ∧
          Reacquired deps (es ++ [(c, event)]) c p (.onUnauthorized challenge) d params result
            now) ∧
      ∀ e, .thrown c e ∈ (recovering deps).answer es (c, event) →
        Fails deps es c p (.onUnauthorized challenge) event e ∧
        ((recovering deps).run (es ++ [(c, event)])).token = ((recovering deps).run es).token) ∧
    ((∀ t, .resolved c (some t) ∉ (recovering deps).answer es (c, event)) →
      ((recovering deps).run (es ++ [(c, event)])).token = ((recovering deps).run es).token) := by
  have hsteps := recoveryStep_steps deps ((recovering deps).run es) c event
  refine ⟨fun hasks ↦ ?_, fun hasks ↦ ?_, fun hnone ↦ ?_⟩
  · obtain ⟨hfinished, hshown⟩ :=
      (sound_run deps (es ++ [(c, event)])).stepUp c p challenge hbegan hasks
    refine ⟨hfinished, hshown, fun hnone ↦ ?_⟩
    rw [Machine.run_concat]
    exact (stepUp_of_began ((sound_run deps es).standing c) hsteps rfl hnone hbegan hasks).1
  · have hrecovers := recovers_of_steps (sound_run deps es) hsteps rfl hbegan hasks
    have hanswer : (recovering deps).answer es (c, event) =
      (recoveryStep deps ((recovering deps).run es) c event).2 := rfl
    have hrun : (recovering deps).run (es ++ [(c, event)]) =
      (recoveryStep deps ((recovering deps).run es) c event).1 := Machine.run_concat ..
    generalize recoveryStep deps ((recovering deps).run es) c event = out at *
    cases hrecovers with
    | goesOn hgoesOn =>
      rw [hanswer]
      exact ⟨fun token h ↦ absurd h (hgoesOn.1 token), fun e h ↦ absurd h (hgoesOn.2 e)⟩
    | fails _ htoken hfails =>
      rw [hanswer, hrun]
      constructor
      · intro token h
        simp at h
      · intro e h
        simp only [List.mem_append, List.mem_map, reduceCtorEq, and_false, exists_false,
          List.mem_singleton, RecoveryObservation.thrown.injEq, true_and, false_or] at h
        subst h
        exact ⟨hfails, htoken⟩
    | @regains d params result now exchanges obs hrediscovered hparams hshown hcache =>
      constructor
      · intro token h
        rw [hanswer] at h
        have htoken : token = some result.accessToken := by simpa using h
        refine ⟨d, params, result, now, rfl, htoken, ?_⟩
        apply reacquired_of_regains hrediscovered hparams hshown _ _ _ hanswer
        · rw [hrun]
          exact hcache
        · rw [hrun, RecoveryState.goto_phase_self]
        · rw [hrun]
          exact Function.update_self ..
      · intro e h
        rw [hanswer] at h
        simp at h
  · obtain ⟨p', hlocal, -⟩ := recoveryStep_local deps ((recovering deps).run es) c event
    rw [Machine.run_concat]
    rcases hlocal.token with ⟨-, heq⟩ | ⟨t, hmem, -⟩
    · exact heq
    · exact absurd hmem (hnone t)

section Sample

private def sampleRecovery : RecoveryDeps where
  sdk :=
    { parseUrl := fun _ ↦ .error "Invalid URL"
      assertSecureTokenEndpoint := .ok }
  cfg := { sampleConfig with mcpInspectUrl := "http://mcp", curityIssuer := "https://curity" }
  decodeJwt := fun _ ↦ none
  mcpDiscoveryTtlMs := none
  optsOf := fun _ ↦ ⟨"bearer", "alice", "mfa", none⟩

/-- The 401 of a token that has been revoked. -/
private def revoked : Challenge :=
  ⟨some ⟨"https:", "https://mcp", "/prm", "https://prm"⟩, some "inspect:read",
    some "invalid_token", "Bearer"⟩

private def sampleMetadata : Json :=
  .obj [("issuer", .str "https://curity"), ("token_endpoint", .str "https://curity/token"),
    ("client_id_metadata_document_supported", .bool true)]

private def sampleNet : Network where
  probe := fun _ ↦ .error "down"
  get := fun _ ↦
    .ok (200, .ok (.obj [("resource", .str "http://mcp"),
      ("authorization_servers", .arr [.str "https://curity"])]))
  discoverMetadata := fun _ ↦ .ok (some sampleMetadata)

private def sampleClock : Clock := ⟨1000, 1000, 1000, 1000⟩

private def prepared : Preparation := ⟨some "svid", .ok "kid", .ok "unused"⟩

private def minted (token : String) : ExchangeTokenResult :=
  ⟨token, "DPoP", 300, "inspect:read", "urn:ietf:params:oauth:token-type:access_token"⟩

/-- Another call fills the cache again under the key of the call that answers the 401. -/
private def refilledRun : List (Nat × RecoveryEvent) :=
  [(0, .start 0 (.onUnauthorized revoked) sampleClock 1000),
    (0, .located sampleNet sampleClock 1000),
    (0, .resolved sampleNet.discoverMetadata sampleClock 1000),
    (1, .helper (.start (.inspect (sampleRecovery.optsOf 0) "https://curity/token" "inspect:read"
      false) 1000)),
    (1, .helper (.prepared prepared)),
    (0, .prepared prepared),
    (1, .helper (.exchanged (.ok (minted "other")) 1001))]

/-- The provider ends with the token of its own request, and so does the cache. -/
theorem unauthorized_reacquires_sample :
    ((recovering sampleRecovery).run
      (refilledRun ++ [(0, .exchanged (.ok (minted "fresh")) 1002)])).token 0 = some "fresh" := by
  have hbegan : beganBy (shown sampleRecovery
      (refilledRun ++ [(0, .exchanged (.ok (minted "fresh")) 1002)])) 0 =
      some (0, .onUnauthorized revoked) := by
    rfl
  have hasks : ¬ AsksForStepUp revoked := by decide
  obtain ⟨-, h, -⟩ := unauthorized_reacquires sampleRecovery refilledRun 0 0 revoked
    (.exchanged (.ok (minted "fresh")) 1002) hbegan
  have hmem : .resolved 0 (some "fresh") ∈ (recovering sampleRecovery).answer refilledRun
      (0, .exchanged (.ok (minted "fresh")) 1002) := by
    have hanswer : ∃ obs, (recovering sampleRecovery).answer refilledRun
        (0, .exchanged (.ok (minted "fresh")) 1002) = obs ++ [.resolved 0 (some "fresh")] :=
      ⟨_, rfl⟩
    obtain ⟨obs, hanswer⟩ := hanswer
    rw [hanswer]
    exact List.mem_append_right _ (List.mem_singleton_self _)
  obtain ⟨d, params, result, now, -, htoken, hreacquired⟩ := (h hasks).1 _ hmem
  rw [htoken]
  have hheld := hreacquired.held [] (fun pre e post hnil ↦ by simp at hnil)
  rw [List.append_nil] at hheld
  exact hheld

end Sample

end AgentsAuth.Copilot.Recovery
