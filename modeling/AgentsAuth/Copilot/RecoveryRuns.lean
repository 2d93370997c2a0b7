import AgentsAuth.Copilot.Recovery

/-!
# Recovery from a 401 in every interleaving

What a call that answers a 401 has done when it ends, whatever the other calls of the process do
meanwhile: the order of its own observations in the history of the run is the argument.
-/

namespace AgentsAuth.Copilot.Recovery

open AgentsAuth.Agents AgentsAuth.AuthCurity AgentsAuth.Base AgentsAuth.Lib AgentsAuth.Runtime
open scoped List

variable (deps : RecoveryDeps)

/-- Everything that a run does, oldest first. -/
def shown (es : List (Nat × RecoveryEvent)) : List RecoveryObservation :=
  ((recovering deps).transcript es).flatMap Prod.snd

/-- The provider and the entry point that a call began with. -/
def beganBy (obs : List RecoveryObservation) (c : Nat) : Option (Nat × ProviderOp) :=
  obs.findSome? fun
    | .began c' p op => if c' = c then some (p, op) else none
    | _ => none

/-- What a call does, oldest first. -/
def shownBy (obs : List RecoveryObservation) (c : Nat) : List RecoveryObservation :=
  obs.filter fun o ↦ o.call = c

/-- The call has begun, and has read the metadata document from the network after that. -/
def LocatedBy (es : List (Nat × RecoveryEvent)) (c p : Nat) (op : ProviderOp) (net : Network) :
    Prop :=
  ∃ startClock startNow clock now,
    [(c, .start p op startClock startNow), (c, .located net clock now)] <+ es

/-- The call has begun, and has discovered its server after that, from what the network answered and
from nothing that was cached. -/
def Rediscovered (es : List (Nat × RecoveryEvent)) (c p : Nat) (op : ProviderOp)
    (d : McpAuthDiscovery) : Prop :=
  ∃ startClock startNow net locatedClock locatedNow fetch clock now,
    [(c, .start p op startClock startNow), (c, .located net locatedClock locatedNow),
      (c, .resolved fetch clock now)] <+ es ∧
    ∀ caches, (discoverMcpAuthorization deps.sdk { net with discoverMetadata := fetch } clock caches
      (deps.discovery op)).2 = .ok d

/-- The request `params` is the one that the call of the exchange helper sends for `d`. -/
def RequestFor (p : Nat) (op : ProviderOp) (d : McpAuthDiscovery) (params : ExchangeTokenParams) :
    Prop :=
  ∃ preparation, ((copilot deps.cfg deps.decodeJwt).callOf
    (deps.exchangeFor p op d)).exchangeParams preparation = .ok params

/-- How far the exchange of a call for `d` has come. -/
inductive Exchanging (es : List (Nat × RecoveryEvent)) (c p : Nat) (op : ProviderOp)
    (d : McpAuthDiscovery) : Phase CopilotRequest → Prop
  | preparing (hshown : [.began c p op, .discovered c d] <+ shown deps es) :
    Exchanging es c p op d (.preparing (deps.exchangeFor p op d))
  | exchanging {params : ExchangeTokenParams} (hparams : RequestFor deps p op d params)
    (hshown : [.began c p op, .discovered c d, .sent c params] <+ shown deps es) :
    Exchanging es c p op d (.exchanging (deps.exchangeFor p op d) params)

/-- The call began so, and not to answer a 401 that asks for a step-up. -/
structure Began (es : List (Nat × RecoveryEvent)) (c p : Nat) (op : ProviderOp) : Prop where
  began : beganBy (shown deps es) c = some (p, op)
  admitted : Admitted op
  started : ∃ clock now, (c, .start p op clock now) ∈ es

/-- What a call has established when it stands somewhere; `helper` is where its exchange stands. -/
def Standing (es : List (Nat × RecoveryEvent)) (c : Nat) (helper : Phase CopilotRequest) :
    CallPhase → Prop
  | .idle => shownBy (shown deps es) c = [] ∧ helper = .notStarted
  | .locating p op => Began deps es c p op ∧ helper = .notStarted
  | .resolving p op loc =>
    Began deps es c p op ∧ helper = .notStarted ∧ (forced op = true → ∃ net,
      LocatedBy es c p op net ∧ locate deps.sdk net (deps.discovery op) = .ok loc ∧
      isHttps (normalizeUrl loc.authorizationServer) = true)
  | .exchanging p op =>
    Began deps es c p op ∧
      (forced op = true → ∃ d, Rediscovered deps es c p op d ∧ Exchanging deps es c p op d helper)
  | .helper => beganBy (shown deps es) c = none
  | .finished => True

/-- The invariant of the process, relative to its history. -/
structure Sound (es : List (Nat × RecoveryEvent)) (s : RecoveryState) : Prop where
  standing : ∀ c, Standing deps es c (s.exchanges.phase c) (s.phase c)
  stepUp : ∀ c p challenge, beganBy (shown deps es) c = some (p, .onUnauthorized challenge) →
    AsksForStepUp challenge → s.phase c = .finished ∧
      shownBy (shown deps es) c =
        [.began c p (.onUnauthorized challenge), .thrown c (stepUpRequired challenge)]

variable {deps} {es : List (Nat × RecoveryEvent)} {e : Nat × RecoveryEvent} {c p : Nat}
  {op : ProviderOp} {obs : List RecoveryObservation}

section Observations

private theorem beganBy_append (obs more : List RecoveryObservation) (c : Nat) :
    beganBy (obs ++ more) c = (beganBy obs c).or (beganBy more c) :=
  List.findSome?_append

/-- What a call did together is what it did in turn. -/
theorem shownBy_append (obs more : List RecoveryObservation) (c : Nat) :
    shownBy (obs ++ more) c = shownBy obs c ++ shownBy more c :=
  List.filter_append ..

/-- A call that is not seen did nothing. -/
theorem shownBy_eq_nil_iff : shownBy obs c = [] ↔ ∀ o ∈ obs, o.call ≠ c := by
  simp [shownBy, List.filter_eq_nil_iff]

/-- A call is seen to begin if it is known how it began. -/
theorem mem_of_beganBy (h : beganBy obs c = some (p, op)) : .began c p op ∈ obs := by
  obtain ⟨o, ho, hsome⟩ := List.exists_of_findSome?_eq_some h
  cases o with
  | began c' p' op' =>
    simp only at hsome
    split at hsome
    · next hc =>
      cases hsome
      exact hc ▸ ho
    · cases hsome
  | _ => cases hsome

private theorem beganBy_eq_none (h : ∀ p op, .began c p op ∉ obs) : beganBy obs c = none := by
  cases hbegan : beganBy obs c with
  | none => rfl
  | some began => exact absurd (mem_of_beganBy hbegan) (h began.1 began.2)

private theorem beganBy_cons (obs : List RecoveryObservation) :
    beganBy (.began c p op :: obs) c = some (p, op) := by
  rw [beganBy, List.findSome?_cons]
  simp only [if_true]

private theorem beganBy_of_shownBy (h : shownBy obs c = []) : beganBy obs c = none := by
  apply beganBy_eq_none
  intro p op hmem
  exact shownBy_eq_nil_iff.mp h _ hmem rfl

end Observations

section History

/-- One more event shows what it answers. -/
theorem shown_concat :
    shown deps (es ++ [e]) = shown deps es ++ (recovering deps).answer es e := by
  rw [shown, Machine.transcript_concat, List.flatMap_append]
  simp [shown]

private theorem sublist_concat (h : obs <+ shown deps es) : obs <+ shown deps (es ++ [e]) := by
  rw [shown_concat]
  exact h.trans (List.sublist_append_left ..)

/-- What a call has done grows by what a stretch of it does. -/
theorem sublist_concat_of_mem {o : RecoveryObservation} (h : obs <+ shown deps es)
    (ho : o ∈ (recovering deps).answer es e) : obs ++ [o] <+ shown deps (es ++ [e]) := by
  rw [shown_concat]
  exact h.append (List.singleton_sublist.mpr ho)

/-- What began a call stays what began it. -/
theorem beganBy_concat (h : beganBy (shown deps es) c = some (p, op)) :
    beganBy (shown deps (es ++ [e])) c = some (p, op) := by
  rw [shown_concat, beganBy_append, h]
  rfl

/-- A stretch of another call begins nothing and adds nothing for this one. -/
theorem unchanged_of_ne (hne : e.1 ≠ c) :
    beganBy (shown deps (es ++ [e])) c = beganBy (shown deps es) c ∧
      shownBy (shown deps (es ++ [e])) c = shownBy (shown deps es) c := by
  obtain ⟨p, hlocal, -⟩ := recoveryStep_local deps ((recovering deps).run es) e.1 e.2
  have hnil : shownBy ((recovering deps).answer es e) c = [] := by
    apply shownBy_eq_nil_iff.mpr
    intro o ho
    rw [hlocal.call o ho]
    exact hne
  rw [shown_concat, beganBy_append, shownBy_append, beganBy_of_shownBy hnil, hnil, Option.or_none,
    List.append_nil]
  exact ⟨rfl, rfl⟩

private theorem unchanged_of_nil (hnil : (recovering deps).answer es e = []) :
    beganBy (shown deps (es ++ [e])) c = beganBy (shown deps es) c ∧
      shownBy (shown deps (es ++ [e])) c = shownBy (shown deps es) c := by
  rw [shown_concat, hnil, List.append_nil]
  exact ⟨rfl, rfl⟩

private theorem LocatedBy.concat {net : Network} (h : LocatedBy es c p op net) :
    LocatedBy (es ++ [e]) c p op net := by
  obtain ⟨startClock, startNow, clock, now, hes⟩ := h
  exact ⟨startClock, startNow, clock, now, hes.trans (List.sublist_append_left ..)⟩

/-- What a call has discovered stays discovered. -/
theorem Rediscovered.concat {d : McpAuthDiscovery} (h : Rediscovered deps es c p op d) :
    Rediscovered deps (es ++ [e]) c p op d := by
  obtain ⟨startClock, startNow, net, locatedClock, locatedNow, fetch, clock, now, hes, hd⟩ := h
  exact ⟨startClock, startNow, net, locatedClock, locatedNow, fetch, clock, now,
    hes.trans (List.sublist_append_left ..), hd⟩

private theorem Exchanging.concat {d : McpAuthDiscovery} {phase : Phase CopilotRequest}
    (h : Exchanging deps es c p op d phase) : Exchanging deps (es ++ [e]) c p op d phase := by
  cases h with
  | preparing hshown => exact .preparing (sublist_concat hshown)
  | exchanging hparams hshown => exact .exchanging hparams (sublist_concat hshown)

private theorem Began.concat (h : Began deps es c p op) : Began deps (es ++ [e]) c p op where
  began := beganBy_concat h.began
  admitted := h.admitted
  started := by
    obtain ⟨clock, now, hmem⟩ := h.started
    exact ⟨clock, now, List.mem_append_left _ hmem⟩

/-- A call that did nothing in a stretch stands where it did. -/
private theorem Standing.concat {phase : CallPhase} {helper : Phase CopilotRequest}
    (hunchanged : beganBy (shown deps (es ++ [e])) c = beganBy (shown deps es) c ∧
      shownBy (shown deps (es ++ [e])) c = shownBy (shown deps es) c)
    (h : Standing deps es c helper phase) : Standing deps (es ++ [e]) c helper phase := by
  cases phase with
  | idle => exact ⟨hunchanged.2.trans h.1, h.2⟩
  | locating p op => exact ⟨h.1.concat, h.2⟩
  | resolving p op loc =>
    obtain ⟨hbegan, hhelper, hlocated⟩ := h
    refine ⟨hbegan.concat, hhelper, fun hforced ↦ ?_⟩
    obtain ⟨net, hnet, hloc⟩ := hlocated hforced
    exact ⟨net, hnet.concat, hloc⟩
  | exchanging p op =>
    obtain ⟨hbegan, hexchanging⟩ := h
    refine ⟨hbegan.concat, fun hforced ↦ ?_⟩
    obtain ⟨d, hrediscovered, hphase⟩ := hexchanging hforced
    exact ⟨d, hrediscovered.concat, hphase.concat⟩
  | helper => exact hunchanged.1.trans h
  | finished => trivial

/-- A call that need not discover its server again has nothing to establish once it exchanges. -/
private theorem Standing.of_unforced {phase : CallPhase} {helper : Phase CopilotRequest}
    (hbegan : Began deps es c p op) (hforced : ¬ forced op = true)
    (hphase : phase = .exchanging p op ∨ phase = .finished) :
    Standing deps es c helper phase := by
  rcases hphase with rfl | rfl
  · exact ⟨hbegan, fun h ↦ absurd h hforced⟩
  · trivial

end History

section Step

variable {s : RecoveryState} {event : RecoveryEvent}
  {out : RecoveryState × List RecoveryObservation}

private theorem shown_of_answer (hanswer : (recovering deps).answer es e = out.2) :
    shown deps (es ++ [e]) = shown deps es ++ out.2 := by
  rw [shown_concat, hanswer]

/-- A call that starts is known to begin so. -/
theorem beganBy_start {clock : Clock} {now : Int} {done : List RecoveryObservation}
    (hidle : shownBy (shown deps es) c = [])
    (hanswer : (recovering deps).answer es (c, .start p op clock now) = .began c p op :: done) :
    beganBy (shown deps (es ++ [(c, .start p op clock now)])) c = some (p, op) := by
  rw [shown_concat, hanswer, beganBy_append, beganBy_of_shownBy hidle, beganBy_cons]
  rfl

/-- A forced call that prepares its exchange sends the request for what it has discovered. -/
private theorem Standing.prepared {d : McpAuthDiscovery} {preparation : Preparation}
    {s' : RecoveryState} {done : List RecoveryObservation}
    (hbegan : Began deps es c p op) (hrediscovered : Rediscovered deps es c p op d)
    (hexchanging : Exchanging deps es c p op d (s.exchanges.phase c))
    (hsettle : settle s c p op (helperStep deps s c (.prepared preparation)) = (s', done))
    (hanswer : (recovering deps).answer es (c, .prepared preparation) = done ++ sentBy s s' c) :
    Standing deps (es ++ [(c, RecoveryEvent.prepared preparation)]) c (s'.exchanges.phase c)
      (s'.phase c) := by
  generalize hhelper : s.exchanges.phase c = helper at hexchanging
  cases hexchanging with
  | preparing hshown =>
    rw [settle_prepared hhelper] at hsettle
    cases hparams : ((copilot deps.cfg deps.decodeJwt).callOf
        (deps.exchangeFor p op d)).exchangeParams preparation with
    | error e =>
      rw [hparams] at hsettle
      cases hsettle
      rw [RecoveryState.goto_phase_self]
      trivial
    | ok params =>
      rw [hparams] at hsettle
      cases hsettle
      rw [RecoveryState.goto_phase_self]
      refine ⟨hbegan.concat, fun _ ↦ ⟨d, hrediscovered.concat, ?_⟩⟩
      have hsent : .sent c params ∈ (recovering deps).answer es (c, .prepared preparation) := by
        rw [hanswer]
        simp [sentBy, hhelper, RecoveryState.goto]
      simp only [RecoveryState.goto, ObtainState.goto_phase_self]
      exact .exchanging ⟨preparation, hparams⟩ (sublist_concat_of_mem hshown hsent)
  | @exchanging params hparams hshown =>
    rw [settle_prepared_again hhelper] at hsettle
    cases hsettle
    rw [RecoveryState.goto_phase_self]
    refine ⟨hbegan.concat, fun _ ↦ ⟨d, hrediscovered.concat, ?_⟩⟩
    simp only [RecoveryState.goto, hhelper]
    exact .exchanging hparams (sublist_concat hshown)

/-- A forced call whose exchange is answered ends, unless it has not sent its request. -/
private theorem Standing.exchanged {d : McpAuthDiscovery}
    {answer : Except Thrown ExchangeTokenResult} {now : Int}
    (hbegan : Began deps es c p op) (hrediscovered : Rediscovered deps es c p op d)
    (hexchanging : Exchanging deps es c p op d (s.exchanges.phase c)) :
    Standing deps (es ++ [(c, RecoveryEvent.exchanged answer now)]) c
      ((settle s c p op (helperStep deps s c (.exchanged answer now))).1.exchanges.phase c)
      ((settle s c p op (helperStep deps s c (.exchanged answer now))).1.phase c) := by
  generalize hhelper : s.exchanges.phase c = helper at hexchanging
  cases hexchanging with
  | preparing hshown =>
    rw [settle_exchanged_early hhelper, RecoveryState.goto_phase_self]
    refine ⟨hbegan.concat, fun _ ↦ ⟨d, hrediscovered.concat, ?_⟩⟩
    simp only [RecoveryState.goto, hhelper]
    exact .preparing (sublist_concat hshown)
  | @exchanging params hparams hshown =>
    cases answer with
    | error e =>
      rw [settle_refused hhelper, RecoveryState.goto_phase_self]
      trivial
    | ok result =>
      obtain ⟨exchanges, obs, -, hsettle⟩ := settle_exchanged (s := s) (c := c)
        (p := p) hhelper
      rw [hsettle, RecoveryState.goto_phase_self]
      trivial

/-- A forced call that has read the metadata of its server has discovered it again, or ends. -/
private theorem Standing.resolved {net : Network} {loc : Located}
    {fetch : String → Except String (Option Json)} {clock : Clock} {now : Int}
    (hbegan : Began deps es c p op) (hforced : forced op = true)
    (hhelper : s.exchanges.phase c = .notStarted) (hlocated : LocatedBy es c p op net)
    (hlocate : locate deps.sdk net (deps.discovery op) = .ok loc)
    (hhttps : isHttps (normalizeUrl loc.authorizationServer) = true)
    (hanswer : (recovering deps).answer es (c, .resolved fetch clock now) =
      (resolved deps s c p op loc fetch clock now).2) :
    Standing deps (es ++ [(c, RecoveryEvent.resolved fetch clock now)]) c
      ((resolved deps s c p op loc fetch clock now).1.exchanges.phase c)
      ((resolved deps s c p op loc fetch clock now).1.phase c) := by
  rcases resolved_of_forced hforced hhelper hlocate hhttps fetch clock now with
    ⟨caches, e, -, hthrown⟩ | ⟨caches, exchanges, discovery, d, hpreparing, hdiscover, hexchange⟩
  · rw [hthrown, RecoveryState.goto_phase_self]
    trivial
  · rw [hexchange] at hanswer ⊢
    rw [RecoveryState.goto_phase_self]
    refine ⟨hbegan.concat, fun _ ↦ ⟨d, ?_, ?_⟩⟩
    · obtain ⟨startClock, startNow, locatedClock, locatedNow, hes⟩ := hlocated
      exact ⟨startClock, startNow, net, locatedClock, locatedNow, fetch, clock, now,
        hes.append (List.Sublist.refl _), hdiscover⟩
    · simp only [RecoveryState.goto, hpreparing]
      have hstarted : [.began c p op] <+ shown deps es :=
        List.singleton_sublist.mpr (mem_of_beganBy hbegan.began)
      have hdiscovered : .discovered c d ∈
          (recovering deps).answer es (c, .resolved fetch clock now) := by
        rw [hanswer]
        exact List.mem_singleton_self _
      exact .preparing (sublist_concat_of_mem hstarted hdiscovered)

/-- A stretch of a call leaves it standing somewhere. -/
private theorem Standing.step (h : Standing deps es c (s.exchanges.phase c) (s.phase c))
    (hsteps : Steps deps s c event out)
    (hanswer : (recovering deps).answer es (c, event) = out.2) :
    Standing deps (es ++ [(c, event)]) c (out.1.exchanges.phase c) (out.1.phase c) := by
  cases hsteps with
  | silent hphase hexchanges htoken =>
    rw [hphase, hexchanges]
    exact h.concat (unchanged_of_nil hanswer)
  | stepUp hphase hasks =>
    rw [RecoveryState.goto_phase_self]
    trivial
  | @start p op clock now hphase hadmitted =>
    rw [hphase] at h
    have hbegan : Began deps (es ++ [(c, .start p op clock now)]) c p op :=
      ⟨beganBy_start h.1 hanswer, hadmitted, clock, now,
        List.mem_append_right _ (List.mem_singleton_self _)⟩
    by_cases hforced : forced op = true
    · rw [start_of_forced hforced, RecoveryState.goto_phase_self]
      exact ⟨hbegan, h.2⟩
    · rcases start_phase (s := s) (c := c) (p := p) clock now with
        hstart | hphase
      · rw [hstart, RecoveryState.goto_phase_self]
        exact ⟨hbegan, h.2⟩
      · exact Standing.of_unforced hbegan hforced hphase
  | @located p op net clock now hphase =>
    rw [hphase] at h
    obtain ⟨hbegan, hhelper⟩ := h
    by_cases hforced : forced op = true
    · rcases located_of_forced (s := s) (c := c) (p := p) hforced net clock now with
        ⟨e, -, hthrown⟩ | ⟨loc, hlocate, hhttps, hlocated⟩
      · rw [hthrown, RecoveryState.goto_phase_self]
        trivial
      · rw [hlocated, RecoveryState.goto_phase_self]
        obtain ⟨startClock, startNow, hstarted⟩ := hbegan.started
        exact ⟨hbegan.concat, hhelper, fun _ ↦ ⟨net, ⟨startClock, startNow, clock, now,
          (List.singleton_sublist.mpr hstarted).append (List.Sublist.refl _)⟩, hlocate, hhttps⟩⟩
    · rcases located_phase (s := s) (c := c) (p := p) net clock now with
        ⟨loc, hlocated⟩ | hphase
      · rw [hlocated, RecoveryState.goto_phase_self]
        exact ⟨hbegan.concat, hhelper, fun h ↦ absurd h hforced⟩
      · exact Standing.of_unforced hbegan.concat hforced hphase
  | @resolved p op loc fetch clock now hphase =>
    rw [hphase] at h
    obtain ⟨hbegan, hhelper, hlocated⟩ := h
    by_cases hforced : forced op = true
    · obtain ⟨net, hnet, hlocate, hhttps⟩ := hlocated hforced
      exact Standing.resolved hbegan hforced hhelper hnet hlocate hhttps hanswer
    · exact Standing.of_unforced hbegan.concat hforced (resolved_phase ..)
  | @prepared p op preparation s' done hphase hsettle =>
    rw [hphase] at h
    obtain ⟨hbegan, hexchanging⟩ := h
    by_cases hforced : forced op = true
    · obtain ⟨d, hrediscovered, hphase⟩ := hexchanging hforced
      exact Standing.prepared hbegan hrediscovered hphase hsettle hanswer
    · apply Standing.of_unforced hbegan.concat hforced
      have hended := @settle_phase s c p op (helperStep deps s c (.prepared preparation))
      rw [hsettle] at hended
      exact hended
  | @exchanged p op answer now hphase =>
    rw [hphase] at h
    obtain ⟨hbegan, hexchanging⟩ := h
    by_cases hforced : forced op = true
    · obtain ⟨d, hrediscovered, hphase⟩ := hexchanging hforced
      exact Standing.exchanged hbegan hrediscovered hphase
    · exact Standing.of_unforced hbegan.concat hforced (settle_phase _)
  | @helper event hphase =>
    have hnone : beganBy (shown deps es) c = none := by
      rcases hphase with hphase | hphase
      · rw [hphase] at h
        exact beganBy_of_shownBy h.1
      · rw [hphase] at h
        exact h
    have hmore : beganBy ((recovering deps).answer es (c, .helper event)) c = none := by
      apply beganBy_eq_none
      intro p op hmem
      rw [hanswer] at hmem
      obtain ⟨o, -, ho⟩ := List.mem_map.mp hmem
      cases ho
    change Standing deps _ c _ (Function.update s.phase c CallPhase.helper c)
    rw [Function.update_self, Standing, shown_concat, beganBy_append, hnone, hmore]
    rfl

private theorem Steps.of_finished (hphase : s.phase c = .finished)
    (hsteps : Steps deps s c event out) : out.2 = [] ∧ out.1.phase = s.phase := by
  cases hsteps with
  | silent hsame _ _ => exact ⟨rfl, hsame⟩
  | stepUp h _ => rw [h] at hphase; cases hphase
  | start h _ => rw [h] at hphase; cases hphase
  | located h => rw [h] at hphase; cases hphase
  | resolved h => rw [h] at hphase; cases hphase
  | prepared h _ => rw [h] at hphase; cases hphase
  | exchanged h => rw [h] at hphase; cases hphase
  | helper h => rcases h with h | h <;> (rw [h] at hphase; cases hphase)

/-- A call that begins in a stretch, to answer a 401 that asks for a step-up, does nothing in it but
throw. -/
theorem stepUp_of_began {challenge : Challenge}
    (h : Standing deps es c (s.exchanges.phase c) (s.phase c)) (hsteps : Steps deps s c event out)
    (hanswer : (recovering deps).answer es (c, event) = out.2)
    (hnone : beganBy (shown deps es) c = none)
    (hbegan : beganBy (shown deps (es ++ [(c, event)])) c = some (p, .onUnauthorized challenge))
    (hasks : AsksForStepUp challenge) :
    out.1 = s.goto c .finished ∧ shownBy (shown deps (es ++ [(c, event)])) c =
      [.began c p (.onUnauthorized challenge), .thrown c (stepUpRequired challenge)] := by
  have hafter := h.step hsteps hanswer
  cases hsteps with
  | silent _ _ _ =>
    rw [(unchanged_of_nil hanswer).1, hnone] at hbegan
    cases hbegan
  | @stepUp p' challenge' clock now hphase _ =>
    rw [hphase] at h
    rw [beganBy_start h.1 hanswer] at hbegan
    cases hbegan
    refine ⟨rfl, ?_⟩
    rw [shown_of_answer hanswer, shownBy_append, h.1]
    simp [shownBy, RecoveryObservation.call]
  | @start p' op clock now hphase hadmitted =>
    rw [hphase] at h
    rw [beganBy_start h.1 hanswer] at hbegan
    cases hbegan
    exact absurd hasks (hadmitted challenge rfl)
  | located hphase =>
    rw [hphase] at h
    rw [h.1.began] at hnone
    cases hnone
  | resolved hphase =>
    rw [hphase] at h
    rw [h.1.began] at hnone
    cases hnone
  | prepared hphase _ =>
    rw [hphase] at h
    rw [h.1.began] at hnone
    cases hnone
  | exchanged hphase =>
    rw [hphase] at h
    rw [h.1.began] at hnone
    cases hnone
  | helper _ =>
    change Standing deps _ c _ (Function.update s.phase c CallPhase.helper c) at hafter
    rw [Function.update_self] at hafter
    rw [show beganBy _ c = none from hafter] at hbegan
    cases hbegan

end Step

private theorem Sound.step (h : Sound deps es ((recovering deps).run es))
    (e : Nat × RecoveryEvent) :
    Sound deps (es ++ [e]) ((recovering deps).run (es ++ [e])) := by
  obtain ⟨p', hlocal, -⟩ := recoveryStep_local deps ((recovering deps).run es) e.1 e.2
  have hsteps := recoveryStep_steps deps ((recovering deps).run es) e.1 e.2
  have hanswer : (recovering deps).answer es (e.1, e.2) =
    (recoveryStep deps ((recovering deps).run es) e.1 e.2).2 := rfl
  rw [Machine.run_concat]
  change Sound deps (es ++ [e]) (recoveryStep deps ((recovering deps).run es) e.1 e.2).1
  generalize recoveryStep deps ((recovering deps).run es) e.1 e.2 = out at *
  constructor
  · intro c
    by_cases hc : e.1 = c
    · subst hc
      exact (h.standing e.1).step hsteps hanswer
    · rw [hlocal.phase c (Ne.symm hc), hlocal.helper (Ne.symm hc)]
      exact (h.standing c).concat (unchanged_of_ne hc)
  · intro c p challenge hbegan hasks
    by_cases hc : e.1 = c
    · subst hc
      cases hbefore : beganBy (shown deps es) e.1 with
      | none =>
        obtain ⟨hout, hshown⟩ :=
          stepUp_of_began (h.standing e.1) hsteps hanswer hbefore hbegan hasks
        rw [hout, RecoveryState.goto_phase_self]
        exact ⟨rfl, hshown⟩
      | some began =>
        obtain ⟨p', op⟩ := began
        rw [beganBy_concat hbefore] at hbegan
        cases hbegan
        obtain ⟨hfinished, hshown⟩ := h.stepUp e.1 p challenge hbefore hasks
        obtain ⟨hnil, hphase⟩ := Steps.of_finished hfinished hsteps
        rw [hphase, (unchanged_of_nil (hanswer.trans hnil)).2]
        exact ⟨hfinished, hshown⟩
    · obtain ⟨hsame, hsameShown⟩ := unchanged_of_ne hc
      rw [hsame] at hbegan
      rw [hlocal.phase c (Ne.symm hc), hsameShown]
      exact h.stepUp c p challenge hbegan hasks

/-- The exchanges of the process are a run of its exchange helpers. -/
theorem exchanges_run (deps : RecoveryDeps) (es : List (Nat × RecoveryEvent)) :
    ∃ hs, ((recovering deps).run es).exchanges =
      (obtaining (copilot deps.cfg deps.decodeJwt)).run hs := by
  induction es using List.reverseRecOn with
  | nil => exact ⟨[], rfl⟩
  | append_singleton es e ih =>
    obtain ⟨hs, hrun⟩ := ih
    obtain ⟨p, hlocal, -⟩ := recoveryStep_local deps ((recovering deps).run es) e.1 e.2
    rw [Machine.run_concat]
    rcases hlocal.exchanges with heq | ⟨event, heq⟩
    · exact ⟨hs, heq.trans hrun⟩
    · refine ⟨hs ++ [(e.1, event)], heq.trans ?_⟩
      rw [Machine.run_concat, helperStep, hrun]
      rfl

/-- The invariant holds throughout every run. -/
theorem sound_run (deps : RecoveryDeps) (es : List (Nat × RecoveryEvent)) :
    Sound deps es ((recovering deps).run es) := by
  apply (recovering deps).run_induction
  · constructor
    · intro c
      exact ⟨rfl, rfl⟩
    · intro c p challenge hbegan
      cases hbegan
  · intro es e h
    rw [← Machine.run_concat]
    exact h.step e

end AgentsAuth.Copilot.Recovery
