import AgentsAuth.Shim.ExchangeHandler

/-!
# The allow-list of the shim

The first check of `handleExchange` (`apps/exchange-shim/src/exchange-handler.ts:49–52`) looks
the requested audience up in a plain object. From any state of the caches and of the other
calls, what a call may do after the check is decided by what that lookup finds.
-/

namespace AgentsAuth.Shim

open AgentsAuth.AuthCurity AgentsAuth.Base AgentsAuth.Lib

/-- `audienceScopes` of `apps/exchange-shim/src/config.ts:42`. -/
def configuredScopes : List (String × String) :=
  [("mcp-inspect", "inspect:read"), ("mcp-ops", "ops:write")]

/-- The request of a call that is past the allow-list, and the scope it goes on with. -/
def Phase.admitted : Phase → Option (ExchangeRequest × Scope)
  | .notStarted => none
  | .checkingProof req scope _ => some (req, scope)
  | .lookingUp req scope => some (req, scope)
  | .awaitingSvid req scope => some (req, scope)
  | .exchanging req params => some (req, params.scope)
  | .finished => none

/-- Concurrent calls of `handleExchange` from any state of the process. -/
def handlingFrom (deps : HandlerDeps) (s : ShimState) :
    Machine ShimState (Nat × ShimEvent) (List Observation) where
  init := s
  step s e := handleStep deps s e.1 e.2

/-- The law of the allow-list for one audience: a call for it goes on only with the scope that is
configured for it, whatever other calls do meanwhile; and where none is configured, the call is
refused at once, with the caches as they were, and does nothing more. -/
structure AllowListed (deps : HandlerDeps) (audience : String) : Prop where
  admitted : ∀ s c req now es req' scope, s.phase c = .notStarted →
    req.targetAudience = audience →
    (((handlingFrom deps s).run ((c, .start req now) :: es)).phase c).admitted =
      some (req', scope) →
    req' = req ∧ ∃ configured,
      deps.audienceScopes.lookup audience = some configured ∧ scope = .own configured
  refused : ∀ s c req now, s.phase c = .notStarted → req.targetAudience = audience →
    deps.audienceScopes.lookup audience = none →
    handleStep deps s c (.start req now) =
        (s.goto c .finished, [.refused (.audienceNotAllowed audience)]) ∧
      ∀ es event, handleStep deps ((handlingFrom deps (s.goto c .finished)).run es) c event =
        ((handlingFrom deps (s.goto c .finished)).run es, [])

section Step

variable {deps : HandlerDeps} {s : ShimState} {c c' : Nat} {event : ShimEvent}

/-- The phase of a call that moves on. -/
theorem ShimState.phase_goto (s : ShimState) (c : Nat) (p : Phase) : (s.goto c p).phase c = p := by
  simp only [ShimState.goto, Function.update_self]

/-- The phase of another call. -/
theorem ShimState.phase_goto_of_ne (s : ShimState) (p : Phase) (h : c ≠ c') :
    (s.goto c' p).phase c = s.phase c := by
  simp only [ShimState.goto, Function.update_of_ne h]

/-- A call that has started is not started again. -/
theorem handleStep_start {req : ExchangeRequest} {now : ℚ} (h : s.phase c ≠ .notStarted) :
    handleStep deps s c (.start req now) = (s, []) := by
  unfold handleStep
  split
  · next hphase _ => exact absurd hphase h
  · next hevent => cases hevent
  · next hevent => cases hevent
  · next hevent => cases hevent
  · next hevent => cases hevent
  · rfl

/-- A finished call does nothing. -/
theorem handleStep_finished (h : s.phase c = .finished) : handleStep deps s c event = (s, []) := by
  unfold handleStep
  rw [h]

/-- A step of another call leaves the phase of a call. -/
theorem phase_handleStep_of_ne (hne : c ≠ c') :
    (handleStep deps s c' event).1.phase c = s.phase c := by
  have hgoto (p : Phase) : (s.goto c' p).phase c = s.phase c := s.phase_goto_of_ne p hne
  have hmoves := handleStep_moves deps s c' event
  generalize (handleStep deps s c' event).1 = next, (handleStep deps s c' event).2 = shown
    at hmoves ⊢
  cases hmoves with
  | idle => rfl
  | refuse _ _ => exact hgoto _
  | toProof _ _ _ _ => exact hgoto _
  | toLookup _ _ _ => exact hgoto _
  | proven _ _ _ => exact hgoto _
  | uncached _ _ => exact hgoto _
  | hit _ _ _ _ => exact hgoto _
  | miss _ _ _ => exact hgoto _
  | toExchange _ _ => exact hgoto _
  | grant _ _ _ _ _ => exact hgoto _

/-- A call keeps the request and the scope with which it was admitted. -/
theorem admitted_handleStep (hstarted : s.phase c ≠ .notStarted) :
    (handleStep deps s c' event).1.phase c ≠ .notStarted ∧
      ∀ x, ((handleStep deps s c' event).1.phase c).admitted = some x →
        (s.phase c).admitted = some x := by
  by_cases hne : c = c'
  · subst hne
    have hgoto (p : Phase) : (s.goto c p).phase c = p := s.phase_goto c p
    have hmoves := handleStep_moves deps s c event
    have hagain (req : ExchangeRequest) (now : ℚ) (h : event = .start req now) :
        (handleStep deps s c event).1 = s := by
      rw [h, handleStep_start hstarted]
    generalize (handleStep deps s c event).1 = next, (handleStep deps s c event).2 = shown
      at hmoves hagain ⊢
    cases hmoves with
    | idle => exact ⟨hstarted, fun x h ↦ h⟩
    | refuse _ _ =>
      rw [hgoto]
      exact ⟨nofun, fun x h ↦ nomatch h⟩
    | toProof now _ _ _ =>
      rw [hagain _ _ rfl]
      exact ⟨hstarted, fun x h ↦ h⟩
    | toLookup now _ _ =>
      rw [hagain _ _ rfl]
      exact ⟨hstarted, fun x h ↦ h⟩
    | proven hphase _ _ =>
      show (s.goto c _).phase c ≠ _ ∧ ∀ x, ((s.goto c _).phase c).admitted = _ → _
      rw [hgoto, hphase]
      exact ⟨nofun, fun x h ↦ h⟩
    | uncached _ hphase =>
      rw [hgoto, hphase]
      exact ⟨nofun, fun x h ↦ h⟩
    | hit _ _ _ _ =>
      show (s.goto c _).phase c ≠ _ ∧ ∀ x, ((s.goto c _).phase c).admitted = _ → _
      rw [hgoto]
      exact ⟨nofun, fun x h ↦ nomatch h⟩
    | miss _ _ hphase =>
      show (s.goto c _).phase c ≠ _ ∧ ∀ x, ((s.goto c _).phase c).admitted = _ → _
      rw [hgoto, hphase]
      exact ⟨nofun, fun x h ↦ h⟩
    | toExchange _ hphase =>
      rw [hgoto, hphase]
      exact ⟨nofun, fun x h ↦ h⟩
    | grant _ _ _ _ _ =>
      show (s.goto c _).phase c ≠ _ ∧ ∀ x, ((s.goto c _).phase c).admitted = _ → _
      rw [hgoto]
      exact ⟨nofun, fun x h ↦ nomatch h⟩
  · rw [phase_handleStep_of_ne hne]
    exact ⟨hstarted, fun x h ↦ h⟩

/-- A finished call stays finished. -/
theorem finished_handleStep (h : s.phase c = .finished) :
    (handleStep deps s c' event).1.phase c = .finished := by
  by_cases hne : c = c'
  · subst hne
    rw [handleStep_finished h]
    exact h
  · rw [phase_handleStep_of_ne hne, h]

/-- A call starts by a refusal, or with the scope that the allow-list finds. -/
theorem handleStep_starts {req : ExchangeRequest} {now : ℚ} (hphase : s.phase c = .notStarted) :
    (∃ e, handleStep deps s c (.start req now) = (s.goto c .finished, [.refused e]) ∧
        (e = .audienceNotAllowed req.targetAudience ↔
          allowedScope deps req.targetAudience = none)) ∨
      ∃ scope p, handleStep deps s c (.start req now) = (s.goto c p, []) ∧ p ≠ .notStarted ∧
        p.admitted = some (req, scope) ∧ allowedScope deps req.targetAudience = some scope := by
  unfold handleStep
  rw [hphase]
  dsimp only
  cases hscope : allowedScope deps req.targetAudience with
  | none => exact Or.inl ⟨_, rfl, iff_of_true rfl rfl⟩
  | some scope =>
    cases boundKey deps req.callerToken with
    | none => exact Or.inr ⟨scope, .lookingUp req scope, rfl, nofun, rfl, rfl⟩
    | some jkt =>
      dsimp only
      split
      · next call _ _ _ => exact Or.inr ⟨scope, .checkingProof req scope call, rfl, nofun, rfl, rfl⟩
      · exact Or.inl ⟨.proofRequired, rfl, iff_of_false nofun nofun⟩

/-- A call that has started keeps in a run what it was admitted with. -/
theorem admitted_run (hstarted : s.phase c ≠ .notStarted) {es : List (Nat × ShimEvent)}
    {x : ExchangeRequest × Scope}
    (h : (((handlingFrom deps s).run es).phase c).admitted = some x) :
    (s.phase c).admitted = some x := by
  have hkept : ((handlingFrom deps s).run es).phase c ≠ .notStarted ∧
      ∀ x, (((handlingFrom deps s).run es).phase c).admitted = some x →
        (s.phase c).admitted = some x := by
    apply (handlingFrom deps s).run_invariant
      (I := fun t ↦ t.phase c ≠ .notStarted ∧
        ∀ x, (t.phase c).admitted = some x → (s.phase c).admitted = some x)
    · exact ⟨hstarted, fun x h ↦ h⟩
    · intro t e ht
      obtain ⟨hnext, hadmitted⟩ := @admitted_handleStep deps t c e.1 e.2 ht.1
      exact ⟨hnext, fun x hx ↦ ht.2 x (hadmitted x hx)⟩
  exact hkept.2 x h

/-- A finished call stays finished in a run. -/
theorem finished_run (h : s.phase c = .finished) (es : List (Nat × ShimEvent)) :
    ((handlingFrom deps s).run es).phase c = .finished := by
  apply (handlingFrom deps s).run_invariant (I := fun t ↦ t.phase c = .finished) h
  intro t e ht
  exact finished_handleStep ht

end Step

section AllowList

variable {deps : HandlerDeps} {audience : String}

/-- What is found for an audience that is configured, or for none. -/
theorem allowedScope_eq (h : deps.audienceScopes.lookup audience = none →
      audience ∉ nodePrototype) :
    allowedScope deps audience =
      ((deps.audienceScopes.lookup audience).filter (· ≠ "")).map .own := by
  unfold allowedScope property
  cases hlookup : deps.audienceScopes.lookup audience with
  | none =>
    rw [if_neg (h hlookup)]
    rfl
  | some scope =>
    by_cases hempty : scope = ""
    · simp [hempty]
    · simp [hempty]

/-- The allow-list holds for an audience exactly when it is configured or no property of every
object. -/
theorem allowListed_iff (deps : HandlerDeps) (audience : String) :
    AllowListed deps audience ↔
      (deps.audienceScopes.lookup audience = none → audience ∉ nodePrototype) := by
  constructor
  · intro h hlookup hname
    have hinherited : allowedScope deps audience = some (.inherited audience) := by
      unfold allowedScope property
      rw [hlookup]
      dsimp only
      rw [if_pos hname]
    obtain ⟨hstep, -⟩ := h.refused ⟨.empty, none, fun _ ↦ .notStarted⟩ 0 ⟨"", audience, none⟩ 0
      rfl rfl hlookup
    obtain ⟨e, hrefused, hiff⟩ | ⟨scope, p, hgoes, -⟩ := @handleStep_starts deps
      ⟨.empty, none, fun _ ↦ .notStarted⟩ 0 ⟨"", audience, none⟩ 0 rfl
    · have hshown := congrArg Prod.snd (hrefused.symm.trans hstep)
      have he := hiff.mp (by simpa using hshown)
      rw [hinherited] at he
      cases he
    · have hshown := congrArg Prod.snd (hgoes.symm.trans hstep)
      cases hshown
  · intro hplain
    have hscope := allowedScope_eq hplain
    constructor
    · intro s c req now es req' scope hphase haudience hadmitted
      rw [← haudience] at hscope
      have hrun : (handlingFrom deps s).run ((c, .start req now) :: es) =
        (handlingFrom deps (handleStep deps s c (.start req now)).1).run es := rfl
      rw [hrun] at hadmitted
      obtain ⟨e, hrefused, -⟩ | ⟨scope', p, hgoes, hp, hreq, hallowed⟩ :=
        @handleStep_starts deps s c req now hphase
      · rw [hrefused, finished_run (s.phase_goto c .finished) es] at hadmitted
        cases hadmitted
      · rw [hgoes] at hadmitted
        have hkept := admitted_run (by rw [s.phase_goto c p]; exact hp) hadmitted
        rw [s.phase_goto c p, hreq] at hkept
        cases hkept
        rw [hscope, Option.map_eq_some_iff] at hallowed
        obtain ⟨configured, hconfigured, hown⟩ := hallowed
        rw [← haudience]
        exact ⟨rfl, configured, (Option.filter_eq_some_iff.mp hconfigured).1, hown.symm⟩
    · intro s c req now hphase haudience hlookup
      rw [hlookup] at hscope
      rw [← haudience] at hscope ⊢
      refine ⟨?_, fun es event ↦ handleStep_finished (finished_run (s.phase_goto c .finished) es)⟩
      unfold handleStep
      rw [hphase]
      dsimp only
      rw [hscope]
      rfl

/-- The dependencies of a shim with the audiences of `config.ts` and no caches. -/
private def configuredDeps : HandlerDeps where
  tools := ⟨fun _ ↦ none, fun _ ↦ .error "no JWS", fun _ ↦ "", id, fun _ ↦ none⟩
  decodeJwt := fun _ ↦ none
  tokenEndpoint := "https://curity.localtest.me/oauth/v2/oauth-token"
  clientId := "agentgateway"
  clientSecret := "s3cret"
  audienceScopes := configuredScopes
  cache := none
  replay := none

/-- A call for the audience `constructor` goes on. -/
theorem inherited_audience_admitted : ¬ ∀ deps audience, AllowListed deps audience := by
  intro h
  obtain ⟨hstep, -⟩ := (h configuredDeps "constructor").refused ⟨.empty, none, fun _ ↦ .notStarted⟩
    0 ⟨"caller-token", "constructor", none⟩ 0 rfl rfl rfl
  have hshown := congrArg Prod.snd hstep
  cases hshown

end AllowList
end AgentsAuth.Shim
