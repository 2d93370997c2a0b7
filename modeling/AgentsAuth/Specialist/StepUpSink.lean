import AgentsAuth.Specialist.Executor

/-!
# Recorded challenges

Whether the challenge that the intercepting fetch of `mcp-ops-client.ts:122–144` records is
what a remediation comes to. The loop looks at the sink on both of its exits; the opening
of the toolsets and their closing do not. A value without a text, where one is written outside the
`try` blocks, leaves the caller without a result.
-/

namespace AgentsAuth.Specialist

open AgentsAuth.A2a AgentsAuth.Agents AgentsAuth.AuthCurity AgentsAuth.Base AgentsAuth.Lib
open AgentsAuth.Runtime

/-- The ops server is discovered, and Curity answers the exchange for it. -/
structure Exchanges (cfg : Config) (bearer goal : String) (payload : Claims)
    (deps : RemediationDeps) (d : McpAuthDiscovery) (token : Except Thrown String) : Prop where
  goal : trim goal ≠ ""
  discovered : deps.discoverOps = .ok d
  acquired : ∃ sub, stringClaim payload "sub" "unknown" = .ok sub ∧
    acquireOps cfg bearer sub d deps = token

/-- Every gate lets the call pass, and the read toolset is open. -/
structure Opening (cfg : Config) (bearer goal : String) (payload : Claims) (deps : RemediationDeps)
    (d : McpAuthDiscovery) : Prop where
  exchanged : ∃ token, Exchanges cfg bearer goal payload deps d (.ok token)
  acr : stringClaim payload "acr" "" = .ok cfg.requiredAcr
  read : openRead deps = .ok ()

/-- A call is refused for a missing scope. -/
def MissingScope {α : Type} (outcome : Except Thrown α) : Prop :=
  ∃ message, outcome = .error (.curityAuth ⟨message, .invalidScope⟩)

/-- A gate calls for a challenge: the exchange, the read tier or the opening of the write toolset
misses a scope, or the `acr` is not the required one. -/
inductive Challenges (cfg : Config) (bearer goal : String) (payload : Claims)
    (deps : RemediationDeps) (d : McpAuthDiscovery) : Prop
  | scope {token : Except Thrown String}
    (hexchanges : Exchanges cfg bearer goal payload deps d token) (hmissing : MissingScope token)
  | acr {token acr : String} (hexchanges : Exchanges cfg bearer goal payload deps d (.ok token))
    (hacr : stringClaim payload "acr" "" = .ok acr) (hne : acr ≠ cfg.requiredAcr)
  | read {token : String} (hexchanges : Exchanges cfg bearer goal payload deps d (.ok token))
    (hacr : stringClaim payload "acr" "" = .ok cfg.requiredAcr)
    (hmissing : MissingScope (openRead deps))
  | opening (hopening : Opening cfg bearer goal payload deps d)
    (hmissing : MissingScope deps.openOps.outcome)

/-- What is written outside the `try` blocks has a text: the `sub`, the `acr` after an exchange
that succeeds or misses a scope, and the `acr` that a challenge offers. -/
structure Worded (cfg : Config) (bearer goal : String) (payload : Claims)
    (deps : RemediationDeps) : Prop where
  sub : ∃ sub, stringClaim payload "sub" "unknown" = .ok sub
  acr : ∀ d token, Exchanges cfg bearer goal payload deps d token →
    (∃ accessToken, token = .ok accessToken) ∨ MissingScope token →
    ∃ acr, stringClaim payload "acr" "" = .ok acr
  challenge : ∀ d, Challenges cfg bearer goal payload deps d → (offeredAcr d cfg).hasText = true

/-- What a remediation owes its caller: a recorded challenge, a tool only behind its gates, and
a result. -/
structure Owed (cfg : Config) (bearer goal : String) (payload : Claims) (deps : RemediationDeps)
    (out : Remediation) : Prop where
  heard : ∀ fields, out.sink = some fields → out.result = .ok (.stepUp fields)
  gated : out.ranLlm = true →
    ∃ d, Opening cfg bearer goal payload deps d ∧ deps.openOps.outcome = .ok ()
  total : ∀ e, out.result ≠ .error e

/-- The challenge that is recorded before the toolsets are closed. -/
def loopSink (deps : RemediationDeps) : Option StepUpFields :=
  match deps.obtainLlmToken.outcome with
  | .error _ => deps.openOps.challenge.or deps.obtainLlmToken.challenge
  | .ok _ => (deps.openOps.challenge.or deps.obtainLlmToken.challenge).or deps.runLlm.challenge

/-- What is written has a text, and the toolsets close without an error. Where the write toolset
does not open, no challenge is recorded but the one that a missing scope comes to; and where it
does, closing records none after a loop that has met none. -/
structure Quiet (cfg : Config) (bearer goal : String) (payload : Claims) (deps : RemediationDeps) :
    Prop where
  worded : Worded cfg bearer goal payload deps
  abandoned : ∀ d e, Opening cfg bearer goal payload deps d → deps.openOps.outcome = .error e →
    deps.closeInspect.outcome = .ok () ∧
      ∀ fields, deps.openOps.challenge.or deps.closeInspect.challenge = some fields →
        MissingScope deps.openOps.outcome ∧ stepUpFields d cfg = .ok fields
  closed : ∀ d, Opening cfg bearer goal payload deps d → deps.openOps.outcome = .ok () →
    deps.closeInspect.outcome = .ok () ∧ deps.closeOps.outcome = .ok () ∧
      (loopSink deps = none →
        deps.closeInspect.challenge = none ∧ deps.closeOps.challenge = none)

/-- How a remediation ends. A gate that refuses comes to a result exactly if what it writes has
a text. -/
inductive Ends (cfg : Config) (bearer goal : String) (payload : Claims) (deps : RemediationDeps) :
    Remediation → Prop
  | gated {out : Remediation} (hclosed : ∀ d, ¬ Opening cfg bearer goal payload deps d)
    (hsink : out.sink = none) (hran : out.ranLlm = false)
    (hresult : (∃ result, out.result = .ok result) ↔ Worded cfg bearer goal payload deps) :
    Ends cfg bearer goal payload deps out
  | abandoned {d : McpAuthDiscovery} {e : Thrown}
    (hopening : Opening cfg bearer goal payload deps d)
    (hopen : deps.openOps.outcome = .error e) :
    Ends cfg bearer goal payload deps (abandonOpening deps (gateFailure d cfg e))
  | closed {d : McpAuthDiscovery} (hopening : Opening cfg bearer goal payload deps d)
    (hopen : deps.openOps.outcome = .ok ()) :
    Ends cfg bearer goal payload deps (closeToolsets deps (runTools deps))

section Failures

variable {α : Type} {d : McpAuthDiscovery} {cfg : Config} {payload : Claims} {e : Thrown}

/-- Only a missing scope comes to a challenge. -/
theorem gateFailure_eq_stepUp_iff {fields : StepUpFields} :
    gateFailure d cfg e = .ok (.stepUp fields) ↔
      MissingScope (.error e : Except Thrown α) ∧ stepUpFields d cfg = .ok fields := by
  cases e with
  | other name message =>
    constructor
    · intro h
      cases h
    · rintro ⟨⟨message', h⟩, -⟩
      cases h
  | curityAuth err =>
    obtain ⟨message, code⟩ := err
    by_cases hcode : code = .invalidScope
    · subst hcode
      have hgate : gateFailure d cfg (.curityAuth ⟨message, .invalidScope⟩) =
          (stepUpFields d cfg).map .stepUp := rfl
      rw [hgate]
      cases stepUpFields d cfg with
      | error e =>
        constructor
        · intro h
          cases h
        · rintro ⟨-, h⟩
          cases h
      | ok fields' =>
        constructor
        · intro h
          cases h
          exact ⟨⟨message, rfl⟩, rfl⟩
        · rintro ⟨-, h⟩
          cases h
          rfl
    · simp only [gateFailure, if_neg hcode]
      constructor
      · intro h
        cases h
      · rintro ⟨⟨message', h⟩, -⟩
        cases h
        exact absurd rfl hcode

/-- A refusal comes to a result unless it is a challenge that cannot be written. -/
theorem gateFailure_isOk_iff :
    (∃ result, gateFailure d cfg e = .ok result) ↔
      (MissingScope (.error e : Except Thrown α) → (offeredAcr d cfg).hasText = true) := by
  constructor
  · rintro ⟨result, hresult⟩ ⟨message, he⟩
    cases he
    change (stepUpFields d cfg).map RemediationResult.stepUp = .ok result at hresult
    cases hfields : stepUpFields d cfg with
    | error e =>
      rw [hfields] at hresult
      cases hresult
    | ok fields => exact (stepUpFields_eq_ok_iff.mp hfields).1
  · intro h
    by_cases hmissing : MissingScope (.error e : Except Thrown α)
    · exact ⟨_, (gateFailure_eq_stepUp_iff (α := α)).mpr
        ⟨hmissing, stepUpFields_eq_ok_iff.mpr ⟨h hmissing, rfl⟩⟩⟩
    · cases e with
      | other name message => exact ⟨_, rfl⟩
      | curityAuth err =>
        have hcode : err.code ≠ .invalidScope := by
          intro hcode
          apply hmissing
          exact ⟨err.message, by rw [← hcode]⟩
        exact ⟨_, if_neg hcode⟩

/-- A result is logged unless it is a challenge to a caller whose `acr` has no text. -/
theorem logged_isOk_iff {out : Remediation} :
    (∃ result, (logged payload out).result = .ok result) ↔
      ∃ result, out.result = .ok result ∧
        ((∃ fields, result = .stepUp fields) → ∃ acr, stringClaim payload "acr" "" = .ok acr) := by
  rw [stringClaim_isOk_iff "(none)"]
  unfold logged
  cases hout : out.result with
  | error e => simp [hout]
  | ok result =>
    cases result with
    | ok summary steps => simp [hout]
    | error code description => simp [hout]
    | stepUp fields =>
      cases stringClaim payload "acr" "(none)" with
      | error e => simp [Except.map]
      | ok acr => simp [Except.map]

/-- The log of a caller whose `acr` has a text changes nothing. -/
theorem logged_of_acr {out : Remediation} {acr : String}
    (hacr : stringClaim payload "acr" "" = .ok acr) : logged payload out = out := by
  obtain ⟨acr', hacr'⟩ := (stringClaim_isOk_iff "(none)").mp ⟨acr, hacr⟩
  obtain ⟨result, sink, ranLlm⟩ := out
  unfold logged
  rw [hacr']
  cases result with
  | error e => rfl
  | ok result => cases result <;> rfl

/-- Logging changes neither the sink nor what has run. -/
theorem logged_sink (out : Remediation) :
    (logged payload out).sink = out.sink ∧ (logged payload out).ranLlm = out.ranLlm := by
  unfold logged
  cases out.result with
  | error e => exact ⟨rfl, rfl⟩
  | ok result => cases result <;> exact ⟨rfl, rfl⟩

end Failures

section Ends

variable {cfg : Config} {bearer goal : String} {payload : Claims} {deps : RemediationDeps}
  {d : McpAuthDiscovery} {token : Except Thrown String}

private theorem Exchanges.unique {d' : McpAuthDiscovery} {token' : Except Thrown String}
    (h : Exchanges cfg bearer goal payload deps d token)
    (h' : Exchanges cfg bearer goal payload deps d' token') : d' = d ∧ token' = token := by
  have hdiscovered := h'.discovered
  rw [h.discovered] at hdiscovered
  obtain rfl := Except.ok.inj hdiscovered
  obtain ⟨sub, hsub, htoken⟩ := h.acquired
  obtain ⟨sub', hsub', htoken'⟩ := h'.acquired
  rw [hsub] at hsub'
  obtain rfl := Except.ok.inj hsub'
  exact ⟨rfl, htoken'.symm.trans htoken⟩

private theorem Opening.unique {d' : McpAuthDiscovery}
    (h : Opening cfg bearer goal payload deps d) (h' : Opening cfg bearer goal payload deps d') :
    d' = d := by
  obtain ⟨token, hexchanges⟩ := h.exchanged
  obtain ⟨token', hexchanges'⟩ := h'.exchanged
  exact (hexchanges.unique hexchanges').1

/-- Without an exchange only the `sub` is written. -/
private theorem worded_of_not_exchanges
    (hsub : ∃ sub, stringClaim payload "sub" "unknown" = .ok sub)
    (h : ∀ d token, ¬ Exchanges cfg bearer goal payload deps d token) :
    Worded cfg bearer goal payload deps := by
  refine ⟨hsub, fun d token hexchanges _ ↦ absurd hexchanges (h d token), ?_⟩
  intro d hchallenges
  cases hchallenges with
  | scope hexchanges _ => exact absurd hexchanges (h _ _)
  | acr hexchanges _ _ => exact absurd hexchanges (h _ _)
  | read hexchanges _ _ => exact absurd hexchanges (h _ _)
  | opening hopening _ =>
    obtain ⟨token, hexchanges⟩ := hopening.exchanged
    exact absurd hexchanges (h _ _)

/-- What has to have a text where the exchange is refused. -/
private theorem worded_iff_of_refused {e : Thrown}
    (hexchanges : Exchanges cfg bearer goal payload deps d (.error e)) :
    Worded cfg bearer goal payload deps ↔
      (MissingScope (.error e : Except Thrown String) →
        (offeredAcr d cfg).hasText = true ∧ ∃ acr, stringClaim payload "acr" "" = .ok acr) := by
  constructor
  · intro h hmissing
    exact ⟨h.challenge d (.scope hexchanges hmissing), h.acr d _ hexchanges (.inr hmissing)⟩
  · intro h
    obtain ⟨sub, hsub, -⟩ := hexchanges.acquired
    refine ⟨⟨sub, hsub⟩, ?_, ?_⟩
    · intro d' token' hexchanges' hlooked
      obtain ⟨-, rfl⟩ := hexchanges.unique hexchanges'
      obtain ⟨accessToken, htoken⟩ | hmissing := hlooked
      · cases htoken
      · exact (h hmissing).2
    · intro d' hchallenges
      cases hchallenges with
      | scope hexchanges' hmissing =>
        obtain ⟨rfl, rfl⟩ := hexchanges.unique hexchanges'
        exact (h hmissing).1
      | acr hexchanges' _ _ => cases (hexchanges.unique hexchanges').2
      | read hexchanges' _ _ => cases (hexchanges.unique hexchanges').2
      | opening hopening _ =>
        obtain ⟨token, hexchanges'⟩ := hopening.exchanged
        cases (hexchanges.unique hexchanges').2

/-- What has to have a text where the exchange succeeds. -/
private theorem worded_iff_of_exchanged {accessToken : String}
    (hexchanges : Exchanges cfg bearer goal payload deps d (.ok accessToken)) :
    Worded cfg bearer goal payload deps ↔
      ∃ acr, stringClaim payload "acr" "" = .ok acr ∧
        (acr ≠ cfg.requiredAcr ∨ MissingScope (openRead deps) ∨
            openRead deps = .ok () ∧ MissingScope deps.openOps.outcome →
          (offeredAcr d cfg).hasText = true) := by
  constructor
  · intro h
    obtain ⟨acr, hacr⟩ := h.acr d _ hexchanges (.inl ⟨accessToken, rfl⟩)
    refine ⟨acr, hacr, ?_⟩
    intro hcalls
    by_cases hrequired : acr = cfg.requiredAcr
    · subst hrequired
      obtain hne | hmissing | ⟨hread, hmissing⟩ := hcalls
      · exact absurd rfl hne
      · exact h.challenge d (.read hexchanges hacr hmissing)
      · exact h.challenge d (.opening ⟨⟨accessToken, hexchanges⟩, hacr, hread⟩ hmissing)
    · exact h.challenge d (.acr hexchanges hacr hrequired)
  · rintro ⟨acr, hacr, hoffered⟩
    obtain ⟨sub, hsub, -⟩ := hexchanges.acquired
    refine ⟨⟨sub, hsub⟩, fun _ _ _ _ ↦ ⟨acr, hacr⟩, ?_⟩
    intro d' hchallenges
    cases hchallenges with
    | scope hexchanges' hmissing =>
      obtain ⟨-, rfl⟩ := hexchanges.unique hexchanges'
      obtain ⟨message, hmessage⟩ := hmissing
      cases hmessage
    | acr hexchanges' hacr' hne =>
      obtain ⟨rfl, -⟩ := hexchanges.unique hexchanges'
      rw [hacr] at hacr'
      obtain rfl := Except.ok.inj hacr'
      exact hoffered (.inl hne)
    | read hexchanges' _ hmissing =>
      obtain ⟨rfl, -⟩ := hexchanges.unique hexchanges'
      exact hoffered (.inr (.inl hmissing))
    | opening hopening hmissing =>
      obtain ⟨token', hexchanges'⟩ := hopening.exchanged
      obtain ⟨rfl, -⟩ := hexchanges.unique hexchanges'
      exact hoffered (.inr (.inr ⟨hopening.read, hmissing⟩))

/-- Once the read toolset is open, only the opening of the other one calls for a text. -/
private theorem worded_iff_of_opening (hopening : Opening cfg bearer goal payload deps d) :
    Worded cfg bearer goal payload deps ↔
      (MissingScope deps.openOps.outcome → (offeredAcr d cfg).hasText = true) := by
  obtain ⟨token, hexchanges⟩ := hopening.exchanged
  rw [worded_iff_of_exchanged hexchanges]
  constructor
  · rintro ⟨acr, -, hoffered⟩ hmissing
    exact hoffered (.inr (.inr ⟨hopening.read, hmissing⟩))
  · intro h
    refine ⟨_, hopening.acr, ?_⟩
    rintro (hne | ⟨message, hmessage⟩ | ⟨-, hmissing⟩)
    · exact absurd rfl hne
    · rw [hopening.read] at hmessage
      cases hmessage
    · exact h hmissing

/-- A gate that refuses as `gateFailure` says comes to a result exactly if the challenge for a
missing scope and the `acr` of the caller can then be written. -/
private theorem refused_isOk_iff {e : Thrown} :
    (∃ result, (logged payload ⟨gateFailure d cfg e, none, false⟩).result = .ok result) ↔
      (MissingScope (.error e : Except Thrown String) →
        (offeredAcr d cfg).hasText = true ∧ ∃ acr, stringClaim payload "acr" "" = .ok acr) := by
  rw [logged_isOk_iff]
  constructor
  · rintro ⟨result, hresult, hlogged⟩ hmissing
    have hoffered := (gateFailure_isOk_iff (α := String)).mp ⟨result, hresult⟩ hmissing
    have hstepUp := gateFailure_eq_stepUp_iff.mpr
      ⟨hmissing, stepUpFields_eq_ok_iff.mpr ⟨hoffered, rfl⟩⟩
    exact ⟨hoffered, hlogged ⟨_, Except.ok.inj (hresult.symm.trans hstepUp)⟩⟩
  · intro h
    have hoffered : MissingScope (.error e : Except Thrown String) →
        (offeredAcr d cfg).hasText = true := fun hmissing ↦ (h hmissing).1
    obtain ⟨result, hresult⟩ := gateFailure_isOk_iff.mpr hoffered
    refine ⟨result, hresult, ?_⟩
    rintro ⟨fields, rfl⟩
    exact (h (gateFailure_eq_stepUp_iff.mp hresult).1).2

/-- A gate that is shut before the toolsets are opened. -/
private theorem Ends.of_gate {result : Except Thrown RemediationResult}
    (hclosed : ∀ d, ¬ Opening cfg bearer goal payload deps d)
    (hresult : (∃ r, (logged payload ⟨result, none, false⟩).result = .ok r) ↔
      Worded cfg bearer goal payload deps) :
    Ends cfg bearer goal payload deps (logged payload ⟨result, none, false⟩) :=
  .gated hclosed (logged_sink _).1 (logged_sink _).2 hresult

/-- Nothing is exchanged, and nothing is to be logged. -/
private theorem Ends.of_plain {result : RemediationResult}
    (hresult : ∀ fields, result ≠ .stepUp fields)
    (hnone : ∀ d token, ¬ Exchanges cfg bearer goal payload deps d token)
    (hsub : ∃ sub, stringClaim payload "sub" "unknown" = .ok sub) :
    Ends cfg bearer goal payload deps (logged payload ⟨.ok result, none, false⟩) := by
  apply Ends.of_gate
  · intro d hopening
    obtain ⟨token, hexchanges⟩ := hopening.exchanged
    exact hnone d _ hexchanges
  · apply iff_of_true
    · rw [logged_isOk_iff]
      refine ⟨result, rfl, ?_⟩
      rintro ⟨fields, hfields⟩
      exact absurd hfields (hresult fields)
    · exact worded_of_not_exchanges hsub hnone

/-- The `sub` of the caller has no text. -/
private theorem Ends.of_noSub {e : Thrown} (hsub : stringClaim payload "sub" "unknown" = .error e) :
    Ends cfg bearer goal payload deps (logged payload ⟨.error e, none, false⟩) := by
  apply Ends.of_gate
  · intro d hopening
    obtain ⟨token, hexchanges⟩ := hopening.exchanged
    obtain ⟨sub, hsub', -⟩ := hexchanges.acquired
    cases hsub.symm.trans hsub'
  · apply iff_of_false
    · rw [logged_isOk_iff]
      rintro ⟨result, hresult, -⟩
      cases hresult
    · intro h
      obtain ⟨sub, hsub'⟩ := h.sub
      cases hsub.symm.trans hsub'

/-- The exchange is refused. -/
private theorem Ends.of_refused {e : Thrown}
    (hexchanges : Exchanges cfg bearer goal payload deps d (.error e)) :
    Ends cfg bearer goal payload deps (logged payload ⟨gateFailure d cfg e, none, false⟩) := by
  apply Ends.of_gate
  · intro d' hopening
    obtain ⟨token, hexchanges'⟩ := hopening.exchanged
    cases (hexchanges.unique hexchanges').2
  · rw [worded_iff_of_refused hexchanges, refused_isOk_iff]

section Exchanged

variable {accessToken : String}

/-- The `acr` of the caller has no text. -/
private theorem Ends.of_noAcr {e : Thrown}
    (hexchanges : Exchanges cfg bearer goal payload deps d (.ok accessToken))
    (hacr : stringClaim payload "acr" "" = .error e) :
    Ends cfg bearer goal payload deps (logged payload ⟨.error e, none, false⟩) := by
  apply Ends.of_gate
  · intro d' hopening
    cases hacr.symm.trans hopening.acr
  · apply iff_of_false
    · rw [logged_isOk_iff]
      rintro ⟨result, hresult, -⟩
      cases hresult
    · rw [worded_iff_of_exchanged hexchanges]
      rintro ⟨acr, hacr', -⟩
      cases hacr.symm.trans hacr'

/-- The `acr` of the caller is not the required one. -/
private theorem Ends.of_acr {acr : String}
    (hexchanges : Exchanges cfg bearer goal payload deps d (.ok accessToken))
    (hacr : stringClaim payload "acr" "" = .ok acr) (hrequired : acr ≠ cfg.requiredAcr) :
    Ends cfg bearer goal payload deps
      (logged payload ⟨stepUpFromDiscovery d cfg, none, false⟩) := by
  have hworded := worded_iff_of_exchanged hexchanges
  simp only [hacr, Except.ok.injEq, exists_eq_left'] at hworded
  apply Ends.of_gate
  · intro d' hopening
    cases hacr.symm.trans hopening.acr
    exact hrequired rfl
  · rw [hworded, logged_of_acr hacr]
    simp only [stepUpFromDiscovery]
    constructor
    · rintro ⟨result, hresult⟩ -
      cases hfields : stepUpFields d cfg with
      | error e =>
        rw [hfields] at hresult
        cases hresult
      | ok fields => exact (stepUpFields_eq_ok_iff.mp hfields).1
    · intro h
      rw [stepUpFields_eq_ok_iff.mpr ⟨h (.inl hrequired), rfl⟩]
      exact ⟨_, rfl⟩

/-- The read toolset does not open. -/
private theorem Ends.of_noRead {e : Thrown}
    (hexchanges : Exchanges cfg bearer goal payload deps d (.ok accessToken))
    (hacr : stringClaim payload "acr" "" = .ok cfg.requiredAcr)
    (hread : openRead deps = .error e) :
    Ends cfg bearer goal payload deps (logged payload ⟨gateFailure d cfg e, none, false⟩) := by
  have hworded := worded_iff_of_exchanged hexchanges
  simp only [hacr, Except.ok.injEq, exists_eq_left'] at hworded
  apply Ends.of_gate
  · intro d' hopening
    cases hread.symm.trans hopening.read
  · rw [hworded, refused_isOk_iff, hread]
    simp [hacr, MissingScope]

end Exchanged

/-- Every remediation ends in one of these ways. -/
theorem runRemediation_ends (cfg : Config) (bearer goal : String) (payload : Claims)
    (deps : RemediationDeps) :
    Ends cfg bearer goal payload deps (runRemediation cfg bearer goal payload deps) := by
  unfold runRemediation remediate
  cases hsub : stringClaim payload "sub" "unknown" with
  | error e => exact .of_noSub hsub
  | ok sub =>
    simp only
    by_cases hgoal : trim goal = ""
    · rw [if_pos hgoal]
      exact .of_plain (fun _ h ↦ (by cases h)) (fun d token h ↦ h.goal hgoal) ⟨sub, hsub⟩
    · rw [if_neg hgoal]
      cases hdiscover : deps.discoverOps with
      | error e =>
        refine .of_plain (fun _ h ↦ (by cases e <;> cases h)) (fun d token h ↦ ?_) ⟨sub, hsub⟩
        cases hdiscover.symm.trans h.discovered
      | ok d =>
        simp only
        cases hacquire : acquireOps cfg bearer sub d deps with
        | error e => exact .of_refused ⟨hgoal, hdiscover, sub, hsub, hacquire⟩
        | ok accessToken =>
          have hexchanges : Exchanges cfg bearer goal payload deps d (.ok accessToken) :=
            ⟨hgoal, hdiscover, sub, hsub, hacquire⟩
          simp only
          cases hacr : stringClaim payload "acr" "" with
          | error e => exact .of_noAcr hexchanges hacr
          | ok acr =>
            simp only
            by_cases hrequired : acr = cfg.requiredAcr
            · subst hrequired
              rw [if_neg (not_not_intro rfl)]
              cases hread : openRead deps with
              | error e => exact .of_noRead hexchanges hacr hread
              | ok u =>
                have hopening : Opening cfg bearer goal payload deps d :=
                  ⟨⟨accessToken, hexchanges⟩, hacr, hread⟩
                rw [logged_of_acr hacr]
                simp only
                cases hopen : deps.openOps.outcome with
                | error e => exact .abandoned hopening hopen
                | ok u => exact .closed hopening hopen
            · rw [if_pos hrequired]
              exact .of_acr hexchanges hacr hrequired

/-- An opening that fails is owed to the caller unless something is left unheard or unwritten. -/
private theorem owed_abandonOpening_iff {result : Except Thrown RemediationResult} :
    Owed cfg bearer goal payload deps (abandonOpening deps result) ↔
      deps.closeInspect.outcome = .ok () ∧ (∃ r, result = .ok r) ∧
        ∀ fields, deps.openOps.challenge.or deps.closeInspect.challenge = some fields →
          result = .ok (.stepUp fields) := by
  unfold abandonOpening
  cases deps.closeInspect.outcome with
  | error e =>
    apply iff_of_false
    · intro h
      exact h.total e rfl
    · rintro ⟨h, -⟩
      cases h
  | ok u =>
    constructor
    · intro h
      refine ⟨rfl, ?_, h.heard⟩
      cases result with
      | error e => exact absurd rfl (h.total e)
      | ok r => exact ⟨r, rfl⟩
    · rintro ⟨-, ⟨r, rfl⟩, h⟩
      exact ⟨h, fun hran ↦ (by cases hran), fun e he ↦ (by cases he)⟩

/-- The loop resolves, to the challenge that is recorded by then if there is one. -/
private theorem runTools_spec (deps : RemediationDeps) :
    (runTools deps).sink = loopSink deps ∧
      ∃ result, (runTools deps).result = .ok (judged (loopSink deps) result) ∧
        ∀ fields, result ≠ .stepUp fields := by
  unfold runTools loopSink
  cases deps.obtainLlmToken.outcome with
  | error e => exact ⟨rfl, _, rfl, fun _ h ↦ (by cases h)⟩
  | ok token =>
    simp only
    cases deps.runLlm.outcome with
    | error e => exact ⟨rfl, _, rfl, fun _ h ↦ (by cases h)⟩
    | ok run => exact ⟨rfl, _, rfl, fun _ h ↦ (by cases h)⟩

/-- What the loop comes to is owed to the caller if the toolsets then close quietly. -/
private theorem owed_closeToolsets_iff (hopening : Opening cfg bearer goal payload deps d)
    (hopen : deps.openOps.outcome = .ok ()) :
    Owed cfg bearer goal payload deps (closeToolsets deps (runTools deps)) ↔
      deps.closeInspect.outcome = .ok () ∧ deps.closeOps.outcome = .ok () ∧
        (loopSink deps = none →
          deps.closeInspect.challenge = none ∧ deps.closeOps.challenge = none) := by
  obtain ⟨hsink, result, hresult, hplain⟩ := runTools_spec deps
  have hgated : (runTools deps).ranLlm = true →
      ∃ d, Opening cfg bearer goal payload deps d ∧ deps.openOps.outcome = .ok () :=
    fun _ ↦ ⟨d, hopening, hopen⟩
  unfold closeToolsets
  rw [hsink, hresult]
  cases hinspect : deps.closeInspect.outcome with
  | error e =>
    apply iff_of_false
    · intro h
      exact h.total e rfl
    · rintro ⟨h, -⟩
      cases h
  | ok u =>
    simp only
    cases hops : deps.closeOps.outcome with
    | error e =>
      apply iff_of_false
      · intro h
        exact h.total e rfl
      · rintro ⟨-, h, -⟩
        cases h
    | ok u =>
      cases hloop : loopSink deps with
      | some fields =>
        apply iff_of_true
        · refine ⟨?_, hgated, fun e he ↦ (by cases he)⟩
          intro fields' hfields
          cases hfields
          rfl
        · refine ⟨trivial, rfl, ?_⟩
          intro h
          cases h
      | none =>
        rw [Option.none_or]
        cases hlate : deps.closeInspect.challenge.or deps.closeOps.challenge with
        | some fields =>
          apply iff_of_false
          · intro h
            exact hplain fields (Except.ok.inj (h.heard fields rfl))
          · rintro ⟨-, -, h⟩
            obtain ⟨hnone, hnone'⟩ := h rfl
            rw [hnone, hnone'] at hlate
            cases hlate
        | none =>
          apply iff_of_true
          · exact ⟨fun fields hfields ↦ (by cases hfields), hgated, fun e he ↦ (by cases he)⟩
          · exact ⟨trivial, rfl, fun _ ↦ Option.or_eq_none_iff.mp hlate⟩

/-- The challenge that the sink holds when a remediation returns is what it returns, tools run
only behind their gates, and it never rejects, exactly when what it writes has a text and the
toolsets open and close quietly. -/
theorem remediation_owed_iff :
    Owed cfg bearer goal payload deps (runRemediation cfg bearer goal payload deps) ↔
      Quiet cfg bearer goal payload deps := by
  have hends := runRemediation_ends cfg bearer goal payload deps
  generalize runRemediation cfg bearer goal payload deps = out at hends
  cases hends with
  | gated hclosed hsink hran hresult =>
    constructor
    · intro h
      have hworded : Worded cfg bearer goal payload deps := by
        apply hresult.mp
        cases hout : out.result with
        | error e => exact absurd hout (h.total e)
        | ok result => exact ⟨result, rfl⟩
      exact ⟨hworded, fun d e h _ ↦ absurd h (hclosed d), fun d h _ ↦ absurd h (hclosed d)⟩
    · intro h
      obtain ⟨result, hout⟩ := hresult.mpr h.worded
      rw [← Bool.not_eq_true] at hran
      refine ⟨fun fields hfields ↦ ?_, fun hran' ↦ absurd hran' hran, fun e he ↦ ?_⟩
      · cases hsink.symm.trans hfields
      · cases hout.symm.trans he
  | @abandoned d e hopening hopen =>
    rw [owed_abandonOpening_iff, gateFailure_isOk_iff (α := Unit), ← hopen,
      ← worded_iff_of_opening hopening]
    simp only [gateFailure_eq_stepUp_iff (α := Unit), ← hopen]
    constructor
    · rintro ⟨hclose, hworded, hheard⟩
      refine ⟨hworded, ?_, ?_⟩
      · intro d' e' hopening' _
        obtain rfl := hopening.unique hopening'
        exact ⟨hclose, hheard⟩
      · intro d' _ hopen'
        cases hopen.symm.trans hopen'
    · intro h
      obtain ⟨hclose, hheard⟩ := h.abandoned d e hopening hopen
      exact ⟨hclose, h.worded, hheard⟩
  | @closed d hopening hopen =>
    rw [owed_closeToolsets_iff hopening hopen]
    constructor
    · intro h
      refine ⟨?_, ?_, ?_⟩
      · rw [worded_iff_of_opening hopening, hopen]
        rintro ⟨message, hmessage⟩
        cases hmessage
      · intro d' e _ hopen'
        cases hopen.symm.trans hopen'
      · intro _ _ _
        exact h
    · intro h
      exact h.closed d hopening hopen

end Ends

section Sample

private def sampleClaims : Claims :=
  (Json.obj [("sub", .str "alice"), ("acr", .str "mfa")]).get?

private def sampleChallenge : StepUpFields := ⟨"phishing-resistant", "https://prm", "ops:write"⟩

/-- The write server challenges the request that opens its toolset. -/
private def challengedDeps : RemediationDeps where
  discoverOps := .ok sampleOpsDiscovery
  prepareOps := ⟨some "svid", .ok "kid", .error noText⟩
  exchangeOps := fun _ ↦ .ok ⟨"token", "DPoP", 300, "ops:write", ""⟩
  acquireInspect := .ok "token"
  openInspect := .ok ()
  openOps :=
    ⟨.error (.other "StepUpRequiredError" "step-up required: acr_values=phishing-resistant"),
      some sampleChallenge⟩
  obtainLlmToken := ⟨.ok "token", none⟩
  runLlm := ⟨.ok ⟨"done", .arr []⟩, none⟩
  closeInspect := ⟨.ok (), none⟩
  closeOps := ⟨.ok (), none⟩

/-- A challenge to the opening of the write toolset becomes an error without the challenge. -/
theorem challenge_unheard :
    (¬ ∀ deps, Owed sampleConfig "bearer" "restart checkout" sampleClaims deps
      (runRemediation sampleConfig "bearer" "restart checkout" sampleClaims deps)) ∧
    runRemediation sampleConfig "bearer" "restart checkout" sampleClaims challengedDeps =
      ⟨.ok (.error "specialist_failure"
        "StepUpRequiredError: step-up required: acr_values=phishing-resistant"),
        some sampleChallenge, false⟩ := by
  have hresult :
      runRemediation sampleConfig "bearer" "restart checkout" sampleClaims challengedDeps =
        ⟨.ok (.error "specialist_failure"
        "StepUpRequiredError: step-up required: acr_values=phishing-resistant"),
        some sampleChallenge, false⟩ := by
    rfl
  refine ⟨?_, hresult⟩
  intro h
  have hheard := (h challengedDeps).heard sampleChallenge (by rw [hresult])
  rw [hresult] at hheard
  cases hheard

end Sample
end AgentsAuth.Specialist
