import AgentsAuth.Specialist.Executor

/-!
# The write-tier probe

`apps/agent-specialist/src/tools-route.ts`: the gates of a remediation walked for display, and
when they tell a caller what a remediation would. The probe looks at the `acr` before it
exchanges and a remediation after, and only a remediation takes a missing scope for a
missing authentication.
-/

namespace AgentsAuth.Specialist

open AgentsAuth.A2a AgentsAuth.Agents AgentsAuth.AuthCurity AgentsAuth.Base AgentsAuth.Lib
open AgentsAuth.Runtime

/-- `ListedTool` of `packages/agent-runtime/src/mcp-toolset.ts:19–24`. -/
structure ListedTool where
  name : String
  description : Option String
  «meta» : Option Json

/-- `ToolInfo` of `tools-route.ts:24–36`. -/
structure ToolInfo where
  name : String
  description : Option String
  requiredRoles : Option (List String)
  callable : Option Bool

/-- Model of `requiredRolesOf`, `mcp-toolset.ts:44–47`. -/
def requiredRolesOf (t : ListedTool) : Option (List String) :=
  match t.meta.bind (·.get? "io.curity.demo/required-roles") with
  | some (.arr items) => items.mapM fun item ↦ Json.string? (some item)
  | _ => none

/-- Model of `toolInfos`, `tools-route.ts:107–118`. -/
def toolInfos (listed : List ListedTool) (callerRoles : List String) : List ToolInfo :=
  listed.map fun t ↦
    ⟨t.name, t.description, requiredRolesOf t,
      (requiredRolesOf t).map fun roles ↦ roles.any callerRoles.contains⟩

/-- Model of `rolesClaim`, `tools-route.ts:121–125`. -/
def rolesClaim : Option Json → Except Thrown (List String)
  | some (.arr items) => items.mapM stringOf
  | some (.str s) => .ok (words s)
  | _ => .ok []

/-- The claims of a caller: `tools-route.ts:144–148`. -/
structure ProbeClaims where
  sub : String
  acr : Option String
  roles : List String

/-- `v.payload.acr != null ? String(v.payload.acr) : undefined`. -/
def acrClaim (payload : Claims) : Except Thrown (Option String) :=
  match payload "acr" with
  | none => .ok none
  | some .null => .ok none
  | some value => do return some (← stringOf value)

/-- What the handler reads of a verified payload. Where it throws, the handler answers 500 and does
not probe. -/
def probeClaims (payload : Claims) : Except Thrown ProbeClaims := do
  let sub ← stringClaim payload "sub" "unknown"
  let acr ← acrClaim payload
  let roles ← rolesClaim (payload "roles")
  return ⟨sub, acr, roles⟩

/-- `OpsToolsResult` of `tools-route.ts:38–42`. -/
inductive OpsToolsResult where
  | ok (tools : List ToolInfo)
  | stepUp (acrValues : Json) (scope : String)
  | denied (error description : String)
  | error (error description : String)

/-- `acquire` of the provider of the probe, which records nothing for `/last-token`. -/
def probeAcquire (cfg : Config) (bearer sub : String) (d : McpAuthDiscovery)
    (deps : RemediationDeps) : Except Thrown String := do
  let call := obtainOpsToken cfg bearer sub d.tokenEndpoint d.scope (some false)
  let result ← deps.exchangeOps (← call.exchangeParams deps.prepareOps)
  return result.accessToken

/-- Model of `listOpsTools`, `tools-route.ts:51–105`, with the provider of `deps`; `listed` is what
opening the toolset lists. -/
def listOpsTools (cfg : Config) (bearer : String) (claims : ProbeClaims) (deps : RemediationDeps)
    (listed : Except Thrown (List ListedTool)) : OpsToolsResult :=
  match deps.discoverOps with
  | .error (.curityAuth e) => .error e.code.toText e.message
  | .error e => .error "discovery_failed" e.toText
  | .ok d =>
    if claims.acr.getD "" ≠ cfg.requiredAcr then .stepUp (offeredAcr d cfg) d.scope
    else
      match probeAcquire cfg bearer claims.sub d deps with
      | .error (.curityAuth e) => .denied e.code.toText e.message
      | .error e => .error "exchange_failed" e.toText
      | .ok _ =>
        match listed with
        | .error e => .error "mcp_unavailable" e.toText
        | .ok listed => .ok (toolInfos listed claims.roles)

/-- The gates of `remediate` before it opens a toolset, `executor.ts:127–160`. -/
def remediateGates (cfg : Config) (bearer : String) (payload : Claims) (deps : RemediationDeps) :
    Except (Except Thrown RemediationResult) McpAuthDiscovery :=
  match stringClaim payload "sub" "unknown" with
  | .error e => .error (.error e)
  | .ok sub =>
    match deps.discoverOps with
    | .error e => .error (.ok (failure e))
    | .ok d =>
      match acquireOps cfg bearer sub d deps with
      | .error e => .error (gateFailure d cfg e)
      | .ok _ =>
        match stringClaim payload "acr" "" with
        | .error e => .error (.error e)
        | .ok acr => if acr ≠ cfg.requiredAcr then .error (stepUpFromDiscovery d cfg) else .ok d

/-- What a caller is told of the write tier. -/
inductive Verdict where
  | proceed
  | stepUp (acrValues scope : String)
  | refused (error : String)
deriving DecidableEq

/-- The verdict of the probe. -/
def OpsToolsResult.verdict : OpsToolsResult → Verdict
  | .ok _ => .proceed
  | .stepUp acrValues scope => .stepUp acrValues.toText scope
  | .denied code _ => .refused code
  | .error code _ => .refused code

/-- The verdict of a result. -/
def RemediationResult.verdict : RemediationResult → Verdict
  | .ok _ _ => .proceed
  | .stepUp fields => .stepUp fields.acrValues fields.scope
  | .error code _ => .refused code

/-- The verdict of some gates; a remediation that rejects is refused by the executor. -/
def gatesVerdict : Except (Except Thrown RemediationResult) McpAuthDiscovery → Verdict
  | .ok _ => .proceed
  | .error result => (RemediationResult.settled result).verdict

/-- The verdict of a remediation: whether it goes on to open the toolsets, and what it comes to if
it does not. -/
def remediationVerdict (cfg : Config) (bearer goal : String) (payload : Claims)
    (deps : RemediationDeps) : Verdict :=
  match remediateGates cfg bearer payload deps with
  | .ok _ => .proceed
  | .error _ => (RemediationResult.settled (remediate cfg bearer goal payload deps).result).verdict

/-- A discovery fails with a code if it fails, and the exchange is refused with a code if it fails:
for a missing scope exactly where the `acr` is not the required one. There the offered `acr` has a
text. -/
structure Aligned (cfg : Config) (bearer : String) (claims : ProbeClaims)
    (deps : RemediationDeps) : Prop where
  discovery : ∀ e, deps.discoverOps = .error e → ∃ err, e = .curityAuth err
  exchange : ∀ d e, deps.discoverOps = .ok d → acquireOps cfg bearer claims.sub d deps = .error e →
    ∃ err, e = .curityAuth err ∧
      (err.code = .invalidScope ↔ claims.acr.getD "" ≠ cfg.requiredAcr)
  challenge : ∀ d, deps.discoverOps = .ok d → claims.acr.getD "" ≠ cfg.requiredAcr →
    (offeredAcr d cfg).hasText = true

section Agreement

variable {cfg : Config} {bearer goal : String} {payload : Claims} {claims : ProbeClaims}
  {deps : RemediationDeps} {d : McpAuthDiscovery}

/-- A remediation with a goal is its gates and then the toolsets. -/
theorem remediate_eq_gates (hgoal : trim goal ≠ "") :
    remediate cfg bearer goal payload deps =
      match remediateGates cfg bearer payload deps with
      | .error result => ⟨result, none, false⟩
      | .ok d =>
        match openRead deps with
        | .error e => ⟨gateFailure d cfg e, none, false⟩
        | .ok () =>
          match deps.openOps.outcome with
          | .error e => abandonOpening deps (gateFailure d cfg e)
          | .ok () => closeToolsets deps (runTools deps) := by
  unfold remediate remediateGates
  cases stringClaim payload "sub" "unknown" with
  | error e => rfl
  | ok sub =>
    simp only [if_neg hgoal]
    cases deps.discoverOps with
    | error e => rfl
    | ok d =>
      simp only
      cases acquireOps cfg bearer sub d deps with
      | error e => rfl
      | ok token =>
        simp only
        cases stringClaim payload "acr" "" with
        | error e => rfl
        | ok acr =>
          simp only
          by_cases hacr : acr ≠ cfg.requiredAcr
          · simp only [if_pos hacr]
          · rewrite [if_neg hacr, if_neg hacr]
            rfl

/-- A remediation with a goal is refused with what its gates refuse it with. -/
private theorem remediationVerdict_eq (hgoal : trim goal ≠ "") :
    remediationVerdict cfg bearer goal payload deps =
      gatesVerdict (remediateGates cfg bearer payload deps) := by
  rw [remediationVerdict, remediate_eq_gates hgoal]
  cases remediateGates cfg bearer payload deps with
  | ok d => rfl
  | error result => rfl

private theorem probeAcquire_eq (sub : String) (d : McpAuthDiscovery) :
    probeAcquire cfg bearer sub d deps = acquireOps cfg bearer sub d deps := by
  rfl

/-- A caller that is probed is the caller that remediates. -/
theorem claims_of_probeClaims (h : probeClaims payload = .ok claims) :
    stringClaim payload "sub" "unknown" = .ok claims.sub ∧
      stringClaim payload "acr" "" = .ok (claims.acr.getD "") ∧
      rolesClaim (payload "roles") = .ok claims.roles := by
  obtain ⟨sub, hsub, h⟩ := bind_eq_ok_iff.mp h
  obtain ⟨acr, hacr, h⟩ := bind_eq_ok_iff.mp h
  obtain ⟨roles, hroles, h⟩ := bind_eq_ok_iff.mp h
  cases h
  refine ⟨hsub, ?_, hroles⟩
  unfold acrClaim at hacr
  unfold stringClaim
  cases hpayload : payload "acr" with
  | none =>
    rw [hpayload] at hacr
    cases hacr
    rfl
  | some value =>
    rw [hpayload] at hacr
    cases value with
    | null =>
      cases hacr
      rfl
    | _ =>
      obtain ⟨text, htext, hacr⟩ := bind_eq_ok_iff.mp hacr
      cases hacr
      exact htext

/-- What the probe says after a discovery. -/
private theorem verdict_listOpsTools (hdiscover : deps.discoverOps = .ok d)
    (listed : List ListedTool) :
    (listOpsTools cfg bearer claims deps (.ok listed)).verdict =
      if claims.acr.getD "" ≠ cfg.requiredAcr then .stepUp (offeredAcr d cfg).toText d.scope
      else
        match acquireOps cfg bearer claims.sub d deps with
        | .error (.curityAuth e) => .refused e.code.toText
        | .error (.other _ _) => .refused "exchange_failed"
        | .ok _ => .proceed := by
  unfold listOpsTools
  simp only [hdiscover, probeAcquire_eq]
  by_cases hacr : claims.acr.getD "" ≠ cfg.requiredAcr
  · rw [if_pos hacr, if_pos hacr]
    rfl
  · rw [if_neg hacr, if_neg hacr]
    cases acquireOps cfg bearer claims.sub d deps with
    | ok token => rfl
    | error e => cases e <;> rfl

/-- A challenge is a verdict of its own where it can be written. -/
private theorem gatesVerdict_stepUpFromDiscovery :
    gatesVerdict (.error (stepUpFromDiscovery d cfg)) =
      if (offeredAcr d cfg).hasText then .stepUp (offeredAcr d cfg).toText d.scope
      else .refused "specialist_failure" := by
  unfold stepUpFromDiscovery
  by_cases hoffered : (offeredAcr d cfg).hasText = true
  · rw [if_pos hoffered, stepUpFields_eq_ok_iff.mpr ⟨hoffered, rfl⟩]
    rfl
  · rw [if_neg hoffered]
    cases hfields : stepUpFields d cfg with
    | error e => rfl
    | ok fields => exact absurd (stepUpFields_eq_ok_iff.mp hfields).1 hoffered

/-- What the gates of a remediation say after a discovery. -/
private theorem gatesVerdict_remediateGates (hclaims : probeClaims payload = .ok claims)
    (hdiscover : deps.discoverOps = .ok d) :
    gatesVerdict (remediateGates cfg bearer payload deps) =
      match acquireOps cfg bearer claims.sub d deps with
      | .error (.curityAuth e) =>
        if e.code = .invalidScope then gatesVerdict (.error (stepUpFromDiscovery d cfg))
        else .refused e.code.toText
      | .error (.other _ _) => .refused "specialist_failure"
      | .ok _ =>
        if claims.acr.getD "" ≠ cfg.requiredAcr then
          gatesVerdict (.error (stepUpFromDiscovery d cfg))
        else .proceed := by
  obtain ⟨hsub, hacr, -⟩ := claims_of_probeClaims hclaims
  unfold remediateGates
  simp only [hsub, hdiscover, hacr]
  cases acquireOps cfg bearer claims.sub d deps with
  | ok token =>
    by_cases hrequired : claims.acr.getD "" ≠ cfg.requiredAcr
    · simp only [if_pos hrequired]
    · simp only [if_neg hrequired]
      rfl
  | error e =>
    cases e with
    | other name message => rfl
    | curityAuth err =>
      by_cases hcode : err.code = .invalidScope
      · simp only [gateFailure, if_pos hcode]
      · simp only [gateFailure, if_neg hcode]
        rfl

/-- After a discovery the probe and the gates agree exactly where they are aligned. -/
private theorem aligned_iff (hdiscover : deps.discoverOps = .ok d) :
    Aligned cfg bearer claims deps ↔
      (∀ e, acquireOps cfg bearer claims.sub d deps = .error e →
        ∃ err, e = .curityAuth err ∧
          (err.code = .invalidScope ↔ claims.acr.getD "" ≠ cfg.requiredAcr)) ∧
      (claims.acr.getD "" ≠ cfg.requiredAcr → (offeredAcr d cfg).hasText = true) := by
  constructor
  · intro h
    exact ⟨fun e ↦ h.exchange d e hdiscover, h.challenge d hdiscover⟩
  · rintro ⟨hexchange, hchallenge⟩
    refine ⟨?_, ?_, ?_⟩
    · intro e he
      cases hdiscover.symm.trans he
    · intro d' e hd
      obtain rfl := Except.ok.inj (hdiscover.symm.trans hd)
      exact hexchange e
    · intro d' hd
      obtain rfl := Except.ok.inj (hdiscover.symm.trans hd)
      exact hchallenge

/-- For a caller that is probed, the probe and a remediation with a goal come to the same verdict
exactly when every failure of the provider has a code, only an exchange without the required `acr`
fails for its scope, and the `acr` that is offered there has a text. -/
theorem probe_agrees_iff (hgoal : trim goal ≠ "") (hclaims : probeClaims payload = .ok claims)
    (listed : List ListedTool) :
    (listOpsTools cfg bearer claims deps (.ok listed)).verdict =
        remediationVerdict cfg bearer goal payload deps ↔
      Aligned cfg bearer claims deps := by
  rw [remediationVerdict_eq hgoal]
  cases hdiscover : deps.discoverOps with
  | error e =>
    obtain ⟨hsub, -⟩ := claims_of_probeClaims hclaims
    unfold listOpsTools remediateGates
    simp only [hsub, hdiscover]
    cases e with
    | curityAuth err =>
      apply iff_of_true
      · rfl
      · refine ⟨?_, ?_, ?_⟩
        · intro e he
          cases hdiscover.symm.trans he
          exact ⟨err, rfl⟩
        · intro d e hd
          cases hdiscover.symm.trans hd
        · intro d hd
          cases hdiscover.symm.trans hd
    | other name message =>
      apply iff_of_false
      · intro h
        exact absurd (Verdict.refused.inj h) (by decide)
      · intro h
        obtain ⟨err, herr⟩ := h.discovery _ hdiscover
        cases herr
  | ok d =>
    rw [aligned_iff hdiscover, verdict_listOpsTools hdiscover,
      gatesVerdict_remediateGates hclaims hdiscover, gatesVerdict_stepUpFromDiscovery]
    cases acquireOps cfg bearer claims.sub d deps with
    | ok token =>
      by_cases hacr : claims.acr.getD "" = cfg.requiredAcr
      · simp [hacr]
      · by_cases hoffered : (offeredAcr d cfg).hasText = true
        · simp [hoffered]
        · simp [hacr, hoffered]
    | error e =>
      cases e with
      | other name message =>
        by_cases hacr : claims.acr.getD "" = cfg.requiredAcr
        · simp [hacr]
        · simp [hacr]
      | curityAuth err =>
        by_cases hacr : claims.acr.getD "" = cfg.requiredAcr
        · by_cases hcode : err.code = .invalidScope
          · by_cases hoffered : (offeredAcr d cfg).hasText = true
            · simp [hacr, hcode, hoffered]
            · simp [hacr, hcode, hoffered, CurityAuthErrorCode.toText]
          · simp [hacr, hcode]
        · by_cases hcode : err.code = .invalidScope
          · by_cases hoffered : (offeredAcr d cfg).hasText = true
            · simp [hacr, hcode, hoffered]
            · simp [hacr, hcode, hoffered]
          · simp [hacr, hcode]

end Agreement

section Sample

/-- A provider whose exchange is refused with a code. -/
private def refusedDeps (code : CurityAuthErrorCode) : RemediationDeps where
  discoverOps := .ok sampleOpsDiscovery
  prepareOps := ⟨some "svid", .ok "kid", .error noText⟩
  exchangeOps := fun _ ↦ .error (.curityAuth ⟨"refused", code⟩)
  acquireInspect := .ok "token"
  openInspect := .ok ()
  openOps := ⟨.ok (), none⟩
  obtainLlmToken := ⟨.ok "token", none⟩
  runLlm := ⟨.ok ⟨"done", .arr []⟩, none⟩
  closeInspect := ⟨.ok (), none⟩
  closeOps := ⟨.ok (), none⟩

private def loginClaims (acr : String) : Claims :=
  (Json.obj [("sub", .str "bob"), ("acr", .str acr)]).get?

private def loginProbe (acr : String) : ProbeClaims := ⟨"bob", some acr, []⟩

/-- A user with the `acr` and without the role is denied by both. -/
theorem probe_agrees_iff_sample :
    (listOpsTools sampleConfig "bearer" (loginProbe "mfa") (refusedDeps .accessDenied)
        (.ok [])).verdict =
      remediationVerdict sampleConfig "bearer" "restart checkout" (loginClaims "mfa")
        (refusedDeps .accessDenied) := by
  have hclaims : probeClaims (loginClaims "mfa") = .ok (loginProbe "mfa") := by
    rfl
  apply (probe_agrees_iff (by decide) hclaims []).mpr
  refine ⟨?_, ?_, ?_⟩
  · intro e he
    cases he
  · intro d e hd he
    cases hd
    cases he
    exact ⟨_, rfl, by decide⟩
  · intro d hd hacr
    exact absurd rfl hacr

/-- A user without the role and without the `acr` is told to step up, and is then denied; and one
with the `acr` who lacks the scope is told that it is denied, and is then challenged. -/
theorem probe_misleads :
    (¬ ∀ payload claims deps listed, probeClaims payload = .ok claims →
      (listOpsTools sampleConfig "bearer" claims deps (.ok listed)).verdict =
        remediationVerdict sampleConfig "bearer" "restart checkout" payload deps) ∧
    (listOpsTools sampleConfig "bearer" (loginProbe "password") (refusedDeps .accessDenied)
        (.ok [])).verdict = .stepUp "mfa" "ops:write" ∧
    remediationVerdict sampleConfig "bearer" "restart checkout" (loginClaims "password")
      (refusedDeps .accessDenied) = .refused "access_denied" ∧
    (listOpsTools sampleConfig "bearer" (loginProbe "mfa") (refusedDeps .invalidScope)
        (.ok [])).verdict = .refused "invalid_scope" ∧
    remediationVerdict sampleConfig "bearer" "restart checkout" (loginClaims "mfa")
      (refusedDeps .invalidScope) = .stepUp "mfa" "ops:write" := by
  refine ⟨?_, rfl, rfl, rfl, rfl⟩
  intro h
  have hsame := h (loginClaims "password") (loginProbe "password") (refusedDeps .accessDenied) []
    rfl
  cases hsame

end Sample
end AgentsAuth.Specialist
