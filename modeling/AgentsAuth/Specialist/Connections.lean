import AgentsAuth.Specialist.ToolsRoute

/-!
# The MCP connections of agent-specialist

What `openMcpToolset` of `packages/agent-runtime/src/mcp-toolset.ts` opens while `remediate`
and `listOpsTools` run, and what they close. A toolset is handed to the caller only after
its tools are listed; the caller closes what it was handed, and nobody closes a
connection whose listing fails.
-/

namespace AgentsAuth.Specialist

open AgentsAuth.A2a AgentsAuth.Agents AgentsAuth.AuthCurity AgentsAuth.Base AgentsAuth.Lib
open AgentsAuth.Runtime

/-- The MCP servers that the specialist connects to. -/
inductive McpServer where
  | inspect
  | ops
deriving DecidableEq

/-- What happens to the connection to a server. -/
inductive ConnectionEvent where
  | opened (server : McpServer)
  | handedOver (server : McpServer)
  | closed (server : McpServer)
deriving DecidableEq

/-- The outcomes of the steps of `openMcpToolset`, and of `client.close()`. `prepare` is what comes
before `client.connect`; `buildTools` is what comes after `client.listTools`. -/
structure OpeningSteps where
  prepare : Except Thrown Unit
  connect : Except Thrown Unit
  listTools : Except Thrown (List ListedTool)
  buildTools : Except Thrown Unit
  closeClient : Except Thrown Unit

/-- The steps for each server. -/
structure Connections where
  inspect : OpeningSteps
  ops : OpeningSteps

/-- Model of `packages/agent-runtime/src/mcp-toolset.ts:64–168`: what happens to the connection, and
what the function resolves or rejects with. -/
def openMcpToolset (server : McpServer) (steps : OpeningSteps) :
    List ConnectionEvent × Except Thrown (List ListedTool) :=
  match steps.prepare with
  | .error e => ([], .error e)
  | .ok () =>
    match steps.connect with
    | .error e => ([], .error e)
    | .ok () =>
      match steps.listTools with
      | .error e => ([.opened server], .error e)
      | .ok listed =>
        match steps.buildTools with
        | .error e => ([.opened server], .error e)
        | .ok () => ([.opened server, .handedOver server], .ok listed)

/-- `close` of a toolset, `mcp-toolset.ts:160–166`: it resolves whatever `client.close()` does. -/
def closeToolset (server : McpServer) (steps : OpeningSteps) :
    List ConnectionEvent × Except Thrown Unit :=
  match steps.closeClient with
  | .ok () => ([.closed server], .ok ())
  | .error _ => ([.closed server], .ok ())

/-- `await readSet?.close(); await writeSet?.close();`: `executor.ts:224–225`. -/
def closeBoth (connections : Connections) : List ConnectionEvent × Except Thrown Unit :=
  match closeToolset .inspect connections.inspect with
  | (log, .error e) => (log, .error e)
  | (log, .ok ()) =>
    (log ++ (closeToolset .ops connections.ops).1, (closeToolset .ops connections.ops).2)

/-- What a remediation awaits when it opens and closes its toolsets so. -/
def RemediationDeps.connecting (deps : RemediationDeps) (connections : Connections) :
    RemediationDeps :=
  { deps with
    openInspect := (openMcpToolset .inspect connections.inspect).2.map fun _ ↦ ()
    openOps :=
      ⟨(openMcpToolset .ops connections.ops).2.map fun _ ↦ (), deps.openOps.challenge⟩
    closeInspect :=
      ⟨(closeToolset .inspect connections.inspect).2, deps.closeInspect.challenge⟩
    closeOps := ⟨(closeToolset .ops connections.ops).2, deps.closeOps.challenge⟩ }

/-- Model of `remediate`, `executor.ts:127–227`, with what happens to its connections. -/
def remediateConnecting (cfg : Config) (bearer goal : String) (payload : Claims)
    (deps : RemediationDeps) (connections : Connections) : List ConnectionEvent × Remediation :=
  let deps := deps.connecting connections
  match stringClaim payload "sub" "unknown" with
  | .error e => ([], ⟨.error e, none, false⟩)
  | .ok sub =>
    if trim goal = "" then ([], ⟨.ok (.error "bad_request" "empty request"), none, false⟩)
    else
      match deps.discoverOps with
      | .error e => ([], ⟨.ok (failure e), none, false⟩)
      | .ok d =>
        match acquireOps cfg bearer sub d deps with
        | .error e => ([], ⟨gateFailure d cfg e, none, false⟩)
        | .ok _ =>
          match stringClaim payload "acr" "" with
          | .error e => ([], ⟨.error e, none, false⟩)
          | .ok acr =>
            if acr ≠ cfg.requiredAcr then ([], ⟨stepUpFromDiscovery d cfg, none, false⟩)
            else
              match deps.acquireInspect with
              | .error e => ([], ⟨gateFailure d cfg e, none, false⟩)
              | .ok _ =>
                match openMcpToolset .inspect connections.inspect with
                | (log, .error e) => (log, ⟨gateFailure d cfg e, none, false⟩)
                | (log, .ok _) =>
                  match openMcpToolset .ops connections.ops with
                  | (log', .error e) =>
                    (log ++ log' ++ (closeToolset .inspect connections.inspect).1,
                      abandonOpening deps (gateFailure d cfg e))
                  | (log', .ok _) =>
                    (log ++ log' ++ (closeBoth connections).1, closeToolsets deps (runTools deps))

/-- Model of `listOpsTools`, `tools-route.ts:51–105`, with what happens to its connection. -/
def listOpsConnecting (cfg : Config) (bearer : String) (claims : ProbeClaims)
    (deps : RemediationDeps) (ops : OpeningSteps) : List ConnectionEvent × OpsToolsResult :=
  match deps.discoverOps with
  | .error (.curityAuth e) => ([], .error e.code.toText e.message)
  | .error e => ([], .error "discovery_failed" e.toText)
  | .ok d =>
    if claims.acr.getD "" ≠ cfg.requiredAcr then
      ([], .stepUp (offeredAcr d cfg) d.scope)
    else
      match probeAcquire cfg bearer claims.sub d deps with
      | .error (.curityAuth e) => ([], .denied e.code.toText e.message)
      | .error e => ([], .error "exchange_failed" e.toText)
      | .ok _ =>
        match openMcpToolset .ops ops with
        | (log, .error e) => (log, .error "mcp_unavailable" e.toText)
        | (log, .ok listed) =>
          (log ++ (closeToolset .ops ops).1, .ok (toolInfos listed claims.roles))

/-- Every connection that is opened, and every toolset that is handed over, is closed later. -/
def AllClosed : List ConnectionEvent → Prop
  | [] => True
  | .opened server :: rest => .closed server ∈ rest ∧ AllClosed rest
  | .handedOver server :: rest => .closed server ∈ rest ∧ AllClosed rest
  | .closed _ :: rest => AllClosed rest

/-- The client connects, and a later step of the opening fails. -/
def OpeningSteps.FailsConnected (steps : OpeningSteps) : Prop :=
  steps.prepare = .ok () ∧ steps.connect = .ok () ∧
    ∀ listed, steps.listTools = .ok listed → steps.buildTools ≠ .ok ()

/-- Every step of the opening succeeds. -/
def OpeningSteps.Succeeds (steps : OpeningSteps) : Prop :=
  steps.prepare = .ok () ∧ steps.connect = .ok () ∧
    ∃ listed, steps.listTools = .ok listed ∧ steps.buildTools = .ok ()

/-- A remediation passes its gates and gets the read token. -/
structure ReachesOpening (cfg : Config) (bearer goal : String) (payload : Claims)
    (deps : RemediationDeps) : Prop where
  goal : trim goal ≠ ""
  gates : ∃ sub d token, stringClaim payload "sub" "unknown" = .ok sub ∧
    deps.discoverOps = .ok d ∧ acquireOps cfg bearer sub d deps = .ok token
  acr : stringClaim payload "acr" "" = .ok cfg.requiredAcr
  readToken : ∃ token, deps.acquireInspect = .ok token

/-- A probe passes its gates. -/
def ProbeReachesOpening (cfg : Config) (bearer : String) (claims : ProbeClaims)
    (deps : RemediationDeps) : Prop :=
  ∃ d token, deps.discoverOps = .ok d ∧ claims.acr.getD "" = cfg.requiredAcr ∧
    probeAcquire cfg bearer claims.sub d deps = .ok token

section Steps

variable {server : McpServer} {steps : OpeningSteps}

/-- An opening fails unconnected, or fails connected, or hands its toolset over. -/
theorem openMcpToolset_cases (server : McpServer) (steps : OpeningSteps) :
    (∃ e, openMcpToolset server steps = ([], .error e) ∧ ¬ steps.FailsConnected ∧
      ¬ steps.Succeeds) ∨
    (∃ e, openMcpToolset server steps = ([.opened server], .error e) ∧ steps.FailsConnected ∧
      ¬ steps.Succeeds) ∨
    ∃ listed, openMcpToolset server steps = ([.opened server, .handedOver server], .ok listed) ∧
      ¬ steps.FailsConnected ∧ steps.Succeeds := by
  unfold openMcpToolset OpeningSteps.FailsConnected OpeningSteps.Succeeds
  cases hprepare : steps.prepare with
  | error e => exact Or.inl ⟨e, rfl, by simp, by simp⟩
  | ok u =>
    cases hconnect : steps.connect with
    | error e => exact Or.inl ⟨e, rfl, by simp, by simp⟩
    | ok u =>
      right
      cases hlist : steps.listTools with
      | error e => exact Or.inl ⟨e, rfl, by simp, by simp⟩
      | ok listed =>
        cases hbuild : steps.buildTools with
        | error e => exact Or.inl ⟨e, rfl, by simp, by simp⟩
        | ok u => exact Or.inr ⟨listed, rfl, by simp, by simp⟩

/-- Closing a toolset never fails. -/
theorem closeToolset_eq (server : McpServer) (steps : OpeningSteps) :
    closeToolset server steps = ([.closed server], .ok ()) := by
  unfold closeToolset
  cases steps.closeClient with
  | error e => rfl
  | ok u => rfl

/-- Closing one toolset never keeps the other one open. -/
theorem closeBoth_eq (connections : Connections) :
    closeBoth connections = ([.closed .inspect, .closed .ops], .ok ()) := by
  simp only [closeBoth, closeToolset_eq, List.singleton_append]

end Steps

section Runs

variable {cfg : Config} {bearer goal : String} {payload : Claims} {deps : RemediationDeps}
  {connections : Connections} {claims : ProbeClaims} {ops : OpeningSteps}

/-- What the opened toolsets of a remediation come to. -/
def openingLog (connections : Connections) : List ConnectionEvent :=
  match openMcpToolset .inspect connections.inspect with
  | (log, .error _) => log
  | (log, .ok _) =>
    match openMcpToolset .ops connections.ops with
    | (log', .error _) => log ++ log' ++ [.closed .inspect]
    | (log', .ok _) => log ++ log' ++ [.closed .inspect, .closed .ops]

/-- A remediation opens its toolsets if it gets as far, and otherwise nothing. -/
theorem remediateConnecting_log :
    ReachesOpening cfg bearer goal payload deps ∧
      (remediateConnecting cfg bearer goal payload deps connections).1 = openingLog connections ∨
    ¬ ReachesOpening cfg bearer goal payload deps ∧
      (remediateConnecting cfg bearer goal payload deps connections).1 = [] := by
  unfold remediateConnecting
  cases hsub : stringClaim payload "sub" "unknown" with
  | error e =>
    right
    refine ⟨fun h ↦ ?_, rfl⟩
    obtain ⟨sub, d, token, hsub', -⟩ := h.gates
    cases hsub.symm.trans hsub'
  | ok sub =>
    by_cases hgoal : trim goal = ""
    · right
      refine ⟨fun h ↦ h.goal hgoal, ?_⟩
      simp only [if_pos hgoal]
    · simp only [if_neg hgoal]
      cases hdiscover : (deps.connecting connections).discoverOps with
      | error e =>
        right
        refine ⟨fun h ↦ ?_, rfl⟩
        obtain ⟨sub', d, token, -, hd, -⟩ := h.gates
        cases hd.symm.trans hdiscover
      | ok d =>
        simp only
        cases hacquire : acquireOps cfg bearer sub d (deps.connecting connections) with
        | error e =>
          right
          refine ⟨fun h ↦ ?_, rfl⟩
          obtain ⟨sub', d', token, hsub', hd, htoken⟩ := h.gates
          obtain rfl : d' = d := Except.ok.inj (hd.symm.trans hdiscover)
          obtain rfl : sub' = sub := Except.ok.inj (hsub'.symm.trans hsub)
          cases htoken.symm.trans hacquire
        | ok token =>
          simp only
          cases hacr : stringClaim payload "acr" "" with
          | error e =>
            right
            refine ⟨fun h ↦ ?_, rfl⟩
            cases hacr.symm.trans h.acr
          | ok acr =>
            simp only
            by_cases hrequired : acr = cfg.requiredAcr
            · subst hrequired
              rw [if_neg (not_not_intro rfl)]
              cases hread : (deps.connecting connections).acquireInspect with
              | error e =>
                right
                refine ⟨fun h ↦ ?_, rfl⟩
                obtain ⟨token, htoken⟩ := h.readToken
                cases htoken.symm.trans hread
              | ok read =>
                left
                refine ⟨⟨hgoal, ⟨sub, d, token, hsub, hdiscover, hacquire⟩, hacr, read, hread⟩, ?_⟩
                simp only [openingLog, closeToolset_eq, closeBoth_eq]
                rcases openMcpToolset_cases .inspect connections.inspect with
                  ⟨e, h, -⟩ | ⟨e, h, -⟩ | ⟨listed, h, -⟩
                · rw [h]
                · rw [h]
                · rw [h]
                  rcases openMcpToolset_cases .ops connections.ops with
                    ⟨e, h', -⟩ | ⟨e, h', -⟩ | ⟨listed', h', -⟩
                  · rw [h']
                  · rw [h']
                  · rw [h']
            · rw [if_pos hrequired]
              right
              refine ⟨fun h ↦ ?_, rfl⟩
              exact hrequired (Except.ok.inj (hacr.symm.trans h.acr))

/-- With its connections the remediation comes to what it comes to without them. -/
theorem remediateConnecting_result :
    (remediateConnecting cfg bearer goal payload deps connections).2 =
      remediate cfg bearer goal payload (deps.connecting connections) := by
  unfold remediateConnecting remediate
  cases stringClaim payload "sub" "unknown" with
  | error e => rfl
  | ok sub =>
    by_cases hgoal : trim goal = ""
    · simp only [if_pos hgoal]
    · simp only [if_neg hgoal]
      cases (deps.connecting connections).discoverOps with
      | error e => rfl
      | ok d =>
        simp only
        cases acquireOps cfg bearer sub d (deps.connecting connections) with
        | error e => rfl
        | ok token =>
          simp only
          cases stringClaim payload "acr" "" with
          | error e => rfl
          | ok acr =>
            simp only
            by_cases hacr : acr = cfg.requiredAcr
            · rw [if_neg (not_not_intro hacr), if_neg (not_not_intro hacr), openRead]
              cases (deps.connecting connections).acquireInspect with
              | error e => rfl
              | ok read =>
                have hinspect : (deps.connecting connections).openInspect =
                    (openMcpToolset .inspect connections.inspect).2.map fun _ ↦ () := rfl
                have hops : (deps.connecting connections).openOps.outcome =
                    (openMcpToolset .ops connections.ops).2.map fun _ ↦ () := rfl
                rcases openMcpToolset_cases .inspect connections.inspect with
                  ⟨e, h, -⟩ | ⟨e, h, -⟩ | ⟨listed, h, -⟩
                · rw [hinspect, h]
                  rfl
                · rw [hinspect, h]
                  rfl
                · rw [hinspect, h, hops]
                  rcases openMcpToolset_cases .ops connections.ops with
                    ⟨e, h', -⟩ | ⟨e, h', -⟩ | ⟨listed', h', -⟩
                  · rw [h']
                    rfl
                  · rw [h']
                    rfl
                  · rw [h']
                    rfl
            · rw [if_pos hacr, if_pos hacr]

/-- Every connection of a remediation is closed exactly when no opening that it reaches fails once
connected. -/
theorem allClosed_openingLog_iff :
    AllClosed (openingLog connections) ↔
      ¬ connections.inspect.FailsConnected ∧
        (connections.inspect.Succeeds → ¬ connections.ops.FailsConnected) := by
  unfold openingLog
  rcases openMcpToolset_cases .inspect connections.inspect with
    ⟨e, h, hfails, hsucceeds⟩ | ⟨e, h, hfails, hsucceeds⟩ | ⟨listed, h, hfails, hsucceeds⟩
  · rw [h]
    simp [AllClosed, hfails, hsucceeds]
  · rw [h]
    simp [AllClosed, hfails]
  · rw [h]
    rcases openMcpToolset_cases .ops connections.ops with
      ⟨e, h', hfails', -⟩ | ⟨e, h', hfails', -⟩ | ⟨listed', h', hfails', -⟩
    · rw [h']
      simp [AllClosed, hfails, hfails']
    · rw [h']
      simp [AllClosed, hfails', hsucceeds]
    · rw [h']
      simp [AllClosed, hfails, hfails']

/-- What the opened toolset of a probe comes to. -/
def probeLog (ops : OpeningSteps) : List ConnectionEvent :=
  match openMcpToolset .ops ops with
  | (log, .error _) => log
  | (log, .ok _) => log ++ [.closed .ops]

/-- A probe opens its toolset if it gets as far, and otherwise nothing. -/
theorem listOpsConnecting_log :
    ProbeReachesOpening cfg bearer claims deps ∧
      (listOpsConnecting cfg bearer claims deps ops).1 = probeLog ops ∨
    ¬ ProbeReachesOpening cfg bearer claims deps ∧
      (listOpsConnecting cfg bearer claims deps ops).1 = [] := by
  unfold listOpsConnecting
  cases hdiscover : deps.discoverOps with
  | error e =>
    right
    constructor
    · rintro ⟨d, token, hd, -⟩
      cases hd.symm.trans hdiscover
    · cases e with
      | curityAuth e => rfl
      | other name message => rfl
  | ok d =>
    simp only
    by_cases hacr : claims.acr.getD "" = cfg.requiredAcr
    · rw [if_neg (not_not_intro hacr)]
      cases hacquire : probeAcquire cfg bearer claims.sub d deps with
      | error e =>
        right
        constructor
        · rintro ⟨d', token, hd, -, htoken⟩
          obtain rfl : d' = d := Except.ok.inj (hd.symm.trans hdiscover)
          cases htoken.symm.trans hacquire
        · cases e with
          | curityAuth e => rfl
          | other name message => rfl
      | ok token =>
        left
        refine ⟨⟨d, token, hdiscover, hacr, hacquire⟩, ?_⟩
        unfold probeLog
        rcases openMcpToolset_cases .ops ops with ⟨e, h, -⟩ | ⟨e, h, -⟩ | ⟨listed, h, -⟩
        · rw [h]
        · rw [h]
        · rw [h]
          simp only [closeToolset_eq]
    · rw [if_pos hacr]
      right
      refine ⟨?_, rfl⟩
      rintro ⟨d', token, -, hacr', -⟩
      exact hacr hacr'

/-- With its connection the probe comes to what it comes to without it. -/
theorem listOpsConnecting_result :
    (listOpsConnecting cfg bearer claims deps ops).2 =
      listOpsTools cfg bearer claims deps (openMcpToolset .ops ops).2 := by
  unfold listOpsConnecting listOpsTools
  cases deps.discoverOps with
  | error e =>
    cases e with
    | curityAuth e => rfl
    | other name message => rfl
  | ok d =>
    simp only
    by_cases hacr : claims.acr.getD "" = cfg.requiredAcr
    · rw [if_neg (not_not_intro hacr), if_neg (not_not_intro hacr)]
      cases probeAcquire cfg bearer claims.sub d deps with
      | error e =>
        cases e with
        | curityAuth e => rfl
        | other name message => rfl
      | ok token =>
        rcases openMcpToolset_cases .ops ops with ⟨e, h, -⟩ | ⟨e, h, -⟩ | ⟨listed, h, -⟩
        · rw [h]
        · rw [h]
        · rw [h]
    · rw [if_pos hacr, if_pos hacr]

/-- The connection of a probe is closed exactly when its opening does not fail once connected. -/
theorem allClosed_probeLog_iff : AllClosed (probeLog ops) ↔ ¬ ops.FailsConnected := by
  unfold probeLog
  rcases openMcpToolset_cases .ops ops with
    ⟨e, h, hfails, -⟩ | ⟨e, h, hfails, -⟩ | ⟨listed, h, hfails, -⟩
  · rw [h]
    simp [AllClosed, hfails]
  · rw [h]
    simp [AllClosed, hfails]
  · rw [h]
    simp [AllClosed, hfails]

end Runs

/-- No connection of `remediate` or of `listOpsTools` is left open, and no toolset is left unclosed,
exactly when no opening that is reached connects and then fails to list or to build its tools. -/
theorem connections_closed_iff (cfg : Config) (bearer goal : String) (payload : Claims)
    (claims : ProbeClaims) (deps : RemediationDeps) (connections : Connections)
    (ops : OpeningSteps) :
    (AllClosed (remediateConnecting cfg bearer goal payload deps connections).1 ↔
      (ReachesOpening cfg bearer goal payload deps →
        ¬ connections.inspect.FailsConnected ∧
          (connections.inspect.Succeeds → ¬ connections.ops.FailsConnected))) ∧
    (AllClosed (listOpsConnecting cfg bearer claims deps ops).1 ↔
      (ProbeReachesOpening cfg bearer claims deps → ¬ ops.FailsConnected)) := by
  constructor
  · rcases @remediateConnecting_log cfg bearer goal payload deps connections with
      ⟨hreaches, hlog⟩ | ⟨hreaches, hlog⟩
    · rw [hlog, allClosed_openingLog_iff]
      simp [hreaches]
    · rw [hlog]
      simp [AllClosed, hreaches]
  · rcases @listOpsConnecting_log cfg bearer deps claims ops with
      ⟨hreaches, hlog⟩ | ⟨hreaches, hlog⟩
    · rw [hlog, allClosed_probeLog_iff]
      simp [hreaches]
    · rw [hlog]
      simp [AllClosed, hreaches]

section Sample

private def grantedDeps : RemediationDeps where
  discoverOps := .ok sampleOpsDiscovery
  prepareOps := ⟨some "svid", .ok "kid", .error noText⟩
  exchangeOps := fun _ ↦ .ok ⟨"token", "DPoP", 300, "ops:write", ""⟩
  acquireInspect := .ok "token"
  openInspect := .ok ()
  openOps := ⟨.ok (), none⟩
  obtainLlmToken := ⟨.ok "token", none⟩
  runLlm := ⟨.ok ⟨"done", .arr []⟩, none⟩
  closeInspect := ⟨.ok (), none⟩
  closeOps := ⟨.ok (), none⟩

/-- The client connects, and the server does not answer `tools/list`. -/
private def listingFails : OpeningSteps :=
  ⟨.ok (), .ok (), .error (.other "Error" "upstream timeout"), .ok (), .ok ()⟩

/-- The read connection of a remediation and the connection of a probe stay open when listing the
tools fails. -/
theorem listing_failure_leaks :
    (¬ ∀ cfg bearer goal payload deps connections,
      AllClosed (remediateConnecting cfg bearer goal payload deps connections).1) ∧
    ¬ ∀ cfg bearer claims deps ops,
      AllClosed (listOpsConnecting cfg bearer claims deps ops).1 := by
  constructor
  · intro h
    have hclosed := h sampleConfig "bearer" "restart checkout"
      (Json.obj [("sub", .str "alice"), ("acr", .str "mfa")]).get? grantedDeps
      ⟨listingFails, listingFails⟩
    have hlog : (remediateConnecting sampleConfig "bearer" "restart checkout"
        (Json.obj [("sub", .str "alice"), ("acr", .str "mfa")]).get? grantedDeps
        ⟨listingFails, listingFails⟩).1 = [.opened .inspect] := rfl
    rw [hlog] at hclosed
    simp [AllClosed] at hclosed
  · intro h
    have hclosed := h sampleConfig "bearer" ⟨"alice", some "mfa", []⟩ grantedDeps listingFails
    have hlog : (listOpsConnecting sampleConfig "bearer" ⟨"alice", some "mfa", []⟩ grantedDeps
        listingFails).1 = [.opened .ops] := rfl
    rw [hlog] at hclosed
    simp [AllClosed] at hclosed

end Sample

end AgentsAuth.Specialist
