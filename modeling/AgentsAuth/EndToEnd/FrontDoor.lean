import AgentsAuth.EndToEnd.WriteTools
import AgentsAuth.Gateway.Policies

/-!
# The front door

Requests for `/ops/mcp` on their way through the gateway: `mcpAuthentication`, the callout to the
shim, `authorization` and `mcpAuthorization`, in the order that
`k8s/workloads/agentgateway-config.yaml` records, in front of mcp-ops and beside everything else
that happens to it. The rules of the gateway and the checks behind it agree: what the gateway
refuses would not have changed the cluster, and what it lets through no role and no namespace
stops.
-/

namespace AgentsAuth.EndToEnd

open AgentsAuth.Api AgentsAuth.AuthCurity AgentsAuth.Base AgentsAuth.Curity AgentsAuth.Gateway
open AgentsAuth.Lib

/-- The token in a header, `authorizationLocation`: `agentgateway-config.yaml:216–217`. -/
def locatedToken (authorization : String) : String :=
  if "DPoP ".toList.isPrefixOf authorization.toList then stripPrefix "DPoP " authorization
  else stripPrefix "Bearer " authorization

/-- `callerAuth.replace(/^Bearer\s+/i, '')`: `apps/exchange-shim/src/app.ts:104`. -/
def callerToken (callerAuth : String) : String :=
  let rest := callerAuth.toList.drop 6
  if (callerAuth.toList.take 6).map Char.toLower = "bearer".toList ∧ rest.head?.any isSpace then
    String.ofList (rest.dropWhile isSpace)
  else callerAuth

/-- What the shim does about a callout: it refuses, finds the token in its cache, or asks Curity
with the SVID that it finds. -/
inductive ShimTurn where
  | refuses
  | reuses
  | exchanges (svid : Option String) (worker : Nat) (env : Surroundings) (fresh : Fresh)

/-- A request for the route `ops`, with what it meets on its way and what the call of a tool meets
behind the gateway. -/
structure GatewayCall where
  authorization : Option String
  message : Message
  shim : ShimTurn
  svid : Option String
  worker : Nat
  env : Surroundings
  fresh : Fresh
  delivery : Delivery
  now : String

/-- The services of the write path behind the gateway, and how this checks a token for an audience,
`mcpAuthentication`. -/
structure FrontDoor (σ : Type) where
  path : WritePath σ
  verify : String → String → Option Claims

/-- The services, and what the shim has been granted for which caller's token. -/
structure DoorState (σ : Type) where
  world : World σ
  granted : List (String × TokenData)

/-- A step of the system: one beside the gateway, or a request to it. -/
inductive DoorEvent where
  | beside (e : WorldEvent)
  | gateway (g : GatewayCall)

/-- What a step is answered with. -/
inductive DoorAnswer where
  | beside (answer : WorldAnswer)
  | unauthorized
  | unexchanged
  | denied (exchanged : TokenData)
  | hidden (exchanged : TokenData)
  | passed (exchanged : TokenData)
  | forwarded (exchanged : TokenData) (answer : ToolAnswer)

namespace DoorAnswer

/-- The token that the shim got for a request. -/
def exchanged : DoorAnswer → Option TokenData
  | denied d => some d
  | hidden d => some d
  | passed d => some d
  | forwarded d _ => some d
  | _ => none

end DoorAnswer

namespace FrontDoor

variable {σ : Type} (F : FrontDoor σ)

/-- The request to mcp-ops for a call, with the token that the transformation puts into its header:
`agentgateway-config.yaml:336–342`. -/
def onward (g : GatewayCall) (d : TokenData) (tool : String) (args : Option Json) : ToolRequest :=
  { authorization := some ("Bearer " ++ F.path.jose.compact d)
    tool := tool
    args := args.getD .null
    svid := g.svid
    worker := g.worker
    env := g.env
    fresh := g.fresh
    delivery := g.delivery
    now := g.now }

/-- The exchange of the shim for the route's audience: `exchange-handler.ts:69–77` with the scope
of `config.ts:42`. -/
def shimRequest (s : DoorState σ) (token : String) (svid : Option String) (worker : Nat)
    (env : Surroundings) (fresh : Fresh) : ExchangeRequest :=
  { worker := worker
    subject := s.world.mint.ledger.findIdx fun m ↦ F.path.jose.compact m.token = token
    clientId := gatewayClient
    actorToken := svid
    audiences := .collection [opsRoute.targetAudience]
    scopes := .collection ["ops:write"]
    env := env
    fresh := fresh }

/-- The callout of `extAuthz`: the token that the shim answers with, if any. -/
def callout (s : DoorState σ) (token : String) : ShimTurn → DoorState σ × Option TokenData
  | .refuses => (s, none)
  | .reuses => (s, s.granted.lookup token)
  | .exchanges svid worker env fresh =>
    match exchangeStep F.path.curity s.world.mint (F.shimRequest s token svid worker env fresh) with
    | (mint, .error _) => (⟨⟨mint, s.world.cluster⟩, s.granted⟩, none)
    | (mint, .ok d) => (⟨⟨mint, s.world.cluster⟩, (token, d) :: s.granted⟩, some d)

/-- The token of a request with its claims, once `mcpAuthentication` accepts it. -/
def authenticated (g : GatewayCall) : Option (String × Claims) :=
  g.authorization.bind fun authorization ↦
    (F.verify opsRoute.audience (locatedToken authorization)).map (locatedToken authorization, ·)

/-- What the gateway does with a request that the shim has got a token for. -/
def judge (s : DoorState σ) (g : GatewayCall) (claims : Claims) (d : TokenData) :
    DoorState σ × DoorAnswer :=
  if opsRoute.denies claims g.message then (s, .denied d)
  else if !opsRoute.allows claims g.message then (s, .hidden d)
  else
    match g.message with
    | .other _ => (s, .passed d)
    | .call tool args =>
      (⟨(F.path.callTool s.world (F.onward g d tool args)).1, s.granted⟩,
        .forwarded d (F.path.callTool s.world (F.onward g d tool args)).2)

/-- A request to the gateway. -/
def serve (s : DoorState σ) (g : GatewayCall) : DoorState σ × DoorAnswer :=
  match F.authenticated g with
  | none => (s, .unauthorized)
  | some (token, claims) =>
    match F.callout s (callerToken ("Bearer " ++ token)) g.shim with
    | (s, none) => (s, .unexchanged)
    | (s, some d) => F.judge s g claims d

/-- The system. -/
def machine : Machine (DoorState σ) DoorEvent DoorAnswer where
  init := ⟨F.path.machine.init, []⟩
  step s
    | .beside e =>
      (⟨(F.path.machine.step s.world e).1, s.granted⟩, .beside (F.path.machine.step s.world e).2)
    | .gateway g => F.serve s g

end FrontDoor

/-- In a run the gateway admits no token but those minted before it is presented; what verifies
reads as what was minted, for an audience that it was minted for; and a compact form has no blanks
around it. -/
structure Admits {σ : Type} (F : FrontDoor σ) (es : List DoorEvent) : Prop where
  minted : ∀ before g token claims, before ++ [.gateway g] <+: es →
    F.authenticated g = some (token, claims) →
    ∃ m ∈ (F.machine.run before).world.mint.ledger, token = F.path.jose.compact m.token
  verified : ∀ m ∈ (F.machine.run es).world.mint.ledger, ∀ audience claims,
    F.verify audience (F.path.jose.compact m.token) = some claims →
      claims = tokenClaims m.token ∧ audience ∈ m.token.aud
  sound : ∀ m ∈ (F.machine.run es).world.mint.ledger, F.path.jose.SoundFor m.token
  trimmed : ∀ m ∈ (F.machine.run es).world.mint.ledger,
    trim (F.path.jose.compact m.token) = F.path.jose.compact m.token

/-- The configuration of mcp-ops that the rules of the gateway are written for:
`set_deployment_image` for `sre` alone, any write role for the other tools, and `prod` where a call
names no namespace. -/
structure InStep {σ : Type} (W : WritePath σ) : Prop where
  setImage : ∀ role, role ∈ McpOps.requiredRoles W.toolRequiredRoles "set_deployment_image" ↔
    role = "sre"
  others : ∀ tool ∈ ["restart_deployment", "scale_deployment"],
    McpOps.requiredRoles W.toolRequiredRoles tool = [] ∨
      ∀ role ∈ ["sre", "oncall"], role ∈ McpOps.requiredRoles W.toolRequiredRoles tool
  ns : W.targetNamespace = "prod"

/-- A token that the gateway has got in exchange for a caller's, for mcp-ops. -/
def GrantedFor {σ : Type} (F : FrontDoor σ) (ledger : List Minted) (token : String)
    (d : TokenData) : Prop :=
  ∃ (i subject : Nat) (m : Minted), ledger[i]? =
      some ⟨d, .exchange subject ⟨gatewayClient, some spiffeGateway, ["mcp-ops"]⟩⟩ ∧
    ledger[subject]? = some m ∧ F.path.jose.compact m.token = token

/-- A request to the gateway in a state. What is refused would have had no effect behind the
gateway; a call that is let through has the roles that mcp-ops asks for and is about `prod`; no rule
refuses a message that calls no tool; the token that goes on is one that the gateway itself got for
the caller's; and nothing but a call that is let through changes the cluster. -/
structure Agrees {σ : Type} (F : FrontDoor σ) (s : DoorState σ) (g : GatewayCall) : Prop where
  refused : ∀ d tool args, g.message = .call tool args →
    (F.serve s g).2 = .denied d ∨ (F.serve s g).2 = .hidden d →
      F.path.effect (F.serve s g).1.world (.tool (F.onward g d tool args)) = []
  forwarded : ∀ d answer, (F.serve s g).2 = .forwarded d answer →
    ∃ tool args, g.message = .call tool args ∧ ∀ caller auth call,
      McpOps.authMiddleware F.path.jose (McpOps.loadConfig F.path.issuer F.path.jwksUri)
        (F.onward g d tool args).authorization = .next caller auth →
      parseCall tool (F.onward g d tool args).args = some call →
        McpOps.roleGate F.path.toolRequiredRoles auth.roles call.args.tool = none ∧
          call.ns.getD F.path.targetNamespace = "prod"
  passed : ∀ d method, g.message = .other method → (F.serve s g).2.exchanged = some d →
    (F.serve s g).2 = .passed d
  exchanged : ∀ d, (F.serve s g).2.exchanged = some d →
    ∃ token claims, F.authenticated g = some (token, claims) ∧
      GrantedFor F (F.serve s g).1.world.mint.ledger token d
  unchanged : (∀ d answer, (F.serve s g).2 ≠ .forwarded d answer) →
    (F.serve s g).1.world.cluster = s.world.cluster

section Runs

variable {σ : Type} {F : FrontDoor σ} {s s' : DoorState σ} {g : GatewayCall} {token : String}
  {d : TokenData}

/-- What holds after every run: everything has been minted by the two procedures, and what the shim
remembers was granted for the token that it is remembered by. -/
structure Kept (F : FrontDoor σ) (s : DoorState σ) : Prop where
  minted : ∃ ms, s.world.mint = (minting F.path.curity).run ms
  granted : ∀ token d, (token, d) ∈ s.granted → GrantedFor F s.world.mint.ledger token d

private theorem GrantedFor.mono {ledger ledger' : List Minted} (h : GrantedFor F ledger token d)
    (hpre : ledger <+: ledger') : GrantedFor F ledger' token d := by
  obtain ⟨later, rfl⟩ := hpre
  obtain ⟨i, subject, m, hi, hsubject, hm⟩ := h
  refine ⟨i, subject, m, ?_, ?_, hm⟩
  · rw [List.getElem?_append_left (List.getElem?_eq_some_iff.mp hi).1, hi]
  · rw [List.getElem?_append_left (List.getElem?_eq_some_iff.mp hsubject).1, hsubject]

/-- The actor and the scopes of the gateway's edge to mcp-ops. -/
private theorem edge_gateway : ∀ e ∈ policyEdges, e.clientId = gatewayClient →
    e.audience = "mcp-ops" → e.actor = spiffeGateway ∧ e.scopes = ["ops:write"] := by
  decide

private theorem grantedFor_exchange {svid : Option String} {worker : Nat} {env : Surroundings}
    {fresh : Fresh} {mint : MintState}
    (h : exchangeStep F.path.curity s.world.mint (F.shimRequest s token svid worker env fresh) =
      (mint, .ok d)) :
    GrantedFor F mint.ledger token d := by
  rcases exchangeStep_cases F.path.curity s.world.mint
      (F.shimRequest s token svid worker env fresh) with ⟨e, he, -⟩ | ⟨d', hd', hledger, hacc⟩
  · rw [h] at he
    cases he
  · rw [h] at hd' hledger
    cases hd'
    obtain ⟨parent, ctx, e, hparent, hex, hhop⟩ := hacc
    have hclient : gatewayClient = e.clientId := congrArg Hop.clientId hhop
    have haudience : ["mcp-ops"] = [e.audience] := congrArg Hop.audiences hhop
    have hactor := (edge_gateway e hex.edge hclient.symm (List.singleton_inj.mp haudience).symm).1
    rw [← hclient, ← haudience, hactor] at hhop
    refine ⟨s.world.mint.ledger.length,
      (F.shimRequest s token svid worker env fresh).subject, parent, ?_, ?_, ?_⟩
    · rw [hledger, hhop, List.getElem?_concat_length]
    · rw [hledger, List.getElem?_append_left (List.getElem?_eq_some_iff.mp hparent).1, hparent]
    · obtain ⟨hlength, hget⟩ := List.getElem?_eq_some_iff.mp hparent
      have hfound := List.findIdx_getElem (w := hlength)
      rw [← hget]
      exact of_decide_eq_true hfound

/-- A callout leaves the cluster alone, and what comes of it was granted for the token. -/
private theorem callout_spec {turn : ShimTurn} {o : Option TokenData} (hs : Kept F s)
    (h : F.callout s token turn = (s', o)) :
    Kept F s' ∧ s.world.mint.ledger <+: s'.world.mint.ledger ∧ s'.world.cluster = s.world.cluster ∧
      ∀ d ∈ o, GrantedFor F s'.world.mint.ledger token d := by
  unfold FrontDoor.callout at h
  split at h
  · cases h
    exact ⟨hs, List.prefix_refl _, rfl, fun d hd ↦ absurd hd (Option.not_mem_none d)⟩
  · cases h
    refine ⟨hs, List.prefix_refl _, rfl, ?_⟩
    intro d hd
    obtain ⟨before, after, heq, -⟩ := List.lookup_eq_some_iff.mp hd
    apply hs.granted token d
    rw [heq]
    exact List.mem_append_right before (List.mem_cons_self ..)
  · next svid worker env fresh =>
    obtain ⟨ms, hms⟩ := hs.minted
    have hminted : (exchangeStep F.path.curity s.world.mint
        (F.shimRequest s token svid worker env fresh)).1 = (minting F.path.curity).run
          (ms ++ [.exchange (F.shimRequest s token svid worker env fresh)]) := by
      rw [Machine.run_concat, ← hms]
      rfl
    have hpre := ledger_exchangeStep F.path.curity s.world.mint
      (F.shimRequest s token svid worker env fresh)
    split at h
    · next mint e hstep =>
      cases h
      rw [hstep] at hminted hpre
      exact ⟨⟨⟨_, hminted⟩, fun token d hd ↦ (hs.granted token d hd).mono hpre⟩, hpre, rfl,
        fun d hd ↦ absurd hd (Option.not_mem_none d)⟩
    · next mint d hstep =>
      cases h
      have hgranted := grantedFor_exchange hstep
      rw [hstep] at hminted hpre
      refine ⟨⟨⟨_, hminted⟩, ?_⟩, hpre, rfl, ?_⟩
      · intro token' d' hd'
        rcases List.mem_cons.mp hd' with heq | hd'
        · cases heq
          exact hgranted
        · exact (hs.granted token' d' hd').mono hpre
      · intro d' hd'
        cases hd'
        exact hgranted

private theorem kept_world (hs : Kept F s) (e : WorldEvent) :
    Kept F ⟨(F.path.machine.step s.world e).1, s.granted⟩ := by
  obtain ⟨ms, hms⟩ := hs.minted
  refine ⟨?_, fun token d hd ↦ (hs.granted token d hd).mono (ledger_step s.world e)⟩
  rcases mint_step (W := F.path) s.world e with h | ⟨me, h⟩
  · exact ⟨ms, h.trans hms⟩
  · refine ⟨ms ++ [me], ?_⟩
    rw [Machine.run_concat, ← hms]
    exact h

/-- A request is judged once there is a token for it. -/
private theorem judged_of_exchanged (h : (F.serve s g).2.exchanged = some d) :
    ∃ token claims s', F.authenticated g = some (token, claims) ∧
      F.callout s (callerToken ("Bearer " ++ token)) g.shim = (s', some d) ∧
      F.serve s g = F.judge s' g claims d := by
  unfold FrontDoor.serve at h ⊢
  cases hauth : F.authenticated g with
  | none =>
    rw [hauth] at h
    cases h
  | some presented =>
    obtain ⟨token, claims⟩ := presented
    rw [hauth] at h
    cases hcallout : F.callout s (callerToken ("Bearer " ++ token)) g.shim with
    | mk s' o =>
      simp only [hcallout] at h
      cases o with
      | none => cases h
      | some d' =>
        have hsame : d' = d := by
          simp only [FrontDoor.judge] at h
          split at h
          · exact Option.some.inj h
          · split at h
            · exact Option.some.inj h
            · split at h
              · exact Option.some.inj h
              · exact Option.some.inj h
        subst hsame
        exact ⟨token, claims, s', rfl, hcallout, by simp only [hcallout]⟩

private theorem kept_judge {claims : Claims} (hs : Kept F s) : Kept F (F.judge s g claims d).1 := by
  unfold FrontDoor.judge
  split
  · exact hs
  · split
    · exact hs
    · split
      · exact hs
      · next tool args _ => exact kept_world hs (.tool (F.onward g d tool args))

private theorem ledger_judge {claims : Claims} :
    s.world.mint.ledger <+: (F.judge s g claims d).1.world.mint.ledger := by
  unfold FrontDoor.judge
  split
  · exact List.prefix_refl _
  · split
    · exact List.prefix_refl _
    · split
      · exact List.prefix_refl _
      · next tool args _ => exact ledger_step s.world (.tool (F.onward g d tool args))

private theorem kept_step (hs : Kept F s) (e : DoorEvent) :
    Kept F (F.machine.step s e).1 ∧
      s.world.mint.ledger <+: (F.machine.step s e).1.world.mint.ledger := by
  cases e with
  | beside e => exact ⟨kept_world hs e, ledger_step s.world e⟩
  | gateway g =>
    show Kept F (F.serve s g).1 ∧ s.world.mint.ledger <+: (F.serve s g).1.world.mint.ledger
    unfold FrontDoor.serve
    split
    · exact ⟨hs, List.prefix_refl _⟩
    · next token claims _ =>
      split
      · next s' hcallout =>
        obtain ⟨hs', hpre, -, -⟩ := callout_spec hs hcallout
        exact ⟨hs', hpre⟩
      · next s' d hcallout =>
        obtain ⟨hs', hpre, -, -⟩ := callout_spec hs hcallout
        exact ⟨kept_judge hs', hpre.trans ledger_judge⟩

private theorem kept_run (F : FrontDoor σ) (es : List DoorEvent) : Kept F (F.machine.run es) := by
  apply F.machine.run_invariant (I := Kept F)
  · exact ⟨⟨[], rfl⟩, fun token d hd ↦ absurd hd List.not_mem_nil⟩
  · intro s e hs
    exact (kept_step hs e).1

private theorem ledger_run {before es : List DoorEvent} (h : before <+: es) :
    (F.machine.run before).world.mint.ledger <+: (F.machine.run es).world.mint.ledger := by
  obtain ⟨later, rfl⟩ := h
  induction later using List.reverseRecOn with
  | nil => rw [List.append_nil]
  | append_singleton later e ih =>
    rw [← List.append_assoc, Machine.run_concat]
    exact ih.trans (kept_step (kept_run F _) e).2

/-- What Curity has checked of a caller's token by the time that the gateway has another for it. -/
structure Checked (F : FrontDoor σ) (ledger : List Minted) (token : String) (d : TokenData)
    (m : Minted) (roles : List String) : Prop where
  minted : m ∈ ledger
  exchanged : ∃ m' ∈ ledger, m'.token = d
  compact : F.path.jose.compact m.token = token
  array : m.token.roles = .items (.array roles)
  kept : claimToArray d.roles = roles
  writeRole : "sre" ∈ roles ∨ "oncall" ∈ roles
  scope : "ops:write" ∈ m.token.subjectScopes
  joined : m.token.scope = some (" ".intercalate m.token.subjectScopes)

private theorem checked_of_granted {ms : List MintEvent}
    (h : GrantedFor F ((minting F.path.curity).run ms).ledger token d)
    (haud : ∀ m ∈ ((minting F.path.curity).run ms).ledger, F.path.jose.compact m.token = token →
      opsRoute.audience ∈ m.token.aud) :
    ∃ m roles, Checked F ((minting F.path.curity).run ms).ledger token d m roles := by
  obtain ⟨i, subject, m, hi, hsubject, hcompact⟩ := h
  have hm := List.mem_of_getElem? hsubject
  obtain ⟨parent, ctx, e, -, hparent, hex, hhop⟩ := exchange_entry hi
  obtain rfl : m = parent := Option.some.inj (hsubject.symm.trans hparent)
  have hclient : gatewayClient = e.clientId := congrArg Hop.clientId hhop
  have haudience : ["mcp-ops"] = [e.audience] := congrArg Hop.audiences hhop
  have hscopes := (edge_gateway e hex.edge hclient.symm (List.singleton_inj.mp haudience).symm).2
  have hwrite : "ops:write" ∈ d.subjectScopes := by
    obtain ⟨scope, hscope⟩ := List.exists_mem_of_ne_nil _ hex.subjectScopes_ne_nil
    have hedge := (hex.mem_subjectScopes.mp hscope).2.2
    rw [hscopes, List.mem_singleton] at hedge
    rwa [hedge] at hscope
  have hpresented : claimToArray (presentToken F.path.curity m.token).roles =
      claimToArray m.token.roles := F.path.curity.claimToArray_presentRoles m.token.roles
  -- a token for the gateway is not from a login, so that its claims have the form of an exchange
  obtain ⟨t, origin⟩ := m
  cases origin with
  | login =>
    obtain ⟨login, rfl⟩ := login_entry hsubject
    have hlogin : opsRoute.audience ∈ ["agent-copilot"] := haud _ hm hcompact
    exact absurd hlogin (by decide)
  | exchange subject' hop =>
    obtain ⟨_, _, _, -, -, hex', -⟩ := exchange_entry hsubject
    have hrole := hex.hasWriteRole hwrite
    rw [TokenData.hasWriteRole, hpresented, Bool.or_eq_true, List.contains_iff_mem,
      List.contains_iff_mem] at hrole
    have hkept := hex.roles.trans hpresented
    rcases roles_of_exchange F.path.curity ms _ hm (by simp) with habsent | ⟨roles, hroles⟩
    · simp only at habsent hrole
      rw [habsent] at hrole
      simp [claimToArray, setToArray] at hrole
    · simp only at hroles hrole hkept
      rw [hroles] at hrole hkept
      exact ⟨_, roles, hm, ⟨_, List.mem_of_getElem? hi, rfl⟩, hcompact, hroles, hkept, hrole,
        (hex.mem_subjectScopes.mp hwrite).2.1, hex'.scope_eq⟩

/-- The rules about the caller, for a token that Curity has exchanged. -/
private theorem applies_of_checked {ledger : List Minted} {m : Minted} {roles : List String}
    (h : Checked F ledger token d m roles) (tool : String) (args : Option Json) :
    (applies (tokenClaims m.token) (.call tool args) roleRule = true ↔
      tool = "set_deployment_image" ∧ "sre" ∉ roles) ∧
    (opsRoute.allows (tokenClaims m.token) (.call tool args) = true ↔
      tool ∈ ["restart_deployment", "scale_deployment", "set_deployment_image"]) := by
  have hclaim : tokenClaims m.token "roles" = some (jsonStrings roles) := by
    show rolesJson m.token.roles = _
    rw [h.array]
    rfl
  have hscope : applies (tokenClaims m.token) (.call tool args) (hasScope "ops:write") = true :=
    (applies_hasScope_joined_iff (List.ne_nil_of_mem h.scope) h.joined).mpr h.scope
  constructor
  · rw [applies_roleRule_iff, hclaim, Option.map_some, Option.bind_some, contains_texts]
    simp
  · show applies _ _ (tierRule _ _) = true ↔ _
    rw [applies_tierRule_iff]
    exact and_iff_right hscope

/-- The shim reads the token that the gateway has verified. -/
private theorem callerToken_bearer (h : trim token = token) :
    callerToken ("Bearer " ++ token) = token := by
  have htake : ("Bearer " ++ token).toList.take 6 = "Bearer".toList := by
    rw [String.toList_append]
    rfl
  have hdrop : ("Bearer " ++ token).toList.drop 6 = ' ' :: token.toList := by
    rw [String.toList_append]
    rfl
  have hlower : "Bearer".toList.map Char.toLower = "bearer".toList := by decide
  have hblank : (' ' :: token.toList).head?.any isSpace = true := rfl
  have hrest : (' ' :: token.toList).dropWhile isSpace = token.toList := by
    rw [List.dropWhile_cons_of_pos (by decide)]
    exact dropWhile_eq_self_iff_head?.mpr (trim_eq_self_iff.mp h).1
  rw [callerToken]
  simp only [htake, hdrop, hlower, hblank, and_self, if_true, hrest, String.ofList_toList]

end Runs

section Parsed

variable {tool : String} {args : Json} {call : ToolCall}

private theorem tool_of_parseOwn {own : ToolArgs} (h : parseOwn tool args = some own) :
    own.tool = tool := by
  unfold parseOwn at h
  split at h
  · next htool =>
    cases h
    exact htool.symm
  · split at h
    · next htool =>
      split at h
      · split at h
        · cases h
          exact htool.symm
        · cases h
      · cases h
    · split at h
      · next htool =>
        split at h
        · split at h
          · cases h
            exact htool.symm
          · cases h
        · cases h
      · cases h

/-- A call that a schema lets through is one of its tool, with the namespace in the arguments. -/
private theorem of_parseCall (h : parseCall tool args = some call) :
    call.args.tool = tool ∧ optionalText (args.get? "namespace") = some call.ns := by
  unfold parseCall at h
  split at h
  · next name ns reason own _ hns _ hown =>
    split at h
    · cases h
      exact ⟨tool_of_parseOwn hown, hns⟩
    · cases h
  · cases h

private theorem tool_mem (own : ToolArgs) :
    own.tool ∈ ["restart_deployment", "scale_deployment", "set_deployment_image"] := by
  cases own with
  | restart => simp [ToolArgs.tool]
  | setImage image => simp [ToolArgs.tool]
  | scale replicas => simp [ToolArgs.tool]

end Parsed

section Agreement

variable {σ : Type} {F : FrontDoor σ} {s : DoorState σ} {g : GatewayCall} {d : TokenData}
  {tool : String} {args : Option Json} {roles : List String}

/-- Behind the gateway mcp-ops reads the roles of the caller's token. -/
private theorem roles_onward {caller : VerifiedJwt} {auth : McpOps.AuthInfo}
    (hsound : F.path.jose.SoundFor d) (htrim : trim (F.path.jose.compact d) = F.path.jose.compact d)
    (hnext : McpOps.authMiddleware F.path.jose (McpOps.loadConfig F.path.issuer F.path.jwksUri)
      (F.onward g d tool args).authorization = .next caller auth) :
    auth.roles = claimToArray d.roles := by
  have htoken := token_of_next hnext
  rw [FrontDoor.onward, bearerToken_bearer, htrim, Option.some.injEq] at htoken
  exact roles_of_next hnext htoken hsound

/-- A call that would change the cluster has the roles for its tool, and is about `prod`. -/
private theorem of_effect {world : World σ} (hsound : F.path.jose.SoundFor d)
    (htrim : trim (F.path.jose.compact d) = F.path.jose.compact d)
    (hne : F.path.effect world (.tool (F.onward g d tool args)) ≠ []) :
    ∃ call, parseCall tool (F.onward g d tool args).args = some call ∧
      McpOps.roleGate F.path.toolRequiredRoles (claimToArray d.roles) call.args.tool = none ∧
      call.ns.getD F.path.targetNamespace = "prod" := by
  obtain ⟨⟨field, value⟩, hmem⟩ := List.exists_mem_of_ne_nil _ hne
  obtain ⟨req, caller, hreceived, hns, hasks, -⟩ := received_of_effect hmem
  obtain ⟨auth, call, d', hsends⟩ := sends_of_sent hreceived
  obtain ⟨caller', hauth⟩ := hsends.authorized
  refine ⟨call, hsends.parsed, ?_, ?_⟩
  · rw [← roles_onward hsound htrim hauth]
    exact hsends.allowed
  · rw [requestWrites_callRequest _ hsends.request, toolWrites] at hasks
    obtain ⟨write, -, hwrite⟩ := List.mem_map.mp hasks
    cases hwrite
    exact hns

private theorem roleGate_eq_none (hin : InStep F.path) (hrole : "sre" ∈ roles ∨ "oncall" ∈ roles)
    (own : ToolArgs) : McpOps.roleGate F.path.toolRequiredRoles roles own.tool = none ↔
      ¬(own.tool = "set_deployment_image" ∧ "sre" ∉ roles) := by
  rw [McpOps.roleGate, Option.map_eq_none_iff, McpOps.toolRoleDenial_eq_none_iff]
  by_cases htool : own.tool = "set_deployment_image"
  · have hne : McpOps.requiredRoles F.path.toolRequiredRoles "set_deployment_image" ≠ [] :=
      List.ne_nil_of_mem ((hin.setImage "sre").mpr rfl)
    rw [htool, or_iff_right hne]
    constructor
    · rintro ⟨role, hrequired, hmem⟩ ⟨-, hnot⟩
      rw [(hin.setImage role).mp hrequired] at hmem
      exact hnot hmem
    · intro hnot
      rw [not_and, not_not] at hnot
      exact ⟨"sre", (hin.setImage "sre").mpr rfl, hnot rfl⟩
  · have hother : own.tool ∈ ["restart_deployment", "scale_deployment"] := by
      have hmem := tool_mem own
      simp only [List.mem_cons, List.not_mem_nil, or_false] at hmem ⊢
      tauto
    constructor
    · intro _ hboth
      exact htool hboth.1
    · intro _
      rcases hin.others own.tool hother with hnone | hall
      · exact Or.inl hnone
      · rcases hrole with hsre | honcall
        · exact Or.inr ⟨"sre", hall "sre" (by simp), hsre⟩
        · exact Or.inr ⟨"oncall", hall "oncall" (by simp), honcall⟩

/-- The namespace rule refuses just the calls that are about another namespace. -/
private theorem ns_of_parseCall (claims : Claims) {call : ToolCall} (hin : InStep F.path)
    (hcall : parseCall tool (F.onward g d tool args).args = some call) :
    applies claims (.call tool args) namespaceRule = true ↔
      call.ns.getD F.path.targetNamespace ≠ "prod" := by
  have hns := (of_parseCall hcall).2
  have hargs : (F.onward g d tool args).args = args.getD .null := rfl
  rw [hargs] at hns
  rw [applies_namespaceRule_iff, hin.ns]
  generalize call.ns = ns at hns
  cases args with
  | none =>
    cases hns
    simp
  | some args =>
    cases args with
    | obj members =>
      have hget : (Json.obj members).get? "namespace" = members.lookup "namespace" := rfl
      rw [Option.getD_some, hget] at hns
      cases hvalue : members.lookup "namespace" with
      | none =>
        rw [hvalue] at hns
        cases hns
        simp [hvalue]
      | some value =>
        rw [hvalue] at hns
        cases value with
        | str text =>
          cases hns
          simp [hvalue]
        | _ => cases hns
    | _ =>
      cases hns
      simp

/-- The two rules of the HTTP layer refuse a call, of a caller that Curity has checked, where what
is behind the gateway would. -/
private theorem denies_iff {ledger : List Minted} {m : Minted} {token : String} {call : ToolCall}
    (hin : InStep F.path) (hchecked : Checked F ledger token d m roles)
    (hcall : parseCall tool (F.onward g d tool args).args = some call) :
    opsRoute.denies (tokenClaims m.token) (.call tool args) = true ↔
      McpOps.roleGate F.path.toolRequiredRoles roles call.args.tool ≠ none ∨
        call.ns.getD F.path.targetNamespace ≠ "prod" := by
  have htool := (of_parseCall hcall).1
  have hgate := roleGate_eq_none hin hchecked.writeRole call.args
  rw [htool] at hgate
  have hrole := (applies_of_checked hchecked tool args).1
  have hns := ns_of_parseCall (tokenClaims m.token) hin hcall
  rw [RoutePolicies.denies, List.any_eq_true, htool, ne_eq, hgate, not_not, ← hrole, ← hns]
  simp [opsRoute]

/-- A request of a run for which the shim has got a token. -/
private structure Judged (F : FrontDoor σ) (s s' : DoorState σ)
    (g : GatewayCall) (d : TokenData) (token : String) (m : Minted) (roles : List String) :
    Prop where
  authenticated : F.authenticated g = some (token, tokenClaims m.token)
  serve : F.serve s g = F.judge s' g (tokenClaims m.token) d
  checked : Checked F s'.world.mint.ledger token d m roles
  granted : GrantedFor F s'.world.mint.ledger token d
  cluster : s'.world.cluster = s.world.cluster
  sound : F.path.jose.SoundFor d
  trimmed : trim (F.path.jose.compact d) = F.path.jose.compact d

private theorem exists_judged {es before : List DoorEvent} (hadmits : Admits F es)
    (hoccurs : before ++ [.gateway g] <+: es)
    (h : (F.serve (F.machine.run before) g).2.exchanged = some d) :
    ∃ s' token m roles, Judged F (F.machine.run before) s' g d token m roles := by
  obtain ⟨token, claims, s', hauth, hcallout, hserve⟩ := judged_of_exchanged h
  have hbefore : before <+: es := (List.prefix_append before _).trans hoccurs
  have hstep : (F.machine.run (before ++ [.gateway g])) = (F.judge s' g claims d).1 := by
    rw [Machine.run_concat, ← hserve]
    rfl
  -- the token is one of the ledger, so that the shim reads it as it is
  have htoken : callerToken ("Bearer " ++ token) = token := by
    obtain ⟨m, hm, rfl⟩ := hadmits.minted before g token claims hoccurs hauth
    exact callerToken_bearer (hadmits.trimmed m ((ledger_run hbefore).subset hm))
  rw [htoken] at hcallout
  obtain ⟨hkept, hpre, hcluster, hgranted⟩ := callout_spec (kept_run F before) hcallout
  have hall : s'.world.mint.ledger <+: (F.machine.run es).world.mint.ledger := by
    have hjudge : s'.world.mint.ledger <+:
        (F.machine.run (before ++ [.gateway g])).world.mint.ledger := by
      rw [hstep]
      exact ledger_judge
    exact hjudge.trans (ledger_run hoccurs)
  have hverified : F.verify opsRoute.audience token = some claims := by
    obtain ⟨authorization, -, hverify⟩ := Option.bind_eq_some_iff.mp hauth
    obtain ⟨claims', hclaims, heq⟩ := Option.map_eq_some_iff.mp hverify
    cases heq
    exact hclaims
  have hclaims : ∀ m ∈ s'.world.mint.ledger, F.path.jose.compact m.token = token →
      claims = tokenClaims m.token ∧ opsRoute.audience ∈ m.token.aud := by
    rintro m hm rfl
    exact hadmits.verified m (hall.subset hm) _ _ hverified
  have hgrantedFor := hgranted d rfl
  obtain ⟨ms, hms⟩ := hkept.minted
  obtain ⟨m, roles, hchecked⟩ : ∃ m roles, Checked F s'.world.mint.ledger token d m roles := by
    rw [hms] at hgrantedFor hclaims ⊢
    exact checked_of_granted hgrantedFor fun m hm hcompact ↦ (hclaims m hm hcompact).2
  obtain ⟨m', hm', hissued⟩ := hchecked.exchanged
  have hsame := (hclaims m hchecked.minted hchecked.compact).1
  subst hsame
  refine ⟨s', token, m, roles, hauth, hserve, hchecked, hgrantedFor, hcluster, ?_, ?_⟩
  · rw [← hissued]
    exact hadmits.sound m' (hall.subset hm')
  · rw [← hissued]
    exact hadmits.trimmed m' (hall.subset hm')

/-- What is not forwarded is not forwarded for a rule, or calls no tool. -/
private theorem judge_cases (F : FrontDoor σ) (s : DoorState σ) (g : GatewayCall) (claims : Claims)
    (d : TokenData) :
    F.judge s g claims d = (s, .denied d) ∧ opsRoute.denies claims g.message = true ∨
    F.judge s g claims d = (s, .hidden d) ∧ opsRoute.allows claims g.message = false ∨
    F.judge s g claims d = (s, .passed d) ∨
    ∃ tool args, g.message = .call tool args ∧ opsRoute.denies claims g.message = false ∧
      F.judge s g claims d =
        (⟨(F.path.callTool s.world (F.onward g d tool args)).1, s.granted⟩,
          .forwarded d (F.path.callTool s.world (F.onward g d tool args)).2) := by
  unfold FrontDoor.judge
  split
  · next hdenies => exact Or.inl ⟨rfl, hdenies⟩
  · next hdenies =>
    split
    · next hallows => exact Or.inr (Or.inl ⟨rfl, by simpa using hallows⟩)
    · split
      · exact Or.inr (Or.inr (Or.inl rfl))
      · next tool args hmessage =>
        exact Or.inr (Or.inr (Or.inr ⟨tool, args, hmessage, by simpa using hdenies, rfl⟩))

/-- In every run the front door and what stands behind it agree on every request. -/
theorem front_door_agrees {es before : List DoorEvent} (hin : InStep F.path)
    (hadmits : Admits F es) (hoccurs : before ++ [.gateway g] <+: es) :
    Agrees F (F.machine.run before) g where
  refused := by
    intro d tool args hmessage hrefused
    have hexchanged : (F.serve (F.machine.run before) g).2.exchanged = some d := by
      rcases hrefused with h | h
      · rw [h]
        rfl
      · rw [h]
        rfl
    obtain ⟨s', token, m, roles, hjudged⟩ := exists_judged hadmits hoccurs hexchanged
    by_contra hne
    obtain ⟨call, hcall, hgate, hns⟩ := of_effect hjudged.sound hjudged.trimmed hne
    rw [hjudged.checked.kept] at hgate
    have hdenies := denies_iff hin hjudged.checked hcall
    have hallows := (applies_of_checked hjudged.checked tool args).2
    rw [hjudged.serve] at hrefused
    rcases judge_cases F s' g (tokenClaims m.token) d with
      ⟨-, h⟩ | ⟨-, h⟩ | h | ⟨tool', args', -, -, h⟩
    · rw [hmessage, hdenies] at h
      exact h.elim (fun h ↦ h hgate) fun h ↦ h hns
    · rw [hmessage, ← Bool.not_eq_true, hallows, ← (of_parseCall hcall).1] at h
      exact h (tool_mem call.args)
    · rw [h] at hrefused
      simp at hrefused
    · rw [h] at hrefused
      simp at hrefused
  forwarded := by
    intro d answer hforwarded
    have hexchanged : (F.serve (F.machine.run before) g).2.exchanged = some d := by
      rw [hforwarded]
      rfl
    obtain ⟨s', token, m, roles, hjudged⟩ := exists_judged hadmits hoccurs hexchanged
    rw [hjudged.serve] at hforwarded
    rcases judge_cases F s' g (tokenClaims m.token) d with
      ⟨h, -⟩ | ⟨h, -⟩ | h | ⟨tool, args, hmessage, hdenies, -⟩
    · rw [h] at hforwarded
      cases hforwarded
    · rw [h] at hforwarded
      cases hforwarded
    · rw [h] at hforwarded
      cases hforwarded
    · refine ⟨tool, args, hmessage, ?_⟩
      intro caller auth call hnext hcall
      rw [hmessage, ← Bool.not_eq_true, denies_iff hin hjudged.checked hcall, not_or, not_not,
        not_not] at hdenies
      rw [roles_onward hjudged.sound hjudged.trimmed hnext, hjudged.checked.kept]
      exact hdenies
  passed := by
    intro d method hmessage hexchanged
    obtain ⟨s', token, m, roles, hjudged⟩ := exists_judged hadmits hoccurs hexchanged
    rw [hjudged.serve]
    rcases judge_cases F s' g (tokenClaims m.token) d with
      ⟨-, h⟩ | ⟨-, h⟩ | h | ⟨tool, args, h, -, -⟩
    · rw [hmessage, denies_other] at h
      cases h
    · rw [hmessage] at h
      cases h
    · rw [h]
    · rw [hmessage] at h
      cases h
  exchanged := by
    intro d hexchanged
    obtain ⟨s', token, m, roles, hjudged⟩ := exists_judged hadmits hoccurs hexchanged
    refine ⟨token, _, hjudged.authenticated, ?_⟩
    rw [hjudged.serve]
    exact hjudged.granted.mono ledger_judge
  unchanged := by
    intro hnot
    unfold FrontDoor.serve at hnot ⊢
    split
    · rfl
    · next token claims hauth =>
      simp only [hauth] at hnot
      split
      · next s' hcallout => exact (callout_spec (kept_run F before) hcallout).2.2.1
      · next s' d hcallout =>
        simp only [hcallout] at hnot
        have hcluster := (callout_spec (kept_run F before) hcallout).2.2.1
        rcases judge_cases F s' g claims d with ⟨h, -⟩ | ⟨h, -⟩ | h | ⟨tool, args, -, -, h⟩
        · rw [h]
          exact hcluster
        · rw [h]
          exact hcluster
        · rw [h]
          exact hcluster
        · rw [h] at hnot
          exact absurd rfl (hnot _ _)

end Agreement

section Sample

private def gatewayIssued : TokenData :=
  issued "t2" "mcp-gateway" (some actSpecialist) (some spiffeGateway)

/-- The sample path behind a gateway that admits the token of the specialist. -/
private def sampleDoor : FrontDoor (OpsApi.Field → Option Json) where
  path := samplePath
  verify := fun audience token ↦
    if audience = "mcp-gateway" ∧ token = "e30.t2.sig" then some (tokenClaims gatewayIssued)
    else none

private def toGateway : List DoorEvent := (toMcpOps.take 3).map .beside

/-- A call for a Deployment outside `prod`. -/
private def outsideProd : GatewayCall :=
  ⟨some "DPoP e30.t2.sig",
    .call "scale_deployment" (some (.obj [("name", .str "coredns"), ("replicas", .num ⟨0, "0"⟩),
      ("namespace", .str "kube-system")])),
    .exchanges (some "e30.gateway.sig") 0 ⟨0, 0, .response 200 "key"⟩ ⟨"t3", 600⟩,
    some "e30.mcp-ops.sig", 0, ⟨0, 0, .response 200 "key"⟩, ⟨"t4", 600⟩, .answered, "now"⟩

private theorem denied_outsideProd :
    (sampleDoor.serve (sampleDoor.machine.run toGateway) outsideProd).2 = .denied mcpOpsIssued :=
  rfl

private theorem ledger_toGateway :
    (sampleDoor.machine.run (toGateway ++ [.gateway outsideProd])).world.mint.ledger.map
      Minted.token = mintedTokens.take 4 := rfl

private theorem inStep_sampleDoor : InStep sampleDoor.path where
  setImage := by
    intro role
    have hroles : McpOps.requiredRoles sampleDoor.path.toolRequiredRoles "set_deployment_image" =
        ["sre"] := rfl
    rw [hroles, List.mem_singleton]
  others := by
    intro tool htool
    simp only [List.mem_cons, List.not_mem_nil, or_false] at htool
    rcases htool with rfl | rfl
    · exact Or.inr fun role hrole ↦ hrole
    · exact Or.inr fun role hrole ↦ hrole
  ns := rfl

private theorem mem_ledger_outsideProd {m : Minted}
    (h : m ∈ (sampleDoor.machine.run (toGateway ++ [.gateway outsideProd])).world.mint.ledger) :
    m.token ∈ mintedTokens := by
  have hmem := List.mem_map_of_mem (f := Minted.token) h
  rw [ledger_toGateway] at hmem
  exact List.mem_of_mem_take hmem

private theorem admits_outsideProd : Admits sampleDoor (toGateway ++ [.gateway outsideProd]) where
  minted := by
    intro before g token claims hoccurs hauth
    rcases List.prefix_concat_iff.mp hoccurs with heq | hpre
    · obtain ⟨rfl, hg⟩ := List.append_inj' heq rfl
      cases hg
      have htoken : token = "e30.t2.sig" := by
        have hsome : sampleDoor.authenticated outsideProd =
            some ("e30.t2.sig", tokenClaims gatewayIssued) := rfl
        rw [hsome] at hauth
        cases hauth
        rfl
      have hmem : gatewayIssued ∈
          (sampleDoor.machine.run toGateway).world.mint.ledger.map Minted.token := by
        have hledger : (sampleDoor.machine.run toGateway).world.mint.ledger.map Minted.token =
            mintedTokens.take 3 := rfl
        rw [hledger]
        simp [mintedTokens, gatewayIssued]
      obtain ⟨m, hm, hissued⟩ := List.mem_map.mp hmem
      refine ⟨m, hm, ?_⟩
      rw [htoken, hissued]
      rfl
    · have hmem : DoorEvent.gateway g ∈ toGateway := hpre.subset (by simp)
      obtain ⟨e, -, he⟩ := List.mem_map.mp hmem
      cases he
  verified := by
    intro m hm audience claims hclaims
    have hmem := mem_ledger_outsideProd hm
    generalize m.token = t at hmem hclaims
    simp only [sampleDoor] at hclaims
    split at hclaims
    · next hboth =>
      obtain ⟨rfl, htoken⟩ := hboth
      cases hclaims
      simp only [mintedTokens, List.mem_cons, List.not_mem_nil, or_false] at hmem
      rcases hmem with rfl | rfl | rfl | rfl | rfl
      · exact absurd htoken (by decide)
      · exact absurd htoken (by decide)
      · exact ⟨rfl, List.mem_singleton_self _⟩
      · exact absurd htoken (by decide)
      · exact absurd htoken (by decide)
    · cases hclaims
  sound := fun m hm ↦ soundFor_mintedTokens m.token (mem_ledger_outsideProd hm)
  trimmed := fun m hm ↦ trim_mintedTokens m.token (mem_ledger_outsideProd hm)

/-- A call for a Deployment outside `prod` is refused, and would have changed nothing. -/
theorem front_door_agrees_sample :
    ∃ d tool args, outsideProd.message = .call tool args ∧
      (sampleDoor.serve (sampleDoor.machine.run toGateway) outsideProd).2 = .denied d ∧
      sampleDoor.path.effect
          (sampleDoor.serve (sampleDoor.machine.run toGateway) outsideProd).1.world
          (.tool (sampleDoor.onward outsideProd d tool args)) = [] :=
  ⟨mcpOpsIssued, _, _, rfl, denied_outsideProd,
    (front_door_agrees inStep_sampleDoor admits_outsideProd (List.prefix_refl _)).refused
      mcpOpsIssued _ _ rfl (Or.inl denied_outsideProd)⟩

end Sample

end AgentsAuth.EndToEnd
