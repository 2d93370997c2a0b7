import AgentsAuth.Api.ClusterWrites
import AgentsAuth.Api.McpOps
import AgentsAuth.Api.Provenance
import AgentsAuth.Api.ToolRoles
import AgentsAuth.EndToEnd.CallableTools

/-!
# From a tool call to the cluster

The three tools of `apps/mcp-ops/src/mcp.ts` with the exchange and the requests of
`apps/mcp-ops/src/ops-api-client.ts`, in front of ops-api and beside a Curity that mints tokens for
anybody. What a tool asks for is what ops-api sets, and every change of the cluster goes back to a
login with MFA and with a role that the tool asks for.
-/

namespace AgentsAuth.EndToEnd

open AgentsAuth.Api AgentsAuth.AuthCurity AgentsAuth.Base AgentsAuth.Curity AgentsAuth.Lib
open AgentsAuth.Api.OpsApi (Route Request KubeApi Field Target Step)

/-- What the arguments of the three tools differ in: `mcp.ts:84–101`, `146–157`, `187–196`. -/
inductive ToolArgs where
  | restart
  | setImage (image : { s : String // s ≠ "" })
  | scale (replicas : Fin 21)

/-- The arguments that an `inputSchema` lets through. -/
structure ToolCall where
  name : String
  ns : Option String
  reason : Option String
  args : ToolArgs
  name_ne : name ≠ ""
  reason_le : ∀ text ∈ reason, (codeUnits text).length ≤ 512

/-- `z.string().optional()`; the outer `none` is a refusal. -/
def optionalText : Option Json → Option (Option String)
  | none => some none
  | some (.str s) => some (some s)
  | some _ => none

/-- The arguments of a tool's own. -/
def parseOwn (tool : String) (args : Json) : Option ToolArgs :=
  if tool = "restart_deployment" then some .restart
  else if tool = "set_deployment_image" then
    match Json.string? (args.get? "image") with
    | some image => if h : image ≠ "" then some (.setImage ⟨image, h⟩) else none
    | none => none
  else if tool = "scale_deployment" then
    match args.get? "replicas" with
    | some (.num n) =>
      if n.value.den = 1 ∧ 0 ≤ n.value.num ∧ n.value.num ≤ 20 then
        some (.scale (Fin.ofNat 21 n.value.num.toNat))
      else none
    | _ => none
  else none

/-- The `inputSchema` of a tool; `none` where there is no such tool or its schema refuses. -/
def parseCall (tool : String) (args : Json) : Option ToolCall :=
  match Json.string? (args.get? "name"), optionalText (args.get? "namespace"),
      optionalText (args.get? "reason"), parseOwn tool args with
  | some name, some ns, some reason, some own =>
    if h : name ≠ "" ∧ ∀ text ∈ reason, (codeUnits text).length ≤ 512 then
      some ⟨name, ns, reason, own, h.1, h.2⟩
    else none
  | _, _, _, _ => none

namespace ToolArgs

/-- The name under which a tool is registered. -/
def tool : ToolArgs → String
  | restart => "restart_deployment"
  | setImage _ => "set_deployment_image"
  | scale _ => "scale_deployment"

/-- The error name of its `catch`. -/
def failed : ToolArgs → String
  | restart => "restart_failed"
  | setImage _ => "set_image_failed"
  | scale _ => "scale_failed"

/-- The route of ops-api that the tool is for. -/
def route : ToolArgs → Route
  | restart => .restart
  | setImage _ => .setImage
  | scale _ => .scale

/-- The argument that goes into the body beside those that all tools have. -/
def member : ToolArgs → Option (String × Json)
  | restart => none
  | setImage image => some ("image", .str image.val)
  | scale replicas => some ("replicas", .num ⟨replicas.val, toString replicas.val⟩)

end ToolArgs

/-- `JSON.stringify(args)` of the three calls, as `express.json()` reads it back. -/
def callBody (targetNamespace : String) (call : ToolCall) : Json :=
  .obj ([("name", .str call.name)] ++ call.args.member.toList ++
    [("namespace", .str (call.ns.getD targetNamespace))] ++
    (call.reason.map fun reason ↦ ("reason", Json.str reason)).toList)

/-- `value.replace(suffix, '')` for a pattern that is anchored at the end. -/
def dropSuffix (value suffix : String) : String :=
  if suffix.toList.isSuffixOf value.toList then
    String.ofList (value.toList.take (value.toList.length - suffix.toList.length))
  else value

/-- Model of `opsApiBase`, `ops-api-client.ts:33–36`. -/
def opsApiBase (opsApiUrl : String) : String := dropSuffix opsApiUrl "/restart"

/-- The URL of a call: `ops-api-client.ts:119`, `138`, `147`. -/
def callUrl (opsApiUrl : String) : ToolArgs → String
  | .restart => opsApiUrl
  | .setImage _ => opsApiBase opsApiUrl ++ "/set-image"
  | .scale _ => opsApiBase opsApiUrl ++ "/scale"

/-- The paths that ops-api has routes for. -/
def routePath : Route → String
  | .restart => "/restart"
  | .setImage => "/set-image"
  | .scale => "/scale"

/-- The route that a URL of an ops-api at that origin leads to. -/
def dispatch (origin url : String) : Option Route :=
  [Route.restart, Route.setImage, Route.scale].find? fun route ↦ url = origin ++ routePath route

/-- What happens to a `POST` on its way. -/
inductive Delivery where
  | answered
  | answerLost
  | notSent
deriving DecidableEq

/-- The services of the write path, with what a cluster's desired state is kept in. -/
structure WritePath (σ : Type) where
  curity : Curity.Server
  jose : Jose
  kube : KubeApi σ
  issuer : String
  jwksUri : String
  /-- `TARGET_NAMESPACE` of ops-api and of mcp-ops. -/
  opsApiNamespace : String
  targetNamespace : String
  toolRequiredRoles : McpOps.ToolRoles
  /-- Where ops-api listens. -/
  origin : String
  cluster : σ
  stringify : Json → String
  /-- The message of the error that `exchangeToken` throws for a refusal. -/
  exchangeMessage : ProcedureError → String

/-- A tool call, with what it meets on its way. -/
structure ToolRequest where
  authorization : Option String
  tool : String
  args : Json
  svid : Option String
  worker : Nat
  env : Surroundings
  fresh : Fresh
  delivery : Delivery
  now : String

/-- What the caller of a tool gets. -/
inductive ToolAnswer where
  | refused (response : Response)
  | invalidArguments
  | result (content : Json) (isError : Bool)

/-- Everything minted and the cluster. -/
structure World (σ : Type) where
  mint : MintState
  cluster : σ

/-- A step of the system: something is minted, somebody sends ops-api a request, or a tool is
called. -/
inductive WorldEvent where
  | mint (e : MintEvent)
  | request (req : Request)
  | tool (t : ToolRequest)

/-- What a step is answered with. -/
inductive WorldAnswer where
  | minted (result : Except ProcedureError TokenData)
  | response (response : Response)
  | tool (answer : ToolAnswer)

namespace WritePath

variable {σ : Type} (W : WritePath σ)

/-- `OPS_API_URL`: `k8s/workloads/mcp-ops.yaml:97–98`. -/
def opsApiUrl : String := W.origin ++ "/restart"

/-- The request for an ops-api token: `ops-api-client.ts:75–83`. Curity looks the subject token up
among everything it has minted. -/
def exchangeRequest (s : World σ) (t : ToolRequest) (token : String) : ExchangeRequest :=
  { worker := t.worker
    subject := s.mint.ledger.findIdx fun m ↦ W.jose.compact m.token = token
    clientId := mcpOpsClient
    actorToken := t.svid
    audiences := .collection ["ops-api"]
    scopes := .collection ["ops:write"]
    env := t.env
    fresh := t.fresh }

/-- The request to ops-api with a bearer token; `none` is a 404. -/
def callRequest (call : ToolCall) (bearer now : String) : Option Request :=
  (dispatch W.origin (callUrl W.opsApiUrl call.args)).map fun route ↦
    { route := route
      authorization := some ("Bearer " ++ bearer)
      body := callBody W.targetNamespace call
      now := now }

/-- ops-api's handling of a request. -/
def handle (s : World σ) (req : Request) : OpsApi.Handled σ :=
  OpsApi.handle W.kube W.jose (OpsApi.loadConfig W.issuer W.jwksUri) W.opsApiNamespace s.cluster req

/-- The result of a call that failed with a message. -/
def failure (args : ToolArgs) (message : String) : ToolAnswer :=
  .result (.obj [("error", .str args.failed), ("message", .str message)]) true

/-- What the tool makes of a response of ops-api: `postJson`, `ops-api-client.ts:38–50`. -/
def readResponse (args : ToolArgs) (response : Response) : ToolAnswer :=
  if response.status = 200 then .result response.body false
  else failure args ("ops-api responded " ++ toString response.status ++ ": " ++
    W.stringify response.body)

/-- The `POST` of a call. -/
def post (s : World σ) (t : ToolRequest) (call : ToolCall) (bearer : String) :
    World σ × ToolAnswer :=
  match t.delivery, W.callRequest call bearer t.now with
  | .notSent, _ => (s, failure call.args "fetch failed")
  | _, none => (s, failure call.args "ops-api responded 404")
  | .answerLost, some req => (⟨s.mint, (W.handle s req).after⟩, failure call.args "fetch failed")
  | .answered, some req =>
    (⟨s.mint, (W.handle s req).after⟩, W.readResponse call.args (W.handle s req).response)

/-- `obtainOpsApiToken`, `ops-api-client.ts:61–86`: everything minted after it, and the token or the
result that the tool ends with. -/
def obtainOpsApiToken (s : World σ) (t : ToolRequest) (call : ToolCall) (token : String) :
    MintState × Except ToolAnswer String :=
  match t.svid with
  | none =>
    (s.mint, .error (failure call.args ("SPIFFE JWT-SVID not available at " ++
      "/run/spiffe/curity-actor.jwt (spiffe-helper not ready?)")))
  | some _ =>
    match exchangeStep W.curity s.mint (W.exchangeRequest s t token) with
    | (mint, .error e) => (mint, .error (failure call.args (W.exchangeMessage e)))
    | (mint, .ok d) => (mint, .ok (W.jose.compact d))

/-- A tool call up to its `POST`, behind the middleware and the schema: `mcp.ts:103–123`,
`158–170`, `198–210`. -/
def prepare (s : World σ) (t : ToolRequest) : MintState × Except ToolAnswer (ToolCall × String) :=
  match McpOps.authMiddleware W.jose (McpOps.loadConfig W.issuer W.jwksUri) t.authorization with
  | .respond response => (s.mint, .error (.refused response))
  | .next _ auth =>
    match parseCall t.tool t.args with
    | none => (s.mint, .error .invalidArguments)
    | some call =>
      match McpOps.roleGate W.toolRequiredRoles auth.roles call.args.tool with
      | some denied => (s.mint, .error (.result denied true))
      | none =>
        match W.obtainOpsApiToken s t call auth.token with
        | (mint, .error answer) => (mint, .error answer)
        | (mint, .ok bearer) => (mint, .ok (call, bearer))

/-- A tool call. -/
def callTool (s : World σ) (t : ToolRequest) : World σ × ToolAnswer :=
  match W.prepare s t with
  | (mint, .error answer) => (⟨mint, s.cluster⟩, answer)
  | (mint, .ok (call, bearer)) => W.post ⟨mint, s.cluster⟩ t call bearer

/-- The system. -/
def machine : Machine (World σ) WorldEvent WorldAnswer where
  init := ⟨(minting W.curity).init, W.cluster⟩
  step s
    | .mint e =>
      (⟨((minting W.curity).step s.mint e).1, s.cluster⟩,
        .minted ((minting W.curity).step s.mint e).2)
    | .request req => (⟨s.mint, (W.handle s req).after⟩, .response (W.handle s req).response)
    | .tool t => ((W.callTool s t).1, .tool (W.callTool s t).2)

end WritePath

/-- The fields of a Deployment that the arguments of a tool call describe. -/
def described (call : ToolCall) (now : String) : List (List Step × Json) :=
  match call.args with
  | .restart =>
    (OpsApi.annotationPath "kubectl.kubernetes.io/restartedAt", .str now) ::
      ((call.reason.filter (· ≠ "")).map fun reason ↦
        (OpsApi.annotationPath "demo.curity.local/restart-reason", Json.str reason)).toList
  | .setImage image =>
    [(OpsApi.container call.name "name", .str call.name),
      (OpsApi.container call.name "image", .str image.val)]
  | .scale replicas =>
    [([.member "spec", .member "replicas"], .num ⟨replicas.val, toString replicas.val⟩)]

/-- The fields of the cluster that they describe. -/
def toolWrites (targetNamespace : String) (call : ToolCall) (now : String) : List (Field × Json) :=
  (described call now).map fun write ↦
    (⟨⟨call.ns.getD targetNamespace, call.name⟩, write.1⟩, write.2)

section Contract

variable {σ : Type} {W : WritePath σ} {s : World σ} {call : ToolCall} {bearer now : String}

private theorem takeUnits_eq_self {n : Nat} {cs : List Char}
    (h : (codeUnits (String.ofList cs)).length ≤ n) : OpsApi.takeUnits n cs = cs := by
  induction cs generalizing n with
  | nil => rfl
  | cons c cs ih =>
    rw [codeUnits, String.toList_ofList, List.flatMap_cons, List.length_append] at h
    rw [codeUnits, String.toList_ofList] at ih
    cases n with
    | zero =>
      split at h
      · simp at h
      · simp at h
    | succ n =>
      rw [OpsApi.takeUnits]
      split at h
      · next hlow =>
        rw [if_pos hlow, ih]
        simp only [List.length_singleton] at h
        omega
      · next hhigh =>
        simp only [List.length_cons, List.length_nil] at h
        rw [if_neg hhigh, if_neg (by omega), ih]
        omega

private theorem get?_callBody (call : ToolCall) (targetNamespace : String) :
    (callBody targetNamespace call).get? "name" = some (.str call.name) ∧
      (callBody targetNamespace call).get? "namespace" =
        some (.str (call.ns.getD targetNamespace)) ∧
      (callBody targetNamespace call).get? "reason" = call.reason.map Json.str ∧
      (∀ image, call.args = .setImage image →
        (callBody targetNamespace call).get? "image" = some (.str image.val)) ∧
      ∀ replicas, call.args = .scale replicas →
        (callBody targetNamespace call).get? "replicas" =
          some (.num ⟨replicas.val, toString replicas.val⟩) := by
  obtain ⟨name, ns, reason, args, hname, hreason⟩ := call
  cases args with
  | restart =>
    refine ⟨rfl, rfl, ?_, ?_, ?_⟩
    · cases reason with
      | none => rfl
      | some reason => rfl
    · intro image h
      cases h
    · intro replicas h
      cases h
  | setImage image =>
    refine ⟨rfl, rfl, ?_, ?_, ?_⟩
    · cases reason with
      | none => rfl
      | some reason => rfl
    · intro image h
      cases h
      rfl
    · intro replicas h
      cases h
  | scale replicas =>
    refine ⟨rfl, rfl, ?_, ?_, ?_⟩
    · cases reason with
      | none => rfl
      | some reason => rfl
    · intro image h
      cases h
    · intro replicas h
      cases h
      rfl

/-- A reason that the schema lets through is recorded in full. -/
private theorem annotation_reason (call : ToolCall) :
    (((call.reason.map Json.str).filter Json.truthy).bind OpsApi.slice512) =
      (call.reason.filter (· ≠ "")).map Json.str := by
  cases hreason : call.reason with
  | none => rfl
  | some reason =>
    by_cases hempty : reason = ""
    · subst hempty
      rfl
    · have hunits : (codeUnits (String.ofList reason.toList)).length ≤ 512 := by
        rw [String.ofList_toList]
        exact call.reason_le reason hreason
      have htext : OpsApi.slice512 (.str reason) = some (.str reason) := by
        rw [OpsApi.slice512, takeUnits_eq_self hunits, String.ofList_toList]
      simp [Option.filter, Json.truthy, hempty, htext]

/-- Every call of a tool leads to the route that it is for. -/
private theorem dispatch_callUrl (W : WritePath σ) (args : ToolArgs) :
    dispatch W.origin (callUrl W.opsApiUrl args) = some args.route := by
  have hbase : opsApiBase W.opsApiUrl = W.origin := by
    have hsuffix : "/restart".toList.isSuffixOf (W.origin ++ "/restart").toList = true := by
      rw [List.isSuffixOf_iff_suffix, String.toList_append]
      exact List.suffix_append _ _
    rw [opsApiBase, WritePath.opsApiUrl, dropSuffix, if_pos hsuffix, String.toList_append,
      List.length_append, Nat.add_sub_cancel, List.take_left, String.ofList_toList]
  have happend (a b : String) : W.origin ++ a = W.origin ++ b ↔ a = b := by
    rw [← String.toList_inj, String.toList_append, String.toList_append,
      List.append_cancel_left_eq, String.toList_inj]
  cases args with
  | restart => simp [dispatch, callUrl, WritePath.opsApiUrl, routePath, ToolArgs.route]
  | setImage image => simp [dispatch, callUrl, hbase, routePath, happend, ToolArgs.route]
  | scale replicas => simp [dispatch, callUrl, hbase, routePath, happend, ToolArgs.route]

/-- What ops-api gets from a tool call. -/
theorem callRequest_eq (W : WritePath σ) (call : ToolCall) (bearer now : String) :
    W.callRequest call bearer now =
      some ⟨call.args.route, some ("Bearer " ++ bearer), callBody W.targetNamespace call, now⟩ := by
  rw [WritePath.callRequest, dispatch_callUrl]
  rfl

/-- A tool call asks ops-api for what its arguments describe, whatever the default of ops-api. -/
theorem requestWrites_callRequest {req : Request} (opsApiNamespace : String)
    (h : W.callRequest call bearer now = some req) :
    OpsApi.requestWrites opsApiNamespace req = toolWrites W.targetNamespace call now := by
  rw [callRequest_eq, Option.some.injEq] at h
  subst h
  obtain ⟨hname, hns, hreason, himage, hreplicas⟩ := get?_callBody call W.targetNamespace
  have htarget : OpsApi.requestTarget opsApiNamespace
      ⟨call.args.route, some ("Bearer " ++ bearer), callBody W.targetNamespace call, now⟩ =
        some ⟨call.ns.getD W.targetNamespace, call.name⟩ := by
    simp [OpsApi.requestTarget, OpsApi.namespaceOr, hname, hns, Option.filter, Json.notNull]
  rw [OpsApi.requestWrites, htarget, toolWrites]
  apply congrArg (List.map _)
  rw [OpsApi.asked, described]
  cases hargs : call.args with
  | restart =>
    simp only [ToolArgs.route, hreason, annotation_reason, Option.map_map]
    rfl
  | setImage image => simp only [ToolArgs.route, himage image hargs, Option.map_some]; rfl
  | scale replicas => simp only [ToolArgs.route, hreplicas replicas hargs, Option.map_some]; rfl

private theorem status_answered {failed : String} {result : List (String × Option Json)}
    {r : OpsApi.PatchResult σ} : (OpsApi.answered failed result r).response.status ≠ 400 := by
  unfold OpsApi.answered
  cases r.answer with
  | ok generation => exact of_decide_eq_true rfl
  | error e =>
    simp only
    split
    · decide
    · split
      · decide
      · decide

/-- ops-api never finds anything missing in the body of a tool call. -/
theorem handle_ne_badRequest {req : Request} (h : W.callRequest call bearer now = some req) :
    (W.handle s req).response.status ≠ 400 := by
  rw [callRequest_eq, Option.some.injEq] at h
  subst h
  obtain ⟨hname, -, -, himage, hreplicas⟩ := get?_callBody call W.targetNamespace
  have htext : OpsApi.nonEmptyText? (some (.str call.name)) = some call.name := by
    simp [OpsApi.nonEmptyText?, Json.string?, Option.filter, call.name_ne]
  unfold WritePath.handle OpsApi.handle
  split
  · next response hresponse =>
    rcases OpsApi.status_of_respond hresponse with h | h | h | h
    · rw [h]
      decide
    · rw [h]
      decide
    · rw [h]
      decide
    · rw [h]
      decide
  · cases hargs : call.args with
    | restart =>
      simp only [ToolArgs.route, OpsApi.postRestart, hname, htext]
      exact status_answered
    | setImage image =>
      have hvalue : OpsApi.nonEmptyText? (some (.str image.val)) = some image.val := by
        simp [OpsApi.nonEmptyText?, Json.string?, Option.filter, image.property]
      simp only [ToolArgs.route, OpsApi.postSetImage, hname, htext, himage image hargs, hvalue]
      exact status_answered
    | scale replicas =>
      have htruthy : (some (Json.str call.name)).filter Json.truthy = some (.str call.name) := by
        simp [Option.filter, Json.truthy, call.name_ne]
      have hpos : ¬(replicas.val : ℚ) < 0 := by
        rw [not_lt]
        exact Nat.cast_nonneg _
      simp only [ToolArgs.route, OpsApi.postScale, hname, htruthy, hreplicas replicas hargs,
        if_neg hpos]
      exact status_answered

end Contract

namespace WritePath

variable {σ : Type} (W : WritePath σ)

/-- The request that a tool call sends to ops-api, if it gets that far. -/
def sent (s : World σ) (t : ToolRequest) : Option Request :=
  match (W.prepare s t).2 with
  | .error _ => none
  | .ok (call, bearer) =>
    if t.delivery = .notSent then none else W.callRequest call bearer t.now

/-- The request that ops-api gets in a step. -/
def received (s : World σ) : WorldEvent → Option Request
  | .mint _ => none
  | .request req => some req
  | .tool t => W.sent s t

/-- The fields of the cluster that a step sets. -/
def effect (s : World σ) (e : WorldEvent) : List (Field × Json) :=
  match W.received s e with
  | none => []
  | some req => OpsApi.effect W.kube W.jose (OpsApi.loadConfig W.issuer W.jwksUri)
      W.opsApiNamespace s.cluster req

end WritePath

section Steps

variable {σ : Type} {W : WritePath σ} {s : World σ} {t : ToolRequest}

private theorem cluster_callTool :
    (W.callTool s t).1.cluster =
      match W.sent s t with
      | none => s.cluster
      | some req => (W.handle s req).after := by
  unfold WritePath.callTool WritePath.sent
  cases hprepare : W.prepare s t with
  | mk mint prepared =>
    cases prepared with
    | error answer => rfl
    | ok called =>
      obtain ⟨call, bearer⟩ := called
      simp only [WritePath.post, callRequest_eq]
      cases t.delivery with
      | answered => rfl
      | answerLost => rfl
      | notSent => rfl

/-- A step makes of the cluster what ops-api makes of the request that it gets. -/
theorem cluster_step (s : World σ) (e : WorldEvent) :
    (W.machine.step s e).1.cluster =
      match W.received s e with
      | none => s.cluster
      | some req => (W.handle s req).after := by
  cases e with
  | mint e => rfl
  | request req => rfl
  | tool t => exact cluster_callTool

/-- Every step overwrites the fields of its effect. -/
theorem overwrites_machine :
    W.machine.Overwrites (fun s ↦ W.kube.desired s.cluster) W.effect where
  view := by
    intro s e
    rw [cluster_step, WritePath.effect]
    cases W.received s e with
    | none => rfl
    | some req =>
      exact (OpsApi.sound_handle W.kube W.jose (OpsApi.loadConfig W.issuer W.jwksUri)
        W.opsApiNamespace s.cluster req).after
  nodup := by
    intro s e
    rw [WritePath.effect]
    cases W.received s e with
    | none => exact List.nodup_nil
    | some req => exact OpsApi.nodup_effect _ _ _ _ s.cluster req

/-- A tool call that sends a request has passed every check of mcp-ops, and its token is one that
Curity mints in that very step. -/
structure Sends (W : WritePath σ) (s : World σ) (t : ToolRequest) (req : Request) (auth :
    McpOps.AuthInfo) (call : ToolCall) (d : TokenData) : Prop where
  authorized : ∃ caller, McpOps.authMiddleware W.jose (McpOps.loadConfig W.issuer W.jwksUri)
    t.authorization = .next caller auth
  parsed : parseCall t.tool t.args = some call
  allowed : McpOps.roleGate W.toolRequiredRoles auth.roles call.args.tool = none
  minted : (exchangeStep W.curity s.mint (W.exchangeRequest s t auth.token)).2 = .ok d
  mint : (W.machine.step s (.tool t)).1.mint =
    (exchangeStep W.curity s.mint (W.exchangeRequest s t auth.token)).1
  request : W.callRequest call (W.jose.compact d) t.now = some req

private theorem mint_callTool :
    (W.machine.step s (.tool t)).1.mint = (W.prepare s t).1 := by
  show (W.callTool s t).1.mint = _
  unfold WritePath.callTool
  cases W.prepare s t with
  | mk mint prepared =>
    cases prepared with
    | error answer => rfl
    | ok called =>
      simp only [WritePath.post, callRequest_eq]
      cases t.delivery with
      | answered => rfl
      | answerLost => rfl
      | notSent => rfl

private theorem mint_obtainOpsApiToken (call : ToolCall) (token : String) :
    (W.obtainOpsApiToken s t call token).1 = s.mint ∨
      (W.obtainOpsApiToken s t call token).1 =
        (exchangeStep W.curity s.mint (W.exchangeRequest s t token)).1 := by
  unfold WritePath.obtainOpsApiToken
  split
  · exact Or.inl rfl
  · right
    split
    · next mint e hstep => rw [hstep]
    · next mint d hstep => rw [hstep]

/-- A tool call mints nothing, or is one exchange. -/
private theorem mint_prepare :
    (W.prepare s t).1 = s.mint ∨
      ∃ r, (W.prepare s t).1 = (exchangeStep W.curity s.mint r).1 := by
  unfold WritePath.prepare
  split
  · exact Or.inl rfl
  · next caller auth _ =>
    split
    · exact Or.inl rfl
    · next call _ =>
      split
      · exact Or.inl rfl
      · have hobtain := mint_obtainOpsApiToken (W := W) (s := s) (t := t) call auth.token
        split
        · next mint answer heq =>
          rw [heq] at hobtain
          exact hobtain.imp id fun h ↦ ⟨_, h⟩
        · next mint bearer heq =>
          rw [heq] at hobtain
          exact hobtain.imp id fun h ↦ ⟨_, h⟩

private theorem prepare_of_checks {caller : VerifiedJwt} {auth : McpOps.AuthInfo} {call : ToolCall}
    {mint : MintState} {bearer : String}
    (hauth : McpOps.authMiddleware W.jose (McpOps.loadConfig W.issuer W.jwksUri) t.authorization =
      .next caller auth)
    (hcall : parseCall t.tool t.args = some call)
    (hgate : McpOps.roleGate W.toolRequiredRoles auth.roles call.args.tool = none)
    (hobtained : W.obtainOpsApiToken s t call auth.token = (mint, .ok bearer)) :
    W.prepare s t = (mint, .ok (call, bearer)) := by
  rw [WritePath.prepare, hauth]
  simp only [hcall, hgate, hobtained]

/-- Every request that a tool call sends is sent so. -/
theorem sends_of_sent {req : Request} (h : W.sent s t = some req) :
    ∃ auth call d, Sends W s t req auth call d := by
  have hmint := @mint_callTool σ W s t
  unfold WritePath.sent at h
  cases hprepared : (W.prepare s t).2 with
  | error answer =>
    rw [hprepared] at h
    cases h
  | ok called =>
    obtain ⟨call, bearer⟩ := called
    rw [hprepared] at h
    simp only at h
    split at h
    · cases h
    · unfold WritePath.prepare at hprepared hmint
      split at hprepared
      · cases hprepared
      · next caller auth hauth =>
        split at hprepared
        · cases hprepared
        · next call' hcall =>
          split at hprepared
          · cases hprepared
          · next hgate =>
            simp only [hauth, hcall, hgate] at hmint
            split at hprepared
            · cases hprepared
            · next mint bearer' hobtained =>
              cases hprepared
              unfold WritePath.obtainOpsApiToken at hobtained hmint
              split at hobtained
              · cases hobtained
              · next svid hsvid =>
                simp only [hsvid] at hmint
                split at hobtained
                · cases hobtained
                · next mint' d hstep =>
                  cases hobtained
                  simp only [hstep] at hmint
                  refine ⟨auth, call, d, ⟨caller, hauth⟩, hcall, hgate, ?_, ?_, h⟩
                  · rw [hstep]
                  · rw [hmint, hstep]

/-- A step mints what one event of the two procedures mints, if anything. -/
theorem mint_step (s : World σ) (e : WorldEvent) :
    (W.machine.step s e).1.mint = s.mint ∨
      ∃ me, (W.machine.step s e).1.mint = ((minting W.curity).step s.mint me).1 := by
  cases e with
  | mint e => exact Or.inr ⟨e, rfl⟩
  | request req => exact Or.inl rfl
  | tool t =>
    rw [mint_callTool]
    exact mint_prepare.imp id fun ⟨r, h⟩ ↦ ⟨.exchange r, h⟩

/-- What has been minted in a run is what some run of the two procedures mints. -/
theorem exists_mints (W : WritePath σ) (es : List WorldEvent) :
    ∃ ms, (W.machine.run es).mint = (minting W.curity).run ms := by
  apply W.machine.run_invariant (I := fun s ↦ ∃ ms, s.mint = (minting W.curity).run ms)
  · exact ⟨[], rfl⟩
  · rintro s e ⟨ms, hms⟩
    rcases mint_step (W := W) s e with h | ⟨me, h⟩
    · exact ⟨ms, h.trans hms⟩
    · refine ⟨ms ++ [me], ?_⟩
      rw [h, Machine.run_concat, ← hms]

private theorem obtained_error {call : ToolCall} {token : String} {answer : ToolAnswer}
    (h : (W.obtainOpsApiToken s t call token).2 = .error answer) :
    ∃ message, answer = WritePath.failure call.args message := by
  unfold WritePath.obtainOpsApiToken at h
  split at h
  · cases h
    exact ⟨_, rfl⟩
  · split at h
    · cases h
      exact ⟨_, rfl⟩
    · cases h

/-- A tool call that ends before its `POST` ends with an error. -/
private theorem prepare_error {answer : ToolAnswer} {content : Json}
    (h : (W.prepare s t).2 = .error answer) : answer ≠ .result content false := by
  unfold WritePath.prepare at h
  split at h
  · cases h
    exact ToolAnswer.noConfusion
  · next caller auth _ =>
    split at h
    · cases h
      exact ToolAnswer.noConfusion
    · next call _ =>
      split at h
      · cases h
        simp
      · split at h
        · next mint answer' heq =>
          cases h
          obtain ⟨message, rfl⟩ := obtained_error (congrArg Prod.snd heq)
          simp [WritePath.failure]
        · cases h

private theorem prepare_ok {call : ToolCall} {bearer : String}
    (h : (W.prepare s t).2 = .ok (call, bearer)) : parseCall t.tool t.args = some call := by
  unfold WritePath.prepare at h
  split at h
  · cases h
  · split at h
    · cases h
    · next call' hcall =>
      split at h
      · cases h
      · split at h
        · cases h
        · cases h
          exact hcall

private theorem effect_of_sent {req : Request} (h : W.sent s t = some req) :
    W.effect s (.tool t) = OpsApi.effect W.kube W.jose (OpsApi.loadConfig W.issuer W.jwksUri)
      W.opsApiNamespace s.cluster req := by
  rw [WritePath.effect, WritePath.received, h]

private theorem effect_success {content : Json}
    (h : (W.callTool s t).2 = .result content false) :
    ∃ call, parseCall t.tool t.args = some call ∧
      W.effect s (.tool t) = toolWrites W.targetNamespace call t.now := by
  unfold WritePath.callTool at h
  cases hprepare : W.prepare s t with
  | mk mint prepared =>
    have hsnd := congrArg Prod.snd hprepare
    rw [hprepare] at h
    cases prepared with
    | error answer => exact absurd h (prepare_error hsnd)
    | ok called =>
      obtain ⟨call, bearer⟩ := called
      have hsent (hdelivery : t.delivery ≠ .notSent) :
          W.sent s t = W.callRequest call bearer t.now := by
        rw [WritePath.sent, hsnd]
        exact if_neg hdelivery
      simp only [WritePath.post, callRequest_eq] at h
      cases hdelivery : t.delivery with
      | notSent =>
        rw [hdelivery] at h
        cases h
      | answerLost =>
        rw [hdelivery] at h
        cases h
      | answered =>
        rw [hdelivery] at h hsent
        have hreq := (hsent (by decide)).trans (callRequest_eq W call bearer t.now)
        have hanswered := OpsApi.asAnswered_handle W.kube W.jose
          (OpsApi.loadConfig W.issuer W.jwksUri) W.opsApiNamespace s.cluster
          ⟨call.args.route, some ("Bearer " ++ bearer), callBody W.targetNamespace call, t.now⟩
        refine ⟨call, prepare_ok hsnd, ?_⟩
        simp only [WritePath.readResponse] at h
        split at h
        · next hok =>
          rw [effect_of_sent hreq, hanswered.ok hok,
            requestWrites_callRequest _ (callRequest_eq W call bearer t.now)]
        · cases h

/-- What a tool tells its caller is so: a success means that the cluster has all that the arguments
describe, a call that sets anything sets all of it and had a caller with a role for the tool, and
ops-api never has anything to say against the body of a call. -/
theorem tool_answers_truthful (W : WritePath σ) (s : World σ) (t : ToolRequest) :
    (∀ content, (W.callTool s t).2 = .result content false →
      ∃ call, parseCall t.tool t.args = some call ∧
        W.effect s (.tool t) = toolWrites W.targetNamespace call t.now) ∧
    (W.effect s (.tool t) ≠ [] →
      ∃ call caller auth, parseCall t.tool t.args = some call ∧
        W.effect s (.tool t) = toolWrites W.targetNamespace call t.now ∧
        McpOps.authMiddleware W.jose (McpOps.loadConfig W.issuer W.jwksUri) t.authorization =
          .next caller auth ∧
        McpOps.roleGate W.toolRequiredRoles auth.roles call.args.tool = none) ∧
    ∀ req, W.sent s t = some req → (W.handle s req).response.status ≠ 400 := by
  refine ⟨fun content h ↦ effect_success h, ?_, ?_⟩
  · intro hne
    cases hsent : W.sent s t with
    | none =>
      rw [WritePath.effect, WritePath.received, hsent] at hne
      exact absurd rfl hne
    | some req =>
      obtain ⟨auth, call, d, hsends⟩ := sends_of_sent hsent
      obtain ⟨caller, hauth⟩ := hsends.authorized
      rw [effect_of_sent hsent] at hne ⊢
      have hanswered := OpsApi.asAnswered_handle W.kube W.jose
        (OpsApi.loadConfig W.issuer W.jwksUri) W.opsApiNamespace s.cluster req
      refine ⟨call, caller, auth, hsends.parsed, ?_, hauth, hsends.allowed⟩
      rw [(hanswered.target hne).1, requestWrites_callRequest _ hsends.request]
  · intro req hsent
    obtain ⟨auth, call, d, hsends⟩ := sends_of_sent hsent
    exact handle_ne_badRequest hsends.request

/-- No step takes anything off the ledger. -/
theorem ledger_step (s : World σ) (e : WorldEvent) :
    s.mint.ledger <+: (W.machine.step s e).1.mint.ledger := by
  cases e with
  | mint e => exact ledger_mint W.curity s.mint e
  | request req => exact List.prefix_refl _
  | tool t =>
    rw [mint_callTool]
    rcases @mint_prepare σ W s t with h | ⟨r, h⟩
    · rw [h]
    · rw [h]
      exact ledger_exchangeStep W.curity s.mint r

/-- Nothing that has been minted is ever lost. -/
theorem prefix_ledger {before es : List WorldEvent} (h : before <+: es) :
    (W.machine.run before).mint.ledger <+: (W.machine.run es).mint.ledger := by
  obtain ⟨later, rfl⟩ := h
  induction later using List.reverseRecOn with
  | nil => rw [List.append_nil]
  | append_singleton later e ih =>
    rw [← List.append_assoc, Machine.run_concat]
    exact ih.trans (ledger_step _ e)

end Steps

/-- The header of a step. -/
def WorldEvent.authorization : WorldEvent → Option String
  | .mint _ => none
  | .request req => req.authorization
  | .tool t => t.authorization

/-- In a run no token verifies but those minted before it is presented, and these read as what was
minted; a compact form has no blanks around it. -/
structure Genuine {σ : Type} (W : WritePath σ) (es : List WorldEvent) : Prop where
  minted : ∀ before e token opts claims, before ++ [e] <+: es →
    bearerToken e.authorization = some token → W.jose.jwtVerify token opts = .ok claims →
    ∃ m ∈ (W.machine.run before).mint.ledger, token = W.jose.compact m.token
  sound : ∀ before, before <+: es → ∀ m ∈ (W.machine.run before).mint.ledger,
    W.jose.SoundFor m.token
  trimmed : ∀ before, before <+: es → ∀ m ∈ (W.machine.run before).mint.ledger,
    trim (W.jose.compact m.token) = W.jose.compact m.token

/-- The login behind a token for ops-api, and the exchanges in between. -/
structure Behind {σ : Type} (W : WritePath σ) (ledger : List Minted) (j : Nat) (m : Minted)
    (ctx : LoginContext) : Prop where
  entry : ledger[j]? = some m
  derived : ∃ login, ledger[login]? = some ⟨authorizationCodeToken ctx, .login⟩ ∧
    DerivedFrom ledger login opsHops j
  consented : "ops:write" ∈ (authorizationCodeToken ctx).subjectScopes
  mfa : ctx.acr = some "mfa"
  writeRole : "sre" ∈ claimToArray ctx.roles ∨ "oncall" ∈ claimToArray ctx.roles

section Provenance

variable {σ : Type} {W : WritePath σ} {es before : List WorldEvent}

/-- A token in an `Authorization` header is read without the blanks around it. -/
theorem bearerToken_bearer (token : String) :
    bearerToken (some ("Bearer " ++ token)) = some (trim token) := by
  have hpre : ("Bearer " ++ token).toList.take 7 = "Bearer ".toList := by
    rw [String.toList_append]
    exact List.take_left' rfl
  have hrest : ("Bearer " ++ token).toList.drop 7 = token.toList := by
    rw [String.toList_append]
    exact List.drop_left' rfl
  have hlower : "Bearer ".toList.map Char.toLower = "bearer ".toList := by decide
  simp only [bearerToken, hpre, hrest, hlower, if_true, String.ofList_toList]

private theorem jwtVerify_of_verifyJwt {jose : Jose} {token : String} {opts : VerifyJwtOptions}
    {caller : VerifiedJwt} (h : verifyJwt jose token opts = .ok caller) :
    ∃ opts claims, jose.jwtVerify token opts = .ok claims := by
  unfold verifyJwt at h
  split at h
  · cases h
  · split at h
    · cases h
    · next payload hpayload => exact ⟨_, payload, hpayload⟩

private theorem behind_of_next {ms : List MintEvent} {j : Nat} {m : Minted}
    {authorization : Option String} {caller : VerifiedJwt}
    (hm : ((minting W.curity).run ms).ledger[j]? = some m) (hsound : W.jose.SoundFor m.token)
    (hbearer : bearerToken authorization = some (W.jose.compact m.token))
    (hnext : OpsApi.authMiddleware W.jose (OpsApi.loadConfig W.issuer W.jwksUri) authorization =
      .next caller) :
    ∃ ctx, Behind W ((minting W.curity).run ms).ledger j m ctx := by
  obtain ⟨login, ctx, hlogin, hfrom, hscope, hacr, hrole⟩ :=
    opsApi_provenance hm hsound hbearer hnext
  exact ⟨ctx, hm, ⟨login, hlogin, hfrom⟩, hscope, hacr, hrole⟩

/-- A request that passes presents a token that comes from a login. -/
private theorem behind_request {req : Request} {caller : VerifiedJwt} (hgenuine : Genuine W es)
    (hoccurs : before ++ [.request req] <+: es)
    (hnext : OpsApi.authMiddleware W.jose (OpsApi.loadConfig W.issuer W.jwksUri)
      req.authorization = .next caller) :
    ∃ j m ctx, Behind W (W.machine.run (before ++ [.request req])).mint.ledger j m ctx ∧
      bearerToken req.authorization = some (W.jose.compact m.token) := by
  obtain ⟨token, top, htoken, hverify, -⟩ := OpsApi.authMiddleware_next hnext
  obtain ⟨opts, claims, hclaims⟩ := jwtVerify_of_verifyJwt hverify
  obtain ⟨m, hm, rfl⟩ := hgenuine.minted before _ token opts claims hoccurs htoken hclaims
  obtain ⟨j, hj⟩ := List.mem_iff_getElem?.mp hm
  have hbefore : before <+: es := (List.prefix_append before _).trans hoccurs
  have hmint : (W.machine.run (before ++ [.request req])).mint = (W.machine.run before).mint := by
    rw [Machine.run_concat]
    rfl
  obtain ⟨ms, hms⟩ := exists_mints W before
  have hsound := hgenuine.sound before hbefore m hm
  rw [hms] at hj
  obtain ⟨ctx, hbehind⟩ := behind_of_next hj hsound htoken hnext
  rw [hmint, hms]
  exact ⟨j, m, ctx, hbehind, htoken⟩

/-- What `req.auth` says of a caller's token. -/
theorem authInfo_eq_some {token : String} {verified : VerifiedJwt} {chain : List String}
    {auth : McpOps.AuthInfo} (h : McpOps.authInfo token verified chain = some auth) :
    auth.token = token ∧ McpOps.readRoles verified.payload = some auth.roles := by
  unfold McpOps.authInfo at h
  obtain ⟨clientId, -, h⟩ := Option.bind_eq_some_iff.mp h
  obtain ⟨sub, -, h⟩ := Option.bind_eq_some_iff.mp h
  obtain ⟨roles, hroles, h⟩ := Option.bind_eq_some_iff.mp h
  cases h
  exact ⟨rfl, hroles⟩

/-- mcp-ops reads its caller's token from the header. -/
theorem token_of_next {authorization : Option String} {caller : VerifiedJwt}
    {auth : McpOps.AuthInfo}
    (hnext : McpOps.authMiddleware W.jose (McpOps.loadConfig W.issuer W.jwksUri) authorization =
      .next caller auth) :
    bearerToken authorization = some auth.token := by
  obtain ⟨token, htoken, -, -, -, ⟨top, -, -, hauth⟩, -⟩ :=
    McpOps.authMiddleware_next_iff.mp hnext
  rw [htoken, (authInfo_eq_some hauth).1]

/-- mcp-ops reads of its caller's token the roles that it was minted with. -/
theorem roles_of_next {authorization : Option String} {caller : VerifiedJwt}
    {auth : McpOps.AuthInfo} {d : TokenData}
    (hnext : McpOps.authMiddleware W.jose (McpOps.loadConfig W.issuer W.jwksUri) authorization =
      .next caller auth)
    (htoken : W.jose.compact d = auth.token) (hsound : W.jose.SoundFor d) :
    auth.roles = claimToArray d.roles := by
  obtain ⟨token, -, hverify, -, -, ⟨top, -, -, hauth⟩, -⟩ :=
    McpOps.authMiddleware_next_iff.mp hnext
  obtain ⟨hsame, hroles⟩ := authInfo_eq_some hauth
  rw [← hsame, ← htoken] at hverify
  obtain ⟨hpayload, -, -⟩ := verifyJwt_compact hsound hverify
  rw [hpayload, readRoles_tokenClaims, Option.some.injEq] at hroles
  exact hroles.symm

/-- The roles of a token are those of the login that it comes from. -/
private theorem roles_of_derivedFrom {ms : List MintEvent} {ctx : LoginContext} {login i : Nat}
    {hops : List Hop} {m : Minted} (hm : ((minting W.curity).run ms).ledger[i]? = some m)
    (hlogin : ((minting W.curity).run ms).ledger[login]? =
      some ⟨authorizationCodeToken ctx, .login⟩)
    (hfrom : DerivedFrom ((minting W.curity).run ms).ledger login hops i) :
    claimToArray m.token.roles = claimToArray ctx.roles := by
  obtain ⟨ctx', edges, hlogin', -, hd⟩ := derivation_of_derivedFrom hfrom hm
  rw [hlogin, Option.some.injEq, Minted.mk.injEq] at hlogin'
  have hctx : claimToArray (authorizationCodeToken ctx').roles = claimToArray ctx.roles := by
    rw [← hlogin'.1]
    rfl
  rw [hd.roles, hctx]

private theorem exists_getElem?_of_derivedFrom {ledger : List Minted} {login i : Nat}
    {hops : List Hop} (h : DerivedFrom ledger login hops i) : ∃ m, ledger[i]? = some m := by
  cases h with
  | login h => exact ⟨_, h⟩
  | exchange h _ => exact ⟨_, h⟩

/-- A request that a tool call sends and that passes presents a token that comes from a login, and
the login has a role that the tool asks for. -/
private theorem behind_sends {t : ToolRequest} {req : Request} {auth : McpOps.AuthInfo}
    {call : ToolCall} {d : TokenData} {caller : VerifiedJwt} (hgenuine : Genuine W es)
    (hoccurs : before ++ [.tool t] <+: es)
    (hsends : Sends W (W.machine.run before) t req auth call d)
    (hnext : OpsApi.authMiddleware W.jose (OpsApi.loadConfig W.issuer W.jwksUri)
      req.authorization = .next caller) :
    ∃ j m ctx, Behind W (W.machine.run (before ++ [.tool t])).mint.ledger j m ctx ∧
      (McpOps.requiredRoles W.toolRequiredRoles call.args.tool = [] ∨
        ∃ role ∈ McpOps.requiredRoles W.toolRequiredRoles call.args.tool,
          role ∈ claimToArray ctx.roles) := by
  obtain ⟨ms, hms⟩ := exists_mints W before
  have hstep : (W.machine.run (before ++ [.tool t])).mint =
      (exchangeStep W.curity (W.machine.run before).mint
        (W.exchangeRequest (W.machine.run before) t auth.token)).1 := by
    rw [Machine.run_concat, hsends.mint]
  have hmint : (W.machine.run (before ++ [.tool t])).mint =
      (minting W.curity).run
        (ms ++ [.exchange (W.exchangeRequest (W.machine.run before) t auth.token)]) := by
    rw [hstep, Machine.run_concat, ← hms]
    rfl
  -- the exchange appends the token that is sent on
  obtain ⟨hop, hledger⟩ : ∃ hop, (W.machine.run (before ++ [.tool t])).mint.ledger =
      (W.machine.run before).mint.ledger ++ [⟨d, .exchange
        (W.exchangeRequest (W.machine.run before) t auth.token).subject hop⟩] := by
    rcases exchangeStep_cases W.curity (W.machine.run before).mint
      (W.exchangeRequest (W.machine.run before) t auth.token) with ⟨e, he, -⟩ | ⟨d', hd', hl, -⟩
    · rw [hsends.minted] at he
      cases he
    · rw [hsends.minted] at hd'
      cases hd'
      exact ⟨_, (congrArg MintState.ledger hstep).trans hl⟩
  have hentry := congrArg (·[(W.machine.run before).mint.ledger.length]?) hledger
  simp only [List.getElem?_concat_length] at hentry
  have hmem := List.mem_of_getElem? hentry
  have hbearer : bearerToken req.authorization = some (W.jose.compact d) := by
    have hrequest := hsends.request
    rw [callRequest_eq, Option.some.injEq] at hrequest
    rw [← hrequest, bearerToken_bearer, hgenuine.trimmed _ hoccurs _ hmem]
  have hsound := hgenuine.sound _ hoccurs _ hmem
  rw [hmint] at hentry
  obtain ⟨ctx, hbehind⟩ := behind_of_next hentry hsound hbearer hnext
  obtain ⟨login, hlogin, hfrom⟩ := hbehind.derived
  have hrole : McpOps.requiredRoles W.toolRequiredRoles call.args.tool = [] ∨
      ∃ role ∈ McpOps.requiredRoles W.toolRequiredRoles call.args.tool,
        role ∈ claimToArray ctx.roles := by
    cases hfrom with
    | exchange h hbefore =>
      rw [hentry] at h
      cases h
      obtain ⟨parent, _, _, hlt, -⟩ := exchange_entry hentry
      obtain ⟨m, hm⟩ := exists_getElem?_of_derivedFrom hbefore
      -- the subject token is the caller's
      have hm' : (W.machine.run before).mint.ledger[(W.exchangeRequest (W.machine.run before) t
          auth.token).subject]? = some m := by
        rw [← hmint, hledger, List.getElem?_append_left hlt] at hm
        exact hm
      have htoken : W.jose.compact m.token = auth.token := by
        obtain ⟨hlength, hget⟩ := List.getElem?_eq_some_iff.mp hm'
        have hfound := List.findIdx_getElem (w := hlength)
        rw [← hget]
        exact of_decide_eq_true hfound
      have hbefore' : before <+: es := (List.prefix_append before _).trans hoccurs
      obtain ⟨caller', hauth⟩ := hsends.authorized
      have hroles := (roles_of_next hauth htoken
        (hgenuine.sound before hbefore' m (List.mem_of_getElem? hm'))).trans
          (roles_of_derivedFrom hm hlogin hbefore)
      have hgate := hsends.allowed
      rw [McpOps.roleGate, Option.map_eq_none_iff, McpOps.toolRoleDenial_eq_none_iff, hroles]
        at hgate
      exact hgate
  rw [hmint]
  exact ⟨_, _, ctx, hbehind, hrole⟩

/-- What is behind a field that a step sets: a request of its own with a token that comes from a
login, or a tool call with arguments that describe it, of somebody whose login has a role that the
tool asks for. -/
inductive Traced (W : WritePath σ) (before : List WorldEvent) (field : Field) (value : Json) :
    WorldEvent → Prop
  | request {req : Request} {j : Nat} {m : Minted} {ctx : LoginContext}
      (behind : Behind W (W.machine.run (before ++ [WorldEvent.request req])).mint.ledger j m ctx)
      (presents : bearerToken req.authorization = some (W.jose.compact m.token))
      (asks : (field, value) ∈ OpsApi.requestWrites W.opsApiNamespace req) :
    Traced W before field value (WorldEvent.request req)
  | tool {t : ToolRequest} {call : ToolCall} {j : Nat} {m : Minted} {ctx : LoginContext}
      (behind : Behind W (W.machine.run (before ++ [WorldEvent.tool t])).mint.ledger j m ctx)
      (parsed : parseCall t.tool t.args = some call)
      (asks : (field, value) ∈ toolWrites W.targetNamespace call t.now)
      (role : McpOps.requiredRoles W.toolRequiredRoles call.args.tool = [] ∨
        ∃ role ∈ McpOps.requiredRoles W.toolRequiredRoles call.args.tool,
          role ∈ claimToArray ctx.roles) :
    Traced W before field value (WorldEvent.tool t)

/-- What a step sets, in `prod` only, has a request of ops-api behind it that the middleware let
through. -/
theorem received_of_effect {s : World σ} {e : WorldEvent} {field : Field} {value : Json}
    (h : (field, value) ∈ W.effect s e) :
    ∃ req caller, W.received s e = some req ∧ field.target.ns = "prod" ∧
      (field, value) ∈ OpsApi.requestWrites W.opsApiNamespace req ∧
      OpsApi.authMiddleware W.jose (OpsApi.loadConfig W.issuer W.jwksUri) req.authorization =
        .next caller := by
  rw [WritePath.effect] at h
  cases hreceived : W.received s e with
  | none =>
    rw [hreceived] at h
    cases h
  | some req =>
    simp only [hreceived] at h
    have hanswered := OpsApi.asAnswered_handle W.kube W.jose
      (OpsApi.loadConfig W.issuer W.jwksUri) W.opsApiNamespace s.cluster req
    have hne := List.ne_nil_of_mem h
    obtain ⟨caller, hcaller⟩ := hanswered.authorized hne
    obtain ⟨hwrites, name, htarget⟩ := hanswered.target hne
    rw [hwrites] at h
    have hns : field.target.ns = "prod" := by
      rw [OpsApi.requestWrites, htarget] at h
      obtain ⟨write, -, hwrite⟩ := List.mem_map.mp h
      cases hwrite
      rfl
    exact ⟨req, caller, rfl, hns, h, hcaller⟩

/-- Every field of the cluster that a run changes lies in `prod` and goes back, from the step that
wrote it last, to a login with MFA, a consent to `ops:write` and a write role, by the exchanges of
the write path; where a tool was called for it, its arguments describe the change, and the login
has a role that the tool asks for. -/
theorem change_traced {field : Field} (hgenuine : Genuine W es)
    (hchange : W.kube.desired (W.machine.run es).cluster field ≠
      W.kube.desired W.cluster field) :
    field.target.ns = "prod" ∧
      ∃ before e value, W.machine.LastWriter W.effect es before e field value ∧
        W.kube.desired (W.machine.run es).cluster field = some value ∧
        Traced W before field value e := by
  obtain ⟨before, e, value, hlast, hvalue⟩ :=
    Machine.exists_lastWriter (overwrites_machine (W := W)) hchange
  obtain ⟨req, caller, hreceived, hns, hasks, hnext⟩ := received_of_effect hlast.writes
  refine ⟨hns, before, e, value, hlast, hvalue, ?_⟩
  cases e with
  | mint e => cases hreceived
  | request req' =>
    cases hreceived
    obtain ⟨j, m, ctx, hbehind, hpresents⟩ := behind_request hgenuine hlast.occurs hnext
    exact .request hbehind hpresents hasks
  | tool t =>
    obtain ⟨auth, call, d, hsends⟩ := sends_of_sent hreceived
    obtain ⟨j, m, ctx, hbehind, hrole⟩ := behind_sends hgenuine hlast.occurs hsends hnext
    rw [requestWrites_callRequest W.opsApiNamespace hsends.request] at hasks
    exact .tool hbehind hsends.parsed hasks hrole

end Provenance
section Sample

/-- A token of the sample path. -/
def issued (jti audience : String) (act : Option Json) (next : Option String) : TokenData :=
  ⟨"alice", jti, 600, [audience], some "ops:write", some "mfa", .items (.array ["sre"]), act,
    match next with
    | some sub => .map (some sub)
    | none => .absent⟩

/-- The actors of a token for the gateway. -/
def actSpecialist : Json := wrapAct spiffeSpecialist (some (wrapAct spiffeCopilot none))

/-- The token for mcp-ops. -/
def mcpOpsIssued : TokenData :=
  issued "t3" "mcp-ops" (some (wrapAct spiffeGateway (some actSpecialist))) (some spiffeMcpOps)

private def opsApiIssued : TokenData :=
  issued "t4" "ops-api"
    (some (wrapAct spiffeMcpOps (some (wrapAct spiffeGateway (some actSpecialist))))) none

private def signedTokens : List TokenData := [mcpOpsIssued, opsApiIssued]

/-- The `jose` library where the tokens for mcp-ops and ops-api have been signed. -/
private def pathJose : Jose where
  jwtVerify := fun token opts ↦
    match signedTokens.find? fun t ↦ token = "e30." ++ t.jti ++ ".sig" with
    | some t => if opts.audience ∈ t.aud then .ok (tokenClaims t) else .error "unexpected audience"
    | none => .error "signature verification failed"
  compact := fun t ↦ "e30." ++ t.jti ++ ".sig"

/-- The services of the sample path. -/
def samplePath : WritePath (Field → Option Json) where
  curity := sampleServer
  jose := pathJose
  kube := OpsApi.sampleKube
  issuer := "curity"
  jwksUri := "jwks"
  opsApiNamespace := "prod"
  targetNamespace := "prod"
  toolRequiredRoles := McpOps.defaultToolRequiredRoles
  origin := "http://ops-api:8083"
  cluster := fun _ ↦ none
  stringify := fun _ ↦ "…"
  exchangeMessage := fun _ ↦ "refused"

/-- A login and the three exchanges that lead to mcp-ops. -/
def toMcpOps : List WorldEvent :=
  [.mint (.login sampleLogin),
    .mint (sampleExchange 0 copilotClient "e30.copilot.sig" "agent-specialist" "ops:write" "t1"),
    .mint (sampleExchange 1 specialistClient "e30.specialist.sig" "mcp-gateway" "ops:write" "t2"),
    .mint (sampleExchange 2 gatewayClient "e30.gateway.sig" "mcp-ops" "ops:write" "t3")]

private def sampleScale : ToolRequest :=
  ⟨some "Bearer e30.t3.sig", "scale_deployment",
    .obj [("name", .str "order-service"), ("replicas", .num ⟨3, "3"⟩)],
    some "e30.mcp-ops.sig", 0, ⟨0, 0, .response 200 "key"⟩, ⟨"t4", 600⟩, .answered, "now"⟩

private def scaleRun : List WorldEvent := toMcpOps ++ [.tool sampleScale]

/-- Everything that is minted on the way to the cluster. -/
def mintedTokens : List TokenData :=
  [authorizationCodeToken sampleLogin,
    issued "t1" "agent-specialist" (some (wrapAct spiffeCopilot none)) (some spiffeSpecialist),
    issued "t2" "mcp-gateway" (some actSpecialist) (some spiffeGateway), mcpOpsIssued, opsApiIssued]

private theorem mcpOps_passes :
    ∃ auth, McpOps.authMiddleware samplePath.jose
        (McpOps.loadConfig samplePath.issuer samplePath.jwksUri) sampleScale.authorization =
      .next ⟨tokenClaims mcpOpsIssued, parseScopes (tokenClaims mcpOpsIssued)⟩ auth ∧
      auth.token = "e30.t3.sig" ∧ auth.roles = ["sre"] := by
  refine ⟨⟨"e30.t3.sig", spiffeGateway, scopeItems (tokenClaims mcpOpsIssued), "alice", ["sre"]⟩,
    ?_, rfl, rfl⟩
  refine McpOps.authMiddleware_next_iff.mpr ⟨"e30.t3.sig", by decide, rfl, ?_, by decide,
    ⟨_, rfl, ?_, rfl⟩, rfl⟩
  · intro items h
    cases h
  · exact (OpsApi.chainMatches_iff (i := 0)).mpr ⟨rfl, rfl⟩

private def sampleCall : ToolCall :=
  ⟨"order-service", none, none, .scale 3, of_decide_eq_true rfl,
    fun text h ↦ absurd h (Option.not_mem_none text)⟩

private theorem obtained_sampleScale :
    ∃ mint, samplePath.obtainOpsApiToken (samplePath.machine.run toMcpOps) sampleScale sampleCall
        "e30.t3.sig" = (mint, .ok "e30.t4.sig") ∧
      mint.ledger.map Minted.token = mintedTokens := ⟨_, rfl, rfl⟩

private theorem prepare_sampleScale :
    ∃ mint, samplePath.prepare (samplePath.machine.run toMcpOps) sampleScale =
        (mint, .ok (sampleCall, "e30.t4.sig")) ∧
      mint.ledger.map Minted.token = mintedTokens := by
  obtain ⟨auth, hauth, htoken, hroles⟩ := mcpOps_passes
  obtain ⟨mint, hmint, hledger⟩ := obtained_sampleScale
  refine ⟨mint, ?_, hledger⟩
  apply prepare_of_checks hauth
  · rfl
  · rw [hroles]
    rfl
  · rw [htoken]
    exact hmint

private def replicasOf (name : String) : Field :=
  ⟨⟨"prod", name⟩, [.member "spec", .member "replicas"]⟩

private def scaleRequest : Request :=
  ⟨.scale, some "Bearer e30.t4.sig", callBody "prod" sampleCall, "now"⟩

private theorem received_sampleScale :
    samplePath.received (samplePath.machine.run toMcpOps) (.tool sampleScale) =
      some scaleRequest := by
  obtain ⟨mint, hprepare, -⟩ := prepare_sampleScale
  have hanswered : ¬sampleScale.delivery = .notSent := by decide
  rw [WritePath.received, WritePath.sent, hprepare]
  simp only [if_neg hanswered, callRequest_eq]
  rfl

private theorem opsApi_takes :
    OpsApi.authMiddleware samplePath.jose (OpsApi.loadConfig samplePath.issuer samplePath.jwksUri)
        scaleRequest.authorization =
      .next ⟨tokenClaims opsApiIssued, parseScopes (tokenClaims opsApiIssued)⟩ := by
  refine OpsApi.authMiddleware_next_iff.mpr ⟨"e30.t4.sig", by decide, rfl, ?_, by decide,
    ⟨_, rfl, ?_⟩, rfl⟩
  · intro items h
    cases h
  · exact (OpsApi.chainMatches_iff (i := 0)).mpr ⟨rfl, rfl⟩

private theorem applied_scaleRequest (cluster : Field → Option Json) :
    (OpsApi.handle samplePath.kube samplePath.jose
      (OpsApi.loadConfig samplePath.issuer samplePath.jwksUri) samplePath.opsApiNamespace cluster
      scaleRequest).applied = true := by
  rw [OpsApi.handle, opsApi_takes]
  rfl

private theorem effect_sampleScale :
    samplePath.effect (samplePath.machine.run toMcpOps) (.tool sampleScale) =
      [(replicasOf "order-service", .num ⟨3, "3"⟩)] := by
  rw [WritePath.effect, received_sampleScale]
  simp only [OpsApi.effect, applied_scaleRequest, if_true]
  rfl

private theorem status_scaleRequest (s : World (Field → Option Json)) :
    (samplePath.handle s scaleRequest).response.status = 200 := by
  rw [WritePath.handle, OpsApi.handle, opsApi_takes]
  rfl

private theorem answered_sampleScale :
    ∃ content, (samplePath.callTool (samplePath.machine.run toMcpOps) sampleScale).2 =
      .result content false := by
  obtain ⟨mint, hprepare, -⟩ := prepare_sampleScale
  have hrequest : samplePath.callRequest sampleCall "e30.t4.sig" sampleScale.now =
      some scaleRequest := by
    rw [callRequest_eq]
    rfl
  have hdelivery : sampleScale.delivery = .answered := rfl
  rw [WritePath.callTool, hprepare]
  simp only [WritePath.post, hdelivery, hrequest, WritePath.readResponse, status_scaleRequest,
    if_true]
  exact ⟨_, rfl⟩

/-- A call of `scale_deployment` that is answered with a success has scaled `order-service`. -/
theorem tool_answers_truthful_sample :
    (∃ content, (samplePath.callTool (samplePath.machine.run toMcpOps) sampleScale).2 =
      .result content false) ∧
    ∃ call, parseCall sampleScale.tool sampleScale.args = some call ∧
      samplePath.effect (samplePath.machine.run toMcpOps) (.tool sampleScale) =
        toolWrites samplePath.targetNamespace call sampleScale.now ∧
      toolWrites samplePath.targetNamespace call sampleScale.now =
        [(replicasOf "order-service", .num ⟨3, "3"⟩)] := by
  obtain ⟨content, hcontent⟩ := answered_sampleScale
  obtain ⟨call, hcall, heffect⟩ := (tool_answers_truthful samplePath
    (samplePath.machine.run toMcpOps) sampleScale).1 content hcontent
  exact ⟨⟨content, hcontent⟩, call, hcall, heffect, heffect.symm.trans effect_sampleScale⟩

private theorem scaled :
    samplePath.kube.desired (samplePath.machine.run scaleRun).cluster (replicasOf "order-service") ≠
      samplePath.kube.desired samplePath.cluster (replicasOf "order-service") := by
  have hview := (overwrites_machine (W := samplePath)).view (samplePath.machine.run toMcpOps)
    (.tool sampleScale)
  rw [effect_sampleScale, ← Machine.run_concat] at hview
  have hwritten (fields : Field → Option Json) (value : Json) :
      overwrite fields [(replicasOf "order-service", value)] (replicasOf "order-service") =
        some value := overwrite_of_mem (by simp) (by simp)
  rw [scaleRun, congrFun hview (replicasOf "order-service"), hwritten]
  intro hnone
  cases hnone

/-- Everything minted in a prefix of the run is among the tokens of the whole. -/
private theorem mem_mintedTokens {before : List WorldEvent} {m : Minted} (h : before <+: scaleRun)
    (hm : m ∈ (samplePath.machine.run before).mint.ledger) : m.token ∈ mintedTokens := by
  obtain ⟨mint, hprepare, hledger⟩ := prepare_sampleScale
  have hall : (samplePath.machine.run scaleRun).mint.ledger.map Minted.token = mintedTokens := by
    rw [scaleRun, Machine.run_concat, mint_callTool, hprepare]
    exact hledger
  rw [← hall]
  exact List.mem_map_of_mem ((prefix_ledger h).subset hm)

/-- The sample library verifies tokens for mcp-ops and ops-api only, and reads them as minted. -/
theorem soundFor_mintedTokens : ∀ t ∈ mintedTokens, samplePath.jose.SoundFor t := by
  intro t hmem opts claims hclaims
  have hfind : (signedTokens.find? fun s ↦ "e30." ++ t.jti ++ ".sig" = "e30." ++ s.jti ++ ".sig")
      = none ∨
    (signedTokens.find? fun s ↦ "e30." ++ t.jti ++ ".sig" = "e30." ++ s.jti ++ ".sig") =
      some t := by
    simp only [mintedTokens, List.mem_cons, List.not_mem_nil, or_false] at hmem
    rcases hmem with rfl | rfl | rfl | rfl | rfl
    · exact Or.inl rfl
    · exact Or.inl rfl
    · exact Or.inl rfl
    · exact Or.inr rfl
    · exact Or.inr rfl
  simp only [samplePath, pathJose] at hclaims
  rcases hfind with hnone | hsome
  · rw [hnone] at hclaims
    cases hclaims
  · rw [hsome] at hclaims
    simp only at hclaims
    split at hclaims
    · next haud =>
      cases hclaims
      exact ⟨rfl, haud⟩
    · cases hclaims

/-- No compact form of the sample has blanks around it. -/
theorem trim_mintedTokens :
    ∀ t ∈ mintedTokens, trim (samplePath.jose.compact t) = samplePath.jose.compact t := by
  simp only [mintedTokens, List.forall_mem_cons]
  refine ⟨?_, ?_, ?_, ?_, ?_, ?_⟩
  · show trim "e30.t0.sig" = "e30.t0.sig"
    decide
  · show trim "e30.t1.sig" = "e30.t1.sig"
    decide
  · show trim "e30.t2.sig" = "e30.t2.sig"
    decide
  · show trim "e30.t3.sig" = "e30.t3.sig"
    decide
  · show trim "e30.t4.sig" = "e30.t4.sig"
    decide
  · exact fun t ht ↦ absurd ht List.not_mem_nil

private theorem genuine_scaleRun : Genuine samplePath scaleRun where
  minted := by
    intro before e token opts claims hoccurs htoken hclaims
    rcases List.prefix_concat_iff.mp hoccurs with heq | hpre
    · obtain ⟨rfl, he⟩ := List.append_inj' heq rfl
      cases he
      have hbearer : bearerToken (WorldEvent.tool sampleScale).authorization =
          some "e30.t3.sig" := by decide
      rw [hbearer, Option.some.injEq] at htoken
      have hmem : mcpOpsIssued ∈
          (samplePath.machine.run toMcpOps).mint.ledger.map Minted.token := by
        have hledger : (samplePath.machine.run toMcpOps).mint.ledger.map Minted.token =
            mintedTokens.take 4 := rfl
        rw [hledger]
        simp [mintedTokens]
      obtain ⟨m, hm, hissued⟩ := List.mem_map.mp hmem
      refine ⟨m, hm, ?_⟩
      rw [← htoken, hissued]
      rfl
    · have hnone : ∀ e ∈ toMcpOps, e.authorization = none := by
        simp [toMcpOps, WorldEvent.authorization, sampleExchange]
      have hmem : e ∈ toMcpOps := hpre.subset (by simp)
      rw [hnone e hmem] at htoken
      cases htoken
  sound := fun _ h m hm ↦ soundFor_mintedTokens m.token (mem_mintedTokens h hm)
  trimmed := fun _ h m hm ↦ trim_mintedTokens m.token (mem_mintedTokens h hm)

/-- A call of `scale_deployment` scales `order-service`, and goes back to a login. -/
theorem change_traced_sample :
    ∃ before e value,
      samplePath.machine.LastWriter samplePath.effect scaleRun before e
        (replicasOf "order-service") value ∧
      samplePath.kube.desired (samplePath.machine.run scaleRun).cluster
        (replicasOf "order-service") = some value ∧
      Traced samplePath before (replicasOf "order-service") value e :=
  (change_traced genuine_scaleRun scaled).2

end Sample
end AgentsAuth.EndToEnd
