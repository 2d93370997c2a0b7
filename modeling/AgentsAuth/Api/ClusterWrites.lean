import AgentsAuth.Api.OpsApi
import AgentsAuth.Lib.LastWriter
import Mathlib.Data.List.Nodup

/-!
# What ops-api writes to the cluster

The routes of `apps/ops-api/src/server.ts` and the patches of `apps/ops-api/src/ops.ts`. The
Kubernetes API is a parameter: it merges a patch into the desired state of one Deployment or
refuses it, and an answer may be lost after a patch was applied. Over any run the desired state is
what the applied requests made of it, the last one for each field.
-/

namespace AgentsAuth.Api.OpsApi

open AgentsAuth.Base AgentsAuth.AuthCurity AgentsAuth.Lib

/-- A step from a document into a part of it: a member of an object, or the item of a list that
its merge key names. -/
inductive Step where
  | member (name : String)
  | item (key : String)
deriving DecidableEq

/-- A Deployment of the cluster. -/
structure Target where
  ns : String
  name : String
deriving DecidableEq

/-- A field of the desired state of a Deployment. -/
structure Field where
  target : Target
  path : List Step
deriving DecidableEq

/-- `spec.template.spec.containers`, whose items a strategic merge tells apart by their name. -/
def containers : List Step :=
  [.member "spec", .member "template", .member "spec", .member "containers"]

mutual

/-- The fields that a strategic-merge patch sets: objects are merged member by member, the
containers item by item, and any other value replaces what was there. -/
def mergeWrites (path : List Step) : Json → List (List Step × Json)
  | .obj members => memberWrites path members
  | .arr items => if path = containers then itemWrites path items else [(path, .arr items)]
  | .null => [(path, .null)]
  | .bool b => [(path, .bool b)]
  | .num n => [(path, .num n)]
  | .str s => [(path, .str s)]
termination_by structural value => value

/-- The fields below the members of an object. -/
def memberWrites (path : List Step) : List (String × Json) → List (List Step × Json)
  | [] => []
  | (name, value) :: rest => mergeWrites (path ++ [.member name]) value ++ memberWrites path rest
termination_by structural members => members

/-- The fields below the items of a list. -/
def itemWrites (path : List Step) : List Json → List (List Step × Json)
  | [] => []
  | item :: rest =>
    mergeWrites (path ++ [.item ((Json.string? (item.get? "name")).getD "")]) item ++
      itemWrites path rest
termination_by structural items => items

end

/-- The fields of the cluster that a patch of a Deployment sets. -/
def fieldWrites (target : Target) (body : Json) : List (Field × Json) :=
  (mergeWrites [] body).map fun write ↦ (⟨target, write.1⟩, write.2)

/-- What the handlers read of an error: `err.body?.code`, and the message that they pass on. -/
structure Failure where
  code : Option Nat
  message : String

/-- How a patch ends. Whether it was applied is the API server's to know: a caller whose answer is
lost does not learn it. -/
structure PatchResult (σ : Type) where
  after : σ
  applied : Bool
  answer : Except Failure (Option Json)

/-- A rule of a `Role`. -/
structure PolicyRule where
  apiGroups : List String
  resources : List String
  verbs : List String

/-- A `Role` with its namespace. -/
structure Role where
  ns : String
  rules : List PolicyRule

/-- Some rule of the role covers the request. -/
def Role.allows (role : Role) (apiGroup resource verb ns : String) : Bool :=
  role.ns = ns && role.rules.any fun rule ↦
    rule.apiGroups.contains apiGroup && rule.resources.contains resource && rule.verbs.contains verb

/-- The only role bound to the service account of ops-api: `k8s/workloads/ops-api.yaml:10–32`. -/
def opsApiRole : Role := ⟨"prod", [⟨["apps"], ["deployments"], ["patch"]⟩]⟩

/-- The Kubernetes API as `appsV1()` reaches it. -/
structure KubeApi (σ : Type) where
  desired : σ → Field → Option Json
  patch : σ → Target → Json → PatchResult σ
  /-- A strategic merge sets the fields that the patch names and keeps the others. -/
  desired_after : ∀ s target body, desired (patch s target body).after =
    if (patch s target body).applied then overwrite (desired s) (fieldWrites target body)
    else desired s
  accepted : ∀ s target body generation, (patch s target body).answer = .ok generation →
    (patch s target body).applied = true
  /-- A request that the API server refuses as the client's mistake has no effect. -/
  refused : ∀ s target body failure code, (patch s target body).answer = .error failure →
    failure.code = some code → code < 500 → (patch s target body).applied = false
  /-- What no bound role allows is forbidden. -/
  forbidden : ∀ s target body, opsApiRole.allows "apps" "deployments" "patch" target.ns = false →
    ∃ message, (patch s target body).answer = .error ⟨some 403, message⟩

section Ops

variable {σ : Type}

/-- An error before the API server is asked. -/
def PatchResult.thrown (s : σ) (message : String) : PatchResult σ :=
  ⟨s, false, .error ⟨none, message⟩⟩

/-- `appsV1().patchNamespacedDeployment(name, namespace, body, …)`: both names go into the URL as
texts. -/
def patchNamespacedDeployment (K : KubeApi σ) (s : σ) (name ns body : Json) : PatchResult σ :=
  match name.text?, ns.text? with
  | some name, some ns => K.patch s ⟨ns, name⟩ body
  | _, _ => .thrown s "Cannot convert object to primitive value"

/-- The first `n` code units of a text. A surrogate pair that is cut in two leaves half of it,
which the API server reads as U+FFFD. -/
def takeUnits : Nat → List Char → List Char
  | _, [] => []
  | 0, _ :: _ => []
  | n + 1, c :: cs =>
    if c.toNat < 0x10000 then c :: takeUnits n cs
    else if n = 0 then [Char.ofNat 0xFFFD]
    else c :: takeUnits (n - 1) cs

/-- `value.slice(0, 512)`; `none` where `slice` is not a function. -/
def slice512 : Json → Option Json
  | .str s => some (.str (String.ofList (takeUnits 512 s.toList)))
  | .arr items => some (.arr (items.take 512))
  | _ => none

/-- The annotations of `ops.ts:37–42`; `none` where `slice` is not a function. -/
def restartAnnotations (reason : Option Json) (restartedAt : String) :
    Option (List (String × Json)) :=
  let stamp := ("kubectl.kubernetes.io/restartedAt", Json.str restartedAt)
  match reason.filter Json.truthy with
  | none => some [stamp]
  | some reason => (slice512 reason).map fun text ↦
      [stamp, ("demo.curity.local/restart-reason", text)]

/-- Model of `ops.ts:23–69`; `restartedAt` is the time of the call. -/
def restartDeployment (K : KubeApi σ) (s : σ) (name : String) (ns : Json) (reason : Option Json)
    (restartedAt : String) : PatchResult σ :=
  match restartAnnotations reason restartedAt with
  | none => .thrown s "reason.slice is not a function"
  | some annotations =>
    patchNamespacedDeployment K s (.str name) ns
      (.obj [("spec", .obj [("template", .obj [("metadata",
        .obj [("annotations", .obj annotations)])])])])

/-- Model of `ops.ts:78–82`. -/
def buildSetImageBody (containerName image : String) : Json :=
  .obj [("spec", .obj [("template", .obj [("spec", .obj [("containers",
    .arr [.obj [("name", .str containerName), ("image", .str image)]])])])])]

/-- Model of `ops.ts:85–87`. -/
def buildScaleBody (replicas : JsonNumber) : Json :=
  .obj [("spec", .obj [("replicas", .num replicas)])]

/-- Whether `reason?.slice(0, 512)` of the log lines goes through. -/
def sliceable (reason : Option Json) : Bool :=
  ((reason.filter Json.notNull).map slice512).all Option.isSome

/-- Model of `ops.ts:89–110`. -/
def setDeploymentImage (K : KubeApi σ) (s : σ) (name : String) (ns : Json) (image : String)
    (reason : Option Json) : PatchResult σ :=
  if sliceable reason then
    patchNamespacedDeployment K s (.str name) ns (buildSetImageBody name image)
  else .thrown s "reason?.slice is not a function"

/-- Model of `ops.ts:112–132`. -/
def scaleDeployment (K : KubeApi σ) (s : σ) (name ns : Json) (replicas : JsonNumber)
    (reason : Option Json) : PatchResult σ :=
  if sliceable reason then patchNamespacedDeployment K s name ns (buildScaleBody replicas)
  else .thrown s "reason?.slice is not a function"

end Ops

/-- The routes of ops-api that write. -/
inductive Route where
  | restart
  | setImage
  | scale
deriving DecidableEq

/-- A request to one of them; `body` is what `express.json()` leaves in `req.body`. -/
structure Request where
  route : Route
  authorization : Option String
  body : Json
  now : String

/-- How a request ends, and whether the API server applied a patch for it. -/
structure Handled (σ : Type) where
  after : σ
  applied : Bool
  response : Response

section Server

variable {σ : Type}

/-- A text that is not empty: `!body?.name || typeof body.name !== 'string'` is false. -/
def nonEmptyText? (value : Option Json) : Option String := (Json.string? value).filter (· ≠ "")

/-- `body.namespace ?? cfg.targetNamespace`. -/
def namespaceOr (targetNamespace : String) (body : Json) : Json :=
  ((body.get? "namespace").filter Json.notNull).getD (.str targetNamespace)

/-- The response to a body that lacks something. -/
def badRequest (s : σ) (description : String) : Handled σ :=
  ⟨s, false, ⟨400, none, errorBody "bad_request" description⟩⟩

/-- `res.json(result)`, and the `catch` of every route with its own error name. -/
def answered (failed : String) (result : List (String × Option Json)) (r : PatchResult σ) :
    Handled σ :=
  ⟨r.after, r.applied,
    match r.answer with
    | .ok generation =>
      ⟨200, none, .obj (Json.members (result ++ [("generation", generation)]))⟩
    | .error e =>
      ⟨if e.code = some 403 then 403 else if e.code = some 404 then 404 else 500, none,
        .obj (Json.members [("error", some (.str failed)),
          ("k8s_code", e.code.map fun code ↦ .num ⟨code, toString code⟩),
          ("message", some (.str e.message))])⟩⟩

/-- `POST /restart`: `server.ts:17–45`. -/
def postRestart (K : KubeApi σ) (targetNamespace : String) (s : σ) (req : Request) : Handled σ :=
  match nonEmptyText? (req.body.get? "name") with
  | none => badRequest s "name is required"
  | some name =>
    let ns := namespaceOr targetNamespace req.body
    answered "restart_failed"
      [("deployment", some (.str name)), ("namespace", some ns),
        ("restartedAt", some (.str req.now))]
      (restartDeployment K s name ns (req.body.get? "reason") req.now)

/-- `POST /set-image`: `server.ts:48–71`. -/
def postSetImage (K : KubeApi σ) (targetNamespace : String) (s : σ) (req : Request) : Handled σ :=
  match nonEmptyText? (req.body.get? "name"), nonEmptyText? (req.body.get? "image") with
  | some name, some image =>
    let ns := namespaceOr targetNamespace req.body
    answered "set_image_failed" [("deployment", some (.str name)), ("namespace", some ns)]
      (setDeploymentImage K s name ns image (req.body.get? "reason"))
  | _, _ => badRequest s "name and image are required"

/-- `POST /scale`: `server.ts:74–97`. The name may be any value that is not falsy. -/
def postScale (K : KubeApi σ) (targetNamespace : String) (s : σ) (req : Request) : Handled σ :=
  match (req.body.get? "name").filter Json.truthy, req.body.get? "replicas" with
  | some name, some (.num replicas) =>
    if replicas.value < 0 then badRequest s "name and non-negative replicas are required"
    else
      let ns := namespaceOr targetNamespace req.body
      answered "scale_failed" [("deployment", some name), ("namespace", some ns)]
        (scaleDeployment K s name ns replicas (req.body.get? "reason"))
  | _, _ => badRequest s "name and non-negative replicas are required"

/-- A request goes through the middleware to its route: `server.ts:16–97`. -/
def handle (K : KubeApi σ) (jose : Jose) (cfg : Config) (targetNamespace : String) (s : σ)
    (req : Request) : Handled σ :=
  match authMiddleware jose cfg req.authorization with
  | .respond response => ⟨s, false, response⟩
  | .next _ =>
    match req.route with
    | .restart => postRestart K targetNamespace s req
    | .setImage => postSetImage K targetNamespace s req
    | .scale => postScale K targetNamespace s req

/-- ops-api in front of a cluster. -/
def server (K : KubeApi σ) (jose : Jose) (cfg : Config) (targetNamespace : String) (cluster : σ) :
    Machine σ Request Response where
  init := cluster
  step s req :=
    ((handle K jose cfg targetNamespace s req).after,
      (handle K jose cfg targetNamespace s req).response)

end Server

/-- The annotation of a pod template. -/
def annotationPath (key : String) : List Step :=
  [.member "spec", .member "template", .member "metadata", .member "annotations", .member key]

/-- A field of the container with that name. -/
def container (name field : String) : List Step := containers ++ [.item name, .member field]

/-- What a request asks to be set in the Deployment that it names. -/
def asked (req : Request) (name : String) : List (List Step × Json) :=
  match req.route with
  | .restart =>
    (annotationPath "kubectl.kubernetes.io/restartedAt", .str req.now) ::
      ((((req.body.get? "reason").filter Json.truthy).bind slice512).map fun text ↦
        (annotationPath "demo.curity.local/restart-reason", text)).toList
  | .setImage =>
    (container name "name", .str name) ::
      ((req.body.get? "image").map fun image ↦ (container name "image", image)).toList
  | .scale =>
    ((req.body.get? "replicas").map fun replicas ↦
      ([.member "spec", .member "replicas"], replicas)).toList

/-- The Deployment that a request names. -/
def requestTarget (targetNamespace : String) (req : Request) : Option Target := do
  let name ← (← req.body.get? "name").text?
  let ns ← (namespaceOr targetNamespace req.body).text?
  return ⟨ns, name⟩

/-- The fields of the cluster that a request asks to be set. -/
def requestWrites (targetNamespace : String) (req : Request) : List (Field × Json) :=
  match requestTarget targetNamespace req with
  | some target => (asked req target.name).map fun write ↦ (⟨target, write.1⟩, write.2)
  | none => []

section Writes

variable {σ : Type} {K : KubeApi σ} {s : σ} {target : Target} {body : Json}

private theorem fieldWrites_restart {annotations : List (String × Json)} :
    fieldWrites target (.obj [("spec", .obj [("template", .obj [("metadata",
        .obj [("annotations", .obj annotations)])])])]) =
      (memberWrites [.member "spec", .member "template", .member "metadata",
        .member "annotations"] annotations).map fun write ↦ (⟨target, write.1⟩, write.2) := by
  simp [fieldWrites, mergeWrites, memberWrites]

private theorem fieldWrites_setImage {name image : String} :
    fieldWrites target (buildSetImageBody name image) =
      [(⟨target, container name "name"⟩, .str name),
        (⟨target, container name "image"⟩, .str image)] := by
  simp [fieldWrites, buildSetImageBody, mergeWrites, memberWrites, itemWrites, containers,
    container, Json.get?, Json.string?]

private theorem fieldWrites_scale {replicas : JsonNumber} :
    fieldWrites target (buildScaleBody replicas) =
      [(⟨target, [.member "spec", .member "replicas"]⟩, .num replicas)] := by
  simp [fieldWrites, buildScaleBody, mergeWrites, memberWrites]

/-- The patch of one of these fields is nothing but the field. -/
private theorem mergeWrites_text {path : List Step} {value : Json} {text : Json}
    (h : slice512 value = some text) (hpath : path ≠ containers) :
    mergeWrites path text = [(path, text)] := by
  cases value with
  | str s =>
    cases h
    rfl
  | arr items =>
    cases h
    rw [mergeWrites, if_neg hpath]
  | _ => cases h

private theorem memberWrites_restartAnnotations {reason : Option Json} {now : String}
    {annotations : List (String × Json)} (h : restartAnnotations reason now = some annotations) :
    memberWrites [.member "spec", .member "template", .member "metadata", .member "annotations"]
        annotations =
      (annotationPath "kubectl.kubernetes.io/restartedAt", .str now) ::
        (((reason.filter Json.truthy).bind slice512).map fun text ↦
          (annotationPath "demo.curity.local/restart-reason", text)).toList := by
  unfold restartAnnotations at h
  cases hreason : reason.filter Json.truthy with
  | none =>
    simp only [hreason, Option.some.injEq] at h
    subst h
    rfl
  | some value =>
    simp only [hreason, Option.map_eq_some_iff] at h
    obtain ⟨text, htext, rfl⟩ := h
    have hpath : annotationPath "demo.curity.local/restart-reason" ≠ containers := by decide
    have hwrites := mergeWrites_text htext hpath
    simp only [Option.bind_some, htext, Option.map_some, Option.toList_some]
    show [(annotationPath "kubectl.kubernetes.io/restartedAt", Json.str now)] ++
      (mergeWrites (annotationPath "demo.curity.local/restart-reason") text ++ []) = _
    rw [hwrites]
    rfl

end Writes

section Sound

variable {σ : Type} {K : KubeApi σ} {s : σ} {targetNamespace : String} {req : Request}

/-- A call for a request that ends so has made of the cluster what the request asks for, or nothing,
and nothing where the error is a refusal. -/
private structure Sound (K : KubeApi σ) (targetNamespace : String) (s : σ) (req : Request)
    (r : PatchResult σ) : Prop where
  after : K.desired r.after =
    overwrite (K.desired s) (if r.applied then requestWrites targetNamespace req else [])
  target : r.applied = true → ∃ target, requestTarget targetNamespace req = some target ∧
    opsApiRole.allows "apps" "deployments" "patch" target.ns = true
  ok : ∀ generation, r.answer = .ok generation → r.applied = true
  refused : ∀ e code, r.answer = .error e → e.code = some code → code < 500 → r.applied = false

private theorem sound_thrown (message : String) :
    Sound K targetNamespace s req (.thrown s message) where
  after := rfl
  target := fun h ↦ by cases h
  ok := fun generation h ↦ by cases h
  refused := fun e code _ _ _ ↦ rfl

private theorem sound_patch {name body : Json} (hname : req.body.get? "name" = some name)
    (hfields : ∀ target, name.text? = some target.name →
      fieldWrites target body =
        (asked req target.name).map fun write ↦ (⟨target, write.1⟩, write.2)) :
    Sound K targetNamespace s req
      (patchNamespacedDeployment K s name (namespaceOr targetNamespace req.body) body) := by
  unfold patchNamespacedDeployment
  split
  · next name' ns htext hns =>
    have htarget : requestTarget targetNamespace req = some ⟨ns, name'⟩ := by
      simp [requestTarget, hname, htext, hns]
    have hwrites : requestWrites targetNamespace req = fieldWrites ⟨ns, name'⟩ body := by
      rw [requestWrites, htarget, hfields ⟨ns, name'⟩ htext]
    have hafter := K.desired_after s ⟨ns, name'⟩ body
    constructor
    · rw [hafter, hwrites]
      split
      · rfl
      · rfl
    · intro happlied
      refine ⟨⟨ns, name'⟩, htarget, ?_⟩
      by_contra hnot
      rw [Bool.not_eq_true] at hnot
      obtain ⟨message, hforbidden⟩ := K.forbidden s ⟨ns, name'⟩ body hnot
      have hrefused := K.refused s ⟨ns, name'⟩ body _ 403 hforbidden rfl (by omega)
      rw [happlied] at hrefused
      cases hrefused
    · exact K.accepted s ⟨ns, name'⟩ body
    · exact K.refused s ⟨ns, name'⟩ body
  · exact sound_thrown _

/-- What the response of a route says about the cluster. -/
structure Handled.Sound (K : KubeApi σ) (targetNamespace : String) (s : σ) (req : Request)
    (h : Handled σ) : Prop where
  after : K.desired h.after =
    overwrite (K.desired s) (if h.applied then requestWrites targetNamespace req else [])
  target : h.applied = true → ∃ target, requestTarget targetNamespace req = some target ∧
    opsApiRole.allows "apps" "deployments" "patch" target.ns = true
  ok : h.response.status = 200 → h.applied = true
  applied : h.applied = true → h.response.status = 200 ∨ h.response.status = 500

private theorem sound_unapplied {response : Response} (h : response.status ≠ 200) :
    Handled.Sound K targetNamespace s req ⟨s, false, response⟩ where
  after := rfl
  target := fun h ↦ by cases h
  ok := fun hok ↦ absurd hok h
  applied := fun h ↦ by cases h

private theorem sound_answered {failed : String} {result : List (String × Option Json)}
    {r : PatchResult σ} (h : Sound K targetNamespace s req r) :
    Handled.Sound K targetNamespace s req (answered failed result r) := by
  constructor
  · exact h.after
  · exact h.target
  · intro hstatus
    unfold answered at hstatus
    cases hanswer : r.answer with
    | ok generation => exact h.ok generation hanswer
    | error e =>
      simp only [hanswer] at hstatus
      split at hstatus
      · cases hstatus
      · split at hstatus
        · cases hstatus
        · cases hstatus
  · intro happlied
    cases hanswer : r.answer with
    | ok generation => exact Or.inl (by simp [answered, hanswer])
    | error e =>
      right
      have hcode (code : Nat) (hlt : code < 500) : e.code ≠ some code := by
        intro hcode
        have hnot := h.refused e code hanswer hcode hlt
        have happlied' : r.applied = true := happlied
        rw [happlied'] at hnot
        cases hnot
      simp [answered, hanswer, hcode 403 (by omega), hcode 404 (by omega)]

private theorem sound_postRestart (hroute : req.route = .restart) :
    (postRestart K targetNamespace s req).Sound K targetNamespace s req := by
  unfold postRestart
  split
  · exact sound_unapplied (by decide)
  · next name hname =>
    obtain ⟨hname, -⟩ := Option.filter_eq_some_iff.mp hname
    apply sound_answered
    unfold restartDeployment
    split
    · exact sound_thrown _
    · next annotations hannotations =>
      apply sound_patch (Json.string?_eq_some_iff.mp hname)
      intro target htarget
      rw [fieldWrites_restart, memberWrites_restartAnnotations hannotations, asked, hroute]

private theorem sound_postSetImage (hroute : req.route = .setImage) :
    (postSetImage K targetNamespace s req).Sound K targetNamespace s req := by
  unfold postSetImage
  split
  · next name image hname himage =>
    obtain ⟨hname, -⟩ := Option.filter_eq_some_iff.mp hname
    obtain ⟨himage, -⟩ := Option.filter_eq_some_iff.mp himage
    apply sound_answered
    unfold setDeploymentImage
    split
    · apply sound_patch (Json.string?_eq_some_iff.mp hname)
      intro target htarget
      cases htarget
      rw [fieldWrites_setImage, asked, hroute, Json.string?_eq_some_iff.mp himage]
      rfl
    · exact sound_thrown _
  · exact sound_unapplied (by decide)

private theorem sound_postScale (hroute : req.route = .scale) :
    (postScale K targetNamespace s req).Sound K targetNamespace s req := by
  unfold postScale
  split
  · next name replicas hname hreplicas =>
    obtain ⟨hname, -⟩ := Option.filter_eq_some_iff.mp hname
    split
    · exact sound_unapplied (by decide)
    · apply sound_answered
      unfold scaleDeployment
      split
      · apply sound_patch hname
        intro target htarget
        rw [fieldWrites_scale, asked, hroute, hreplicas]
        rfl
      · exact sound_thrown _
  · exact sound_unapplied (by decide)

/-- The middleware answers with errors only, or not at all. -/
theorem status_of_respond {jose : Jose} {cfg : Config} {authorization : Option String}
    {response : Response} (h : authMiddleware jose cfg authorization = .respond response) :
    response.status = 401 ∨ response.status = 403 ∨ response.status = 500 ∨
      response.status = 0 := by
  unfold authMiddleware at h
  split at h
  · cases h
    exact Or.inl rfl
  · split at h
    · cases h
      rcases status_challenged _ _ with h | h
      · exact Or.inl h
      · exact Or.inr (Or.inr (Or.inr h))
    · split at h
      · cases h
        exact Or.inr (Or.inr (Or.inl rfl))
      · split at h
        · split at h
          · cases h
            exact Or.inr (Or.inl rfl)
          · simp only at h
            split at h
            · cases h
              exact Or.inr (Or.inl rfl)
            · split at h
              · cases h
                exact Or.inr (Or.inl rfl)
              · split at h
                · cases h
                  exact Or.inl rfl
                · cases h
        · cases h
          exact Or.inr (Or.inl rfl)

/-- Every request leaves the cluster as its response says. -/
theorem sound_handle (K : KubeApi σ) (jose : Jose) (cfg : Config) (targetNamespace : String) (s : σ)
    (req : Request) :
    (handle K jose cfg targetNamespace s req).Sound K targetNamespace s req := by
  unfold handle
  split
  · next response hresponse =>
    apply sound_unapplied
    rcases status_of_respond hresponse with h | h | h | h
    · rw [h]
      decide
    · rw [h]
      decide
    · rw [h]
      decide
    · rw [h]
      decide
  · split
    · next hroute => exact sound_postRestart hroute
    · next hroute => exact sound_postSetImage hroute
    · next hroute => exact sound_postScale hroute

/-- Only a request that the middleware lets through changes the cluster. -/
theorem next_of_applied {jose : Jose} {cfg : Config}
    (h : (handle K jose cfg targetNamespace s req).applied = true) :
    ∃ caller, authMiddleware jose cfg req.authorization = .next caller := by
  unfold handle at h
  split at h
  · cases h
  · next caller hnext => exact ⟨caller, hnext⟩

end Sound

section Runs

variable {σ : Type} {K : KubeApi σ} {jose : Jose} {cfg : Config} {targetNamespace : String}
  {cluster : σ} {es : List Request}

/-- The fields that a request sets in a cluster. -/
def effect (K : KubeApi σ) (jose : Jose) (cfg : Config) (targetNamespace : String) (s : σ)
    (req : Request) : List (Field × Json) :=
  if (handle K jose cfg targetNamespace s req).applied then requestWrites targetNamespace req
  else []

private theorem nodup_asked (req : Request) (name : String) :
    ((asked req name).map Prod.fst).Nodup := by
  unfold asked
  split
  · cases ((req.body.get? "reason").filter Json.truthy).bind slice512 with
    | none => simp
    | some text => simp [annotationPath]
  · cases req.body.get? "image" with
    | none => simp
    | some image => simp [container]
  · cases req.body.get? "replicas" with
    | none => simp
    | some replicas => simp

/-- A request names no field twice. -/
theorem nodup_requestWrites (targetNamespace : String) (req : Request) :
    ((requestWrites targetNamespace req).map Prod.fst).Nodup := by
  unfold requestWrites
  split
  · next target _ =>
    rw [List.map_map]
    have hinj : Function.Injective (fun path ↦ Field.mk target path) := by
      intro path path' h
      exact (Field.mk.inj h).2
    have hnodup := List.Nodup.map hinj (nodup_asked req target.name)
    rwa [List.map_map] at hnodup
  · exact List.nodup_nil

/-- Nor does its effect. -/
theorem nodup_effect (K : KubeApi σ) (jose : Jose) (cfg : Config) (targetNamespace : String) (s : σ)
    (req : Request) : ((effect K jose cfg targetNamespace s req).map Prod.fst).Nodup := by
  unfold effect
  split
  · exact nodup_requestWrites targetNamespace req
  · exact List.nodup_nil

/-- Every request overwrites the fields of its effect. -/
theorem overwrites_server :
    (server K jose cfg targetNamespace cluster).Overwrites K.desired
      (effect K jose cfg targetNamespace) where
  view := fun s req ↦ (sound_handle K jose cfg targetNamespace s req).after
  nodup := nodup_effect K jose cfg targetNamespace

/-- What the answer to a request says about what it has set. -/
structure AsAnswered (jose : Jose) (cfg : Config) (targetNamespace : String) (req : Request)
    (response : Response) (writes : List (Field × Json)) : Prop where
  ok : response.status = 200 → writes = requestWrites targetNamespace req
  status : writes ≠ [] → response.status = 200 ∨ response.status = 500
  authorized : writes ≠ [] → ∃ caller, authMiddleware jose cfg req.authorization = .next caller
  target : writes ≠ [] → writes = requestWrites targetNamespace req ∧
    ∃ name, requestTarget targetNamespace req = some ⟨"prod", name⟩

/-- Every answer is true of what its request has set. -/
theorem asAnswered_handle (K : KubeApi σ) (jose : Jose) (cfg : Config)
    (targetNamespace : String) (s : σ) (req : Request) :
    AsAnswered jose cfg targetNamespace req (handle K jose cfg targetNamespace s req).response
      (effect K jose cfg targetNamespace s req) := by
  have hsound := sound_handle K jose cfg targetNamespace s req
  have happlied (h : effect K jose cfg targetNamespace s req ≠ []) :
      (handle K jose cfg targetNamespace s req).applied = true := by
    by_contra hnot
    exact h (if_neg hnot)
  constructor
  · intro hok
    exact if_pos (hsound.ok hok)
  · intro h
    exact hsound.applied (happlied h)
  · intro h
    exact next_of_applied (happlied h)
  · intro h
    refine ⟨if_pos (happlied h), ?_⟩
    obtain ⟨⟨ns, name⟩, htarget, hallows⟩ := hsound.target (happlied h)
    rw [Role.allows, Bool.and_eq_true, decide_eq_true_eq] at hallows
    obtain rfl : ns = "prod" := hallows.1.symm
    exact ⟨name, htarget⟩

/-- After any requests a field of the cluster has the value that the last request to set it asked
for, or the one it had at first; a request sets all that it asks for or nothing, only in `prod`,
only behind the middleware, and never when it is answered with anything but 200 or 500. -/
theorem cluster_last_writer (K : KubeApi σ) (jose : Jose) (cfg : Config) (targetNamespace : String)
    (cluster : σ) (es : List Request) :
    (∀ field value, K.desired ((server K jose cfg targetNamespace cluster).run es) field =
        some value ↔
      (∃ before req, (server K jose cfg targetNamespace cluster).LastWriter
        (effect K jose cfg targetNamespace) es before req field value) ∨
      K.desired cluster field = some value ∧
        AtEach (fun before req ↦ field ∉ (effect K jose cfg targetNamespace
          ((server K jose cfg targetNamespace cluster).run before) req).map Prod.fst) es) ∧
    AtEach (fun before req ↦ AsAnswered jose cfg targetNamespace req
      ((server K jose cfg targetNamespace cluster).answer before req)
      (effect K jose cfg targetNamespace
        ((server K jose cfg targetNamespace cluster).run before) req)) es := by
  constructor
  · intro field value
    exact Machine.view_run_eq_some_iff overwrites_server
  · intro before req _
    exact asAnswered_handle K jose cfg targetNamespace _ req

end Runs
section Sample

/-- A cluster that takes every patch in `prod`. -/
def sampleKube : KubeApi (Field → Option Json) where
  desired := id
  patch := fun s target body ↦
    if opsApiRole.allows "apps" "deployments" "patch" target.ns then
      ⟨overwrite s (fieldWrites target body), true, .ok none⟩
    else ⟨s, false, .error ⟨some 403, "forbidden"⟩⟩
  desired_after := by
    intro s target body
    split
    · rfl
    · rfl
  accepted := by
    intro s target body generation h
    split at h
    · next hallows => rw [if_pos hallows]
    · cases h
  refused := by
    intro s target body failure code h _ _
    split at h
    · cases h
    · next hnot => rw [if_neg hnot]
  forbidden := by
    intro s target body h
    rw [h]
    exact ⟨"forbidden", rfl⟩

private def actors : List String → Json
  | [] => .null
  | name :: older =>
    .obj [("sub", .str ("spiffe://demo.curity.local/ns/" ++ name)), ("act", actors older)]

private def writerClaims : Claims
  | "scope" => some (.str "ops:write")
  | "acr" => some (.str "mfa")
  | "act" => some (actors ["mcp/sa/mcp-ops", "mcp/sa/agentgateway", "agents/sa/agent-specialist",
      "agents/sa/agent-copilot"])
  | _ => none

/-- The `jose` library where every token is that of mcp-ops. -/
private def writerJose : Jose where
  jwtVerify := fun _ _ ↦ .ok writerClaims
  compact := fun _ ↦ "e30.writer.sig"

private def writerConfig : Config := loadConfig "curity" "jwks"

private def scaling (authorization : Option String) (ns : String) (replicas : JsonNumber) :
    Request :=
  ⟨.scale, authorization,
    .obj [("name", .str "order-service"), ("namespace", .str ns), ("replicas", .num replicas)],
    "now"⟩

private def emptyCluster : Field → Option Json := fun _ ↦ none

private def replicasField : Field :=
  ⟨⟨"prod", "order-service"⟩, [.member "spec", .member "replicas"]⟩

/-- One request that scales in `prod`, one in another namespace and one without a token. -/
private def scalings : List Request :=
  [scaling (some "Bearer e30.writer.sig") "prod" ⟨3, "3"⟩,
    scaling (some "Bearer e30.writer.sig") "kube-system" ⟨5, "5"⟩,
    scaling none "prod" ⟨7, "7"⟩]

private theorem writer_passes :
    authMiddleware writerJose writerConfig (some "Bearer e30.writer.sig") =
      .next ⟨writerClaims, parseScopes writerClaims⟩ := by
  refine authMiddleware_next_iff.mpr ⟨"e30.writer.sig", by decide, rfl, ?_, by decide,
    ⟨_, rfl, (chainMatches_iff (i := 0)).mpr ⟨rfl, rfl⟩⟩, rfl⟩
  intro items h
  cases h

private theorem handled_scaling (s : Field → Option Json) (ns : String) (replicas : JsonNumber)
    (h : ¬ replicas.value < 0) :
    (handle sampleKube writerJose writerConfig "prod" s
      (scaling (some "Bearer e30.writer.sig") ns replicas)).after =
        (sampleKube.patch s ⟨ns, "order-service"⟩ (buildScaleBody replicas)).after := by
  rw [handle, scaling, writer_passes]
  show (if replicas.value < 0 then _ else _ : Handled _).after = _
  rw [if_neg h]
  rfl

private theorem run_scaling (es : List Request) (req : Request) :
    (server sampleKube writerJose writerConfig "prod" emptyCluster).run (es ++ [req]) =
      (handle sampleKube writerJose writerConfig "prod"
        ((server sampleKube writerJose writerConfig "prod" emptyCluster).run es) req).after :=
  Machine.run_concat ..

private theorem scaled_scalings :
    sampleKube.desired ((server sampleKube writerJose writerConfig "prod" emptyCluster).run
      scalings) replicasField = some (.num ⟨3, "3"⟩) := by
  have hscalings : scalings = [] ++ [scaling (some "Bearer e30.writer.sig") "prod" ⟨3, "3"⟩] ++
      [scaling (some "Bearer e30.writer.sig") "kube-system" ⟨5, "5"⟩] ++
      [scaling none "prod" ⟨7, "7"⟩] := rfl
  have hunauthorized : ∀ s, (handle sampleKube writerJose writerConfig "prod" s
      (scaling none "prod" ⟨7, "7"⟩)).after = s := fun _ ↦ rfl
  have hprod : opsApiRole.allows "apps" "deployments" "patch" "prod" = true := by decide
  have hother : opsApiRole.allows "apps" "deployments" "patch" "kube-system" = false := by decide
  rw [hscalings, run_scaling, run_scaling, run_scaling, hunauthorized,
    handled_scaling _ _ _ (not_lt.mpr (Nat.ofNat_nonneg 5)),
    handled_scaling _ _ _ (not_lt.mpr (Nat.ofNat_nonneg 3))]
  simp only [sampleKube, hprod, hother, if_true, Bool.false_eq_true, if_false, id_eq]
  rw [fieldWrites_scale]
  exact overwrite_of_mem (by simp) (by simp [replicasField])

/-- The only request that may set the replicas is the one that has set them. -/
theorem cluster_last_writer_sample :
    ∃ before req, (server sampleKube writerJose writerConfig "prod" emptyCluster).LastWriter
      (effect sampleKube writerJose writerConfig "prod") scalings before req replicasField
      (.num ⟨3, "3"⟩) := by
  have hwriters := (cluster_last_writer sampleKube writerJose writerConfig "prod" emptyCluster
    scalings).1 replicasField (.num ⟨3, "3"⟩)
  rcases hwriters.mp scaled_scalings with hlast | ⟨hnone, -⟩
  · exact hlast
  · cases hnone

end Sample
end AgentsAuth.Api.OpsApi
