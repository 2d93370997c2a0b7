import AgentsAuth.Api.ClusterWrites
import AgentsAuth.Api.InspectApi
import AgentsAuth.Lib.WebUrl
import Mathlib.Tactic.Linarith

/-!
# What inspect-api reads of the cluster

The routes of `apps/inspect-api/src/server.ts` and the reads of `apps/inspect-api/src/k8s-ops.ts`,
from the target of a request to the call of the Kubernetes client. The Kubernetes API is a
parameter that forbids what no bound role allows.
-/

namespace AgentsAuth.Api.InspectApi

open AgentsAuth.Base AgentsAuth.AuthCurity AgentsAuth.Lib
open AgentsAuth.Api.OpsApi (Failure Role)

/-- What `toPodSummary` reads of a Pod; `startTime` in milliseconds, where it is a date. -/
structure Pod where
  name : Option String
  ns : Option String
  phase : Option String
  startTime : Option Int
  restartCounts : List (Option Nat)
  image : Option String

/-- What `toDeploymentSummary` reads of a Deployment. -/
structure Deployment where
  name : Option String
  ns : Option String
  image : Option String
  replicas : Option Nat
  readyReplicas : Option Nat
  updatedReplicas : Option Nat
  generation : Option Nat
  observedGeneration : Option Nat

/-- A whole number in a JSON document. -/
def jsonNat (n : Nat) : Json := .num ⟨n, toString n⟩

/-- Model of `toPodSummary`, `k8s-ops.ts:15–30`. -/
def toPodSummary (now : Int) (pod : Pod) : Json :=
  let start := pod.startTime.getD 0
  let ageSeconds := if start ≠ 0 then max 0 ((now - start) / 1000) else 0
  let restarts := pod.restartCounts.foldl (fun acc c ↦ acc + c.getD 0) 0
  .obj [("name", .str (pod.name.getD "")), ("namespace", .str (pod.ns.getD "")),
    ("status", .str (pod.phase.getD "Unknown")), ("restarts", jsonNat restarts),
    ("ageSeconds", jsonNat ageSeconds.toNat), ("image", .str (pod.image.getD ""))]

/-- Model of `toDeploymentSummary`, `k8s-ops.ts:94–105`. -/
def toDeploymentSummary (dep : Deployment) : Json :=
  .obj (Json.members
    [("name", some (.str (dep.name.getD ""))), ("namespace", some (.str (dep.ns.getD ""))),
      ("image", some (.str (dep.image.getD ""))),
      ("replicas", some (jsonNat (dep.replicas.getD 0))),
      ("readyReplicas", some (jsonNat (dep.readyReplicas.getD 0))),
      ("updatedReplicas", some (jsonNat (dep.updatedReplicas.getD 0))),
      ("generation", dep.generation.map jsonNat),
      ("observedGeneration", dep.observedGeneration.map jsonNat)])

/-- A read of the Kubernetes API. -/
inductive Read where
  | pods (ns : String)
  | podLogs (name ns : String) (tailLines : ℚ)
  | deployment (name ns : String)
deriving DecidableEq

namespace Read

/-- The namespace that is read. -/
def ns : Read → String
  | pods ns => ns
  | podLogs _ ns _ => ns
  | deployment _ ns => ns

/-- The API group, resource and verb that a role has to allow. -/
def permission : Read → String × String × String
  | pods _ => ("", "pods", "list")
  | podLogs _ _ _ => ("", "pods/log", "get")
  | deployment _ _ => ("apps", "deployments", "get")

/-- Some rule of the role covers the read. -/
def allowedBy (role : Role) (r : Read) : Bool :=
  role.allows r.permission.1 r.permission.2.1 r.permission.2.2 r.ns

end Read

/-- The only role bound to the service account of inspect-api:
`k8s/workloads/inspect-api.yaml:9–38`. -/
def inspectApiRole : Role :=
  ⟨"prod", [⟨[""], ["pods"], ["get", "list"]⟩, ⟨[""], ["pods/log"], ["get"]⟩,
    ⟨["apps"], ["deployments"], ["get", "list"]⟩]⟩

/-- The Kubernetes API as `coreV1()` and `appsV1()` reach it. -/
structure KubeReader (σ : Type) where
  listNamespacedPod : σ → String → Except Failure (List Pod)
  readNamespacedPodLog : σ → String → String → ℚ → Except Failure String
  readNamespacedDeployment : σ → String → String → Except Failure Deployment
  /-- What no bound role allows is forbidden. -/
  podsForbidden : ∀ s ns, (Read.pods ns).allowedBy inspectApiRole = false →
    ∃ message, listNamespacedPod s ns = .error ⟨some 403, message⟩
  podLogsForbidden : ∀ s name ns tailLines,
    (Read.podLogs name ns tailLines).allowedBy inspectApiRole = false →
      ∃ message, readNamespacedPodLog s name ns tailLines = .error ⟨some 403, message⟩
  deploymentForbidden : ∀ s name ns, (Read.deployment name ns).allowedBy inspectApiRole = false →
    ∃ message, readNamespacedDeployment s name ns = .error ⟨some 403, message⟩

/-- A cluster with Pods, the lines of their logs and Deployments, all in `prod`. -/
structure Cluster where
  pods : List Pod
  logs : String → Option (List String)
  deployments : List Deployment

namespace Cluster

variable (s : Cluster)

/-- `GET /api/v1/namespaces/{namespace}/pods`. -/
def listNamespacedPod (ns : String) : Except Failure (List Pod) :=
  if (Read.pods ns).allowedBy inspectApiRole then .ok s.pods
  else .error ⟨some 403, "pods is forbidden"⟩

/-- `GET /api/v1/namespaces/{namespace}/pods/{name}/log`. -/
def readNamespacedPodLog (name ns : String) (tailLines : ℚ) : Except Failure String :=
  if (Read.podLogs name ns tailLines).allowedBy inspectApiRole then
    match s.logs name with
    | some lines => .ok ("\n".intercalate (lines.drop (lines.length - tailLines.floor.toNat)))
    | none => .error ⟨some 404, "pods not found"⟩
  else .error ⟨some 403, "pods is forbidden"⟩

/-- `GET /apis/apps/v1/namespaces/{namespace}/deployments/{name}`. -/
def readNamespacedDeployment (name ns : String) : Except Failure Deployment :=
  if (Read.deployment name ns).allowedBy inspectApiRole then
    match s.deployments.find? fun d ↦ d.name = some name with
    | some d => .ok d
    | none => .error ⟨some 404, "deployments.apps not found"⟩
  else .error ⟨some 403, "deployments.apps is forbidden"⟩

/-- Pods of other namespaces are not listed. -/
theorem podsForbidden (ns : String) (h : (Read.pods ns).allowedBy inspectApiRole = false) :
    ∃ message, s.listNamespacedPod ns = .error ⟨some 403, message⟩ := by
  rw [listNamespacedPod, h]
  exact ⟨_, rfl⟩

/-- Their logs are not read. -/
theorem podLogsForbidden (name ns : String) (tailLines : ℚ)
    (h : (Read.podLogs name ns tailLines).allowedBy inspectApiRole = false) :
    ∃ message, s.readNamespacedPodLog name ns tailLines = .error ⟨some 403, message⟩ := by
  rw [readNamespacedPodLog, h]
  exact ⟨_, rfl⟩

/-- Nor are their Deployments. -/
theorem deploymentForbidden (name ns : String)
    (h : (Read.deployment name ns).allowedBy inspectApiRole = false) :
    ∃ message, s.readNamespacedDeployment name ns = .error ⟨some 403, message⟩ := by
  rw [readNamespacedDeployment, h]
  exact ⟨_, rfl⟩

end Cluster

/-- The API server of such a cluster. -/
def clusterReader : KubeReader Cluster where
  listNamespacedPod := Cluster.listNamespacedPod
  readNamespacedPodLog := Cluster.readNamespacedPodLog
  readNamespacedDeployment := Cluster.readNamespacedDeployment
  podsForbidden := Cluster.podsForbidden
  podLogsForbidden := Cluster.podLogsForbidden
  deploymentForbidden := Cluster.deploymentForbidden

section Ops

variable {σ : Type} (K : KubeReader σ) (s : σ)

/-- Model of `listPods`, `k8s-ops.ts:33–42`. -/
def listPods (now : Int) (ns : String) : Except Failure Json := do
  let items ← K.listNamespacedPod s ns
  return .arr (items.map (toPodSummary now))

/-- Model of `getPodLogs`, `k8s-ops.ts:51–80`. -/
def getPodLogs (podName ns : String) (tailLines : ℚ) : Except Failure Json := do
  let text ← K.readNamespacedPodLog s podName ns tailLines
  return .obj [("podName", .str podName), ("namespace", .str ns),
    ("lines", jsonStrings (wordsBy (· = '\n') text))]

/-- Model of `getDeployment`, `k8s-ops.ts:108–117`. -/
def getDeployment (name ns : String) : Except Failure Json := do
  let dep ← K.readNamespacedDeployment s name ns
  return toDeploymentSummary dep

/-- What inspect-api makes of a read. -/
def perform (now : Int) : Read → Except Failure Json
  | .pods ns => listPods K s now ns
  | .podLogs name ns tailLines => getPodLogs K s name ns tailLines
  | .deployment name ns => getDeployment K s name ns

end Ops

/-- A request: the segments of its path, its query and its header. -/
structure Request where
  target : UrlTarget
  authorization : Option String
  now : Int

/-- `decodeURIComponent` of a key or a value of a query, behind `+` for a blank; what cannot be
decoded stays as it is. -/
def queryText (s : String) : String :=
  let spaced := String.ofList (s.toList.map fun c ↦ if c = '+' then ' ' else c)
  (percentDecode spaced).getD spaced

/-- A part of a query, cut at its first `=`. -/
def queryPart (part : String) : String × String :=
  (queryText (String.ofList (part.toList.takeWhile (· ≠ '='))),
    queryText (String.ofList ((part.toList.dropWhile (· ≠ '=')).drop 1)))

/-- `req.query[key]`: the values of a key that is repeated are in an array. -/
def queryValue (query : Option String) (key : String) : Option Json :=
  match (((piecesBy (· = '&') (query.getD "")).map queryPart).filter (·.1 = key)).map Prod.snd with
  | [] => none
  | [value] => some (.str value)
  | values => some (jsonStrings values)

/-- The number that digits of a base write. -/
def radixNumber? (base : Nat) (cs : List Char) : Option ℚ :=
  match cs.mapM hexValue with
  | some digits =>
    if digits ≠ [] ∧ digits.all (· < base) then
      some (digits.foldl (fun n d ↦ base * n + d) 0 : Nat)
    else none
  | none => none

/-- The number that a decimal literal without a sign writes. -/
def decimalNumber? (cs : List Char) : Option ℚ :=
  let isExponent (c : Char) : Bool := c = 'e' || c = 'E'
  let mantissa := cs.takeWhile fun c ↦ !isExponent c
  let whole := mantissa.takeWhile (· ≠ '.')
  let fraction := (mantissa.dropWhile (· ≠ '.')).drop 1
  match Json.exponent? (cs.dropWhile fun c ↦ !isExponent c) with
  | some e =>
    if whole ++ fraction ≠ [] ∧ (whole ++ fraction).all Char.isDigit then
      some ((Json.digitsValue (whole ++ fraction) : ℚ) * (10 : ℚ) ^ (e - fraction.length))
    else none
  | none => none

/-- The number that a text without white space around it writes, `Infinity` apart. -/
def literalNumber? : List Char → Option ℚ
  | [] => some 0
  | '0' :: 'x' :: cs => radixNumber? 16 cs
  | '0' :: 'X' :: cs => radixNumber? 16 cs
  | '0' :: 'o' :: cs => radixNumber? 8 cs
  | '0' :: 'O' :: cs => radixNumber? 8 cs
  | '0' :: 'b' :: cs => radixNumber? 2 cs
  | '0' :: 'B' :: cs => radixNumber? 2 cs
  | '-' :: cs => (decimalNumber? cs).map (- ·)
  | '+' :: cs => decimalNumber? cs
  | cs => decimalNumber? cs

/-- `Number(text)` where it is finite; from halfway beyond the largest double on it is infinite. -/
def finiteNumber? (text : String) : Option ℚ :=
  (literalNumber? (trim text).toList).filter fun value ↦ |value| < 2 ^ 1024 - 2 ^ 970

/-- The lines to read: `server.ts:53–54`. -/
def tailLinesOf (query : Option String) : ℚ :=
  match finiteNumber? (((queryValue query "tailLines").map Json.toText).getD "50") with
  | some tail => min (max 1 tail) 1000
  | none => 50

/-- `(req.query.namespace as string | undefined) ?? cfg.targetNamespace`, as the Kubernetes client
writes it into a URL. -/
def namespaceOf (targetNamespace : String) (query : Option String) : String :=
  ((queryValue query "namespace").map Json.toText).getD targetNamespace

/-- A piece of the pattern of a route. -/
inductive Piece where
  | lit (text : String)
  | param

/-- The parameters of a route whose pattern the segments of a path match, one slash at the end
apart. -/
def matchPieces : List Piece → List String → Option (List String)
  | [], [] => some []
  | [], [last] => if last = "" then some [] else none
  | .lit text :: pieces, segment :: rest =>
    if String.ofList (segment.toList.map Char.toLower) = text then matchPieces pieces rest else none
  | .param :: pieces, segment :: rest =>
    if segment = "" then none else (matchPieces pieces rest).map (segment :: ·)
  | _, _ => none

/-- The routes of inspect-api, as far as they are behind its middleware. -/
inductive Route where
  | listPods
  | podLogs (name : String)
  | deployment (name : String)
  /-- The name in the path cannot be decoded. -/
  | badParam
deriving DecidableEq

/-- A route for a name, once that is decoded. -/
def namedRoute (route : String → Route) (name : String) : Route :=
  ((percentDecode name).map route).getD .badParam

/-- The route that a path leads to: `server.ts:24`, `51`, `79`. -/
def routeOf (path : List String) : Option Route :=
  match matchPieces [.lit "pods"] path, matchPieces [.lit "pods", .param, .lit "logs"] path,
      matchPieces [.lit "deployments", .param] path with
  | some _, _, _ => some .listPods
  | _, some [name], _ => some (namedRoute .podLogs name)
  | _, _, some [name] => some (namedRoute .deployment name)
  | _, _, _ => none

/-- The read that a route makes. -/
def Route.read (targetNamespace : String) (query : Option String) : Route → Option Read
  | listPods => some (.pods (namespaceOf targetNamespace query))
  | podLogs name => some (.podLogs name (namespaceOf targetNamespace query) (tailLinesOf query))
  | deployment name => some (.deployment name (namespaceOf targetNamespace query))
  | badParam => none

/-- The error name of a route and whether its `catch` passes a 404 on: `server.ts:39–46`, `65–75`,
`92–100`. -/
def Read.failed : Read → String × Bool
  | .pods _ => ("list_failed", false)
  | .podLogs _ _ _ => ("logs_failed", true)
  | .deployment _ _ => ("get_deployment_failed", true)

/-- What inspect-api sends back: JSON, or a page of Express. -/
inductive Reply where
  | json (response : Response)
  | page (status : Nat)

/-- `res.json(result)`, and the `catch` of the route. -/
def answered (r : Read) (result : Except Failure Json) : Response :=
  match result with
  | .ok body => ⟨200, none, body⟩
  | .error e =>
    ⟨if e.code = some 403 then 403 else if e.code = some 404 ∧ r.failed.2 then 404 else 500, none,
      .obj (Json.members [("error", some (.str r.failed.1)), ("k8s_code", e.code.map jsonNat),
        ("message", some (.str e.message))])⟩

/-- How a request ends, and what the Kubernetes API was asked for it. -/
structure Handled where
  asked : Option Read
  reply : Reply

/-- `GET` at inspect-api: `server.ts:16–104`. -/
def handle {σ : Type} (K : KubeReader σ) (jose : Jose) (cfg : Config) (targetNamespace : String)
    (s : σ) (req : Request) : Handled :=
  if (matchPieces [.lit "healthz"] req.target.path).isSome then
    ⟨none, .json ⟨200, none, .obj [("ok", .bool true), ("service", .str "inspect-api")]⟩⟩
  else
    match authMiddleware jose cfg req.authorization with
    | .respond response => ⟨none, .json response⟩
    | .next _ =>
      match routeOf req.target.path with
      | none => ⟨none, .page 404⟩
      | some route =>
        match route.read targetNamespace req.target.query with
        | none => ⟨none, .page 400⟩
        | some r => ⟨some r, .json (answered r (perform K s req.now r))⟩

section Answers

variable {σ : Type} {K : KubeReader σ} {s : σ} {now : Int} {r : Read} {content : Json}

/-- The middleware answers with errors only, or not at all. -/
theorem status_of_respond {jose : Jose} {cfg : Config} {authorization : Option String}
    {response : Response} (h : authMiddleware jose cfg authorization = .respond response) :
    response.status = 401 ∨ response.status = 403 ∨ response.status = 500 ∨
      response.status = 0 := by
  unfold authMiddleware at h
  split at h
  · cases h
    exact Or.inl rfl
  · split at h
    · cases h
      rcases status_challenged _ _ with h | h
      · exact Or.inl h
      · exact Or.inr (Or.inr (Or.inr h))
    · split at h
      · cases h
        exact Or.inr (Or.inr (Or.inl rfl))
      · split at h
        · split at h
          · cases h
            exact Or.inr (Or.inl rfl)
          · split at h
            · cases h
            · cases h
              exact Or.inr (Or.inl rfl)
        · cases h
          exact Or.inr (Or.inl rfl)

/-- A read that succeeds is answered with 200 and what it found, and no other. -/
theorem status_answered_iff {result : Except Failure Json} :
    (answered r result).status = 200 ↔ ∃ body, result = .ok body := by
  cases result with
  | ok body => simp [answered]
  | error e =>
    simp only [answered, reduceCtorEq, exists_false, iff_false]
    split
    · decide
    · split
      · decide
      · decide

/-- Only `prod` can be read. -/
theorem ns_of_perform (h : perform K s now r = .ok content) : r.ns = "prod" := by
  have hallowed : r.allowedBy inspectApiRole = true := by
    apply eq_true_of_ne_false
    intro hforbidden
    cases r with
    | pods ns =>
      obtain ⟨message, herror⟩ := K.podsForbidden s ns hforbidden
      simp [perform, listPods, herror] at h
    | podLogs name ns tailLines =>
      obtain ⟨message, herror⟩ := K.podLogsForbidden s name ns tailLines hforbidden
      simp [perform, getPodLogs, herror] at h
    | deployment name ns =>
      obtain ⟨message, herror⟩ := K.deploymentForbidden s name ns hforbidden
      simp [perform, getDeployment, herror] at h
  rw [Read.allowedBy, Role.allows, Bool.and_eq_true, decide_eq_true_eq] at hallowed
  exact hallowed.1.symm

end Answers

section Query

/-- A text without `+` that can be decoded is read as what it encodes. -/
theorem queryText_eq {s t : String} (hplus : '+' ∉ s.toList) (hdecode : percentDecode s = some t) :
    queryText s = t := by
  have hmap : (s.toList.map fun c ↦ if c = '+' then ' ' else c) = s.toList := by
    conv_rhs => rw [← List.map_id s.toList]
    apply List.map_congr_left
    intro c hc
    have hne : c ≠ '+' := by
      rintro rfl
      exact hplus hc
    exact if_neg hne
  rw [queryText, hmap, String.ofList_toList, hdecode, Option.getD_some]

/-- A part is cut where the key that it is put together from ends. -/
theorem queryPart_eq {key value : String} (h : '=' ∉ key.toList) :
    queryPart (key ++ "=" ++ value) = (queryText key, queryText value) := by
  have hparts : (key ++ "=" ++ value).toList = key.toList ++ '=' :: value.toList := by simp
  have hkey : ∀ c ∈ key.toList, decide (c ≠ '=') = true := by
    intro c hc
    rw [decide_eq_true_eq]
    rintro rfl
    exact h hc
  have htake : (key.toList ++ '=' :: value.toList).takeWhile (· ≠ '=') = key.toList := by
    rw [List.takeWhile_append_of_pos hkey, List.takeWhile_cons]
    simp
  have hdrop : (key.toList ++ '=' :: value.toList).dropWhile (· ≠ '=') = '=' :: value.toList := by
    rw [List.dropWhile_append_of_pos hkey, List.dropWhile_cons]
    simp
  rw [queryPart, hparts, htake, hdrop, List.drop_one, List.tail_cons, String.ofList_toList,
    String.ofList_toList]

end Query

section Number

private theorem ne_of_isDigit {c d : Char} (h : c.isDigit = true) (hd : d.isDigit = false) :
    c ≠ d := by
  rintro rfl
  rw [hd] at h
  cases h

private theorem isSpace_of_isDigit {c : Char} (h : c.isDigit = true) : isSpace c = false := by
  have hrange : 48 ≤ c.toNat ∧ c.toNat ≤ 57 := Char.isDigit_iff_toNat.mp h
  simp only [isSpace, Bool.or_eq_false_iff, List.contains_eq_mem, decide_eq_false_iff_not,
    List.mem_cons, List.not_mem_nil, or_false, Bool.and_eq_false_iff]
  omega

private theorem decimalNumber?_digits {cs : List Char} (hne : cs ≠ [])
    (hdigits : ∀ c ∈ cs, c.isDigit = true) :
    decimalNumber? cs = some (Json.digitsValue cs : ℚ) := by
  have hexponent : ∀ c ∈ cs, (!(decide (c = 'e') || decide (c = 'E'))) = true := by
    intro c hc
    rw [decide_eq_false (ne_of_isDigit (hdigits c hc) rfl),
      decide_eq_false (ne_of_isDigit (hdigits c hc) rfl)]
    rfl
  have hdot : ∀ c ∈ cs, decide (c ≠ '.') = true := by
    intro c hc
    exact decide_eq_true (ne_of_isDigit (hdigits c hc) rfl)
  have hall : cs.all Char.isDigit = true := List.all_eq_true.mpr hdigits
  unfold decimalNumber?
  simp only [List.takeWhile_eq_self_iff.mpr hexponent, List.dropWhile_eq_nil_iff.mpr hexponent,
    List.takeWhile_eq_self_iff.mpr hdot, List.dropWhile_eq_nil_iff.mpr hdot, List.drop_nil,
    List.append_nil, Json.exponent?]
  simp [hne, hall]

private theorem literalNumber?_digits {cs : List Char} (hne : cs ≠ [])
    (hdigits : ∀ c ∈ cs, c.isDigit = true) :
    literalNumber? cs = some (Json.digitsValue cs : ℚ) := by
  have hnot {d : Char} (hd : d.isDigit = false) (hmem : d ∈ cs) : False := by
    rw [hdigits d hmem] at hd
    cases hd
  unfold literalNumber?
  split
  · exact absurd rfl hne
  · exact (hnot (d := 'x') rfl (by simp)).elim
  · exact (hnot (d := 'X') rfl (by simp)).elim
  · exact (hnot (d := 'o') rfl (by simp)).elim
  · exact (hnot (d := 'O') rfl (by simp)).elim
  · exact (hnot (d := 'b') rfl (by simp)).elim
  · exact (hnot (d := 'B') rfl (by simp)).elim
  · exact (hnot (d := '-') rfl (by simp)).elim
  · exact (hnot (d := '+') rfl (by simp)).elim
  · exact decimalNumber?_digits hne hdigits

/-- The digits of a number are read as this number. -/
theorem finiteNumber?_toString {n : Nat} (h : n ≤ 1000) : finiteNumber? (toString n) = some ↑n := by
  have hlist : (toString n).toList = Nat.toDigits 10 n := Nat.toList_repr
  have hdigits : ∀ c ∈ Nat.toDigits 10 n, c.isDigit = true := fun c hc ↦
    Nat.isDigit_of_mem_toDigits (by decide) (by decide) hc
  have htrim : trim (toString n) = toString n := by
    rw [trim_eq_self_iff, hlist]
    constructor
    · exact fun c hc ↦ isSpace_of_isDigit (hdigits c (List.mem_of_mem_head? hc))
    · exact fun c hc ↦ isSpace_of_isDigit (hdigits c (List.mem_of_mem_getLast? hc))
  have hvalue : Json.digitsValue (Nat.toDigits 10 n) = n := Nat.ofDigitChars_ten_toDigits
  have hbound : |(n : ℚ)| < 2 ^ 1024 - 2 ^ 970 := by
    have hn : (n : ℚ) ≤ 1000 := by exact_mod_cast h
    have hpow : (2 : ℚ) ^ 1024 = 2 ^ 970 * 2 ^ 54 := by rw [← pow_add]
    have hone : (1 : ℚ) ≤ 2 ^ 970 := one_le_pow₀ one_le_two
    rw [abs_of_nonneg (Nat.cast_nonneg n), hpow]
    generalize (2 : ℚ) ^ 970 = p at hone
    linarith
  rw [finiteNumber?, htrim, hlist, literalNumber?_digits Nat.toDigits_ne_nil hdigits, hvalue]
  exact Option.filter_eq_some_iff.mpr ⟨rfl, decide_eq_true hbound⟩

end Number

end AgentsAuth.Api.InspectApi
