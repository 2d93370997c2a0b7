import AgentsAuth.Api.InspectReads
import AgentsAuth.Api.McpInspect
import AgentsAuth.EndToEnd.WriteTools

/-!
# From a tool call to a read of the cluster

The three tools of `apps/mcp-inspect/src/mcp.ts` with the URLs of
`apps/mcp-inspect/src/inspect-api-client.ts`, in front of inspect-api. The names in a URL are texts
that a model chose: whatever characters they have, what is read is what the arguments name, and
only a name that a URL cannot carry leads nowhere.
-/

namespace AgentsAuth.EndToEnd

open AgentsAuth.Api AgentsAuth.AuthCurity AgentsAuth.Base AgentsAuth.Lib
open AgentsAuth.Api.InspectApi (Read KubeReader Reply Route)

/-- `tail_lines`, where it is given. -/
abbrev TailLines := { n : Nat // 1 ≤ n ∧ n ≤ 1000 }

/-- The arguments of a tool that its `inputSchema` lets through: `mcp.ts:28–33`, `62–77`,
`121–127`. -/
inductive ReadCall where
  | listPods (ns : Option String)
  | podLogs (podName : String) (ns : Option String) (tailLines : Option TailLines)
  | deployment (name : { s : String // s ≠ "" }) (ns : Option String)

/-- `z.number().int().positive().max(1000).optional()`; the outer `none` is a refusal. -/
def optionalTail : Option Json → Option (Option TailLines)
  | none => some none
  | some (.num n) =>
    if h : n.value.den = 1 ∧ 0 ≤ n.value.num ∧ 1 ≤ n.value.num.toNat ∧ n.value.num.toNat ≤ 1000 then
      some (some ⟨n.value.num.toNat, h.2.2⟩)
    else none
  | some _ => none

/-- The arguments of a call as its schemas let them through: an object, with what the `inputSchema`
of the tool asks for; `none` where there is no such tool or a schema refuses. -/
def parseRead (tool : String) (args : Json) : Option ReadCall :=
  match args, optionalText (args.get? "namespace") with
  | .obj _, some ns =>
    if tool = "list_pods" then some (.listPods ns)
    else if tool = "get_pod_logs" then
      match Json.string? (args.get? "pod_name"), optionalTail (args.get? "tail_lines") with
      | some podName, some tailLines => some (.podLogs podName ns tailLines)
      | _, _ => none
    else if tool = "get_deployment" then
      match Json.string? (args.get? "name") with
      | some name => if h : name ≠ "" then some (.deployment ⟨name, h⟩ ns) else none
      | none => none
    else none
  | _, _ => none

namespace ReadCall

/-- The error name of the `catch` of a tool. -/
def failed : ReadCall → String
  | listPods _ => "list_failed"
  | podLogs _ _ _ => "logs_failed"
  | deployment _ _ => "get_deployment_failed"

/-- The namespace that the arguments name. -/
def ns (targetNamespace : String) : ReadCall → String
  | listPods ns => ns.getD targetNamespace
  | podLogs _ ns _ => ns.getD targetNamespace
  | deployment _ ns => ns.getD targetNamespace

/-- `tail_lines ?? 50`. -/
def lines (tailLines : Option TailLines) : Nat :=
  (tailLines.map Subtype.val).getD 50

/-- What a call appends to `INSPECT_API_URL`: `inspect-api-client.ts:93`, `109–111`, `147`. -/
def urlTail (targetNamespace : String) (call : ReadCall) : String :=
  let ns := encodeURIComponent (call.ns targetNamespace)
  match call with
  | listPods _ => "/pods?namespace=" ++ ns
  | podLogs podName _ tailLines =>
    "/pods/" ++ encodeURIComponent podName ++ "/logs" ++
      "?namespace=" ++ ns ++ "&tailLines=" ++ toString (lines tailLines)
  | deployment name _ => "/deployments/" ++ encodeURIComponent name.val ++ "?namespace=" ++ ns

/-- The read that the arguments describe. -/
def described (targetNamespace : String) (call : ReadCall) : Read :=
  match call with
  | listPods _ => .pods (call.ns targetNamespace)
  | podLogs podName _ tailLines => .podLogs podName (call.ns targetNamespace) (lines tailLines)
  | deployment name _ => .deployment name.val (call.ns targetNamespace)

/-- A name that a segment of a URL can carry. -/
def Addressable : ReadCall → Prop
  | listPods _ => True
  | podLogs podName _ _ => podName ∉ ["", ".", ".."]
  | deployment name _ => name.val ∉ ["", ".", ".."]

end ReadCall

section Url

variable {targetNamespace : String} {call : ReadCall}

private def segments : ReadCall → List String
  | .listPods _ => ["pods"]
  | .podLogs podName _ _ => ["pods", encodeURIComponent podName, "logs"]
  | .deployment name _ => ["deployments", encodeURIComponent name.val]

private def parameters (targetNamespace : String) (call : ReadCall) : List String :=
  ("namespace=" ++ encodeURIComponent (call.ns targetNamespace)) ::
    match call with
    | .podLogs _ _ tailLines => ["tailLines=" ++ toString (ReadCall.lines tailLines)]
    | _ => []

private theorem urlTail_eq (targetNamespace : String) (call : ReadCall) :
    call.urlTail targetNamespace =
      "/" ++ "/".intercalate (segments call) ++ "?" ++
        "&".intercalate (parameters targetNamespace call) := by
  rw [← String.toList_inj]
  cases call with
  | listPods ns => simp [ReadCall.urlTail, segments, parameters]
  | podLogs podName ns tailLines => simp [ReadCall.urlTail, segments, parameters]
  | deployment name ns => simp [ReadCall.urlTail, segments, parameters]

private theorem isPlain_of_mem_encodeURIComponent {s : String} {c : Char}
    (h : c ∈ (encodeURIComponent s).toList) : IsPlain c :=
  (isComponentChar_of_mem (fun _ h ↦ h) h).isPlain

private theorem isPlain_of_mem_segments {s : String} {c : Char} (hs : s ∈ segments call)
    (hc : c ∈ s.toList) : IsPlain c := by
  have hword : ∀ s ∈ ["pods", "logs", "deployments"], s.toList.all keepComponent = true := by
    decide
  have hencoded : s ∈ ["pods", "logs", "deployments"] ∨ ∃ t, s = encodeURIComponent t := by
    cases call with
    | listPods ns => simp_all [segments]
    | podLogs podName ns tailLines =>
      simp only [segments, List.mem_cons, List.not_mem_nil, or_false] at hs
      rcases hs with rfl | rfl | rfl
      · simp
      · exact Or.inr ⟨podName, rfl⟩
      · simp
    | deployment name ns =>
      simp only [segments, List.mem_cons, List.not_mem_nil, or_false] at hs
      rcases hs with rfl | rfl
      · simp
      · exact Or.inr ⟨name.val, rfl⟩
  rcases hencoded with hs | ⟨t, rfl⟩
  · exact IsComponentChar.isPlain (Or.inl (List.all_eq_true.mp (hword s hs) c hc))
  · exact isPlain_of_mem_encodeURIComponent hc

private theorem percentDecode_encodeURIComponent (s : String) :
    percentDecode (encodeURIComponent s) = some s := percentDecode_percentEncode rfl s

private theorem encodeURIComponent_ne_empty {s : String} (h : s ≠ "") :
    encodeURIComponent s ≠ "" := by
  intro hempty
  have hdecode := percentDecode_encodeURIComponent s
  rw [hempty, percentDecode_eq_self (by decide), Option.some.injEq] at hdecode
  exact h hdecode.symm

private theorem encodeURIComponent_special {s : String} (h : s ∈ ["", ".", ".."]) :
    encodeURIComponent s = s := by
  apply percentEncode_eq_self
  have hall : ∀ s ∈ ["", ".", ".."], s.toList.all keepComponent = true := by decide
  exact List.all_eq_true.mp (hall s h)

private theorem isOrdinary_word {s : String} (h : s ∈ ["pods", "logs", "deployments"]) :
    IsOrdinary s := by
  have hall : ∀ s ∈ ["pods", "logs", "deployments"],
      singleDot s = false ∧ doubleDot s = false := by decide
  exact hall s h

private theorem isOrdinary_encodeURIComponent {s : String} (h : s ∉ ["", ".", ".."]) :
    IsOrdinary (encodeURIComponent s) := by
  apply isOrdinary_percentEncode rfl
  · rintro rfl
    simp at h
  · rintro rfl
    simp at h

private def routeFor : ReadCall → Route
  | .listPods _ => .listPods
  | .podLogs podName _ _ => .podLogs podName
  | .deployment name _ => .deployment name.val

private theorem routeOf_logs {segment : String} (h : segment ≠ "") :
    InspectApi.routeOf ["pods", segment, "logs"] =
      some (InspectApi.namedRoute .podLogs segment) := by
  simp [InspectApi.routeOf, InspectApi.matchPieces, h]

private theorem routeOf_deployment {segment : String} (h : segment ≠ "") :
    InspectApi.routeOf ["deployments", segment] =
      some (InspectApi.namedRoute .deployment segment) := by
  simp [InspectApi.routeOf, InspectApi.matchPieces, h]

/-- Where a segment can carry the name of a call, a URL parser leaves its path as it is. -/
private theorem resolveDots_segments (h : call.Addressable) :
    resolveDots [] (segments call) = segments call := by
  have hordinary : ∀ s ∈ segments call, IsOrdinary s := by
    intro s hs
    cases call with
    | listPods ns =>
      rw [List.mem_singleton.mp hs]
      exact isOrdinary_word (by simp)
    | podLogs podName ns tailLines =>
      simp only [segments, List.mem_cons, List.not_mem_nil, or_false] at hs
      rcases hs with rfl | rfl | rfl
      · exact isOrdinary_word (by simp)
      · exact isOrdinary_encodeURIComponent h
      · exact isOrdinary_word (by simp)
    | deployment name ns =>
      simp only [segments, List.mem_cons, List.not_mem_nil, or_false] at hs
      rcases hs with rfl | rfl
      · exact isOrdinary_word (by simp)
      · exact isOrdinary_encodeURIComponent h
  have hne : segments call ≠ [] := by
    cases call <;> simp [segments]
  rw [resolveDots_append hordinary hne, List.nil_append]

/-- And the path leads to the route for that name. -/
private theorem routeOf_segments (h : call.Addressable) :
    InspectApi.routeOf (resolveDots [] (segments call)) = some (routeFor call) := by
  rw [resolveDots_segments h]
  cases call with
  | listPods ns => simp [segments, routeFor, InspectApi.routeOf, InspectApi.matchPieces]
  | podLogs podName ns tailLines =>
    have hne : encodeURIComponent podName ≠ "" := by
      apply encodeURIComponent_ne_empty
      rintro rfl
      simp [ReadCall.Addressable] at h
    rw [segments, routeOf_logs hne, InspectApi.namedRoute, percentDecode_encodeURIComponent]
    rfl
  | deployment name ns =>
    rw [segments, routeOf_deployment (encodeURIComponent_ne_empty name.property),
      InspectApi.namedRoute, percentDecode_encodeURIComponent]
    rfl

/-- Where none can, it leads nowhere. -/
private theorem routeOf_of_not_addressable (h : ¬call.Addressable) :
    InspectApi.routeOf (resolveDots [] (segments call)) = none := by
  cases call with
  | listPods ns => exact absurd trivial h
  | podLogs podName ns tailLines =>
    have hspecial : podName ∈ ["", ".", ".."] := not_not.mp h
    have hall : ∀ s ∈ ["", ".", ".."], InspectApi.routeOf (resolveDots [] ["pods", s, "logs"]) =
        none := by
      decide
    rw [segments, encodeURIComponent_special hspecial]
    exact hall podName hspecial
  | deployment name ns =>
    have hspecial : name.val ∈ ["", ".", ".."] := not_not.mp h
    have hall : ∀ s ∈ ["", ".", ".."], InspectApi.routeOf (resolveDots [] ["deployments", s]) =
        none := by
      decide
    rw [segments, encodeURIComponent_special hspecial]
    exact hall name.val hspecial

/-- What the parser of the URL makes of the parameters. -/
private def sentParameters (targetNamespace : String) (call : ReadCall) : List String :=
  ("namespace" ++ "=" ++ percentEncode (fun c ↦ keepComponent c && keepQuery c)
      (call.ns targetNamespace)) ::
    match call with
    | .podLogs _ _ tailLines => ["tailLines" ++ "=" ++ toString (ReadCall.lines tailLines)]
    | _ => []

private theorem isComponentChar_of_isDigit {c : Char} (h : c.isDigit = true) :
    IsComponentChar c := by
  have hrange : 48 ≤ c.toNat ∧ c.toNat ≤ 57 := Char.isDigit_iff_toNat.mp h
  simp [IsComponentChar, keepComponent, hrange.1, hrange.2]

private theorem isDigit_of_mem_toString {n : Nat} {c : Char} (h : c ∈ (toString n).toList) :
    c.isDigit = true := by
  have hlist : (toString n).toList = Nat.toDigits 10 n := Nat.toList_repr
  rw [hlist] at h
  exact Nat.isDigit_of_mem_toDigits (by decide) (by decide) h

private theorem percentEncode_parameters :
    percentEncode keepQuery ("&".intercalate (parameters targetNamespace call)) =
      "&".intercalate (sentParameters targetNamespace call) := by
  have hnamespace : percentEncode keepQuery "namespace=" = "namespace=" :=
    percentEncode_eq_self (List.all_eq_true.mp (by decide))
  have hand : percentEncode keepQuery "&" = "&" :=
    percentEncode_eq_self (List.all_eq_true.mp (by decide))
  have htail : percentEncode keepQuery "tailLines=" = "tailLines=" :=
    percentEncode_eq_self (List.all_eq_true.mp (by decide))
  have hcomponent (s : String) : percentEncode keepQuery (encodeURIComponent s) =
      percentEncode (fun c ↦ keepComponent c && keepQuery c) s :=
    percentEncode_percentEncode (fun _ h ↦ keepQuery_of_isEscapeChar h) s
  have hdigits (n : Nat) : percentEncode keepQuery (toString n) = toString n := by
    apply percentEncode_eq_self
    intro c hc
    have hrange : 48 ≤ c.toNat ∧ c.toNat ≤ 57 :=
      Char.isDigit_iff_toNat.mp (isDigit_of_mem_toString hc)
    simp only [keepQuery, Bool.and_eq_true, decide_eq_true_eq, Bool.not_eq_true',
      List.contains_eq_mem, decide_eq_false_iff_not, List.mem_cons, List.not_mem_nil, or_false]
    omega
  cases call with
  | listPods ns =>
    simp only [parameters, sentParameters, String.intercalate_singleton]
    rw [percentEncode_append, hnamespace, hcomponent]
    rfl
  | podLogs podName ns tailLines =>
    simp only [parameters, sentParameters, String.intercalate_cons_cons,
      String.intercalate_singleton, percentEncode_append]
    rw [hnamespace, hcomponent, hand, htail, hdigits]
    rfl
  | deployment name ns =>
    simp only [parameters, sentParameters, String.intercalate_singleton]
    rw [percentEncode_append, hnamespace, hcomponent]
    rfl

private theorem isComponentChar_of_mem_query {s : String} {c : Char}
    (h : c ∈ (percentEncode (fun c ↦ keepComponent c && keepQuery c) s).toList) :
    IsComponentChar c := by
  apply isComponentChar_of_mem _ h
  intro c hc
  rw [Bool.and_eq_true] at hc
  exact hc.1

example : urlTarget ((ReadCall.podLogs "../x?namespace=y#" none none).urlTail "prod") =
    ⟨["pods", "..%2Fx%3Fnamespace%3Dy%23", "logs"], some "namespace=prod&tailLines=50"⟩ := by
  decide

/-- inspect-api reads the parameters of a call back. -/
private theorem queryPart_sentParameters :
    (sentParameters targetNamespace call).map InspectApi.queryPart =
      ("namespace", call.ns targetNamespace) ::
        match call with
        | .podLogs _ _ tailLines => [("tailLines", toString (ReadCall.lines tailLines))]
        | _ => [] := by
  have hkey : ∀ key ∈ ["namespace", "tailLines"], InspectApi.queryText key = key := by
    have hall : ∀ key ∈ ["namespace", "tailLines"], '+' ∉ key.toList ∧ '%' ∉ key.toList := by
      decide
    intro key h
    exact InspectApi.queryText_eq (hall key h).1 (percentDecode_eq_self (hall key h).2)
  have hns (s : String) : InspectApi.queryText
      (percentEncode (fun c ↦ keepComponent c && keepQuery c) s) = s := by
    apply InspectApi.queryText_eq
    · intro h
      exact (isComponentChar_of_mem_query h).ne rfl (by decide) rfl
    · exact percentDecode_percentEncode rfl s
  have hdigits (n : Nat) : InspectApi.queryText (toString n) = toString n := by
    have hnot {d : Char} (hd : d.isDigit = false) : d ∉ (toString n).toList := by
      intro h
      rw [isDigit_of_mem_toString h] at hd
      cases hd
    exact InspectApi.queryText_eq (hnot rfl) (percentDecode_eq_self (hnot rfl))
  have hnamespace (s : String) : InspectApi.queryPart ("namespace" ++ "=" ++
      percentEncode (fun c ↦ keepComponent c && keepQuery c) s) = ("namespace", s) := by
    rw [InspectApi.queryPart_eq (by decide), hkey "namespace" (by simp), hns]
  have htail (n : Nat) : InspectApi.queryPart ("tailLines" ++ "=" ++ toString n) =
      ("tailLines", toString n) := by
    rw [InspectApi.queryPart_eq (by decide), hkey "tailLines" (by simp), hdigits]
  cases call with
  | listPods ns => simp only [sentParameters, List.map_cons, List.map_nil, hnamespace]
  | podLogs podName ns tailLines =>
    simp only [sentParameters, List.map_cons, List.map_nil, hnamespace, htail]
  | deployment name ns => simp only [sentParameters, List.map_cons, List.map_nil, hnamespace]

private theorem ne_ampersand {s : String} {c : Char}
    (hs : s ∈ sentParameters targetNamespace call) (hc : c ∈ s.toList) : c ≠ '&' := by
  have hkey {key value : String} (hkey : '&' ∉ key.toList) (hvalue : '&' ∉ value.toList) :
      '&' ∉ (key ++ "=" ++ value).toList := by
    simp [hkey, hvalue]
  have hencoded : '&' ∉ (percentEncode (fun c ↦ keepComponent c && keepQuery c)
      (call.ns targetNamespace)).toList := by
    intro h
    exact (isComponentChar_of_mem_query h).ne rfl (by decide) rfl
  have hdigits (n : Nat) : '&' ∉ (toString n).toList := by
    intro h
    exact absurd (isDigit_of_mem_toString h) (by decide)
  rintro rfl
  rcases List.mem_cons.mp hs with rfl | hs
  · exact hkey (by decide) hencoded hc
  · cases call with
    | listPods ns => cases hs
    | podLogs podName ns tailLines =>
      rw [List.mem_singleton.mp hs] at hc
      exact hkey (by decide) (hdigits _) hc
    | deployment name ns => cases hs

private theorem isComponentChar_of_mem_parameters {s : String} {c : Char}
    (hs : s ∈ parameters targetNamespace call) (hc : c ∈ s.toList) :
    IsComponentChar c ∨ c = '=' := by
  have hkey : ∀ key ∈ ["namespace=", "tailLines="],
      key.toList.all (fun c ↦ keepComponent c || c = '=') = true := by
    decide
  have happend {key value : String} (hmem : key ∈ ["namespace=", "tailLines="])
      (hvalue : ∀ c ∈ value.toList, IsComponentChar c) (hc : c ∈ (key ++ value).toList) :
      IsComponentChar c ∨ c = '=' := by
    rw [String.toList_append] at hc
    rcases List.mem_append.mp hc with hc | hc
    · have hc' := List.all_eq_true.mp (hkey key hmem) c hc
      rw [Bool.or_eq_true, decide_eq_true_eq] at hc'
      exact hc'.imp Or.inl id
    · exact Or.inl (hvalue c hc)
  rcases List.mem_cons.mp hs with rfl | hs
  · exact happend (by simp) (fun c h ↦ isComponentChar_of_mem (fun _ h ↦ h) h) hc
  · cases call with
    | listPods ns => cases hs
    | podLogs podName ns tailLines =>
      rw [List.mem_singleton.mp hs] at hc
      exact happend (by simp) (fun c h ↦ isComponentChar_of_isDigit (isDigit_of_mem_toString h)) hc
    | deployment name ns => cases hs

/-- What inspect-api makes of the URL of a call. -/
private theorem urlTarget_urlTail (targetNamespace : String) (call : ReadCall) :
    urlTarget (call.urlTail targetNamespace) =
      ⟨resolveDots [] (segments call),
        some ("&".intercalate (sentParameters targetNamespace call))⟩ := by
  rw [urlTail_eq, urlTarget_eq, percentEncode_parameters]
  · cases call <;> simp [segments]
  · exact fun s hs c hc ↦ isPlain_of_mem_segments hs hc
  · intro c hc
    rcases @mem_intercalate '&' c _ hc with rfl | ⟨s, hs, hc⟩
    · decide
    · rcases isComponentChar_of_mem_parameters hs hc with h | rfl
      · exact ⟨h.ne rfl (by decide), h.isPlain.control⟩
      · decide

private theorem queryValue_sentParameters (key : String) :
    InspectApi.queryValue (some ("&".intercalate (sentParameters targetNamespace call))) key =
      if key = "namespace" then some (.str (call.ns targetNamespace))
      else
        match call with
        | .podLogs _ _ tailLines =>
          if key = "tailLines" then some (.str (toString (ReadCall.lines tailLines))) else none
        | _ => none := by
  have hpieces : piecesBy (· = '&') ("&".intercalate (sentParameters targetNamespace call)) =
      sentParameters targetNamespace call :=
    piecesBy_intercalate (c := '&') rfl (by simp [sentParameters]) fun s hs c hc ↦
      decide_eq_false (ne_ampersand hs hc)
  rw [InspectApi.queryValue, Option.getD_some, hpieces, queryPart_sentParameters]
  by_cases hkey : key = "namespace"
  · subst hkey
    cases call with
    | listPods ns => simp
    | podLogs podName ns tailLines => simp
    | deployment name ns => simp
  · have hne : ¬"namespace" = key := fun h ↦ hkey h.symm
    cases call with
    | listPods ns => simp [hkey, hne]
    | podLogs podName ns tailLines =>
      by_cases htail : key = "tailLines"
      · simp [htail]
      · have hne' : ¬"tailLines" = key := fun h ↦ htail h.symm
        simp [hkey, hne, htail, hne']
    | deployment name ns => simp [hkey, hne]

private theorem lines_le (tailLines : Option TailLines) :
    1 ≤ ReadCall.lines tailLines ∧ ReadCall.lines tailLines ≤ 1000 := by
  cases tailLines with
  | none => decide
  | some lines => exact lines.property

/-- The route for the name of a call makes the read that its arguments describe, whatever the
default of inspect-api. -/
private theorem read_routeFor (inspectApiNamespace : String) :
    (routeFor call).read inspectApiNamespace
        (some ("&".intercalate (sentParameters targetNamespace call))) =
      some (call.described targetNamespace) := by
  have hns : InspectApi.namespaceOf inspectApiNamespace
      (some ("&".intercalate (sentParameters targetNamespace call))) = call.ns targetNamespace := by
    rw [InspectApi.namespaceOf, queryValue_sentParameters, if_pos rfl]
    rfl
  cases call with
  | listPods ns => rw [routeFor, Route.read, hns]; rfl
  | deployment name ns => rw [routeFor, Route.read, hns]; rfl
  | podLogs podName ns tailLines =>
    have hlines := lines_le tailLines
    have hone : (1 : ℚ) ≤ (ReadCall.lines tailLines : ℚ) := by exact_mod_cast hlines.1
    have hthousand : (ReadCall.lines tailLines : ℚ) ≤ 1000 := by exact_mod_cast hlines.2
    have hvalue : InspectApi.queryValue
        (some ("&".intercalate (sentParameters targetNamespace (.podLogs podName ns tailLines))))
        "tailLines" = some (.str (toString (ReadCall.lines tailLines))) := by
      have hne : ¬"tailLines" = "namespace" := by decide
      rw [queryValue_sentParameters, if_neg hne]
      exact if_pos rfl
    have htail : InspectApi.tailLinesOf
        (some ("&".intercalate (sentParameters targetNamespace (.podLogs podName ns tailLines)))) =
          (ReadCall.lines tailLines : ℚ) := by
      unfold InspectApi.tailLinesOf
      simp only [hvalue, Option.map_some, Option.getD_some, Json.toText_str,
        InspectApi.finiteNumber?_toString hlines.2, max_eq_right hone, min_eq_left hthousand]
    rw [routeFor, Route.read, hns, htail, ReadCall.described]

end Url

/-- The services of the read path. -/
structure ReadPath (σ : Type) where
  jose : Jose
  kube : KubeReader σ
  issuer : String
  jwksUri : String
  /-- `TARGET_NAMESPACE` of inspect-api and of mcp-inspect. -/
  inspectApiNamespace : String
  targetNamespace : String
  stringify : Json → String
  /-- What Express says about a request that it has no answer for. -/
  page : Nat → String

/-- A tool call, with what `obtainInspectApiToken` makes of the token of its caller and with what
its `GET` meets on its way. -/
structure ReadRequest where
  authorization : Option String
  tool : String
  args : Json
  obtained : String → Except String String
  delivery : Delivery
  now : Int

namespace ReadPath

variable {σ : Type} (W : ReadPath σ)

/-- The result of a call that failed with a message. -/
def failure (call : ReadCall) (message : String) : ToolAnswer :=
  .result (.obj [("error", .str call.failed), ("message", .str message)]) true

/-- What the tool makes of a reply of inspect-api: `getJson`, `inspect-api-client.ts:70–85`. -/
def readReply (call : ReadCall) : Reply → ToolAnswer
  | .json response =>
    if response.status = 200 then .result response.body false
    else failure call ("inspect-api responded " ++ toString response.status ++ ": " ++
      W.stringify response.body)
  | .page status =>
    failure call ("inspect-api responded " ++ toString status ++ ": " ++ W.page status)

/-- inspect-api's handling of the `GET` of a call. -/
def handle (s : σ) (call : ReadCall) (bearer : String) (now : Int) : InspectApi.Handled :=
  InspectApi.handle W.kube W.jose (InspectApi.loadConfig W.issuer W.jwksUri) W.inspectApiNamespace s
    ⟨urlTarget (call.urlTail W.targetNamespace), some ("Bearer " ++ bearer), now⟩

/-- A tool call up to its `GET`, behind the middleware and the schema: `mcp.ts:35–45`, `79–97`,
`128–138`. -/
def prepare (t : ReadRequest) : Except ToolAnswer (ReadCall × String) :=
  match McpInspect.authMiddleware W.jose (McpInspect.loadConfig W.issuer W.jwksUri)
      t.authorization with
  | .respond response => .error (.refused response)
  | .next _ auth =>
    match parseRead t.tool t.args with
    | none => .error .invalidArguments
    | some call =>
      match t.obtained auth.token with
      | .error message => .error (failure call message)
      | .ok bearer => .ok (call, bearer)

/-- A tool call: what the Kubernetes API is asked for it, and the answer to its caller. -/
def callTool (s : σ) (t : ReadRequest) : Option Read × ToolAnswer :=
  match W.prepare t with
  | .error answer => (none, answer)
  | .ok (call, bearer) =>
    match t.delivery with
    | .notSent => (none, failure call "fetch failed")
    | .answerLost => ((W.handle s call bearer t.now).asked, failure call "fetch failed")
    | .answered =>
      ((W.handle s call bearer t.now).asked, W.readReply call (W.handle s call bearer t.now).reply)

/-- A call that mcp-inspect lets through and whose `GET` inspect-api lets through. -/
structure Admits (t : ReadRequest) (call : ReadCall) (bearer : String) : Prop where
  authorized : ∃ caller auth, McpInspect.authMiddleware W.jose
    (McpInspect.loadConfig W.issuer W.jwksUri) t.authorization = .next caller auth ∧
      t.obtained auth.token = .ok bearer
  parsed : parseRead t.tool t.args = some call
  sent : t.delivery ≠ .notSent
  admitted : ∃ caller, InspectApi.authMiddleware W.jose (InspectApi.loadConfig W.issuer W.jwksUri)
    (some ("Bearer " ++ bearer)) = .next caller

end ReadPath

section Reads

variable {σ : Type} {W : ReadPath σ} {s : σ} {t : ReadRequest} {call : ReadCall} {bearer : String}
  {now : Int}

private theorem matchPieces_healthz (call : ReadCall) :
    InspectApi.matchPieces [.lit "healthz"] (resolveDots [] (segments call)) = none := by
  by_cases h : call.Addressable
  · rw [resolveDots_segments h]
    cases call with
    | listPods ns => simp [segments, InspectApi.matchPieces]
    | podLogs podName ns tailLines => simp [segments, InspectApi.matchPieces]
    | deployment name ns => simp [segments, InspectApi.matchPieces]
  · cases call with
    | listPods ns => exact absurd trivial h
    | podLogs podName ns tailLines =>
      have hall : ∀ s ∈ ["", ".", ".."], InspectApi.matchPieces [.lit "healthz"]
          (resolveDots [] ["pods", s, "logs"]) = none := by
        decide
      rw [segments, encodeURIComponent_special (not_not.mp h)]
      exact hall podName (not_not.mp h)
    | deployment name ns =>
      have hall : ∀ s ∈ ["", ".", ".."], InspectApi.matchPieces [.lit "healthz"]
          (resolveDots [] ["deployments", s]) = none := by
        decide
      rw [segments, encodeURIComponent_special (not_not.mp h)]
      exact hall name.val (not_not.mp h)

private theorem prepare_ok_iff :
    W.prepare t = .ok (call, bearer) ↔
      (∃ caller auth, McpInspect.authMiddleware W.jose (McpInspect.loadConfig W.issuer W.jwksUri)
          t.authorization = .next caller auth ∧ t.obtained auth.token = .ok bearer) ∧
        parseRead t.tool t.args = some call := by
  unfold ReadPath.prepare
  cases hauth : McpInspect.authMiddleware W.jose (McpInspect.loadConfig W.issuer W.jwksUri)
      t.authorization with
  | respond response => simp
  | next caller auth =>
    cases hparse : parseRead t.tool t.args with
    | none => simp
    | some call' =>
      cases hobtained : t.obtained auth.token with
      | error message => simp [hobtained]
      | ok bearer' => simp [hobtained, and_comm]

private theorem handle_of_respond {response : Response}
    (h : InspectApi.authMiddleware W.jose (InspectApi.loadConfig W.issuer W.jwksUri)
      (some ("Bearer " ++ bearer)) = .respond response) :
    W.handle s call bearer now = ⟨none, .json response⟩ := by
  simp only [ReadPath.handle, InspectApi.handle, urlTarget_urlTail, matchPieces_healthz, h,
    Option.isSome_none, Bool.false_eq_true, if_false]

private theorem handle_of_next {caller : VerifiedJwt}
    (h : InspectApi.authMiddleware W.jose (InspectApi.loadConfig W.issuer W.jwksUri)
      (some ("Bearer " ++ bearer)) = .next caller) :
    (call.Addressable → W.handle s call bearer now =
      ⟨some (call.described W.targetNamespace),
        .json (InspectApi.answered (call.described W.targetNamespace)
          (InspectApi.perform W.kube s now (call.described W.targetNamespace)))⟩) ∧
    (¬call.Addressable → W.handle s call bearer now = ⟨none, .page 404⟩) := by
  simp only [ReadPath.handle, InspectApi.handle, urlTarget_urlTail, matchPieces_healthz, h,
    Option.isSome_none, Bool.false_eq_true, if_false]
  constructor
  · intro haddressable
    simp only [routeOf_segments haddressable, read_routeFor]
  · intro hnot
    simp only [routeOf_of_not_addressable hnot]

/-- A tool call that does not get as far as its `GET` ends with an error. -/
private theorem prepared_error {answer : ToolAnswer} {content : Json}
    (h : W.prepare t = .error answer) : answer ≠ .result content false := by
  unfold ReadPath.prepare at h
  split at h
  · cases h
    exact ToolAnswer.noConfusion
  · split at h
    · cases h
      exact ToolAnswer.noConfusion
    · split at h
      · cases h
        simp [ReadPath.failure]
      · cases h

/-- The Kubernetes API is asked exactly where the middleware lets the `GET` of a call through and
its name can be carried. -/
private theorem asked_handle_iff {r : Read} :
    (W.handle s call bearer now).asked = some r ↔
      (∃ caller, InspectApi.authMiddleware W.jose (InspectApi.loadConfig W.issuer W.jwksUri)
        (some ("Bearer " ++ bearer)) = .next caller) ∧ call.Addressable ∧
      r = call.described W.targetNamespace := by
  cases hauth : InspectApi.authMiddleware W.jose (InspectApi.loadConfig W.issuer W.jwksUri)
      (some ("Bearer " ++ bearer)) with
  | respond response => simp [handle_of_respond hauth]
  | next caller =>
    have hhandle := @handle_of_next σ W s call bearer now caller hauth
    by_cases haddressable : call.Addressable
    · simp [hhandle.1 haddressable, haddressable, eq_comm]
    · simp [hhandle.2 haddressable, haddressable]

/-- Its answer is a success exactly where, in addition, the read succeeds. -/
private theorem readReply_success_iff {content : Json} :
    W.readReply call (W.handle s call bearer now).reply = .result content false ↔
      (∃ caller, InspectApi.authMiddleware W.jose (InspectApi.loadConfig W.issuer W.jwksUri)
        (some ("Bearer " ++ bearer)) = .next caller) ∧ call.Addressable ∧
      InspectApi.perform W.kube s now (call.described W.targetNamespace) = .ok content := by
  cases hauth : InspectApi.authMiddleware W.jose (InspectApi.loadConfig W.issuer W.jwksUri)
      (some ("Bearer " ++ bearer)) with
  | respond response =>
    have hstatus : response.status ≠ 200 := by
      rcases InspectApi.status_of_respond hauth with h | h | h | h <;> simp [h]
    simp [handle_of_respond hauth, ReadPath.readReply, hstatus, ReadPath.failure]
  | next caller =>
    have hhandle := @handle_of_next σ W s call bearer now caller hauth
    by_cases haddressable : call.Addressable
    · rw [hhandle.1 haddressable]
      generalize InspectApi.perform W.kube s now (call.described W.targetNamespace) = result
      cases result with
      | ok body => simp [ReadPath.readReply, InspectApi.answered, haddressable]
      | error e =>
        have hstatus : (InspectApi.answered (call.described W.targetNamespace)
            (.error e)).status ≠ 200 := by
          rw [Ne, InspectApi.status_answered_iff]
          simp
        simp [ReadPath.readReply, hstatus, ReadPath.failure]
    · simp [hhandle.2 haddressable, haddressable, ReadPath.readReply, ReadPath.failure]

private theorem not_admits_of_error {answer : ToolAnswer} (h : W.prepare t = .error answer) :
    ¬W.Admits t call bearer := by
  intro hadmits
  rw [prepare_ok_iff.mpr ⟨hadmits.authorized, hadmits.parsed⟩] at h
  cases h

private theorem admits_iff (h : W.prepare t = .ok (call, bearer)) {call' : ReadCall}
    {bearer' : String} :
    W.Admits t call' bearer' ↔ (call' = call ∧ bearer' = bearer) ∧ t.delivery ≠ .notSent ∧
      ∃ caller, InspectApi.authMiddleware W.jose (InspectApi.loadConfig W.issuer W.jwksUri)
        (some ("Bearer " ++ bearer)) = .next caller := by
  constructor
  · intro hadmits
    have hprepare := prepare_ok_iff.mpr ⟨hadmits.authorized, hadmits.parsed⟩
    rw [h, Except.ok.injEq, Prod.mk.injEq] at hprepare
    obtain ⟨rfl, rfl⟩ := hprepare
    exact ⟨⟨rfl, rfl⟩, hadmits.sent, hadmits.admitted⟩
  · rintro ⟨⟨rfl, rfl⟩, hsent, hadmitted⟩
    have hprepare := prepare_ok_iff.mp h
    exact ⟨hprepare.1, hprepare.2, hsent, hadmitted⟩

private theorem asked_callTool_iff {r : Read} :
    (W.callTool s t).1 = some r ↔
      ∃ call bearer, W.Admits t call bearer ∧ call.Addressable ∧
        r = call.described W.targetNamespace := by
  unfold ReadPath.callTool
  cases hprepare : W.prepare t with
  | error answer => simp [not_admits_of_error hprepare]
  | ok called =>
    obtain ⟨call, bearer⟩ := called
    have hexists : (∃ call' bearer', W.Admits t call' bearer' ∧ call'.Addressable ∧
        r = call'.described W.targetNamespace) ↔
          t.delivery ≠ .notSent ∧ (W.handle s call bearer t.now).asked = some r := by
      simp [admits_iff hprepare, asked_handle_iff, and_assoc]
    rw [hexists]
    cases t.delivery with
    | answered => simp
    | answerLost => simp
    | notSent => simp

private theorem success_callTool_iff {content : Json} :
    (W.callTool s t).2 = .result content false ↔
      ∃ call bearer, W.Admits t call bearer ∧ t.delivery = .answered ∧ call.Addressable ∧
        InspectApi.perform W.kube s t.now (call.described W.targetNamespace) = .ok content := by
  unfold ReadPath.callTool
  cases hprepare : W.prepare t with
  | error answer => simp [not_admits_of_error hprepare, prepared_error hprepare]
  | ok called =>
    obtain ⟨call, bearer⟩ := called
    have hexists : (∃ call' bearer', W.Admits t call' bearer' ∧ t.delivery = .answered ∧
        call'.Addressable ∧
        InspectApi.perform W.kube s t.now (call'.described W.targetNamespace) = .ok content) ↔
          t.delivery = .answered ∧
            W.readReply call (W.handle s call bearer t.now).reply = .result content false := by
      rw [readReply_success_iff]
      simp only [admits_iff hprepare]
      constructor
      · rintro ⟨call', bearer', ⟨⟨rfl, rfl⟩, -, hnext⟩, hanswered, haddressable, hperform⟩
        exact ⟨hanswered, hnext, haddressable, hperform⟩
      · rintro ⟨hanswered, hnext, haddressable, hperform⟩
        exact ⟨call, bearer, ⟨⟨rfl, rfl⟩, by simp [hanswered], hnext⟩, hanswered, haddressable,
          hperform⟩
    rw [hexists]
    cases t.delivery with
    | answered => simp
    | answerLost => simp [ReadPath.failure]
    | notSent => simp [ReadPath.failure]

/-- A tool of mcp-inspect reads what its arguments name, whatever characters the names have, and
nothing else: the Kubernetes API is asked for a call exactly where both services let it through and
a segment of a URL can carry the name, and asked what the arguments describe; the caller is told of
a success exactly where that read succeeded, which it does in `prod` only, and gets what it found; a
name that no segment can carry is answered as a page that does not exist. -/
theorem read_tools_exact (W : ReadPath σ) (s : σ) (t : ReadRequest) :
    (∀ r, (W.callTool s t).1 = some r ↔
      ∃ call bearer, W.Admits t call bearer ∧ call.Addressable ∧
        r = call.described W.targetNamespace) ∧
    (∀ content, (W.callTool s t).2 = .result content false ↔
      ∃ call bearer, W.Admits t call bearer ∧ t.delivery = .answered ∧ call.Addressable ∧
        InspectApi.perform W.kube s t.now (call.described W.targetNamespace) = .ok content) ∧
    (∀ content, (W.callTool s t).2 = .result content false →
      ∃ r, (W.callTool s t).1 = some r ∧ r.ns = "prod") ∧
    ∀ call bearer, W.Admits t call bearer → t.delivery = .answered → ¬call.Addressable →
      W.callTool s t =
        (none, ReadPath.failure call ("inspect-api responded 404: " ++ W.page 404)) := by
  refine ⟨fun r ↦ asked_callTool_iff, fun content ↦ success_callTool_iff, ?_, ?_⟩
  · intro content h
    obtain ⟨call, bearer, hadmits, -, haddressable, hperform⟩ := success_callTool_iff.mp h
    exact ⟨_, asked_callTool_iff.mpr ⟨call, bearer, hadmits, haddressable, rfl⟩,
      InspectApi.ns_of_perform hperform⟩
  · intro call bearer hadmits hanswered hnot
    obtain ⟨caller, hnext⟩ := hadmits.admitted
    have hprepare := prepare_ok_iff.mpr ⟨hadmits.authorized, hadmits.parsed⟩
    simp only [ReadPath.callTool, hprepare, hanswered, (handle_of_next hnext).2 hnot]
    rfl

end Reads

section Sample

/-- The claims of a token of Alice's for reading. -/
private def readClaims (act : Json) : Claims
  | "sub" => some (.str "alice")
  | "scope" => some (.str "inspect:read")
  | "act" => some act
  | _ => none

private def gatewayAct : Json :=
  .obj [("sub", .str "spiffe://demo.curity.local/ns/mcp/sa/agentgateway"),
    ("act", .obj [("sub", .str "spiffe://demo.curity.local/ns/agents/sa/agent-copilot")])]

private def mcpInspectAct : Json :=
  .obj [("sub", .str "spiffe://demo.curity.local/ns/mcp/sa/mcp-inspect"), ("act", gatewayAct)]

private def readJose : Jose where
  jwtVerify := fun _ opts ↦
    if opts.audience = "mcp-inspect" then .ok (readClaims gatewayAct)
    else if opts.audience = "inspect-api" then .ok (readClaims mcpInspectAct)
    else .error "unexpected \"aud\" claim value"
  compact := fun _ ↦ "e30.inspect.sig"

private def readPath : ReadPath InspectApi.Cluster where
  jose := readJose
  kube := InspectApi.clusterReader
  issuer := "curity"
  jwksUri := "jwks"
  inspectApiNamespace := "prod"
  targetNamespace := "prod"
  stringify := fun _ ↦ "\x7b\x7d"
  page := fun _ ↦ "Cannot GET"

private def readCluster : InspectApi.Cluster where
  pods := []
  logs := fun name ↦ if name = "checkout-1" then some ["started", "ready"] else none
  deployments := []

/-- `get_pod_logs` for a name. -/
private def logsRequest (podName : String) : ReadRequest where
  authorization := some "Bearer e30.inspect.sig"
  tool := "get_pod_logs"
  args := .obj [("pod_name", .str podName)]
  obtained := fun _ ↦ .ok "e30.api.sig"
  delivery := .answered
  now := 0

private theorem scopesWritable_readClaims (act : Json) : ScopesWritable (readClaims act) := by
  intro items h
  cases h

private theorem mcpInspect_passes :
    McpInspect.authMiddleware readJose (McpInspect.loadConfig "curity" "jwks")
        (some "Bearer e30.inspect.sig") =
      .next ⟨readClaims gatewayAct, parseScopes (readClaims gatewayAct)⟩
        ⟨"e30.inspect.sig", "spiffe://demo.curity.local/ns/mcp/sa/agentgateway",
          scopeItems (readClaims gatewayAct), "alice"⟩ := by
  have hbearer : bearerToken (some "Bearer e30.inspect.sig") = some "e30.inspect.sig" := by decide
  refine McpInspect.authMiddleware_next_iff.mpr
    ⟨_, _, _, hbearer, rfl, rfl, rfl, rfl, ?_, rfl, scopesWritable_readClaims gatewayAct⟩
  decide

private theorem inspectApi_admits :
    InspectApi.authMiddleware readJose (InspectApi.loadConfig "curity" "jwks")
        (some "Bearer e30.api.sig") =
      .next ⟨readClaims mcpInspectAct, parseScopes (readClaims mcpInspectAct)⟩ := by
  have hbearer : bearerToken (some "Bearer e30.api.sig") = some "e30.api.sig" := by decide
  refine InspectApi.authMiddleware_next_iff.mpr
    ⟨_, hbearer, rfl, scopesWritable_readClaims mcpInspectAct, ?_, _, rfl, ?_⟩
  · decide
  · exact InspectApi.chainMatchesAny_iff.mp rfl

private theorem admits_logsRequest (podName : String) :
    readPath.Admits (logsRequest podName) (.podLogs podName none none) "e30.api.sig" where
  authorized := ⟨_, _, mcpInspect_passes, rfl⟩
  parsed := rfl
  sent := Delivery.noConfusion
  admitted := ⟨_, inspectApi_admits⟩

private theorem log_checkout : ∃ content,
    InspectApi.perform InspectApi.clusterReader readCluster 0
      ((ReadCall.podLogs "checkout-1" none none).described "prod") = .ok content := by
  have hallowed : (Read.podLogs "checkout-1" "prod" 50).allowedBy InspectApi.inspectApiRole =
      true := by
    decide
  have hlog : readCluster.readNamespacedPodLog "checkout-1" "prod" 50 =
      .ok ("\n".intercalate (["started", "ready"].drop (2 - (50 : ℚ).floor.toNat))) := by
    rw [InspectApi.Cluster.readNamespacedPodLog, if_pos hallowed]
    rfl
  have hdescribed : (ReadCall.podLogs "checkout-1" none none).described "prod" =
      .podLogs "checkout-1" "prod" 50 := rfl
  have hread : InspectApi.clusterReader.readNamespacedPodLog readCluster "checkout-1" "prod" 50 =
      .ok ("\n".intercalate (["started", "ready"].drop (2 - (50 : ℚ).floor.toNat))) := hlog
  rw [hdescribed, InspectApi.perform, InspectApi.getPodLogs, hread]
  exact ⟨_, rfl⟩

/-- The log of a Pod is read, a name with the characters of a URL is asked for as it is, and one
that leads out of its path is not asked for. -/
theorem read_tools_exact_sample :
    (∃ content, (readPath.callTool readCluster (logsRequest "checkout-1")).2 =
        .result content false) ∧
      (readPath.callTool readCluster (logsRequest "../x?namespace=kube-system")).1 =
        some (.podLogs "../x?namespace=kube-system" "prod" 50) ∧
      readPath.callTool readCluster (logsRequest "..") =
        (none, ReadPath.failure (.podLogs ".." none none)
          "inspect-api responded 404: Cannot GET") := by
  have hexact := fun podName ↦ read_tools_exact readPath readCluster (logsRequest podName)
  refine ⟨?_, ?_, ?_⟩
  · obtain ⟨content, hcontent⟩ := log_checkout
    refine ⟨content, ((hexact "checkout-1").2.1 content).mpr ?_⟩
    exact ⟨_, _, admits_logsRequest _, rfl, by simp [ReadCall.Addressable], hcontent⟩
  · apply ((hexact "../x?namespace=kube-system").1 _).mpr
    exact ⟨_, _, admits_logsRequest _, by simp [ReadCall.Addressable], rfl⟩
  · exact (hexact "..").2.2.2 _ _ (admits_logsRequest "..") rfl (by simp [ReadCall.Addressable])

end Sample
end AgentsAuth.EndToEnd
