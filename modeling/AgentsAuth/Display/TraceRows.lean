import AgentsAuth.Base.Json
import AgentsAuth.Lib.Pairing

/-!
# Rows of a trace

`buildTraceRows` of `apps/web/src/lib/trace-view.ts` makes one row for every tool call and takes
the results of a step out of a list as it finds calls with their names. Which result a call gets
is a matter of counting: the third call to a tool in a step has the third result of this name.
-/

namespace AgentsAuth.Display

open AgentsAuth.Base AgentsAuth.Lib

namespace TraceView

/-- An element of `toolCalls`; absent arguments are `undefined`. -/
structure ToolCall where
  name : String
  args : Option Json

/-- An element of `toolResults`; an absent result is `undefined`. -/
structure ToolResult where
  name : String
  result : Option Json

/-- `TraceStep`. -/
structure TraceStep where
  toolCalls : Option (List ToolCall)
  toolResults : Option (List ToolResult)
  finishReason : Option String

/-- `step.toolCalls ?? []`. -/
def TraceStep.calls (step : TraceStep) : List ToolCall := step.toolCalls.getD []

/-- `step.toolResults ?? []`. -/
def TraceStep.results (step : TraceStep) : List ToolResult := step.toolResults.getD []

/-- `TraceRow`; a summary may end inside a surrogate pair and is given by its code units. -/
structure TraceRow where
  index : Nat
  step : Nat
  tool : String
  args : List (String × String)
  result : Option Json
  summary : List Nat
  failed : Bool
  finishReason : Option String

/-- `JSON.stringify`, and `JSON.parse` with `none` for a thrown error. -/
structure JsonText where
  stringify : Json → String
  parse : String → Option Json

/-- Model of `apps/web/src/lib/trace-view.ts:38–40`. -/
def truncate (s : String) : List Nat :=
  if 118 < (codeUnits s).length then (codeUnits s).take 117 ++ codeUnits "…" else codeUnits s

/-- `n === 1 ? '' : 's'` after a number of items. -/
def itemCount (n : Nat) : String := toString n ++ " item" ++ if n = 1 then "" else "s"

/-- Model of `apps/web/src/lib/trace-view.ts:42–48`. -/
def fmtValue : Json → String
  | .null => "null"
  | .arr items => "[" ++ itemCount items.length ++ "]"
  | .obj _ => "{…}"
  | v => v.toText

/-- Model of `apps/web/src/lib/trace-view.ts:51–63`. -/
def summarizeResult : Option Json → List Nat
  | none => codeUnits "no result"
  | some .null => codeUnits "null"
  | some (.str s) => truncate (String.ofList (s.toList.takeWhile (· ≠ '\n')))
  | some (.arr items) => codeUnits (itemCount items.length)
  | some (.obj members) =>
    truncate (" · ".intercalate ((objectEntries members).map fun m ↦ m.1 ++ ": " ++ fmtValue m.2))
  | some v => codeUnits v.toText

/-- Model of `apps/web/src/lib/trace-view.ts:65–73`. -/
def flattenArgs (json : JsonText) : Option Json → List (String × String)
  | none => []
  | some (.obj members) =>
    (objectEntries members).map fun m ↦
      (m.1, if m.2.isObject then json.stringify m.2 else m.2.toText)
  | some args => [("input", fmtValue args)]

/-- Model of `apps/web/src/lib/trace-view.ts:81–90`. -/
def decodeResult (json : JsonText) : Option Json → Option Json
  | some (.str s) =>
    let t := trim s
    if t.toList.head? = some '{' ∨ t.toList.head? = some '[' then
      match json.parse t with
      | some value => some value
      | none => some (.str s)
    else some (.str s)
  | result => result

/-- Model of `apps/web/src/lib/trace-view.ts:92–99`. -/
def isFailure : Option Json → Bool
  | some (.obj members) => (members.lookup "error").isSome
  | _ => false

/-- The row of a call with the result that was found for it. -/
def traceRow (json : JsonText) (step : TraceStep) (si index : Nat) (call : ToolCall)
    (hit : Option ToolResult) : TraceRow :=
  let result := decodeResult json (hit.bind (·.result))
  { index := index
    step := si + 1
    tool := call.name
    args := flattenArgs json call.args
    result := result
    summary := summarizeResult result
    failed := isFailure result
    finishReason := step.finishReason }

/-- The loop over the calls of a step, when `count` rows are there already: the first result with
the name of the call is taken out of those that are left. -/
def stepRows (json : JsonText) (step : TraceStep) (si : Nat) :
    List ToolCall → (pending : List ToolResult) → (count : Nat) → List TraceRow
  | [], _, _ => []
  | call :: calls, pending, count =>
    traceRow json step si (count + 1) call (pending.find? fun r ↦ r.name = call.name) ::
      stepRows json step si calls (pending.eraseP fun r ↦ r.name = call.name) (count + 1)

/-- `steps.forEach`, from the step numbered `si` on. -/
def traceRows (json : JsonText) : List TraceStep → (si count : Nat) → List TraceRow
  | [], _, _ => []
  | step :: steps, si, count =>
    let rows := stepRows json step si step.calls step.results count
    rows ++ traceRows json steps (si + 1) (count + rows.length)

/-- Model of `apps/web/src/lib/trace-view.ts:101–124`. -/
def buildTraceRows (json : JsonText) (steps : List TraceStep) : List TraceRow :=
  traceRows json steps 0 0

/-- The result that the call at `c` is to have: when `k` calls before it have its name, the result
that has `k` results of its name before it; by its position. -/
def pairedWith (step : TraceStep) (c : Nat) : Option Nat := do
  let call ← step.calls[c]?
  let k := ((step.calls.take c).map (·.name)).count call.name
  let paired ← (step.results.zipIdx.filter fun r ↦ r.1.name = call.name)[k]?
  return paired.2

section Step

variable {json : JsonText} {step : TraceStep} {si count c c' i : Nat} {calls : List ToolCall}
  {pending : List ToolResult}

/-- The rows of a step are numbered on. -/
theorem index_stepRows :
    (stepRows json step si calls pending count).map (·.index) =
      List.range' (count + 1) calls.length := by
  induction calls generalizing pending count with
  | nil => rfl
  | cons call calls ih =>
    rw [stepRows, List.map_cons, ih, List.length_cons, List.range'_succ]
    rfl

/-- The rows of a step are those of its calls. -/
theorem tool_stepRows :
    (stepRows json step si calls pending count).map (fun row ↦ (row.step, row.tool)) =
      calls.map fun call ↦ (si + 1, call.name) := by
  induction calls generalizing pending count with
  | nil => rfl
  | cons call calls ih =>
    rw [stepRows, List.map_cons, ih, List.map_cons]
    rfl

/-- The rows of a step have the results that its calls take. -/
theorem result_stepRows :
    (stepRows json step si calls pending count).map (·.result) =
      (pairFirst ToolResult.name (calls.map (·.name)) pending).map fun hit ↦
        decodeResult json (hit.bind (·.result)) := by
  induction calls generalizing pending count with
  | nil => rfl
  | cons call calls ih =>
    rw [stepRows, List.map_cons, ih, List.map_cons, pairFirst, List.map_cons]
    rfl

private theorem pairedWith_eq_some_iff :
    pairedWith step c = some i ↔
      ∃ call result, step.calls[c]? = some call ∧
        (step.results.zipIdx.filter fun r ↦ r.1.name = call.name)[((step.calls.take c).map
          (·.name)).count call.name]? = some (result, i) := by
  simp only [pairedWith, Option.bind_eq_bind, Option.bind_eq_some_iff]
  constructor
  · rintro ⟨call, hcall, ⟨result, i'⟩, hpaired, hi⟩
    cases hi
    exact ⟨call, result, hcall, hpaired⟩
  · rintro ⟨call, result, hcall, hpaired⟩
    exact ⟨call, hcall, (result, i), hpaired, rfl⟩

private theorem of_mem_filter {name : String} {result : ToolResult}
    (h : (result, i) ∈ step.results.zipIdx.filter fun r ↦ r.1.name = name) :
    step.results[i]? = some result ∧ result.name = name := by
  obtain ⟨hmem, hname⟩ := List.mem_filter.mp h
  exact ⟨List.mk_mem_zipIdx_iff_getElem?.mp hmem, of_decide_eq_true hname⟩

/-- A call is paired with a result of its name. -/
theorem name_of_pairedWith (h : pairedWith step c = some i) :
    ∃ call result, step.calls[c]? = some call ∧ step.results[i]? = some result ∧
      result.name = call.name := by
  obtain ⟨call, result, hcall, hpaired⟩ := pairedWith_eq_some_iff.mp h
  obtain ⟨hresult, hname⟩ := of_mem_filter (List.mem_of_getElem? hpaired)
  exact ⟨call, result, hcall, hresult, hname⟩

private theorem count_lt {name : String} {call : ToolCall} (hlt : c < c')
    (hcall : step.calls[c]? = some call) (hname : call.name = name) :
    ((step.calls.take c).map (·.name)).count name <
      ((step.calls.take c').map (·.name)).count name := by
  have hbound := (List.getElem?_eq_some_iff.mp hcall).1
  have hsplit : step.calls.take (c + 1) = step.calls.take c ++ [call] := by
    rw [List.take_add_one, hcall, Option.toList_some]
  have hsublist : (step.calls.take (c + 1)).Sublist (step.calls.take c') :=
    List.take_sublist_take_left hlt
  calc
    _ < ((step.calls.take (c + 1)).map (·.name)).count name := by
      rw [hsplit, List.map_append, List.count_append, ← hname]
      simp
    _ ≤ _ := (hsublist.map _).count_le name

/-- No result is used twice. -/
theorem pairedWith_inj (h : pairedWith step c = some i) (h' : pairedWith step c' = some i) :
    c = c' := by
  obtain ⟨call, result, hcall, hpaired⟩ := pairedWith_eq_some_iff.mp h
  obtain ⟨call', result', hcall', hpaired'⟩ := pairedWith_eq_some_iff.mp h'
  obtain ⟨hresult, hname⟩ := of_mem_filter (List.mem_of_getElem? hpaired)
  obtain ⟨hresult', hname'⟩ := of_mem_filter (List.mem_of_getElem? hpaired')
  rw [hresult, Option.some.injEq] at hresult'
  subst hresult'
  rw [← hname] at hpaired
  rw [← hname'] at hpaired'
  have hnodup : (step.results.zipIdx.filter fun r ↦ r.1.name = result.name).Nodup := by
    refine List.Nodup.filter _ (List.Nodup.of_map Prod.snd ?_)
    rw [List.zipIdx_map_snd]
    exact List.nodup_range'
  have hbound := (List.getElem?_eq_some_iff.mp hpaired).1
  have hcount := (List.getElem?_inj hbound hnodup).mp (hpaired.trans hpaired'.symm)
  rcases Nat.lt_trichotomy c c' with hlt | heq | hlt
  · exact absurd hcount (Nat.ne_of_lt (count_lt hlt hcall hname.symm))
  · exact heq
  · exact absurd hcount.symm (Nat.ne_of_lt (count_lt hlt hcall' hname'.symm))

private theorem filter_results {name : String} :
    step.results.filter (fun r ↦ r.name = name) =
      (step.results.zipIdx.filter fun r ↦ r.1.name = name).map Prod.fst := by
  calc
    _ = (step.results.zipIdx.map Prod.fst).filter fun r ↦ r.name = name := by
      rw [List.zipIdx_map_fst]
    _ = _ := List.filter_map ..

/-- What the calls take one after the other is what they are to have. -/
theorem pairFirst_eq_pairedWith :
    pairFirst ToolResult.name (step.calls.map (·.name)) step.results =
      (List.range step.calls.length).map fun c ↦ (pairedWith step c).bind (step.results[·]?) := by
  apply List.ext_getElem?
  intro c
  rw [List.getElem?_map]
  by_cases hc : c < step.calls.length
  · have hcall := List.getElem?_eq_getElem hc
    have hname : (step.calls.map (·.name))[c]? = some step.calls[c].name := by
      rw [List.getElem?_map, hcall, Option.map_some]
    rw [getElem?_pairFirst hname, List.getElem?_range hc, Option.map_some, ← List.map_take,
      Option.some.injEq, filter_results, List.getElem?_map]
    cases hpaired : (step.results.zipIdx.filter fun r ↦ r.1.name = step.calls[c].name)[
        ((step.calls.take c).map (·.name)).count step.calls[c].name]? with
    | none =>
      have hnone : pairedWith step c = none := by
        simp only [pairedWith, Option.bind_eq_bind, hcall, Option.bind_some, hpaired,
          Option.bind_none]
      rw [hnone]
      rfl
    | some paired =>
      have hsome : pairedWith step c = some paired.2 :=
        pairedWith_eq_some_iff.mpr ⟨step.calls[c], paired.1, hcall, hpaired⟩
      rw [hsome, Option.bind_some, (of_mem_filter (List.mem_of_getElem? hpaired)).1]
      rfl
  · rw [List.getElem?_eq_none_iff.mpr, List.getElem?_eq_none_iff.mpr]
    · rfl
    · rw [List.length_range]
      exact Nat.le_of_not_lt hc
    · rw [length_pairFirst, List.length_map]
      exact Nat.le_of_not_lt hc

end Step

section Rows

variable {json : JsonText} {steps : List TraceStep} {si count : Nat}

/-- The rows are numbered on from step to step. -/
theorem index_traceRows :
    (traceRows json steps si count).map (·.index) =
      List.range' (count + 1) (traceRows json steps si count).length := by
  induction steps generalizing si count with
  | nil => rfl
  | cons step steps ih =>
    have hlength : (stepRows json step si step.calls step.results count).length =
        step.calls.length := by
      have h := congrArg List.length (@index_stepRows json step si count step.calls step.results)
      rwa [List.length_map, List.length_range'] at h
    simp only [traceRows]
    rw [List.map_append, index_stepRows, ih, List.length_append, hlength, Nat.add_right_comm count,
      List.range'_append_1]

/-- The rows are those of the calls, step by step. -/
theorem tool_traceRows :
    (traceRows json steps si count).map (fun row ↦ (row.step, row.tool)) =
      (steps.zipIdx (si + 1)).flatMap fun step ↦
        step.1.calls.map fun call ↦ (step.2, call.name) := by
  induction steps generalizing si count with
  | nil => rfl
  | cons step steps ih =>
    simp only [traceRows]
    rw [List.map_append, tool_stepRows, ih, List.zipIdx_cons, List.flatMap_cons]

/-- The rows have the results that their calls are paired with, step by step. -/
theorem result_traceRows :
    (traceRows json steps si count).map (·.result) =
      steps.flatMap fun step ↦ (List.range step.calls.length).map fun c ↦
        decodeResult json (((pairedWith step c).bind (step.results[·]?)).bind (·.result)) := by
  induction steps generalizing si count with
  | nil => rfl
  | cons step steps ih =>
    simp only [traceRows]
    rw [List.map_append, result_stepRows, ih, pairFirst_eq_pairedWith, List.map_map,
      List.flatMap_cons]
    rfl

end Rows

/-- A text that may hold an object or an array: `{` or `[` is what it starts with. -/
def Bracketed (s : String) : Prop := (trim s).toList.head? ∈ [some '{', some '[']

/-- What is shown of a result: none of none, a text with JSON of an object or an array in it as its
value, and all else as it is. -/
structure ShowsResult (json : JsonText) (result shown : Option Json) : Prop where
  none_iff : shown = none ↔ result = none
  parsed : ∀ s v, result = some (.str s) → Bracketed s → json.parse (trim s) = some v →
    shown = some v
  unparsed : ∀ s, result = some (.str s) → ¬ Bracketed s ∨ json.parse (trim s) = none →
    shown = some (.str s)
  value : ∀ v, result = some v → (∀ s, v ≠ .str s) → shown = some v

/-- A row shows the result that it is given. -/
theorem showsResult_decodeResult (json : JsonText) (result : Option Json) :
    ShowsResult json result (decodeResult json result) := by
  match result with
  | some (.str s) =>
    have hbracketed : Bracketed s ↔
        (trim s).toList.head? = some '{' ∨ (trim s).toList.head? = some '[' := by
      simp [Bracketed]
    by_cases h : Bracketed s
    · simp only [decodeResult, if_pos (hbracketed.mp h)]
      cases hparse : json.parse (trim s) with
      | some value =>
        refine ⟨by simp, ?_, ?_, by simp⟩
        · rintro s' v ⟨⟩ - hv
          exact hparse.symm.trans hv
        · rintro s' ⟨⟩ (hnot | hnone)
          · exact absurd h hnot
          · rw [hparse] at hnone
            cases hnone
      | none =>
        refine ⟨by simp, ?_, ?_, by simp⟩
        · rintro s' v ⟨⟩ - hv
          rw [hparse] at hv
          cases hv
        · rintro s' ⟨⟩ -
          rfl
    · simp only [decodeResult, if_neg (hbracketed.not.mp h)]
      refine ⟨by simp, ?_, ?_, by simp⟩
      · rintro s' v ⟨⟩ hbracketed' -
        exact absurd hbracketed' h
      · rintro s' ⟨⟩ -
        rfl
  | none => exact ⟨by simp [decodeResult], by simp, by simp, by simp⟩
  | some .null => exact ⟨by simp [decodeResult], by simp, by simp, by simp [decodeResult]⟩
  | some (.bool b) => exact ⟨by simp [decodeResult], by simp, by simp, by simp [decodeResult]⟩
  | some (.num n) => exact ⟨by simp [decodeResult], by simp, by simp, by simp [decodeResult]⟩
  | some (.arr items) => exact ⟨by simp [decodeResult], by simp, by simp, by simp [decodeResult]⟩
  | some (.obj members) =>
    exact ⟨by simp [decodeResult], by simp, by simp, by simp [decodeResult]⟩

/-- There is one row for every call, in order and numbered from one; within a step the third call
to a tool has the third result of its name, which its row shows, no result is used twice, and none
for a call of another name. -/
theorem buildTraceRows_spec (json : JsonText) (steps : List TraceStep) :
    (buildTraceRows json steps).map (·.index) =
      List.range' 1 (buildTraceRows json steps).length ∧
    (buildTraceRows json steps).map (fun row ↦ (row.step, row.tool)) =
      (steps.zipIdx 1).flatMap (fun step ↦ step.1.calls.map fun call ↦ (step.2, call.name)) ∧
    (buildTraceRows json steps).map (·.result) =
      steps.flatMap (fun step ↦ (List.range step.calls.length).map fun c ↦
        decodeResult json (((pairedWith step c).bind (step.results[·]?)).bind (·.result))) ∧
    (∀ result, ShowsResult json result (decodeResult json result)) ∧
    ∀ step ∈ steps,
      (∀ c i, pairedWith step c = some i → ∃ call result, step.calls[c]? = some call ∧
        step.results[i]? = some result ∧ result.name = call.name) ∧
      ∀ c c' i, pairedWith step c = some i → pairedWith step c' = some i → c = c' :=
  ⟨index_traceRows, tool_traceRows, result_traceRows, showsResult_decodeResult json,
    fun _ _ ↦ ⟨fun _ _ ↦ name_of_pairedWith, fun _ _ _ ↦ pairedWith_inj⟩⟩

-- two tools called in turn, one of them once more than it answered
example :
    let call (name : String) : ToolCall := ⟨name, none⟩
    let result (name : String) : ToolResult := ⟨name, none⟩
    let step : TraceStep :=
      ⟨some [call "logs", call "pods", call "logs", call "logs"],
        some [result "pods", result "logs", result "logs"], none⟩
    (List.range 4).map (pairedWith step) = [some 1, some 0, some 2, none] := by
  decide

end TraceView
end AgentsAuth.Display
