import AgentsAuth.Agents.ChainHop
import AgentsAuth.Specialist.Exchanges

/-!
# The debug chain of agent-specialist

The rows that `apps/agent-specialist/src/last-token-route.ts` takes from the slots of its
own process, before the walks downstream add theirs.
-/

namespace AgentsAuth.Specialist

open AgentsAuth.Agents AgentsAuth.AuthCurity

/-- Model of `last-token-route.ts:36–48`. -/
def selectLlmLeaf (ops llm : Option ExchangeSlot) : Bool :=
  match ops, llm with
  | some ops, some llm => ops.atMs ≤ llm.atMs
  | _, _ => false

/-- The slots whose tokens are rendered. -/
def rendered (last : Helper → Option ExchangeSlot) (h : Helper) : Bool :=
  match h with
  | .llm => selectLlmLeaf (last .ops) (last .llm)
  | .ops => true
  | .inspect => true

/-- The row of a slot, when there is one to show; the outer `none` is a thrown error. -/
def slotHop (reader : JwtReader) (last : Helper → Option ExchangeSlot) (h : Helper)
    (hop : String) (includeRaw : Bool) (note : Option String) : Option (List ChainHop) :=
  match rendered last h, last h with
  | true, some e => (decode reader hop e.accessToken includeRaw note).map fun row ↦ [row]
  | _, _ => some []

/-- The rows of the specialist itself, `last-token-route.ts:106–143`, in their order. -/
def ownHops (reader : JwtReader) (last : Helper → Option ExchangeSlot) (includeRaw : Bool) :
    Option (List ChainHop) := do
  let llm ← slotHop reader last .llm "agent-specialist → agentgateway (/llm)" includeRaw
    (some llmLeafNote)
  let inspect ← slotHop reader last .inspect "agent-specialist → agentgateway (/inspect/mcp)"
    includeRaw none
  let ops ← slotHop reader last .ops "agent-specialist → agentgateway (/ops/mcp)" includeRaw none
  return llm ++ inspect ++ ops

/-- A slot that is rendered has a row, and no other has one. -/
theorem slotHop_spec {reader : JwtReader} {last : Helper → Option ExchangeSlot}
    {h : Helper} {label : String} {includeRaw : Bool} {note : Option String}
    {rows : List ChainHop} (hrows : slotHop reader last h label includeRaw note = some rows) :
    (∀ row ∈ rows, ∃ e, rendered last h = true ∧ last h = some e ∧
      decode reader label e.accessToken includeRaw note = some row) ∧
    ∀ e, rendered last h = true → last h = some e →
      ∃ row ∈ rows, decode reader label e.accessToken includeRaw note = some row := by
  unfold slotHop at hrows
  split at hrows
  · next e hshown hlast =>
    obtain ⟨row, hrow, rfl⟩ := Option.map_eq_some_iff.mp hrows
    constructor
    · intro row' hrow'
      rw [List.mem_singleton] at hrow'
      subst hrow'
      exact ⟨e, hshown, hlast, hrow⟩
    · intro e' _ hlast'
      rw [hlast] at hlast'
      cases hlast'
      exact ⟨row, List.mem_singleton_self row, hrow⟩
  · next hnone =>
    cases hrows
    constructor
    · intro row hrow
      cases hrow
    · intro e hshown hlast
      exact absurd hlast (hnone e hshown)

/-- The rows are those of the rendered slots. -/
theorem ownHops_spec {reader : JwtReader} {last : Helper → Option ExchangeSlot}
    {includeRaw : Bool} {rows : List ChainHop}
    (hrows : ownHops reader last includeRaw = some rows) :
    (∀ row ∈ rows, ∃ h e label note, rendered last h = true ∧ last h = some e ∧
      decode reader label e.accessToken includeRaw note = some row) ∧
    ∀ h e, rendered last h = true → last h = some e →
      ∃ row ∈ rows, ∃ label note, decode reader label e.accessToken includeRaw note = some row := by
  obtain ⟨llm, hllm, hrows⟩ := Option.bind_eq_some_iff.mp hrows
  obtain ⟨inspect, hinspect, hrows⟩ := Option.bind_eq_some_iff.mp hrows
  obtain ⟨ops, hops, hrows⟩ := Option.bind_eq_some_iff.mp hrows
  cases hrows
  constructor
  · intro row hrow
    rw [List.mem_append, List.mem_append] at hrow
    rcases hrow with (hrow | hrow) | hrow
    · obtain ⟨e, hspec⟩ := (slotHop_spec hllm).1 row hrow
      exact ⟨.llm, e, _, _, hspec⟩
    · obtain ⟨e, hspec⟩ := (slotHop_spec hinspect).1 row hrow
      exact ⟨.inspect, e, _, _, hspec⟩
    · obtain ⟨e, hspec⟩ := (slotHop_spec hops).1 row hrow
      exact ⟨.ops, e, _, _, hspec⟩
  · intro h e hshown hlast
    cases h with
    | llm =>
      obtain ⟨row, hrow, hdecode⟩ := (slotHop_spec hllm).2 e hshown hlast
      exact ⟨row, by simp [hrow], _, _, hdecode⟩
    | inspect =>
      obtain ⟨row, hrow, hdecode⟩ := (slotHop_spec hinspect).2 e hshown hlast
      exact ⟨row, by simp [hrow], _, _, hdecode⟩
    | ops =>
      obtain ⟨row, hrow, hdecode⟩ := (slotHop_spec hops).2 e hshown hlast
      exact ⟨row, by simp [hrow], _, _, hdecode⟩

end AgentsAuth.Specialist
