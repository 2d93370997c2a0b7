import AgentsAuth.Curity.Minting
import AgentsAuth.Debug.RawTokens
import AgentsAuth.Display.LeafRows

/-!
# The lists that the ledger receives

`apps/web/src/components/delegation-ledger.tsx` shows the chain that `/last-token` of agent-copilot
answers. Both agents put a leaf right before another token that they have exchanged for the same
inbound token, so that no token takes the leaf for its parent: neither on a full walk nor on one
that ends early, in any run, whosever tokens the slots hold.
-/

namespace AgentsAuth.EndToEnd

open AgentsAuth.Agents AgentsAuth.AuthCurity AgentsAuth.Base AgentsAuth.Curity AgentsAuth.Debug
open AgentsAuth.Display AgentsAuth.Display.TokenView AgentsAuth.Lib

/-- A row as the browser reads it. -/
def ledgerHop (row : Json) : LedgerHop :=
  ⟨(Json.string? (row.get? "hop")).getD "",
    ((row.get? "payload").filter Json.notNull).map Json.get?, Json.string? (row.get? "note")⟩

/-- Every leaf stands right before a hop with its `act` claim. -/
def LeavesBeside (chain : List LedgerHop) : Prop :=
  ∀ i leaf, chain[i]? = some leaf → isLeaf leaf = true →
    ∃ other, chain[i + 1]? = some other ∧ other.claim "act" = leaf.claim "act"

section Beside

variable {chain rest : List LedgerHop} {hop other : LedgerHop}

/-- Such a leaf is passed before its chain is extended. -/
theorem LeavesBeside.leavesPassed (h : LeavesBeside chain) : LeavesPassed chain := by
  intro j i leaf hop path actor hji hleaf hisLeaf hhop hpath hextended
  obtain ⟨other, hother, hact⟩ := h j leaf hleaf hisLeaf
  have hpassed : flattenActChain (other.claim "act") = some path := by
    rw [hact, hpath]
  refine ⟨j + 1, other, Nat.lt_succ_self j, ?_, hother, hpassed⟩
  apply Nat.lt_of_le_of_ne hji
  -- the hop beside the leaf has no actor more
  rintro rfl
  rw [hother, Option.some.injEq] at hhop
  rw [← hhop, hpassed, Option.some.injEq] at hextended
  have hlength := congrArg List.length hextended
  simp at hlength

/-- A list without leaves. -/
theorem leavesBeside_of_spine (h : ∀ hop ∈ chain, isLeaf hop = false) : LeavesBeside chain := by
  intro i leaf hget hisLeaf
  rw [h leaf (List.mem_of_getElem? hget)] at hisLeaf
  cases hisLeaf

/-- One hop more in front, which is no leaf. -/
theorem LeavesBeside.cons (h : LeavesBeside chain) (hspine : isLeaf hop = false) :
    LeavesBeside (hop :: chain) := by
  intro i leaf hget hisLeaf
  cases i with
  | zero =>
    cases hget
    rw [hspine] at hisLeaf
    cases hisLeaf
  | succ i => exact h i leaf hget hisLeaf

/-- A leaf more in front. -/
theorem LeavesBeside.cons_beside (h : LeavesBeside (other :: rest))
    (hact : other.claim "act" = hop.claim "act") : LeavesBeside (hop :: other :: rest) := by
  intro i leaf hget hisLeaf
  cases i with
  | zero =>
    cases hget
    exact ⟨other, rfl, hact⟩
  | succ i => exact h i leaf hget hisLeaf

/-- One list after another. -/
theorem LeavesBeside.append (h : LeavesBeside chain) (hrest : LeavesBeside rest) :
    LeavesBeside (chain ++ rest) := by
  intro i leaf hget hisLeaf
  by_cases hi : i < chain.length
  · rw [List.getElem?_append_left hi] at hget
    obtain ⟨other, hother, hact⟩ := h i leaf hget hisLeaf
    exact ⟨other, List.getElem?_append_left (List.getElem?_eq_some_iff.mp hother).1 ▸ hother, hact⟩
  · have hle : chain.length ≤ i := Nat.le_of_not_lt hi
    rw [List.getElem?_append_right hle] at hget
    obtain ⟨other, hother, hact⟩ := hrest _ leaf hget hisLeaf
    refine ⟨other, ?_, hact⟩
    rw [List.getElem?_append_right (Nat.le_succ_of_le hle), Nat.succ_eq_add_one,
      Nat.sub_add_comm hle]
    exact hother

end Beside

section Slots

/-- A token that agent-copilot accepts: one of Curity's for its audience. -/
def Inbound (C : Server) (t : TokenData) : Prop :=
  ∃ es m, m ∈ ((minting C).run es).ledger ∧ m.token = t ∧ "agent-copilot" ∈ t.aud

/-- A token that agent-copilot obtains for one of these, as agent-specialist is called with. -/
def Delegated (C : Server) (t : TokenData) : Prop :=
  ∃ ctx inbound e, Inbound C inbound ∧ Exchanged ctx (presentToken C inbound) e t ∧
    e.clientId = copilotClient

/-- In a run of a process, whatever is exchanged is exchanged by Curity for its client and a token
of this kind. -/
def ExchangedFor {η σ ρ : Type} [DecidableEq η] (C : Server) (reader : JwtReader)
    (deps : ObtainDeps η σ ρ) (kind : TokenData → Prop) (es : List (Nat × ObtainEvent ρ)) : Prop :=
  ∀ req params result, .minted req params result ∈ Agents.shown deps es →
    ∃ ctx t e d, kind t ∧ Exchanged ctx (presentToken C t) e d ∧ ctx.clientId = params.clientId ∧
      reader.decodeJwt result.accessToken = some (tokenClaims d)

/-- What the slots of agent-copilot come to hold. -/
def CopilotSlots (C : Server) (reader : JwtReader) (cfg : Copilot.Config)
    (last : Copilot.Helper → Option Copilot.ExchangeSlot) : Prop :=
  ∃ es, last = ((obtaining (Copilot.copilot cfg reader.decodeJwt)).run es).last ∧
    ExchangedFor C reader (Copilot.copilot cfg reader.decodeJwt) (Inbound C) es

/-- What the slots of agent-specialist come to hold. -/
def SpecialistSlots (C : Server) (reader : JwtReader) (cfg : Specialist.Config)
    (last : Specialist.Helper → Option Specialist.ExchangeSlot) : Prop :=
  ∃ es, last = ((obtaining (Specialist.specialist cfg)).run es).last ∧
    ExchangedFor C reader (Specialist.specialist cfg) (Delegated C) es

variable {C : Server} {reader : JwtReader}

/-- The audience agent-copilot is that of login tokens alone, which have no actor. -/
theorem act_of_inbound {t : TokenData} (h : Inbound C t) : t.act = none := by
  obtain ⟨es, ⟨t', origin⟩, hm, rfl, haud⟩ := h
  obtain ⟨i, hi⟩ := List.getElem?_of_mem hm
  cases origin with
  | login =>
    obtain ⟨ctx, rfl⟩ := login_entry hi
    rfl
  | exchange subject hop =>
    obtain ⟨parent, ctx, e, -, -, hex, -⟩ := exchange_entry hi
    have hnone : ∀ e ∈ policyEdges, e.audience ≠ "agent-copilot" := by decide
    rw [hex.aud, List.mem_singleton] at haud
    exact absurd haud.symm (hnone e hex.edge)

/-- An exchange adds the actor of its client. -/
theorem act_of_exchanged {ctx : ExchangeContext} {t d : TokenData} {e : Edge} {actor : String}
    (hex : Exchanged ctx (presentToken C t) e d)
    (hactor : ∀ e' ∈ policyEdges, e'.clientId = e.clientId → e'.actor = actor) :
    d.act = some (wrapAct actor t.act) := by
  rw [hex.act, hactor e hex.edge rfl]
  rfl

/-- What agent-copilot obtains has agent-copilot for its one actor. -/
theorem act_of_delegated {t : TokenData} (h : Delegated C t) :
    t.act = some (wrapAct spiffeCopilot none) := by
  obtain ⟨ctx, inbound, e, hinbound, hex, hclient⟩ := h
  have hactor : ∀ e' ∈ policyEdges, e'.clientId = copilotClient → e'.actor = spiffeCopilot := by
    decide
  rw [act_of_exchanged hex (hclient ▸ hactor), act_of_inbound hinbound]

/-- A token in a slot of a process has the actors of its inbound tokens and its own. -/
theorem act_of_last {η σ ρ : Type} [DecidableEq η] {deps : ObtainDeps η σ ρ}
    {kind : TokenData → Prop} {es : List (Nat × ObtainEvent ρ)} {act : Option Json} {h : η}
    {held : σ} (accessToken : σ → String) (clientId actor : String)
    (hexchanged : ExchangedFor C reader deps kind es)
    (hclient : ∀ req, (deps.callOf req).clientId = clientId)
    (hactor : ∀ e ∈ policyEdges, e.clientId = clientId → e.actor = actor)
    (hkind : ∀ t, kind t → t.act = act)
    (hslot : ∀ req slot, (deps.callOf req).slot = some slot →
      ∀ token now, accessToken (slot token now) = token)
    (hlast : ((obtaining deps).run es).last h = some held) :
    ∃ claims, reader.decodeJwt (accessToken held) = some claims ∧
      claims "act" = some (wrapAct actor act) := by
  obtain ⟨req, token, now, slot, -, -, hrecorded, rfl, horigin⟩ := recorded_of_last hlast
  obtain ⟨-, req', params, result, hminted, rfl, -⟩ := horigin
  obtain ⟨ctx, t, e, d, ht, hex, hparams, hdecode⟩ := hexchanged req' params result hminted
  have hedge : e.clientId = clientId := by
    rw [← hex.client, hparams, (observationSound_of_shown hminted).2.clientId, hclient]
  rw [hslot req slot hrecorded]
  refine ⟨tokenClaims d, hdecode, ?_⟩
  rw [← hkind t ht]
  exact act_of_exchanged hex (hedge ▸ hactor)

/-- The slots of agent-copilot hold tokens with itself for their one actor. -/
theorem CopilotSlots.act {cfg : Copilot.Config}
    {last : Copilot.Helper → Option Copilot.ExchangeSlot} (h : CopilotSlots C reader cfg last)
    (hclient : cfg.agentClientId = copilotClient) {helper : Copilot.Helper}
    {e : Copilot.ExchangeSlot} (hlast : last helper = some e) :
    ∃ claims, reader.decodeJwt e.accessToken = some claims ∧
      claims "act" = some (wrapAct spiffeCopilot none) := by
  obtain ⟨es, rfl, hexchanged⟩ := h
  refine act_of_last Copilot.ExchangeSlot.accessToken copilotClient spiffeCopilot hexchanged ?_
    (by decide) (fun t ↦ act_of_inbound) ?_ hlast
  · intro req
    cases req <;> exact hclient
  · intro req slot hslot token now
    rw [Copilot.callOf_slot hslot]
    rfl

/-- Those of agent-specialist hold tokens with both agents for their actors. -/
theorem SpecialistSlots.act {cfg : Specialist.Config}
    {last : Specialist.Helper → Option Specialist.ExchangeSlot}
    (h : SpecialistSlots C reader cfg last) (hclient : cfg.agentClientId = specialistClient)
    {helper : Specialist.Helper} {e : Specialist.ExchangeSlot} (hlast : last helper = some e) :
    ∃ claims, reader.decodeJwt e.accessToken = some claims ∧
      claims "act" = some (wrapAct spiffeSpecialist (some (wrapAct spiffeCopilot none))) := by
  obtain ⟨es, rfl, hexchanged⟩ := h
  refine act_of_last Specialist.ExchangeSlot.accessToken specialistClient spiffeSpecialist
    hexchanged ?_ (by decide) (fun t ↦ act_of_delegated) ?_ hlast
  · intro req
    cases req <;> exact hclient
  · intro req slot hslot token now
    exact Specialist.callOf_slot_accessToken hslot token now

end Slots

/-- What a service behind agent-copilot answers, with any slots of its own and however the walks
behind it end. -/
inductive ServedBody (C : Server) (reader : JwtReader) (write : Claims → Json) : Json → Prop
  | mcpInspect (last : Option Mcp.LastExchange) (includeRaw : Bool) :
    ServedBody C reader write
      (chainBody ((Mcp.inspectBuildChain reader last includeRaw).map (rowJson write)))
  | mcpOps (last : Option Mcp.LastExchange) (includeRaw : Bool) :
    ServedBody C reader write
      (chainBody ((Mcp.opsBuildChain reader last includeRaw).map (rowJson write)))
  | specialist {cfg : Specialist.Config}
    {last : Specialist.Helper → Option Specialist.ExchangeSlot}
    {fetchBody : String → String → Option Json} {includeRaw : Bool} {rows : List Json}
    (hclient : cfg.agentClientId = specialistClient) (hslots : SpecialistSlots C reader cfg last)
    (hfetch : ∀ url bearer body, fetchBody url bearer = some body → ServedBody C reader write body)
    (hrows : specialistHandler reader write fetchBody cfg last includeRaw = some rows) :
    ServedBody C reader write (chainBody rows)

/-- The leaves among rows stand beside their siblings. -/
def RowsBeside (rows : List Json) : Prop := LeavesBeside (rows.map ledgerHop)

section Rows

variable {C : Server} {reader : JwtReader} {write : Claims → Json} {label : String}
  {includeRaw : Bool} {rows : List Json}

/-- `res.json` keeps the `act` claim of the tokens that it writes. -/
def KeepsAct (reader : JwtReader) (write : Claims → Json) : Prop :=
  ∀ token claims, reader.decodeJwt token = some claims → (write claims).get? "act" = claims "act"

/-- The note of a row decides whether it is a leaf. -/
theorem isLeaf_rowJson (row : ChainHop) :
    isLeaf (ledgerHop (rowJson write row)) = row.note.any (· ≠ "") := by
  obtain ⟨hop, header, payload, token, note⟩ := row
  cases token <;> cases note <;> rfl

/-- A row shows the `act` claim of its payload. -/
theorem act_rowJson {row : ChainHop} {claims : Claims} (h : row.payload = some claims) :
    (ledgerHop (rowJson write row)).claim "act" = (write claims).get? "act" := by
  obtain ⟨hop, header, payload, token, note⟩ := row
  cases h
  show (((some (write claims)).filter Json.notNull).map Json.get?).bind (· "act") = _
  cases hclaims : write claims <;> rfl

/-- A row of a token shows its `act` claim. -/
theorem act_decode {token : String} {note : Option String} {row : ChainHop} {act : Option Json}
    (hwrite : KeepsAct reader write)
    (hclaims : ∃ claims, reader.decodeJwt token = some claims ∧ claims "act" = act)
    (h : decode reader label token includeRaw note = some row) :
    (ledgerHop (rowJson write row)).claim "act" = act := by
  obtain ⟨claims, hdecode, hact⟩ := hclaims
  rw [act_rowJson ((decode_payload h).trans hdecode), hwrite token claims hdecode, hact]

/-- A row without a note is no leaf. -/
theorem not_isLeaf_decode {token : String} {row : ChainHop}
    (h : decode reader label token includeRaw none = some row) :
    isLeaf (ledgerHop (rowJson write row)) = false := by
  rw [isLeaf_rowJson, decode_note h]
  rfl

/-- The rows of an MCP server are no leaves. -/
theorem rowsBeside_chainRows {inboundHop outboundHop : String} {last : Option Mcp.LastExchange} :
    RowsBeside
      ((Mcp.chainRows inboundHop outboundHop reader last includeRaw).map (rowJson write)) := by
  apply leavesBeside_of_spine
  rw [List.map_map, List.forall_mem_map]
  intro row hrow
  have hnote : row.note = none := by
    cases last with
    | none => cases hrow
    | some last => rcases List.mem_pair.mp hrow with rfl | rfl <;> rfl
  rw [Function.comp_apply, isLeaf_rowJson, hnote]
  rfl

/-- A branch of agent-specialist's is empty or starts with the row of its slot. -/
private theorem rowsBeside_branch {cfg : Specialist.Config}
    {last : Specialist.Helper → Option Specialist.ExchangeSlot} {helper : Specialist.Helper}
    {fetchBody : String → String → Option Json} {url : String} (hwrite : KeepsAct reader write)
    (hclient : cfg.agentClientId = specialistClient) (hslots : SpecialistSlots C reader cfg last)
    (hfetch : ∀ url bearer body, fetchBody url bearer = some body →
      ∃ rows, body = chainBody rows ∧ RowsBeside rows)
    (hrows : branchRows reader write fetchBody url label (last helper) includeRaw = some rows) :
    RowsBeside rows ∧
      (last helper = none ∧ rows = [] ∨
        ∃ row rest, rows = row :: rest ∧ (ledgerHop row).claim "act" =
          some (wrapAct spiffeSpecialist (some (wrapAct spiffeCopilot none)))) := by
  have hnone : RowsBeside [] := leavesBeside_of_spine (by simp)
  rcases branchRows_spec hnone (fun bearer body ↦ hfetch _ bearer body) hrows with
    ⟨hempty, rfl⟩ | ⟨e, row, walked, hlast, hrow, rfl, hwalked⟩
  · exact ⟨hnone, Or.inl ⟨hempty, rfl⟩⟩
  · refine ⟨LeavesBeside.cons hwalked (not_isLeaf_decode hrow), Or.inr ⟨_, _, rfl, ?_⟩⟩
    exact act_decode hwrite (hslots.act hclient hlast) hrow

/-- The leaf of agent-specialist stands beside the row of one of the gateway's routes. -/
theorem rowsBeside_specialist {cfg : Specialist.Config}
    {last : Specialist.Helper → Option Specialist.ExchangeSlot}
    {fetchBody : String → String → Option Json} (hwrite : KeepsAct reader write)
    (hclient : cfg.agentClientId = specialistClient) (hslots : SpecialistSlots C reader cfg last)
    (hfetch : ∀ url bearer body, fetchBody url bearer = some body →
      ∃ rows, body = chainBody rows ∧ RowsBeside rows)
    (hrows : specialistHandler reader write fetchBody cfg last includeRaw = some rows) :
    RowsBeside rows := by
  obtain ⟨llm, hllm, hrows⟩ := Option.bind_eq_some_iff.mp hrows
  obtain ⟨inspect, hinspect, hrows⟩ := Option.bind_eq_some_iff.mp hrows
  obtain ⟨ops, hops, hrows⟩ := Option.bind_eq_some_iff.mp hrows
  cases hrows
  obtain ⟨hinspectBeside, hinspectFirst⟩ :=
    rowsBeside_branch hwrite hclient hslots hfetch hinspect
  obtain ⟨hopsBeside, hopsFirst⟩ := rowsBeside_branch hwrite hclient hslots hfetch hops
  have hbranches : RowsBeside (inspect ++ ops) := by
    rw [RowsBeside, List.map_append]
    exact hinspectBeside.append hopsBeside
  unfold Specialist.slotHop at hllm
  split at hllm
  · next e hshown hlast =>
    obtain ⟨leaf, hleaf, rfl⟩ := Option.map_eq_some_iff.mp hllm
    obtain ⟨e', hops'⟩ : ∃ e', last .ops = some e' := by
      cases hcase : last .ops with
      | some e' => exact ⟨e', rfl⟩
      | none =>
        rw [Specialist.rendered, hcase] at hshown
        cases hshown
    have hleafAct := act_decode hwrite (hslots.act hclient hlast) hleaf
    rcases hinspectFirst with ⟨-, rfl⟩ | ⟨row, rest, rfl, hact⟩
    · -- without a read the row of the write follows, whose slot the leaf goes by
      rcases hopsFirst with ⟨hempty, -⟩ | ⟨row, rest, rfl, hact⟩
      · rw [hops'] at hempty
        cases hempty
      · exact LeavesBeside.cons_beside hbranches (hact.trans hleafAct.symm)
    · exact LeavesBeside.cons_beside hbranches (hact.trans hleafAct.symm)
  · cases hllm
    exact hbranches

/-- What a service answers are rows whose leaves stand beside their siblings. -/
theorem rowsBeside_of_served {body : Json} (hwrite : KeepsAct reader write)
    (h : ServedBody C reader write body) : ∃ rows, body = chainBody rows ∧ RowsBeside rows := by
  induction h with
  | mcpInspect last includeRaw => exact ⟨_, rfl, rowsBeside_chainRows⟩
  | mcpOps last includeRaw => exact ⟨_, rfl, rowsBeside_chainRows⟩
  | specialist hclient hslots _ hrows ih =>
    exact ⟨_, rfl, rowsBeside_specialist hwrite hclient hslots ih hrows⟩

/-- So are the rows of agent-copilot itself. -/
theorem rowsBeside_ownRows {cfg : Copilot.Config} {r : WalkRequest} {own : Copilot.OwnHops}
    (hwrite : KeepsAct reader write) (hclient : cfg.agentClientId = copilotClient)
    (hslots : CopilotSlots C reader cfg r.last)
    (h : Copilot.ownHops reader r.last r.authed r.includeRaw = some own) :
    RowsBeside (ownRows write own) := by
  obtain ⟨inbound, hinbound, h⟩ := Option.bind_eq_some_iff.mp h
  obtain ⟨llm, hllm, h⟩ := Option.bind_eq_some_iff.mp h
  obtain ⟨inspect, hinspect, h⟩ := Option.bind_eq_some_iff.mp h
  obtain ⟨specialist, hspecialist, h⟩ := Option.bind_eq_some_iff.mp h
  cases h
  have hspine : ∀ hop, inspect = some hop ∨ specialist = some hop →
      isLeaf (ledgerHop (rowJson write hop)) = false := by
    rintro hop (rfl | rfl)
    · obtain ⟨-, e, -, hdecode⟩ := Copilot.slotHop_some hinspect
      exact not_isLeaf_decode hdecode
    · obtain ⟨-, e, -, hdecode⟩ := Copilot.slotHop_some hspecialist
      exact not_isLeaf_decode hdecode
  have hrest : RowsBeside ((inspect.toList ++ specialist.toList).map (rowJson write)) := by
    apply leavesBeside_of_spine
    rw [List.map_map, List.forall_mem_map]
    intro hop hhop
    apply hspine
    simpa [Option.mem_toList] using hhop
  apply LeavesBeside.cons _ (not_isLeaf_decode hinbound)
  cases llm with
  | none => exact hrest
  | some leaf =>
    obtain ⟨hshown, e, hlast, hleaf⟩ := Copilot.slotHop_some hllm
    have hshowInspect := Copilot.showInspect_of_showLlm hshown
    obtain ⟨e', hlast', -⟩ := Copilot.belongs_eq_true (Copilot.belongs_of_showInspect hshowInspect)
    rw [hshowInspect, hlast'] at hinspect
    obtain ⟨row, rfl, hrow⟩ := Copilot.slotHop_of_shown hinspect
    apply LeavesBeside.cons_beside hrest
    rw [act_decode hwrite (hslots.act hclient hlast') hrow,
      act_decode hwrite (hslots.act hclient hlast) hleaf]

end Rows

/-- The hops of a walk have their leaves beside their siblings. -/
def HopsBeside (hops : Copilot.Hops) : Prop := ∃ rows, hops.1 = .arr rows ∧ RowsBeside rows

/-- What agent-copilot has remembered, and what it has to say so far. -/
structure WalksBeside (s : WalkState) : Prop where
  snapshots : s.fetcher.snapshots.Forall fun _ hops ↦ HopsBeside hops
  waiting : ∀ w ∈ s.waiting, RowsBeside w.2

/-- The slots of a request are those of the process, and a body is one of a service. -/
def Furnished (C : Server) (reader : JwtReader) (write : Claims → Json) (cfg : Copilot.Config) :
    WalkEvent → Prop
  | .request r => CopilotSlots C reader cfg r.last
  | .body _ (some body) => ServedBody C reader write body
  | _ => True

section Runs

variable {C : Server} {reader : JwtReader} {write : Claims → Json} {cfg : Copilot.Config}
  {maxSnapshots : Nat}

/-- An event of the fetcher completes the rows of a request. -/
theorem resume_beside {s : WalkState} {i : Nat} {e : Copilot.ChainEvent} (h : WalksBeside s)
    (hreceived : ∀ hops, e.received? = some hops → HopsBeside hops) :
    WalksBeside (resume s i (Copilot.chainStep maxSnapshots s.fetcher e)).1 ∧
      ∀ r rows, (resume s i (Copilot.chainStep maxSnapshots s.fetcher e)).2 = some (r, some rows) →
        RowsBeside rows := by
  have hnone : HopsBeside Copilot.noHops := ⟨[], rfl, leavesBeside_of_spine (by simp)⟩
  obtain ⟨hsnapshots, hhops⟩ :=
    @Copilot.chainStep_forall maxSnapshots s.fetcher e HopsBeside hnone h.snapshots hreceived
  refine ⟨⟨hsnapshots, h.waiting⟩, ?_⟩
  intro r rows hanswer
  obtain ⟨⟨c, hops⟩, hnext, hanswer⟩ := Option.bind_eq_some_iff.mp hanswer
  obtain ⟨⟨r', own⟩, hwaiting, hanswer⟩ := Option.bind_eq_some_iff.mp hanswer
  obtain ⟨more, hmore, hbeside⟩ := hhops c hops hnext
  rw [hmore] at hanswer
  cases hanswer
  rw [RowsBeside, List.map_append]
  exact LeavesBeside.append (h.waiting _ (List.mem_of_getElem? hwaiting)) hbeside

/-- One event keeps the invariant, and what it answers has its leaves beside their siblings. -/
theorem walkStep_beside {s : WalkState} {e : WalkEvent} (hwrite : KeepsAct reader write)
    (hclient : cfg.agentClientId = copilotClient) (h : WalksBeside s)
    (hfurnished : Furnished C reader write cfg e) :
    WalksBeside (walkStep cfg reader write maxSnapshots s e).1 ∧
      ∀ r rows, (walkStep cfg reader write maxSnapshots s e).2 = some (r, some rows) →
        RowsBeside rows := by
  cases e with
  | request r =>
    simp only [walkStep]
    split
    · exact ⟨h, by simp⟩
    · next own hown =>
      have hrows : RowsBeside (ownRows write own) :=
        rowsBeside_ownRows hwrite hclient hfurnished hown
      split
      · refine ⟨h, ?_⟩
        rintro r' rows ⟨⟩
        exact hrows
      · refine ⟨⟨h.snapshots, ?_⟩, by simp⟩
        intro w hw
        rcases List.mem_append.mp hw with hw | hw
        · exact h.waiting w hw
        · rw [List.mem_singleton.mp hw]
          exact hrows
  | response i ok =>
    apply resume_beside h
    intro hops hreceived
    cases hreceived
  | body i body =>
    apply resume_beside h
    intro hops hreceived
    cases body with
    | none => cases hreceived
    | some body =>
      obtain ⟨rows, rfl, hrows⟩ := rowsBeside_of_served hwrite hfurnished
      cases hreceived
      exact ⟨rows, rfl, hrows⟩

/-- Whatever the order of requests, responses and bodies, the leaves of every answer stand beside
their siblings. -/
theorem rowsBeside_of_run {es : List WalkEvent} (hwrite : KeepsAct reader write)
    (hclient : cfg.agentClientId = copilotClient)
    (hfurnished : ∀ e ∈ es, Furnished C reader write cfg e) :
    WalksBeside ((walking cfg reader write maxSnapshots).run es) ∧
      ∀ x ∈ (walking cfg reader write maxSnapshots).transcript es, ∀ r rows,
        x.2 = some (r, some rows) → RowsBeside rows := by
  induction es using List.reverseRecOn with
  | nil => exact ⟨⟨InsertionMap.forall_empty _, by simp [walking]⟩, by simp⟩
  | append_singleton es e ih =>
    obtain ⟨hkept, hanswers⟩ := ih fun e he ↦ hfurnished e (List.mem_append_left _ he)
    have hstep := @walkStep_beside C reader write cfg maxSnapshots _ e hwrite hclient hkept
      (hfurnished e (by simp))
    rw [Machine.run_concat, Machine.transcript_concat]
    refine ⟨hstep.1, ?_⟩
    intro x hx r rows hanswer
    rcases List.mem_append.mp hx with hx | hx
    · exact hanswers x hx r rows hanswer
    · rw [List.mem_singleton.mp hx] at hanswer
      exact hstep.2 r rows hanswer

/-- In every ledger of a chain that agent-copilot answers, the parent of every row is on the
spine. -/
theorem parents_on_spine {es : List WalkEvent} (hwrite : KeepsAct reader write)
    (hclient : cfg.agentClientId = copilotClient)
    (hfurnished : ∀ e ∈ es, Furnished C reader write cfg e) :
    ∀ x ∈ (walking cfg reader write maxSnapshots).transcript es, ∀ r rows,
      x.2 = some (r, some rows) → ∀ parse ledger,
        buildLedger parse (rows.map ledgerHop) = some ledger → ParentsOnSpine ledger := by
  intro x hx r rows hanswer parse ledger hledger
  have hbeside := (rowsBeside_of_run hwrite hclient hfurnished).2 x hx r rows hanswer
  exact (parentsOnSpine_iff hledger).mpr (LeavesBeside.leavesPassed hbeside)

end Runs
section Sample

private def walkContext (audience scope jti : String) : ExchangeContext where
  subjectToken := some (authorizationCodeToken sampleLogin)
  actorToken := some "e30.copilot.sig"
  clientId := copilotClient
  requestedAudiences := .collection [audience]
  requestedScopes := .collection [scope]
  env := ⟨0, 0, .response 200 "key"⟩
  fresh := ⟨jti, 600⟩

private def walkToken (audience scope jti : String) (act : Json) (mayAct : MayActClaim) :
    TokenData :=
  ⟨"alice", jti, 600, [audience], some scope, some "mfa", .items (.array ["sre"]), some act, mayAct⟩

private def copilotAct : Json := wrapAct spiffeCopilot none

private def walkLlm : TokenData := walkToken "llm-gateway" "llm:invoke" "t1" copilotAct .absent

private def walkGateway : TokenData :=
  walkToken "mcp-gateway" "inspect:read" "t2" copilotAct (.map (some spiffeGateway))

private def walkInspect : TokenData :=
  walkToken "mcp-inspect" "inspect:read" "t3" (wrapAct spiffeGateway (some copilotAct))
    (.map (some spiffeMcpInspect))

private def walkApi : TokenData :=
  walkToken "inspect-api" "inspect:read" "t4"
    (wrapAct spiffeMcpInspect (some (wrapAct spiffeGateway (some copilotAct)))) .absent

private def walkReader : JwtReader where
  decodeProtectedHeader := fun _ ↦ some fun _ ↦ none
  decodeJwt := fun token ↦
    [("e30.t0.sig", tokenClaims (authorizationCodeToken sampleLogin)),
      ("e30.t1.sig", tokenClaims walkLlm), ("e30.t2.sig", tokenClaims walkGateway)].lookup token
  parsePart := fun part ↦
    [("t3", tokenClaims walkInspect), ("t4", tokenClaims walkApi)].lookup part

private def walkWrite (claims : Claims) : Json :=
  .obj (Json.members [("act", claims "act"), ("sub", claims "sub")])

private def walkAuthed : Copilot.AuthedRequest :=
  ⟨⟨tokenClaims (authorizationCodeToken sampleLogin), []⟩, "e30.t0.sig"⟩

/-- What one call comes to after another. -/
private def walkCall (c : Nat) (req : Copilot.CopilotRequest) (accessToken scope : String) :
    List (Nat × ObtainEvent Copilot.CopilotRequest) :=
  [(c, .start req 0),
    (c, .prepared ⟨some "e30.copilot.sig", .ok "kid-1", .ok "token"⟩),
    (c, .exchanged (.ok ⟨accessToken, "bearer", 600, scope, "access_token"⟩) 0)]

private def inspectRequest : Copilot.CopilotRequest :=
  .inspect (Copilot.chatOpts walkAuthed) "token" "inspect:read" false

private def llmRequest : Copilot.CopilotRequest := .llm (Copilot.chatOpts walkAuthed)

/-- A read flow: the token for the tools, and then the one for the model. -/
private def walkFlow : List (Nat × ObtainEvent Copilot.CopilotRequest) :=
  walkCall 0 inspectRequest "e30.t2.sig" "inspect:read" ++
    walkCall 1 llmRequest "e30.t1.sig" "llm:invoke"

private def walkRequest : WalkRequest where
  url := "/last-token"
  authed := walkAuthed
  last := ((obtaining (Copilot.copilot Copilot.sampleConfig walkReader.decodeJwt)).run
    walkFlow).last

private def walkBody : Json :=
  chainBody ((Mcp.inspectBuildChain walkReader (some ⟨"e30.t3.sig", "e30.t4.sig", 0⟩)
    false).map (rowJson walkWrite))

/-- The walk of the request, to its end. -/
private def walkEvents : List WalkEvent :=
  [.request walkRequest, .response 0 (some true), .body 0 (some walkBody)]

private theorem walk_inbound : Inbound sampleServer (authorizationCodeToken sampleLogin) :=
  ⟨[.login sampleLogin], _, List.mem_singleton_self _, rfl, List.mem_singleton_self _⟩

/-- What Curity issues for the login. -/
private theorem walk_exchanged {audience scope jti : String} {d : TokenData}
    (h : ∃ response, (result sampleServer .initial (walkContext audience scope jti)).2 =
      .ok response ∧ response.accessToken = d) :
    ∃ e, Exchanged (walkContext audience scope jti)
      (presentToken sampleServer (authorizationCodeToken sampleLogin)) e d := by
  obtain ⟨response, hresponse, rfl⟩ := h
  obtain ⟨t, e, hex, -⟩ := exchanged_of_result hresponse
  obtain rfl : authorizationCodeToken sampleLogin = t := Option.some.inj hex.presented
  exact ⟨e, hex⟩

private theorem walk_slots :
    CopilotSlots sampleServer walkReader Copilot.sampleConfig walkRequest.last := by
  refine ⟨walkFlow, rfl, ?_⟩
  intro req params result hminted
  have hshown : ∃ inspectParams llmParams,
      Agents.shown (Copilot.copilot Copilot.sampleConfig walkReader.decodeJwt) walkFlow =
        [.minted inspectRequest inspectParams
            ⟨"e30.t2.sig", "bearer", 600, "inspect:read", "access_token"⟩,
          .recorded inspectRequest "e30.t2.sig" 0, .returned inspectRequest "e30.t2.sig",
          .minted llmRequest llmParams
            ⟨"e30.t1.sig", "bearer", 600, "llm:invoke", "access_token"⟩,
          .recorded llmRequest "e30.t1.sig" 0, .returned llmRequest "e30.t1.sig"] ∧
      inspectParams.clientId = copilotClient ∧ llmParams.clientId = copilotClient :=
    ⟨_, _, rfl, rfl, rfl⟩
  obtain ⟨inspectParams, llmParams, hshown, hinspect, hllm⟩ := hshown
  rw [hshown] at hminted
  simp only [List.mem_cons, reduceCtorEq, List.not_mem_nil, or_false, false_or] at hminted
  rcases hminted with h | h
  · cases h
    obtain ⟨e, hex⟩ := @walk_exchanged "mcp-gateway" "inspect:read" "t2" walkGateway ⟨_, rfl, rfl⟩
    exact ⟨_, _, e, _, walk_inbound, hex, hinspect.symm, rfl⟩
  · cases h
    obtain ⟨e, hex⟩ := @walk_exchanged "llm-gateway" "llm:invoke" "t1" walkLlm ⟨_, rfl, rfl⟩
    exact ⟨_, _, e, _, walk_inbound, hex, hllm.symm, rfl⟩

private theorem walk_keepsAct : KeepsAct walkReader walkWrite := by
  intro token claims _
  show (Json.obj (Json.members [("act", claims "act"), ("sub", claims "sub")])).get? "act" = _
  cases hact : claims "act" <;> cases hsub : claims "sub" <;> rfl

private theorem walk_furnished : ∀ e ∈ walkEvents,
    Furnished sampleServer walkReader walkWrite Copilot.sampleConfig e := by
  intro e he
  simp only [walkEvents, List.mem_cons, List.not_mem_nil, or_false] at he
  rcases he with rfl | rfl | rfl
  · exact walk_slots
  · trivial
  · exact .mcpInspect _ _

/-- A full walk after a read flow: the leaf has no row below it. -/
theorem parents_on_spine_sample :
    ∃ rows ledger, (.body 0 (some walkBody), some (walkRequest, some rows)) ∈
        (walking Copilot.sampleConfig walkReader walkWrite 8).transcript walkEvents ∧
      buildLedger (fun _ ↦ none) (rows.map ledgerHop) = some ledger ∧
      ledger.map LedgerRow.parentIndex = [none, some 0, some 0, some 2, some 3] ∧
      ledger.map LedgerRow.leaf = [false, true, false, false, false] ∧ ParentsOnSpine ledger := by
  obtain ⟨rows, ledger, hanswer, hledger, hparents, hleaves⟩ : ∃ rows ledger,
      ((walking Copilot.sampleConfig walkReader walkWrite 8).transcript walkEvents)[2]? =
        some (.body 0 (some walkBody), some (walkRequest, some rows)) ∧
      buildLedger (fun _ ↦ none) (rows.map ledgerHop) = some ledger ∧
      ledger.map LedgerRow.parentIndex = [none, some 0, some 0, some 2, some 3] ∧
      ledger.map LedgerRow.leaf = [false, true, false, false, false] :=
    ⟨_, _, rfl, rfl, rfl, rfl⟩
  have hmem := List.mem_of_getElem? hanswer
  refine ⟨rows, ledger, hmem, hledger, hparents, hleaves, ?_⟩
  apply parents_on_spine walk_keepsAct rfl walk_furnished _ hmem _ _ rfl _ _ hledger

end Sample
end AgentsAuth.EndToEnd
