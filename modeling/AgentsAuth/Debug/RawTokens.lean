import AgentsAuth.Api.InspectReads
import AgentsAuth.Copilot.DownstreamChain
import AgentsAuth.Copilot.LastToken
import AgentsAuth.Mcp.LastToken
import AgentsAuth.Specialist.LastToken

/-!
# Raw tokens on the debug walk

`/last-token` of a service answers with rows of its own and with those of the services behind it,
and with the tokens themselves only for `?raw=1`. agent-copilot keeps snapshots of what it has been
answered in either mode. In every run each row renders one token, and shows it exactly when the
request asked for it.
-/

namespace AgentsAuth.Debug

open AgentsAuth.Agents AgentsAuth.Api AgentsAuth.AuthCurity AgentsAuth.Base AgentsAuth.Copilot
open AgentsAuth.Lib

/-- What `res.json` makes of a row; `write` does so for a claim set. -/
def rowJson (write : Claims → Json) (row : ChainHop) : Json :=
  .obj (Json.members [("hop", some (.str row.hop)),
    ("header", some ((row.header.map write).getD .null)),
    ("payload", some ((row.payload.map write).getD .null)),
    ("token", row.token.map .str), ("note", row.note.map .str)])

/-- `{ chain }`. -/
def chainBody (rows : List Json) : Json := .obj [("chain", .arr rows)]

/-- `req.query.raw === '1'` of a request for a URL. -/
def rawAsked (url : String) : Bool :=
  Json.string? (InspectApi.queryValue (urlTarget url).query "raw") = some "1"

/-- `fetchUrl` of both agents: `apps/agent-copilot/src/last-token-route.ts:121`. -/
def fetchUrl (url : String) (includeRaw : Bool) : String :=
  if includeRaw then url ++ "?raw=1" else url

/-- What `push(...hops)` adds; `none` where it throws. -/
def spread : Json → Option (List Json)
  | .arr items => some items
  | .str s => some (s.toList.map fun c ↦ .str (String.singleton c))
  | _ => none

section Specialist

variable (reader : JwtReader) (write : Claims → Json) (fetchBody : String → String → Option Json)

/-- Model of `fetchDownstreamChain`, `apps/agent-specialist/src/last-token-route.ts:80–97`;
`fetchBody` yields the JSON of an `ok` response. -/
def fetchDownstreamChain (url bearer : String) (includeRaw : Bool) : Hops :=
  ((fetchBody (fetchUrl url includeRaw) bearer).bind chainOf).getD noHops

/-- The row of a slot and the walk with its token; `none` is a thrown error. -/
def branchRows (url hop : String) (slot : Option Specialist.ExchangeSlot) (includeRaw : Bool) :
    Option (List Json) :=
  match slot with
  | none => some []
  | some e => do
    let row ← decode reader hop e.accessToken includeRaw none
    let walked ← spread (fetchDownstreamChain fetchBody url e.accessToken includeRaw).1
    return rowJson write row :: walked

/-- Model of `handler`, `apps/agent-specialist/src/last-token-route.ts:105–147`; `none` is
its 500. -/
def specialistHandler (cfg : Specialist.Config)
    (last : Specialist.Helper → Option Specialist.ExchangeSlot) (includeRaw : Bool) :
    Option (List Json) := do
  let llm ← Specialist.slotHop reader last .llm "agent-specialist → agentgateway (/llm)" includeRaw
    (some llmLeafNote)
  let inspect ← branchRows reader write fetchBody (lastTokenUrl cfg.mcpInspectUrl "mcp")
    "agent-specialist → agentgateway (/inspect/mcp)" (last .inspect) includeRaw
  let ops ← branchRows reader write fetchBody (lastTokenUrl cfg.mcpOpsUrl "mcp")
    "agent-specialist → agentgateway (/ops/mcp)" (last .ops) includeRaw
  return llm.map (rowJson write) ++ inspect ++ ops

end Specialist

/-- The address of a service has neither a query nor a fragment, nor a bar. -/
def IsServiceUrl (url : String) : Prop := ∀ c ∈ url.toList, c ≠ '?' ∧ c ≠ '#' ∧ c ≠ '|'

/-- What a service behind agent-copilot answers to a request with or without `raw=1`, whatever its
slots hold and however the walks behind it end. -/
inductive Answers (reader : JwtReader) (write : Claims → Json) : Bool → Json → Prop
  | mcpInspect (last : Option Mcp.LastExchange) (includeRaw : Bool) :
    Answers reader write includeRaw
      (chainBody ((Mcp.inspectBuildChain reader last includeRaw).map (rowJson write)))
  | mcpOps (last : Option Mcp.LastExchange) (includeRaw : Bool) :
    Answers reader write includeRaw
      (chainBody ((Mcp.opsBuildChain reader last includeRaw).map (rowJson write)))
  | specialist {cfg : Specialist.Config}
    {last : Specialist.Helper → Option Specialist.ExchangeSlot}
    {fetchBody : String → String → Option Json} {includeRaw : Bool} {rows : List Json}
    (hinspect : IsServiceUrl cfg.mcpInspectUrl) (hops : IsServiceUrl cfg.mcpOpsUrl)
    (hfetch : ∀ url bearer body, fetchBody url bearer = some body →
      Answers reader write (rawAsked url) body)
    (hrows : specialistHandler reader write fetchBody cfg last includeRaw = some rows) :
    Answers reader write includeRaw (chainBody rows)

/-- A request that agent-copilot has authenticated, and what its slots held then. -/
structure WalkRequest where
  url : String
  authed : AuthedRequest
  last : Helper → Option ExchangeSlot

/-- Whether it asks for the tokens. -/
def WalkRequest.includeRaw (r : WalkRequest) : Bool := rawAsked r.url

/-- What happens: a request is handled, or a fetch of a walk settles, or its body does. -/
inductive WalkEvent where
  | request (r : WalkRequest)
  | response (call : Nat) (ok : Option Bool)
  | body (call : Nat) (body : Option Json)

/-- A request with the rows that answer it, or `none` for a thrown error. -/
abbrev WalkAnswer := Option (WalkRequest × Option (List Json))

/-- The fetcher, and for each of its calls the request that waits for it with its first rows. -/
structure WalkState where
  fetcher : ChainState
  waiting : List (WalkRequest × List Json)

section Handler

variable (cfg : Config) (reader : JwtReader) (write : Claims → Json) (maxSnapshots : Nat)

/-- The rows of the process itself, in their order. -/
def ownRows (own : OwnHops) : List Json :=
  (own.inbound :: own.llm.toList ++ own.inspect.toList ++ own.specialist.toList).map
    (rowJson write)

/-- The walk that a request takes: `apps/agent-copilot/src/last-token-route.ts:194–210`. -/
def walkOf (r : WalkRequest) (own : OwnHops) : Option ChainCall :=
  match own.inspect, own.specialist with
  | some _, _ => (r.last .inspect).map fun e ↦
      ⟨lastTokenUrl cfg.mcpInspectUrl "mcp", e.accessToken, r.includeRaw⟩
  | none, some _ => (r.last .specialist).map fun e ↦
      ⟨lastTokenUrl cfg.specialistA2aUrl "a2a", e.accessToken, r.includeRaw⟩
  | none, none => none

/-- A request whose call is answered is answered itself. -/
def resume (s : WalkState) (i : Nat) (next : ChainState × Option (ChainCall × Hops)) :
    WalkState × WalkAnswer :=
  (⟨next.1, s.waiting⟩, do
    let (_, hops) ← next.2
    let (r, rows) ← s.waiting[i]?
    return (r, (spread hops.1).map (rows ++ ·)))

/-- One event at agent-copilot. -/
def walkStep (s : WalkState) : WalkEvent → WalkState × WalkAnswer
  | .request r =>
    match ownHops reader r.last r.authed r.includeRaw with
    | none => (s, some (r, none))
    | some own =>
      match walkOf cfg r own with
      | none => (s, some (r, some (ownRows write own)))
      | some c =>
        (⟨(chainStep maxSnapshots s.fetcher (.call c)).1, s.waiting ++ [(r, ownRows write own)]⟩,
          none)
  | .response i ok => resume s i (chainStep maxSnapshots s.fetcher (.response i ok))
  | .body i body => resume s i (chainStep maxSnapshots s.fetcher (.body i body))

/-- Model of `lastTokenHandler`, `apps/agent-copilot/src/last-token-route.ts:150–214`, with its
requests and their walks in any order. -/
def walking : Machine WalkState WalkEvent WalkAnswer where
  init := ⟨⟨.empty, []⟩, []⟩
  step := walkStep cfg reader write maxSnapshots

end Handler

/-- A body that arrives is an answer of the service that was called. -/
def ServedAt (reader : JwtReader) (write : Claims → Json) (s : WalkState) : WalkEvent → Prop
  | .body i (some body) => ∀ c, (s.fetcher.calls.map Prod.fst)[i]? = some c →
      Answers reader write (rawAsked (fetchUrl c.url c.includeRaw)) body
  | _ => True

/-- A row renders one token, decoded by `jose` or segment by segment, and shows it when raw. -/
structure Renders (reader : JwtReader) (write : Claims → Json) (includeRaw : Bool) (token : String)
    (hop : ChainHop) : Prop where
  decoded : (hop.header = reader.decodeProtectedHeader token ∧
      hop.payload = reader.decodeJwt token) ∨
    hop.header = decodePart reader token 0 ∧ hop.payload = decodePart reader token 1
  token : hop.token = if includeRaw then some token else none

/-- The JSON of such a row. -/
def IsRow (reader : JwtReader) (write : Claims → Json) (includeRaw : Bool) (row : Json) : Prop :=
  ∃ token hop, Renders reader write includeRaw token hop ∧ row = rowJson write hop

section Urls

variable {url : String}

/-- An address is checked character by character. -/
theorem isServiceUrl_of_all
    (h : (url.toList.all fun c ↦ c != '?' && c != '#' && c != '|') = true) : IsServiceUrl url := by
  intro c hc
  simpa [and_assoc] using List.all_eq_true.mp h c hc

/-- What follows an address of this kind may be another one. -/
theorem IsServiceUrl.append {path : String} (h : IsServiceUrl url) (hpath : IsServiceUrl path) :
    IsServiceUrl (url ++ path) := by
  intro c hc
  rw [String.toList_append, List.mem_append] at hc
  rcases hc with hc | hc
  · exact h c hc
  · exact hpath c hc

/-- The path of the debug route is one. -/
theorem isServiceUrl_lastToken : IsServiceUrl "/last-token" := isServiceUrl_of_all (by decide)

/-- The address of a debug route is that of the service with another end. -/
theorem isServiceUrl_lastTokenUrl (h : IsServiceUrl url) (name : String) :
    IsServiceUrl (lastTokenUrl url name) := by
  apply IsServiceUrl.append _ isServiceUrl_lastToken
  intro c hc
  rw [String.toList_ofList] at hc
  apply h c
  split at hc
  · exact List.mem_of_mem_take hc
  · split at hc
    · exact List.mem_of_mem_take hc
    · exact hc

private theorem dropWhile_endsPath {cs rest : List Char} (h : ∀ c ∈ cs, endsPath c = false) :
    (cs ++ rest).dropWhile (fun c ↦ !endsPath c) = rest.dropWhile fun c ↦ !endsPath c := by
  induction cs with
  | nil => rfl
  | cons c cs ih =>
    rw [List.cons_append, List.dropWhile_cons_of_pos]
    · exact ih fun c' hc' ↦ h c' (List.mem_cons_of_mem c hc')
    · rw [h c (List.mem_cons_self ..)]
      rfl

private theorem queryValue_raw :
    InspectApi.queryValue (some "raw=1") "raw" = some (.str "1") := by
  have htext : ∀ s ∈ ["raw", "1"], InspectApi.queryText s = s := by
    have hall : ∀ s ∈ ["raw", "1"], '+' ∉ s.toList ∧ '%' ∉ s.toList := by decide
    intro s hs
    exact InspectApi.queryText_eq (hall s hs).1 (percentDecode_eq_self (hall s hs).2)
  have hpart : InspectApi.queryPart ("raw" ++ "=" ++ "1") = ("raw", "1") := by
    rw [InspectApi.queryPart_eq (by decide), htext "raw" (by simp), htext "1" (by simp)]
  have hpieces : piecesBy (· = '&') "raw=1" = ["raw" ++ "=" ++ "1"] := by decide
  rw [InspectApi.queryValue, Option.getD_some, hpieces, List.map_singleton, hpart]
  rfl

/-- A service is asked for tokens exactly when the caller wants them. -/
theorem rawAsked_fetchUrl (h : IsServiceUrl url) (includeRaw : Bool) :
    rawAsked (fetchUrl url includeRaw) = includeRaw := by
  have hplain : ∀ c ∈ url.toList.filter fun c ↦ !isTabOrNewline c, endsPath c = false := by
    intro c hc
    obtain ⟨hquery, hfragment, -⟩ := h c (List.mem_of_mem_filter hc)
    simp [endsPath, hquery, hfragment]
  cases includeRaw with
  | false =>
    have hquery : (urlTarget url).query = none := by
      have hdrop : ((url.toList.filter fun c ↦ !isTabOrNewline c).rdropWhile
          isControlOrSpace).dropWhile (fun c ↦ !endsPath c) = [] := by
        rw [List.dropWhile_eq_nil_iff]
        intro c hc
        rw [hplain c ((List.rdropWhile_prefix _ _).subset hc)]
        rfl
      simp only [urlTarget, hdrop]
    rw [fetchUrl, if_neg (by simp), rawAsked, hquery]
    rfl
  | true =>
    have hquery : (urlTarget (url ++ "?raw=1")).query = some "raw=1" := by
      have hkept : ("?raw=1".toList.filter fun c ↦ !isTabOrNewline c) = "?raw=1".toList := by
        decide
      have hend : ((url ++ "?raw=1").toList.filter fun c ↦ !isTabOrNewline c).rdropWhile
          isControlOrSpace = (url.toList.filter fun c ↦ !isTabOrNewline c) ++ "?raw=1".toList := by
        rw [String.toList_append, List.filter_append, hkept]
        rw [List.rdropWhile_eq_self_iff]
        intro hne
        rw [List.getLast_append_of_ne_nil _ (by decide)]
        decide
      have hdrop := @dropWhile_endsPath _ "?raw=1".toList hplain
      simp only [urlTarget, hend, hdrop]
      decide
    rw [fetchUrl, if_pos rfl, rawAsked, hquery, queryValue_raw]
    rfl

end Urls

section Rows

variable {reader : JwtReader} {write : Claims → Json} {includeRaw : Bool}

/-- The tokens of the JSON rows are those of the rows. -/
@[simp] theorem get?_rowJson (row : ChainHop) :
    (rowJson write row).get? "token" = row.token.map .str := by
  obtain ⟨hop, header, payload, token, note⟩ := row
  cases token <;> cases note <;> rfl

/-- A row has a token exactly when it is raw. -/
theorem isSome_token_of_isRow {row : Json} (h : IsRow reader write includeRaw row) :
    (row.get? "token").isSome = includeRaw := by
  obtain ⟨token, hop, hrenders, rfl⟩ := h
  rw [get?_rowJson, hrenders.token]
  cases includeRaw <;> rfl

/-- A decoded row renders its token. -/
theorem renders_decode {label token : String} {note : Option String} {hop : ChainHop}
    (h : decode reader label token includeRaw note = some hop) :
    Renders reader write includeRaw token hop := by
  refine ⟨Or.inl ?_, decode_token h⟩
  obtain ⟨header, hheader, h⟩ := Option.bind_eq_some_iff.mp h
  obtain ⟨payload, hpayload, h⟩ := Option.bind_eq_some_iff.mp h
  cases h
  exact ⟨hheader.symm, hpayload.symm⟩

/-- Its JSON is a row. -/
theorem isRow_decode {label token : String} {note : Option String} {hop : ChainHop}
    (h : decode reader label token includeRaw note = some hop) :
    IsRow reader write includeRaw (rowJson write hop) :=
  ⟨token, hop, renders_decode h, rfl⟩

/-- So do the rows of an MCP server. -/
theorem isRow_chainRows {inboundHop outboundHop : String} {last : Option Mcp.LastExchange} :
    ∀ row ∈ (Mcp.chainRows inboundHop outboundHop reader last includeRaw).map (rowJson write),
      IsRow reader write includeRaw row := by
  intro row hrow
  obtain ⟨hop, hhop, rfl⟩ := List.mem_map.mp hrow
  cases last with
  | none => cases hhop
  | some last =>
    rcases List.mem_pair.mp hhop with rfl | rfl
    · exact ⟨last.subjectToken, _, ⟨Or.inr ⟨rfl, rfl⟩, rfl⟩, rfl⟩
    · exact ⟨last.accessToken, _, ⟨Or.inr ⟨rfl, rfl⟩, rfl⟩, rfl⟩

/-- The hops of a walk are rows. -/
def AreRows (reader : JwtReader) (write : Claims → Json) (includeRaw : Bool) (hops : Hops) : Prop :=
  ∃ rows, hops.1 = .arr rows ∧ ∀ row ∈ rows, IsRow reader write includeRaw row

/-- No hops are rows. -/
theorem areRows_noHops : AreRows reader write includeRaw noHops :=
  ⟨[], rfl, by simp⟩

/-- The rows of a body are its hops. -/
theorem chainOf_chainBody (rows : List Json) : chainOf (chainBody rows) = some ⟨.arr rows, rfl⟩ :=
  rfl

/-- A slot adds its row and what the walk with its token brings. -/
theorem branchRows_spec {P : List Json → Prop} {fetchBody : String → String → Option Json}
    {url hop : String} {slot : Option Specialist.ExchangeSlot} {rows : List Json} (hnone : P [])
    (hbody : ∀ bearer body, fetchBody (fetchUrl url includeRaw) bearer = some body →
      ∃ rows, body = chainBody rows ∧ P rows)
    (h : branchRows reader write fetchBody url hop slot includeRaw = some rows) :
    slot = none ∧ rows = [] ∨
      ∃ e row walked, slot = some e ∧ decode reader hop e.accessToken includeRaw none = some row ∧
        rows = rowJson write row :: walked ∧ P walked := by
  cases slot with
  | none =>
    cases h
    exact Or.inl ⟨rfl, rfl⟩
  | some e =>
    obtain ⟨row, hrow, h⟩ := Option.bind_eq_some_iff.mp h
    obtain ⟨walked, hwalked, h⟩ := Option.bind_eq_some_iff.mp h
    cases h
    have hwalk : P walked := by
      rw [fetchDownstreamChain] at hwalked
      cases hfetch : fetchBody (fetchUrl url includeRaw) e.accessToken with
      | none =>
        rw [hfetch] at hwalked
        cases hwalked
        exact hnone
      | some body =>
        obtain ⟨inner, rfl, hinner⟩ := hbody _ _ hfetch
        rw [hfetch] at hwalked
        cases hwalked
        exact hinner
    exact Or.inr ⟨e, row, walked, rfl, hrow, rfl, hwalk⟩

private theorem isRow_branchRows {fetchBody : String → String → Option Json} {url hop : String}
    {slot : Option Specialist.ExchangeSlot} {rows : List Json}
    (hbody : ∀ bearer body, fetchBody (fetchUrl url includeRaw) bearer = some body →
      ∃ rows, body = chainBody rows ∧ ∀ row ∈ rows, IsRow reader write includeRaw row)
    (h : branchRows reader write fetchBody url hop slot includeRaw = some rows) :
    ∀ row ∈ rows, IsRow reader write includeRaw row := by
  have hnone : ∀ row ∈ ([] : List Json), IsRow reader write includeRaw row := by simp
  rcases branchRows_spec hnone hbody h with ⟨-, rfl⟩ | ⟨e, row, walked, -, hrow, rfl, hwalk⟩
  · exact hnone
  · exact List.forall_mem_cons.mpr ⟨isRow_decode hrow, hwalk⟩

/-- What a service answers are rows of its own and of the services behind it, all with their tokens
or all without. -/
theorem isRow_of_answers {body : Json} (h : Answers reader write includeRaw body) :
    ∃ rows, body = chainBody rows ∧ ∀ row ∈ rows, IsRow reader write includeRaw row := by
  induction h with
  | mcpInspect last includeRaw => exact ⟨_, rfl, isRow_chainRows⟩
  | mcpOps last includeRaw => exact ⟨_, rfl, isRow_chainRows⟩
  | @specialist cfg last fetchBody includeRaw rows hinspect hops _ hrows ih =>
    have hbranch : ∀ url, IsServiceUrl url → ∀ bearer body,
        fetchBody (fetchUrl (lastTokenUrl url "mcp") includeRaw) bearer = some body →
          ∃ rows, body = chainBody rows ∧ ∀ row ∈ rows, IsRow reader write includeRaw row := by
      intro url hurl bearer body hfetch
      have hbody := ih _ bearer body hfetch
      rwa [rawAsked_fetchUrl (isServiceUrl_lastTokenUrl hurl "mcp")] at hbody
    refine ⟨rows, rfl, ?_⟩
    obtain ⟨llm, hllm, hrows⟩ := Option.bind_eq_some_iff.mp hrows
    obtain ⟨inspect, hinspectRows, hrows⟩ := Option.bind_eq_some_iff.mp hrows
    obtain ⟨ops, hopsRows, hrows⟩ := Option.bind_eq_some_iff.mp hrows
    cases hrows
    intro row hrow
    rw [List.mem_append, List.mem_append] at hrow
    rcases hrow with (hrow | hrow) | hrow
    · obtain ⟨hop, hhop, rfl⟩ := List.mem_map.mp hrow
      obtain ⟨e, -, -, hdecode⟩ := (Specialist.slotHop_spec hllm).1 hop hhop
      exact isRow_decode hdecode
    · exact isRow_branchRows (hbranch _ hinspect) hinspectRows row hrow
    · exact isRow_branchRows (hbranch _ hops) hopsRows row hrow

end Rows

/-- The rows answer a request: the first renders its bearer, and all of them are shown the way it
asks for. -/
structure Shows (reader : JwtReader) (write : Claims → Json) (r : WalkRequest) (rows : List Json) :
    Prop where
  inbound : ∃ hop, Renders reader write r.includeRaw r.authed.bearerToken hop ∧
    rows.head? = some (rowJson write hop)
  rows : ∀ row ∈ rows, IsRow reader write r.includeRaw row

/-- A call is made for the request that waits for it, whose first rows are there. -/
structure Fits (reader : JwtReader) (write : Claims → Json) (c : ChainCall)
    (w : WalkRequest × List Json) : Prop where
  url : IsServiceUrl c.url
  mode : c.includeRaw = w.1.includeRaw
  shows : Shows reader write w.1 w.2

/-- Every call fits the request that waits for it, and every snapshot was made in the mode of its
key. -/
structure Kept (reader : JwtReader) (write : Claims → Json) (s : WalkState) : Prop where
  calls : List.Forall₂ (Fits reader write) (s.fetcher.calls.map Prod.fst) s.waiting
  snapshots : s.fetcher.snapshots.Forall fun key hops ↦
    ∃ c, IsServiceUrl c.url ∧ snapshotKey c = key ∧ AreRows reader write c.includeRaw hops

section Steps

variable {cfg : Config} {reader : JwtReader} {write : Claims → Json} {maxSnapshots : Nat}

/-- Further rows may follow. -/
theorem Shows.append {r : WalkRequest} {rows more : List Json} (h : Shows reader write r rows)
    (hmore : ∀ row ∈ more, IsRow reader write r.includeRaw row) :
    Shows reader write r (rows ++ more) where
  inbound := by
    obtain ⟨hop, hrenders, hhead⟩ := h.inbound
    refine ⟨hop, hrenders, ?_⟩
    rw [List.head?_append, hhead]
    rfl
  rows := List.forall_mem_append.mpr ⟨h.rows, hmore⟩

/-- The rows of the process itself answer its request. -/
theorem shows_ownRows {r : WalkRequest} {own : OwnHops}
    (h : ownHops reader r.last r.authed r.includeRaw = some own) :
    Shows reader write r (ownRows write own) := by
  obtain ⟨-, hslots⟩ := ownHops_spec h
  obtain ⟨inbound, hinbound, hrest⟩ := Option.bind_eq_some_iff.mp h
  have hfirst : own.inbound = inbound := by
    obtain ⟨llm, -, hrest⟩ := Option.bind_eq_some_iff.mp hrest
    obtain ⟨inspect, -, hrest⟩ := Option.bind_eq_some_iff.mp hrest
    obtain ⟨specialist, -, hrest⟩ := Option.bind_eq_some_iff.mp hrest
    cases hrest
    rfl
  have hslot : ∀ hop, own.llm = some hop ∨ own.inspect = some hop ∨ own.specialist = some hop →
      IsRow reader write r.includeRaw (rowJson write hop) := by
    intro hop hhop
    obtain ⟨helper, e, label, note, -, -, hdecode⟩ := hslots hop hhop
    exact isRow_decode hdecode
  constructor
  · refine ⟨inbound, renders_decode hinbound, ?_⟩
    rw [ownRows, hfirst]
    rfl
  · intro row hrow
    obtain ⟨hop, hhop, rfl⟩ := List.mem_map.mp hrow
    simp only [List.mem_append, List.mem_cons, Option.mem_toList] at hhop
    rcases hhop with ((rfl | hhop) | hhop) | hhop
    · rw [hfirst]
      exact isRow_decode hinbound
    · exact hslot hop (Or.inl hhop)
    · exact hslot hop (Or.inr (Or.inl hhop))
    · exact hslot hop (Or.inr (Or.inr hhop))

/-- A walk goes to the address of a service, in the mode of its request. -/
theorem walkOf_some {r : WalkRequest} {own : OwnHops} {c : ChainCall}
    (hinspect : IsServiceUrl cfg.mcpInspectUrl) (hspecialist : IsServiceUrl cfg.specialistA2aUrl)
    (h : walkOf cfg r own = some c) : IsServiceUrl c.url ∧ c.includeRaw = r.includeRaw := by
  unfold walkOf at h
  split at h
  · obtain ⟨e, -, rfl⟩ := Option.map_eq_some_iff.mp h
    exact ⟨isServiceUrl_lastTokenUrl hinspect "mcp", by dsimp only⟩
  · obtain ⟨e, -, rfl⟩ := Option.map_eq_some_iff.mp h
    exact ⟨isServiceUrl_lastTokenUrl hspecialist "a2a", by dsimp only⟩
  · cases h

/-- The key of a call to a service tells the call. -/
theorem snapshotKey_inj_of_service {c c' : ChainCall} (hc : IsServiceUrl c.url)
    (hc' : IsServiceUrl c'.url) (h : snapshotKey c = snapshotKey c') : c = c' := by
  have hkey (c : ChainCall) : (snapshotKey c).toList = c.url.toList ++
      '|' :: ((if c.includeRaw then "raw" else "decoded") ++ "|" ++ c.bearer).toList := by
    simp [snapshotKey]
  have hlist := congrArg String.toList h
  rw [hkey, hkey] at hlist
  have hurl := (append_cons_inj (fun hmem ↦ (hc _ hmem).2.2 rfl)
    (fun hmem ↦ (hc' _ hmem).2.2 rfl) hlist).1
  exact snapshotKey_inj_of_url (String.toList_inj.mp hurl) h

private theorem fst_getElem?_of_settle {s : ChainState} {i j : Nat} {c c' : ChainCall}
    {promise : ChainPromise} {next : Snapshots × ChainPromise} {hops : Hops}
    (hcall : s.calls[i]? = some (c', promise)) (h : (settle s j c' next).2 = some (c, hops)) :
    (s.calls.map Prod.fst)[i]? = some c := by
  obtain ⟨hops', -, heq⟩ := Option.map_eq_some_iff.mp h
  cases heq
  rw [List.getElem?_map, hcall]
  rfl

/-- The call that is answered is the one that the event is about. -/
theorem call_of_response {s : ChainState} {i : Nat} {ok : Option Bool} {c : ChainCall} {hops : Hops}
    (h : (chainStep maxSnapshots s (.response i ok)).2 = some (c, hops)) :
    (s.calls.map Prod.fst)[i]? = some c := by
  simp only [chainStep] at h
  split at h
  · next c' hcall => exact fst_getElem?_of_settle hcall h
  · cases h

/-- So is the call whose body has been read. -/
theorem call_of_body {s : ChainState} {i : Nat} {body : Option Json} {c : ChainCall} {hops : Hops}
    (h : (chainStep maxSnapshots s (.body i body)).2 = some (c, hops)) :
    (s.calls.map Prod.fst)[i]? = some c := by
  simp only [chainStep] at h
  split at h
  · next c' hcall => exact fst_getElem?_of_settle hcall h
  · cases h

/-- A call fits the request in its place. -/
theorem Kept.fits {s : WalkState} {i : Nat} {c : ChainCall} {w : WalkRequest × List Json}
    (h : Kept reader write s) (hc : (s.fetcher.calls.map Prod.fst)[i]? = some c)
    (hw : s.waiting[i]? = some w) : Fits reader write c w := by
  obtain ⟨hlt, rfl⟩ := List.getElem?_eq_some_iff.mp hc
  obtain ⟨hlt', rfl⟩ := List.getElem?_eq_some_iff.mp hw
  exact h.calls.get hlt hlt'

/-- Every call has such a place, and goes to a service. -/
theorem Kept.isServiceUrl {s : WalkState} {i : Nat} {c : ChainCall} (h : Kept reader write s)
    (hc : (s.fetcher.calls.map Prod.fst)[i]? = some c) : IsServiceUrl c.url := by
  have hlt : i < s.waiting.length := h.calls.length_eq ▸ (List.getElem?_eq_some_iff.mp hc).1
  exact (h.fits hc (List.getElem?_eq_getElem hlt)).url

/-- What an event of the fetcher answers are rows in the mode of the call, and the snapshots stay in
the modes of their keys. -/
theorem chainStep_rows {s : WalkState} {e : ChainEvent} (h : Kept reader write s)
    (hbody : ∀ c hops, e.received? = some hops →
      (chainStep maxSnapshots s.fetcher e).2 = some (c, hops) →
        AreRows reader write c.includeRaw hops) :
    ((chainStep maxSnapshots s.fetcher e).1.snapshots.Forall fun key hops ↦
      ∃ c, IsServiceUrl c.url ∧ snapshotKey c = key ∧ AreRows reader write c.includeRaw hops) ∧
    ∀ c hops, (chainStep maxSnapshots s.fetcher e).2 = some (c, hops) →
      AreRows reader write c.includeRaw hops := by
  have hservice : ∀ c ∈ s.fetcher.calls.map Prod.fst, IsServiceUrl c.url := by
    intro c hc
    obtain ⟨i, hi⟩ := List.getElem?_of_mem hc
    exact h.isServiceUrl hi
  rcases @chainStep_cases maxSnapshots s.fetcher e with
    ⟨hnone, hsame⟩ | ⟨c, hc, ⟨hops, hanswer, hreceived, hremember⟩ | ⟨hanswer, -, hsame⟩⟩
  · rw [hnone, hsame]
    exact ⟨h.snapshots, by simp⟩
  · have hrows := hbody c hops hreceived hanswer
    rw [hanswer, hremember]
    constructor
    · apply InsertionMap.Forall.evictTo
      exact (h.snapshots.erase _).set ⟨c, hservice c hc, rfl, hrows⟩
    · rintro c' hops' ⟨⟩
      exact hrows
  · rw [hanswer, hsame]
    refine ⟨h.snapshots, ?_⟩
    rintro c' hops' ⟨⟩
    rw [snapshotOf]
    cases hheld : s.fetcher.snapshots.get? (snapshotKey c) with
    | none => exact areRows_noHops
    | some hops =>
      obtain ⟨c', hc', hkey, hrows⟩ := h.snapshots.of_get? hheld
      rw [snapshotKey_inj_of_service hc' (hservice c hc) hkey] at hrows
      exact hrows

/-- A request is answered with rows, or its own tokens cannot be decoded. -/
def Settled (reader : JwtReader) (write : Claims → Json) (r : WalkRequest) :
    Option (List Json) → Prop
  | some rows => Shows reader write r rows
  | none => ownHops reader r.last r.authed r.includeRaw = none

/-- A request that waits is answered with its own rows and those of its walk. -/
theorem resume_spec {s : WalkState} {i : Nat} {e : ChainEvent} (h : Kept reader write s)
    (hcall : e.call? = none)
    (hindex : ∀ c hops, (chainStep maxSnapshots s.fetcher e).2 = some (c, hops) →
      (s.fetcher.calls.map Prod.fst)[i]? = some c)
    (hbody : ∀ c hops, e.received? = some hops →
      (chainStep maxSnapshots s.fetcher e).2 = some (c, hops) →
        AreRows reader write c.includeRaw hops) :
    Kept reader write (resume s i (chainStep maxSnapshots s.fetcher e)).1 ∧
      ∀ r answer, (resume s i (chainStep maxSnapshots s.fetcher e)).2 = some (r, answer) →
        Settled reader write r answer := by
  obtain ⟨hsnapshots, hrows⟩ := chainStep_rows h hbody
  constructor
  · refine ⟨?_, hsnapshots⟩
    show List.Forall₂ _ ((chainStep maxSnapshots s.fetcher e).1.calls.map Prod.fst) s.waiting
    rw [map_fst_chainStep, hcall]
    simpa using h.calls
  · intro r answer hanswer
    obtain ⟨⟨c, hops⟩, hnext, hanswer⟩ := Option.bind_eq_some_iff.mp hanswer
    obtain ⟨⟨r', own⟩, hwaiting, hanswer⟩ := Option.bind_eq_some_iff.mp hanswer
    cases hanswer
    have hfits := h.fits (hindex c hops hnext) hwaiting
    obtain ⟨more, hmore, hall⟩ := hrows c hops hnext
    rw [hfits.mode] at hall
    rw [hmore]
    exact hfits.shows.append hall

/-- One event keeps the invariant and settles the request that it answers. -/
theorem walkStep_spec {s : WalkState} {e : WalkEvent}
    (hinspect : IsServiceUrl cfg.mcpInspectUrl) (hspecialist : IsServiceUrl cfg.specialistA2aUrl)
    (h : Kept reader write s) (hserved : ServedAt reader write s e) :
    Kept reader write (walkStep cfg reader write maxSnapshots s e).1 ∧
      ∀ r answer, (walkStep cfg reader write maxSnapshots s e).2 = some (r, answer) →
        Settled reader write r answer := by
  cases e with
  | request r =>
    simp only [walkStep]
    split
    · next hown =>
      refine ⟨h, ?_⟩
      rintro r' answer ⟨⟩
      exact hown
    · next own hown =>
      split
      · refine ⟨h, ?_⟩
        rintro r' answer ⟨⟩
        exact shows_ownRows hown
      · next c hwalk =>
        obtain ⟨hurl, hmode⟩ := walkOf_some hinspect hspecialist hwalk
        refine ⟨⟨?_, h.snapshots⟩, by simp⟩
        show List.Forall₂ _ ((chainStep maxSnapshots s.fetcher (.call c)).1.calls.map Prod.fst)
          (s.waiting ++ [(r, ownRows write own)])
        rw [map_fst_chainStep]
        exact List.rel_append h.calls (.cons ⟨hurl, hmode, shows_ownRows hown⟩ .nil)
  | response i ok =>
    apply resume_spec h rfl
    · intro c hops hanswer
      exact call_of_response hanswer
    · intro c hops hreceived
      cases hreceived
  | body i body =>
    apply resume_spec h rfl
    · intro c hops hanswer
      exact call_of_body hanswer
    · intro c hops hreceived hanswer
      have hc := call_of_body hanswer
      cases body with
      | none => cases hreceived
      | some body =>
        have hbody := hserved c hc
        rw [rawAsked_fetchUrl (h.isServiceUrl hc)] at hbody
        obtain ⟨rows, rfl, hrows⟩ := isRow_of_answers hbody
        cases hreceived
        exact ⟨rows, rfl, hrows⟩

end Steps

section Runs

variable {cfg : Config} {reader : JwtReader} {write : Claims → Json} {maxSnapshots : Nat}
  {es : List WalkEvent}

/-- Whatever the order of requests, responses and bodies, every request is settled the way it asks
for. -/
theorem settled_of_served (hinspect : IsServiceUrl cfg.mcpInspectUrl)
    (hspecialist : IsServiceUrl cfg.specialistA2aUrl)
    (hserved : (walking cfg reader write maxSnapshots).Along (ServedAt reader write) es) :
    ∀ x ∈ (walking cfg reader write maxSnapshots).transcript es,
      ∀ r answer, x.2 = some (r, answer) → Settled reader write r answer := by
  have hkept : ∀ es, (walking cfg reader write maxSnapshots).Along (ServedAt reader write) es →
      Kept reader write ((walking cfg reader write maxSnapshots).run es) := by
    intro es hes
    apply (walking cfg reader write maxSnapshots).run_induction_along
      (P := fun _ s ↦ Kept reader write s) _ _ es hes
    · exact ⟨.nil, InsertionMap.forall_empty _⟩
    · intro before e hat hbefore
      exact (walkStep_spec hinspect hspecialist hbefore hat).1
  induction es using List.reverseRecOn with
  | nil => simp
  | append_singleton es e ih =>
    obtain ⟨hbefore, hat⟩ := (Machine.along_concat _).mp hserved
    rw [Machine.transcript_concat]
    intro x hx r answer hanswer
    rcases List.mem_append.mp hx with hx | hx
    · exact ih hbefore x hx r answer hanswer
    · rw [List.mem_singleton.mp hx] at hanswer
      exact (walkStep_spec hinspect hspecialist (hkept es hbefore) hat).2 r answer hanswer

end Runs

end AgentsAuth.Debug
