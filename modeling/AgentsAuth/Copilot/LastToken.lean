import AgentsAuth.Agents.ChainHop
import AgentsAuth.Copilot.Exchanges

/-!
# The debug chain of agent-copilot

`apps/agent-copilot/src/last-token-route.ts`: the rows that `GET /last-token` renders from
the three process-wide slots. The route reads the slots and writes none, so its answer
after any interleaving is a function of the state that the exchanges have left.
-/

namespace AgentsAuth.Copilot

open AgentsAuth.Agents AgentsAuth.AuthCurity AgentsAuth.Base AgentsAuth.Lib

/-- What `selectDownstreamBranch` decides. -/
structure Branches where
  showInspect : Bool
  showSpec : Bool
  showLlm : Bool
deriving DecidableEq

/-- `belongs`: the slot carries the `sub` and the string `jti` of the inbound token. -/
def belongs (sub jti : Option Json) : Option ExchangeSlot → Bool
  | none => false
  | some e =>
    Json.string? sub = some e.sub && (Json.string? jti).isSome && e.subjectJti = Json.string? jti

/-- The times of two slots in order, when both are there. -/
def notBefore (e e' : Option ExchangeSlot) : Bool :=
  match e, e' with
  | some e, some e' => e'.atMs ≤ e.atMs
  | _, _ => false

/-- Model of `last-token-route.ts:69–88`. -/
def selectDownstreamBranch (sub jti : Option Json) (inspect spec llm : Option ExchangeSlot) :
    Branches :=
  let inspectOk := belongs sub jti inspect
  let specOk := belongs sub jti spec
  let both := inspectOk && specOk
  let showInspect := if both then notBefore inspect spec else inspectOk
  let showSpec := if both then !showInspect else specOk
  ⟨showInspect, showSpec, showInspect && belongs sub jti llm && notBefore llm inspect⟩

/-- The rows of the copilot itself. -/
structure OwnHops where
  inbound : ChainHop
  llm : Option ChainHop
  inspect : Option ChainHop
  specialist : Option ChainHop

/-- The row of a slot, when it is shown; the outer `none` is a thrown error. -/
def slotHop (reader : JwtReader) (shown : Bool) (slot : Option ExchangeSlot) (hop : String)
    (includeRaw : Bool) (note : Option String) : Option (Option ChainHop) :=
  match shown, slot with
  | true, some e => (decode reader hop e.accessToken includeRaw note).map some
  | _, _ => some none

/-- The rows that `lastTokenHandler` takes from its own process: `last-token-route.ts:164–206`. -/
def ownHops (reader : JwtReader) (last : Helper → Option ExchangeSlot) (authed : AuthedRequest)
    (includeRaw : Bool) : Option OwnHops := do
  let inbound ← decode reader "user → agent-copilot (inbound)" authed.bearerToken includeRaw none
  let branch := selectDownstreamBranch (authed.caller.payload "sub") (authed.caller.payload "jti")
    (last .inspect) (last .specialist) (last .llm)
  let llm ← slotHop reader branch.showLlm (last .llm) "agent-copilot → agentgateway (/llm)"
    includeRaw (some llmLeafNote)
  let inspect ← slotHop reader branch.showInspect (last .inspect)
    "agent-copilot → agentgateway (/inspect/mcp)" includeRaw none
  let specialist ← slotHop reader branch.showSpec (last .specialist)
    "agent-copilot → agent-specialist" includeRaw none
  return ⟨inbound, llm, inspect, specialist⟩

/-- `url.replace(/\/name\/?$/, '') + '/last-token'`. -/
def lastTokenUrl (url name : String) : String :=
  let base :=
    if (url.toList.reverse.take (name.length + 2)).reverse = ("/" ++ name ++ "/").toList then
      url.toList.take (url.length - (name.length + 2))
    else if (url.toList.reverse.take (name.length + 1)).reverse = ("/" ++ name).toList then
      url.toList.take (url.length - (name.length + 1))
    else url.toList
  String.ofList base ++ "/last-token"

/-- The token was minted by an exchange whose subject token is `subjectToken`. -/
def MintedFrom {η σ ρ : Type} [DecidableEq η] (deps : ObtainDeps η σ ρ)
    (es : List (Nat × ObtainEvent ρ)) (accessToken subjectToken : String) : Prop :=
  ∃ req params result, .minted req params result ∈ shown deps es ∧
    result.accessToken = accessToken ∧ params.subjectToken = subjectToken

section Selection

variable {sub jti : Option Json} {inspect spec llm e : Option ExchangeSlot}

/-- Only a filled slot belongs to a token. -/
theorem belongs_eq_true (h : belongs sub jti e = true) :
    ∃ slot, e = some slot ∧ Json.string? sub = some slot.sub ∧ (Json.string? jti).isSome ∧
      slot.subjectJti = Json.string? jti := by
  cases e with
  | none => cases h
  | some slot =>
    simp only [belongs, Bool.and_eq_true, decide_eq_true_eq] at h
    exact ⟨slot, rfl, h.1.1, h.1.2, h.2⟩

/-- At most one of the two branches is shown. -/
theorem not_showInspect_and_showSpec :
    ¬ ((selectDownstreamBranch sub jti inspect spec llm).showInspect = true ∧
      (selectDownstreamBranch sub jti inspect spec llm).showSpec = true) := by
  simp only [selectDownstreamBranch]
  cases belongs sub jti inspect <;> cases belongs sub jti spec <;>
    cases notBefore inspect spec <;> simp

/-- A shown inspect slot belongs to the token. -/
theorem belongs_of_showInspect
    (h : (selectDownstreamBranch sub jti inspect spec llm).showInspect = true) :
    belongs sub jti inspect = true := by
  simp only [selectDownstreamBranch] at h
  cases hinspect : belongs sub jti inspect with
  | true => rfl
  | false => simp [hinspect] at h

/-- A shown specialist slot belongs to the token. -/
theorem belongs_of_showSpec
    (h : (selectDownstreamBranch sub jti inspect spec llm).showSpec = true) :
    belongs sub jti spec = true := by
  simp only [selectDownstreamBranch] at h
  cases hspec : belongs sub jti spec with
  | true => rfl
  | false => simp [hspec] at h

/-- A leaf is shown with the inspect slot only. -/
theorem showInspect_of_showLlm
    (h : (selectDownstreamBranch sub jti inspect spec llm).showLlm = true) :
    (selectDownstreamBranch sub jti inspect spec llm).showInspect = true := by
  unfold selectDownstreamBranch at h ⊢
  rw [Bool.and_eq_true, Bool.and_eq_true] at h
  exact h.1.1

/-- A shown leaf belongs to the token. -/
theorem belongs_of_showLlm
    (h : (selectDownstreamBranch sub jti inspect spec llm).showLlm = true) :
    belongs sub jti llm = true := by
  simp only [selectDownstreamBranch, Bool.and_eq_true] at h
  exact h.1.2

end Selection

/-- A row comes from a slot that is shown. -/
theorem slotHop_some {reader : JwtReader} {shown : Bool} {slot : Option ExchangeSlot}
    {label : String} {includeRaw : Bool} {note : Option String} {hop : ChainHop}
    (h : slotHop reader shown slot label includeRaw note = some (some hop)) :
    shown = true ∧ ∃ e, slot = some e ∧
      decode reader label e.accessToken includeRaw note = some hop := by
  unfold slotHop at h
  split at h
  · next e =>
    obtain ⟨row, hrow, hsome⟩ := Option.map_eq_some_iff.mp h
    cases hsome
    exact ⟨rfl, e, rfl, hrow⟩
  · cases h

/-- A slot that is shown has a row. -/
theorem slotHop_of_shown {reader : JwtReader} {e : ExchangeSlot} {label : String}
    {includeRaw : Bool} {note : Option String} {row : Option ChainHop}
    (h : slotHop reader true (some e) label includeRaw note = some row) :
    ∃ hop, row = some hop ∧ decode reader label e.accessToken includeRaw note = some hop := by
  obtain ⟨hop, hdecode, hrow⟩ := Option.map_eq_some_iff.mp h
  exact ⟨hop, hrow.symm, hdecode⟩

/-- Every exchange row shows a slot that belongs to the inbound token, and at most one branch
is there. -/
theorem ownHops_spec {reader : JwtReader} {last : Helper → Option ExchangeSlot}
    {authed : AuthedRequest} {includeRaw : Bool} {own : OwnHops}
    (h : ownHops reader last authed includeRaw = some own) :
    (own.inspect = none ∨ own.specialist = none) ∧
      ∀ hop, own.llm = some hop ∨ own.inspect = some hop ∨ own.specialist = some hop →
        ∃ helper e label note, last helper = some e ∧
          belongs (authed.caller.payload "sub") (authed.caller.payload "jti") (some e) = true ∧
          decode reader label e.accessToken includeRaw note = some hop := by
  obtain ⟨inbound, -, h⟩ := Option.bind_eq_some_iff.mp h
  obtain ⟨llm, hllm, h⟩ := Option.bind_eq_some_iff.mp h
  obtain ⟨inspect, hinspect, h⟩ := Option.bind_eq_some_iff.mp h
  obtain ⟨specialist, hspecialist, h⟩ := Option.bind_eq_some_iff.mp h
  cases h
  constructor
  · cases inspect with
    | none => exact Or.inl rfl
    | some hop =>
      cases specialist with
      | none => exact Or.inr rfl
      | some hop' =>
        have hshowInspect := (slotHop_some hinspect).1
        have hshowSpec := (slotHop_some hspecialist).1
        exact absurd ⟨hshowInspect, hshowSpec⟩ not_showInspect_and_showSpec
  · intro hop hrow
    rcases hrow with rfl | rfl | rfl
    · obtain ⟨hshow, e, he, hdecode⟩ := slotHop_some hllm
      have hbelongs := belongs_of_showLlm hshow
      rw [he] at hbelongs
      exact ⟨.llm, e, _, _, he, hbelongs, hdecode⟩
    · obtain ⟨hshow, e, he, hdecode⟩ := slotHop_some hinspect
      have hbelongs := belongs_of_showInspect hshow
      rw [he] at hbelongs
      exact ⟨.inspect, e, _, _, he, hbelongs, hdecode⟩
    · obtain ⟨hshow, e, he, hdecode⟩ := slotHop_some hspecialist
      have hbelongs := belongs_of_showSpec hshow
      rw [he] at hbelongs
      exact ⟨.specialist, e, _, _, he, hbelongs, hdecode⟩

section Runs

variable {cfg : Config} {reader : JwtReader} {es : List (Nat × ObtainEvent CopilotRequest)}
  {authed : AuthedRequest} {includeRaw : Bool} {own : OwnHops}

/-- A request that records its exchange shares a cache entry only with requests of the run that
present the same inbound token. -/
def SharesOnlyOwn (cfg : Config) (reader : JwtReader)
    (es : List (Nat × ObtainEvent CopilotRequest)) : Prop :=
  ∀ a ∈ requests es, ∀ b ∈ requests es, ((copilot cfg reader.decodeJwt).callOf b).slot.isSome →
    SharesEntry ((copilot cfg reader.decodeJwt).callOf a)
      ((copilot cfg reader.decodeJwt).callOf b) →
    a.opts.subjectToken = b.opts.subjectToken

/-- Among the tokens of the run, `sub` and `jti` tell the inbound token from the others. -/
def IdentifiedByJti (reader : JwtReader) (es : List (Nat × ObtainEvent CopilotRequest))
    (authed : AuthedRequest) : Prop :=
  ∀ req ∈ requests es, Json.string? (authed.caller.payload "sub") = some req.opts.subjectSub →
    (Json.string? (authed.caller.payload "jti")).isSome →
    jtiOf reader.decodeJwt req.opts.subjectToken = Json.string? (authed.caller.payload "jti") →
    req.opts.subjectToken = authed.bearerToken

/-- A slot that belongs to the inbound token holds a token minted from it. -/
private theorem mintedFrom_of_belongs {helper : Helper} {e : ExchangeSlot}
    (hshared : cfg.exchangeCacheTtlMs = 0 ∨ SharesOnlyOwn cfg reader es)
    (hjti : IdentifiedByJti reader es authed)
    (hlast : ((obtaining (copilot cfg reader.decodeJwt)).run es).last helper = some e)
    (hbelongs : belongs (authed.caller.payload "sub") (authed.caller.payload "jti") (some e) =
      true) :
    MintedFrom (copilot cfg reader.decodeJwt) es e.accessToken authed.bearerToken := by
  obtain ⟨req, accessToken, now, slot, -, -, hslot, rfl, horigin⟩ := recorded_of_last hlast
  obtain ⟨hreq, req', params, result, hminted, htoken, hsame⟩ := horigin
  have hminter := observationSound_of_shown hminted
  obtain ⟨own, hown, hsub, hisSome, hslotJti⟩ := belongs_eq_true hbelongs
  cases hown
  rw [callOf_slot hslot] at hsub hslotJti ⊢
  have hinbound : req.opts.subjectToken = authed.bearerToken :=
    hjti req hreq hsub hisSome hslotJti
  have hsubject : req'.opts.subjectToken = req.opts.subjectToken := by
    rcases hsame with rfl | ⟨httl, hshares⟩
    · rfl
    · rcases hshared with hzero | hshared
      · have hpos : 0 < cfg.exchangeCacheTtlMs := httl
        omega
      · exact hshared req' hminter.1 req hreq (by rw [hslot]; rfl) hshares
  refine ⟨req', params, result, hminted, htoken, ?_⟩
  rw [hminter.2.subjectToken, callOf_subjectToken, hsubject, hinbound]

/-- At most one branch is rendered. Without a cache, or when no two different inbound tokens of
the run read one cache entry, every exchange row shows a token minted from the caller's current
inbound token. -/
theorem own_hops_minted_from_inbound
    (hown : ownHops reader ((obtaining (copilot cfg reader.decodeJwt)).run es).last authed
      includeRaw = some own)
    (hshared : cfg.exchangeCacheTtlMs = 0 ∨ SharesOnlyOwn cfg reader es)
    (hjti : IdentifiedByJti reader es authed) :
    (own.inspect = none ∨ own.specialist = none) ∧
      ∀ hop, own.llm = some hop ∨ own.inspect = some hop ∨ own.specialist = some hop →
        ∃ accessToken label note, decode reader label accessToken includeRaw note = some hop ∧
          MintedFrom (copilot cfg reader.decodeJwt) es accessToken authed.bearerToken := by
  obtain ⟨hone, hrows⟩ := ownHops_spec hown
  refine ⟨hone, fun hop hhop ↦ ?_⟩
  obtain ⟨helper, e, label, note, hlast, hbelongs, hdecode⟩ := hrows hop hhop
  exact ⟨e.accessToken, label, note, hdecode, mintedFrom_of_belongs hshared hjti hlast hbelongs⟩

end Runs

section Sample

private def sampleClaims (jti : String) : Claims
  | "sub" => some (.str "alice")
  | "jti" => some (.str jti)
  | "acr" => some (.str "mfa")
  | _ => none

/-- Two logins of one user, and what the copilot obtains for the first. -/
private def sampleReader : JwtReader where
  decodeProtectedHeader := fun _ ↦ some fun _ ↦ none
  decodeJwt := fun token ↦
    [("e30.login-1.sig", sampleClaims "j1"), ("e30.login-2.sig", sampleClaims "j2"),
      ("e30.delegated.sig", sampleClaims "j3")].lookup token
  parsePart := fun _ ↦ none

private def sampleAuthed (token jti : String) : AuthedRequest := ⟨⟨sampleClaims jti, []⟩, token⟩

private def firstLogin : AuthedRequest := sampleAuthed "e30.login-1.sig" "j1"

private def secondLogin : AuthedRequest := sampleAuthed "e30.login-2.sig" "j2"

/-- One privileged flow after each login; the second finds the token of the first. -/
private def sampleRun : List (Nat × ObtainEvent CopilotRequest) :=
  twoRequests (.specialist (chatOpts firstLogin)) (.specialist (chatOpts secondLogin))
    ⟨some "e30.copilot.sig", .ok "copilot-1", .ok "https://curity"⟩
    ⟨"e30.delegated.sig", "bearer", 300, "ops:write", "access_token"⟩

/-- After the first flow alone, its row is shown and was minted from the login it belongs to. -/
theorem own_hops_minted_from_inbound_sample :
    ∃ own hop, ownHops sampleReader
        ((obtaining (copilot sampleConfig sampleReader.decodeJwt)).run
          (sampleRun.take 3)).last firstLogin true = some own ∧
      own.specialist = some hop ∧
      ∃ accessToken label note, decode sampleReader label accessToken true note = some hop ∧
        MintedFrom (copilot sampleConfig sampleReader.decodeJwt) (sampleRun.take 3) accessToken
          "e30.login-1.sig" := by
  have hrequests : requests (sampleRun.take 3) = [.specialist (chatOpts firstLogin)] := rfl
  have hminted := @own_hops_minted_from_inbound sampleConfig sampleReader (sampleRun.take 3)
    firstLogin true _ rfl
    (by
      refine Or.inr ?_
      intro a ha b hb _ _
      rw [hrequests, List.mem_singleton] at ha hb
      rw [ha, hb])
    (by
      intro req hreq _ _ _
      rw [hrequests, List.mem_singleton] at hreq
      rw [hreq]
      rfl)
  exact ⟨_, _, rfl, rfl, hminted.2 _ (Or.inr (Or.inr rfl))⟩

/-- After a second login of the same user, the row of the first one's token is shown. -/
theorem cached_hop_not_minted_from_inbound :
    ¬ ∀ es authed own,
      ownHops sampleReader ((obtaining (copilot sampleConfig sampleReader.decodeJwt)).run es).last
        authed true = some own →
      ∀ hop, own.llm = some hop ∨ own.inspect = some hop ∨ own.specialist = some hop →
        ∃ accessToken label note, decode sampleReader label accessToken true note = some hop ∧
          MintedFrom (copilot sampleConfig sampleReader.decodeJwt) es accessToken
            authed.bearerToken := by
  intro h
  obtain ⟨accessToken, label, note, hdecode, req, params, result, hminted, -, hsubject⟩ :=
    h sampleRun secondLogin _ rfl _ (Or.inr (Or.inr rfl))
  have hshares : SharesEntry
      ((copilot sampleConfig sampleReader.decodeJwt).callOf (.specialist (chatOpts firstLogin)))
      ((copilot sampleConfig sampleReader.decodeJwt).callOf (.specialist (chatOpts secondLogin))) :=
    ⟨rfl, by decide, rfl, rfl⟩
  rw [sampleRun, shown_twoRequests _ (by decide) hshares rfl, List.mem_cons, List.mem_append]
    at hminted
  rcases hminted with hfirst | hfinished | hfinished
  · cases hfirst
    exact absurd hsubject (by decide)
  · rcases mem_finishShown hfinished with hother | hother <;> cases hother
  · rcases mem_finishShown hfinished with hother | hother <;> cases hother

end Sample
end AgentsAuth.Copilot
