import AgentsAuth.Curity.TokenExchange
import AgentsAuth.Mcp.LastToken
import AgentsAuth.Specialist.LastToken

/-!
# Whose tokens the debug chain shows

`/last-token` of agent-specialist, mcp-ops and mcp-inspect renders process-wide slots to
every caller with a token for the service. An exchange keeps the user of its subject
token, so a row is the caller's own just when the flow recorded last was.
-/

namespace AgentsAuth.Debug

open AgentsAuth.Agents AgentsAuth.AuthCurity AgentsAuth.Base AgentsAuth.Curity AgentsAuth.Lib

variable {η σ ρ : Type} [DecidableEq η]

/-- The `sub` of a token, as a service reads its payload. -/
def subOf (payloadOf : String → Option Claims) (token : String) : Option Json :=
  (payloadOf token).bind fun claims ↦ claims "sub"

/-- An exchanged token has the `sub` of its subject token. -/
def MintsForSubject (deps : ObtainDeps η σ ρ) (payloadOf : String → Option Claims)
    (es : List (Nat × ObtainEvent ρ)) : Prop :=
  ∀ req params result, .minted req params result ∈ shown deps es →
    subOf payloadOf result.accessToken = subOf payloadOf params.subjectToken

/-- Requests of the run that share a cache entry are made for one `sub`. -/
def KeysBySub (deps : ObtainDeps η σ ρ) (payloadOf : String → Option Claims)
    (es : List (Nat × ObtainEvent ρ)) : Prop :=
  ∀ a ∈ requests es, ∀ b ∈ requests es, SharesEntry (deps.callOf a) (deps.callOf b) →
    subOf payloadOf (deps.callOf a).subjectToken = subOf payloadOf (deps.callOf b).subjectToken

/-- The exchange recorded last for a helper was made for `sub`. -/
def RecordedFor (deps : ObtainDeps η σ ρ) (payloadOf : String → Option Claims)
    (es : List (Nat × ObtainEvent ρ)) (h : η) (sub : Option Json) : Prop :=
  ∀ r, lastRecorded deps (shown deps es) h = some r →
    subOf payloadOf (deps.callOf r.1).subjectToken = sub

/-- The token of a row, decoded or raw, has the given `sub`. -/
def ShowsOnly (payloadOf : String → Option Claims) (sub : Option Json) (row : ChainHop) : Prop :=
  (row.payload.bind fun claims ↦ claims "sub") = sub ∧
    ∀ token, row.token = some token → subOf payloadOf token = sub

section Exchanges

variable {deps : ObtainDeps η σ ρ} {payloadOf : String → Option Claims}
  {es : List (Nat × ObtainEvent ρ)}

/-- The token recorded last has the `sub` of the request that recorded it. -/
theorem subOf_lastRecorded {h : η} {req : ρ} {accessToken : String} {now : Int}
    (hmints : MintsForSubject deps payloadOf es) (hkeys : KeysBySub deps payloadOf es)
    (hrecorded : lastRecorded deps (shown deps es) h = some (req, accessToken, now)) :
    subOf payloadOf accessToken = subOf payloadOf (deps.callOf req).subjectToken := by
  have hmem := (mem_of_lastRecorded hrecorded).1
  rcases (observationSound_of_shown hmem).2 with
    ⟨hreq, req', params, result, hminted, rfl, hsame⟩
  have hminter := observationSound_of_shown hminted
  rw [hmints req' params result hminted, hminter.2.subjectToken]
  rcases hsame with rfl | ⟨-, hshares⟩
  · rfl
  · exact hkeys req' hminter.1 req hreq hshares

omit [DecidableEq η] in
/-- Without caches no requests share an entry. -/
theorem keysBySub_of_uncached (huncached : ∀ req, (deps.callOf req).key = none) :
    KeysBySub deps payloadOf es := by
  intro a _ b _ hshares
  have hcached := hshares.cached
  rw [huncached] at hcached
  cases hcached

end Exchanges

/-- A decoded row shows only `sub` just when its token has it. -/
theorem showsOnly_decode {reader : JwtReader} {label token : String} {includeRaw : Bool}
    {note : Option String} {row : ChainHop} {sub : Option Json}
    (h : decode reader label token includeRaw note = some row) :
    ShowsOnly reader.decodeJwt sub row ↔ subOf reader.decodeJwt token = sub := by
  rw [ShowsOnly, decode_payload h, decode_token h]
  constructor
  · intro hshows
    exact hshows.1
  · intro hsub
    refine ⟨hsub, fun token' htoken ↦ ?_⟩
    split at htoken
    · cases htoken
      exact hsub
    · cases htoken

section Services

/-- On agent-specialist the rows are the caller's own just when every rendered slot was recorded
last for the caller. -/
theorem specialist_rows_isolated_iff {cfg : Specialist.Config} {reader : JwtReader}
    {es : List (Nat × ObtainEvent Specialist.SpecialistRequest)} {includeRaw : Bool}
    {rows : List ChainHop} {sub : Option Json}
    (hmints : MintsForSubject (Specialist.specialist cfg) reader.decodeJwt es)
    (hkeys : KeysBySub (Specialist.specialist cfg) reader.decodeJwt es)
    (hrows : Specialist.ownHops reader ((obtaining (Specialist.specialist cfg)).run es).last
      includeRaw = some rows) :
    (∀ row ∈ rows, ShowsOnly reader.decodeJwt sub row) ↔
      ∀ h, Specialist.rendered ((obtaining (Specialist.specialist cfg)).run es).last h = true →
        RecordedFor (Specialist.specialist cfg) reader.decodeJwt es h sub := by
  obtain ⟨hfrom, hto⟩ := Specialist.ownHops_spec hrows
  constructor
  · intro hall h hrendered r hrecorded
    obtain ⟨slot, hslot, hlast⟩ := last_of_lastRecorded hrecorded
    obtain ⟨row, hrow, label, note, hdecode⟩ := hto h _ hrendered hlast
    rw [Specialist.callOf_slot_accessToken hslot] at hdecode
    rw [← subOf_lastRecorded hmints hkeys hrecorded]
    exact (showsOnly_decode hdecode).mp (hall row hrow)
  · intro hrecordedFor row hrow
    obtain ⟨h, e, label, note, hrendered, hlast, hdecode⟩ := hfrom row hrow
    obtain ⟨req, accessToken, now, slot, hrecorded, -, hslot, rfl, -⟩ := recorded_of_last hlast
    rw [Specialist.callOf_slot_accessToken hslot] at hdecode
    apply (showsOnly_decode hdecode).mpr
    rw [subOf_lastRecorded hmints hkeys hrecorded]
    exact hrecordedFor h hrendered _ hrecorded

/-- On an MCP server the rows are the caller's own just when the last tool call was made for the
caller. -/
theorem mcp_rows_isolated_iff {cfg : Mcp.Config} {inboundHop outboundHop : String}
    {reader : JwtReader} {es : List (Nat × ObtainEvent String)} {includeRaw : Bool}
    {sub : Option Json}
    (hmints : MintsForSubject (Mcp.server cfg) (decodePart reader · 1) es) :
    (∀ row ∈ Mcp.chainRows inboundHop outboundHop reader
        (((obtaining (Mcp.server cfg)).run es).last ()) includeRaw,
      ShowsOnly (decodePart reader · 1) sub row) ↔
      RecordedFor (Mcp.server cfg) (decodePart reader · 1) es () sub := by
  have hkeys : KeysBySub (Mcp.server cfg) (decodePart reader · 1) es :=
    keysBySub_of_uncached fun _ ↦ rfl
  constructor
  · intro hall r hrecorded
    obtain ⟨slot, hslot, hlast⟩ := last_of_lastRecorded hrecorded
    cases hslot
    rw [hlast] at hall
    have hinbound := hall _ (List.mem_cons_self ..)
    exact hinbound.1
  · intro hrecordedFor row hrow
    cases hlast : ((obtaining (Mcp.server cfg)).run es).last () with
    | none =>
      rw [hlast] at hrow
      cases hrow
    | some held =>
      obtain ⟨req, accessToken, now, slot, hrecorded, -, hslot, rfl, -⟩ := recorded_of_last hlast
      cases hslot
      have hsubject := hrecordedFor _ hrecorded
      have haccess := (subOf_lastRecorded hmints hkeys hrecorded).trans hsubject
      rw [hlast] at hrow
      rcases List.mem_cons.mp hrow with rfl | hrow
      · refine ⟨hsubject, fun token htoken ↦ ?_⟩
        simp only at htoken
        split at htoken
        · cases htoken
          exact hsubject
        · cases htoken
      · rw [List.mem_singleton] at hrow
        subst hrow
        refine ⟨haccess, fun token htoken ↦ ?_⟩
        simp only at htoken
        split at htoken
        · cases htoken
          exact haccess
        · cases htoken

/-- An authenticated `/last-token` of the three services shows only tokens of the caller's `sub`
just when every slot that it renders was recorded last by a flow of that `sub`. -/
theorem debug_chain_isolated_iff (jose : Jose) (reader : JwtReader)
    (authorization : Option String) (includeRaw : Bool) (verified : VerifiedJwt) :
    (∀ (cfg : Specialist.Config) es rows,
      lastTokenAuth jose cfg.curityIssuer cfg.curityJwksUri cfg.expectedAudience authorization =
        .ok verified →
      MintsForSubject (Specialist.specialist cfg) reader.decodeJwt es →
      KeysBySub (Specialist.specialist cfg) reader.decodeJwt es →
      Specialist.ownHops reader ((obtaining (Specialist.specialist cfg)).run es).last
        includeRaw = some rows →
      ((∀ row ∈ rows, ShowsOnly reader.decodeJwt (verified.payload "sub") row) ↔
        ∀ h, Specialist.rendered ((obtaining (Specialist.specialist cfg)).run es).last h = true →
          RecordedFor (Specialist.specialist cfg) reader.decodeJwt es h
            (verified.payload "sub"))) ∧
    ∀ (cfg : Mcp.Config) es, ∀ buildChain ∈ [Mcp.opsBuildChain, Mcp.inspectBuildChain],
      lastTokenAuth jose cfg.curityIssuer cfg.curityJwksUri cfg.expectedAudience authorization =
        .ok verified →
      MintsForSubject (Mcp.server cfg) (decodePart reader · 1) es →
      ((∀ row ∈ buildChain reader (((obtaining (Mcp.server cfg)).run es).last ()) includeRaw,
          ShowsOnly (decodePart reader · 1) (verified.payload "sub") row) ↔
        RecordedFor (Mcp.server cfg) (decodePart reader · 1) es () (verified.payload "sub")) := by
  constructor
  · intro cfg es rows _ hmints hkeys hrows
    exact specialist_rows_isolated_iff hmints hkeys hrows
  · intro cfg es buildChain hbuild _ hmints
    rw [List.mem_cons, List.mem_singleton] at hbuild
    rcases hbuild with rfl | rfl
    · exact mcp_rows_isolated_iff hmints
    · exact mcp_rows_isolated_iff hmints

end Services

section Sample

private def claimsOf (sub : String) : Claims
  | "sub" => some (.str sub)
  | _ => none

private def sampleReader : JwtReader where
  decodeProtectedHeader := fun _ ↦ some fun _ ↦ none
  decodeJwt := fun token ↦
    [("e30.alice.sig", claimsOf "alice"), ("e30.alice-ops.sig", claimsOf "alice"),
      ("e30.bob.sig", claimsOf "bob")].lookup token
  parsePart := fun part ↦
    [("alice", claimsOf "alice"), ("alice-ops", claimsOf "alice"),
      ("bob", claimsOf "bob")].lookup part

private def sampleJose : Jose where
  jwtVerify := fun token _ ↦
    match sampleReader.decodeJwt token with
    | some claims => .ok claims
    | none => .error "signature verification failed"
  compact := fun t ↦ "e30." ++ t.sub ++ ".sig"

private def sampleSpecialist : Specialist.Config where
  curityIssuer := "https://curity.localtest.me/oauth/v2/oauth-anonymous"
  curityJwksUri := "https://curity.localtest.me/oauth/v2/oauth-anonymous/jwks"
  expectedAudience := "agent-specialist"
  exchangeCacheTtlMs := 0
  agentClientId := specialistClient
  mcpOpsUrl := "http://agentgateway.mcp.svc.cluster.local:8080/ops/mcp"
  mcpOpsAudience := "mcp-gateway"
  mcpInspectUrl := "http://agentgateway.mcp.svc.cluster.local:8080/inspect/mcp"
  mcpInspectAudience := "mcp-gateway"
  llmGatewayAudience := "llm-gateway"
  llmGatewayScope := "llm:invoke"
  requiredAcr := "mfa"

private def sampleMcpOps : Mcp.Config where
  curityIssuer := "https://curity.localtest.me/oauth/v2/oauth-anonymous"
  curityJwksUri := "https://curity.localtest.me/oauth/v2/oauth-anonymous/jwks"
  expectedAudience := "mcp-ops"
  curityTokenEndpoint := "https://curity.localtest.me/oauth/v2/oauth-token"
  clientId := mcpOpsClient
  clientSecret := "secret"
  apiAudience := "ops-api"
  apiScope := "ops:write"

/-- One flow of alice's: one exchange of her token. -/
private def aliceFlow {ρ : Type} (req : ρ) : List (Nat × ObtainEvent ρ) :=
  [(0, .start req 0),
    (0, .prepared ⟨some "e30.svid.sig", .ok "kid", .ok "https://curity.localtest.me/token"⟩),
    (0, .exchanged (.ok ⟨"e30.alice-ops.sig", "bearer", 300, "ops:write", "access_token"⟩) 0)]

private def aliceOps : Specialist.SpecialistRequest :=
  .ops "e30.alice.sig" "alice" "https://curity.localtest.me/token" "ops:write" none

private theorem specialist_shown :
    shown (Specialist.specialist sampleSpecialist) (aliceFlow aliceOps) =
    [.minted aliceOps
        ⟨"https://curity.localtest.me/token", specialistClient,
          .privateKeyJwt "kid" "https://curity.localtest.me/token", "e30.alice.sig",
          "e30.svid.sig", "mcp-gateway", "ops:write", true⟩
        ⟨"e30.alice-ops.sig", "bearer", 300, "ops:write", "access_token"⟩,
      .recorded aliceOps "e30.alice-ops.sig" 0, .returned aliceOps "e30.alice-ops.sig"] := by
  rfl

private theorem specialist_mints :
    MintsForSubject (Specialist.specialist sampleSpecialist) sampleReader.decodeJwt
      (aliceFlow aliceOps) := by
  intro req params result hminted
  rw [specialist_shown] at hminted
  simp only [List.mem_cons, reduceCtorEq, List.not_mem_nil, or_false] at hminted
  cases hminted
  rfl

private theorem mcp_shown : shown (Mcp.server sampleMcpOps) (aliceFlow "e30.alice.sig") =
    [.minted "e30.alice.sig"
        ⟨"https://curity.localtest.me/oauth/v2/oauth-token", mcpOpsClient, .basic "secret",
          "e30.alice.sig", "e30.svid.sig", "ops-api", "ops:write", false⟩
        ⟨"e30.alice-ops.sig", "bearer", 300, "ops:write", "access_token"⟩,
      .recorded "e30.alice.sig" "e30.alice-ops.sig" 0,
      .returned "e30.alice.sig" "e30.alice-ops.sig"] := by
  rfl

private theorem mcp_mints :
    MintsForSubject (Mcp.server sampleMcpOps) (decodePart sampleReader · 1)
      (aliceFlow "e30.alice.sig") := by
  intro req params result hminted
  rw [mcp_shown] at hminted
  simp only [List.mem_cons, reduceCtorEq, List.not_mem_nil, or_false] at hminted
  cases hminted
  rfl

/-- After a flow of alice's, alice sees her own tokens on both services. -/
theorem debug_chain_isolated_iff_sample :
    (∃ rows, Specialist.ownHops sampleReader
        ((obtaining (Specialist.specialist sampleSpecialist)).run (aliceFlow aliceOps)).last
        true = some rows ∧
      ∀ row ∈ rows, ShowsOnly sampleReader.decodeJwt (some (.str "alice")) row) ∧
    ∀ row ∈ Mcp.opsBuildChain sampleReader
        (((obtaining (Mcp.server sampleMcpOps)).run (aliceFlow "e30.alice.sig")).last ()) true,
      ShowsOnly (decodePart sampleReader · 1) (some (.str "alice")) row := by
  have hbearer : bearerToken (some "Bearer e30.alice.sig") = some "e30.alice.sig" := by decide
  have hauth : ∀ aud, lastTokenAuth sampleJose sampleSpecialist.curityIssuer
      sampleSpecialist.curityJwksUri aud (some "Bearer e30.alice.sig") =
        .ok ⟨claimsOf "alice", []⟩ := by
    intro aud
    unfold lastTokenAuth
    rw [hbearer]
    rfl
  obtain ⟨hspecialist, hmcp⟩ := debug_chain_isolated_iff sampleJose sampleReader
    (some "Bearer e30.alice.sig") true ⟨claimsOf "alice", []⟩
  constructor
  · refine ⟨_, rfl, ?_⟩
    apply
      (hspecialist sampleSpecialist (aliceFlow aliceOps) _ (hauth _) specialist_mints ?_ rfl).mpr
    · intro h _ r hrecorded
      rw [specialist_shown] at hrecorded
      cases h with
      | ops =>
        cases hrecorded
        rfl
      | inspect => cases hrecorded
      | llm => cases hrecorded
    · intro a ha b hb _
      have hrequests : requests (aliceFlow aliceOps) = [aliceOps] := rfl
      rw [hrequests, List.mem_singleton] at ha hb
      rw [ha, hb]
  · apply (hmcp sampleMcpOps (aliceFlow "e30.alice.sig") _ (List.mem_cons_self ..) (hauth _)
      mcp_mints).mpr
    intro r hrecorded
    rw [mcp_shown] at hrecorded
    cases hrecorded
    rfl

/-- After a flow of alice's, bob's authenticated request is shown her tokens on agent-specialist
and on mcp-ops. -/
theorem debug_chain_shows_others :
    (¬ ∀ es verified rows,
      lastTokenAuth sampleJose sampleSpecialist.curityIssuer sampleSpecialist.curityJwksUri
        sampleSpecialist.expectedAudience (some "Bearer e30.bob.sig") = .ok verified →
      MintsForSubject (Specialist.specialist sampleSpecialist) sampleReader.decodeJwt es →
      Specialist.ownHops sampleReader
        ((obtaining (Specialist.specialist sampleSpecialist)).run es).last true = some rows →
      ∀ row ∈ rows, ShowsOnly sampleReader.decodeJwt (verified.payload "sub") row) ∧
    ¬ ∀ es verified,
      lastTokenAuth sampleJose sampleMcpOps.curityIssuer sampleMcpOps.curityJwksUri
        sampleMcpOps.expectedAudience (some "Bearer e30.bob.sig") = .ok verified →
      MintsForSubject (Mcp.server sampleMcpOps) (decodePart sampleReader · 1) es →
      ∀ row ∈ Mcp.opsBuildChain sampleReader
          (((obtaining (Mcp.server sampleMcpOps)).run es).last ()) true,
        ShowsOnly (decodePart sampleReader · 1) (verified.payload "sub") row := by
  have hbearer : bearerToken (some "Bearer e30.bob.sig") = some "e30.bob.sig" := by decide
  have hauth : ∀ aud, lastTokenAuth sampleJose sampleSpecialist.curityIssuer
      sampleSpecialist.curityJwksUri aud (some "Bearer e30.bob.sig") =
        .ok ⟨claimsOf "bob", []⟩ := by
    intro aud
    unfold lastTokenAuth
    rw [hbearer]
    rfl
  have hother : ¬ some (Json.str "alice") = some (Json.str "bob") := by simp
  constructor
  · intro h
    have hrow := h (aliceFlow aliceOps) _ _ (hauth _) specialist_mints rfl _ (List.mem_cons_self ..)
    exact hother hrow.1
  · intro h
    have hrow := h (aliceFlow "e30.alice.sig") _ (hauth _) mcp_mints _ (List.mem_cons_self ..)
    exact hother hrow.1

end Sample
end AgentsAuth.Debug
