import AgentsAuth.Api.InspectApi
import AgentsAuth.Api.McpInspect
import AgentsAuth.Copilot.Exchanges
import AgentsAuth.Lib.AuthChallenge

/-!
# The challenges of the five services

What a client reads in the `WWW-Authenticate` header when its token does not verify. mcp-inspect and
mcp-ops write the message through `bearerChallenge`, which leaves no quotation mark in it;
agent-copilot, inspect-api and ops-api write it as it is.
-/

namespace AgentsAuth.EndToEnd

open AgentsAuth.Api AgentsAuth.Api.McpOps AgentsAuth.AuthCurity AgentsAuth.Base AgentsAuth.Lib
open AgentsAuth.Lib.AuthChallenge

/-- The response of agent-copilot's middleware, if it sends one:
`apps/agent-copilot/src/auth-middleware.ts:10–46`. -/
def copilotResponse (jose : Jose) (cfg : Copilot.Config) (authorization : Option String) :
    Option Response :=
  match bearerToken authorization with
  | none => some (Api.missingBearer cfg.expectedAudience)
  | some token =>
    match verifyJwt jose token
        ⟨cfg.curityIssuer, cfg.expectedAudience, some cfg.curityJwksUri, none, none⟩ with
    | .error e => some (Api.verificationFailed e)
    | .ok verified =>
      match decorateSpanWithIdentity verified with
      | none => some serverError
      | some _ => none

/-- The services with a middleware that verifies tokens. -/
inductive Service where
  | agentCopilot
  | mcpInspect
  | mcpOps
  | inspectApi
  | opsApi
deriving DecidableEq

/-- The configurations of the five services. -/
structure Configs where
  agentCopilot : Copilot.Config
  mcpInspect : McpInspect.Config
  mcpOps : OpsApi.Config
  inspectApi : InspectApi.Config
  opsApi : OpsApi.Config

/-- The options that a service verifies tokens with. -/
def verifyOptions (cfgs : Configs) : Service → VerifyJwtOptions
  | .agentCopilot => ⟨cfgs.agentCopilot.curityIssuer, cfgs.agentCopilot.expectedAudience,
      some cfgs.agentCopilot.curityJwksUri, none, none⟩
  | .mcpInspect => ⟨cfgs.mcpInspect.curityIssuer, cfgs.mcpInspect.expectedAudience,
      some cfgs.mcpInspect.curityJwksUri, none, none⟩
  | .mcpOps => ⟨cfgs.mcpOps.curityIssuer, cfgs.mcpOps.expectedAudience,
      some cfgs.mcpOps.curityJwksUri, none, none⟩
  | .inspectApi => ⟨cfgs.inspectApi.curityIssuer, cfgs.inspectApi.expectedAudience,
      some cfgs.inspectApi.curityJwksUri, none, none⟩
  | .opsApi => ⟨cfgs.opsApi.curityIssuer, cfgs.opsApi.expectedAudience,
      some cfgs.opsApi.curityJwksUri, none, none⟩

/-- The response of a service's middleware, if it sends one. -/
def responseOf (jose : Jose) (cfgs : Configs) (authorization : Option String) :
    Service → Option Response
  | .agentCopilot => copilotResponse jose cfgs.agentCopilot authorization
  | .mcpInspect =>
    match McpInspect.authMiddleware jose cfgs.mcpInspect authorization with
    | .respond response => some response
    | .next _ _ => none
  | .mcpOps =>
    match McpOps.authMiddleware jose cfgs.mcpOps authorization with
    | .respond response => some response
    | .next _ _ => none
  | .inspectApi =>
    match InspectApi.authMiddleware jose cfgs.inspectApi authorization with
    | .respond response => some response
    | .next _ => none
  | .opsApi =>
    match OpsApi.authMiddleware jose cfgs.opsApi authorization with
    | .respond response => some response
    | .next _ => none

/-- The response of a service to a token that does not verify. -/
def refusal (cfgs : Configs) (e : CurityAuthError) : Service → Response
  | .agentCopilot => Api.verificationFailed e
  | .mcpInspect => McpInspect.verificationFailed cfgs.mcpInspect e
  | .mcpOps => McpOps.verificationFailed cfgs.mcpOps e
  | .inspectApi => Api.verificationFailed e
  | .opsApi => Api.verificationFailed e

/-- Every service refuses a token that does not verify. -/
theorem responseOf_of_error {jose : Jose} {cfgs : Configs} {authorization : Option String}
    {service : Service} {token : String} {e : CurityAuthError}
    (htoken : bearerToken authorization = some token)
    (herror : verifyJwt jose token (verifyOptions cfgs service) = .error e) :
    responseOf jose cfgs authorization service = some (refusal cfgs e service) := by
  cases service with
  | agentCopilot =>
    rw [verifyOptions] at herror
    simp only [responseOf, copilotResponse, htoken, herror, refusal]
  | mcpInspect =>
    rw [verifyOptions] at herror
    simp only [responseOf, McpInspect.authMiddleware, htoken, herror, refusal]
  | mcpOps =>
    rw [verifyOptions] at herror
    simp only [responseOf, McpOps.authMiddleware, htoken, herror, refusal]
  | inspectApi =>
    rw [verifyOptions] at herror
    simp only [responseOf, InspectApi.authMiddleware, htoken, herror, refusal]
  | opsApi =>
    rw [verifyOptions] at herror
    simp only [responseOf, OpsApi.authMiddleware, htoken, herror, refusal]

/-- The parameters of a challenge with the message as it is. -/
def plainParams (e : CurityAuthError) : List (String × String) :=
  [("error", e.code.toText), ("error_description", e.message)]

/-- The parameters that `bearerChallenge` gets for a verification error. -/
def helperParams (realm resourceMetadata : String) (e : CurityAuthError) :
    List (String × String) :=
  [("realm", realm), ("error", "invalid_token"),
    ("error_description", e.code.toText ++ ": " ++ e.message),
    ("resource_metadata", resourceMetadata)]

/-- The parameters that a service means to send for a verification error, quotation marks
downgraded. -/
def intendedParams (cfgs : Configs) (e : CurityAuthError) (service : Service) :
    List (String × String) :=
  let params :=
    match service with
    | .mcpInspect =>
      helperParams cfgs.mcpInspect.expectedAudience cfgs.mcpInspect.resourceMetadataUrl e
    | .mcpOps => helperParams cfgs.mcpOps.expectedAudience cfgs.mcpOps.resourceMetadataUrl e
    | _ => plainParams e
  params.map fun p ↦ (p.1, downgradeQuotes p.2)

/-- A text that a quoted string can hold without escapes, once its quotation marks are
downgraded. -/
def Unescaped (s : String) : Prop := ∀ c ∈ s.toList, fieldChar c = true ∧ c ≠ '\\'

/-- What a service's challenge for a verification error needs in order to stay parseable. -/
def StaysParseable (cfgs : Configs) (e : CurityAuthError) : Service → Prop
  | .mcpInspect =>
    Unescaped cfgs.mcpInspect.expectedAudience ∧ Unescaped e.message ∧
      Unescaped cfgs.mcpInspect.resourceMetadataUrl
  | .mcpOps =>
    Unescaped cfgs.mcpOps.expectedAudience ∧ Unescaped e.message ∧
      Unescaped cfgs.mcpOps.resourceMetadataUrl
  | .agentCopilot => Unescaped e.message ∧ '"' ∉ e.message.toList
  | .inspectApi => Unescaped e.message ∧ '"' ∉ e.message.toList
  | .opsApi => Unescaped e.message ∧ '"' ∉ e.message.toList

section Texts

variable {s : String}

private theorem clean_iff : Clean s ↔ Unescaped s ∧ '"' ∉ s.toList := by
  rw [Clean, List.all_eq_true]
  constructor
  · intro h
    constructor
    · intro c hc
      have hclean := h c hc
      simp only [quotedText, Bool.and_eq_true, decide_eq_true_eq] at hclean
      exact ⟨hclean.1.1, hclean.2⟩
    · intro hc
      exact absurd (h _ hc) (by decide)
  · rintro ⟨hfield, hquote⟩ c hc
    have hne : c ≠ '"' := ne_of_mem_of_not_mem hc hquote
    simp [quotedText, hfield c hc, hne]

private theorem clean_append_iff {t : String} : Clean (s ++ t) ↔ Clean s ∧ Clean t := by
  rw [Clean, String.toList_append, List.all_append, Bool.and_eq_true]
  rfl

private theorem downgradeQuotes_append {t : String} :
    downgradeQuotes (s ++ t) = downgradeQuotes s ++ downgradeQuotes t := by
  rw [← String.toList_inj]
  simp [downgradeQuotes]

private theorem length_downgradeQuotes (s : String) :
    (downgradeQuotes s).toList.length = s.toList.length := by
  rw [downgradeQuotes, String.toList_map, List.length_map]

/-- Downgrading replaces quotation marks by characters that stand for themselves. -/
private theorem clean_downgradeQuotes_iff : Clean (downgradeQuotes s) ↔ Unescaped s := by
  rw [clean_iff, and_iff_left (quote_not_mem_downgradeQuotes s), Unescaped, Unescaped,
    downgradeQuotes, String.toList_map, List.forall_mem_map]
  apply forall₂_congr
  intro c _
  by_cases hc : c = '"'
  · subst hc
    decide
  · rw [if_neg hc]

private theorem clean_toText (code : CurityAuthErrorCode) : Clean code.toText := by
  cases code <;> decide

private theorem standsFor_downgraded (params : List (String × String)) :
    List.Forall₂ StandsFor params (params.map fun p ↦ (p.1, downgradeQuotes p.2)) := by
  rw [List.forall₂_map_right_iff, List.forall₂_same]
  intro p _
  exact ⟨rfl, quote_not_mem_downgradeQuotes p.2, length_downgradeQuotes p.2⟩

end Texts

/-- The helper writes its parameters with the quotation marks downgraded. -/
private theorem bearerChallenge_eq_write (params : List (String × String)) :
    bearerChallenge (params.map fun p ↦ (p.1, some p.2)) =
      write ⟨"Bearer", params.map fun p ↦ (p.1, downgradeQuotes p.2)⟩ := by
  rw [← String.toList_inj]
  simp [bearerChallenge, write, writeParam, List.filterMap_map, Function.comp_def]

private theorem plain_eq_write (e : CurityAuthError) :
    "Bearer error=\"" ++ e.code.toText ++ "\", error_description=\"" ++ e.message ++ "\"" =
      write ⟨"Bearer", plainParams e⟩ := by
  rw [← String.toList_inj]
  simp [write, plainParams, writeParam]

/-- A challenge with the message as it is. -/
private theorem read_plain_iff (e : CurityAuthError) :
    read ("Bearer error=\"" ++ e.code.toText ++ "\", error_description=\"" ++ e.message ++ "\"") =
        some ⟨"Bearer", (plainParams e).map fun p ↦ (p.1, downgradeQuotes p.2)⟩ ↔
      Unescaped e.message ∧ '"' ∉ e.message.toList := by
  have hnames : ∀ p ∈ plainParams e, IsToken p.1 := by
    simp only [plainParams, List.forall_mem_cons, List.not_mem_nil, false_implies, implies_true,
      and_true]
    decide
  rw [plain_eq_write, read_write_iff (by decide) hnames (List.cons_ne_nil _ _)
    (standsFor_downgraded _), ← clean_iff]
  simp only [plainParams, List.forall_mem_cons, List.not_mem_nil, false_implies, implies_true,
    and_true, List.map_cons, List.map_nil, clean_toText, true_and]
  constructor
  · intro h
    exact h.2
  · intro h
    have hcode := downgradeQuotes_eq_self_iff.mpr (clean_iff.mp (clean_toText e.code)).2
    rw [hcode, downgradeQuotes_eq_self_iff.mpr (clean_iff.mp h).2]
    exact ⟨rfl, h⟩

/-- A challenge of `bearerChallenge`. -/
private theorem read_bearerChallenge_iff (realm resourceMetadata : String) (e : CurityAuthError) :
    read (bearerChallenge ((helperParams realm resourceMetadata e).map fun p ↦ (p.1, some p.2))) =
        some ⟨"Bearer", (helperParams realm resourceMetadata e).map
          fun p ↦ (p.1, downgradeQuotes p.2)⟩ ↔
      Unescaped realm ∧ Unescaped e.message ∧ Unescaped resourceMetadata := by
  have hnames : ∀ p ∈ (helperParams realm resourceMetadata e).map
      fun p ↦ (p.1, downgradeQuotes p.2), IsToken p.1 := by
    simp only [helperParams, List.map_cons, List.map_nil, List.forall_mem_cons, List.not_mem_nil,
      false_implies, implies_true, and_true]
    decide
  have hsame : List.Forall₂ StandsFor
      ((helperParams realm resourceMetadata e).map fun p ↦ (p.1, downgradeQuotes p.2))
      ((helperParams realm resourceMetadata e).map fun p ↦ (p.1, downgradeQuotes p.2)) := by
    rw [List.forall₂_same, List.forall_mem_map]
    intro p _
    exact ⟨rfl, quote_not_mem_downgradeQuotes p.2, rfl⟩
  rw [bearerChallenge_eq_write, read_write_iff (by decide) hnames (by simp [helperParams]) hsame]
  have hcode : Unescaped e.code.toText := (clean_iff.mp (clean_toText e.code)).1
  have hlabel : Unescaped "invalid_token" := (clean_iff.mp (by decide)).1
  have hcolon : Unescaped ": " := (clean_iff.mp (by decide)).1
  simp only [helperParams, List.map_cons, List.map_nil, List.forall_mem_cons, List.not_mem_nil,
    false_implies, implies_true, and_true, true_and, downgradeQuotes_append, clean_append_iff,
    hlabel, hcolon, clean_downgradeQuotes_iff, hcode]

section Headers

variable {s t : String}

private theorem headerSafe_append :
    headerSafe (s ++ t) = true ↔ headerSafe s = true ∧ headerSafe t = true := by
  simp [headerSafe]

private theorem headerSafe_of_unescaped (h : Unescaped s) : headerSafe s = true :=
  List.all_eq_true.mpr fun c hc ↦ (h c hc).1

private theorem headerSafe_downgradeQuotes : headerSafe (downgradeQuotes s) = headerSafe s := by
  simp only [headerSafe, downgradeQuotes, String.toList_map, List.all_map]
  congr 1
  funext c
  by_cases hc : c = '"'
  · subst hc
    decide
  · simp [hc]

private theorem headerSafe_toText (code : CurityAuthErrorCode) :
    headerSafe code.toText = true := by
  cases code <;> decide

end Headers

/-- The challenge that a service means to send for a verification error. -/
def challengeOf (cfgs : Configs) (e : CurityAuthError) : Service → String
  | .mcpInspect =>
    McpInspect.invalidToken cfgs.mcpInspect (e.code.toText ++ ": " ++ e.message)
  | .mcpOps => bearerChallenge
      ((helperParams cfgs.mcpOps.expectedAudience cfgs.mcpOps.resourceMetadataUrl e).map
        fun p ↦ (p.1, some p.2))
  | _ => "Bearer error=\"" ++ e.code.toText ++ "\", error_description=\"" ++ e.message ++ "\""

/-- Each service sends its challenge where a header can hold it. -/
private theorem refusal_eq (cfgs : Configs) (e : CurityAuthError) (service : Service) :
    refusal cfgs e service =
      challenged (challengeOf cfgs e service) (errorBody e.code.toText e.message) := by
  cases service <;> rfl

/-- The challenge is read back as it was meant exactly when it stays parseable. -/
private theorem read_challengeOf_iff (cfgs : Configs) (e : CurityAuthError) (service : Service) :
    AuthChallenge.read (challengeOf cfgs e service) =
        some ⟨"Bearer", intendedParams cfgs e service⟩ ↔ StaysParseable cfgs e service := by
  cases service with
  | agentCopilot => exact read_plain_iff e
  | mcpInspect => exact read_bearerChallenge_iff _ _ e
  | mcpOps => exact read_bearerChallenge_iff _ _ e
  | inspectApi => exact read_plain_iff e
  | opsApi => exact read_plain_iff e

/-- A header can hold a challenge with the message as it is where it can hold the message. -/
private theorem headerSafe_plain_iff (e : CurityAuthError) :
    headerSafe ("Bearer error=\"" ++ e.code.toText ++ "\", error_description=\"" ++ e.message ++
      "\"") = true ↔ headerSafe e.message = true := by
  have hbefore : headerSafe "Bearer error=\"" = true := by decide
  have hbetween : headerSafe "\", error_description=\"" = true := by decide
  have hafter : headerSafe "\"" = true := by decide
  simp only [headerSafe_append, hbefore, hbetween, hafter, headerSafe_toText, true_and, and_true]

/-- A header can hold a challenge of `bearerChallenge` where it can hold what is written there. -/
private theorem headerSafe_bearerChallenge_iff (realm resourceMetadata : String)
    (e : CurityAuthError) :
    headerSafe (bearerChallenge ((helperParams realm resourceMetadata e).map
      fun p ↦ (p.1, some p.2))) = true ↔
      headerSafe realm = true ∧ headerSafe e.message = true ∧
        headerSafe resourceMetadata = true := by
  have hlabel : headerSafe "invalid_token" = true := by decide
  have hpunctuation : ∀ s ∈ [" ", "=\"", "\"", ", ", ": "], headerSafe s = true := by decide
  have hname : ∀ s ∈ ["Bearer", "realm", "error", "error_description", "resource_metadata"],
      headerSafe s = true := by
    decide
  simp only [List.forall_mem_cons, List.not_mem_nil, false_implies, implies_true, and_true]
    at hpunctuation hname
  rw [bearerChallenge_eq_write]
  simp only [helperParams, write, List.map_cons, List.map_nil, writeParam,
    String.intercalate_cons_cons, String.intercalate_singleton, headerSafe_append,
    headerSafe_downgradeQuotes, headerSafe_toText, hlabel, hpunctuation, hname,
    true_and, and_true]

/-- So a header can hold a challenge that stays parseable. -/
private theorem headerSafe_of_staysParseable {cfgs : Configs} {e : CurityAuthError}
    {service : Service} (h : StaysParseable cfgs e service) :
    headerSafe (challengeOf cfgs e service) = true := by
  cases service with
  | agentCopilot => exact (headerSafe_plain_iff e).mpr (headerSafe_of_unescaped h.1)
  | mcpInspect =>
    exact (headerSafe_bearerChallenge_iff ..).mpr ⟨headerSafe_of_unescaped h.1,
      headerSafe_of_unescaped h.2.1, headerSafe_of_unescaped h.2.2⟩
  | mcpOps =>
    exact (headerSafe_bearerChallenge_iff ..).mpr ⟨headerSafe_of_unescaped h.1,
      headerSafe_of_unescaped h.2.1, headerSafe_of_unescaped h.2.2⟩
  | inspectApi => exact (headerSafe_plain_iff e).mpr (headerSafe_of_unescaped h.1)
  | opsApi => exact (headerSafe_plain_iff e).mpr (headerSafe_of_unescaped h.1)

/-- And it cannot hold a challenge whose message it cannot hold. -/
private theorem message_of_headerSafe {cfgs : Configs} {e : CurityAuthError} {service : Service}
    (h : headerSafe (challengeOf cfgs e service) = true) : headerSafe e.message = true := by
  cases service with
  | agentCopilot => exact (headerSafe_plain_iff e).mp h
  | mcpInspect => exact ((headerSafe_bearerChallenge_iff ..).mp h).2.1
  | mcpOps => exact ((headerSafe_bearerChallenge_iff ..).mp h).2.1
  | inspectApi => exact (headerSafe_plain_iff e).mp h
  | opsApi => exact (headerSafe_plain_iff e).mp h

/-- A message that no header can hold leaves the request without a response, at every service. -/
theorem refusal_unanswered (cfgs : Configs) {e : CurityAuthError}
    (h : headerSafe e.message = false) (service : Service) :
    refusal cfgs e service = unanswered := by
  rw [refusal_eq]
  apply if_neg
  intro hsafe
  rw [message_of_headerSafe hsafe] at h
  cases h

/-- The response to a token that does not verify is a 401 with a challenge that a client reads back
as it was meant exactly when the message has no character that a quoted string has no place for and,
where it is written as it is, no quotation mark. Where it has a character that no header has a place
for, there is no response. -/
theorem challenge_parses_iff {jose : Jose} {cfgs : Configs} {authorization : Option String}
    {service : Service} {token : String} {e : CurityAuthError}
    (htoken : bearerToken authorization = some token)
    (herror : verifyJwt jose token (verifyOptions cfgs service) = .error e) :
    ∃ response, responseOf jose cfgs authorization service = some response ∧
      ((response.status = 401 ∧ ∃ header, response.wwwAuthenticate = some header ∧
          AuthChallenge.read header = some ⟨"Bearer", intendedParams cfgs e service⟩) ↔
        StaysParseable cfgs e service) := by
  refine ⟨refusal cfgs e service, responseOf_of_error htoken herror, ?_⟩
  rw [refusal_eq]
  constructor
  · rintro ⟨-, header, hheader, hread⟩
    obtain ⟨rfl, -⟩ := of_challenged hheader
    exact (read_challengeOf_iff cfgs e service).mp hread
  · intro h
    have hread := (read_challengeOf_iff cfgs e service).mpr h
    rw [challenged, if_pos (headerSafe_of_staysParseable h)]
    exact ⟨rfl, _, rfl, hread⟩

section Sample

/-- A library that rejects a token for its audience, in the words of `jose`. -/
private def wrongAudience : Jose where
  jwtVerify := fun _ _ ↦ .error "unexpected \"aud\" claim value"
  compact := fun _ ↦ "e30.token.sig"

private def deployed : Configs where
  agentCopilot := Copilot.sampleConfig
  mcpInspect := McpInspect.loadConfig "curity" "jwks"
  mcpOps := McpOps.loadConfig "curity" "jwks"
  inspectApi := InspectApi.loadConfig "curity" "jwks"
  opsApi := OpsApi.loadConfig "curity" "jwks"

private def audienceError : CurityAuthError :=
  ⟨"Invalid audience: unexpected \"aud\" claim value", .invalidAudience⟩

private theorem wrongAudience_token :
    bearerToken (some "Bearer e30.token.sig") = some "e30.token.sig" := by
  decide

private theorem wrongAudience_error (service : Service) :
    verifyJwt wrongAudience "e30.token.sig" (verifyOptions deployed service) =
      .error audienceError := by
  cases service <;> rfl

private theorem staysParseable_mcpOps :
    StaysParseable deployed audienceError .mcpOps := by
  have hall : ∀ s ∈ ["mcp-ops", audienceError.message,
      "https://mcp-gateway.localtest.me/.well-known/oauth-protected-resource/ops/mcp"],
      (s.toList.all fun c ↦ fieldChar c && c != '\\') = true := by
    decide +kernel
  have hunescaped : ∀ s ∈ ["mcp-ops", audienceError.message,
      "https://mcp-gateway.localtest.me/.well-known/oauth-protected-resource/ops/mcp"],
      Unescaped s := by
    intro s hs c hc
    simpa using List.all_eq_true.mp (hall s hs) c hc
  exact ⟨hunescaped "mcp-ops" (by simp), hunescaped audienceError.message (by simp),
    hunescaped "https://mcp-gateway.localtest.me/.well-known/oauth-protected-resource/ops/mcp"
      (by simp)⟩

/-- The challenge of ops-api for a wrong audience, and of mcp-ops, which downgrades the quotation
marks. -/
theorem challenge_parses_iff_sample :
    (∃ response, responseOf wrongAudience deployed (some "Bearer e30.token.sig") .opsApi =
        some response ∧
      ¬ (response.status = 401 ∧ ∃ header, response.wwwAuthenticate = some header ∧
        AuthChallenge.read header =
          some ⟨"Bearer", intendedParams deployed audienceError .opsApi⟩)) ∧
    ∃ response header, responseOf wrongAudience deployed (some "Bearer e30.token.sig") .mcpOps =
        some response ∧ response.status = 401 ∧ response.wwwAuthenticate = some header ∧
      AuthChallenge.read header =
        some ⟨"Bearer", intendedParams deployed audienceError .mcpOps⟩ := by
  constructor
  · obtain ⟨response, hresponse, hiff⟩ :=
      challenge_parses_iff wrongAudience_token (wrongAudience_error .opsApi)
    refine ⟨response, hresponse, ?_⟩
    rw [hiff]
    exact fun h ↦ absurd h.2 (by decide)
  · obtain ⟨response, hresponse, hiff⟩ :=
      challenge_parses_iff wrongAudience_token (wrongAudience_error .mcpOps)
    obtain ⟨hstatus, header, hheader, hread⟩ := hiff.mpr staysParseable_mcpOps
    exact ⟨response, header, hresponse, hstatus, hheader, hread⟩

/-- A message that quotes the name of a claim ends the description of ops-api's challenge early, and
one with a line break leaves the request without a response. -/
theorem quoted_claim_ends_description :
    (¬ ∀ (jose : Jose) (cfgs : Configs) (authorization : Option String) (service : Service)
        (token : String) (e : CurityAuthError), bearerToken authorization = some token →
        verifyJwt jose token (verifyOptions cfgs service) = .error e →
        ∃ response header, responseOf jose cfgs authorization service = some response ∧
          response.wwwAuthenticate = some header ∧
          AuthChallenge.read header = some ⟨"Bearer", intendedParams cfgs e service⟩) ∧
    ∀ service, refusal deployed ⟨"Invalid token: \n", .invalidToken⟩ service = unanswered := by
  constructor
  · intro h
    obtain ⟨response, header, hresponse, hheader, hread⟩ :=
      h _ _ _ _ _ _ wrongAudience_token (wrongAudience_error .opsApi)
    rw [responseOf_of_error wrongAudience_token (wrongAudience_error .opsApi),
      Option.some.injEq] at hresponse
    subst hresponse
    rw [refusal_eq] at hheader
    obtain ⟨rfl, -⟩ := of_challenged hheader
    exact absurd ((read_challengeOf_iff deployed audienceError .opsApi).mp hread).2 (by decide)
  · intro service
    exact refusal_unanswered deployed (by decide) service

end Sample

end AgentsAuth.EndToEnd
