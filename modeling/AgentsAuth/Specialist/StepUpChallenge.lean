import AgentsAuth.Api.McpOps
import AgentsAuth.Lib.Regex

/-!
# Step-up challenges

`parseStepUpChallenge` of `apps/agent-specialist/src/mcp-ops-client.ts` looks for parameters of a
`WWW-Authenticate` header with patterns that may match anywhere, and mcp-ops writes the header. A
pattern can only start where a quotation mark follows an equals sign, and in the headers of mcp-ops
that is where a value starts, unless one ends in an equals sign.
-/

namespace AgentsAuth.Specialist

open AgentsAuth.Api AgentsAuth.AuthCurity AgentsAuth.Base AgentsAuth.Curity AgentsAuth.Lib McpOps
open OpsApi (stepUp)

/-- The fields of a challenge. -/
structure StepUpChallenge where
  acrValues : String
  resourceMetadata : String

/-- The pattern `${k}="([^"]+)"`. -/
def parameter (k : String) : Regex :=
  .seq (.lit (k ++ "=\"")) (.seq (.group (.many (· ≠ '"') 1 none)) (.set (· = '"')))

/-- `get` of `mcp-ops-client.ts:94`. -/
def getParameter (wwwAuthenticate k : String) : Option String :=
  (((parameter k).exec wwwAuthenticate).bind (·.group)).map String.ofList

/-- Model of `parseStepUpChallenge`, `mcp-ops-client.ts:90–100`. -/
def parseStepUpChallenge (wwwAuthenticate : Option String) : Option StepUpChallenge :=
  match wwwAuthenticate.filter (· ≠ "") with
  | none => none
  | some header =>
    if getParameter header "error" ≠ some "insufficient_user_authentication" then none
    else
      some ⟨(getParameter header "acr_values").getD "mfa",
        (getParameter header "resource_metadata").getD ""⟩

/-- A text that is neither empty nor ended early by a quotation mark, and does not end like the name
of a parameter. -/
structure Plain (s : String) : Prop where
  nonempty : s ≠ ""
  quote : '"' ∉ s.toList
  equals : s.toList.getLast? ≠ some '='

/-- A configuration of mcp-ops whose texts can be written in a challenge. -/
structure Quotable (cfg : OpsApi.Config) : Prop where
  audience : Plain cfg.expectedAudience
  acr : Plain cfg.requiredAcr
  resourceMetadata : Plain cfg.resourceMetadataUrl
  scopes : ∀ s ∈ cfg.requiredScopes, '"' ∉ s.toList

section Patterns

variable {k : String} {before after w : List Char}

/-- A parameter pattern reads a name and a value that is not empty. -/
private theorem reads_parameter_iff :
    Regex.Reads (parameter k) before w after ↔
      ∃ v, w = k.toList ++ '=' :: '"' :: (v ++ ['"']) ∧ v ≠ [] ∧ '"' ∉ v := by
  simp only [parameter, Regex.Reads, Regex.reads_lit_iff]
  constructor
  · rintro ⟨u, _, rfl, rfl, v, _, rfl, ⟨hall, hlo, -⟩, c, rfl, hc⟩
    have hquote : c = '"' := of_decide_eq_true hc
    subst hquote
    refine ⟨v, by simp, List.length_pos_iff.mp hlo, fun hmem ↦ ?_⟩
    simpa using hall _ hmem
  · rintro ⟨v, rfl, hne, hv⟩
    refine ⟨(k ++ "=\"").toList, v ++ ['"'], by simp, rfl, v, ['"'], rfl, ⟨?_, ?_, ?_⟩, '"', rfl,
      by decide⟩
    · intro c hc
      simpa using ne_of_mem_of_not_mem hc hv
    · exact List.length_pos_iff.mpr hne
    · intro n hn
      cases hn

/-- A match of the pattern for a parameter holds the value. -/
private theorem group_of_mem_ends_parameter {c e : Regex.Cursor} {v rest : List Char}
    (hv : '"' ∉ v) (hafter : c.after = k.toList ++ '=' :: '"' :: (v ++ '"' :: rest))
    (h : e ∈ Regex.ends (parameter k) c) : e.group = some v := by
  obtain ⟨l, hl, hrest⟩ := Regex.mem_ends_seq_iff.mp h
  obtain ⟨m, hm, he⟩ := Regex.mem_ends_seq_iff.mp hrest
  obtain ⟨name, hname, -, hread⟩ := Regex.reads_of_mem_ends hl
  obtain ⟨w, hw, -, ⟨hall, -⟩, hgroup⟩ := Regex.group_of_mem_ends_group hm
  obtain ⟨q, hq, -, c', rfl, hc'⟩ := Regex.reads_of_mem_ends (r := .set _) he
  have hquote : c' = '"' := of_decide_eq_true hc'
  subst hquote
  rw [Regex.reads_lit_iff.mp hread, hafter] at hname
  have hvalue : v ++ '"' :: rest = w ++ '"' :: e.after := by
    have hl' : v ++ '"' :: rest = l.after := by simpa using hname
    rw [hl', hw, hq]
    rfl
  have hw' : '"' ∉ w := fun hmem ↦ by simpa using hall _ hmem
  obtain ⟨rfl, -⟩ := append_cons_inj (c := '"') hv hw' hvalue
  rcases Regex.group_of_mem_ends (r := .set _) he with hsame | ⟨x, hx, -⟩
  · rw [hsame, hgroup]
  · cases hx

/-- What the pattern for a parameter finds at or after a place. -/
private def captured (k : String) (before text : List Char) : Option (List Char) :=
  (Regex.firstFrom (parameter k) before text).bind (·.group)

/-- A quotation mark that does not follow the name starts no match. -/
private theorem captured_skip {u v : List Char} {x : Option (List Char)} (hk : '"' ∉ k.toList)
    (hu : '"' ∉ u) (hname : ¬ k.toList ++ ['='] <:+ u) (h : ∀ before, captured k before v = x) :
    ∀ before, captured k before (u ++ '"' :: v) = x := by
  intro before
  have hsplit : u ++ '"' :: v = (u ++ ['"']) ++ v := by simp
  rw [captured, hsplit, Regex.firstFrom_append]
  · exact h _
  · intro p q hpq hq
    rw [Regex.ends_eq_nil_iff]
    intro w after hafter hread
    obtain ⟨value, rfl, -, -⟩ := reads_parameter_iff.mp hread
    obtain ⟨q', rfl⟩ : ∃ q', q = q' ++ ['"'] := by
      refine ⟨q.dropLast, ?_⟩
      have hlast := congrArg List.getLast? hpq
      rw [List.getLast?_append_of_ne_nil p hq, List.getLast?_eq_some_getLast hq,
        List.getLast?_concat, Option.some.injEq] at hlast
      rw [hlast, List.dropLast_append_getLast hq]
    have hu' : u = p ++ q' := by
      rw [← List.append_assoc] at hpq
      exact List.append_cancel_right hpq
    have hq' : '"' ∉ q' := fun hmem ↦ hu (hu' ▸ List.mem_append_right p hmem)
    have hkey : '"' ∉ k.toList ++ ['='] := by simp [hk]
    have hshape : q' ++ '"' :: v =
        (k.toList ++ ['=']) ++ '"' :: (value ++ ['"'] ++ after) := by
      simpa using hafter
    obtain ⟨rfl, -⟩ := append_cons_inj (c := '"') hq' hkey hshape
    exact hname ⟨p, hu'.symm⟩

/-- A name with a value is found, whatever stands before it without quotation marks. -/
private theorem captured_hit {u v rest : List Char} (hk : '"' ∉ k.toList) (hu : '"' ∉ u)
    (hne : v ≠ []) (hv : '"' ∉ v) :
    ∀ before, captured k before (u ++ k.toList ++ '=' :: '"' :: (v ++ '"' :: rest)) = some v := by
  intro before
  rw [captured, List.append_assoc, Regex.firstFrom_append]
  · have hread : Regex.Reads (parameter k) (u.reverse ++ before)
        (k.toList ++ '=' :: '"' :: (v ++ ['"'])) rest :=
      reads_parameter_iff.mpr ⟨v, rfl, hne, hv⟩
    obtain ⟨g, hmem⟩ := (@Regex.exists_mem_ends_iff (parameter k)
      ⟨u.reverse ++ before, k.toList ++ '=' :: '"' :: (v ++ '"' :: rest), none⟩ _ _).mpr
        ⟨_, by simp, rfl, hread⟩
    obtain ⟨e, es, hes⟩ := List.exists_cons_of_ne_nil (List.ne_nil_of_mem hmem)
    rw [Regex.firstFrom_of_ends hes, Option.bind_some]
    have he : e ∈ Regex.ends (parameter k)
        ⟨u.reverse ++ before, k.toList ++ '=' :: '"' :: (v ++ '"' :: rest), none⟩ := by
      rw [hes]
      exact List.mem_cons_self ..
    rw [group_of_mem_ends_parameter hv rfl he]
  · intro p q hpq hq
    rw [Regex.ends_eq_nil_iff]
    intro w after hafter hread
    obtain ⟨value, rfl, -, -⟩ := reads_parameter_iff.mp hread
    have hq' : '"' ∉ q := fun hmem ↦ hu (hpq ▸ List.mem_append_right p hmem)
    have hkey : '"' ∉ k.toList ++ ['='] := by simp [hk]
    have hshape : (q ++ k.toList ++ ['=']) ++ '"' :: (v ++ '"' :: rest) =
        (k.toList ++ ['=']) ++ '"' :: (value ++ ['"'] ++ after) := by
      simpa using hafter
    obtain ⟨heq, -⟩ := append_cons_inj (c := '"') (by simp [hq', hk]) hkey hshape
    have hlength := congrArg List.length heq
    simp only [List.length_append] at hlength
    exact hq (List.length_eq_zero_iff.mp (by omega))

/-- There is nothing to find after the end. -/
private theorem captured_nil : ∀ before, captured k before [] = none := by
  intro before
  have hnone : Regex.ends (parameter k) ⟨before, [], none⟩ = [] := by
    rw [Regex.ends_eq_nil_iff]
    intro w after hafter hread
    obtain ⟨v, rfl, -, -⟩ := reads_parameter_iff.mp hread
    have hlength := congrArg List.length hafter
    simp at hlength
  rw [captured, Regex.firstFrom, hnone]
  rfl

end Patterns

section Headers

variable {k lead : String} {v rest : List Char} {x : Option (List Char)}

/-- A parameter and what follows it. -/
private def valueText (lead : String) (v rest : List Char) : List Char :=
  lead.toList ++ '=' :: '"' :: (v ++ '"' :: rest)

private theorem not_suffix_of_getLast? (h : v.getLast? ≠ some '=') :
    ¬ k.toList ++ ['='] <:+ v := by
  rintro ⟨u, rfl⟩
  rw [← List.append_assoc, List.getLast?_concat] at h
  exact h rfl

/-- A parameter of another name is passed. -/
private theorem captured_skip_value (hk : '"' ∉ k.toList) (hlead : '"' ∉ lead.toList)
    (hname : ¬ k.toList ++ ['='] <:+ lead.toList ++ ['=']) (hv : '"' ∉ v)
    (hvalue : ¬ k.toList ++ ['='] <:+ v) (h : ∀ before, captured k before rest = x) :
    ∀ before, captured k before (valueText lead v rest) = x := by
  have hopen : '"' ∉ lead.toList ++ ['='] := by simp [hlead]
  have hsplit : valueText lead v rest = (lead.toList ++ ['=']) ++ '"' :: (v ++ '"' :: rest) := by
    simp [valueText]
  rw [hsplit]
  exact captured_skip hk hopen hname (captured_skip hk hv hvalue h)

/-- A parameter of the name is found. -/
private theorem captured_hit_value {u : List Char} (hk : '"' ∉ k.toList) (hu : '"' ∉ u)
    (hlead : lead.toList = u ++ k.toList) (hne : v ≠ []) (hv : '"' ∉ v) :
    ∀ before, captured k before (valueText lead v rest) = some v := by
  rw [valueText, hlead]
  exact captured_hit hk hu hne hv

private theorem captured_error (hne : v ≠ []) (hv : '"' ∉ v) :
    ∀ before, captured "error" before (valueText ", error" v rest) = some v :=
  captured_hit_value (u := ", ".toList) (by decide) (by decide) (by decide) hne hv

private theorem missingBearer_text (cfg : OpsApi.Config) : ∃ header,
    (missingBearer cfg).wwwAuthenticate = some header ∧
    header.toList = valueText "Bearer realm" (downgradeQuotes cfg.expectedAudience).toList
      (valueText ", scope" (downgradeQuotes (" ".intercalate cfg.requiredScopes)).toList
        (valueText ", resource_metadata" (downgradeQuotes cfg.resourceMetadataUrl).toList [])) :=
  ⟨_, rfl, by simp [bearerChallenge, valueText]⟩

private theorem verificationFailed_text {cfg : OpsApi.Config} {e : CurityAuthError}
    {header : String} (h : (verificationFailed cfg e).wwwAuthenticate = some header) :
    header.toList = valueText "Bearer realm" (downgradeQuotes cfg.expectedAudience).toList
      (valueText ", error" (downgradeQuotes "invalid_token").toList
        (valueText ", error_description"
          (downgradeQuotes (e.code.toText ++ ": " ++ e.message)).toList
          (valueText ", resource_metadata" (downgradeQuotes cfg.resourceMetadataUrl).toList
            []))) := by
  obtain ⟨rfl, -⟩ := of_challenged h
  simp [bearerChallenge, valueText]

private theorem stepUp_text (cfg : OpsApi.Config) : ∃ header,
    (stepUp cfg).wwwAuthenticate = some header ∧
    header.toList = valueText "Bearer realm" cfg.expectedAudience.toList
      (valueText ", error" "insufficient_user_authentication".toList
        (valueText ", acr_values" cfg.requiredAcr.toList
          (valueText ", resource_metadata" cfg.resourceMetadataUrl.toList []))) :=
  ⟨_, rfl, by simp [valueText]⟩

end Headers

section Parse

variable {cfg : OpsApi.Config} {header : String}

private theorem getParameter_eq {k : String} {v : List Char}
    (h : ∀ before, captured k before header.toList = some v) :
    getParameter header k = some (String.ofList v) := by
  have hhere : captured k [] header.toList = some v := h []
  rw [captured] at hhere
  rw [getParameter, Regex.exec, hhere, Option.map_some]

private theorem getParameter_eq_none {k : String}
    (h : ∀ before, captured k before header.toList = none) : getParameter header k = none := by
  have hhere : captured k [] header.toList = none := h []
  rw [captured] at hhere
  rw [getParameter, Regex.exec, hhere, Option.map_none]

private theorem parse_of_other (h : getParameter header "error" ≠
    some "insufficient_user_authentication") : parseStepUpChallenge (some header) = none := by
  rw [parseStepUpChallenge]
  split
  · rfl
  · next header' hfilter =>
    cases (Option.filter_eq_some_iff.mp hfilter).1
    rw [if_pos h]

private theorem Plain.ne_nil {s : String} (h : Plain s) : s.toList ≠ [] := by
  simpa using h.nonempty

/-- No parameter of a challenge for a missing token is an error: what stands after a scope that ends
in `error=` is not one. -/
private theorem parse_missingBearer (hcfg : Quotable cfg)
    (hheader : (missingBearer cfg).wwwAuthenticate = some header) :
    parseStepUpChallenge (some header) = none := by
  obtain ⟨text, htext, hlist⟩ := missingBearer_text cfg
  rw [htext, Option.some.injEq] at hheader
  subst hheader
  apply parse_of_other
  have hurl : ∀ before, captured "error" before (valueText ", resource_metadata"
      (downgradeQuotes cfg.resourceMetadataUrl).toList []) = none := by
    rw [downgradeQuotes_eq_self_iff.mpr hcfg.resourceMetadata.quote]
    exact captured_skip_value (by decide) (by decide) (by decide) hcfg.resourceMetadata.quote
      (not_suffix_of_getLast? hcfg.resourceMetadata.equals) captured_nil
  have hrealm := hcfg.audience.quote
  rw [downgradeQuotes_eq_self_iff.mpr hrealm] at hlist
  have hquote := quote_not_mem_downgradeQuotes (" ".intercalate cfg.requiredScopes)
  by_cases hsuffix : "error".toList ++ ['='] <:+
      (downgradeQuotes (" ".intercalate cfg.requiredScopes)).toList
  · obtain ⟨u, hu⟩ := hsuffix
    rw [← hu] at hquote hlist
    have hu' : '"' ∉ u := fun hmem ↦ hquote (List.mem_append_left _ hmem)
    have hafter := @captured_hit "error" u ", resource_metadata=".toList
      ((downgradeQuotes cfg.resourceMetadataUrl).toList ++ ['"']) (by decide) hu' (by decide)
      (by decide)
    have hscope : ∀ before, captured "error" before (valueText ", scope"
        (u ++ ("error".toList ++ ['='])) (valueText ", resource_metadata"
          (downgradeQuotes cfg.resourceMetadataUrl).toList [])) =
        some ", resource_metadata=".toList := by
      have hsplit : valueText ", scope" (u ++ ("error".toList ++ ['=']))
          (valueText ", resource_metadata" (downgradeQuotes cfg.resourceMetadataUrl).toList []) =
          ", scope=".toList ++ '"' :: (u ++ "error".toList ++ '=' :: '"' ::
            (", resource_metadata=".toList ++ '"' ::
              ((downgradeQuotes cfg.resourceMetadataUrl).toList ++ ['"']))) := by
        simp [valueText]
      rw [hsplit]
      exact captured_skip (by decide) (by decide) (by decide) hafter
    rw [getParameter_eq (hlist ▸ captured_skip_value (by decide) (by decide) (by decide) hrealm
      (not_suffix_of_getLast? hcfg.audience.equals) hscope)]
    decide
  · have hscope : ∀ before, captured "error" before (valueText ", scope"
        (downgradeQuotes (" ".intercalate cfg.requiredScopes)).toList (valueText
          ", resource_metadata" (downgradeQuotes cfg.resourceMetadataUrl).toList [])) = none :=
      captured_skip_value (by decide) (by decide) (by decide) hquote hsuffix hurl
    rw [getParameter_eq_none (hlist ▸ captured_skip_value (by decide) (by decide) (by decide)
      hrealm (not_suffix_of_getLast? hcfg.audience.equals) hscope)]
    decide

/-- The error of a challenge for a token that does not verify is found first, whatever the
description says. -/
private theorem parse_verificationFailed (hcfg : Quotable cfg) {e : CurityAuthError}
    (hheader : (verificationFailed cfg e).wwwAuthenticate = some header) :
    parseStepUpChallenge (some header) = none := by
  have hlist := verificationFailed_text hheader
  apply parse_of_other
  have hrealm := hcfg.audience.quote
  rw [downgradeQuotes_eq_self_iff.mpr hrealm] at hlist
  have hcode : downgradeQuotes "invalid_token" = "invalid_token" :=
    downgradeQuotes_eq_self_iff.mpr (by decide)
  rw [hcode] at hlist
  rw [getParameter_eq (hlist ▸ captured_skip_value (by decide) (by decide) (by decide) hrealm
    (not_suffix_of_getLast? hcfg.audience.equals) (captured_error (by decide) (by decide)))]
  decide

/-- A step-up challenge is read as it was written. -/
private theorem parse_stepUp (hcfg : Quotable cfg)
    (hheader : (stepUp cfg).wwwAuthenticate = some header) :
    parseStepUpChallenge (some header) = some ⟨cfg.requiredAcr, cfg.resourceMetadataUrl⟩ := by
  obtain ⟨text, htext, hlist⟩ := stepUp_text cfg
  rw [htext, Option.some.injEq] at hheader
  subst hheader
  have hskip {k : String} {rest x} (hk : '"' ∉ k.toList)
      (hname : ¬ k.toList ++ ['='] <:+ "Bearer realm".toList ++ ['='])
      (h : ∀ before, captured k before rest = x) :=
    captured_skip_value hk (by decide) hname hcfg.audience.quote
      (not_suffix_of_getLast? hcfg.audience.equals) h
  have herror : getParameter text "error" = some "insufficient_user_authentication" := by
    rw [getParameter_eq (hlist ▸ hskip (by decide) (by decide)
      (captured_error (by decide) (by decide))), String.ofList_toList]
  have hacr : getParameter text "acr_values" = some cfg.requiredAcr := by
    rw [getParameter_eq (hlist ▸ hskip (by decide) (by decide)
      (captured_skip_value (by decide) (by decide) (by decide) (by decide) (by decide)
        (captured_hit_value (u := ", ".toList) (by decide) (by decide) (by decide)
          hcfg.acr.ne_nil hcfg.acr.quote))), String.ofList_toList]
  have hurl : getParameter text "resource_metadata" = some cfg.resourceMetadataUrl := by
    rw [getParameter_eq (hlist ▸ hskip (by decide) (by decide)
      (captured_skip_value (by decide) (by decide) (by decide) (by decide) (by decide)
        (captured_skip_value (by decide) (by decide) (by decide) hcfg.acr.quote
          (not_suffix_of_getLast? hcfg.acr.equals)
          (captured_hit_value (u := ", ".toList) (by decide) (by decide) (by decide)
            hcfg.resourceMetadata.ne_nil hcfg.resourceMetadata.quote)))), String.ofList_toList]
  have hne : text ≠ "" := by
    intro hempty
    rw [hempty] at herror
    exact absurd herror (by decide)
  rw [parseStepUpChallenge, Option.filter_some, decide_eq_true hne, if_pos rfl]
  simp only [herror, hacr, hurl, ne_eq, not_true_eq_false, if_false, Option.getD_some]

end Parse

/-- A challenge of a 401 of mcp-ops is read as a step-up exactly when the request was refused for
its `acr`, and then with the `acr` and the metadata of the configuration. -/
theorem parseStepUpChallenge_unauthorized {jose : Jose} {cfg : OpsApi.Config}
    {authorization : Option String} {response : Response} {header : String}
    (hcfg : Quotable cfg) (hrespond : authMiddleware jose cfg authorization = .respond response)
    (hstatus : response.status = 401) (hheader : response.wwwAuthenticate = some header) :
    ((parseStepUpChallenge (some header)).isSome = true ↔ RefusedForAcr jose cfg authorization) ∧
      ∀ challenge, parseStepUpChallenge (some header) = some challenge →
        challenge = ⟨cfg.requiredAcr, cfg.resourceMetadataUrl⟩ := by
  rcases unauthorized_cases hrespond hstatus with
    ⟨rfl, hnone⟩ | ⟨token, e, rfl, htoken, herror⟩ | ⟨rfl, hrefused⟩
  · rw [parse_missingBearer hcfg hheader]
    constructor
    · apply iff_of_false (by simp)
      rintro ⟨token, caller, top, htoken, -⟩
      rw [hnone] at htoken
      cases htoken
    · intro challenge h
      cases h
  · rw [parse_verificationFailed hcfg hheader]
    constructor
    · apply iff_of_false (by simp)
      rintro ⟨token', caller, top, htoken', hverified, -⟩
      rw [htoken, Option.some.injEq] at htoken'
      rw [← htoken', herror] at hverified
      cases hverified
    · intro challenge h
      cases h
  · rw [parse_stepUp hcfg hheader]
    constructor
    · exact iff_of_true rfl hrefused
    · intro challenge h
      cases h
      rfl

section Sample

private theorem quotable_loadConfig : Quotable (loadConfig "curity" "jwks") := by
  constructor
  · exact ⟨by decide, by decide, by decide⟩
  · exact ⟨by decide, by decide, by decide⟩
  · exact ⟨by decide, by decide, by decide⟩
  · decide

/-- A library that verifies every token as one of a user who has only given a password. -/
private def passwordJose : Jose where
  jwtVerify := fun _ _ ↦
    .ok (Json.obj
      [("scope", .str "ops:write"), ("acr", .str "html-form"),
        ("act", wrapAct "spiffe://demo.curity.local/ns/mcp/sa/agentgateway"
          (some (wrapAct "spiffe://demo.curity.local/ns/agents/sa/agent-specialist"
            (some (wrapAct "spiffe://demo.curity.local/ns/agents/sa/agent-copilot" none)))))]).get?
  compact := fun _ ↦ "e30.token.sig"

private theorem passwordJose_refused :
    RefusedForAcr passwordJose (loadConfig "curity" "jwks") (some "Bearer e30.token.sig") := by
  have htoken : bearerToken (some "Bearer e30.token.sig") = some "e30.token.sig" := by decide
  refine ⟨_, _, _, htoken, rfl, ?_, ?_, rfl, ?_, ?_⟩
  · intro items h
    cases h
  · decide
  · exact (OpsApi.chainMatches_iff (i := 0)).mpr ⟨rfl, rfl⟩
  · rw [ne_eq, ← Json.string?_eq_some_iff]
    decide

/-- A request without the `acr` is told to step up. -/
theorem parseStepUpChallenge_unauthorized_sample :
    ∃ header, (stepUp (loadConfig "curity" "jwks")).wwwAuthenticate = some header ∧
      ((parseStepUpChallenge (some header)).isSome = true ↔
        RefusedForAcr passwordJose (loadConfig "curity" "jwks") (some "Bearer e30.token.sig")) ∧
      ∀ challenge, parseStepUpChallenge (some header) = some challenge →
        challenge = ⟨(loadConfig "curity" "jwks").requiredAcr,
          (loadConfig "curity" "jwks").resourceMetadataUrl⟩ := by
  obtain ⟨header, hheader, -⟩ := stepUp_text (loadConfig "curity" "jwks")
  exact ⟨header, hheader,
    parseStepUpChallenge_unauthorized quotable_loadConfig
      (authMiddleware_of_refusedForAcr passwordJose_refused) rfl hheader⟩

end Sample

end AgentsAuth.Specialist
