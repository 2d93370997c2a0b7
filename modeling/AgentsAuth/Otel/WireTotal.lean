import AgentsAuth.Lib.Needs
import AgentsAuth.Otel.WireFormat
import Mathlib.Tactic.NormNum

/-!
# Which calls the wire log can show

Everything that the formatter of `packages/otel-bootstrap/src/wire-log.ts` needs of what it formats:
the values that it turns into text, and the times that it turns into a time of day. A block is there
exactly when all of it is met, and in full mode little is asked.
-/

namespace AgentsAuth.Otel

open AgentsAuth.Base AgentsAuth.Lib AgentsAuth.Lib.Regex

/-- What a step of the formatter can fail for the lack of: a text of a value, or a date. -/
inductive Need where
  | text (v : Json)
  | time (sec : ℚ)

/-- `String(v)` or `toISOString` does not throw. -/
def Need.Met : Need → Prop
  | .text v => v.hasText = true
  | .time sec => isTime sec = true

instance (n : Need) : Decidable n.Met := by
  cases n <;> exact inferInstanceAs (Decidable (_ = true))

/-- The texts of values. -/
def texts (vs : List Json) : List Need := vs.map .text

/-- The dates of times. -/
def dates (times : List (String × ℚ)) : List Need := times.map fun time ↦ Need.time time.2

/-- What `claimValue` needs. -/
def claimNeeds (k : String) (v : Json) : List Need :=
  if k = "act" then texts (actSubjects 16 v)
  else
    match if k = "may_act" then given? v "sub" else none with
    | some sub => [.text sub]
    | none =>
      match if k = "cnf" then given? v "jkt" else none with
      | some jkt => [.text jkt]
      | none => texts (itemsOf (some v))

/-- What claims need. -/
def claimsNeeds (claims : List (String × Json)) : List Need :=
  claims.flatMap fun claim ↦ claimNeeds claim.1 claim.2

/-- What `jwtLines` needs of a token in pretty mode. -/
def tokenNeeds (d : DecodedJwt) : List Need :=
  if d.isProof then
    texts ((membersNamed ["htm", "htu", "nonce", "ath", "jti"] d.payload).map Prod.snd) ++
      dates (timesNamed ["iat"] d.payload) ++
      texts (d.header.get? "alg").toList
  else
    claimsNeeds (membersNamed keyClaims d.payload) ++
      dates (timesNamed timeClaims d.payload)

/-- What `toolCalls` needs. -/
def toolCallsNeeds (calls : Option Json) : List Need :=
  (itemsOf calls).flatMap fun c ↦
    let fn := orEmpty (c.get? "function")
    texts (fn.get? "name").toList ++ texts ((fn.get? "arguments").filter Json.notNull).toList

/-- What one part of `messageText` needs. -/
def partNeeds (p : Json) : List Need :=
  match p with
  | .obj _ =>
    match Json.string? (p.get? "text") with
    | some _ => []
    | none => texts (p.get? "type").toList
  | _ => []

/-- What `messageText` needs. -/
def messageTextNeeds (content : Option Json) : List Need := (itemsOf content).flatMap partNeeds

/-- What one tool of `llmRequest` needs. -/
def toolNameNeeds (t : Json) : List Need :=
  match t.get? "function" with
  | some (.obj members) => texts ((Json.obj members).get? "name").toList
  | _ => []

/-- What one message of `llmRequest` needs. -/
def messageNeeds (m : Json) : List Need :=
  match m with
  | .obj _ =>
    texts (m.get? "role").toList ++ messageTextNeeds (m.get? "content") ++
      toolCallsNeeds (m.get? "tool_calls")
  | _ => []

/-- What `llmRequest` needs; its options are no objects. -/
def llmRequestNeeds (v : Json) (messages : List Json) : List Need :=
  (itemsOf (v.get? "tools")).flatMap toolNameNeeds ++ texts (v.get? "model").toList ++
    messages.flatMap messageNeeds

/-- What `llmResponse` needs. -/
def llmResponseNeeds (v : Json) (choices : List Json) : List Need :=
  let choice := orEmpty choices.head?
  let usage := orEmpty (v.get? "usage")
  let message := orEmpty (choice.get? "message")
  texts (v.get? "model").toList ++ texts (choice.get? "finish_reason").toList ++
    texts (usage.get? "prompt_tokens").toList ++ texts (usage.get? "completion_tokens").toList ++
    messageTextNeeds (message.get? "content") ++ toolCallsNeeds (message.get? "tool_calls")

/-- What `summarizeJson` needs. -/
def summaryNeeds (v : Json) (url : String) : List Need :=
  match v with
  | .obj _ =>
    if isAsMetadataPath url then claimsNeeds (membersNamed asMetadataFields v)
    else
      match items? (v.get? "messages") with
      | some messages => llmRequestNeeds v messages
      | none =>
        match items? (v.get? "choices") with
        | some choices => llmResponseNeeds v choices
        | none => []
  | _ => []

/-- What `renderSse` needs. -/
def sseNeeds (host : Host) (body : String) : List Need :=
  ((splitLines body).filter fun line ↦ trim line ≠ "").flatMap fun line ↦
    (sseData host line).elim [] (summaryNeeds · "")

/-- What `renderBody` needs. -/
def bodyNeeds (host : Host) (mode : WireMode) (body : String) (ct : Option String) (url : String) :
    List Need :=
  match bodyKind host mode body ct with
  | .form => []
  | .events => sseNeeds host body
  | .json v =>
    match mode with
    | .full => []
    | .pretty => summaryNeeds v url
  | .text => []

/-- What `headline` needs: the name of a tool that is called. -/
def headlineNeeds (host : Host) (r : WireRecord) : List Need :=
  match callKind host r with
  | .mcp method params =>
    if method = "tools/call" then texts (params.get? "name").toList else []
  | _ => []

section Needs

variable {host : Host} {sentAt : String}

private theorem needs_text (v : Json) : Needs Need.Met v.text? [.text v] := by
  simp [Needs, Json.isSome_text?_iff, Need.Met]

private theorem needs_texts (vs : List Json) : Needs Need.Met (vs.mapM Json.text?) (texts vs) := by
  have h := Needs.mapM needs_text vs
  rwa [← List.map_eq_flatMap] at h

private theorem needs_textOf (o : Option Json) : Needs Need.Met (textOf o) (texts o.toList) := by
  cases o with
  | none => exact Needs.of_some _
  | some v => exact needs_text v

private theorem needs_clock (sec : ℚ) : Needs Need.Met (clock host sec sentAt) [.time sec] := by
  constructor
  · intro h n hn
    rw [List.mem_singleton.mp hn]
    by_contra hno
    have htime : ¬isTime sec = true := hno
    rw [clock, if_neg htime] at h
    cases h
  · intro h
    have htime : isTime sec = true := h _ (List.mem_singleton_self _)
    rw [clock, if_pos htime]
    cases host.parseDate sentAt with
    | none => rfl
    | some atSec => rfl

private theorem needs_clocks (times : List (String × ℚ)) :
    Needs Need.Met (clocks host sentAt times) (dates times) := by
  unfold clocks dates
  rw [List.map_eq_flatMap]
  apply Needs.mapM
  intro time
  exact (needs_clock time.2).map _

private theorem needs_memberTexts (members : List (String × Json)) :
    Needs Need.Met (memberTexts members) (texts (members.map Prod.snd)) := by
  rw [texts, List.map_map, List.map_eq_flatMap]
  exact Needs.mapM (fun member ↦ (needs_text member.2).map _) members

private theorem needs_claimValue (k : String) (v : Json) :
    Needs Need.Met (claimValue host k v) (claimNeeds k v) := by
  unfold claimValue claimNeeds
  split
  · exact ((needs_texts _).map _).map _
  · cases if k = "may_act" then given? v "sub" else none with
    | some sub => exact (needs_text sub).map _
    | none =>
      cases if k = "cnf" then given? v "jkt" else none with
      | some jkt => exact (needs_text jkt).map _
      | none =>
        cases v with
        | arr items => exact (needs_texts items).map _
        | obj members => exact Needs.of_some _
        | null => exact Needs.of_some _
        | bool b => exact Needs.of_some _
        | num n => exact Needs.of_some _
        | str s => exact Needs.of_some _

private theorem needs_claimValues (claims : List (String × Json)) :
    Needs Need.Met (claimValues host claims) (claimsNeeds claims) := by
  unfold claimValues claimsNeeds
  apply Needs.mapM
  intro claim
  exact (needs_claimValue claim.1 claim.2).map _

private theorem needs_claimRows (p : Json) :
    Needs Need.Met (claimRows host p sentAt)
      (claimsNeeds (membersNamed keyClaims p) ++
        dates (timesNamed timeClaims p)) := by
  apply Needs.bind (needs_claimValues _)
  intro keys
  exact (needs_clocks _).bind_some fun _ ↦ rfl

private theorem needs_proofRows (h p : Json) :
    Needs Need.Met (proofRows host h p sentAt)
      (texts ((membersNamed ["htm", "htu", "nonce", "ath", "jti"] p).map Prod.snd) ++
        dates (timesNamed ["iat"] p) ++ texts (h.get? "alg").toList) := by
  rw [List.append_assoc]
  apply Needs.bind (needs_memberTexts _)
  intro members
  apply Needs.bind (needs_clocks _)
  intro iat
  exact (needs_textOf _).bind_some fun _ ↦ rfl

/-- A token is expanded in pretty mode exactly when its values have texts and its times are dates,
as far as they are shown. -/
theorem isSome_jwtLines_iff {jwt : String} :
    (jwtLines host .pretty jwt sentAt).isSome = true ↔
      ∀ d, decodeJwt host jwt = some d → ∀ n ∈ tokenNeeds d, n.Met := by
  unfold jwtLines
  cases decodeJwt host jwt with
  | none =>
    constructor
    · intro _ d hd
      cases hd
    · intro _
      rfl
  | some d =>
    have hrows : Needs Need.Met (if d.isProof then proofRows host d.header d.payload sentAt
        else claimRows host d.payload sentAt) (tokenNeeds d) := by
      unfold tokenNeeds
      split
      · exact needs_proofRows _ _
      · exact needs_claimRows _
    constructor
    · intro h d' hd'
      cases hd'
      exact (hrows.map _).mp h
    · intro h
      exact (hrows.map _).mpr (h d rfl)

/-- In full mode a token is always expanded. -/
theorem isSome_jwtLines_full {jwt : String} :
    (jwtLines host .full jwt sentAt).isSome = true := by
  unfold jwtLines
  split
  · rfl
  · rfl

private theorem needs_toolCalls (calls : Option Json) :
    Needs Need.Met (toolCalls calls) (toolCallsNeeds calls) := by
  apply Needs.mapM
  intro c
  apply Needs.bind (needs_textOf _)
  intro name
  refine Needs.bind_some ?_ fun _ ↦ rfl
  unfold textOrEmpty
  cases ((orEmpty (c.get? "function")).get? "arguments").filter Json.notNull with
  | none => exact Needs.of_some _
  | some v => exact needs_text v

private theorem needs_partText (p : Json) : Needs Need.Met (partText p) (partNeeds p) := by
  cases p with
  | obj members =>
    simp only [partText, partNeeds]
    cases Json.string? ((Json.obj members).get? "text") with
    | some text => exact Needs.of_some _
    | none => exact (needs_textOf _).map _
  | null => exact Needs.of_some _
  | bool b => exact Needs.of_some _
  | num n => exact Needs.of_some _
  | str s => exact Needs.of_some _
  | arr items => exact Needs.of_some _

private theorem needs_messageText (content : Option Json) :
    Needs Need.Met (messageText content) (messageTextNeeds content) := by
  cases content with
  | none => exact Needs.of_some _
  | some content =>
    cases content with
    | arr parts => exact (Needs.mapM needs_partText parts).map _
    | obj members => exact Needs.of_some _
    | null => exact Needs.of_some _
    | bool b => exact Needs.of_some _
    | num n => exact Needs.of_some _
    | str s => exact Needs.of_some _

private theorem needs_toolName (t : Json) : Needs Need.Met (toolName t) (toolNameNeeds t) := by
  unfold toolName toolNameNeeds
  cases t.get? "function" with
  | none => exact Needs.of_some _
  | some f =>
    cases f with
    | obj members => exact needs_textOf _
    | arr items => exact Needs.of_some _
    | null => exact Needs.of_some _
    | bool b => exact Needs.of_some _
    | num n => exact Needs.of_some _
    | str s => exact Needs.of_some _

private theorem needs_messageLines (m : Json) :
    Needs Need.Met (messageLines host m) (messageNeeds m) := by
  cases m with
  | obj members =>
    show Needs Need.Met _ (texts _ ++ messageTextNeeds _ ++ toolCallsNeeds _)
    rw [List.append_assoc]
    apply Needs.bind (needs_textOf _)
    intro role
    apply Needs.bind (needs_messageText _)
    intro text
    exact (needs_toolCalls _).bind_some fun _ ↦ rfl
  | null => exact Needs.of_some _
  | bool b => exact Needs.of_some _
  | num n => exact Needs.of_some _
  | str s => exact Needs.of_some _
  | arr items => exact Needs.of_some _

/-- The options of a request are no objects and have texts. -/
private theorem isSome_requestOptions (v : Json) :
    (memberTexts (requestOptions v)).isSome = true := by
  rw [memberTexts, isSome_mapM_iff]
  intro member hmember
  rw [requestOptions, List.mem_filter, Bool.and_eq_true] at hmember
  obtain ⟨name, v⟩ := member
  cases v with
  | bool b => rfl
  | num n => rfl
  | str s => rfl
  | null => cases hmember.2.2
  | arr items => cases hmember.2.2
  | obj members => cases hmember.2.2

private theorem needs_llmRequest (v : Json) (messages : List Json) :
    Needs Need.Met (llmRequest host v messages) (llmRequestNeeds v messages) := by
  unfold llmRequestNeeds
  rw [List.append_assoc]
  apply Needs.bind (Needs.mapM needs_toolName _)
  intro tools
  apply Needs.bind (needs_textOf _)
  intro model
  obtain ⟨options, hoptions⟩ := Option.isSome_iff_exists.mp (isSome_requestOptions v)
  show Needs _ ((memberTexts (requestOptions v)).bind _) _
  rw [hoptions]
  exact (Needs.mapM needs_messageLines messages).bind_some fun _ ↦ rfl

private theorem needs_llmResponse (v : Json) (choices : List Json) :
    Needs Need.Met (llmResponse v choices) (llmResponseNeeds v choices) := by
  unfold llmResponseNeeds
  simp only [List.append_assoc]
  apply Needs.bind (needs_textOf _)
  intro model
  apply Needs.bind (needs_textOf _)
  intro finish
  apply Needs.bind (needs_textOf _)
  intro prompt
  apply Needs.bind (needs_textOf _)
  intro completion
  apply Needs.bind (needs_messageText _)
  intro text
  exact (needs_toolCalls _).bind_some fun _ ↦ rfl

private theorem needs_summarizeJson (v : Json) (url : String) :
    Needs Need.Met (summarizeJson host v url) (summaryNeeds v url) := by
  cases v with
  | obj members =>
    simp only [summarizeJson, summaryNeeds]
    split
    · exact (needs_claimValues _).map _
    · cases items? ((Json.obj members).get? "messages") with
      | some messages => exact needs_llmRequest _ messages
      | none =>
        cases items? ((Json.obj members).get? "choices") with
        | some choices => exact needs_llmResponse _ choices
        | none => exact Needs.of_some _
  | arr items => exact Needs.of_some _
  | null => exact Needs.of_some _
  | bool b => exact Needs.of_some _
  | num n => exact Needs.of_some _
  | str s => exact Needs.of_some _

private theorem needs_sseLines (line : String) :
    Needs Need.Met (sseLines host line) ((sseData host line).elim [] (summaryNeeds · "")) := by
  unfold sseLines
  cases sseData host line with
  | none => exact Needs.of_some _
  | some data => exact (needs_summarizeJson data "").map _

private theorem needs_renderSse (body : String) :
    Needs Need.Met (renderSse host body) (sseNeeds host body) :=
  (Needs.mapM needs_sseLines _).map _

/-- A body is shown exactly when what its kind needs is met. -/
theorem isSome_renderBody_iff {mode : WireMode} {maxBody : Nat} {body : String}
    {ct : Option String} {url : String} :
    (renderBody host mode maxBody body ct url).isSome = true ↔
      ∀ n ∈ bodyNeeds host mode body ct url, n.Met := by
  have hlines : Needs Need.Met (bodyLines host mode body ct url)
      (bodyNeeds host mode body ct url) := by
    unfold bodyLines bodyNeeds
    cases bodyKind host mode body ct with
    | form => exact Needs.of_some _
    | events => exact needs_renderSse body
    | json v =>
      cases mode with
      | full => exact Needs.of_some _
      | pretty => exact needs_summarizeJson v url
    | text => exact Needs.of_some _
  exact hlines.map _

private theorem needs_calledTool (method : String) (params : Json) :
    Needs Need.Met (calledTool host method params)
      (if method = "tools/call" then texts (params.get? "name").toList else []) := by
  by_cases hcall : method = "tools/call"
  · rw [calledTool, if_pos hcall, if_pos hcall]
    exact (needs_textOf _).map _
  · rw [calledTool, if_neg hcall, if_neg hcall]
    exact Needs.of_some _

/-- A headline is there exactly when a tool that is called has a name that is a text. -/
theorem isSome_headline_iff {r : WireRecord} :
    (headline host r).isSome = true ↔ ∀ n ∈ headlineNeeds host r, n.Met := by
  have hline : Needs Need.Met (headline host r) (headlineNeeds host r) := by
    unfold headline headlineNeeds
    cases callKind host r with
    | mcp method params => exact (needs_calledTool method params).map _
    | form text => exact Needs.of_some _
    | protectedResource => exact Needs.of_some _
    | asMetadata => exact Needs.of_some _
    | chat messages tools => exact Needs.of_some _
    | a2a method params => exact Needs.of_some _
    | other => exact Needs.of_some _
  exact hline

end Needs

/-- A token that is referred to where it comes rather than expanded. -/
def Recorded (mode : WireMode) (seq : Option Nat) (seen : Option Tokens) (jwt : String) : Prop :=
  mode = .pretty ∧ ∃ n tokens, seq = some n ∧ seen = some tokens ∧ (tokens.get? jwt).isSome = true

section Steps

variable {rendering : Rendering} {mode : WireMode} {r : WireRecord} {seq : Option Nat}
  {seen : Option Tokens} {jwt : String} {jwts : List String}

private theorem mem_expanded_iff {line : Line} :
    jwt ∈ expanded line ↔ .fresh jwt ∈ line.filterMap Part.mark? := by
  induction line with
  | nil => simp [expanded]
  | cons part line ih =>
    unfold expanded at ih ⊢
    cases part with
    | text s => simpa [Part.mark?] using ih
    | token mark =>
      cases mark with
      | fresh k => simpa [Part.mark?] using or_congr_right ih
      | same k first => simpa [Part.mark?] using ih

private theorem recorded_some_iff {n : Nat} {tokens : Tokens} :
    Recorded mode (some n) (some tokens) jwt ↔
      mode = .pretty ∧ (tokens.get? jwt).isSome = true := by
  constructor
  · rintro ⟨hmode, n', tokens', hn, htokens, hget⟩
    cases hn
    cases htokens
    exact ⟨hmode, hget⟩
  · rintro ⟨hmode, hget⟩
    exact ⟨hmode, n, tokens, rfl, rfl, hget⟩

/-- Tokens in a row are expanded unless they are recorded. -/
private theorem fresh_mem_markTokens_iff :
    .fresh jwt ∈ (markTokens seq seen jwts).1 ↔
      jwt ∈ jwts ∧ ¬Recorded .pretty seq seen jwt := by
  cases seq with
  | none => simp [markTokens, Recorded]
  | some n =>
    cases seen with
    | none => simp [markTokens, Recorded]
    | some tokens => simp [markTokens, Mark.fresh_mem_markAll_iff, recorded_some_iff]

/-- What is recorded after a row of tokens was so before or is in the row. -/
private theorem recorded_markTokens_iff :
    Recorded .pretty seq (markTokens seq seen jwts).2 jwt ↔
      Recorded .pretty seq seen jwt ∨ seq.isSome = true ∧ seen.isSome = true ∧ jwt ∈ jwts := by
  cases seq with
  | none => simp [Recorded]
  | some n =>
    cases seen with
    | none => simp [markTokens, Recorded]
    | some tokens =>
      simp only [markTokens, recorded_some_iff, Mark.get?_markAll, Option.isSome_or,
        Bool.or_eq_true]
      simp

private theorem pushLine_pretty_snd {line : String} :
    (pushLine rendering .pretty r seen line).2 =
      (markTokens r.number seen (matchAll jwtRe line)).2 := by
  have hspec := @markPieces_spec r.number seen (pieces jwtRe line)
  rw [map_filterMap_pieces] at hspec
  exact hspec.2

/-- A line is pushed exactly when the tokens that it expands can be. -/
private theorem isSome_pushLine_iff {line : String} :
    (pushLine rendering mode r seen line).1.isSome = true ↔
      ∀ jwt ∈ matchAll jwtRe line, ¬Recorded mode r.number seen jwt →
        (rendering.jwtLines jwt r.sentAt).isSome = true := by
  cases mode with
  | full =>
    simp only [pushLine, Option.isSome_map, isSome_mapM_iff]
    simp [Recorded]
  | pretty =>
    have hspec := @markPieces_spec r.number seen (pieces jwtRe line)
    rw [map_filterMap_pieces] at hspec
    simp only [pushLine, Option.isSome_map, isSome_mapM_iff, mem_expanded_iff, hspec.1,
      fresh_mem_markTokens_iff]
    simp only [and_imp]

/-- A token recorded after a line was recorded before or stands in the line. -/
private theorem recorded_of_pushLine {line : String}
    (h : Recorded mode r.number (pushLine rendering mode r seen line).2 jwt) :
    Recorded mode r.number seen jwt ∨ jwt ∈ matchAll jwtRe line := by
  obtain rfl := h.1
  rw [pushLine_pretty_snd, recorded_markTokens_iff] at h
  exact h.imp_right fun hnew ↦ hnew.2.2

private theorem Recorded.pushLine {line : String} (h : Recorded mode r.number seen jwt) :
    Recorded mode r.number (Otel.pushLine rendering mode r seen line).2 jwt := by
  obtain rfl := h.1
  rw [pushLine_pretty_snd, recorded_markTokens_iff]
  exact Or.inl h

private theorem isSome_runSteps_push {line : String} {steps : List Step} :
    (runSteps rendering mode r seen (.push line :: steps)).1.isSome = true ↔
      (pushLine rendering mode r seen line).1.isSome = true ∧
        (runSteps rendering mode r (pushLine rendering mode r seen line).2 steps).1.isSome =
          true := by
  rw [runSteps]
  split
  · next hpush => simp [hpush]
  · next hpush => simp [hpush]

/-- The steps go through exactly when none throws and each token that is expanded can be. -/
theorem isSome_runSteps_iff {steps : List Step} :
    (runSteps rendering mode r seen steps).1.isSome = true ↔
      .throws ∉ steps ∧ ∀ jwt ∈ reachedTokens steps, ¬Recorded mode r.number seen jwt →
        (rendering.jwtLines jwt r.sentAt).isSome = true := by
  induction steps generalizing seen with
  | nil => simp [runSteps, reachedTokens]
  | cons step steps ih =>
    cases step with
    | throws => simp [runSteps]
    | plain line =>
      simp only [runSteps, Option.isSome_map, reachedTokens, ih]
      simp
    | push line =>
      rw [isSome_runSteps_push, isSome_pushLine_iff, ih, reachedTokens, List.mem_cons, not_or]
      constructor
      · rintro ⟨hline, hthrows, hrest⟩
        refine ⟨⟨by simp, hthrows⟩, ?_⟩
        intro jwt hjwt hrecorded
        rcases List.mem_append.mp hjwt with hjwt | hjwt
        · exact hline jwt hjwt hrecorded
        · by_cases hnow : Recorded mode r.number (pushLine rendering mode r seen line).2 jwt
          · exact hline jwt ((recorded_of_pushLine hnow).resolve_left hrecorded) hrecorded
          · exact hrest jwt hjwt hnow
      · rintro ⟨⟨-, hthrows⟩, hall⟩
        refine ⟨fun jwt hjwt ↦ hall jwt (List.mem_append_left _ hjwt), hthrows, ?_⟩
        intro jwt hjwt hrecorded
        exact hall jwt (List.mem_append_right _ hjwt) fun hbefore ↦ hrecorded hbefore.pushLine

private theorem throws_not_mem_headerSteps (headers : Headers) :
    .throws ∉ headerSteps headers := by
  rw [headerSteps, List.mem_map]
  rintro ⟨header, -, hstep⟩
  cases hstep

private theorem throws_not_mem_bodySteps_iff {body url : String} {headers : Headers} :
    .throws ∉ bodySteps rendering body headers url ↔
      (rendering.renderBody body (contentType headers) url).isSome = true := by
  unfold bodySteps
  cases rendering.renderBody body (contentType headers) url with
  | none => simp
  | some lines => simp

private theorem throws_not_mem_responseSteps_iff :
    .throws ∉ responseSteps rendering mode r ↔
      (present r.error = none → ∀ body, r.responseBody.filter (trim · ≠ "") = some body →
        (rendering.renderBody body (contentType (r.responseHeaders.getD [])) r.url).isSome =
          true) := by
  unfold responseSteps
  cases present r.error with
  | some error => simp
  | none =>
    simp only [List.mem_cons, List.mem_append, not_or, throws_not_mem_headerSteps]
    cases r.responseBody.filter (trim · ≠ "") with
    | none => simp
    | some body => simp [throws_not_mem_bodySteps_iff]

/-- No step throws exactly when there is a headline and each body that is shown. -/
theorem throws_not_mem_formatSteps_iff :
    .throws ∉ formatSteps rendering mode r ↔
      (rendering.headline r).isSome = true ∧
      (∀ body, present r.requestBody = some body →
        (rendering.renderBody body (contentType r.requestHeaders) r.url).isSome = true) ∧
      (present r.error = none → ∀ body, r.responseBody.filter (trim · ≠ "") = some body →
        (rendering.renderBody body (contentType (r.responseHeaders.getD [])) r.url).isSome =
          true) := by
  unfold formatSteps
  cases rendering.headline r with
  | none => simp
  | some headline =>
    simp only [List.mem_append, not_or, throws_not_mem_responseSteps_iff,
      throws_not_mem_headerSteps, not_false_eq_true, Option.isSome_some, true_and, and_true]
    cases hbody : present r.requestBody with
    | none => cases present r.traceId <;> simp
    | some body => cases present r.traceId <;> simp [throws_not_mem_bodySteps_iff]

end Steps

/-- All that the block of a record needs is met: the name in its headline, in pretty mode its
bodies, and in pretty mode the tokens that it is the first of its trace to show. -/
structure Showable (host : Host) (mode : WireMode) (maxBody : Nat) (r : WireRecord)
    (seen : Option Tokens) : Prop where
  headline : ∀ n ∈ headlineNeeds host r, n.Met
  requestBody : ∀ body, present r.requestBody = some body →
    ∀ n ∈ bodyNeeds host mode body (contentType r.requestHeaders) r.url, n.Met
  responseBody : present r.error = none → ∀ body, r.responseBody.filter (trim · ≠ "") = some body →
    ∀ n ∈ bodyNeeds host mode body (contentType (r.responseHeaders.getD [])) r.url, n.Met
  tokens : mode = .pretty →
    ∀ jwt ∈ reachedTokens (formatSteps (rendering host mode maxBody) mode r),
      ¬Recorded mode r.number seen jwt → ∀ d, decodeJwt host jwt = some d →
        ∀ n ∈ tokenNeeds d, n.Met

/-- The call is shown when it completes and its block can be written. -/
def Shown (opts : WireLogOptions) (es : List Event) (call : Nat) (requestBody : Option String)
    (ms : Int) (outcome : Outcome) (r : WireRecord) : Prop :=
  ∃ b : Block, b.record = r ∧
    ((wrapFetch opts).run (es ++ [.complete call requestBody ms outcome true])).written =
      ((wrapFetch opts).run es).written ++ [b]

section Total

variable {host : Host} {mode : WireMode} {maxBody : Nat} {r : WireRecord} {seen : Option Tokens}

/-- The formatter returns a block exactly when all that it needs is met. -/
theorem isSome_formatWireLog_iff :
    (formatWireLog (rendering host mode maxBody) mode r seen).1.isSome = true ↔
      Showable host mode maxBody r seen := by
  rw [formatWireLog, isSome_runSteps_iff, throws_not_mem_formatSteps_iff]
  have htokens (jwt : String) : (jwtLines host mode jwt r.sentAt).isSome = true ↔
      (mode = .pretty → ∀ d, decodeJwt host jwt = some d → ∀ n ∈ tokenNeeds d, n.Met) := by
    cases mode with
    | full => simp [isSome_jwtLines_full]
    | pretty => simp [isSome_jwtLines_iff]
  constructor
  · rintro ⟨⟨hheadline, hrequest, hresponse⟩, hall⟩
    constructor
    · exact isSome_headline_iff.mp hheadline
    · exact fun body hbody ↦ isSome_renderBody_iff.mp (hrequest body hbody)
    · exact fun herror body hbody ↦ isSome_renderBody_iff.mp (hresponse herror body hbody)
    · exact fun hmode jwt hjwt hrecorded ↦ (htokens jwt).mp (hall jwt hjwt hrecorded) hmode
  · intro h
    refine ⟨⟨isSome_headline_iff.mpr h.headline, ?_, ?_⟩, ?_⟩
    · exact fun body hbody ↦ isSome_renderBody_iff.mpr (h.requestBody body hbody)
    · exact fun herror body hbody ↦ isSome_renderBody_iff.mpr (h.responseBody herror body hbody)
    · exact fun jwt hjwt hrecorded ↦ (htokens jwt).mpr fun hmode ↦ h.tokens hmode jwt hjwt hrecorded

/-- A call that completes is shown exactly when its block is formatted. -/
private theorem shown_iff {opts : WireLogOptions} {es : List Event} {call : Nat}
    {requestBody : Option String} {ms : Int} {outcome : Outcome} {base : WireRecord}
    (hbase : ((wrapFetch opts).run es).calls[call]? = some base)
    (hcall : call ∉ ((wrapFetch opts).run es).emitted) :
    Shown opts es call requestBody ms outcome (completeRecord base requestBody ms outcome) ↔
      (formatWireLog opts.rendering opts.mode (completeRecord base requestBody ms outcome)
        (seenTokens ((wrapFetch opts).run es).traces
          (completeRecord base requestBody ms outcome))).1.isSome = true := by
  have hstep : step opts ((wrapFetch opts).run es) (.complete call requestBody ms outcome true) =
      emit opts
        { (wrapFetch opts).run es with emitted := call :: ((wrapFetch opts).run es).emitted }
        (completeRecord base requestBody ms outcome) true := by
    simp only [step, hbase, if_neg hcall]
  rw [Shown, Machine.run_concat]
  show (∃ b : Block, b.record = _ ∧ (step opts _ _).written = _) ↔ _
  rw [hstep]
  simp only [emit, if_true]
  cases (formatWireLog opts.rendering opts.mode (completeRecord base requestBody ms outcome)
    (seenTokens ((wrapFetch opts).run es).traces
      (completeRecord base requestBody ms outcome))).1 with
  | none => simp
  | some lines =>
    exact iff_of_true ⟨⟨_, lines⟩, rfl, rfl⟩ rfl

end Total

/-- The formatter returns a block of a record, and a call that completes is shown, exactly when what
the block needs is met. -/
theorem formatWireLog_total_iff (host : Host) (mode : WireMode) (maxBody : Nat) :
    (∀ r seen, (formatWireLog (rendering host mode maxBody) mode r seen).1.isSome = true ↔
      Showable host mode maxBody r seen) ∧
    ∀ service es call requestBody ms outcome base,
      ((wrapFetch ⟨service, mode, rendering host mode maxBody⟩).run es).calls[call]? = some base →
      call ∉ ((wrapFetch ⟨service, mode, rendering host mode maxBody⟩).run es).emitted →
      (Shown ⟨service, mode, rendering host mode maxBody⟩ es call requestBody ms outcome
          (completeRecord base requestBody ms outcome) ↔
        Showable host mode maxBody (completeRecord base requestBody ms outcome)
          (seenTokens ((wrapFetch ⟨service, mode, rendering host mode maxBody⟩).run es).traces
            (completeRecord base requestBody ms outcome))) := by
  constructor
  · intro r seen
    exact isSome_formatWireLog_iff
  · intro service es call requestBody ms outcome base hbase hcall
    rw [shown_iff hbase hcall]
    exact isSome_formatWireLog_iff

section Sample

private def lateToken : String := "eyJhbGciOiJSUzI1NiJ9.eyJleHAiOjE3NjcyMjU2MDAwMDAwMDB9.sig"

private def lateHeader : String := "\x7b\"alg\":\"RS256\"\x7d"

private def latePayload : String := "\x7b\"exp\":1767225600000000\x7d"

private def namelessCall : String :=
  "\x7b\"jsonrpc\":\"2.0\",\"method\":\"tools/call\"," ++
    "\"params\":\x7b\"name\":\x7b\"toString\":1\x7d\x7d\x7d"

private def wireHost : Host where
  parseJson s :=
    if s = lateHeader then some (.obj [("alg", .str "RS256")])
    else if s = latePayload then
      some (.obj [("exp", .num ⟨1767225600000000, "1767225600000000"⟩)])
    else if s = namelessCall then
      some (.obj [("jsonrpc", .str "2.0"), ("method", .str "tools/call"),
        ("params", .obj [("name", .obj [("toString", .num ⟨1, "1"⟩)])])])
    else none
  stringify v := if (v.get? "alg").isSome then lateHeader else latePayload
  stringifyIndented _ := latePayload
  parseUrl s := if s = "http://x/mcp" then some ("/mcp", "") else none
  searchParams _ := []
  fromBase64url s := if s = "eyJhbGciOiJSUzI1NiJ9" then lateHeader else latePayload
  parseDate s := if s = "2026-01-01T00:00:00.000Z" then some 1767225600 else none
  timeOfDay _ := "00:00:00"
  roundedDifference a b := (a - b + 1 / 2).floor
  sha256 _ := ""

private def wireRequest (requestHeaders : Headers) : Request where
  sentAt := "2026-01-01T00:00:00.000Z"
  traceId := some "t4"
  spanId := some "s"
  method := "POST"
  url := "http://x/mcp"
  requestHeaders := requestHeaders

private def wireRecord (requestHeaders : Headers) (requestBody : Option String) : WireRecord :=
  completeRecord (baseRecord "agent-copilot" (wireRequest requestHeaders) (some 1)) requestBody 1
    (.response 200 "OK" [] "")

private def lateRecord : WireRecord := wireRecord [("authorization", "Bearer " ++ lateToken)] none

private def namelessRecord : WireRecord :=
  wireRecord [("mcp-protocol-version", "2026-07-28")] (some namelessCall)

private theorem late_shown_in_full : Showable wireHost .full 6000 lateRecord (some .empty) := by
  have hheadline : headlineNeeds wireHost lateRecord = [] := by rfl
  constructor
  · rw [hheadline]
    intro n hn
    cases hn
  · intro body hbody
    cases hbody
  · intro _ body hbody
    have hblank : lateRecord.responseBody.filter (trim · ≠ "") = none := by rfl
    rw [hblank] at hbody
    cases hbody
  · intro hmode
    cases hmode

/-- In full mode a call with a token is shown whenever the token expires. -/
theorem formatWireLog_total_iff_sample :
    Shown ⟨"agent-copilot", .full, rendering wireHost .full 6000⟩
      [.send (wireRequest [("authorization", "Bearer " ++ lateToken)])] 0 none 1
      (.response 200 "OK" [] "") lateRecord :=
  ((formatWireLog_total_iff wireHost .full 6000).2 "agent-copilot"
    [.send (wireRequest [("authorization", "Bearer " ++ lateToken)])] 0 none 1
    (.response 200 "OK" [] "")
    (baseRecord "agent-copilot" (wireRequest [("authorization", "Bearer " ++ lateToken)]) (some 1))
    rfl (List.not_mem_nil)).mpr late_shown_in_full

/-- A token that expires in microseconds has no time of day, and an object with a member
`toString` no text: the blocks are lost, the second one in full mode too. -/
theorem blocks_lost :
    (¬ ∀ host maxBody r seen,
      (formatWireLog (rendering host .pretty maxBody) .pretty r seen).1.isSome = true) ∧
    ¬ ∀ host maxBody r seen,
      (formatWireLog (rendering host .full maxBody) .full r seen).1.isSome = true := by
  constructor
  · intro h
    have hshowable := isSome_formatWireLog_iff.mp (h wireHost 6000 lateRecord none)
    have htoken : reachedTokens (formatSteps (rendering wireHost .pretty 6000) .pretty lateRecord) =
        [lateToken] := by rfl
    have hdecode : decodeJwt wireHost lateToken = some ⟨.obj [("alg", .str "RS256")],
        .obj [("exp", .num ⟨1767225600000000, "1767225600000000"⟩)]⟩ := by rfl
    have htime : isTime 1767225600000000 = true := by
      apply hshowable.tokens rfl lateToken _ _ _ hdecode (.time 1767225600000000)
      · exact List.mem_singleton_self _
      · rw [htoken]
        exact List.mem_singleton_self _
      · rintro ⟨-, n, tokens, -, hseen, -⟩
        cases hseen
    rw [isTime, decide_eq_true_eq] at htime
    norm_num at htime
  · intro h
    have hshowable := isSome_formatWireLog_iff.mp (h wireHost 6000 namelessRecord none)
    have hneeds : headlineNeeds wireHost namelessRecord =
        [.text (.obj [("toString", .num ⟨1, "1"⟩)])] := by rfl
    have hname := hshowable.headline
    rw [hneeds] at hname
    exact absurd (hname _ (List.mem_singleton_self _)) (by decide)

end Sample

end AgentsAuth.Otel
