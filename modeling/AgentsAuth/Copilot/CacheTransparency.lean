import AgentsAuth.Copilot.Exchanges
import AgentsAuth.Curity.TokenExchange

/-!
# Is the exchange cache transparent?

An uncached exchange grants requested ∩ subject ∩ policy. The cache key names the user,
the audience, the requested scope and the `acr`, but not the subject token, so whether a
cached exchange grants the same depends on the requests that share an entry.
-/

namespace AgentsAuth.Copilot

open AgentsAuth.Agents AgentsAuth.AuthCurity AgentsAuth.Base AgentsAuth.Curity AgentsAuth.Lib

/-- Two scope lists name the same scopes. -/
def SameScopes (granted expected : List String) : Prop :=
  granted ⊆ expected ∧ expected ⊆ granted

/-- The scopes that a token carries. -/
def scopesOf (decodeJwt : String → Option Claims) (token : String) : List String :=
  (decodeJwt token).elim [] parseScopes

/-- The scopes that the policy of a client allows for an audience. -/
def policyScopes (clientId audience : String) : List String :=
  (policyEdges.filter fun e ↦ e.clientId = clientId ∧ e.audience = audience).flatMap (·.scopes)

/-- What an exchange asks for: the words of its `scope`, or all the subject has. -/
def requestedScopes (subject : List String) (scope : String) : List String :=
  match words scope with
  | [] => subject
  | requested => requested

/-- requested ∩ subject ∩ policy for the exchange that a call makes when nothing is cached. -/
def uncachedGrant (decodeJwt : String → Option Claims) (call : ObtainCall Helper ExchangeSlot) :
    List String :=
  let subject := scopesOf decodeJwt call.subjectToken
  (requestedScopes subject call.scope).filter fun s ↦
    subject.contains s && (policyScopes call.clientId call.audience).contains s

/-- Curity refuses an empty grant and issues every other one as it is. -/
def GrantsIntersection (cfg : Config) (decodeJwt : String → Option Claims)
    (es : List (Nat × ObtainEvent CopilotRequest)) : Prop :=
  ∀ req params result, .minted req params result ∈ shown (copilot cfg decodeJwt) es →
    uncachedGrant decodeJwt ((copilot cfg decodeJwt).callOf req) ≠ [] ∧
    SameScopes (scopesOf decodeJwt result.accessToken)
      (uncachedGrant decodeJwt ((copilot cfg decodeJwt).callOf req))

/-- Every token that the run returns carries what an uncached exchange would have granted. -/
def Transparent (cfg : Config) (decodeJwt : String → Option Claims)
    (es : List (Nat × ObtainEvent CopilotRequest)) : Prop :=
  ∀ req accessToken, .returned req accessToken ∈ shown (copilot cfg decodeJwt) es →
    SameScopes (scopesOf decodeJwt accessToken)
      (uncachedGrant decodeJwt ((copilot cfg decodeJwt).callOf req))

/-- Requests that share a cache entry are granted the same. -/
def Coherent (cfg : Config) (decodeJwt : String → Option Claims) (Q : CopilotRequest → Prop) :
    Prop :=
  ∀ a b, Q a → Q b →
    SharesEntry ((copilot cfg decodeJwt).callOf a) ((copilot cfg decodeJwt).callOf b) →
    uncachedGrant decodeJwt ((copilot cfg decodeJwt).callOf a) ≠ [] →
    SameScopes (uncachedGrant decodeJwt ((copilot cfg decodeJwt).callOf a))
      (uncachedGrant decodeJwt ((copilot cfg decodeJwt).callOf b))

section SameScopes

variable {a b c : List String}

/-- Every list names its own scopes. -/
theorem SameScopes.refl (a : List String) : SameScopes a a :=
  ⟨List.Subset.refl a, List.Subset.refl a⟩

/-- Two lists may be compared in either order. -/
theorem SameScopes.symm (h : SameScopes a b) : SameScopes b a := ⟨h.2, h.1⟩

/-- Lists may be compared by way of a third one. -/
theorem SameScopes.trans (h : SameScopes a b) (h' : SameScopes b c) : SameScopes a c :=
  ⟨List.Subset.trans h.1 h'.1, List.Subset.trans h'.2 h.2⟩

/-- Comparing scopes is decided by looking at both lists. -/
instance : Decidable (SameScopes a b) := inferInstanceAs (Decidable (_ ∧ _))

end SameScopes

section Procedure

end Procedure

section Transparency

variable {cfg : Config} {decodeJwt : String → Option Claims}
  {es : List (Nat × ObtainEvent CopilotRequest)}

/-- A run whose requests are coherent is transparent. -/
theorem transparent_of_coherent (hcurity : GrantsIntersection cfg decodeJwt es)
    (hcoherent : Coherent cfg decodeJwt (· ∈ requests es)) : Transparent cfg decodeJwt es := by
  intro req accessToken hreturned
  have horigin : Origin (copilot cfg decodeJwt) es req accessToken :=
    observationSound_of_shown hreturned
  rcases horigin with ⟨hreq, req', params, result, hminted, rfl, hsame⟩
  have hminter := observationSound_of_shown hminted
  have hgranted := hcurity req' params result hminted
  rcases hsame with rfl | ⟨-, hshares⟩
  · exact hgranted.2
  · apply hgranted.2.trans
    exact hcoherent req' req hminter.1 hreq hshares hgranted.1

/-- Everything a call of the copilot waits for is there. -/
private def ready : Preparation := ⟨some "e30.copilot.sig", .ok "copilot-1", .ok "https://curity"⟩

private theorem exchangeParams_ready (req : CopilotRequest) :
    ∃ params, ((copilot cfg decodeJwt).callOf req).exchangeParams ready = .ok params := by
  cases req <;> exact ⟨_, rfl⟩

variable {a b : CopilotRequest}

private theorem grantsIntersection_twoRequests (result : ExchangeTokenResult)
    (httl : 0 < cfg.exchangeCacheTtlMs)
    (hshares : SharesEntry ((copilot cfg decodeJwt).callOf a) ((copilot cfg decodeJwt).callOf b))
    (hne : uncachedGrant decodeJwt ((copilot cfg decodeJwt).callOf a) ≠ [])
    (hissued : SameScopes (scopesOf decodeJwt result.accessToken)
      (uncachedGrant decodeJwt ((copilot cfg decodeJwt).callOf a))) :
    GrantsIntersection cfg decodeJwt (twoRequests a b ready result) := by
  obtain ⟨params, hparams⟩ := exchangeParams_ready a
  intro req params' result' hminted
  rw [shown_twoRequests result httl hshares hparams, List.mem_cons, List.mem_append] at hminted
  rcases hminted with hfirst | ha | hb
  · cases hfirst
    exact ⟨hne, hissued⟩
  · rcases mem_finishShown ha with h | h <;> cases h
  · rcases mem_finishShown hb with h | h <;> cases h

private theorem returned_twoRequests (result : ExchangeTokenResult)
    (httl : 0 < cfg.exchangeCacheTtlMs)
    (hshares : SharesEntry ((copilot cfg decodeJwt).callOf a) ((copilot cfg decodeJwt).callOf b)) :
    .returned b result.accessToken ∈
      shown (copilot cfg decodeJwt) (twoRequests a b ready result) := by
  obtain ⟨params, hparams⟩ := exchangeParams_ready a
  rw [shown_twoRequests result httl hshares hparams]
  apply List.mem_cons_of_mem
  apply List.mem_append_right
  exact returned_mem_finishShown ..

/-- With a positive cache time, every interleaving of requests from `Q` is transparent just when
no two of them share a cache entry and differ in what an uncached exchange grants. -/
theorem cache_transparent_iff {Q : CopilotRequest → Prop} (httl : 0 < cfg.exchangeCacheTtlMs)
    (hmint : ∀ req, Q req → uncachedGrant decodeJwt ((copilot cfg decodeJwt).callOf req) ≠ [] →
      ∃ accessToken, SameScopes (scopesOf decodeJwt accessToken)
        (uncachedGrant decodeJwt ((copilot cfg decodeJwt).callOf req))) :
    (∀ es, (∀ req ∈ requests es, Q req) → GrantsIntersection cfg decodeJwt es →
      Transparent cfg decodeJwt es) ↔ Coherent cfg decodeJwt Q := by
  constructor
  · intro htransparent a b ha hb hshares hne
    obtain ⟨accessToken, hissued⟩ := hmint a ha hne
    let result : ExchangeTokenResult := ⟨accessToken, "bearer", 300, "", ""⟩
    have hcurity := grantsIntersection_twoRequests result httl hshares hne hissued
    have hrequests : ∀ req ∈ requests (twoRequests a b ready result), Q req := by
      intro req hreq
      have hpair : req ∈ [a, b] := hreq
      rw [List.mem_cons, List.mem_singleton] at hpair
      rcases hpair with rfl | rfl
      · exact ha
      · exact hb
    have hserved := htransparent _ hrequests hcurity b accessToken
      (returned_twoRequests result httl hshares)
    exact hissued.symm.trans hserved
  · intro hcoherent es hQ hcurity
    apply transparent_of_coherent hcurity
    intro a b ha hb
    exact hcoherent a b (hQ a ha) (hQ b hb)

end Transparency

section Sample

private def loginClaims (jti scope : String) : Claims
  | "sub" => some (.str "alice")
  | "jti" => some (.str jti)
  | "acr" => some (.str "mfa")
  | "scope" => some (.str scope)
  | _ => none

/-- Two logins of one user with `acr` `mfa`, the second for fewer scopes, and what the copilot
obtains for either. -/
private def sampleDecode (token : String) : Option Claims :=
  [("e30.login-full.sig", loginClaims "j1" "openid inspect:read ops:write llm:invoke"),
    ("e30.login-read.sig", loginClaims "j2" "openid inspect:read llm:invoke"),
    ("e30.full.sig", loginClaims "j3" "inspect:read ops:write llm:invoke"),
    ("e30.read.sig", loginClaims "j4" "inspect:read llm:invoke")].lookup token

private def sampleRequest (token : String) : CopilotRequest :=
  .specialist (chatOpts ⟨⟨(sampleDecode token).getD fun _ ↦ none, []⟩, token⟩)

private def sampleResult (token : String) : ExchangeTokenResult :=
  ⟨token, "bearer", 300, (" ".intercalate (scopesOf sampleDecode token)), "access_token"⟩

/-- Two requests of one session share what they are granted. -/
theorem cache_transparent_iff_sample :
    Transparent sampleConfig sampleDecode (twoRequests (sampleRequest "e30.login-full.sig")
      (sampleRequest "e30.login-full.sig") ready (sampleResult "e30.full.sig")) := by
  have hshares : SharesEntry
      ((copilot sampleConfig sampleDecode).callOf (sampleRequest "e30.login-full.sig"))
      ((copilot sampleConfig sampleDecode).callOf (sampleRequest "e30.login-full.sig")) :=
    ⟨rfl, rfl, rfl, rfl⟩
  have hcoherent : Coherent sampleConfig sampleDecode (· = sampleRequest "e30.login-full.sig") := by
    rintro a b rfl rfl - -
    exact SameScopes.refl _
  apply (cache_transparent_iff (by decide) ?_).mpr hcoherent
  · intro req hreq
    have hpair : req ∈ [sampleRequest "e30.login-full.sig", sampleRequest "e30.login-full.sig"] :=
      hreq
    simpa using hpair
  · exact grantsIntersection_twoRequests _ (by decide) hshares (by decide) (by decide)
  · rintro req rfl -
    exact ⟨"e30.full.sig", by decide⟩

/-- A session of fewer scopes is handed `ops:write` from the cache, and a session that has
`ops:write` is handed a token without it. -/
theorem cache_lends_and_starves :
    (¬ ∀ es, GrantsIntersection sampleConfig sampleDecode es → ∀ req accessToken,
      .returned req accessToken ∈ shown (copilot sampleConfig sampleDecode) es →
      scopesOf sampleDecode accessToken ⊆
        uncachedGrant sampleDecode ((copilot sampleConfig sampleDecode).callOf req)) ∧
    ¬ ∀ es, GrantsIntersection sampleConfig sampleDecode es → ∀ req accessToken,
      .returned req accessToken ∈ shown (copilot sampleConfig sampleDecode) es →
      uncachedGrant sampleDecode ((copilot sampleConfig sampleDecode).callOf req) ⊆
        scopesOf sampleDecode accessToken := by
  have httl : 0 < sampleConfig.exchangeCacheTtlMs := by decide
  have hlend : SharesEntry
      ((copilot sampleConfig sampleDecode).callOf (sampleRequest "e30.login-full.sig"))
      ((copilot sampleConfig sampleDecode).callOf (sampleRequest "e30.login-read.sig")) :=
    ⟨rfl, by decide, rfl, rfl⟩
  have hstarve : SharesEntry
      ((copilot sampleConfig sampleDecode).callOf (sampleRequest "e30.login-read.sig"))
      ((copilot sampleConfig sampleDecode).callOf (sampleRequest "e30.login-full.sig")) :=
    ⟨rfl, by decide, rfl, rfl⟩
  constructor
  · intro h
    have hlent := h _
      (grantsIntersection_twoRequests (sampleResult "e30.full.sig") httl hlend (by decide)
        (by decide))
      _ _ (returned_twoRequests _ httl hlend)
    exact absurd hlent (by decide)
  · intro h
    have hstarved := h _
      (grantsIntersection_twoRequests (sampleResult "e30.read.sig") httl hstarve (by decide)
        (by decide))
      _ _ (returned_twoRequests _ httl hstarve)
    exact absurd hstarved (by decide)

end Sample
end AgentsAuth.Copilot
