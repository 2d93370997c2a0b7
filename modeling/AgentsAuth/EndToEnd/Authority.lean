import AgentsAuth.Curity.Delegability
import AgentsAuth.EndToEnd.WriteTools
import AgentsAuth.Gateway.LlmEgress

/-!
# Who can reach what

The login decides: with the consent, the authentication and the role that a resource takes there is
a way through all the exchanges to it, and without them there is none.
-/

namespace AgentsAuth.EndToEnd

open AgentsAuth.Api AgentsAuth.AuthCurity AgentsAuth.Base AgentsAuth.Curity AgentsAuth.Gateway
  AgentsAuth.Lib

/-- What tokens are good for in the end. -/
inductive Resource where
  | opsApi
  | inspectApi
  | llm

/-- How the resources verify tokens: `jose`, and the gateway's own verifier. -/
structure Verifiers where
  jose : Jose
  verify : String → String → Option Claims
  issuer : String
  jwksUri : String

namespace Verifiers

/-- Where the compact form of a token verifies, it is read as that token. -/
structure Sound (V : Verifiers) (t : TokenData) : Prop where
  jose : V.jose.SoundFor t
  gateway : ∀ audience claims, V.verify audience (V.jose.compact t) = some claims →
    claims = tokenClaims t ∧ audience ∈ t.aud
  trimmed : trim (V.jose.compact t) = V.jose.compact t

/-- Before it expires it verifies for its audiences. -/
structure Reads (V : Verifiers) (now : Int) (t : TokenData) : Prop extends V.Sound t where
  configured : V.jwksUri ≠ ""
  accepts : now < t.exp → ∀ opts : VerifyOptions, opts.issuer = V.issuer →
    opts.jwksUri = V.jwksUri → "RS256" ∈ opts.algorithms → opts.audience ∈ t.aud →
      V.jose.jwtVerify (V.jose.compact t) opts = .ok (tokenClaims t)
  passes : now < t.exp → ∀ audience ∈ t.aud,
    V.verify audience (V.jose.compact t) = some (tokenClaims t)

end Verifiers

namespace Resource

/-- The resource lets a request with the token pass. -/
def admits (V : Verifiers) (t : TokenData) : Resource → Prop
  | opsApi => ∃ caller, OpsApi.authMiddleware V.jose (OpsApi.loadConfig V.issuer V.jwksUri)
      (some ("Bearer " ++ V.jose.compact t)) = .next caller
  | inspectApi => ∃ caller, InspectApi.authMiddleware V.jose
      (InspectApi.loadConfig V.issuer V.jwksUri) (some ("Bearer " ++ V.jose.compact t)) =
        .next caller
  | llm => llmAdmits V.verify (some ("Bearer " ++ V.jose.compact t)) = true

/-- The scope that the resource takes. -/
def scope : Resource → String
  | opsApi => "ops:write"
  | inspectApi => "inspect:read"
  | llm => "llm:invoke"

/-- The audience of the resource. -/
def audience : Resource → String
  | opsApi => "ops-api"
  | inspectApi => "inspect-api"
  | llm => "llm-gateway"

/-- A way to the resource, newest exchange first. -/
def hops : Resource → List Hop
  | opsApi => opsHops
  | inspectApi => inspectHops
  | llm => [⟨copilotClient, some spiffeCopilot, ["llm-gateway"]⟩]

/-- The edges of that way. -/
def path (r : Resource) : List Edge :=
  r.hops.filterMap fun hop ↦ policyEdges.find? fun e ↦ e.hop = hop

/-- What the resource asks of the login: consent to its scope, and for changes MFA and a role. -/
structure Entitled (ctx : LoginContext) (r : Resource) : Prop where
  consent : r.scope ∈ (authorizationCodeToken ctx).subjectScopes
  mfa : r = opsApi → ctx.acr = some "mfa"
  role : r = opsApi → "sre" ∈ claimToArray ctx.roles ∨ "oncall" ∈ claimToArray ctx.roles

end Resource

section Authority

variable {C : Server} {V : Verifiers} {ctx : LoginContext} {r : Resource} {t : TokenData}
  {edges : List Edge} {now : Int}

private theorem hops_path (r : Resource) : r.path.map Edge.hop = r.hops := by
  cases r <;> decide

private theorem path_policy (r : Resource) :
    ∀ e ∈ r.path, e ∈ policyEdges ∧ r.scope ∈ e.scopes := by
  cases r <;> decide

private theorem path_isChain (r : Resource) :
    r.path.IsChain fun later earlier ↦ Delegation.MayAct earlier.mayAct later.actor := by
  cases r <;> decide

private theorem path_first (r : Resource) : ∀ e ∈ r.path.getLast?, e.actor = spiffeCopilot := by
  cases r <;> decide

private theorem audience_path (r : Resource) :
    r.path.head?.map Edge.audience = some r.audience := by
  cases r <;> decide

private theorem verifyJwt_of_reads {audience : String} (hreads : V.Reads now t)
    (hexp : now < t.exp) (haud : audience ∈ t.aud) :
    verifyJwt V.jose (V.jose.compact t) ⟨V.issuer, audience, some V.jwksUri, none, none⟩ =
      .ok ⟨tokenClaims t, parseScopes (tokenClaims t)⟩ := by
  have hfilter : (some V.jwksUri).filter (· ≠ "") = some V.jwksUri := by
    simp [hreads.configured]
  unfold verifyJwt
  simp only [hfilter, Option.getD_none]
  rw [hreads.accepts hexp _ rfl rfl (by simp) haud]

/-- The actors of a token are read off its `act`. -/
private theorem exists_act (hne : t.actors ≠ []) :
    ∃ top, actObject (tokenClaims t) = some top ∧ walkActChain top = t.actors := by
  have hclaim : tokenClaims t "act" = t.act := rfl
  rw [actObject, hclaim]
  unfold TokenData.actors at hne ⊢
  cases hact : t.act with
  | none => simp [hact] at hne
  | some top =>
    rw [hact] at hne
    cases top with
    | obj members => exact ⟨.obj members, rfl, rfl⟩
    | _ => exact absurd rfl hne

private theorem bearer_compact (hsound : V.Sound t) :
    bearerToken (some ("Bearer " ++ V.jose.compact t)) = some (V.jose.compact t) := by
  rw [bearerToken_bearer, hsound.trimmed]

/-- What has come the resource's way with its scope gets in. -/
private theorem admits_of_derivation (hd : Derivation (authorizationCodeToken ctx) r.path t)
    (hscope : r.scope ∈ t.subjectScopes) (hmfa : r = .opsApi → ctx.acr = some "mfa")
    (hexp : now < t.exp) (hreads : V.Reads now t) : r.admits V t := by
  have hne : r.path ≠ [] := by
    cases r <;> decide
  have haud : r.audience ∈ t.aud := by
    have haudience := audience_path r
    rw [hd.aud]
    cases hpath : r.path with
    | nil => exact absurd hpath hne
    | cons e edges =>
      rw [hpath] at haudience
      have heq : e.audience = r.audience := Option.some.inj haudience
      simp [heq]
  have hactors : t.actors = r.path.map Edge.actor := by
    have hlogin : (authorizationCodeToken ctx).actors = [] := rfl
    rw [hd.actors_eq, hlogin, List.append_nil]
  have hparsed : r.scope ∈ parseScopes (tokenClaims t) := by
    rwa [parseScopes_tokenClaims (fun s ↦ TokenData.isWord_of_mem_subjectScopes) (hd.scope hne)]
  obtain ⟨top, htop, hwalk⟩ := exists_act (t := t) (by simp [hactors, hne])
  have hwritable : ScopesWritable (tokenClaims t) := by
    intro items h
    cases h
  have hverify := verifyJwt_of_reads hreads hexp haud
  rw [hactors] at hwalk
  cases r with
  | opsApi =>
    have hacr : tokenClaims t "acr" = some (.str "mfa") := by
      show t.acr.map Json.str = _
      rw [hd.acr]
      show ctx.acr.map Json.str = _
      rw [hmfa rfl]
      rfl
    refine ⟨_, OpsApi.authMiddleware_next_iff.mpr ⟨_, bearer_compact hreads.toSound, hverify,
      hwritable, ?_, ⟨top, htop, ?_⟩, hacr⟩⟩
    · exact List.forall_mem_singleton.mpr hparsed
    · rw [hwalk]
      exact (OpsApi.chainMatches_iff (i := 0)).mpr ⟨rfl, rfl⟩
  | inspectApi =>
    refine ⟨_, InspectApi.authMiddleware_next_iff.mpr ⟨_, bearer_compact hreads.toSound, hverify,
      hwritable, ?_, top, htop, ?_⟩⟩
    · exact List.forall_mem_singleton.mpr hparsed
    · rw [hwalk]
      exact InspectApi.chainMatchesAny_iff.mp rfl
  | llm =>
    have hverified : V.verify "llm-gateway" (V.jose.compact t) = some (tokenClaims t) :=
      hreads.passes hexp _ haud
    rw [Resource.admits, llmAdmits, Option.bind_some, stripPrefix_append, hverified]
    exact (applies_hasScope_joined_iff (hd.someScope hne) (hd.scope hne)).mpr hscope

/-- A token with the audience of a resource is not the login's own. -/
private theorem edges_ne_nil (hd : Derivation (authorizationCodeToken ctx) edges t)
    (haud : r.audience ∈ t.aud) : edges ≠ [] := by
  rintro rfl
  rw [hd.aud] at haud
  have hother : r.audience ∉ ["agent-copilot"] := by
    cases r <;> decide
  exact hother haud

/-- A scope of a token that has been exchanged was consented to at the login. -/
private theorem consent_of_scope (hd : Derivation (authorizationCodeToken ctx) edges t)
    (hne : edges ≠ []) {s : String} (hs : s ∈ parseScopes (tokenClaims t)) :
    s ∈ t.subjectScopes ∧ s ∈ (authorizationCodeToken ctx).subjectScopes := by
  rw [parseScopes_tokenClaims (fun s ↦ TokenData.isWord_of_mem_subjectScopes) (hd.scope hne)] at hs
  exact ⟨hs, (hd.mem_scopes hs).1⟩

/-- What gets in comes from an entitled login. -/
private theorem entitled_of_admits (hd : Derivation (authorizationCodeToken ctx) edges t)
    (hsound : V.Sound t) (h : r.admits V t) : r.Entitled ctx := by
  cases r with
  | opsApi =>
    obtain ⟨caller, hnext⟩ := h
    obtain ⟨token, top, htoken, hverify, hscopes, -, -, hacr⟩ := OpsApi.authMiddleware_next hnext
    rw [bearer_compact hsound, Option.some.injEq] at htoken
    subst htoken
    obtain ⟨hpayload, haud, hparsed⟩ := verifyJwt_compact hsound.jose hverify
    have hne := edges_ne_nil (r := .opsApi) hd haud
    have hscope := hscopes "ops:write" (List.mem_singleton_self _)
    rw [hparsed] at hscope
    obtain ⟨hcarried, hconsent⟩ := consent_of_scope hd hne hscope
    refine ⟨hconsent, fun _ ↦ ?_, fun _ ↦ ?_⟩
    · rw [hpayload] at hacr
      have hjson : t.acr.map Json.str = some (.str "mfa") := hacr
      rw [hd.acr] at hjson
      obtain ⟨acr, hctx, heq⟩ := Option.map_eq_some_iff.mp hjson
      rw [Json.str.inj heq] at hctx
      exact hctx
    · have hrole := hd.writeRole hne hcarried
      simpa [TokenData.hasWriteRole, authorizationCodeToken] using hrole
  | inspectApi =>
    obtain ⟨caller, hnext⟩ := h
    obtain ⟨token, top, expected, htoken, hverify, hscopes, -⟩ :=
      InspectApi.authMiddleware_next hnext
    rw [bearer_compact hsound, Option.some.injEq] at htoken
    subst htoken
    obtain ⟨-, haud, hparsed⟩ := verifyJwt_compact hsound.jose hverify
    have hscope := hscopes "inspect:read" (List.mem_singleton_self _)
    rw [hparsed] at hscope
    have hne := edges_ne_nil (r := .inspectApi) hd haud
    exact ⟨(consent_of_scope hd hne hscope).2, by simp, by simp⟩
  | llm =>
    rw [Resource.admits, llmAdmits, Option.bind_some, stripPrefix_append] at h
    split at h
    · cases h
    · next claims hverify =>
      obtain ⟨rfl, haud⟩ := hsound.gateway _ _ hverify
      have hne := edges_ne_nil (r := .llm) hd haud
      have hscope : "llm:invoke" ∈ t.subjectScopes :=
        (applies_hasScope_joined_iff (hd.someScope hne) (hd.scope hne)).mp h
      exact ⟨(hd.mem_scopes hscope).1, by simp, by simp⟩

/-- From a login that has not expired, an entitled one, some continuation of the run leads to a
token that every sound and complete verifier at the resource lets in. From any other login, no
token that anybody obtains in any continuation is let in by any sound verifier. -/
theorem authority_exact {es : List MintEvent} {i : Nat} (hC : Authorizes C now)
    (hsvids : Attested C)
    (hlogin : ((minting C).run es).ledger[i]? = some ⟨authorizationCodeToken ctx, .login⟩)
    (hexp : now < ctx.exp) (r : Resource) :
    (r.Entitled ctx → ∃ es' j m, ((minting C).run (es ++ es')).ledger[j]? = some m ∧
      DerivedFrom ((minting C).run (es ++ es')).ledger i r.hops j ∧
      ∀ V : Verifiers, V.Reads now m.token → r.admits V m.token) ∧
    (¬ r.Entitled ctx → ∀ es' j m hops, ((minting C).run (es ++ es')).ledger[j]? = some m →
      DerivedFrom ((minting C).run (es ++ es')).ledger i hops j →
      ∀ V : Verifiers, V.Sound m.token → ¬ r.admits V m.token) := by
  constructor
  · intro h
    have hdelegable : Delegable ctx r.path r.scope := by
      apply delegable_of_edges h.consent (path_policy r) (path_isChain r) (path_first r)
      intro hwrite
      have hops : r = .opsApi := by
        cases r with
        | opsApi => rfl
        | inspectApi => exact absurd hwrite (by decide)
        | llm => exact absurd hwrite (by decide)
      refine ⟨h.mfa hops, ?_⟩
      simpa [TokenData.hasWriteRole, authorizationCodeToken] using h.role hops
    obtain ⟨es', j, m, hm, hfrom, hd, hscope, hfresh⟩ :=
      exists_delegation hC hsvids hlogin hexp hdelegable
    rw [hops_path] at hfrom
    exact ⟨es', j, m, hm, hfrom, fun V hreads ↦ admits_of_derivation hd hscope h.mfa hfresh hreads⟩
  · intro h es' j m hops hm hfrom V hsound hadmits
    obtain ⟨ctx', edges, hlogin', -, hd⟩ := derivation_of_derivedFrom hfrom hm
    have hkept := getElem?_of_isPrefix hlogin (ledger_append C es es')
    have htoken : authorizationCodeToken ctx' = authorizationCodeToken ctx :=
      congrArg Minted.token (Option.some.inj (hlogin'.symm.trans hkept))
    rw [htoken] at hd
    exact h (entitled_of_admits hd hsound hadmits)

end Authority

section Sample

/-- Verifiers where only the token `t` has been signed. -/
private def verifiersOf (t : TokenData) : Verifiers where
  jose :=
    { jwtVerify := fun token opts ↦
        if token = "e30.token.sig" ∧ opts.audience ∈ t.aud then .ok (tokenClaims t)
        else .error "signature verification failed"
      compact := fun _ ↦ "e30.token.sig" }
  verify := fun audience token ↦
    if token = "e30.token.sig" ∧ audience ∈ t.aud then some (tokenClaims t) else none
  issuer := "https://curity.localtest.me/oauth/v2/oauth-anonymous"
  jwksUri := "https://curity.localtest.me/oauth/v2/oauth-anonymous/jwks"

private theorem reads_verifiersOf (t : TokenData) : (verifiersOf t).Reads 0 t where
  jose := by
    intro opts claims h
    have hread : (if "e30.token.sig" = "e30.token.sig" ∧ opts.audience ∈ t.aud then
        Except.ok (tokenClaims t) else Except.error "signature verification failed") =
          Except.ok claims := h
    split at hread
    · next hok =>
      cases hread
      exact ⟨rfl, hok.2⟩
    · cases hread
  gateway := by
    intro audience claims h
    have hread : (if "e30.token.sig" = "e30.token.sig" ∧ audience ∈ t.aud then
        some (tokenClaims t) else none) = some claims := h
    split at hread
    · next hok =>
      cases hread
      exact ⟨rfl, hok.2⟩
    · cases hread
  trimmed := by
    show trim "e30.token.sig" = "e30.token.sig"
    decide
  configured := by
    show "https://curity.localtest.me/oauth/v2/oauth-anonymous/jwks" ≠ ""
    decide
  accepts := fun _ opts _ _ _ haud ↦ if_pos ⟨rfl, haud⟩
  passes := fun _ audience haud ↦ if_pos ⟨rfl, haud⟩

/-- Alice with MFA and the role `sre` can reach ops-api; with a password alone she cannot. -/
theorem authority_exact_sample :
    (∃ es' j m, ((minting authorizingServer).run ([.login sampleLogin] ++ es')).ledger[j]? =
        some m ∧
      DerivedFrom ((minting authorizingServer).run ([.login sampleLogin] ++ es')).ledger 0
        opsHops j ∧
      ∃ V : Verifiers, V.Sound m.token ∧ Resource.opsApi.admits V m.token) ∧
    ∀ es' j m hops,
      ((minting authorizingServer).run
        ([.login { sampleLogin with acr := some "html-form" }] ++ es')).ledger[j]? = some m →
      DerivedFrom ((minting authorizingServer).run
        ([.login { sampleLogin with acr := some "html-form" }] ++ es')).ledger 0 hops j →
      ∀ V : Verifiers, V.Sound m.token → ¬ Resource.opsApi.admits V m.token := by
  constructor
  · obtain ⟨es', j, m, hm, hfrom, hadmits⟩ := (@authority_exact authorizingServer sampleLogin 0
      [.login sampleLogin] 0 (authorizes_authorizingServer 0) attested_authorizingServer rfl
      (by decide) .opsApi).1 ⟨by decide, fun _ ↦ rfl, fun _ ↦ Or.inl (by decide)⟩
    exact ⟨es', j, m, hm, hfrom, verifiersOf m.token, (reads_verifiersOf m.token).toSound,
      hadmits _ (reads_verifiersOf m.token)⟩
  · apply (@authority_exact authorizingServer { sampleLogin with acr := some "html-form" } 0
      [.login { sampleLogin with acr := some "html-form" }] 0 (authorizes_authorizingServer 0)
      attested_authorizingServer rfl (by decide) .opsApi).2
    intro h
    exact absurd (h.mfa rfl) (by decide)

end Sample
end AgentsAuth.EndToEnd
