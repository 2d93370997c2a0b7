import AgentsAuth.Curity.TokenExchange
import AgentsAuth.Lib.Machine

/-!
# Minting of access tokens

The two procedures that mint access tokens, `authorization-code.js` at login and
`token-exchange.js` afterwards, as one machine over the ledger of everything minted.
Any client may exchange any token of the ledger, with any actor token, in any order.
-/

namespace AgentsAuth.Curity

open AgentsAuth.Base AgentsAuth.Lib

/-- What the authorization-code procedure reads: the default access token data of a login,
which carries no `act`, and the `acr` of the context attributes. -/
structure LoginContext where
  sub : String
  jti : String
  exp : Int
  scope : Option String
  roles : RolesClaim
  acr : Option String

/-- The access token of `k8s/curity/procedures/authorization-code.js:13–35`. -/
def authorizationCodeToken (ctx : LoginContext) : TokenData :=
  { sub := ctx.sub
    jti := ctx.jti
    exp := ctx.exp
    aud := ["agent-copilot"]
    scope := ctx.scope
    acr := ctx.acr
    roles := ctx.roles
    act := none
    mayAct := .map (some "spiffe://demo.curity.local/ns/agents/sa/agent-copilot") }

/-- An exchange request: the worker that serves it, the ledger index of the subject token, and
the rest of the request with its surroundings. -/
structure ExchangeRequest where
  worker : Nat
  subject : Nat
  clientId : String
  actorToken : Option String
  audiences : Items
  scopes : Items
  env : Surroundings
  fresh : Fresh

/-- Who obtained a token by exchange: the client, the subject of its SVID and the audiences. -/
structure Hop where
  clientId : String
  actor : Option String
  audiences : List String
deriving DecidableEq

/-- Where a token comes from. -/
inductive Origin where
  | login
  | exchange (subject : Nat) (hop : Hop)
deriving DecidableEq

/-- A ledger entry. -/
structure Minted where
  token : TokenData
  origin : Origin

/-- Everything minted, oldest first, and the key set cache of every worker. -/
structure MintState where
  ledger : List Minted
  caches : Nat → JwksCache

/-- A run of one of the two procedures. -/
inductive MintEvent where
  | login (ctx : LoginContext)
  | exchange (request : ExchangeRequest)

/-- `getPresentedSubjectToken()` for a token of the ledger. -/
def presentToken (C : Server) (t : TokenData) : TokenData :=
  { t with roles := C.presentRoles t.roles }

/-- The context in which the procedure serves a request. -/
def exchangeContext (C : Server) (ledger : List Minted) (r : ExchangeRequest) : ExchangeContext :=
  { subjectToken := ledger[r.subject]?.map fun m ↦ presentToken C m.token
    actorToken := r.actorToken
    clientId := r.clientId
    requestedAudiences := r.audiences
    requestedScopes := r.scopes
    env := r.env
    fresh := r.fresh }

/-- The hop that a request makes when it succeeds. -/
def requestHop (C : Server) (s : MintState) (r : ExchangeRequest) : Hop :=
  ⟨r.clientId, presentedActor C (s.caches r.worker) (exchangeContext C s.ledger r),
    setToArray r.audiences⟩

/-- Serve one exchange request; a refusal mints nothing. -/
def exchangeStep (C : Server) (s : MintState) (r : ExchangeRequest) :
    MintState × Except ProcedureError TokenData :=
  match result C (s.caches r.worker) (exchangeContext C s.ledger r) with
  | (cache, .error e) => (⟨s.ledger, Function.update s.caches r.worker cache⟩, .error e)
  | (cache, .ok response) =>
    (⟨s.ledger ++ [⟨response.accessToken, .exchange r.subject (requestHop C s r)⟩],
      Function.update s.caches r.worker cache⟩, .ok response.accessToken)

/-- The machine of the two procedures. -/
def minting (C : Server) : Machine MintState MintEvent (Except ProcedureError TokenData) where
  init := ⟨[], fun _ ↦ .initial⟩
  step s
    | .login ctx =>
      (⟨s.ledger ++ [⟨authorizationCodeToken ctx, .login⟩], s.caches⟩,
        .ok (authorizationCodeToken ctx))
    | .exchange r => exchangeStep C s r

/-- How a ledger entry relates to the entries before it. -/
def Accounted (C : Server) (earlier : List Minted) (m : Minted) : Prop :=
  match m.origin with
  | .login => ∃ ctx, m.token = authorizationCodeToken ctx
  | .exchange subject hop =>
    ∃ parent ctx e, earlier[subject]? = some parent ∧
      Exchanged ctx (presentToken C parent.token) e m.token ∧
      hop = ⟨e.clientId, some e.actor, [e.audience]⟩

/-- Every entry is accounted for by the ones before it. -/
def LedgerSound (C : Server) (ledger : List Minted) : Prop :=
  ∀ i m, ledger[i]? = some m → Accounted C (ledger.take i) m

private theorem LedgerSound.concat {C : Server} {ledger : List Minted} {m : Minted}
    (h : LedgerSound C ledger) (hm : Accounted C ledger m) : LedgerSound C (ledger ++ [m]) := by
  intro i n hn
  by_cases hi : i < ledger.length
  · rw [List.getElem?_append_left hi] at hn
    rw [List.take_append_of_le_length (Nat.le_of_lt hi)]
    exact h i n hn
  · have hlt : i < (ledger ++ [m]).length := (List.getElem?_eq_some_iff.mp hn).1
    rw [List.length_append, List.length_singleton] at hlt
    have heq : i = ledger.length := by omega
    subst heq
    rw [List.getElem?_concat_length] at hn
    cases hn
    rw [List.take_left']
    · exact hm
    · rfl

/-- A served request keeps the ledger or appends an entry that is accounted for. -/
theorem exchangeStep_cases (C : Server) (s : MintState) (r : ExchangeRequest) :
    (∃ e, (exchangeStep C s r).2 = .error e ∧ (exchangeStep C s r).1.ledger = s.ledger) ∨
      ∃ d, (exchangeStep C s r).2 = .ok d ∧
        (exchangeStep C s r).1.ledger = s.ledger ++ [⟨d, .exchange r.subject (requestHop C s r)⟩] ∧
        Accounted C s.ledger ⟨d, .exchange r.subject (requestHop C s r)⟩ := by
  unfold exchangeStep
  split
  · next cache e _ => exact Or.inl ⟨e, rfl, rfl⟩
  · next cache response hresult =>
    refine Or.inr ⟨response.accessToken, rfl, rfl, ?_⟩
    have hok : (result C (s.caches r.worker) (exchangeContext C s.ledger r)).2 = .ok response := by
      rw [hresult]
    obtain ⟨t, e, hex, hactor⟩ := exchanged_of_result hok
    have ht := hex.presented
    simp only [exchangeContext, Option.map_eq_some_iff] at ht
    rcases ht with ⟨parent, hparent, rfl⟩
    refine ⟨parent, exchangeContext C s.ledger r, e, hparent, hex, ?_⟩
    have hclient : r.clientId = e.clientId := hex.client
    have haudiences : setToArray r.audiences = [e.audience] := hex.requestedAudience
    rw [requestHop, hactor, hclient, haudiences]

/-- No exchange takes anything off the ledger. -/
theorem ledger_exchangeStep (C : Server) (s : MintState) (r : ExchangeRequest) :
    s.ledger <+: (exchangeStep C s r).1.ledger := by
  rcases exchangeStep_cases C s r with ⟨e, -, h⟩ | ⟨d, -, h, -⟩
  · rw [h]
  · rw [h]
    exact List.prefix_append _ _

/-- No step takes anything off the ledger. -/
theorem ledger_mint (C : Server) (s : MintState) (e : MintEvent) :
    s.ledger <+: ((minting C).step s e).1.ledger := by
  cases e with
  | login ctx => exact List.prefix_append _ _
  | exchange r => exact ledger_exchangeStep C s r

/-- A run keeps what has been minted before it. -/
theorem ledger_append (C : Server) (es es' : List MintEvent) :
    ((minting C).run es).ledger <+: ((minting C).run (es ++ es')).ledger := by
  induction es' using List.reverseRecOn with
  | nil => rw [List.append_nil]
  | append_singleton es' e ih =>
    rw [← List.append_assoc, Machine.run_concat]
    exact ih.trans (ledger_mint C _ e)

/-- After every run every minted token is accounted for. -/
theorem ledgerSound_run (C : Server) (es : List MintEvent) :
    LedgerSound C ((minting C).run es).ledger := by
  apply (minting C).run_invariant (I := fun s ↦ LedgerSound C s.ledger)
  · intro i m hm
    simp [minting] at hm
  · intro s e hs
    cases e with
    | login ctx => exact hs.concat ⟨ctx, rfl⟩
    | exchange r =>
      have hstep : ((minting C).step s (.exchange r)).1 = (exchangeStep C s r).1 := rfl
      rcases exchangeStep_cases C s r with ⟨e, -, hledger⟩ | ⟨d, -, hledger, hacc⟩
      · rw [hstep, hledger]
        exact hs
      · rw [hstep, hledger]
        exact hs.concat hacc

private theorem roles_exchangeStep {C : Server} {s : MintState} {r : ExchangeRequest}
    {d : TokenData} (h : (exchangeStep C s r).2 = .ok d) :
    d.roles = .items .absent ∨ ∃ roles, d.roles = .items (.array roles) := by
  unfold exchangeStep at h
  split at h
  · cases h
  · next cache response hresult =>
    cases h
    exact roles_of_result (congrArg Prod.snd hresult)

/-- Whatever form the roles have at login, in an exchanged token they are an array or absent. -/
theorem roles_of_exchange (C : Server) (es : List MintEvent) :
    ∀ m ∈ ((minting C).run es).ledger, m.origin ≠ .login →
      m.token.roles = .items .absent ∨ ∃ roles, m.token.roles = .items (.array roles) := by
  apply (minting C).run_invariant (I := fun s ↦ ∀ m ∈ s.ledger, m.origin ≠ .login →
    m.token.roles = .items .absent ∨ ∃ roles, m.token.roles = .items (.array roles))
  · intro m hm
    cases hm
  · intro s e hs m hm horigin
    cases e with
    | login ctx =>
      rcases List.mem_append.mp hm with hm | hm
      · exact hs m hm horigin
      · rw [List.mem_singleton.mp hm] at horigin
        exact absurd rfl horigin
    | exchange r =>
      have hstep : ((minting C).step s (.exchange r)).1 = (exchangeStep C s r).1 := rfl
      rw [hstep] at hm
      rcases exchangeStep_cases C s r with ⟨e, -, hledger⟩ | ⟨d, hd, hledger, -⟩
      · rw [hledger] at hm
        exact hs m hm horigin
      · rw [hledger] at hm
        rcases List.mem_append.mp hm with hm | hm
        · exact hs m hm horigin
        · rw [List.mem_singleton.mp hm]
          exact roles_exchangeStep hd

section Entries

variable {C : Server} {es : List MintEvent} {i subject : Nat} {t : TokenData} {hop : Hop}

/-- A login entry carries the token of the authorization-code procedure. -/
theorem login_entry (h : ((minting C).run es).ledger[i]? = some ⟨t, .login⟩) :
    ∃ ctx, t = authorizationCodeToken ctx :=
  ledgerSound_run C es i _ h

/-- An exchanged entry was obtained from an earlier one along an edge of the policy. -/
theorem exchange_entry
    (h : ((minting C).run es).ledger[i]? = some ⟨t, .exchange subject hop⟩) :
    ∃ parent ctx e, subject < i ∧ ((minting C).run es).ledger[subject]? = some parent ∧
      Exchanged ctx (presentToken C parent.token) e t ∧
      hop = ⟨e.clientId, some e.actor, [e.audience]⟩ := by
  obtain ⟨parent, ctx, e, hparent, hex, hhop⟩ := ledgerSound_run C es i _ h
  rw [List.getElem?_take] at hparent
  split at hparent
  · next hlt => exact ⟨parent, ctx, e, hlt, hparent, hex, hhop⟩
  · cases hparent

end Entries

/-- `DerivedFrom ledger login hops i`: entry `i` comes from the login entry `login` by exactly
the exchanges `hops`, newest first. -/
inductive DerivedFrom (ledger : List Minted) (login : Nat) : List Hop → Nat → Prop
  | login {t : TokenData} (h : ledger[login]? = some ⟨t, .login⟩) :
    DerivedFrom ledger login [] login
  | exchange {hops : List Hop} {i subject : Nat} {t : TokenData} {hop : Hop}
      (h : ledger[i]? = some ⟨t, .exchange subject hop⟩)
      (before : DerivedFrom ledger login hops subject) : DerivedFrom ledger login (hop :: hops) i

/-- An entry has one derivation. -/
theorem DerivedFrom.unique {ledger : List Minted} {login login' i : Nat} {hops hops' : List Hop}
    (h : DerivedFrom ledger login hops i) (h' : DerivedFrom ledger login' hops' i) :
    login' = login ∧ hops' = hops := by
  induction h generalizing hops' with
  | login h =>
    cases h' with
    | login _ => exact ⟨rfl, rfl⟩
    | exchange h' _ =>
      rw [h] at h'
      cases h'
  | exchange h _ ih =>
    cases h' with
    | login h' =>
      rw [h] at h'
      cases h'
    | exchange h' before' =>
      rw [h] at h'
      cases h'
      obtain ⟨hlogin, hhops⟩ := ih before'
      exact ⟨hlogin, by rw [hhops]⟩

/-- The derivations of an entry that has one. -/
theorem DerivedFrom.eq_iff {ledger : List Minted} {login i : Nat} {hops : List Hop}
    (h : DerivedFrom ledger login hops i) (login' : Nat) (hops' : List Hop) :
    DerivedFrom ledger login' hops' i ↔ login' = login ∧ hops' = hops := by
  constructor
  · exact h.unique
  · rintro ⟨rfl, rfl⟩
    exact h

/-- Every minted token comes from some login by some exchanges. -/
theorem exists_derivedFrom {C : Server} {es : List MintEvent} {i : Nat} {m : Minted}
    (h : ((minting C).run es).ledger[i]? = some m) :
    ∃ login hops, DerivedFrom ((minting C).run es).ledger login hops i := by
  induction i using Nat.strong_induction_on generalizing m with
  | _ i ih =>
    obtain ⟨t, origin⟩ := m
    cases origin with
    | login => exact ⟨i, [], .login h⟩
    | exchange subject hop =>
      obtain ⟨parent, ctx, e, hlt, hparent, -, -⟩ := exchange_entry h
      obtain ⟨login, hops, hbefore⟩ := ih subject hlt hparent
      exact ⟨login, hop :: hops, .exchange h hbefore⟩

section Sample

/-- The SVIDs that `sampleServer` verifies, with the workloads they were issued to. -/
def sampleSvids : List (String × String) :=
  [("e30.copilot.sig", spiffeCopilot), ("e30.specialist.sig", spiffeSpecialist),
    ("e30.gateway.sig", spiffeGateway), ("e30.mcp-ops.sig", spiffeMcpOps),
    ("e30.mcp-inspect.sig", spiffeMcpInspect)]

/-- A server without authorizers that issues what the procedure narrowed to. -/
def sampleServer : Server where
  jose4j :=
    { decodeHeader := fun _ ↦ some (.obj [("kid", .str "spire")])
      parseKeySet := fun body ↦ some [⟨some "spire", body⟩]
      processToClaims := fun _ _ _ _ rawJwt ↦ sampleSvids.lookup rawJwt }
  getInitializedContext := fun _ t audience narrowed fresh ↦
    .ok ⟨t.sub, fresh.jti, fresh.exp, [audience], some (" ".intercalate narrowed), none,
      .items .absent, none, .absent⟩
  presentRoles := id
  secondsUntil := id
  defaultTokenData := by
    intro clientId t audience narrowed fresh d h
    cases h
    exact ⟨rfl, rfl, rfl, rfl, ⟨narrowed, fun s ↦ Iff.rfl, rfl⟩, rfl, rfl, rfl, rfl⟩
  claimToArray_presentRoles := fun _ ↦ rfl

/-- A login of a user with a write role and `acr` `mfa`. -/
def sampleLogin : LoginContext :=
  ⟨"alice", "t0", 600, some "openid inspect:read ops:write llm:invoke",
    .items (.array ["sre"]), some "mfa"⟩

/-- An exchange of entry `subject` for one audience and scope. -/
def sampleExchange (subject : Nat) (clientId svid audience scope jti : String) : MintEvent :=
  .exchange ⟨0, subject, clientId, some svid, .collection [audience], .collection [scope],
    ⟨0, 0, .response 200 "key"⟩, ⟨jti, 600⟩⟩

end Sample
end AgentsAuth.Curity
