import AgentsAuth.Api.Middleware
import AgentsAuth.Curity.Minting
import AgentsAuth.Lib.Delegation

/-!
# Exchanges are attenuating delegations

A token read as a grant: its actors, its scopes and the party that its `may_act`
names. Every exchange is a delegation along an edge of `CLIENT_POLICY`, so that the
rules of `AgentsAuth.Lib.Delegation` hold of every token of every run.
-/

namespace AgentsAuth.Curity

open AgentsAuth.Api AgentsAuth.Base AgentsAuth.Lib

/-- The hop that an exchange along the edge records. -/
def Edge.hop (e : Edge) : Hop := ⟨e.clientId, some e.actor, [e.audience]⟩

/-- The edge as a delegation. -/
def Edge.delegation (e : Edge) : Delegation.Hop String String :=
  ⟨e.actor, {s | s ∈ e.scopes}, e.mayAct⟩

namespace TokenData

/-- The actors of the token's `act` claim, newest first. -/
def actors (t : TokenData) : List String :=
  match t.act with
  | none => []
  | some top => walkActChain top

/-- The token as a grant. -/
def grant (t : TokenData) : Delegation.Grant String String :=
  ⟨t.actors, {s | s ∈ t.subjectScopes}, mayActSub t.mayAct⟩

private theorem actors_of_wrapAct {t d : TokenData} {actor : String}
    (h : d.act = some (wrapAct actor t.act)) : d.actors = actor :: t.actors := by
  unfold actors
  rw [h]
  cases hact : t.act with
  | none => rfl
  | some top => cases top <;> rfl

private theorem hasWriteRole_congr {t d : TokenData}
    (h : claimToArray d.roles = claimToArray t.roles) : d.hasWriteRole = t.hasWriteRole := by
  unfold hasWriteRole
  rw [h]

private theorem hasWriteRole_presentToken (C : Server) (t : TokenData) :
    (presentToken C t).hasWriteRole = t.hasWriteRole :=
  hasWriteRole_congr (C.claimToArray_presentRoles t.roles)

end TokenData

/-- What exchanges along `edges`, newest first, make of the login token `tl`. -/
structure Derivation (tl : TokenData) (edges : List Edge) (t : TokenData) : Prop where
  policy : ∀ e ∈ edges, e ∈ policyEdges
  grant : Delegation.Derives tl.grant (edges.map Edge.delegation) t.grant
  sub : t.sub = tl.sub
  acr : t.acr = tl.acr
  roles : claimToArray t.roles = claimToArray tl.roles
  aud : t.aud = (edges.head?.map fun e ↦ [e.audience]).getD tl.aud
  scope : edges ≠ [] → t.scope = some (" ".intercalate t.subjectScopes)
  someScope : edges ≠ [] → t.subjectScopes ≠ []
  writeRole : edges ≠ [] → "ops:write" ∈ t.subjectScopes → tl.hasWriteRole = true

/-- A login token is derived from itself. -/
theorem Derivation.refl (tl : TokenData) : Derivation tl [] tl where
  policy := by simp
  grant := .root
  sub := rfl
  acr := rfl
  roles := rfl
  aud := rfl
  scope := fun h ↦ absurd rfl h
  someScope := fun h ↦ absurd rfl h
  writeRole := fun h ↦ absurd rfl h

/-- One more exchange is one more hop. -/
theorem Derivation.exchange {C : Server} {tl t d : TokenData} {edges : List Edge} {e : Edge}
    {ctx : ExchangeContext} (h : Derivation tl edges t)
    (hex : Exchanged ctx (presentToken C t) e d) : Derivation tl (e :: edges) d := by
  have hroles : claimToArray d.roles = claimToArray t.roles :=
    hex.roles.trans (C.claimToArray_presentRoles t.roles)
  have hgrant : d.grant = ⟨e.actor :: t.grant.chain, {s | s ∈ d.subjectScopes}, e.mayAct⟩ := by
    unfold TokenData.grant
    rw [TokenData.actors_of_wrapAct hex.act, hex.nextActor]
    rfl
  constructor
  · intro e' he'
    rcases List.mem_cons.mp he' with rfl | he'
    · exact hex.edge
    · exact h.policy e' he'
  · rw [List.map_cons, hgrant]
    apply Delegation.Derives.hop e.delegation h.grant hex.mayAct
    intro s hs
    exact (hex.mem_subjectScopes.mp hs).2
  · exact hex.sub.trans h.sub
  · exact hex.acr.trans h.acr
  · exact hroles.trans h.roles
  · exact hex.aud
  · exact fun _ ↦ hex.scope_eq
  · exact fun _ ↦ hex.subjectScopes_ne_nil
  · intro _ hs
    have hrole : t.hasWriteRole = true := by
      rw [← TokenData.hasWriteRole_presentToken C t]
      exact hex.hasWriteRole hs
    rwa [TokenData.hasWriteRole_congr h.roles] at hrole

/-- The hops of a minted token are edges, and the token is what they make of its login token. -/
theorem derivation_of_derivedFrom {C : Server} {es : List MintEvent} {login i : Nat}
    {hops : List Hop} {m : Minted}
    (h : DerivedFrom ((minting C).run es).ledger login hops i)
    (hm : ((minting C).run es).ledger[i]? = some m) :
    ∃ ctx edges,
      ((minting C).run es).ledger[login]? = some ⟨authorizationCodeToken ctx, .login⟩ ∧
      hops = edges.map Edge.hop ∧ Derivation (authorizationCodeToken ctx) edges m.token := by
  induction h generalizing m with
  | login h =>
    obtain ⟨ctx, rfl⟩ := login_entry h
    rw [h] at hm
    cases hm
    exact ⟨ctx, [], h, rfl, .refl _⟩
  | exchange h _ ih =>
    obtain ⟨parent, ctx, e, -, hparent, hex, rfl⟩ := exchange_entry h
    obtain ⟨loginCtx, edges, hlogin, rfl, hd⟩ := ih hparent
    rw [h] at hm
    cases hm
    exact ⟨loginCtx, e :: edges, hlogin, rfl, hd.exchange hex⟩

namespace Derivation

variable {tl t : TokenData} {edges : List Edge}

/-- Every scope was the login token's and is on every edge. -/
theorem mem_scopes (h : Derivation tl edges t) {s : String} (hs : s ∈ t.subjectScopes) :
    s ∈ tl.subjectScopes ∧ ∀ e ∈ edges, s ∈ e.scopes := by
  refine ⟨h.grant.rights_subset_root hs, fun e he ↦ ?_⟩
  exact h.grant.rights_subset_cap _ (List.mem_map_of_mem he) hs

/-- The actors are those of the edges in front of the login token's. -/
theorem actors_eq (h : Derivation tl edges t) :
    t.actors = edges.map Edge.actor ++ tl.actors := by
  have hchain := h.grant.chain_eq
  rw [List.map_map] at hchain
  exact hchain

/-- Each edge is taken by the party that the edge before it names, if it names one. -/
theorem isChain (h : Derivation tl edges t) :
    edges.IsChain fun later earlier ↦ Delegation.MayAct earlier.mayAct later.actor := by
  have hchain := h.grant.isChain
  rw [List.isChain_map] at hchain
  exact hchain

/-- The oldest edge is taken by the party that the login token names. -/
theorem mayAct_getLast (h : Derivation tl edges t) {e : Edge} (he : edges.getLast? = some e) :
    Delegation.MayAct (mayActSub tl.mayAct) e.actor := by
  apply h.grant.mayAct_getLast (h := e.delegation)
  rw [List.getLast?_map, he]
  rfl

end Derivation
end AgentsAuth.Curity
