import AgentsAuth.AuthCurity.Verify

/-!
# The identity on a span

`packages/auth-curity/src/identity-span.ts`: the attributes that a service sets on its server
span for a verified token. Every service is started with tracing, so there always is a span.
-/

namespace AgentsAuth.AuthCurity

open AgentsAuth.Base AgentsAuth.Lib

mutual

/-- Model of `flattenActChain`, `identity-span.ts:12–23`. -/
def flattenActChain : Json → List String
  | .obj members =>
    match members.lookup "sub" with
    | some (.str sub) => sub :: flattenActMember members
    | _ => []
  | _ => []
termination_by structural top => top

/-- The actors below the member `act`. -/
def flattenActMember : List (String × Json) → List String
  | [] => []
  | (name, value) :: rest => if name = "act" then flattenActChain value else flattenActMember rest
termination_by structural members => members

end

/-- The items of the set that `parseScopes` builds, whatever their types. -/
def scopeItems (payload : Claims) : List Json :=
  match payload "scp" with
  | some (.arr items) => Json.distinct items
  | _ =>
    match payload "scope" with
    | some (.str scope) => Json.distinct ((wordsBy (· = ' ') scope).map Json.str)
    | _ => []

/-- The attributes of a span by name. -/
abbrev Attributes := List (String × Json)

/-- Model of `identity-span.ts:29–60`; `none` where a scope cannot be written. -/
def buildIdentityAttributes (verified : VerifiedJwt) : Option Attributes :=
  let payload := verified.payload
  let scopes := scopeItems payload
  if Json.itemsHaveText scopes then
    some <| Json.members [
      ("auth.sub", (Json.string? (payload "sub")).map Json.str),
      ("auth.scope",
        if scopes ≠ [] then some (.str (" ".intercalate (Json.itemTexts scopes))) else none),
      ("auth.acr", (Json.string? (payload "acr")).map Json.str),
      ("auth.aud", ((payload "aud").filter Json.truthy).map fun
        | .arr items => .arr items
        | aud => .arr [aud]),
      ("auth.roles",
        match payload "roles" with
        | some (.arr (item :: items)) =>
          some (jsonStrings ((item :: items).filterMap fun role ↦ Json.string? (some role)))
        | _ => none),
      ("auth.act",
        match ((payload "act").map flattenActChain).getD [] with
        | [] => none
        | act => some (jsonStrings act)),
      ("auth.may_act",
        (Json.string? ((payload "may_act").bind (Json.get? · "sub"))).map Json.str),
      ("auth.cnf_jkt",
        ((Json.string? ((payload "cnf").bind (Json.get? · "jkt"))).filter (· ≠ "")).map Json.str)]
  else none

/-- Model of `identity-span.ts:67–69`: the attributes that the span gets. -/
def decorateSpanWithIdentity : VerifiedJwt → Option Attributes := buildIdentityAttributes

/-- No item of an `scp` array is an object that cannot be written. -/
def ScopesWritable (payload : Claims) : Prop :=
  ∀ items, payload "scp" = some (.arr items) → ∀ item ∈ items, item.hasText = true

/-- The span is decorated unless an item of `scp` cannot be written. -/
theorem decorateSpanWithIdentity_isSome_iff {verified : VerifiedJwt} :
    (decorateSpanWithIdentity verified).isSome ↔ ScopesWritable verified.payload := by
  have hdef : (decorateSpanWithIdentity verified).isSome =
      Json.itemsHaveText (scopeItems verified.payload) := by
    unfold decorateSpanWithIdentity buildIdentityAttributes
    dsimp only
    split
    · next h => simp [h]
    · next h => simp [h]
  rw [hdef, scopeItems, ScopesWritable]
  split
  · next items hscp =>
    rw [Json.itemsHaveText_distinct, Json.itemsHaveText_iff, hscp]
    simp
  · next hscp =>
    constructor
    · intro _ items hitems
      exact absurd hitems (hscp items)
    · intro _
      split
      · next scope _ =>
        rw [Json.itemsHaveText_distinct, Json.itemsHaveText_iff]
        intro item hitem
        obtain ⟨word, -, rfl⟩ := List.mem_map.mp hitem
        rfl
      · rfl

end AgentsAuth.AuthCurity
