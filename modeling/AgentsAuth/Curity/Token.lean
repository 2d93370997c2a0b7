import AgentsAuth.Base.Json
import AgentsAuth.Lib.Words

/-!
# Access tokens as the procedures see them

The claims of `k8s/curity/procedures/token-exchange.js` and
`k8s/curity/procedures/authorization-code.js`, in the shapes in which Curity hands
a presented token to the script.
-/

namespace AgentsAuth.Curity

open AgentsAuth.Base AgentsAuth.Lib

/-- A multi-valued input of the script, other than a string. -/
inductive Items where
  | absent
  | array (items : List String)
  | collection (items : List String)
  | arrayLike (items : List String)

/-- The `roles` claim: any multi-valued input or a string. -/
inductive RolesClaim where
  | text (s : String)
  | items (v : Items)

/-- The `may_act` claim: absent, a `java.util.Map` with an optional `sub`, or another value. -/
inductive MayActClaim where
  | absent
  | map (sub : Option String)
  | other

/-- The claims of an access token that some procedure or service reads. -/
structure TokenData where
  sub : String
  jti : String
  exp : Int
  aud : List String
  scope : Option String
  acr : Option String
  roles : RolesClaim
  act : Option Json
  mayAct : MayActClaim

/-- Model of `k8s/curity/procedures/token-exchange.js:184–196`. -/
def setToArray : Items → List String
  | .absent => []
  | .array items => items
  | .collection items => items
  | .arrayLike items => items

/-- Model of `k8s/curity/procedures/token-exchange.js:205–209`. -/
def claimToArray : RolesClaim → List String
  | .text s => if s = "" then [] else words s
  | .items v => setToArray v

/-- Model of `k8s/curity/procedures/token-exchange.js:178–182`; `none` is `null`. -/
def mayActSub : MayActClaim → Option String
  | .map sub => sub
  | .absent => none
  | .other => none

/-- The `act` claim after `actor` has acted: `token-exchange.js:474–479`. -/
def wrapAct (actor : String) : Option Json → Json
  | none => .obj [("sub", .str actor)]
  | some .null => .obj [("sub", .str actor)]
  | some inboundAct => .obj [("sub", .str actor), ("act", inboundAct)]

namespace TokenData

/-- Scopes of a presented token: `token-exchange.js:361–363`. -/
def subjectScopes (t : TokenData) : List String := words (t.scope.getD "")

/-- `subjectRoles.indexOf('sre') !== -1 || subjectRoles.indexOf('oncall') !== -1`. -/
def hasWriteRole (t : TokenData) : Bool :=
  (claimToArray t.roles).contains "sre" || (claimToArray t.roles).contains "oncall"

/-- The procedure never sees a scope that is not a word. -/
theorem isWord_of_mem_subjectScopes {t : TokenData} {s : String} (h : s ∈ t.subjectScopes) :
    IsWord isSpace s :=
  isWord_of_mem_wordsBy h

/-- A scope claim that joins words by single blanks has just these scopes. -/
theorem subjectScopes_of_intercalate {t : TokenData} {ss : List String}
    (hw : ∀ s ∈ ss, IsWord isSpace s) (h : t.scope = some (" ".intercalate ss)) :
    t.subjectScopes = ss := by
  rw [subjectScopes, h]
  exact wordsBy_intercalate (c := ' ') rfl hw

end TokenData
end AgentsAuth.Curity
