import AgentsAuth.Api.McpOps
import AgentsAuth.Api.ToolRoles
import AgentsAuth.Curity.Minting
import AgentsAuth.Specialist.ToolsRoute

/-!
# Listed as callable

The specialist tells a caller which tools it may call from the `roles` of its own token; mcp-ops
decides from the `roles` of a token that is two exchanges further. In between each exchange reads
the claim with `claimToArray` and writes it as an array.
-/

namespace AgentsAuth.EndToEnd

open AgentsAuth.Api AgentsAuth.AuthCurity AgentsAuth.Base AgentsAuth.Curity AgentsAuth.Lib
open AgentsAuth.Specialist McpOps

/-- The gate of a tool refuses some caller. -/
def Enforced (table : ToolRoles) (tool : String) : Prop :=
  ∃ callerRoles, toolRoleDenial tool callerRoles (requiredRoles table tool) ≠ none

/-- What is said of a tool is what its gate does with these roles. -/
structure Truthful (table : ToolRoles) (inbound : List String) (info : ToolInfo) : Prop where
  callable : info.callable = some true ↔ Enforced table info.name ∧
    toolRoleDenial info.name inbound (requiredRoles table info.name) = none
  refused : info.callable = some false ↔
    toolRoleDenial info.name inbound (requiredRoles table info.name) ≠ none
  requirement : info.requiredRoles = none ↔ ¬Enforced table info.name

section Listing

variable {table : ToolRoles} {tool : String} {inbound callerRoles : List String}

end Listing

/-- mcp-ops reads the roles that the last exchange has written. -/
theorem readRoles_tokenClaims (d : TokenData) :
    readRoles (tokenClaims d) = some (claimToArray d.roles) := by
  have hstrings (items : List String) : (items.map Json.str).mapM Json.text? = some items := by
    rw [mapM_eq_some_iff, List.forall₂_map_left_iff]
    exact List.forall₂_same.mpr fun _ _ ↦ rfl
  have hroles : tokenClaims d "roles" = rolesJson d.roles := rfl
  rw [readRoles, hroles]
  cases d.roles with
  | text s =>
    by_cases hs : s = ""
    · subst hs
      rfl
    · rw [claimToArray, if_neg hs]
      rfl
  | items v =>
    cases v with
    | absent => rfl
    | array items => exact hstrings items
    | collection items => exact hstrings items
    | arrayLike items => exact hstrings items

section Sample

end Sample

end AgentsAuth.EndToEnd
