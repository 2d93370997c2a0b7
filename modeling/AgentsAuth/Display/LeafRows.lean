import AgentsAuth.Display.Ledger

/-!
# Leaves of the ledger

A row with a note is a leaf and takes no number on the spine; the page prints the number of a
row's parent (`apps/web/src/components/delegation-ledger.tsx:115,435`) as if a parent were never a
leaf. `findParentIndex` does not look at the note: where a list shows a leaf and then a token with
one actor more, the leaf is the parent unless another token with its chain comes in between. The
routes that build the lists put one there.
-/

namespace AgentsAuth.Display

open AgentsAuth.AuthCurity AgentsAuth.Base AgentsAuth.Lib TokenView

/-- Every row's parent is on the spine and has a number there. -/
def ParentsOnSpine (rows : List LedgerRow) : Prop :=
  ∀ row ∈ rows, ∀ o, row.parentIndex = some o →
    ∃ parent n, rows[o]? = some parent ∧ parent.leaf = false ∧ parent.number = some n

/-- Between a leaf and a later hop that shows its chain and one more actor there is another hop
that shows its chain. -/
def LeavesPassed (chain : List LedgerHop) : Prop :=
  ∀ (j i : Nat) (leaf hop : LedgerHop) (path : List String) (actor : String), j < i →
    chain[j]? = some leaf → isLeaf leaf = true →
    chain[i]? = some hop → TokenView.flattenActChain (leaf.claim "act") = some path →
    TokenView.flattenActChain (hop.claim "act") = some (path ++ [actor]) →
    ∃ (k : Nat) (other : LedgerHop), j < k ∧ k < i ∧ chain[k]? = some other ∧
      TokenView.flattenActChain (other.claim "act") = some path

/-- A row shows the chain of its hop, and is a leaf as the hop is. -/
private theorem shown_of_buildLedger {parse : String → Option Json} {chain : List LedgerHop}
    {rows : List LedgerRow} (h : buildLedger parse chain = some rows) {i : Nat} {row : LedgerRow}
    {hop : LedgerHop} (hrow : rows[i]? = some row) (hhop : chain[i]? = some hop) :
    TokenView.flattenActChain (hop.claim "act") = some row.summary.act ∧ row.leaf = isLeaf hop := by
  obtain ⟨hop', hhop', hsummary, hleaf, -⟩ := row_of_buildLedger h hrow
  rw [hhop, Option.some.injEq] at hhop'
  subst hhop'
  exact ⟨(summarizeHop_eq_some hsummary).1, hleaf⟩

/-- A parent is always on the spine exactly when every leaf is passed before its chain is
extended. -/
theorem parentsOnSpine_iff {parse : String → Option Json} {chain : List LedgerHop}
    {rows : List LedgerRow} (h : buildLedger parse chain = some rows) :
    ParentsOnSpine rows ↔ LeavesPassed chain := by
  constructor
  · intro hspine j i leaf hop path actor hji hleaf hisLeaf hhop hpath hextended
    by_contra hnone
    have hj : j < rows.length := length_of_buildLedger h ▸ (List.getElem?_eq_some_iff.mp hleaf).1
    have hi : i < rows.length := length_of_buildLedger h ▸ (List.getElem?_eq_some_iff.mp hhop).1
    obtain ⟨hleafAct, hleafRow⟩ := shown_of_buildLedger h (List.getElem?_eq_getElem hj) hleaf
    obtain ⟨hrowAct, -⟩ := shown_of_buildLedger h (List.getElem?_eq_getElem hi) hhop
    rw [hpath, Option.some.injEq] at hleafAct
    rw [hextended, Option.some.injEq] at hrowAct
    have hparent : rows[i].parentIndex = some j := by
      rw [parentIndex_eq_some_iff h (List.getElem?_eq_getElem hi), ← hrowAct,
        List.dropLast_concat]
      refine ⟨hji, by simp, rows[j], List.getElem?_eq_getElem hj, hleafAct.symm, ?_⟩
      intro m hjm hmi cand hcand hsame
      obtain ⟨other, hother, -⟩ := row_of_buildLedger h hcand
      obtain ⟨hotherAct, -⟩ := shown_of_buildLedger h hcand hother
      exact hnone ⟨m, other, hjm, hmi, hother, by rw [hotherAct, hsame]⟩
    obtain ⟨parent, n, hget, hnot, -⟩ := hspine _ (List.getElem_mem hi) j hparent
    rw [List.getElem?_eq_getElem hj, Option.some.injEq] at hget
    rw [← hget, hleafRow, hisLeaf] at hnot
    cases hnot
  · intro hpassed row hmem o hparent
    obtain ⟨i, hrow⟩ := List.getElem?_of_mem hmem
    obtain ⟨hoi, hacted, parent, hget, hact, hnone⟩ := (parentIndex_eq_some_iff h hrow).mp hparent
    obtain ⟨leaf, hleaf, -, hleafRow, hnumber⟩ := row_of_buildLedger h hget
    cases hisLeaf : parent.leaf with
    | false =>
      obtain ⟨n, hn⟩ := hnumber hisLeaf
      exact ⟨parent, n, hget, hisLeaf, hn⟩
    | true =>
      obtain ⟨hop, hhop, -⟩ := row_of_buildLedger h hrow
      obtain ⟨hleafAct, -⟩ := shown_of_buildLedger h hget hleaf
      obtain ⟨hrowAct, -⟩ := shown_of_buildLedger h hrow hhop
      rw [hact] at hleafAct
      rw [← List.dropLast_append_getLast hacted] at hrowAct
      obtain ⟨k, other, hok, hki, hother, hotherAct⟩ :=
        hpassed o i leaf hop _ _ hoi hleaf (hleafRow ▸ hisLeaf) hhop hleafAct hrowAct
      have hk : k < rows.length :=
        length_of_buildLedger h ▸ (List.getElem?_eq_some_iff.mp hother).1
      have hcand := List.getElem?_eq_getElem hk
      obtain ⟨hcandAct, -⟩ := shown_of_buildLedger h hcand hother
      rw [hotherAct, Option.some.injEq] at hcandAct
      exact absurd hcandAct.symm (hnone k hok hki _ hcand)

end AgentsAuth.Display
