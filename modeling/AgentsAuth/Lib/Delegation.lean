import Mathlib.Data.List.Chain
import Mathlib.Data.Set.Basic

/-!
# Attenuating delegation

A grant carries some rights, the chain of parties that have acted under it and,
optionally, the one party that may act next. Delegating it replaces the rights by
some of them that the hop's cap admits, and puts the acting party in front of the
chain. Everything a chain of delegations can and cannot do follows from its hops.
-/

namespace AgentsAuth.Lib.Delegation

universe u v

/-- One delegation: who acts, the most that it may hand on, and who alone may act next. -/
structure Hop (α : Type u) (ρ : Type v) where
  actor : α
  cap : Set ρ
  next : Option α

/-- What is delegated: the actors so far, newest first, the rights and the next actor. -/
structure Grant (α : Type u) (ρ : Type v) where
  chain : List α
  rights : Set ρ
  next : Option α

variable {α : Type u} {ρ : Type v}

/-- A party may act on what names it, and on what names nobody. -/
def MayAct (next : Option α) (actor : α) : Prop := next = none ∨ next = some actor

instance [DecidableEq α] (next : Option α) (actor : α) : Decidable (MayAct next actor) :=
  inferInstanceAs (Decidable (next = none ∨ next = some actor))

/-- `Derives root hops g`: the hops, newest first, turn `root` into `g`. -/
inductive Derives (root : Grant α ρ) : List (Hop α ρ) → Grant α ρ → Prop
  | root : Derives root [] root
  | hop {hops : List (Hop α ρ)} {g : Grant α ρ} (h : Hop α ρ) {rights : Set ρ}
      (before : Derives root hops g) (mayAct : MayAct g.next h.actor)
      (attenuates : rights ⊆ g.rights ∩ h.cap) :
      Derives root (h :: hops) ⟨h.actor :: g.chain, rights, h.next⟩

namespace Derives

variable {root g : Grant α ρ} {hops : List (Hop α ρ)}

/-- The chain is the actors of the hops in front of the root's chain. -/
theorem chain_eq (d : Derives root hops g) : g.chain = hops.map Hop.actor ++ root.chain := by
  induction d with
  | root => rfl
  | hop h _ _ _ ih => simp [ih]

/-- No right appears that the root did not have. -/
theorem rights_subset_root (d : Derives root hops g) : g.rights ⊆ root.rights := by
  induction d with
  | root => exact subset_rfl
  | hop h _ _ attenuates ih => exact fun r hr ↦ ih (attenuates hr).1

/-- Every right that is left was within the cap of every hop. -/
theorem rights_subset_cap (d : Derives root hops g) : ∀ h ∈ hops, g.rights ⊆ h.cap := by
  induction d with
  | root => simp
  | hop h _ _ attenuates ih =>
    intro h' hmem r hr
    rcases List.mem_cons.mp hmem with rfl | hmem
    · exact (attenuates hr).2
    · exact ih h' hmem (attenuates hr).1

/-- The party named by the newest hop, or by the root before any, is the next one. -/
theorem next_eq (d : Derives root hops g) :
    g.next = (hops.head?.map Hop.next).getD root.next := by
  cases d with
  | root => rfl
  | hop h _ _ _ => rfl

/-- Each hop is by a party that the hop before it allows. -/
theorem isChain (d : Derives root hops g) :
    hops.IsChain fun later earlier ↦ MayAct earlier.next later.actor := by
  induction d with
  | root => exact List.isChain_nil
  | @hop hops g h _ before mayAct _ ih =>
    cases hops with
    | nil => exact List.isChain_singleton h
    | cons h' hops =>
      rw [List.isChain_cons_cons]
      refine ⟨?_, ih⟩
      rw [before.next_eq] at mayAct
      exact mayAct

/-- The oldest hop is by a party that the root allows. -/
theorem mayAct_getLast (d : Derives root hops g) {h : Hop α ρ}
    (hlast : hops.getLast? = some h) : MayAct root.next h.actor := by
  induction d with
  | root => simp at hlast
  | @hop hops g h' _ before mayAct _ ih =>
    cases hops with
    | nil =>
      obtain rfl : h' = h := by simpa using hlast
      rwa [before.next_eq] at mayAct
    | cons h'' hops => exact ih (by simpa using hlast)

end Derives

/-- A right that the root has can be handed on along the hops, newest first: every hop may carry
it, and is by a party that the one before it allows. -/
structure Passable (root : Grant α ρ) (hops : List (Hop α ρ)) (r : ρ) : Prop where
  held : r ∈ root.rights
  carried : ∀ h ∈ hops, r ∈ h.cap
  chain : hops.IsChain fun later earlier ↦ MayAct earlier.next later.actor
  first : ∀ h ∈ hops.getLast?, MayAct root.next h.actor

variable {root : Grant α ρ} {hops : List (Hop α ρ)} {h : Hop α ρ} {r : ρ}

/-- What can be handed on along a chain can be handed on along all but its newest hop, and the
newest hop may come next. -/
theorem Passable.of_cons (p : Passable root (h :: hops) r) :
    Passable root hops r ∧ r ∈ h.cap ∧
      MayAct ((hops.head?.map Hop.next).getD root.next) h.actor := by
  have hcap := p.carried h (List.mem_cons_self ..)
  cases hops with
  | nil =>
    exact ⟨⟨p.held, by simp, List.isChain_nil, by simp⟩, hcap, p.first h rfl⟩
  | cons h' hops =>
    obtain ⟨hmay, hchain⟩ := List.isChain_cons_cons.mp p.chain
    refine ⟨⟨p.held, ?_, hchain, ?_⟩, hcap, hmay⟩
    · exact fun h'' hh'' ↦ p.carried h'' (List.mem_cons_of_mem h hh'')
    · intro h'' hlast
      exact p.first h'' (by simpa using hlast)

/-- Exactly the passable rights arrive at the end of a chain of delegations. -/
theorem exists_derives_iff : (∃ g, Derives root hops g ∧ r ∈ g.rights) ↔ Passable root hops r := by
  constructor
  · rintro ⟨g, d, hr⟩
    exact ⟨d.rights_subset_root hr, fun h hh ↦ d.rights_subset_cap h hh hr, d.isChain,
      fun h hlast ↦ d.mayAct_getLast hlast⟩
  · intro p
    induction hops with
    | nil => exact ⟨root, .root, p.held⟩
    | cons h hops ih =>
      obtain ⟨hbefore, hcap, hmay⟩ := p.of_cons
      obtain ⟨g, d, hr⟩ := ih hbefore
      rw [← d.next_eq] at hmay
      exact ⟨_, .hop h d hmay subset_rfl, hr, hcap⟩

end AgentsAuth.Lib.Delegation
