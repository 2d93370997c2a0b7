import Mathlib.Data.List.Basic

/-!
# Preorder listings

A tree in which every node is reached by a path of steps, and its nodes in depth-first preorder. A
list that shows of each node only the path still tells from which node it hangs: the nearest
earlier one whose path is this one without the latest step.
-/

namespace AgentsAuth.Lib

/-- The largest index below `n` of which `found` holds, searched downwards. -/
def nearestBelow (found : Nat → Bool) : Nat → Option Nat
  | 0 => none
  | n + 1 => if found n then some n else nearestBelow found n

/-- The search finds the index after which there is no other. -/
theorem nearestBelow_eq_some_iff {found : Nat → Bool} {n o : Nat} :
    nearestBelow found n = some o ↔
      o < n ∧ found o = true ∧ ∀ m, o < m → m < n → found m = false := by
  induction n with
  | zero => simp [nearestBelow]
  | succ n ih =>
    rw [nearestBelow]
    split
    · next hfound =>
      rw [Option.some.injEq]
      constructor
      · rintro rfl
        exact ⟨Nat.lt_succ_self n, hfound, fun m hm hmn ↦ by omega⟩
      · rintro ⟨ho, -, hnone⟩
        by_contra hne
        have hlater := hnone n (by omega) (Nat.lt_succ_self n)
        rw [hfound] at hlater
        cases hlater
    · next hnot =>
      rw [ih]
      constructor
      · rintro ⟨ho, hfound, hnone⟩
        refine ⟨by omega, hfound, fun m hom hm ↦ ?_⟩
        by_cases hmn : m = n
        · rw [hmn]
          exact eq_false_of_ne_true hnot
        · exact hnone m hom (by omega)
      · rintro ⟨ho, hfound, hnone⟩
        have hne : o ≠ n := by
          rintro rfl
          exact hnot hfound
        exact ⟨by omega, hfound, fun m hom hm ↦ hnone m hom (by omega)⟩

/-- What hangs from a node that is reached by `path`, the latest step first: a child with what
hangs from it, and the children after it. -/
inductive Branches {κ : Type} (Node : List κ → Type) : List κ → Type
  | none {path : List κ} : Branches Node path
  | next {path : List κ} (step : κ) (node : Node (step :: path))
      (children : Branches Node (step :: path)) (siblings : Branches Node path) :
      Branches Node path

namespace Branches

variable {κ : Type} {Node : List κ → Type}

/-- The nodes in depth-first preorder, each with its path. -/
def preorder : {path : List κ} → Branches Node path → List ((path : List κ) × Node path)
  | _, .none => []
  | path, .next step node children siblings =>
    ⟨step :: path, node⟩ :: (children.preorder ++ siblings.preorder)

/-- For each node of the preorder the position of the node it hangs from, when the node that the
branches hang from is at `origin` and their own listing begins at `position`. -/
def origins : {path : List κ} → Branches Node path → (origin position : Nat) → List Nat
  | _, .none, _, _ => []
  | _, .next _ _ children siblings, origin, position =>
    origin :: (children.origins position (position + 1) ++
      siblings.origins origin (position + 1 + children.preorder.length))

/-- The paths of the preorder. -/
def paths {path : List κ} (b : Branches Node path) : List (List κ) := b.preorder.map Sigma.fst

/-- Every node has an origin. -/
theorem length_origins {path : List κ} (b : Branches Node path) (origin position : Nat) :
    (b.origins origin position).length = b.preorder.length := by
  induction b generalizing origin position with
  | none => rfl
  | next step node children siblings ihc ihs =>
    simp only [origins, preorder, List.length_cons, List.length_append, ihc, ihs]

/-- The paths of the first child, of what hangs from it and of its siblings. -/
theorem paths_next {path : List κ} {step : κ} {node : Node (step :: path)}
    {children : Branches Node (step :: path)} {siblings : Branches Node path} :
    (Branches.next step node children siblings).paths =
      (step :: path) :: (children.paths ++ siblings.paths) := by
  rw [paths, preorder, List.map_cons, List.map_append]
  rfl

/-- Paths grow downwards. -/
theorem length_lt_of_mem_paths {path other : List κ} {b : Branches Node path}
    (h : other ∈ b.paths) : path.length < other.length := by
  induction b with
  | none => cases h
  | next step node children siblings ihc ihs =>
    rw [paths_next, List.mem_cons, List.mem_append] at h
    rcases h with rfl | hchild | hsibling
    · exact Nat.lt_succ_self _
    · exact Nat.lt_of_succ_lt (ihc hchild)
    · exact ihs hsibling

end Branches

/-- The node at `o` has the path of the one at `i` without the latest step, and every node between
them has a longer one. -/
def HangsFrom {κ : Type} (paths : List (List κ)) (i o : Nat) : Prop :=
  ∃ step path, paths[i]? = some (step :: path) ∧ o < i ∧ paths[o]? = some path ∧
    ∀ m, o < m → m < i → ∀ other, paths[m]? = some other → path.length < other.length

/-- The paths alone tell the origins: what is listed between a node and its origin hangs from the
same node or further down. -/
theorem Branches.hangsFrom_of_origins {κ : Type} {Node : List κ → Type} {path : List κ}
    (b : Branches Node path) {paths before after : List (List κ)} {origin i o : Nat}
    (hpaths : paths = before ++ (b.paths ++ after)) (horigin : before[origin]? = some path)
    (hlonger : ∀ m, origin < m → ∀ other, before[m]? = some other → path.length < other.length)
    (h : (b.origins origin before.length)[i]? = some o) :
    HangsFrom paths (before.length + i) o := by
  induction b generalizing before after origin i o with
  | none => simp [origins] at h
  | @next path step node children siblings ihc ihs =>
    have hbound : origin < before.length := (List.getElem?_eq_some_iff.mp horigin).1
    have hbefore : ∀ m < before.length, paths[m]? = before[m]? := by
      intro m hm
      rw [hpaths, List.getElem?_append_left hm]
    rw [paths_next] at hpaths
    rw [origins] at h
    cases i with
    | zero =>
      -- the first child: only what hangs from its origin is listed between them
      cases h
      refine ⟨step, path, ?_, hbound, ?_, fun m hom hm other hother ↦ ?_⟩
      · rw [hpaths, Nat.add_zero, List.getElem?_append_right (Nat.le_refl _)]
        simp
      · rw [hbefore origin hbound, horigin]
      · rw [hbefore m hm] at hother
        exact hlonger m hom other hother
    | succ i =>
      rw [List.getElem?_cons_succ] at h
      by_cases hi : i < children.preorder.length
      · rw [List.getElem?_append_left (by rwa [length_origins])] at h
        have hlength : (before ++ [step :: path]).length = before.length + 1 := by simp
        rw [← hlength] at h
        have hsplit : paths = before ++ [step :: path] ++
            (children.paths ++ (siblings.paths ++ after)) := by
          rw [hpaths]
          simp
        have hchild := ihc hsplit (by simp) (fun m hm other hother ↦ ?_) h
        · rwa [hlength, Nat.add_right_comm, Nat.add_assoc] at hchild
        · have hm' := (List.getElem?_eq_some_iff.mp hother).1
          rw [hlength] at hm'
          omega
      · rw [List.getElem?_append_right (by rw [length_origins]; omega), length_origins] at h
        have hlength : (before ++ ((step :: path) :: children.paths)).length =
            before.length + 1 + children.preorder.length := by
          simp [Branches.paths]
          omega
        rw [← hlength] at h
        have hsplit : paths = before ++ ((step :: path) :: children.paths) ++
            (siblings.paths ++ after) := by
          rw [hpaths]
          simp
        have hsibling := ihs hsplit (by rw [List.getElem?_append_left hbound, horigin])
          (fun m hm other hother ↦ ?_) h
        · rw [hlength] at hsibling
          have hposition : before.length + 1 + children.preorder.length +
              (i - children.preorder.length) = before.length + (i + 1) := by omega
          rwa [hposition] at hsibling
        · by_cases hmb : m < before.length
          · rw [List.getElem?_append_left hmb] at hother
            exact hlonger m hm other hother
          · rw [List.getElem?_append_right (by omega)] at hother
            rcases List.mem_cons.mp (List.mem_of_getElem? hother) with rfl | hmem
            · exact Nat.lt_succ_self _
            · exact Nat.lt_of_succ_lt (length_lt_of_mem_paths hmem)

end AgentsAuth.Lib
