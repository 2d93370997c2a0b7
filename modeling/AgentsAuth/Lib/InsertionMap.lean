import Mathlib.Data.List.Lookmap
import Mathlib.Data.List.Nodup
import Mathlib.Tactic.Common

/-!
# Insertion-ordered maps

Finite maps that remember the order in which their keys were first set, as the
`Map` of ECMAScript does: setting a present key keeps its place, setting an absent
key puts it last, and the first key is the oldest. Distinct keys are part of the
type. `Forall` is the invariant of a table whose every entry was put there for its
key; each operation keeps it.
-/

namespace AgentsAuth.Lib

universe u v

/-- A map with its entries in insertion order and no key twice. -/
@[ext] structure InsertionMap (κ : Type u) (ν : Type v) where
  entries : List (κ × ν)
  nodup : (entries.map Prod.fst).Nodup

namespace InsertionMap

variable {κ : Type u} {ν : Type v}

/-- The map without entries. -/
def empty : InsertionMap κ ν := ⟨[], List.nodup_nil⟩

/-- Number of entries. -/
def size (m : InsertionMap κ ν) : Nat := m.entries.length

/-- Keep the entries that `p` admits, in their order. -/
def filter (p : κ → ν → Bool) (m : InsertionMap κ ν) : InsertionMap κ ν :=
  ⟨m.entries.filter fun e ↦ p e.1 e.2, m.nodup.sublist (List.filter_sublist.map _)⟩

/-- Drop the oldest entries until at most `limit` remain. -/
def evictTo (limit : Nat) (m : InsertionMap κ ν) : InsertionMap κ ν :=
  ⟨m.entries.drop (m.size - limit), m.nodup.sublist ((List.drop_sublist _ _).map _)⟩

/-- Every entry satisfies `P`. -/
def Forall (P : κ → ν → Prop) (m : InsertionMap κ ν) : Prop := ∀ e ∈ m.entries, P e.1 e.2

/-- The entries of a filtered map are the admitted ones. -/
theorem mem_entries_filter {m : InsertionMap κ ν} {p : κ → ν → Bool} {e : κ × ν} :
    e ∈ (m.filter p).entries ↔ e ∈ m.entries ∧ p e.1 e.2 = true :=
  List.mem_filter

/-- Eviction keeps only entries that were there. -/
theorem entries_evictTo_subset (m : InsertionMap κ ν) (limit : Nat) :
    (m.evictTo limit).entries ⊆ m.entries :=
  List.drop_subset _ _

/-- A map within the limit loses nothing. -/
theorem evictTo_of_le {m : InsertionMap κ ν} {limit : Nat} (h : m.size ≤ limit) :
    m.evictTo limit = m := by
  cases m
  simp only [evictTo, Nat.sub_eq_zero_of_le h, List.drop_zero]

/-- Eviction reaches its limit. -/
theorem size_evictTo (m : InsertionMap κ ν) (limit : Nat) :
    (m.evictTo limit).size = min m.size limit := by
  simp only [evictTo, size, List.length_drop]
  omega

/-- Filtering adds nothing. -/
theorem size_filter_le (m : InsertionMap κ ν) (p : κ → ν → Bool) : (m.filter p).size ≤ m.size :=
  List.length_filter_le _ _

/-- The empty map satisfies every entry invariant. -/
theorem forall_empty (P : κ → ν → Prop) : (empty : InsertionMap κ ν).Forall P := by
  simp [Forall, empty]

/-- A weaker invariant follows. -/
theorem Forall.imp {P Q : κ → ν → Prop} {m : InsertionMap κ ν} (hm : m.Forall P)
    (h : ∀ k v, P k v → Q k v) : m.Forall Q := fun e he ↦ h e.1 e.2 (hm e he)

/-- Filtering keeps the invariant. -/
theorem Forall.filter {P : κ → ν → Prop} {m : InsertionMap κ ν} (hm : m.Forall P)
    (p : κ → ν → Bool) : (m.filter p).Forall P :=
  fun e he ↦ hm e (List.mem_of_mem_filter he)

/-- Evicting keeps the invariant. -/
theorem Forall.evictTo {P : κ → ν → Prop} {m : InsertionMap κ ν} (hm : m.Forall P)
    (limit : Nat) : (m.evictTo limit).Forall P :=
  fun e he ↦ hm e (m.entries_evictTo_subset limit he)

variable [DecidableEq κ]

/-- The value under a key. -/
def get? (m : InsertionMap κ ν) (k : κ) : Option ν := m.entries.lookup k

/-- Remove a key. -/
def erase (m : InsertionMap κ ν) (k : κ) : InsertionMap κ ν := m.filter fun k' _ ↦ k' ≠ k

private def setEntries (k : κ) (v : ν) : List (κ × ν) → List (κ × ν)
  | [] => [(k, v)]
  | e :: rest => if e.1 = k then (k, v) :: rest else e :: setEntries k v rest

private theorem mem_setEntries_fst (k : κ) (v : ν) (es : List (κ × ν)) (a : κ) :
    a ∈ (setEntries k v es).map Prod.fst ↔ a = k ∨ a ∈ es.map Prod.fst := by
  induction es with
  | nil => simp [setEntries]
  | cons e es ih =>
    rw [setEntries]
    split
    · next he => simp [he]
    · simp only [List.map_cons, List.mem_cons, ih]
      tauto

private theorem nodup_setEntries (k : κ) (v : ν) (es : List (κ × ν))
    (h : (es.map Prod.fst).Nodup) : ((setEntries k v es).map Prod.fst).Nodup := by
  induction es with
  | nil => simp [setEntries]
  | cons e es ih =>
    rw [List.map_cons, List.nodup_cons] at h
    rw [setEntries]
    split
    · next he => simpa [← he] using h
    · next he =>
      rw [List.map_cons, List.nodup_cons, mem_setEntries_fst]
      exact ⟨not_or.mpr ⟨he, h.1⟩, ih h.2⟩

/-- Put a value under a key: in the key's place if it is present, last otherwise. -/
def set (m : InsertionMap κ ν) (k : κ) (v : ν) : InsertionMap κ ν :=
  ⟨setEntries k v m.entries, nodup_setEntries k v m.entries m.nodup⟩

private theorem lookup_eq_some_iff {es : List (κ × ν)} (h : (es.map Prod.fst).Nodup)
    {k : κ} {v : ν} : es.lookup k = some v ↔ (k, v) ∈ es := by
  induction es with
  | nil => simp
  | cons e es ih =>
    obtain ⟨k', v'⟩ := e
    rw [List.map_cons, List.nodup_cons] at h
    by_cases hk : k = k'
    · subst k'
      have hn : (k, v) ∉ es := fun hm ↦ h.1 (List.mem_map.mpr ⟨(k, v), hm, rfl⟩)
      simp [hn, eq_comm]
    · rw [List.lookup_cons, beq_eq_false_iff_ne.mpr hk, ih h.2]
      simp [hk]

private theorem length_setEntries_le (k : κ) (v : ν) (es : List (κ × ν)) :
    (setEntries k v es).length ≤ es.length + 1 := by
  induction es with
  | nil => exact Nat.le_refl _
  | cons e es ih =>
    rw [setEntries]
    split
    · exact Nat.le_succ _
    · exact Nat.succ_le_succ ih

/-- Setting a key adds at most one entry. -/
theorem size_set_le (m : InsertionMap κ ν) (k : κ) (v : ν) : (m.set k v).size ≤ m.size + 1 :=
  length_setEntries_le k v m.entries

/-- Lookup finds exactly the entries. -/
theorem get?_eq_some_iff {m : InsertionMap κ ν} {k : κ} {v : ν} :
    m.get? k = some v ↔ (k, v) ∈ m.entries :=
  lookup_eq_some_iff m.nodup

/-- A missing key has no entry. -/
theorem get?_eq_none_iff {m : InsertionMap κ ν} {k : κ} :
    m.get? k = none ↔ ∀ v, (k, v) ∉ m.entries := by
  rw [Option.eq_none_iff_forall_ne_some]
  exact forall_congr' fun v ↦ not_congr get?_eq_some_iff

/-- The empty map has no values. -/
@[simp] theorem get?_empty (k : κ) : (empty : InsertionMap κ ν).get? k = none := rfl

private theorem mem_setEntries {k : κ} {v : ν} {es : List (κ × ν)}
    (h : (es.map Prod.fst).Nodup) {e : κ × ν} :
    e ∈ setEntries k v es ↔ e = (k, v) ∨ e ∈ es ∧ e.1 ≠ k := by
  induction es with
  | nil => simp [setEntries]
  | cons d es ih =>
    rw [List.map_cons, List.nodup_cons] at h
    rw [setEntries]
    split
    · next hd =>
      have hn : ∀ x ∈ es, x.1 ≠ k := by
        intro x hx hk
        exact h.1 (List.mem_map.mpr ⟨x, hx, hk.trans hd.symm⟩)
      simp only [List.mem_cons]
      constructor
      · rintro (he | he)
        · exact Or.inl he
        · exact Or.inr ⟨Or.inr he, hn e he⟩
      · rintro (he | ⟨rfl | he, hk⟩)
        · exact Or.inl he
        · exact absurd hd hk
        · exact Or.inr he
    · next hd =>
      rw [List.mem_cons, ih h.2, List.mem_cons]
      constructor
      · rintro (rfl | he | ⟨he, hk⟩)
        · exact Or.inr ⟨Or.inl rfl, hd⟩
        · exact Or.inl he
        · exact Or.inr ⟨Or.inr he, hk⟩
      · rintro (he | ⟨he | he, hk⟩)
        · exact Or.inr (Or.inl he)
        · exact Or.inl he
        · exact Or.inr (Or.inr ⟨he, hk⟩)

/-- The entries after a set: the new one, and the old ones under other keys. -/
theorem mem_entries_set {m : InsertionMap κ ν} {k : κ} {v : ν} {e : κ × ν} :
    e ∈ (m.set k v).entries ↔ e = (k, v) ∨ e ∈ m.entries ∧ e.1 ≠ k :=
  mem_setEntries m.nodup

/-- A value just set is found. -/
@[simp] theorem get?_set_self (m : InsertionMap κ ν) (k : κ) (v : ν) :
    (m.set k v).get? k = some v :=
  get?_eq_some_iff.mpr (mem_entries_set.mpr (Or.inl rfl))

/-- Setting one key leaves the others alone. -/
theorem get?_set_ne (m : InsertionMap κ ν) {k a : κ} (v : ν) (h : a ≠ k) :
    (m.set k v).get? a = m.get? a := by
  apply Option.ext
  intro w
  rw [get?_eq_some_iff, get?_eq_some_iff, mem_entries_set]
  simp [h]

private theorem setEntries_of_not_mem {k : κ} {v : ν} {es : List (κ × ν)}
    (h : k ∉ es.map Prod.fst) : setEntries k v es = es ++ [(k, v)] := by
  induction es with
  | nil => rfl
  | cons e es ih =>
    rw [List.map_cons, List.mem_cons, not_or] at h
    rw [setEntries, if_neg fun he ↦ h.1 he.symm, ih h.2]
    rfl

private theorem setEntries_of_mem {k : κ} {v : ν} {es : List (κ × ν)}
    (hnodup : (es.map Prod.fst).Nodup) (h : k ∈ es.map Prod.fst) :
    setEntries k v es = es.map fun e ↦ if e.1 = k then (k, v) else e := by
  induction es with
  | nil => cases h
  | cons e es ih =>
    rw [List.map_cons, List.nodup_cons] at hnodup
    rw [setEntries, List.map_cons]
    split
    · next he =>
      have hrest : ∀ d ∈ es, (if d.1 = k then (k, v) else d) = d := by
        intro d hd
        apply if_neg
        intro hk
        exact hnodup.1 (List.mem_map.mpr ⟨d, hd, hk.trans he.symm⟩)
      rw [List.map_congr_left hrest, List.map_id']
    · next he =>
      rw [List.map_cons, List.mem_cons] at h
      rw [ih hnodup.2 (h.resolve_left fun hk ↦ he hk.symm)]

/-- An absent key is set last. -/
theorem entries_set_of_none {m : InsertionMap κ ν} {k : κ} {v : ν} (h : m.get? k = none) :
    (m.set k v).entries = m.entries ++ [(k, v)] := by
  apply setEntries_of_not_mem
  rw [List.mem_map]
  rintro ⟨e, he, rfl⟩
  exact get?_eq_none_iff.mp h e.2 he

/-- A present key is set in its place. -/
theorem entries_set_of_some {m : InsertionMap κ ν} {k : κ} {v w : ν} (h : m.get? k = some w) :
    (m.set k v).entries = m.entries.map fun e ↦ if e.1 = k then (k, v) else e :=
  setEntries_of_mem m.nodup (List.mem_map_of_mem (get?_eq_some_iff.mp h))

/-- Filtering finds an admitted value and no other. -/
theorem get?_filter_eq_some_iff {m : InsertionMap κ ν} {p : κ → ν → Bool} {k : κ} {v : ν} :
    (m.filter p).get? k = some v ↔ m.get? k = some v ∧ p k v = true := by
  rw [get?_eq_some_iff, get?_eq_some_iff, mem_entries_filter]

/-- An erased key is gone. -/
@[simp] theorem get?_erase_self (m : InsertionMap κ ν) (k : κ) : (m.erase k).get? k = none := by
  rw [get?_eq_none_iff]
  intro v hv
  simpa using (mem_entries_filter.mp hv).2

/-- Erasing one key leaves the others alone. -/
theorem get?_erase_ne (m : InsertionMap κ ν) {k a : κ} (h : a ≠ k) :
    (m.erase k).get? a = m.get? a := by
  apply Option.ext
  intro w
  rw [erase, get?_filter_eq_some_iff]
  simp [h]

/-- A value found satisfies the invariant for the key it was found under. -/
theorem Forall.of_get? {P : κ → ν → Prop} {m : InsertionMap κ ν} (hm : m.Forall P)
    {k : κ} {v : ν} (h : m.get? k = some v) : P k v :=
  hm (k, v) (get?_eq_some_iff.mp h)

/-- Setting a value that satisfies the invariant keeps it. -/
theorem Forall.set {P : κ → ν → Prop} {m : InsertionMap κ ν} (hm : m.Forall P)
    {k : κ} {v : ν} (h : P k v) : (m.set k v).Forall P := by
  intro e he
  rcases mem_entries_set.mp he with rfl | ⟨he, -⟩
  · exact h
  · exact hm e he

/-- Erasing keeps the invariant. -/
theorem Forall.erase {P : κ → ν → Prop} {m : InsertionMap κ ν} (hm : m.Forall P) (k : κ) :
    (m.erase k).Forall P :=
  hm.filter _

end InsertionMap
end AgentsAuth.Lib
