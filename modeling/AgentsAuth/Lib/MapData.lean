import AgentsAuth.Lib.InsertionMap
import Mathlib.Data.List.ReduceOption

/-!
# The record list of an ECMAScript `Map`

A `Map` is a list of records that only grows: deleting an entry leaves its record
empty, and a `for`–`of` loop walks the list by index, so that the loop meets what
its body leaves there. The entries are an insertion-ordered map; deletion, insertion,
the loop that deletes what it meets, and the loop that deletes the first entry until
there is room are related to its operations. Loops take fuel and answer `none` where
it does not suffice.
-/

namespace AgentsAuth.Lib

universe u v

/-- The records of a `Map`; a deleted one is `none`. -/
@[ext] structure MapData (κ : Type u) (ν : Type v) where
  slots : List (Option (κ × ν))
  nodup : (slots.reduceOption.map Prod.fst).Nodup

namespace MapData

variable {κ : Type u} {ν : Type v}

/-- The entries in insertion order. -/
def toMap (data : MapData κ ν) : InsertionMap κ ν := ⟨data.slots.reduceOption, data.nodup⟩

/-- `new Map()`. -/
def empty : MapData κ ν := ⟨[], List.nodup_nil⟩

/-- `map.size`. -/
def size (data : MapData κ ν) : Nat := data.toMap.size

private theorem reduceOption_map_filter (p : κ × ν → Bool) (slots : List (Option (κ × ν))) :
    (slots.map (Option.filter p)).reduceOption = slots.reduceOption.filter p := by
  induction slots with
  | nil => rfl
  | cons slot slots ih =>
    cases slot with
    | none => simpa using ih
    | some e =>
      by_cases he : p e = true
      · simp [Option.filter, he, ih]
      · simp [Option.filter, he, ih]

/-- Empty the records that `p` does not admit. -/
def keep (p : κ → ν → Bool) (data : MapData κ ν) : MapData κ ν where
  slots := data.slots.map (Option.filter fun e ↦ p e.1 e.2)
  nodup := by
    rw [reduceOption_map_filter]
    exact data.nodup.sublist (List.filter_sublist.map _)

/-- Emptying records filters the entries. -/
theorem toMap_keep (p : κ → ν → Bool) (data : MapData κ ν) :
    (data.keep p).toMap = data.toMap.filter p := by
  unfold toMap keep InsertionMap.filter
  simp only [reduceOption_map_filter]

/-- Emptying keeps the number of records. -/
theorem length_keep (p : κ → ν → Bool) (data : MapData κ ν) :
    (data.keep p).slots.length = data.slots.length :=
  List.length_map _

/-- There are no more entries than records. -/
theorem size_le (data : MapData κ ν) : data.size ≤ data.slots.length :=
  List.reduceOption_length_le _

/-- Emptying nothing changes nothing. -/
theorem keep_eq_self {p : κ → ν → Bool} {data : MapData κ ν}
    (h : ∀ e, some e ∈ data.slots → p e.1 e.2 = true) : data.keep p = data := by
  apply MapData.ext
  show data.slots.map (Option.filter fun e ↦ p e.1 e.2) = data.slots
  apply (List.map_congr_left _).trans (List.map_id _)
  intro slot hslot
  cases slot with
  | none => rfl
  | some e => simp [Option.filter, h e hslot]

/-- Two rounds of emptying are one. -/
theorem keep_keep (p q : κ → ν → Bool) (data : MapData κ ν) :
    (data.keep q).keep p = data.keep fun k v ↦ q k v && p k v := by
  apply MapData.ext
  show (data.slots.map _).map _ = data.slots.map _
  rw [List.map_map]
  apply List.map_congr_left
  intro slot _
  cases slot with
  | none => rfl
  | some e =>
    by_cases hq : q e.1 e.2 = true
    · simp [Option.filter, hq]
    · simp [Option.filter, hq]

/-- What is emptied depends on the records alone. -/
theorem keep_congr {p q : κ → ν → Bool} {data : MapData κ ν}
    (h : ∀ e, some e ∈ data.slots → p e.1 e.2 = q e.1 e.2) : data.keep p = data.keep q := by
  apply MapData.ext
  apply List.map_congr_left
  intro slot hslot
  cases slot with
  | none => rfl
  | some e => simp only [Option.filter, h e hslot]

/-- `for (const [k, v] of map) …` from record `i`. -/
def forOf (body : MapData κ ν → κ → ν → MapData κ ν) :
    Nat → Nat → MapData κ ν → Option (MapData κ ν)
  | 0, _, _ => none
  | fuel + 1, i, data =>
    match data.slots[i]? with
    | none => some data
    | some none => forOf body fuel (i + 1) data
    | some (some e) => forOf body fuel (i + 1) (body data e.1 e.2)

private theorem mem_take_succ {slots : List (Option (κ × ν))} {i : Nat} {e : κ × ν}
    {slot : Option (κ × ν)} (hi : slots[i]? = some slot) :
    some e ∈ slots.take (i + 1) ↔ some e ∈ slots.take i ∨ slot = some e := by
  rw [List.take_add_one, hi]
  simp [eq_comm]

private theorem key_unique {data : MapData κ ν} {d e : κ × ν} (hd : some d ∈ data.slots)
    (he : some e ∈ data.slots) (hk : d.1 = e.1) : d = e :=
  List.inj_on_of_nodup_map data.nodup (List.reduceOption_mem_iff.mpr hd)
    (List.reduceOption_mem_iff.mpr he) hk

variable [DecidableEq κ]

/-- `map.get(k)`. -/
def get? (data : MapData κ ν) (k : κ) : Option ν := data.toMap.get? k

/-- `map.delete(k)`. -/
def delete (data : MapData κ ν) (k : κ) : MapData κ ν := data.keep fun k' _ ↦ k' ≠ k

/-- `map.delete(map.keys().next().value)`; of a map without entries it deletes nothing. -/
def deleteFirst (data : MapData κ ν) : MapData κ ν :=
  match data.toMap.entries with
  | [] => data
  | e :: _ => data.delete e.1

/-- `while (map.size >= limit) map.delete(map.keys().next().value)`. -/
def deleteWhileFull (limit : Nat) : Nat → MapData κ ν → Option (MapData κ ν)
  | 0, _ => none
  | fuel + 1, data =>
    if limit ≤ data.size then deleteWhileFull limit fuel data.deleteFirst else some data

/-- Deleting an entry that is not to be kept leaves the same to be kept. -/
theorem keep_delete {p : κ → ν → Bool} {data : MapData κ ν} {e : κ × ν}
    (he : some e ∈ data.slots) (hp : p e.1 e.2 = false) :
    (data.delete e.1).keep p = data.keep p := by
  rw [delete, keep_keep]
  apply keep_congr
  intro d hd
  by_cases hk : d.1 = e.1
  · rw [key_unique hd he hk, hp]
    simp
  · simp [hk]

private def setSlots (data : MapData κ ν) (k : κ) (v : ν) : List (Option (κ × ν)) :=
  match data.get? k with
  | some _ => data.slots.map (Option.map fun e ↦ if e.1 = k then (k, v) else e)
  | none => data.slots ++ [some (k, v)]

private theorem reduceOption_setSlots (data : MapData κ ν) (k : κ) (v : ν) :
    (data.setSlots k v).reduceOption = (data.toMap.set k v).entries := by
  unfold setSlots
  cases h : data.get? k with
  | some w =>
    rw [InsertionMap.entries_set_of_some h]
    exact List.reduceOption_map
  | none =>
    rw [InsertionMap.entries_set_of_none h]
    simp [toMap, List.reduceOption_append]

/-- `map.set(k, v)`: in the record of the key if there is one, in a new record otherwise. -/
def set (data : MapData κ ν) (k : κ) (v : ν) : MapData κ ν where
  slots := data.setSlots k v
  nodup := by
    rw [reduceOption_setSlots]
    exact (data.toMap.set k v).nodup

/-- Setting sets in the map of entries. -/
theorem toMap_set (data : MapData κ ν) (k : κ) (v : ν) :
    (data.set k v).toMap = data.toMap.set k v :=
  InsertionMap.ext (data.reduceOption_setSlots k v)

/-- Setting adds at most one record. -/
theorem length_set_le (data : MapData κ ν) (k : κ) (v : ν) :
    (data.set k v).slots.length ≤ data.slots.length + 1 := by
  show (data.setSlots k v).length ≤ _
  unfold setSlots
  cases data.get? k with
  | some w =>
    rw [List.length_map]
    exact Nat.le_succ _
  | none =>
    rw [List.length_append]
    exact Nat.le_refl _

private theorem mem_take_delete {data : MapData κ ν} {k : κ} {i : Nat} {e : κ × ν} :
    some e ∈ (data.delete k).slots.take i ↔ some e ∈ data.slots.take i ∧ e.1 ≠ k := by
  show some e ∈ (data.slots.map _).take i ↔ _
  rw [← List.map_take, List.mem_map]
  constructor
  · rintro ⟨slot, hslot, he⟩
    obtain ⟨rfl, hk⟩ := Option.filter_eq_some_iff.mp he
    exact ⟨hslot, by simpa using hk⟩
  · rintro ⟨he, hk⟩
    exact ⟨some e, he, Option.filter_eq_some_iff.mpr ⟨rfl, by simpa using hk⟩⟩

/-- The loop that deletes the entries `p` where it meets them leaves the others, when the
records before it hold none. -/
theorem forOf_delete (p : κ → ν → Bool) (fuel i : Nat) (data : MapData κ ν)
    (hi : i ≤ data.slots.length) (hfuel : data.slots.length < fuel + i)
    (hvisited : ∀ e, some e ∈ data.slots.take i → p e.1 e.2 = false) :
    forOf (fun d k v ↦ if p k v then d.delete k else d) fuel i data =
      some (data.keep fun k v ↦ !p k v) := by
  induction fuel generalizing i data with
  | zero => omega
  | succ fuel ih =>
    rw [forOf]
    cases hslot : data.slots[i]? with
    | none =>
      have hend : data.slots.length ≤ i := List.getElem?_eq_none_iff.mp hslot
      rw [List.take_of_length_le hend] at hvisited
      show some data = _
      rw [keep_eq_self]
      intro e he
      simp [hvisited e he]
    | some slot =>
      have hlt : i < data.slots.length := (List.getElem?_eq_some_iff.mp hslot).1
      cases slot with
      | none =>
        apply ih (i + 1) data hlt (by omega)
        intro e he
        exact hvisited e (((mem_take_succ hslot).mp he).resolve_right (by simp))
      | some e =>
        show forOf _ fuel (i + 1) (if p e.1 e.2 then data.delete e.1 else data) = _
        by_cases hp : p e.1 e.2 = true
        · -- the record just met is emptied, and every other one stays as it was
          have hnew : ∀ d, some d ∈ (data.delete e.1).slots.take (i + 1) → p d.1 d.2 = false := by
            intro d hd
            obtain ⟨hd, hk⟩ := mem_take_delete.mp hd
            rcases (mem_take_succ hslot).mp hd with hd | hd
            · exact hvisited d hd
            · obtain rfl : e = d := Option.some.inj hd
              exact absurd rfl hk
          have hlength : (data.delete e.1).slots.length = data.slots.length := data.length_keep _
          rw [if_pos hp, ih (i + 1) (data.delete e.1) (by omega) (by omega) hnew]
          exact congrArg some (keep_delete (List.mem_of_getElem? hslot) (by simp [hp]))
        · rw [if_neg hp]
          apply ih (i + 1) data hlt (by omega)
          intro d hd
          rcases (mem_take_succ hslot).mp hd with hd | hd
          · exact hvisited d hd
          · obtain rfl : e = d := Option.some.inj hd
            exact Bool.eq_false_iff.mpr hp

/-- Deleting the first entry leaves the others. -/
theorem entries_deleteFirst (data : MapData κ ν) :
    data.deleteFirst.toMap.entries = data.toMap.entries.tail := by
  unfold deleteFirst
  have hnodup := data.toMap.nodup
  cases h : data.toMap.entries with
  | nil => simp [h]
  | cons e es =>
    show (data.delete e.1).toMap.entries = es
    rw [h, List.map_cons, List.nodup_cons] at hnodup
    rw [delete, toMap_keep]
    show data.toMap.entries.filter _ = es
    rw [h]
    simp only [List.filter_cons, ne_eq, not_true_eq_false, decide_false, Bool.false_eq_true,
      if_false]
    rw [List.filter_eq_self]
    intro d hd
    simp only [decide_not, Bool.not_eq_eq_eq_not, Bool.not_true, decide_eq_false_iff_not]
    intro hk
    exact hnodup.1 (hk ▸ List.mem_map_of_mem hd)

private theorem length_deleteFirst (data : MapData κ ν) :
    data.deleteFirst.slots.length = data.slots.length := by
  unfold deleteFirst
  cases data.toMap.entries with
  | nil => rfl
  | cons e es => exact data.length_keep _

/-- The loop that makes room for one more entry drops the oldest ones. -/
theorem deleteWhileFull_eq {limit fuel : Nat} (hlimit : 0 < limit) (data : MapData κ ν)
    (hfuel : data.size < fuel) :
    ∃ data', deleteWhileFull limit fuel data = some data' ∧
      data'.toMap = data.toMap.evictTo (limit - 1) ∧
      data'.slots.length = data.slots.length := by
  induction fuel generalizing data with
  | zero => omega
  | succ fuel ih =>
    rw [deleteWhileFull]
    by_cases hfull : limit ≤ data.size
    · have hentries := entries_deleteFirst data
      have hsize : data.deleteFirst.size = data.size - 1 := by
        show data.deleteFirst.toMap.entries.length = data.toMap.entries.length - 1
        rw [hentries, List.length_tail]
      obtain ⟨data', hloop, hmap, hlength⟩ := ih data.deleteFirst (by omega)
      refine ⟨data', by rw [if_pos hfull, hloop], hmap.trans ?_,
        hlength.trans data.length_deleteFirst⟩
      apply InsertionMap.ext
      show data.deleteFirst.toMap.entries.drop (data.deleteFirst.size - (limit - 1)) =
        data.toMap.entries.drop (data.size - (limit - 1))
      rw [hentries, List.drop_tail]
      congr 1
      omega
    · refine ⟨data, if_neg hfull, (InsertionMap.evictTo_of_le ?_).symm, rfl⟩
      show data.size ≤ limit - 1
      omega

end MapData
end AgentsAuth.Lib
