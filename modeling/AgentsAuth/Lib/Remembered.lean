import AgentsAuth.Lib.InsertionMap
import AgentsAuth.Lib.Recency
import Mathlib.Data.Finset.Card

/-!
# Values remembered last

A map that is given a value for a key again and again, and holds the keys given last up to a bound.
What it holds for a key can be told from the log of what it was given: the value given last, unless
as many other keys as it holds have been given one since.
-/

namespace AgentsAuth.Lib

universe u v w

variable {κ : Type u} {ν : Type v}

namespace Use

variable [DecidableEq κ]

private theorem nodup_fresh_touches (ks : List κ) : (fresh (ks.map touch)).Nodup := by
  induction ks using List.reverseRecOn with
  | nil => exact List.nodup_nil
  | append_singleton ks k ih =>
    rw [List.map_append, List.map_singleton, fresh_concat, apply_touch]
    apply (ih.filter _).append (List.nodup_singleton k)
    simp

private theorem mem_fresh_touches {ks : List κ} {k : κ} : k ∈ fresh (ks.map touch) ↔ k ∈ ks := by
  induction ks using List.reverseRecOn with
  | nil => simp [fresh]
  | append_singleton ks k' ih =>
    rw [List.map_append, List.map_singleton, fresh_concat, apply_touch]
    by_cases h : k = k' <;> simp [ih, h]

/-- Keys touched and never dropped count once each. -/
theorem length_fresh_touches (ks : List κ) : (fresh (ks.map touch)).length = ks.toFinset.card := by
  rw [← List.toFinset_card_of_nodup (nodup_fresh_touches ks)]
  congr 1
  ext k
  rw [List.mem_toFinset, List.mem_toFinset, mem_fresh_touches]

private theorem mem_held_of_recentlyUsed {limit : Nat} {ks : List κ} {k : κ}
    (h : RecentlyUsed limit (ks.map touch) k) : k ∈ held limit (ks.map touch) := by
  induction ks using List.reverseRecOn with
  | nil =>
    obtain ⟨before, after, hlog, -⟩ := h
    simp at hlog
  | append_singleton ks k' ih =>
    rw [List.map_append, List.map_singleton] at h ⊢
    by_cases hk : k' = k
    · subst hk
      apply mem_held_touch
      obtain ⟨before, after, -, -, hroom⟩ := h
      exact (Nat.zero_le _).trans_lt (hroom [] List.nil_prefix)
    · have htouch : touch k' ≠ touch k := fun heq ↦ hk (touch.inj heq)
      exact mem_held_concat (ih (h.of_concat htouch)) htouch (by simp) h

/-- A key of a store without drops is held until as many others as it holds have been touched. -/
theorem mem_held_touches_iff {limit : Nat} {ks : List κ} {k : κ} :
    k ∈ held limit (ks.map touch) ↔
      ∃ before after, ks = before ++ k :: after ∧ k ∉ after ∧ after.toFinset.card < limit := by
  constructor
  · intro h
    obtain ⟨before, after, hlog, hlast, hroom⟩ := recentlyUsed_of_mem_held h
    obtain ⟨before, rest, rfl, rfl, hrest⟩ := List.map_eq_append_iff.mp hlog
    obtain ⟨k', after, rfl, hk, rfl⟩ := List.map_eq_cons_iff.mp hrest
    obtain rfl := touch.inj hk
    refine ⟨before, after, rfl, fun hmem ↦ hlast (List.mem_map_of_mem hmem), ?_⟩
    rw [← length_fresh_touches]
    exact hroom _ (List.prefix_refl _)
  · rintro ⟨before, after, rfl, hlast, hroom⟩
    apply mem_held_of_recentlyUsed
    refine ⟨before.map touch, after.map touch, by simp, by simpa using hlast, ?_⟩
    intro mid hmid
    obtain ⟨rest, hrest⟩ := hmid
    obtain ⟨mid, rest, rfl, rfl, -⟩ := List.map_eq_append_iff.mp hrest.symm
    rw [length_fresh_touches]
    apply (Finset.card_le_card _).trans_lt hroom
    intro k' hk'
    rw [List.mem_toFinset] at hk' ⊢
    exact List.mem_append_left _ hk'

end Use

namespace InsertionMap

/-- The keys of a map, the one set last at the end. -/
def keys (m : InsertionMap κ ν) : List κ := m.entries.map Prod.fst

/-- Eviction takes the oldest keys. -/
theorem keys_evictTo (m : InsertionMap κ ν) (limit : Nat) :
    keys (m.evictTo limit) = (keys m).drop ((keys m).length - limit) := by
  unfold keys evictTo size
  rw [List.map_drop, List.length_map]

private theorem latest_unique {before after before' after' : List (κ × ν)} {k : κ} {v v' : ν}
    (h : before ++ (k, v) :: after = before' ++ (k, v') :: after')
    (hlast : k ∉ after.map Prod.fst) (hlast' : k ∉ after'.map Prod.fst) : v = v' := by
  have hkeys : before.map Prod.fst ++ k :: after.map Prod.fst =
      before'.map Prod.fst ++ k :: after'.map Prod.fst := by
    simpa using congrArg (List.map Prod.fst) h
  have hafter := last_split_unique hlast hlast' hkeys
  have hlength : after.length = after'.length := by
    simpa using congrArg List.length hafter
  have htail := (List.append_inj' h (by simp [hlength])).2
  exact congrArg Prod.snd (List.cons.inj htail).1

variable [DecidableEq κ]

/-- Give a key a value, put it last, and drop the oldest keys down to the bound. -/
def remember (limit : Nat) (m : InsertionMap κ ν) (e : κ × ν) : InsertionMap κ ν :=
  ((m.erase e.1).set e.1 e.2).evictTo limit

/-- The map that was given the values of a log. -/
def remembered (limit : Nat) (log : List (κ × ν)) : InsertionMap κ ν :=
  log.foldl (remember limit) empty

/-- The value that a key was given last, with fewer than `limit` other keys given one since. -/
def Recalled (limit : Nat) (log : List (κ × ν)) (k : κ) (v : ν) : Prop :=
  ∃ before after, log = before ++ (k, v) :: after ∧ k ∉ after.map Prod.fst ∧
    (after.map Prod.fst).toFinset.card < limit

variable {limit : Nat} {m : InsertionMap κ ν} {log : List (κ × ν)} {k : κ} {v : ν}

/-- One more value. -/
@[simp] theorem remembered_concat (log : List (κ × ν)) (e : κ × ν) :
    remembered limit (log ++ [e]) = remember limit (remembered limit log) e := by
  simp [remembered]

/-- The keys of a map are those with a value. -/
theorem mem_keys_iff : k ∈ keys m ↔ ∃ v, m.get? k = some v := by
  rw [keys, List.mem_map]
  constructor
  · rintro ⟨e, he, rfl⟩
    exact ⟨e.2, get?_eq_some_iff.mpr he⟩
  · rintro ⟨v, hv⟩
    exact ⟨(k, v), get?_eq_some_iff.mp hv, rfl⟩

/-- Erasing a key drops it. -/
theorem keys_erase (m : InsertionMap κ ν) (k : κ) :
    keys (m.erase k) = Use.apply (keys m) (.drop k) := by
  rw [Use.apply_drop, keys, keys, List.filter_map]
  rfl

/-- Setting a key anew touches it. -/
theorem keys_move (m : InsertionMap κ ν) (k : κ) (v : ν) :
    keys ((m.erase k).set k v) = Use.apply (keys m) (.touch k) := by
  rw [keys, entries_set_of_none (m.get?_erase_self k), List.map_append]
  exact congrArg (· ++ [k]) (keys_erase m k)

/-- The keys are those given a value last. -/
theorem keys_remembered (log : List (κ × ν)) :
    keys (remembered limit log) = Use.held limit ((log.map Prod.fst).map .touch) := by
  induction log using List.reverseRecOn with
  | nil => rfl
  | append_singleton log e ih =>
    rw [remembered_concat, remember, keys_evictTo, keys_move, ih, List.map_append, List.map_append,
      List.map_singleton, List.map_singleton, Use.held_concat, Use.hold]

/-- The bound is kept. -/
theorem size_remembered_le (log : List (κ × ν)) : (remembered limit log).size ≤ limit := by
  have hlength := Use.length_held_le limit ((log.map Prod.fst).map Use.touch)
  rwa [← keys_remembered, keys, List.length_map] at hlength

/-- What is held for a key was given last. -/
theorem latest_of_get?_remembered (h : (remembered limit log).get? k = some v) :
    ∃ before after, log = before ++ (k, v) :: after ∧ k ∉ after.map Prod.fst := by
  induction log using List.reverseRecOn with
  | nil => cases h
  | append_singleton log e ih =>
    rw [remembered_concat, remember, get?_eq_some_iff] at h
    have hset := get?_eq_some_iff.mpr (entries_evictTo_subset _ _ h)
    by_cases hk : k = e.1
    · subst hk
      rw [get?_set_self, Option.some.injEq] at hset
      exact ⟨log, [], by rw [← hset], by simp⟩
    · rw [get?_set_ne _ _ hk, get?_erase_ne _ hk] at hset
      obtain ⟨before, after, rfl, hlast⟩ := ih hset
      refine ⟨before, after ++ [e], by simp, ?_⟩
      rw [List.map_append, List.mem_append, not_or]
      exact ⟨hlast, by simpa using hk⟩

/-- The map holds exactly what can be told from its log. -/
theorem get?_remembered_iff :
    (remembered limit log).get? k = some v ↔ Recalled limit log k v := by
  constructor
  · intro h
    obtain ⟨before, after, rfl, hlast⟩ := latest_of_get?_remembered h
    refine ⟨before, after, rfl, hlast, ?_⟩
    have hheld := mem_keys_iff.mpr ⟨v, h⟩
    rw [keys_remembered, Use.mem_held_touches_iff] at hheld
    obtain ⟨ks, ks', hks, hlast', hroom⟩ := hheld
    have hkeys : before.map Prod.fst ++ k :: after.map Prod.fst = ks ++ k :: ks' := by
      rw [← hks, List.map_append, List.map_cons]
    rw [last_split_unique hlast hlast' hkeys]
    exact hroom
  · rintro ⟨before, after, rfl, hlast, hroom⟩
    have hheld : k ∈ keys (remembered limit (before ++ (k, v) :: after)) := by
      rw [keys_remembered, Use.mem_held_touches_iff]
      exact ⟨before.map Prod.fst, after.map Prod.fst, by simp, hlast, hroom⟩
    obtain ⟨v', hv'⟩ := mem_keys_iff.mp hheld
    obtain ⟨before', after', hlog, hlast'⟩ := latest_of_get?_remembered hv'
    rw [hv', latest_unique hlog hlast hlast']

private theorem card_map_of_injOn {α : Type w} [DecidableEq α] {f : α → κ} {C : Set α}
    (hinj : Set.InjOn f C) {as : List α} (has : ∀ a ∈ as, a ∈ C) :
    (as.map f).toFinset.card = as.toFinset.card := by
  have himage : (as.map f).toFinset = as.toFinset.image f := by
    ext k
    simp
  rw [himage]
  apply Finset.card_image_of_injOn
  intro a ha b hb
  exact hinj (has a (List.mem_toFinset.mp ha)) (has b (List.mem_toFinset.mp hb))

/-- Keys may be renamed as long as different ones stay different. -/
theorem recalled_map_iff {α : Type w} [DecidableEq α] {f : α → κ} {C : Set α}
    (hinj : Set.InjOn f C) {log : List (α × ν)} (hlog : ∀ e ∈ log, e.1 ∈ C) {a : α} (ha : a ∈ C) :
    Recalled limit (log.map (Prod.map f id)) (f a) v ↔ Recalled limit log a v := by
  have hkeys (es : List (α × ν)) : (es.map (Prod.map f id)).map Prod.fst =
      (es.map Prod.fst).map f := by
    rw [List.map_map, List.map_map]
    rfl
  constructor
  · rintro ⟨before, after, hsplit, hlast, hroom⟩
    obtain ⟨before, rest, rfl, rfl, hrest⟩ := List.map_eq_append_iff.mp hsplit
    obtain ⟨⟨a', v'⟩, after, rfl, hhead, rfl⟩ := List.map_eq_cons_iff.mp hrest
    obtain ⟨hkey, rfl⟩ := Prod.mk.inj hhead
    obtain rfl := hinj (hlog (a', v') (by simp)) ha hkey
    have hafter : ∀ b ∈ after.map Prod.fst, b ∈ C := by
      intro b hb
      obtain ⟨e, he, rfl⟩ := List.mem_map.mp hb
      exact hlog e (by simp [he])
    rw [hkeys] at hlast hroom
    rw [card_map_of_injOn hinj hafter] at hroom
    exact ⟨before, after, rfl, fun hmem ↦ hlast (List.mem_map_of_mem hmem), hroom⟩
  · rintro ⟨before, after, rfl, hlast, hroom⟩
    have hafter : ∀ b ∈ after.map Prod.fst, b ∈ C := by
      intro b hb
      obtain ⟨e, he, rfl⟩ := List.mem_map.mp hb
      exact hlog e (by simp [he])
    refine ⟨before.map (Prod.map f id), after.map (Prod.map f id), by simp, ?_, ?_⟩
    · rw [hkeys, List.mem_map]
      rintro ⟨b, hb, hkey⟩
      exact hlast (hinj (hafter b hb) ha hkey ▸ hb)
    · rw [hkeys, card_map_of_injOn hinj hafter]
      exact hroom

end InsertionMap
end AgentsAuth.Lib
