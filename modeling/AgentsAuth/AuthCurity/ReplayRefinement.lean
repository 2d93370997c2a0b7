import AgentsAuth.AuthCurity.DpopReplay
import AgentsAuth.Lib.MapData

/-!
# The replay cache as a bounded map

`DpopReplayCache` of `packages/auth-curity/src/dpop.ts` beside the map it stands for, in
which every accepted identifier keeps its expiry for good. While fewer than `maxEntries`
identifiers are unexpired the two answer alike; only a cache full of unexpired identifiers
gives one up, the one it has held longest. The loops of `remember` run on the records of
the `Map` that they delete from.
-/

namespace AgentsAuth.AuthCurity

open AgentsAuth.Lib

/-- The arguments of a call of `remember`. -/
structure RememberCall where
  jti : String
  expiresAtMs : ℚ
  nowMs : ℚ
deriving DecidableEq

/-- Calls of `remember` on one cache. -/
def remembering (maxEntries : Nat) (positive : 0 < maxEntries) :
    Machine DpopReplayCache RememberCall Bool where
  init := .empty maxEntries positive
  step cache call := cache.remember call.jti call.expiresAtMs call.nowMs

/-- The unbounded map: an identifier is a replay until its expiry, and nothing is forgotten. -/
def rememberForever (seen : InsertionMap String ℚ) (call : RememberCall) :
    InsertionMap String ℚ × Bool :=
  if (seen.get? call.jti).any fun expiry ↦ call.nowMs < expiry then (seen, false)
  else (seen.set call.jti call.expiresAtMs, true)

/-- Calls of `remember` on the unbounded map. -/
def unbounded : Machine (InsertionMap String ℚ) RememberCall Bool where
  init := .empty
  step := rememberForever

/-- The calls are made at non-decreasing times. -/
def InOrder (calls : List RememberCall) : Prop := calls.Pairwise fun a b ↦ a.nowMs ≤ b.nowMs

/-- At each call fewer than `maxEntries` identifiers of the cache are unexpired. -/
def RoomAtEach (maxEntries : Nat) (positive : 0 < maxEntries) (calls : List RememberCall) : Prop :=
  (remembering maxEntries positive).Along
    (fun cache call ↦ (cache.live call.nowMs).size < maxEntries) calls

/-- The identifiers put into the cache, with their expiry, in the order of the calls. -/
def insertions (maxEntries : Nat) (positive : 0 < maxEntries) (calls : List RememberCall) :
    List (String × ℚ) :=
  ((remembering maxEntries positive).transcript calls).filterMap fun a ↦
    if a.2 then some (a.1.jti, a.1.expiresAtMs) else none

/-- Model of `packages/auth-curity/src/dpop.ts:122–132` on the records of the `Map`; `none` where
`fuel` does not suffice for a loop. -/
def rememberLoops (maxEntries fuel : Nat) (seen : MapData String ℚ) (call : RememberCall) :
    Option (MapData String ℚ × Bool) :=
  if (seen.get? call.jti).any fun expiry ↦ call.nowMs < expiry then some (seen, false)
  else do
    let pruned ← MapData.forOf
      (fun seen jti expiry ↦ if expiry ≤ call.nowMs then seen.delete jti else seen) fuel 0 seen
    let kept ← MapData.deleteWhileFull maxEntries fuel pruned
    some (kept.set call.jti call.expiresAtMs, true)

/-- The calls of a run, each with its loops, and their answers. -/
def rememberAll (maxEntries fuel : Nat) (calls : List RememberCall) :
    Option (MapData String ℚ × List Bool) :=
  calls.foldlM (fun (seen, answers) call ↦ do
    let (seen, answer) ← rememberLoops maxEntries fuel seen call
    some (seen, answers ++ [answer])) (MapData.empty, [])

section Loops

variable {maxEntries fuel : Nat} (positive : 0 < maxEntries)

private theorem prune_eq (nowMs : ℚ) {seen : MapData String ℚ} (hfuel : seen.slots.length < fuel) :
    MapData.forOf (fun seen jti expiry ↦ if expiry ≤ nowMs then seen.delete jti else seen) fuel 0
      seen = some (seen.keep fun _ expiry ↦ !decide (expiry ≤ nowMs)) := by
  have hloop := MapData.forOf_delete (fun _ expiry ↦ decide (expiry ≤ nowMs)) fuel 0 seen
    (Nat.zero_le _) hfuel (by simp)
  simpa only [decide_eq_true_eq] using hloop

/-- With fuel for every record the loops of a call end, and they do what the call does to the map
of the entries. -/
theorem rememberLoops_eq {seen : MapData String ℚ} (call : RememberCall)
    (hfuel : seen.slots.length < fuel) :
    ∃ seen' answer, rememberLoops maxEntries fuel seen call = some (seen', answer) ∧
      (DpopReplayCache.mk maxEntries positive seen.toMap).remember call.jti call.expiresAtMs
        call.nowMs = (.mk maxEntries positive seen'.toMap, answer) ∧
      seen'.slots.length ≤ seen.slots.length + 1 := by
  unfold rememberLoops
  cases hreplay : (DpopReplayCache.mk maxEntries positive seen.toMap).isReplay call.jti
      call.nowMs with
  | true =>
    refine ⟨seen, false, if_pos hreplay, remember_of_isReplay hreplay, Nat.le_succ _⟩
  | false =>
    have hnew : ((seen.get? call.jti).any fun expiry ↦ call.nowMs < expiry) = false := hreplay
    let pruned := seen.keep fun _ expiry ↦ !decide (expiry ≤ call.nowMs)
    have hlive : pruned.toMap =
        (DpopReplayCache.mk maxEntries positive seen.toMap).live call.nowMs := by
      rw [MapData.toMap_keep, DpopReplayCache.live]
      simp only [← decide_not, not_le]
    have hlength : pruned.slots.length = seen.slots.length := seen.length_keep _
    have hsize : pruned.size < fuel := pruned.size_le.trans_lt (hlength.trans_lt hfuel)
    obtain ⟨kept, hloop, hkept, hkeptLength⟩ := MapData.deleteWhileFull_eq positive pruned hsize
    refine ⟨kept.set call.jti call.expiresAtMs, true, ?_, ?_, ?_⟩
    · rw [if_neg (Bool.eq_false_iff.mp hnew), prune_eq call.nowMs hfuel]
      simp only [Option.bind_eq_bind, Option.bind_some, pruned, hloop]
    · rw [remember_of_not_isReplay hreplay, MapData.toMap_set, hkept, hlive]
    · rw [← hlength, ← hkeptLength]
      exact kept.length_set_le _ _

/-- With fuel for every call the loops of a run end, with the map and the answers of the run. -/
theorem rememberAll_eq (calls : List RememberCall) (hfuel : calls.length < fuel) :
    ∃ seen, rememberAll maxEntries fuel calls =
        some (seen, ((remembering maxEntries positive).transcript calls).map Prod.snd) ∧
      (remembering maxEntries positive).run calls = .mk maxEntries positive seen.toMap ∧
      seen.slots.length ≤ calls.length := by
  induction calls using List.reverseRecOn with
  | nil => exact ⟨.empty, rfl, rfl, le_refl _⟩
  | append_singleton calls call ih =>
    rw [List.length_append, List.length_singleton] at hfuel ⊢
    obtain ⟨seen, hall, hrun, hlength⟩ := ih (by omega)
    obtain ⟨seen', answer, hloops, hstep, hlength'⟩ :=
      rememberLoops_eq positive call (hlength.trans_lt (Nat.lt_of_succ_lt hfuel))
    refine ⟨seen', ?_, ?_, by omega⟩
    · rw [rememberAll, List.foldlM_append, ← rememberAll, hall]
      simp only [Option.bind_eq_bind, Option.bind_some, List.foldlM_cons, List.foldlM_nil, hloops]
      rw [Machine.transcript_concat, List.map_append, Machine.answer, hrun]
      simp only [remembering, hstep]
      rfl
    · rw [Machine.run_concat, hrun]
      exact congrArg Prod.fst hstep

end Loops

section Refinement

variable {maxEntries : Nat} (positive : 0 < maxEntries)

/-- The cache and the unbounded map hold the same identifiers that are unexpired after `calls`. -/
def Agree (calls : List RememberCall) (cache : DpopReplayCache) : Prop :=
  ∀ nowMs, (∀ call ∈ calls, call.nowMs ≤ nowMs) → ∀ jti expiry, nowMs < expiry →
    (cache.seen.get? jti = some expiry ↔ (unbounded.run calls).get? jti = some expiry)

private theorem InOrder.concat {calls : List RememberCall} {call : RememberCall}
    (h : InOrder (calls ++ [call])) :
    InOrder calls ∧ ∀ c ∈ calls, c.nowMs ≤ call.nowMs := by
  obtain ⟨hcalls, -, hlast⟩ := List.pairwise_append.mp h
  exact ⟨hcalls, fun c hc ↦ hlast c hc call (List.mem_singleton_self _)⟩

private theorem any_unexpired_iff {found : Option ℚ} {nowMs : ℚ} :
    (found.any fun expiry ↦ nowMs < expiry) = true ↔
      ∃ expiry, found = some expiry ∧ nowMs < expiry := by
  cases found with
  | none => simp
  | some expiry => simp

/-- Where the two agree on what is unexpired, they agree on what is a replay. -/
theorem Agree.isReplay_eq {calls : List RememberCall} {cache : DpopReplayCache} {nowMs : ℚ}
    (h : Agree calls cache) (hnow : ∀ call ∈ calls, call.nowMs ≤ nowMs) (jti : String) :
    cache.isReplay jti nowMs =
      ((unbounded.run calls).get? jti).any fun expiry ↦ nowMs < expiry := by
  rw [Bool.eq_iff_iff, DpopReplayCache.isReplay, any_unexpired_iff, any_unexpired_iff]
  apply exists_congr
  intro expiry
  constructor
  · rintro ⟨hget, hlt⟩
    exact ⟨(h nowMs hnow jti expiry hlt).mp hget, hlt⟩
  · rintro ⟨hget, hlt⟩
    exact ⟨(h nowMs hnow jti expiry hlt).mpr hget, hlt⟩

/-- One call at a time with room keeps the agreement. -/
theorem Agree.step {calls : List RememberCall} {cache : DpopReplayCache} {call : RememberCall}
    (h : Agree calls cache) (hnow : ∀ c ∈ calls, c.nowMs ≤ call.nowMs)
    (hroom : (cache.live call.nowMs).size < cache.maxEntries) :
    Agree (calls ++ [call]) (cache.remember call.jti call.expiresAtMs call.nowMs).1 := by
  intro nowMs hlater jti expiry hlt
  have hcalls : ∀ c ∈ calls, c.nowMs ≤ nowMs :=
    fun c hc ↦ hlater c (List.mem_append_left _ hc)
  have hcall : call.nowMs ≤ nowMs := hlater call (by simp)
  have hsame := h.isReplay_eq hnow call.jti
  rw [Machine.run_concat]
  show _ ↔ (rememberForever (unbounded.run calls) call).1.get? jti = some expiry
  unfold rememberForever
  rw [← hsame]
  cases hreplay : cache.isReplay call.jti call.nowMs with
  | true =>
    rw [remember_of_isReplay hreplay]
    exact h nowMs hcalls jti expiry hlt
  | false =>
    rw [remember_of_not_isReplay hreplay, evictTo_live hroom]
    show ((cache.live call.nowMs).set call.jti call.expiresAtMs).get? jti = some expiry ↔
      ((unbounded.run calls).set call.jti call.expiresAtMs).get? jti = some expiry
    by_cases hjti : jti = call.jti
    · rw [hjti, InsertionMap.get?_set_self, InsertionMap.get?_set_self]
    · rw [InsertionMap.get?_set_ne _ _ hjti, InsertionMap.get?_set_ne _ _ hjti,
        DpopReplayCache.live, InsertionMap.get?_filter_eq_some_iff, decide_eq_true_eq]
      rw [and_iff_left (hcall.trans_lt hlt)]
      exact h nowMs hcalls jti expiry hlt

private theorem maxEntries_remembering (calls : List RememberCall) :
    ((remembering maxEntries positive).run calls).maxEntries = maxEntries := by
  apply (remembering maxEntries positive).run_invariant (I := fun c ↦ c.maxEntries = maxEntries)
  · rfl
  · intro cache call h
    show (cache.remember call.jti call.expiresAtMs call.nowMs).1.maxEntries = maxEntries
    cases hreplay : cache.isReplay call.jti call.nowMs with
    | true => rw [remember_of_isReplay hreplay, h]
    | false => rw [remember_of_not_isReplay hreplay, ← h]

/-- A run in order and with room agrees with the unbounded map on what is unexpired. -/
theorem agree_run {calls : List RememberCall} (hclock : InOrder calls)
    (hroom : RoomAtEach maxEntries positive calls) :
    Agree calls ((remembering maxEntries positive).run calls) := by
  induction calls using List.reverseRecOn with
  | nil =>
    intro nowMs _ jti expiry _
    exact Iff.rfl
  | append_singleton calls call ih =>
    obtain ⟨hcalls, hnow⟩ := hclock.concat
    obtain ⟨hbefore, hlast⟩ := (Machine.along_concat _).mp hroom
    rw [Machine.run_concat]
    apply (ih hcalls hbefore).step hnow
    rw [maxEntries_remembering]
    exact hlast

/-- In order and with room, the cache answers as the unbounded map does. -/
theorem transcript_eq_unbounded {calls : List RememberCall} (hclock : InOrder calls)
    (hroom : RoomAtEach maxEntries positive calls) :
    (remembering maxEntries positive).transcript calls = unbounded.transcript calls := by
  induction calls using List.reverseRecOn with
  | nil => rfl
  | append_singleton calls call ih =>
    obtain ⟨hcalls, hnow⟩ := hclock.concat
    obtain ⟨hbefore, -⟩ := (Machine.along_concat _).mp hroom
    rw [Machine.transcript_concat, Machine.transcript_concat, ih hcalls hbefore]
    have hsame := (agree_run positive hcalls hbefore).isReplay_eq hnow call.jti
    have hanswer : (remembering maxEntries positive).answer calls call =
        unbounded.answer calls call := by
      show (DpopReplayCache.remember _ call.jti call.expiresAtMs call.nowMs).2 =
        (rememberForever (unbounded.run calls) call).2
      unfold rememberForever
      rw [← hsame]
      cases hreplay : ((remembering maxEntries positive).run calls).isReplay call.jti
          call.nowMs with
      | true =>
        rw [remember_of_isReplay hreplay]
        rfl
      | false =>
        rw [remember_of_not_isReplay hreplay]
        rfl
    rw [hanswer]

end Refinement

section Capacity

variable {maxEntries : Nat} (positive : 0 < maxEntries)

/-- A call never leaves more than `maxEntries` identifiers. -/
theorem size_remember_le {cache : DpopReplayCache} (h : cache.seen.size ≤ cache.maxEntries)
    (jti : String) (expiresAtMs nowMs : ℚ) :
    (cache.remember jti expiresAtMs nowMs).1.seen.size ≤ cache.maxEntries := by
  cases hreplay : cache.isReplay jti nowMs with
  | true =>
    rw [remember_of_isReplay hreplay]
    exact h
  | false =>
    rw [remember_of_not_isReplay hreplay]
    have hset := InsertionMap.size_set_le
      ((cache.live nowMs).evictTo (cache.maxEntries - 1)) jti expiresAtMs
    have hevict := InsertionMap.size_evictTo (cache.live nowMs) (cache.maxEntries - 1)
    have hpositive := cache.positive
    show InsertionMap.size (InsertionMap.set _ jti expiresAtMs) ≤ _
    omega

/-- The bound holds after every run. -/
theorem size_run_remembering_le (calls : List RememberCall) :
    ((remembering maxEntries positive).run calls).seen.size ≤ maxEntries := by
  have hbound : ((remembering maxEntries positive).run calls).seen.size ≤
      ((remembering maxEntries positive).run calls).maxEntries := by
    apply (remembering maxEntries positive).run_invariant
      (I := fun cache ↦ cache.seen.size ≤ cache.maxEntries)
    · exact Nat.zero_le _
    · intro cache call h
      apply (size_remember_le h call.jti call.expiresAtMs call.nowMs).trans
      show cache.maxEntries ≤ (cache.remember call.jti call.expiresAtMs call.nowMs).1.maxEntries
      cases hreplay : cache.isReplay call.jti call.nowMs with
      | true => rw [remember_of_isReplay hreplay]
      | false => rw [remember_of_not_isReplay hreplay]
  rwa [maxEntries_remembering] at hbound

private theorem get?_kept_of_not_isReplay {cache : DpopReplayCache} {jti : String} {nowMs : ℚ}
    (h : cache.isReplay jti nowMs = false) :
    ((cache.live nowMs).evictTo (cache.maxEntries - 1)).get? jti = none := by
  rw [InsertionMap.get?_eq_none_iff]
  intro expiry hin
  have hlive := InsertionMap.entries_evictTo_subset _ _ hin
  rw [DpopReplayCache.live, InsertionMap.mem_entries_filter, decide_eq_true_eq] at hlive
  have hget := isReplay_of_get? (InsertionMap.get?_eq_some_iff.mpr hlive.1) hlive.2
  rw [hget] at h
  cases h

/-- An unexpired identifier that a call loses was the first of `maxEntries` unexpired ones. -/
theorem remember_lost {cache : DpopReplayCache} {jti : String} {expiresAtMs nowMs : ℚ}
    {e : String × ℚ} (hsize : cache.seen.size ≤ cache.maxEntries)
    (he : e ∈ (cache.live nowMs).entries)
    (hlost : e ∉ (cache.remember jti expiresAtMs nowMs).1.seen.entries) :
    ∃ rest, (cache.live nowMs).entries = e :: rest ∧ rest.length + 1 = cache.maxEntries := by
  have hseen := InsertionMap.mem_entries_filter.mp he
  cases hreplay : cache.isReplay jti nowMs with
  | true =>
    rw [remember_of_isReplay hreplay] at hlost
    exact absurd hseen.1 hlost
  | false =>
    rw [remember_of_not_isReplay hreplay] at hlost
    have hkey : e.1 ≠ jti := by
      intro hkey
      have hget : cache.seen.get? jti = some e.2 :=
        InsertionMap.get?_eq_some_iff.mpr (hkey ▸ hseen.1)
      rw [isReplay_of_get? hget (of_decide_eq_true hseen.2)] at hreplay
      cases hreplay
    have hdropped : e ∉ (cache.live nowMs).entries.drop
        ((cache.live nowMs).size - (cache.maxEntries - 1)) :=
      fun hkept ↦ hlost (InsertionMap.mem_entries_set.mpr (Or.inr ⟨hkept, hkey⟩))
    have hlive : (cache.live nowMs).size ≤ cache.seen.size := InsertionMap.size_filter_le _ _
    have hpositive := cache.positive
    by_cases hfull : (cache.live nowMs).size = cache.maxEntries
    · rw [hfull, show cache.maxEntries - (cache.maxEntries - 1) = 1 by omega] at hdropped
      rw [InsertionMap.size] at hfull
      cases hentries : (cache.live nowMs).entries with
      | nil =>
        rw [hentries] at he
        cases he
      | cons d rest =>
        rw [hentries] at he hdropped hfull
        rcases List.mem_cons.mp he with rfl | hrest
        · exact ⟨rest, rfl, hfull⟩
        · exact absurd hrest hdropped
    · rw [show (cache.live nowMs).size - (cache.maxEntries - 1) = 0 by omega] at hdropped
      exact absurd he hdropped

/-- The identifiers stand in the cache in the order in which they were put there. -/
theorem entries_sublist_insertions (calls : List RememberCall) :
    List.Sublist ((remembering maxEntries positive).run calls).seen.entries
      (insertions maxEntries positive calls) := by
  apply (remembering maxEntries positive).run_induction
    (P := fun calls cache ↦ cache.seen.entries.Sublist (insertions maxEntries positive calls))
  · exact List.Sublist.refl _
  · intro calls call ih
    rw [insertions, Machine.transcript_concat, List.filterMap_append, ← insertions]
    show List.Sublist
      (DpopReplayCache.remember _ call.jti call.expiresAtMs call.nowMs).1.seen.entries
      (_ ++ List.filterMap _ [(call, (DpopReplayCache.remember _ call.jti _ call.nowMs).2)])
    cases hreplay : ((remembering maxEntries positive).run calls).isReplay call.jti
        call.nowMs with
    | true =>
      rw [remember_of_isReplay hreplay]
      exact ih.trans (List.sublist_append_left _ _)
    | false =>
      rw [remember_of_not_isReplay hreplay]
      show List.Sublist (InsertionMap.set _ call.jti call.expiresAtMs).entries _
      rw [InsertionMap.entries_set_of_none (get?_kept_of_not_isReplay hreplay)]
      apply List.Sublist.append _ (List.Sublist.refl _)
      exact ((List.drop_sublist _ _).trans List.filter_sublist).trans ih

end Capacity

/-- The replay cache as a bounded map. In order and with room it answers as the unbounded map; it
never holds more than `maxEntries` identifiers; an unexpired identifier that a call gives up is
the earliest inserted of `maxEntries` unexpired ones; and the loops of every call end. -/
theorem remember_refines (maxEntries : Nat) (positive : 0 < maxEntries)
    (calls : List RememberCall) :
    (InOrder calls → RoomAtEach maxEntries positive calls →
      (remembering maxEntries positive).transcript calls = unbounded.transcript calls) ∧
    ((remembering maxEntries positive).run calls).seen.size ≤ maxEntries ∧
    (∀ call e,
      e ∈ (((remembering maxEntries positive).run calls).live call.nowMs).entries →
      e ∉ ((remembering maxEntries positive).run (calls ++ [call])).seen.entries →
      ∃ rest,
        (((remembering maxEntries positive).run calls).live call.nowMs).entries = e :: rest ∧
        rest.length + 1 = maxEntries ∧
        List.Sublist (e :: rest) (insertions maxEntries positive calls)) ∧
    ∀ fuel, calls.length < fuel →
      ∃ seen, rememberAll maxEntries fuel calls =
          some (seen, ((remembering maxEntries positive).transcript calls).map Prod.snd) ∧
        ((remembering maxEntries positive).run calls).seen = seen.toMap := by
  refine ⟨transcript_eq_unbounded positive, size_run_remembering_le positive calls, ?_, ?_⟩
  · intro call e he hlost
    rw [Machine.run_concat] at hlost
    have hsize := (size_run_remembering_le positive calls).trans
      (maxEntries_remembering positive calls).ge
    obtain ⟨rest, hentries, hfull⟩ := remember_lost hsize he hlost
    refine ⟨rest, hentries, hfull.trans (maxEntries_remembering positive calls), ?_⟩
    rw [← hentries]
    exact List.filter_sublist.trans (entries_sublist_insertions positive calls)
  · intro fuel hfuel
    obtain ⟨seen, hall, hrun, -⟩ := rememberAll_eq positive calls hfuel
    exact ⟨seen, hall, by rw [hrun]⟩

private def sampleRemembers : List RememberCall :=
  [⟨"a", 60, 0⟩] ++ [⟨"a", 70, 10⟩] ++ [⟨"b", 90, 60⟩] ++ [⟨"c", 95, 61⟩]

/-- One identifier is replayed, expires and makes room for two others. -/
theorem remember_refines_sample :
    (remembering 2 (by decide)).transcript sampleRemembers =
      unbounded.transcript sampleRemembers := by
  apply (remember_refines 2 (by decide) sampleRemembers).1
  · norm_num [InOrder, sampleRemembers]
  · rw [RoomAtEach, sampleRemembers, Machine.along_concat, Machine.along_concat,
      Machine.along_concat, ← List.nil_append [_], Machine.along_concat]
    exact ⟨⟨⟨⟨Machine.along_nil _ _, by decide +kernel⟩, by decide +kernel⟩, by decide +kernel⟩,
      by decide +kernel⟩

end AgentsAuth.AuthCurity
