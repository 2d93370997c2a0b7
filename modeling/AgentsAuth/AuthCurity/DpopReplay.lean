import AgentsAuth.AuthCurity.Dpop

/-!
# Single use of a DPoP proof

Calls of `verifyDpopProof` in any order on one replay cache. The window of a proof
includes the instant at which it closes, while the cache forgets the proof at that
instant: until then a proof is accepted once, and at that instant once more.
-/

namespace AgentsAuth.AuthCurity

open AgentsAuth.Base AgentsAuth.Lib

/-- Calls of `verifyDpopProof` that share one replay cache. -/
def verifying (tools : ProofTools) (maxEntries : Nat) (positive : 0 < maxEntries) :
    Machine DpopReplayCache ProofCall (Except ProofError Unit) where
  init := .empty maxEntries positive
  step := verifyDpopProof tools

/-- The call did not throw. -/
def accepted (a : ProofCall × Except ProofError Unit) : Bool :=
  match a.2 with
  | .ok () => true
  | .error _ => false

/-- The proof of a call that passes every check but the replay cache's. -/
def proofId (tools : ProofTools) (call : ProofCall) : Option ProofId :=
  (checkProof tools call).toOption

/-- The calls are made at non-decreasing clock values. -/
def Clocked (calls : List ProofCall) : Prop := calls.Pairwise fun a b ↦ a.now ≤ b.now

/-- No proof passes the checks of a call once the window it had in an earlier call has closed;
with one `maxAgeSec`, that is at its closing instant. -/
def NoLateUse (tools : ProofTools) (calls : List ProofCall) : Prop :=
  calls.Pairwise fun earlier later ↦ ∀ id, proofId tools earlier = some id →
    proofId tools later = some id → later.now < earlier.closesAt id

section Remember

variable {cache : DpopReplayCache} {jti : String} {expiresAtMs nowMs : ℚ}

/-- A replay changes nothing. -/
theorem remember_of_isReplay (h : cache.isReplay jti nowMs = true) :
    cache.remember jti expiresAtMs nowMs = (cache, false) := by
  simp only [DpopReplayCache.remember, h, if_true]

/-- An identifier that is no replay is remembered, after dropping closed and oldest windows. -/
theorem remember_of_not_isReplay (h : cache.isReplay jti nowMs = false) :
    cache.remember jti expiresAtMs nowMs =
      ({ cache with
        seen := ((cache.live nowMs).evictTo (cache.maxEntries - 1)).set jti expiresAtMs },
        true) := by
  simp only [DpopReplayCache.remember, h]
  rfl

/-- While there is room, only closed windows are dropped. -/
theorem evictTo_live (hroom : (cache.live nowMs).size < cache.maxEntries) :
    (cache.live nowMs).evictTo (cache.maxEntries - 1) = cache.live nowMs := by
  apply InsertionMap.evictTo_of_le
  omega

/-- A remembered identifier is a replay until its expiry. -/
theorem isReplay_of_get? {expiry : ℚ} (h : cache.seen.get? jti = some expiry)
    (hlt : nowMs < expiry) : cache.isReplay jti nowMs = true := by
  simp [DpopReplayCache.isReplay, h, hlt]

/-- An open window stays in the live part. -/
theorem get?_live {expiry : ℚ} (h : cache.seen.get? jti = some expiry) (hlt : nowMs < expiry) :
    (cache.live nowMs).get? jti = some expiry := by
  apply InsertionMap.get?_filter_eq_some_iff.mpr
  simp [h, hlt]

end Remember

section Verify

variable {tools : ProofTools} {cache : DpopReplayCache} {call : ProofCall}

/-- A call that throws leaves the cache as it was. -/
theorem verifyDpopProof_error {e : ProofError}
    (h : (verifyDpopProof tools cache call).2 = .error e) :
    (verifyDpopProof tools cache call).1 = cache := by
  unfold verifyDpopProof at h ⊢
  cases hid : checkProof tools call with
  | error e' => rfl
  | ok id =>
    cases hreplay : cache.isReplay id.jti call.now with
    | true => simp only [remember_of_isReplay hreplay]
    | false =>
      rw [hid] at h
      simp only [remember_of_not_isReplay hreplay] at h
      cases h

/-- A call that does not throw passes the checks, is no replay, and is remembered. -/
theorem verifyDpopProof_ok (h : (verifyDpopProof tools cache call).2 = .ok ()) :
    ∃ id, proofId tools call = some id ∧ cache.isReplay id.jti call.now = false ∧
      (verifyDpopProof tools cache call).1 =
        (cache.remember id.jti (call.closesAt id) call.now).1 := by
  unfold verifyDpopProof at h ⊢
  cases hid : checkProof tools call with
  | error e =>
    rw [hid] at h
    cases h
  | ok id =>
    have hproof : proofId tools call = some id := by
      rw [proofId, hid]
      rfl
    cases hreplay : cache.isReplay id.jti call.now with
    | true =>
      rw [hid] at h
      simp only [remember_of_isReplay hreplay] at h
      cases h
    | false => exact ⟨id, hproof, hreplay, by simp only [remember_of_not_isReplay hreplay]⟩

/-- The bound of a cache never changes. -/
theorem maxEntries_verifyDpopProof :
    (verifyDpopProof tools cache call).1.maxEntries = cache.maxEntries := by
  cases h : (verifyDpopProof tools cache call).2 with
  | error e => rw [verifyDpopProof_error h]
  | ok u =>
    obtain ⟨id, -, hreplay, hcache⟩ := verifyDpopProof_ok h
    rw [hcache, remember_of_not_isReplay hreplay]

/-- While there is room, a call keeps every window that is open at its time. -/
theorem get?_verifyDpopProof {jti : String} {expiry : ℚ}
    (hroom : (cache.live call.now).size < cache.maxEntries)
    (h : cache.seen.get? jti = some expiry) (hlt : call.now < expiry) :
    (verifyDpopProof tools cache call).1.seen.get? jti = some expiry := by
  cases hv : (verifyDpopProof tools cache call).2 with
  | error e => rwa [verifyDpopProof_error hv]
  | ok u =>
    obtain ⟨id, -, hreplay, hcache⟩ := verifyDpopProof_ok hv
    have hne : jti ≠ id.jti := by
      intro heq
      rw [← heq, isReplay_of_get? h hlt] at hreplay
      cases hreplay
    rw [hcache, remember_of_not_isReplay hreplay, evictTo_live hroom]
    exact (InsertionMap.get?_set_ne _ _ hne).trans (get?_live h hlt)

/-- A call that accepts a proof remembers it until the window of the call closes. -/
theorem get?_of_accepted {id : ProofId} (h : (verifyDpopProof tools cache call).2 = .ok ())
    (hid : proofId tools call = some id) :
    (verifyDpopProof tools cache call).1.seen.get? id.jti = some (call.closesAt id) := by
  obtain ⟨id', hid', hreplay, hcache⟩ := verifyDpopProof_ok h
  obtain rfl : id' = id := Option.some.inj (hid'.symm.trans hid)
  rw [hcache, remember_of_not_isReplay hreplay]
  exact InsertionMap.get?_set_self _ _ _

end Verify

section Run

variable (tools : ProofTools) (maxEntries : Nat) (positive : 0 < maxEntries)

/-- At every call fewer than `maxEntries` identifiers are live. -/
def HasRoom (calls : List ProofCall) : Prop :=
  ∀ before call, before ++ [call] <+: calls →
    (((verifying tools maxEntries positive).run before).live call.now).size < maxEntries

/-- The number of calls that accept the proof `id`. -/
def acceptances (calls : List ProofCall) (id : ProofId) : Nat :=
  (verifying tools maxEntries positive).uses accepted (proofId tools) calls (some id)

/-- Every accepted proof is remembered until the window of its call closes. -/
def Remembers (calls : List ProofCall) (cache : DpopReplayCache) : Prop :=
  ∀ call id, (call, .ok ()) ∈ (verifying tools maxEntries positive).transcript calls →
    proofId tools call = some id → ∀ now, (∀ c ∈ calls, c.now ≤ now) →
    now < call.closesAt id → cache.seen.get? id.jti = some (call.closesAt id)

variable {tools maxEntries positive}

private theorem maxEntries_run (calls : List ProofCall) :
    ((verifying tools maxEntries positive).run calls).maxEntries = maxEntries := by
  apply (verifying tools maxEntries positive).run_invariant (I := fun c ↦ c.maxEntries = maxEntries)
  · rfl
  · intro cache call h
    exact maxEntries_verifyDpopProof.trans h

private theorem HasRoom.of_concat {calls : List ProofCall} {call : ProofCall}
    (h : HasRoom tools maxEntries positive (calls ++ [call])) :
    HasRoom tools maxEntries positive calls :=
  fun before c hpre ↦ h before c (hpre.trans (List.prefix_append calls [call]))

private theorem size_run_le (calls : List ProofCall) :
    ((verifying tools maxEntries positive).run calls).seen.size ≤ calls.length := by
  apply (verifying tools maxEntries positive).run_induction
    (P := fun es cache ↦ cache.seen.size ≤ es.length)
  · exact le_refl _
  · intro es call ih
    rw [List.length_append, List.length_singleton]
    cases hv : (verifyDpopProof tools ((verifying tools maxEntries positive).run es) call).2 with
    | error e =>
      have hcache := verifyDpopProof_error hv
      exact (congrArg (fun c ↦ c.seen.size) hcache).le.trans (Nat.le_succ_of_le ih)
    | ok u =>
      obtain ⟨id, -, hreplay, hcache⟩ := verifyDpopProof_ok hv
      rw [remember_of_not_isReplay hreplay] at hcache
      apply (congrArg (fun c ↦ c.seen.size) hcache).le.trans
      apply (InsertionMap.size_set_le _ _ _).trans
      have hevict := InsertionMap.size_evictTo
        (((verifying tools maxEntries positive).run es).live call.now)
        (((verifying tools maxEntries positive).run es).maxEntries - 1)
      have hlive := InsertionMap.size_filter_le
        ((verifying tools maxEntries positive).run es).seen fun _ expiry ↦ call.now < expiry
      unfold DpopReplayCache.live at hevict ⊢
      omega

/-- A run of at most `maxEntries` calls has room. -/
theorem hasRoom_of_length_le {calls : List ProofCall} (h : calls.length ≤ maxEntries) :
    HasRoom tools maxEntries positive calls := by
  intro before call hpre
  have hlength := hpre.length_le
  rw [List.length_append, List.length_singleton] at hlength
  have hlive := InsertionMap.size_filter_le
    ((verifying tools maxEntries positive).run before).seen fun _ expiry ↦ call.now < expiry
  have hsize : ((verifying tools maxEntries positive).run before).seen.size ≤ before.length :=
    size_run_le before
  unfold DpopReplayCache.live
  omega

private theorem HasRoom.live_lt {calls : List ProofCall} {call : ProofCall}
    (h : HasRoom tools maxEntries positive (calls ++ [call])) :
    (((verifying tools maxEntries positive).run calls).live call.now).size <
      ((verifying tools maxEntries positive).run calls).maxEntries := by
  rw [maxEntries_run calls]
  exact h calls call (List.prefix_refl _)

private theorem Clocked.le_of_mem {calls : List ProofCall} {call c : ProofCall}
    (h : Clocked (calls ++ [call])) (hc : c ∈ calls) : c.now ≤ call.now :=
  (List.pairwise_append.mp h).2.2 c hc call (List.mem_singleton_self _)

/-- On a clocked run with room every accepted proof stays remembered while its window is open. -/
theorem remembers_run {calls : List ProofCall} (hclock : Clocked calls)
    (hroom : HasRoom tools maxEntries positive calls) :
    Remembers tools maxEntries positive calls
      ((verifying tools maxEntries positive).run calls) := by
  apply (verifying tools maxEntries positive).run_induction_on
    (C := fun es ↦ Clocked es ∧ HasRoom tools maxEntries positive es)
    (P := Remembers tools maxEntries positive)
  · intro es call h
    exact ⟨(List.pairwise_append.mp h.1).1, h.2.of_concat⟩
  · intro call id hcall
    cases hcall
  · intro es call hes ih accepted id hin hid now hnow hlt
    have hcall : call.now ≤ now := hnow call (by simp)
    rw [Machine.transcript_concat, List.mem_append, List.mem_singleton] at hin
    rcases hin with hold | hnew
    · have hopen : call.now < accepted.closesAt id := hcall.trans_lt hlt
      have hget := ih accepted id hold hid call.now (fun c hc ↦ hes.1.le_of_mem hc) hopen
      exact get?_verifyDpopProof hes.2.live_lt hget hopen
    · rw [Prod.mk.injEq] at hnew
      obtain ⟨rfl, hok⟩ := hnew
      exact get?_of_accepted hok.symm hid
  · exact ⟨hclock, hroom⟩

/-- Without late uses, a proof is accepted at most once over the whole run. -/
theorem acceptances_le_one {calls : List ProofCall} (hclock : Clocked calls)
    (hroom : HasRoom tools maxEntries positive calls) (hlate : NoLateUse tools calls)
    (id : ProofId) : acceptances tools maxEntries positive calls id ≤ 1 := by
  apply Machine.uses_le_one
  rintro before call hpre hcall ⟨earlier, outcome⟩ hearlier hok hsame
  have hclock' : Clocked (before ++ [call]) := hclock.sublist hpre.sublist
  have hroom' : HasRoom tools maxEntries positive (before ++ [call]) :=
    fun b c hb ↦ hroom b c (hb.trans hpre)
  have hanswer : (verifyDpopProof tools ((verifying tools maxEntries positive).run before) call).2 =
      .ok () := by
    unfold accepted at hcall
    split at hcall
    · next h => exact h
    · cases hcall
  obtain ⟨id', hid', hreplay, -⟩ := verifyDpopProof_ok hanswer
  have hearlierId : proofId tools earlier = some id' := hsame.trans hid'
  have hopen : call.now < earlier.closesAt id' := by
    have hmem : earlier ∈ before := by
      rw [← (verifying tools maxEntries positive).map_fst_transcript before]
      exact List.mem_map_of_mem hearlier
    have hpair : NoLateUse tools (before ++ [call]) := hlate.sublist hpre.sublist
    exact (List.pairwise_append.mp hpair).2.2 earlier hmem call (List.mem_singleton_self _) id'
      hearlierId hid'
  have hin : (earlier, .ok ()) ∈ (verifying tools maxEntries positive).transcript before := by
    cases outcome with
    | error e => cases hok
    | ok u => exact hearlier
  have hget := remembers_run (List.pairwise_append.mp hclock').1 hroom'.of_concat earlier id' hin
    hearlierId call.now (fun c hc ↦ hclock'.le_of_mem hc) hopen
  rw [isReplay_of_get? hget hopen] at hreplay
  cases hreplay

end Run

section Sample

/-- Tools to which every proof is issued at second 1000 for one request, with a `jti` of its
own. -/
def sampleTools : ProofTools where
  decodeProtectedHeader := fun _ ↦ some (.obj [("jwk", .obj [("kty", .str "EC")])])
  jwtVerify := fun proof ↦ .ok fun
    | "htm" => some (.str "POST")
    | "htu" => some (.str "https://mcp-gateway.localtest.me/inspect/mcp")
    | "ath" => some (.str "hash")
    | "iat" => some (.num ⟨1000, "1000"⟩)
    | "jti" => some (.str proof)
    | _ => none
  calculateJwkThumbprint := fun _ ↦ "thumbprint"
  sha256 := fun _ ↦ "hash"
  urlWithoutQuery := some

/-- The proof presented at a given time, with the default `maxAgeSec`. -/
def sampleCall (now : ℚ) : ProofCall :=
  ⟨"e30.proof.sig", "POST", "https://mcp-gateway.localtest.me/inspect/mcp", "e30.token.sig",
    "thumbprint", none, now⟩

private theorem sample_clocked {now later : ℚ} (h : now ≤ later) :
    Clocked [sampleCall now, sampleCall later] := by
  simpa [Clocked, sampleCall] using h

/-- One millisecond before the window closes the proof is still refused a second time. -/
theorem acceptances_le_one_sample :
    acceptances sampleTools 10000 (by decide) [sampleCall 1000000, sampleCall 1059999]
      ⟨"e30.proof.sig", 1000⟩ ≤ 1 := by
  apply acceptances_le_one (sample_clocked (by norm_num)) (hasRoom_of_length_le (by decide))
  rw [NoLateUse, List.pairwise_pair]
  intro id hid _
  have hproof : proofId sampleTools (sampleCall 1000000) = some ⟨"e30.proof.sig", 1000⟩ := by
    decide +kernel
  obtain rfl : id = ⟨"e30.proof.sig", 1000⟩ := Option.some.inj (hid.symm.trans hproof)
  have hcloses : (sampleCall 1000000).closesAt ⟨"e30.proof.sig", 1000⟩ = 1060000 := by
    decide +kernel
  rw [hcloses]
  norm_num [sampleCall]

/-- At the instant at which its window closes the proof is accepted again. -/
theorem acceptances_at_closing_instant :
    ¬ ∀ (tools : ProofTools) (maxEntries : Nat) (positive : 0 < maxEntries)
        (calls : List ProofCall), Clocked calls → HasRoom tools maxEntries positive calls →
      ∀ id, acceptances tools maxEntries positive calls id ≤ 1 := by
  intro h
  have htwice := h sampleTools 10000 (by decide) [sampleCall 1000000, sampleCall 1060000]
    (sample_clocked (by norm_num)) (hasRoom_of_length_le (by decide)) ⟨"e30.proof.sig", 1000⟩
  exact absurd htwice (by decide +kernel)

end Sample
end AgentsAuth.AuthCurity
