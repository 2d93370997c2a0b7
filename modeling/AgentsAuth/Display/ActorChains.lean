import AgentsAuth.Api.ChainIntegrity

/-!
# The actor chains that are shown

`packages/auth-curity/src/obo-log.ts`, `packages/otel-bootstrap/src/wire-log.ts` and
`apps/web/src/lib/token-view.ts` each flatten an `act` claim for display, with one loop that skips
what it cannot show and stops after sixteen nodes. It is compared with the walk of the resource
servers, and so is `flattenActChain` of the span.
-/

namespace AgentsAuth.Display

open AgentsAuth.Api AgentsAuth.AuthCurity AgentsAuth.Base AgentsAuth.Lib

/-- The loop of the three displays: at most `guard` nodes, every `sub` that is not `null` as a
text; `none` where `String` throws. -/
def collectSubs (write : String → String) : Nat → Option Json → Option (List String)
  | 0, _ => some []
  | guard + 1, some (.obj members) =>
    match (members.lookup "sub").filter Json.notNull with
    | none => collectSubs write guard (members.lookup "act")
    | some sub =>
      match sub.text?, collectSubs write guard (members.lookup "act") with
      | some text, some rest => some (write text :: rest)
      | _, _ => none
  | _ + 1, _ => some []

/-- A chain as one line, the oldest actor first; `none` is `undefined`. -/
def oldestFirst : List String → Option String
  | [] => none
  | chain => some (" ▸ ".intercalate chain.reverse)

/-- The name after the last `/sa/`: `/\/sa\/([^/]+)$/`. -/
def serviceAccount (s : String) : String :=
  match (piecesBy (· = '/') s).reverse with
  | name :: "sa" :: _ :: _ => if name ≠ "" then name else s
  | _ => s

namespace OboLog

/-- Model of `packages/auth-curity/src/obo-log.ts:158–161`. -/
def shortSpiffe : String → String := serviceAccount

/-- Model of `packages/auth-curity/src/obo-log.ts:133–144`; `none` where it throws. -/
def flattenAct (act : Option Json) : Option (Option String) :=
  (collectSubs shortSpiffe 16 act).map oldestFirst

end OboLog

namespace WireLog

/-- Model of `packages/otel-bootstrap/src/wire-log.ts:305–307`. -/
def shortSpiffe : String → String := serviceAccount

/-- Model of `packages/otel-bootstrap/src/wire-log.ts:297–303`; an array has no members either
way. -/
def flattenAct (act : Option Json) : Option (Option String) :=
  (collectSubs shortSpiffe 16 act).map oldestFirst

end WireLog

namespace TokenView

/-- Model of `apps/web/src/lib/token-view.ts:67–72`. -/
def shortSpiffe (id : String) : String :=
  match piecesBy (· = '/') id with
  | ["spiffe:", "", domain, "ns", ns, "sa", sa] =>
    if domain ≠ "" ∧ ns ≠ "" ∧ sa ≠ "" then sa else id
  | _ => id

/-- Model of `apps/web/src/lib/token-view.ts:82–92`; `none` where it throws. -/
def actChainIds (act : Option Json) : Option (List String) :=
  (collectSubs id 16 act).map List.reverse

/-- Model of `apps/web/src/lib/token-view.ts:94–96`. -/
def flattenActChain (act : Option Json) : Option (List String) :=
  (actChainIds act).map fun ids ↦ ids.map shortSpiffe

end TokenView

/-- The node has no `sub` to show. -/
def NoSub (node : Option Json) : Prop :=
  (node.bind (Json.get? · "sub")).filter Json.notNull = none

/-- The nodes of the claim are actors down to a level within the guard, and below, as far as the
guard reaches, none has a `sub`. -/
def ShownAsChecked (guard : Nat) (act : Option Json) : Prop :=
  ∃ n ≤ guard, (∀ i < n, IsActor (below i act)) ∧ NoActor (below n act) ∧
    ∀ i, n ≤ i → i < guard → NoSub (below i act)

section Loop

variable {write : String → String} {guard : Nat} {act : Option Json} {chain : List String}

private theorem collectSubs_actor {members : List (String × Json)} {sub : String}
    (hsub : members.lookup "sub" = some (.str sub)) :
    collectSubs write (guard + 1) (some (.obj members)) =
      (collectSubs write guard (members.lookup "act")).map (write sub :: ·) := by
  rw [collectSubs, hsub]
  simp only [Option.filter, Json.notNull, if_true, Json.text?_str]
  cases collectSubs write guard (members.lookup "act") with
  | none => rfl
  | some rest => rfl

private theorem collectSubs_of_not_object (h : ∀ members, act ≠ some (.obj members)) :
    collectSubs write guard act = some [] := by
  cases guard with
  | zero => rfl
  | succ guard =>
    unfold collectSubs
    split
    · next members hguard => cases hguard
    · next members _ => exact absurd rfl (h members)
    · rfl

private theorem bind_get?_of_not_object (h : ∀ members, act ≠ some (.obj members)) (name : String) :
    act.bind (Json.get? · name) = none := by
  cases act with
  | none => rfl
  | some value =>
    cases value with
    | obj members => exact absurd rfl (h members)
    | _ => rfl

private theorem below_none (i : Nat) : below i none = none := by
  induction i with
  | zero => rfl
  | succ i ih => exact ih

private theorem noSub_below_of_not_object (h : ∀ members, act ≠ some (.obj members)) (i : Nat) :
    NoSub (below i act) := by
  cases i with
  | zero =>
    rw [below, NoSub, bind_get?_of_not_object h]
    rfl
  | succ i =>
    rw [below, bind_get?_of_not_object h, below_none]
    rfl

/-- Nothing is shown when no node within the guard has a `sub`. -/
theorem collectSubs_eq_nil_iff :
    collectSubs write guard act = some [] ↔ ∀ i < guard, NoSub (below i act) := by
  induction guard generalizing act with
  | zero => simp [collectSubs]
  | succ guard ih =>
    by_cases hobject : ∃ members, act = some (.obj members)
    · obtain ⟨members, rfl⟩ := hobject
      rw [Nat.forall_lt_succ_left]
      show _ ↔ (members.lookup "sub").filter Json.notNull = none ∧
        ∀ i < guard, NoSub (below i (members.lookup "act"))
      rw [← ih, collectSubs]
      split
      · next hsub => simp [hsub]
      · next sub hsub =>
        rw [hsub]
        split
        · simp
        · simp
    · have hne : ∀ members, act ≠ some (.obj members) := fun members h ↦ hobject ⟨members, h⟩
      rw [collectSubs_of_not_object hne]
      exact ⟨fun _ i _ ↦ noSub_below_of_not_object hne i, fun _ ↦ rfl⟩

private theorem shownAsChecked_actor {members : List (String × Json)} {sub : String}
    (hsub : members.lookup "sub" = some (.str sub)) :
    ShownAsChecked (guard + 1) (some (.obj members)) ↔
      ShownAsChecked guard (members.lookup "act") := by
  have hactor : IsActor (some (.obj members)) := ⟨members, sub, rfl, hsub⟩
  constructor
  · rintro ⟨n, hn, hactors, hend, hsilent⟩
    cases n with
    | zero => exact absurd hactor hend
    | succ n =>
      refine ⟨n, Nat.le_of_succ_le_succ hn, fun i hi ↦ ?_, hend, fun i hni hi ↦ ?_⟩
      · exact hactors (i + 1) (Nat.succ_lt_succ hi)
      · exact hsilent (i + 1) (Nat.succ_le_succ hni) (Nat.succ_lt_succ hi)
  · rintro ⟨n, hn, hactors, hend, hsilent⟩
    refine ⟨n + 1, Nat.succ_le_succ hn, fun i hi ↦ ?_, hend, fun i hni hi ↦ ?_⟩
    · cases i with
      | zero => exact hactor
      | succ i => exact hactors i (Nat.lt_of_succ_lt_succ hi)
    · cases i with
      | zero => omega
      | succ i => exact hsilent i (Nat.le_of_succ_le_succ hni) (Nat.lt_of_succ_lt_succ hi)

private theorem shownAsChecked_noActor (hend : NoActor act) :
    ShownAsChecked guard act ↔ ∀ i < guard, NoSub (below i act) := by
  constructor
  · rintro ⟨n, -, hactors, -, hsilent⟩
    cases n with
    | zero => exact fun i hi ↦ hsilent i (Nat.zero_le i) hi
    | succ n => exact absurd (hactors 0 (Nat.succ_pos n)) hend
  · intro hsilent
    exact ⟨0, Nat.zero_le guard, fun i hi ↦ absurd hi (Nat.not_lt_zero i), hend,
      fun i _ hi ↦ hsilent i hi⟩

/-- The loop shows the checked chain when the nodes are as they should be. -/
theorem collectSubs_eq_walked_iff :
    collectSubs write guard act = some ((walked act).map write) ↔ ShownAsChecked guard act := by
  induction guard generalizing act with
  | zero =>
    rw [collectSubs, Option.some.injEq, eq_comm, List.map_eq_nil_iff, walked_eq_nil_iff]
    constructor
    · intro hend
      exact (shownAsChecked_noActor hend).mpr fun i hi ↦ absurd hi (Nat.not_lt_zero i)
    · rintro ⟨n, hn, -, hend, -⟩
      rwa [Nat.le_zero.mp hn] at hend
  | succ guard ih =>
    by_cases hactor : IsActor act
    · obtain ⟨members, sub, rfl, hsub⟩ := hactor
      rw [collectSubs_actor hsub, walked_eq_cons hsub, shownAsChecked_actor hsub, ← ih,
        List.map_cons, Option.map_eq_some_iff]
      simp
    · rw [shownAsChecked_noActor hactor, ← collectSubs_eq_nil_iff, walked_eq_nil_iff.mpr hactor]
      rfl

/-- What the loop shows and what is checked agree as far as both reach. -/
theorem collectSubs_isPrefix (h : collectSubs write guard act = some chain) :
    chain <+: (walked act).map write ∨ (walked act).map write <+: chain := by
  induction guard generalizing act chain with
  | zero =>
    cases h
    exact Or.inl List.nil_prefix
  | succ guard ih =>
    by_cases hactor : IsActor act
    · obtain ⟨members, sub, rfl, hsub⟩ := hactor
      rw [collectSubs_actor hsub, Option.map_eq_some_iff] at h
      obtain ⟨rest, hrest, rfl⟩ := h
      rw [walked_eq_cons hsub, List.map_cons, List.prefix_cons_inj, List.prefix_cons_inj]
      exact ih hrest
    · rw [walked_eq_nil_iff.mpr hactor]
      exact Or.inr List.nil_prefix

end Loop

private theorem oldestFirst_of_ne_nil {chain : List String} (h : chain ≠ []) :
    oldestFirst chain = some (" ▸ ".intercalate chain.reverse) := by
  cases chain with
  | nil => exact absurd rfl h
  | cons sub rest => rfl

private theorem eq_of_isPrefix {xs ys : List String} (hpre : xs <+: ys)
    (h : oldestFirst xs = oldestFirst ys) : xs = ys := by
  obtain ⟨rest, rfl⟩ := hpre
  by_cases hrest : rest = []
  · rw [hrest, List.append_nil]
  · have hlonger : xs ++ rest ≠ [] := fun hnil ↦ hrest (List.append_eq_nil_iff.mp hnil).2
    rw [oldestFirst_of_ne_nil hlonger] at h
    by_cases hxs : xs = []
    · rw [hxs] at h
      cases h
    · -- the longer line ends with the shorter one behind a separator
      rw [oldestFirst_of_ne_nil hxs, Option.some.injEq, List.reverse_append,
        String.intercalate_append_of_ne_nil (by simpa) (by simpa)] at h
      have hlength := congrArg String.length h
      rw [String.length_append, String.length_append] at hlength
      have hseparator : " ▸ ".length = 3 := rfl
      omega

/-- Of two chains of which one continues the other, the line tells which it is. -/
theorem oldestFirst_eq_iff {xs ys : List String} (hpre : xs <+: ys ∨ ys <+: xs) :
    oldestFirst xs = oldestFirst ys ↔ xs = ys := by
  constructor
  · intro h
    rcases hpre with hpre | hpre
    · exact eq_of_isPrefix hpre h
    · exact (eq_of_isPrefix hpre h.symm).symm
  · intro h
    rw [h]

/-- A line shows the checked chain when the nodes are as they should be. -/
theorem line_eq_walked_iff {write : String → String} {guard : Nat} {act : Option Json} :
    (collectSubs write guard act).map oldestFirst = some (oldestFirst ((walked act).map write)) ↔
      ShownAsChecked guard act := by
  rw [← @collectSubs_eq_walked_iff write, Option.map_eq_some_iff]
  constructor
  · rintro ⟨chain, hchain, hline⟩
    rw [hchain, (oldestFirst_eq_iff (collectSubs_isPrefix hchain)).mp hline]
  · intro h
    exact ⟨_, h, rfl⟩

mutual

private theorem flattenActChain_eq (top : Json) : flattenActChain top = walkActChain top := by
  cases top with
  | obj members =>
    have hbelow := flattenActMember_eq members
    unfold flattenActChain walkActChain
    generalize flattenActMember members = below at hbelow
    subst hbelow
    rfl
  | _ => rfl
termination_by structural top

private theorem flattenActMember_eq (members : List (String × Json)) :
    flattenActMember members = walkActMember members := by
  cases members with
  | nil => rfl
  | cons member rest =>
    obtain ⟨name, value⟩ := member
    rw [flattenActMember, walkActMember, flattenActChain_eq value, flattenActMember_eq rest]
termination_by structural members

end

/-- The span always has the checked chain; the two logs and the ledger show it exactly for the
claims whose nodes are as they should be. -/
theorem shown_eq_checked_iff (act : Option Json) :
    (act.map flattenActChain).getD [] = walked act ∧
    (OboLog.flattenAct act = some (oldestFirst ((walked act).map OboLog.shortSpiffe)) ↔
      ShownAsChecked 16 act) ∧
    (WireLog.flattenAct act = some (oldestFirst ((walked act).map WireLog.shortSpiffe)) ↔
      ShownAsChecked 16 act) ∧
    (TokenView.actChainIds act = some (walked act).reverse ↔ ShownAsChecked 16 act) := by
  refine ⟨?_, line_eq_walked_iff, line_eq_walked_iff, ?_⟩
  · cases act with
    | none => rfl
    | some top => exact flattenActChain_eq top
  · rw [← @collectSubs_eq_walked_iff id, TokenView.actChainIds, Option.map_eq_some_iff,
      List.map_id]
    simp only [List.reverse_inj, exists_eq_right]

/-- Two actors with a node in between that has no `sub`. -/
private def interrupted : Option Json :=
  some (.obj [("sub", .str "b"), ("act", .obj [("act", .obj [("sub", .str "a")])])])

/-- The logs and the ledger show an actor that the servers do not see. -/
theorem shown_not_checked :
    (¬ ∀ act, OboLog.flattenAct act =
      some (oldestFirst ((walked act).map OboLog.shortSpiffe))) ∧
    (¬ ∀ act, WireLog.flattenAct act =
      some (oldestFirst ((walked act).map WireLog.shortSpiffe))) ∧
    ¬ ∀ act, TokenView.actChainIds act = some (walked act).reverse := by
  have hlines : some (oldestFirst ["b", "a"]) ≠ some (oldestFirst ["b"]) := by decide
  refine ⟨fun h ↦ hlines (h interrupted), fun h ↦ hlines (h interrupted), fun h ↦ ?_⟩
  have hids : some ["a", "b"] = some ["b"] := h interrupted
  exact absurd hids (by decide)

end AgentsAuth.Display
