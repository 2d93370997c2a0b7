import AgentsAuth.Display.Ledger

/-!
# Whether the permitted workload acted

`mayActHonoured` of `apps/web/src/lib/token-view.ts` says of a row whether its newest actor is the
workload that the parent's `may_act` named. It compares short names, where the token procedure
compares full identifiers (`k8s/curity/procedures/token-exchange.js:441–450`): two workloads of one
service account name, in other namespaces or trust domains, are one to it.
-/

namespace AgentsAuth.Display

open AgentsAuth.Api AgentsAuth.AuthCurity AgentsAuth.Base AgentsAuth.Lib TokenView

/-- The claim names this workload, as an object, as the JSON text of one, or as the plain
identifier. -/
inductive Names (parse : String → Option Json) : Json → String → Prop
  | object {members : List (String × Json)} {sub : Json} {id : String}
      (hsub : members.lookup "sub" = some sub) (hnull : sub.notNull = true)
      (hid : sub.text? = some id) : Names parse (.obj members) id
  | json {text : String} {members : List (String × Json)} {id : String}
      (hparse : parse text = some (.obj members)) (h : Names parse (.obj members) id) :
      Names parse (.str text) id
  | plain {text : String} (hparse : parse text = none) : Names parse (.str text) text

/-- A `may_act` claim that is there permits this workload. -/
def Permits (parse : String → Option Json) (mayAct : Option Json) (id : String) : Prop :=
  ∃ value, mayAct = some value ∧ Names parse value id

/-- The newest actor of an `act` claim: that of the outermost node with a `sub`. -/
def NewestActor (act : Option Json) (id : String) : Prop :=
  ∃ n, (∀ i < n, NoSub (below i act)) ∧
    ∃ members sub, below n act = some (.obj members) ∧ members.lookup "sub" = some sub ∧
      sub.notNull = true ∧ sub.text? = some id

/-- What `mayActHonoured` is to say: `true` only of the workload that was named, `false` of every
other, and nothing where no one is named or no one acted. -/
structure HonouredLaw (parse : String → Option Json) (mayAct act : Option Json)
    (honoured : Option Bool) : Prop where
  named : honoured = some true → ∃ id, NewestActor act id ∧ Permits parse mayAct id
  other : ∀ id id', NewestActor act id → Permits parse mayAct id' → id ≠ id' →
    honoured = some false
  undefined : honoured = none ↔ (¬ ∃ id, Permits parse mayAct id) ∨ ¬ ∃ id, NewestActor act id

section Claims

variable {parse : String → Option Json} {act : Option Json} {guard : Nat} {first id : String}
  {older : List String}

private theorem newestActor_object {members : List (String × Json)}
    (h : (members.lookup "sub").filter Json.notNull = none) :
    NewestActor (some (.obj members)) id ↔ NewestActor (members.lookup "act") id := by
  constructor
  · rintro ⟨n, hsilent, members', sub, hnode, hsub, hnull, hid⟩
    cases n with
    | zero =>
      cases hnode
      rw [hsub, Option.filter_some, if_pos hnull] at h
      cases h
    | succ n =>
      exact ⟨n, fun i hi ↦ hsilent (i + 1) (Nat.succ_lt_succ hi), members', sub, hnode, hsub,
        hnull, hid⟩
  · rintro ⟨n, hsilent, hactor⟩
    refine ⟨n + 1, fun i hi ↦ ?_, hactor⟩
    cases i with
    | zero => exact h
    | succ i => exact hsilent i (Nat.lt_of_succ_lt_succ hi)

/-- What the loop collects first is the newest actor. -/
theorem newestActor_iff (h : collectSubs (fun id ↦ id) guard act = some (first :: older)) :
    NewestActor act id ↔ id = first := by
  induction guard generalizing act with
  | zero => cases h
  | succ guard ih =>
    unfold collectSubs at h
    split at h
    · next hzero => cases hzero
    · next guard' members hguard =>
      cases hguard
      split at h
      · next hnone => exact (newestActor_object hnone).trans (ih h)
      · next sub hsome =>
        obtain ⟨hsub, hnull⟩ := Option.filter_eq_some_iff.mp hsome
        split at h
        · next text rest htext hrest =>
          cases h
          constructor
          · rintro ⟨n, hsilent, members', sub', hnode, hsub', hnull', hid⟩
            cases n with
            | zero =>
              cases hnode
              rw [hsub, Option.some.injEq] at hsub'
              rw [← hsub', htext, Option.some.injEq] at hid
              exact hid.symm
            | succ n =>
              have hnot : (members.lookup "sub").filter Json.notNull = none :=
                hsilent 0 (Nat.succ_pos n)
              rw [hsome] at hnot
              cases hnot
          · rintro rfl
            exact ⟨0, fun i hi ↦ absurd hi (Nat.not_lt_zero i), members, sub, rfl, hsub, hnull,
              htext⟩
        · cases h
    · cases h

private theorem textClaim_eq_some_iff {v : Option Json} {named : Option String}
    (h : textClaim v = some named) :
    named = some id ↔ ∃ sub, v = some sub ∧ sub.notNull = true ∧ sub.text? = some id := by
  unfold textClaim at h
  split at h
  · next hnone =>
    cases h
    constructor
    · intro h
      cases h
    · rintro ⟨sub, rfl, hnull, -⟩
      rw [Option.filter_some, if_pos hnull] at hnone
      cases hnone
  · next sub hsome =>
    obtain ⟨hv, hnull⟩ := Option.filter_eq_some_iff.mp hsome
    rw [Option.map_eq_some_iff] at h
    obtain ⟨text, htext, rfl⟩ := h
    rw [hv]
    constructor
    · intro hid
      cases hid
      exact ⟨sub, rfl, hnull, htext⟩
    · rintro ⟨sub', hsub', -, hid⟩
      cases hsub'
      rw [← hid, htext]

variable (parse) in
private theorem names_obj_iff {members : List (String × Json)} :
    Names parse (.obj members) id ↔
      ∃ sub, members.lookup "sub" = some sub ∧ sub.notNull = true ∧ sub.text? = some id := by
  constructor
  · intro h
    cases h with
    | object hsub hnull hid => exact ⟨_, hsub, hnull, hid⟩
  · rintro ⟨sub, hsub, hnull, hid⟩
    exact .object hsub hnull hid

variable (parse) in
private theorem subOf_eq_some_iff {value : Json} {named : Option String}
    (h : subOf value = some named) :
    named = some id ↔ ∃ members, value = .obj members ∧ Names parse (.obj members) id := by
  cases value with
  | obj members =>
    rw [textClaim_eq_some_iff h, ← names_obj_iff parse]
    simp
  | _ =>
    cases h
    simp

/-- `mayActId` finds the workload that is permitted. -/
theorem permits_iff {mayAct : Option Json} {named : Option String}
    (h : mayActId parse mayAct = some named) :
    Permits parse mayAct id ↔ named = some id := by
  unfold mayActId at h
  split at h
  · cases h
    simp [Permits]
  · cases h
    constructor
    · rintro ⟨value, hvalue, hnames⟩
      cases hvalue
      cases hnames
    · intro hid
      cases hid
  · next text =>
    split at h
    · next hthrown =>
      cases h
      rw [Option.some.injEq]
      constructor
      · rintro ⟨value, hvalue, hnames⟩
        cases hvalue
        cases hnames with
        | json hparse _ =>
          rw [hthrown] at hparse
          cases hparse
        | plain _ => rfl
      · rintro rfl
        exact ⟨.str text, rfl, .plain hthrown⟩
    · next value hparsed =>
      rw [subOf_eq_some_iff parse h]
      constructor
      · rintro ⟨value', hvalue, hnames⟩
        cases hvalue
        cases hnames with
        | json hparse hobject =>
          rw [hparsed, Option.some.injEq] at hparse
          exact ⟨_, hparse, hobject⟩
        | plain hthrown =>
          rw [hparsed] at hthrown
          cases hthrown
      · rintro ⟨members, rfl, hobject⟩
        exact ⟨.str text, rfl, .json hparsed hobject⟩
  · next value _ hstr =>
    rw [subOf_eq_some_iff parse h]
    constructor
    · rintro ⟨value', hvalue, hnames⟩
      cases hvalue
      cases hnames with
      | object hsub hnull hid => exact ⟨_, rfl, .object hsub hnull hid⟩
      | json _ _ => exact absurd rfl (hstr _)
      | plain _ => exact absurd rfl (hstr _)
    · rintro ⟨members, rfl, hobject⟩
      exact ⟨_, rfl, hobject⟩

/-- Of what is compared, the short names are shown and the full identifiers are meant. -/
theorem honouredLaw_iff {mayAct act : Option Json} {parent cur : HopSummary}
    (hmayAct : mayActSub parse mayAct = some parent.mayAct)
    (hact : TokenView.flattenActChain act = some cur.act) (hacted : cur.act ≠ []) :
    HonouredLaw parse mayAct act (diffAgainst (some parent) cur).mayActHonoured ↔
      ∀ id id', NewestActor act id → Permits parse mayAct id' →
        shortSpiffe id = shortSpiffe id' → id = id' := by
  rw [mayActSub, Option.map_eq_some_iff] at hmayAct
  obtain ⟨named, hnamed, hmayAct⟩ := hmayAct
  rw [TokenView.flattenActChain, actChainIds, Option.map_map, Option.map_eq_some_iff] at hact
  obtain ⟨chain, hchain, hact⟩ := hact
  cases chain with
  | nil => exact absurd hact.symm hacted
  | cons first older =>
    have hnewest : ∀ id, NewestActor act id ↔ id = first := fun id ↦ newestActor_iff hchain
    have hlast : cur.act.getLast? = some (shortSpiffe first) := by
      rw [← hact]
      simp
    cases named with
    | none =>
      have hpermits : ∀ id, ¬ Permits parse mayAct id := fun id h ↦ by
        cases (permits_iff hnamed).mp h
      have hhonoured : (diffAgainst (some parent) cur).mayActHonoured = none := by
        simp only [diffAgainst, ← hmayAct, Option.map_none]
      rw [hhonoured]
      refine iff_of_true ⟨?_, fun id id' _ h ↦ absurd h (hpermits id'), ?_⟩
        fun id id' _ h ↦ absurd h (hpermits id')
      · intro h
        cases h
      · refine iff_of_true rfl (Or.inl ?_)
        rintro ⟨id, h⟩
        exact hpermits id h
    | some permitted =>
      have hpermits : ∀ id, Permits parse mayAct id ↔ id = permitted := fun id ↦ by
        rw [permits_iff hnamed, Option.some.injEq, eq_comm]
      have hhonoured : (diffAgainst (some parent) cur).mayActHonoured =
          some (decide (shortSpiffe permitted = shortSpiffe first)) := by
        simp only [diffAgainst, ← hmayAct, hlast, Option.map_some]
      rw [hhonoured]
      constructor
      · intro h id id' hid hid' hsame
        rw [(hnewest id).mp hid, (hpermits id').mp hid'] at hsame ⊢
        obtain ⟨id, hid, hid'⟩ := h.named (by rw [hsame, decide_eq_true rfl])
        rw [← (hnewest id).mp hid, (hpermits id).mp hid']
      · intro h
        have hcollapse : shortSpiffe first = shortSpiffe permitted → first = permitted :=
          h first permitted ((hnewest first).mpr rfl) ((hpermits permitted).mpr rfl)
        refine ⟨fun htrue ↦ ?_, fun id id' hid hid' hne ↦ ?_, ?_⟩
        · have hsame := of_decide_eq_true (Option.some.inj htrue)
          exact ⟨first, (hnewest first).mpr rfl, (hpermits first).mpr (hcollapse hsame.symm)⟩
        · rw [(hnewest id).mp hid, (hpermits id').mp hid'] at hne
          rw [decide_eq_false fun hsame ↦ hne (hcollapse hsame.symm)]
        · constructor
          · intro hnone
            cases hnone
          · rintro (hnone | hnone)
            · exact absurd ⟨permitted, (hpermits permitted).mpr rfl⟩ hnone
            · exact absurd ⟨first, (hnewest first).mpr rfl⟩ hnone

end Claims

/-- For a row and its parent, `mayActHonoured` says what it is to say exactly when the newest actor
and the workload that the parent permits, if they have one short name, are the same. -/
theorem mayActHonoured_iff {parse : String → Option Json} {chain : List LedgerHop}
    {rows : List LedgerRow} (h : buildLedger parse chain = some rows) {i o : Nat} {row : LedgerRow}
    {hop parentHop : LedgerHop} (hrow : rows[i]? = some row) (hhop : chain[i]? = some hop)
    (hparent : row.parentIndex = some o) (hparentHop : chain[o]? = some parentHop) :
    HonouredLaw parse (parentHop.claim "may_act") (hop.claim "act") row.diff.mayActHonoured ↔
      ∀ id id', NewestActor (hop.claim "act") id → Permits parse (parentHop.claim "may_act") id' →
        shortSpiffe id = shortSpiffe id' → id = id' := by
  obtain ⟨hop', hhop', hsummary, -, -⟩ := row_of_buildLedger h hrow
  obtain ⟨-, hacted, parent, hparentRow, -, -⟩ := (parentIndex_eq_some_iff h hrow).mp hparent
  obtain ⟨parentHop', hparentHop', hparentSummary, -, -⟩ := row_of_buildLedger h hparentRow
  rw [hhop, Option.some.injEq] at hhop'
  rw [hparentHop, Option.some.injEq] at hparentHop'
  subst hhop' hparentHop'
  rw [diff_of_buildLedger h hrow hparent hparentRow]
  exact honouredLaw_iff (summarizeHop_eq_some hparentSummary).2 (summarizeHop_eq_some hsummary).1
    hacted

section Sample

private def sampleLogin (permitted : String) : LedgerHop :=
  ⟨"user → agent-copilot", some fun name ↦
    if name = "may_act" then some (.obj [("sub", .str permitted)]) else none, none⟩

private def sampleExchange (acted : String) : LedgerHop :=
  ⟨"agent-copilot → agentgateway", some fun name ↦
    if name = "act" then some (.obj [("sub", .str acted)]) else none, none⟩

private theorem sample_row (permitted acted : String) :
    ∃ rows row,
      buildLedger (fun _ ↦ none) [sampleLogin permitted, sampleExchange acted] = some rows ∧
      rows[1]? = some row ∧ row.parentIndex = some 0 ∧
      row.diff.mayActHonoured = some (decide (shortSpiffe permitted = shortSpiffe acted)) :=
  ⟨_, _, rfl, rfl, rfl, rfl⟩

private theorem newestActor_sample {acted id : String} :
    NewestActor ((sampleExchange acted).claim "act") id ↔ id = acted :=
  @newestActor_iff _ 16 acted id [] rfl

private theorem permits_sample {permitted id : String} :
    Permits (fun _ ↦ none) ((sampleLogin permitted).claim "may_act") id ↔ id = permitted := by
  rw [@permits_iff _ _ _ (some permitted) rfl, Option.some.injEq, eq_comm]

/-- The workload that was named has acted, under its full identifier. -/
theorem mayActHonoured_iff_sample :
    ∃ rows row, buildLedger (fun _ ↦ none) [sampleLogin "spiffe://demo/ns/agents/sa/agent-copilot",
        sampleExchange "spiffe://demo/ns/agents/sa/agent-copilot"] = some rows ∧
      rows[1]? = some row ∧
      HonouredLaw (fun _ ↦ none)
        ((sampleLogin "spiffe://demo/ns/agents/sa/agent-copilot").claim "may_act")
        ((sampleExchange "spiffe://demo/ns/agents/sa/agent-copilot").claim "act")
        row.diff.mayActHonoured := by
  obtain ⟨rows, row, hrows, hrow, hparent, -⟩ := sample_row
    "spiffe://demo/ns/agents/sa/agent-copilot" "spiffe://demo/ns/agents/sa/agent-copilot"
  refine ⟨rows, row, hrows, hrow, (mayActHonoured_iff hrows hrow rfl hparent rfl).mpr ?_⟩
  intro id id' hid hid' _
  rw [newestActor_sample.mp hid, permits_sample.mp hid']

/-- A workload of the same name in another trust domain is taken for the one that was named. -/
theorem namesake_honoured :
    ¬ ∀ (parse : String → Option Json) (chain : List LedgerHop) (rows : List LedgerRow) (i o : Nat)
      (row : LedgerRow) (hop parentHop : LedgerHop), buildLedger parse chain = some rows →
      rows[i]? = some row → chain[i]? = some hop → row.parentIndex = some o →
      chain[o]? = some parentHop →
      HonouredLaw parse (parentHop.claim "may_act") (hop.claim "act") row.diff.mayActHonoured := by
  intro h
  obtain ⟨rows, row, hrows, hrow, hparent, hhonoured⟩ := sample_row
    "spiffe://demo/ns/agents/sa/agent-copilot" "spiffe://other/ns/agents/sa/agent-copilot"
  have hlaw := h _ _ rows 1 0 row _ _ hrows hrow rfl hparent rfl
  have htrue : row.diff.mayActHonoured = some true := by
    rw [hhonoured]
    decide
  obtain ⟨id, hid, hid'⟩ := hlaw.named htrue
  have hsame := (newestActor_sample.mp hid).symm.trans (permits_sample.mp hid')
  exact absurd hsame (by decide)

end Sample

end AgentsAuth.Display
