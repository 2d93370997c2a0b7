import AgentsAuth.Display.ActorChains
import AgentsAuth.Lib.Fallible
import AgentsAuth.Lib.Preorder

/-!
# The delegation ledger

`buildLedger` of `apps/web/src/lib/token-view.ts` receives the decoded tokens of a request as a
list and looks up from which of them each was exchanged. All it goes by is the chain of short actor
names. For the preorder listing of a tree of exchanges this is enough, whichever actors the
branches have in common.
-/

namespace AgentsAuth.Display

open AgentsAuth.AuthCurity AgentsAuth.Base AgentsAuth.Lib

/-- An element of `chain`; an absent payload is `null` or `undefined`. -/
structure LedgerHop where
  hop : String
  payload : Option Claims
  note : Option String

/-- `p[name]` for `p = payload ?? {}`. -/
def LedgerHop.claim (h : LedgerHop) (name : String) : Option Json := h.payload.bind (· name)

namespace TokenView

/-- `HopSummary`. -/
structure HopSummary where
  sub : Option String
  aud : List String
  scopes : List String
  acr : Option String
  roles : List String
  act : List String
  actIds : List String
  mayAct : Option String
  mayActId : Option String
  iat : Option JsonNumber
  exp : Option JsonNumber

/-- `HopDiff`. -/
structure HopDiff where
  scopesKept : List String
  scopesDropped : List String
  audChanged : Bool
  actAppended : Option String
  mayActHonoured : Option Bool

/-- `LedgerRow`. -/
structure LedgerRow where
  index : Nat
  hop : String
  summary : HopSummary
  parentIndex : Option Nat
  diff : HopDiff
  leaf : Bool
  number : Option Nat

/-- Model of `apps/web/src/lib/token-view.ts:74–79`; `none` where `String` throws. -/
def listClaim : Option Json → Option (List String)
  | none => some []
  | some .null => some []
  | some (.arr items) => items.mapM Json.text?
  | some (.str s) => some (words s)
  | some v => v.text?.map fun text ↦ [text]

/-- `v != null ? String(v) : undefined`. -/
def textClaim (v : Option Json) : Option (Option String) :=
  match v.filter Json.notNull with
  | none => some none
  | some v => v.text?.map some

/-- The `sub` of an object, as `mayActId` reads it. -/
def subOf : Json → Option (Option String)
  | .obj members => textClaim (members.lookup "sub")
  | _ => some none

/-- Model of `apps/web/src/lib/token-view.ts:99–114`; `parse` is `JSON.parse`, where `none` is a
thrown error, which is caught. -/
def mayActId (parse : String → Option Json) : Option Json → Option (Option String)
  | none => some none
  | some .null => some none
  | some (.str v) =>
    match parse v with
    | none => some (some v)
    | some obj => subOf obj
  | some v => subOf v

/-- Model of `apps/web/src/lib/token-view.ts:116–119`. -/
def mayActSub (parse : String → Option Json) (v : Option Json) : Option (Option String) :=
  (mayActId parse v).map fun id ↦ id.map shortSpiffe

/-- `typeof v === 'number' ? v : undefined`. -/
def numberClaim : Option Json → Option JsonNumber
  | some (.num n) => some n
  | _ => none

/-- Model of `apps/web/src/lib/token-view.ts:121–136`; `none` where it throws. -/
def summarizeHop (parse : String → Option Json) (h : LedgerHop) : Option HopSummary := do
  let sub ← textClaim (h.claim "sub")
  let aud ← listClaim (h.claim "aud")
  let scopes ← listClaim (h.claim "scope")
  let acr ← textClaim (h.claim "acr")
  let roles ← listClaim (h.claim "roles")
  let act ← flattenActChain (h.claim "act")
  let actIds ← actChainIds (h.claim "act")
  let mayAct ← mayActSub parse (h.claim "may_act")
  let mayActId ← mayActId parse (h.claim "may_act")
  return ⟨sub, aud, scopes, acr, roles, act, actIds, mayAct, mayActId,
    numberClaim (h.claim "iat"), numberClaim (h.claim "exp")⟩

/-- `a.every((v, i) => b[i] === v)`. -/
def everySame (a b : List String) : Bool := a.zipIdx.all fun item ↦ b[item.2]? = some item.1

/-- Model of `apps/web/src/lib/token-view.ts:138–140`. -/
def isPrefix (start of : List String) : Bool := start.length ≤ of.length && everySame start of

/-- Model of `apps/web/src/lib/token-view.ts:149–158`; the loop starts at `i - 1`. -/
def findParentIndex (summaries : List HopSummary) (i : Nat) : Option Nat :=
  match summaries[i]? with
  | none => none
  | some cur =>
    if cur.act.length = 0 then none
    else
      let want := cur.act.dropLast
      nearestBelow
        (fun j ↦ summaries[j]?.any fun cand ↦
          cand.act.length = want.length && isPrefix want cand.act)
        i

/-- Model of `apps/web/src/lib/token-view.ts:160–162`. -/
def sameList (a b : List String) : Bool := a.length = b.length && everySame a b

/-- Model of `apps/web/src/lib/token-view.ts:164–179`. -/
def diffAgainst (parent : Option HopSummary) (cur : HopSummary) : HopDiff :=
  match parent with
  | none => ⟨[], [], false, none, none⟩
  | some parent =>
    let actAppended := cur.act.getLast?
    { scopesKept := cur.scopes.filter fun s ↦ parent.scopes.contains s
      scopesDropped := parent.scopes.filter fun s ↦ !cur.scopes.contains s
      audChanged := !sameList parent.aud cur.aud
      actAppended := actAppended
      mayActHonoured :=
        match parent.mayAct, actAppended with
        | some mayAct, some actAppended => some (mayAct = actAppended)
        | _, _ => none }

/-- `Boolean(h.note)`. -/
def isLeaf (h : LedgerHop) : Bool := h.note.any (· ≠ "")

/-- The row of the hop at `i`, when `spine` rows on the spine come before it. -/
def ledgerRow (summaries : List HopSummary) (h : LedgerHop) (summary : HopSummary)
    (i spine : Nat) : LedgerRow :=
  let parentIndex := findParentIndex summaries i
  let parent := parentIndex.bind (summaries[·]?)
  { index := i
    hop := h.hop
    summary := summary
    parentIndex := parentIndex
    diff := diffAgainst parent summary
    leaf := isLeaf h
    number := if isLeaf h then none else some spine }

/-- The callback of `chain.map` at the hops from `i` on; `spine` counts as it goes. -/
def ledgerRows (summaries : List HopSummary) :
    List (LedgerHop × HopSummary) → (i spine : Nat) → List LedgerRow
  | [], _, _ => []
  | (h, summary) :: rest, i, spine =>
    ledgerRow summaries h summary i spine ::
      ledgerRows summaries rest (i + 1) (if isLeaf h then spine else spine + 1)

/-- Model of `apps/web/src/lib/token-view.ts:212–232`; `none` where it throws. -/
def buildLedger (parse : String → Option Json) (chain : List LedgerHop) :
    Option (List LedgerRow) := do
  let summaries ← chain.mapM (summarizeHop parse)
  return ledgerRows summaries (chain.zip summaries) 0 0

/-- The kept and the dropped scopes part those of the parent. -/
structure ScopesParted (parent current kept dropped : List String) : Prop where
  kept_subset : kept ⊆ current
  dropped_disjoint : dropped.Disjoint current
  disjoint : kept.Disjoint dropped
  covers : ∀ s, s ∈ parent ↔ s ∈ kept ∨ s ∈ dropped

/-- `String` throws for none of the claims that a row shows besides the actors. -/
structure HasTexts (parse : String → Option Json) (h : LedgerHop) : Prop where
  claims : ∀ name ∈ ["sub", "aud", "scope", "acr", "roles"], ∀ v, h.claim name = some v →
    v.hasText = true
  mayAct : ∀ members, (h.claim "may_act" = some (.obj members) ∨
      ∃ text, h.claim "may_act" = some (.str text) ∧ parse text = some (.obj members)) →
    ∀ v, members.lookup "sub" = some v → v.hasText = true

private theorem isSome_listClaim {v : Option Json} :
    (listClaim v).isSome = true ↔ ∀ w, v = some w → w.hasText = true := by
  unfold listClaim
  split
  · simp
  · simp [Json.hasText]
  · simp [isSome_mapM_iff, Json.isSome_text?_iff, Json.hasText, Json.itemsHaveText_iff]
  · simp [Json.hasText]
  · simp [Json.isSome_text?_iff]

private theorem isSome_textClaim {v : Option Json} :
    (textClaim v).isSome = true ↔ ∀ w, v = some w → w.hasText = true := by
  cases v with
  | none => simp [textClaim]
  | some v =>
    by_cases hnull : v.notNull = true
    · simp [textClaim, Option.filter, hnull, Json.isSome_text?_iff]
    · cases v with
      | null => simp [textClaim, Option.filter, Json.notNull, Json.hasText]
      | _ => simp [Json.notNull] at hnull

private theorem isSome_subOf {v : Json} :
    (subOf v).isSome = true ↔
      ∀ members, v = .obj members → ∀ w, members.lookup "sub" = some w → w.hasText = true := by
  cases v with
  | obj members => simp [subOf, isSome_textClaim]
  | _ => simp [subOf]

private theorem isSome_mayActId {parse : String → Option Json} {v : Option Json} :
    (mayActId parse v).isSome = true ↔
      ∀ members, (v = some (.obj members) ∨
          ∃ text, v = some (.str text) ∧ parse text = some (.obj members)) →
        ∀ w, members.lookup "sub" = some w → w.hasText = true := by
  unfold mayActId
  split
  · simp
  · simp
  · next text =>
    split
    · next hthrown => simp [hthrown]
    · next obj hparsed => simp [isSome_subOf, hparsed]
  · next v _ hstr =>
    have hnot : ∀ text, v ≠ .str text := hstr
    simp [isSome_subOf, hnot]

/-- A hop is summarized when the claims it shows have texts. -/
theorem summarizeHop_isSome_iff {parse : String → Option Json} {h : LedgerHop} :
    (summarizeHop parse h).isSome = true ↔
      HasTexts parse h ∧ (actChainIds (h.claim "act")).isSome = true := by
  have hclaims : HasTexts parse h ↔
      (((textClaim (h.claim "sub")).isSome = true ∧ (listClaim (h.claim "aud")).isSome = true ∧
        (listClaim (h.claim "scope")).isSome = true ∧ (textClaim (h.claim "acr")).isSome = true ∧
        (listClaim (h.claim "roles")).isSome = true) ∧
        (mayActId parse (h.claim "may_act")).isSome = true) := by
    simp only [isSome_textClaim, isSome_listClaim, isSome_mayActId]
    constructor
    · intro htexts
      exact ⟨⟨htexts.claims _ (by simp), htexts.claims _ (by simp), htexts.claims _ (by simp),
        htexts.claims _ (by simp), htexts.claims _ (by simp)⟩, htexts.mayAct⟩
    · rintro ⟨⟨hsub, haud, hscope, hacr, hroles⟩, hmayAct⟩
      refine ⟨fun name hname ↦ ?_, hmayAct⟩
      simp only [List.mem_cons, List.not_mem_nil, or_false] at hname
      rcases hname with rfl | rfl | rfl | rfl | rfl
      · exact hsub
      · exact haud
      · exact hscope
      · exact hacr
      · exact hroles
  rw [hclaims, summarizeHop, flattenActChain, mayActSub]
  simp only [Option.isSome_iff_exists, Option.bind_eq_bind, Option.bind_eq_some_iff,
    Option.map_eq_some_iff]
  constructor
  · rintro ⟨_, sub, hsub, aud, haud, scopes, hscopes, acr, hacr, roles, hroles, act, -, actIds,
      hactIds, mayAct, -, mayActId, hmayActId, -⟩
    exact ⟨⟨⟨⟨sub, hsub⟩, ⟨aud, haud⟩, ⟨scopes, hscopes⟩, ⟨acr, hacr⟩, ⟨roles, hroles⟩⟩,
      ⟨mayActId, hmayActId⟩⟩, ⟨actIds, hactIds⟩⟩
  · rintro ⟨⟨⟨⟨sub, hsub⟩, ⟨aud, haud⟩, ⟨scopes, hscopes⟩, ⟨acr, hacr⟩, ⟨roles, hroles⟩⟩,
      ⟨mayActId, hmayActId⟩⟩, ⟨actIds, hactIds⟩⟩
    exact ⟨_, sub, hsub, aud, haud, scopes, hscopes, acr, hacr, roles, hroles, _,
      ⟨actIds, hactIds, rfl⟩, actIds, hactIds, _, ⟨mayActId, hmayActId, rfl⟩, mayActId,
      hmayActId, rfl⟩

/-- A summary has the chain of its token, and the workload that may act on it. -/
theorem summarizeHop_eq_some {parse : String → Option Json} {h : LedgerHop} {summary : HopSummary}
    (hsummary : summarizeHop parse h = some summary) :
    flattenActChain (h.claim "act") = some summary.act ∧
      mayActSub parse (h.claim "may_act") = some summary.mayAct := by
  simp only [summarizeHop, Option.bind_eq_bind, Option.bind_eq_some_iff] at hsummary
  obtain ⟨sub, -, aud, -, scopes, -, acr, -, roles, -, act, hact, actIds, -, mayAct, hmayAct,
    mayActId, -, hsummary⟩ := hsummary
  cases hsummary
  exact ⟨hact, hmayAct⟩

/-- The loop compares what the two lists have at each index. -/
theorem everySame_iff {a b : List String} :
    everySame a b = true ↔ ∀ (i : Nat) (v : String), a[i]? = some v → b[i]? = some v := by
  rw [everySame, List.all_eq_true]
  constructor
  · intro h i v hv
    exact of_decide_eq_true (h (v, i) (List.mk_mem_zipIdx_iff_getElem?.mpr hv))
  · rintro h ⟨v, i⟩ hmem
    exact decide_eq_true (h i v (List.mk_mem_zipIdx_iff_getElem?.mp hmem))

/-- Of two chains of one length one is a prefix when they are the same. -/
theorem isPrefix_iff_of_length_eq {start of : List String} (hlength : of.length = start.length) :
    isPrefix start of = true ↔ of = start := by
  rw [isPrefix, Bool.and_eq_true, decide_eq_true_eq, everySame_iff]
  constructor
  · rintro ⟨-, hsame⟩
    apply List.ext_getElem hlength
    intro i hi hi'
    have hget := hsame i start[i] (List.getElem?_eq_getElem hi')
    rw [List.getElem?_eq_getElem hi] at hget
    exact Option.some.inj hget
  · rintro rfl
    exact ⟨Nat.le_refl _, fun i v hv ↦ hv⟩

/-- What is kept and what is dropped part the scopes of the parent. -/
theorem scopesParted_diffAgainst {parent cur : HopSummary} :
    ScopesParted parent.scopes cur.scopes (diffAgainst (some parent) cur).scopesKept
      (diffAgainst (some parent) cur).scopesDropped := by
  refine ⟨?_, ?_, ?_, ?_⟩
  · intro s hs
    exact (List.mem_filter.mp hs).1
  · intro s hdropped hcurrent
    have hnot := (List.mem_filter.mp hdropped).2
    simp [hcurrent] at hnot
  · intro s hkept hdropped
    have hnot := (List.mem_filter.mp hdropped).2
    simp [(List.mem_filter.mp hkept).1] at hnot
  · intro s
    simp only [diffAgainst, List.mem_filter]
    by_cases hcurrent : s ∈ cur.scopes
    · simp [hcurrent]
    · simp [hcurrent]

section Rows

variable {summaries : List HopSummary} {entries : List (LedgerHop × HopSummary)} {i o spine : Nat}
  {row : LedgerRow}

/-- The parent of a row is the nearest earlier one whose chain is this one's without its newest
actor. -/
theorem findParentIndex_eq_some_iff :
    findParentIndex summaries i = some o ↔
      o < i ∧ ∃ cur parent, summaries[i]? = some cur ∧ cur.act ≠ [] ∧ summaries[o]? = some parent ∧
        parent.act = cur.act.dropLast ∧
        ∀ m, o < m → m < i → ∀ cand, summaries[m]? = some cand → cand.act ≠ cur.act.dropLast := by
  have hmatches : ∀ want (cand : HopSummary),
      (cand.act.length = want.length && isPrefix want cand.act) = true ↔ cand.act = want := by
    intro want cand
    rw [Bool.and_eq_true, decide_eq_true_eq]
    constructor
    · rintro ⟨hlength, hprefix⟩
      exact (isPrefix_iff_of_length_eq hlength).mp hprefix
    · intro hact
      exact ⟨by rw [hact], (isPrefix_iff_of_length_eq (by rw [hact])).mpr hact⟩
  rw [findParentIndex]
  cases hcur : summaries[i]? with
  | none => simp
  | some cur =>
    by_cases hact : cur.act = []
    · simp [hact]
    · have hlength : cur.act.length ≠ 0 := fun h ↦ hact (List.length_eq_zero_iff.mp h)
      simp only [hlength, if_false]
      rw [nearestBelow_eq_some_iff]
      simp only [Option.any_eq_true, hmatches]
      constructor
      · rintro ⟨ho, ⟨parent, hparent, hparentAct⟩, hnone⟩
        refine ⟨ho, cur, parent, rfl, hact, hparent, hparentAct, ?_⟩
        intro m hom hmi cand hcand hsame
        have hnot := hnone m hom hmi
        rw [hcand, Option.any_some, (hmatches _ cand).mpr hsame] at hnot
        cases hnot
      · rintro ⟨ho, cur', parent, hcur', -, hparent, hparentAct, hnone⟩
        cases hcur'
        refine ⟨ho, ⟨parent, hparent, hparentAct⟩, fun m hom hmi ↦ ?_⟩
        cases hcand : summaries[m]? with
        | none => rfl
        | some cand =>
          rw [Option.any_some]
          apply eq_false_of_ne_true
          intro hsame
          exact hnone m hom hmi cand hcand ((hmatches _ cand).mp hsame)

/-- The parents of the rows, by the index of the row. -/
theorem parentIndex_ledgerRows :
    (ledgerRows summaries entries i spine).map (·.parentIndex) =
      (List.range' i entries.length).map (findParentIndex summaries) := by
  induction entries generalizing i spine with
  | nil => rfl
  | cons entry entries ih =>
    rw [ledgerRows, List.map_cons, ih, List.length_cons, List.range'_succ, List.map_cons]
    rfl

/-- Every row has the summary of its hop. -/
theorem summary_ledgerRows :
    (ledgerRows summaries entries i spine).map (·.summary) = entries.map Prod.snd := by
  induction entries generalizing i spine with
  | nil => rfl
  | cons entry entries ih =>
    rw [ledgerRows, List.map_cons, ih, List.map_cons]
    rfl

/-- Every row is the one of its hop. -/
theorem getElem?_ledgerRows {k : Nat}
    (h : (ledgerRows summaries entries i spine)[k]? = some row) :
    ∃ hop n, entries[k]? = some (hop, row.summary) ∧
      row = ledgerRow summaries hop row.summary (i + k) n := by
  induction entries generalizing i spine k with
  | nil => cases h
  | cons entry entries ih =>
    rw [ledgerRows] at h
    cases k with
    | zero =>
      cases h
      exact ⟨entry.1, spine, rfl, rfl⟩
    | succ k =>
      rw [List.getElem?_cons_succ] at h
      obtain ⟨hop, n, hentry, hrow⟩ := ih h
      rw [Nat.add_assoc, Nat.add_comm 1 k] at hrow
      exact ⟨hop, n, hentry, hrow⟩

/-- The rows on the spine are counted, whatever leaves hang between them. -/
theorem number_ledgerRows {onSpine : List LedgerRow}
    (h : (ledgerRows summaries entries i spine).filter (fun row ↦ !row.leaf) = onSpine) :
    onSpine.map (·.number) = (List.range' spine onSpine.length).map some := by
  subst h
  induction entries generalizing i spine with
  | nil => rfl
  | cons entry entries ih =>
    rw [ledgerRows, List.filter_cons]
    cases hleaf : isLeaf entry.1 with
    | true => simp [ledgerRow, hleaf, ih]
    | false =>
      simp only [ledgerRow, hleaf, Bool.not_false, Bool.false_eq_true, if_true, if_false,
        List.map_cons, List.length_cons, List.range'_succ, ih]

end Rows

/-- The ledger has rows when every hop can be summarized. -/
theorem buildLedger_isSome_iff {parse : String → Option Json} {chain : List LedgerHop} :
    (buildLedger parse chain).isSome = true ↔
      ∀ h ∈ chain, (summarizeHop parse h).isSome = true := by
  rw [← isSome_mapM_iff, buildLedger]
  cases chain.mapM (summarizeHop parse) with
  | none => rfl
  | some summaries => rfl

/-- The rows of a ledger. -/
theorem buildLedger_eq_some_iff {parse : String → Option Json} {chain : List LedgerHop}
    {rows : List LedgerRow} :
    buildLedger parse chain = some rows ↔
      ∃ summaries, List.Forall₂ (fun h summary ↦ summarizeHop parse h = some summary) chain
          summaries ∧
        rows = ledgerRows summaries (chain.zip summaries) 0 0 := by
  simp only [← mapM_eq_some_iff, buildLedger, Option.bind_eq_bind, Option.bind_eq_some_iff]
  refine exists_congr fun summaries ↦ and_congr_right fun _ ↦ ?_
  rw [Option.pure_def, Option.some.injEq, eq_comm]

section Built

variable {parse : String → Option Json} {chain : List LedgerHop} {rows : List LedgerRow} {i o : Nat}
  {row : LedgerRow}

/-- The row at a place is that of the hop there. -/
theorem row_of_buildLedger (h : buildLedger parse chain = some rows) (hrow : rows[i]? = some row) :
    ∃ hop, chain[i]? = some hop ∧ summarizeHop parse hop = some row.summary ∧
      row.leaf = isLeaf hop ∧ (row.leaf = false → ∃ n, row.number = some n) := by
  obtain ⟨summaries, hall, rfl⟩ := buildLedger_eq_some_iff.mp h
  obtain ⟨hop, n, hentry, heq⟩ := getElem?_ledgerRows hrow
  have hhop := (List.getElem?_zip_eq_some.mp hentry).1
  have hsummary := (List.forall₂_iff_zip.mp hall).2 (List.mem_of_getElem? hentry)
  refine ⟨hop, hhop, hsummary, by rw [heq]; rfl, fun hleaf ↦ ⟨n, ?_⟩⟩
  rw [heq, ledgerRow] at hleaf ⊢
  simp only at hleaf ⊢
  rw [hleaf, if_neg Bool.false_ne_true]

/-- There is a row for every hop. -/
theorem length_of_buildLedger (h : buildLedger parse chain = some rows) :
    rows.length = chain.length := by
  obtain ⟨summaries, hall, rfl⟩ := buildLedger_eq_some_iff.mp h
  have hshown := congrArg List.length (@summary_ledgerRows summaries (chain.zip summaries) 0 0)
  rw [List.length_map, List.length_map, List.length_zip, hall.length_eq, Nat.min_self] at hshown
  rw [hshown, hall.length_eq]

/-- The summaries of the rows are those that the parents are looked up in. -/
private theorem summaries_of_buildLedger (h : buildLedger parse chain = some rows) :
    rows = ledgerRows (rows.map (·.summary)) (chain.zip (rows.map (·.summary))) 0 0 := by
  obtain ⟨summaries, hall, rfl⟩ := buildLedger_eq_some_iff.mp h
  rw [summary_ledgerRows, List.map_snd_zip (Nat.le_of_eq hall.length_eq.symm)]

/-- A row is the one of some hop, looked up and compared among the summaries of all rows. -/
private theorem exists_ledgerRow (h : buildLedger parse chain = some rows)
    (hrow : rows[i]? = some row) :
    ∃ hop n, row = ledgerRow (rows.map (·.summary)) hop row.summary i n := by
  have hrow' := hrow
  rw [summaries_of_buildLedger h] at hrow'
  obtain ⟨hop, n, -, heq⟩ := getElem?_ledgerRows hrow'
  rw [Nat.zero_add] at heq
  exact ⟨hop, n, heq⟩

/-- The parent of a row is the nearest earlier one whose chain is this one's without its newest
actor. -/
theorem parentIndex_eq_some_iff (h : buildLedger parse chain = some rows)
    (hrow : rows[i]? = some row) :
    row.parentIndex = some o ↔
      o < i ∧ row.summary.act ≠ [] ∧ ∃ parent, rows[o]? = some parent ∧
        parent.summary.act = row.summary.act.dropLast ∧
        ∀ m, o < m → m < i → ∀ cand, rows[m]? = some cand →
          cand.summary.act ≠ row.summary.act.dropLast := by
  obtain ⟨hop, n, heq⟩ := exists_ledgerRow h hrow
  have hindex : row.parentIndex = findParentIndex (rows.map (·.summary)) i :=
    congrArg LedgerRow.parentIndex heq
  rw [hindex, findParentIndex_eq_some_iff]
  simp only [List.getElem?_map, Option.map_eq_some_iff]
  constructor
  · rintro ⟨ho, _, _, ⟨row', hrow', rfl⟩, hacted, ⟨parent, hparent, rfl⟩, hact, hnone⟩
    rw [hrow, Option.some.injEq] at hrow'
    subst hrow'
    exact ⟨ho, hacted, parent, hparent, hact,
      fun m hom hmi cand hcand ↦ hnone m hom hmi _ ⟨cand, hcand, rfl⟩⟩
  · rintro ⟨ho, hacted, parent, hparent, hact, hnone⟩
    refine ⟨ho, _, _, ⟨row, hrow, rfl⟩, hacted, ⟨parent, hparent, rfl⟩, hact, ?_⟩
    rintro m hom hmi _ ⟨cand, hcand, rfl⟩
    exact hnone m hom hmi cand hcand

/-- A row is compared with its parent. -/
theorem diff_of_buildLedger (h : buildLedger parse chain = some rows) (hrow : rows[i]? = some row)
    (hparent : row.parentIndex = some o) {parent : LedgerRow} (hget : rows[o]? = some parent) :
    row.diff = diffAgainst (some parent.summary) row.summary := by
  obtain ⟨hop, n, heq⟩ := exists_ledgerRow h hrow
  have hindex : row.parentIndex = findParentIndex (rows.map (·.summary)) i :=
    congrArg LedgerRow.parentIndex heq
  calc
    row.diff = diffAgainst ((findParentIndex (rows.map (·.summary)) i).bind
        ((rows.map (·.summary))[·]?)) row.summary := congrArg LedgerRow.diff heq
    _ = diffAgainst (some parent.summary) row.summary := by
      rw [← hindex, hparent, Option.bind_some, List.getElem?_map, hget, Option.map_some]

end Built

end TokenView
end AgentsAuth.Display
