import AgentsAuth.Display.Ledger

/-!
# The ledger of a tree of exchanges

A login token has no actor, and an exchange puts the actor in front of the chain of the token that
it is given. The tokens of a request are the nodes of a tree whose paths are the chains; they are
listed in preorder, and `buildLedger` gives each row the token it was exchanged from.
-/

namespace AgentsAuth.Display

open AgentsAuth.AuthCurity AgentsAuth.Base AgentsAuth.Lib TokenView

/-- The claim nests these actors, the newest first. -/
inductive ActChain : Option Json → List String → Prop
  | ends {act : Option Json} (h : ∀ members, act ≠ some (.obj members)) : ActChain act []
  | actor {members : List (String × Json)} {sub : Json} {id : String} {older : List String}
      (hsub : members.lookup "sub" = some sub) (hnull : sub.notNull = true)
      (hid : sub.text? = some id) (hact : ActChain (members.lookup "act") older) :
      ActChain (some (.obj members)) (id :: older)

/-- A token whose chain is `path`, with no more actors than are shown. -/
structure Exchanged (path : List String) where
  hop : LedgerHop
  chain : ActChain (hop.claim "act") path
  depth : path.length ≤ 16

/-- The token of a login and what was exchanged from it. -/
structure ExchangeTree where
  root : Exchanged []
  branches : Branches Exchanged []

namespace ExchangeTree

/-- The tokens in depth-first preorder, each with its chain. -/
def tokens (tree : ExchangeTree) : List ((path : List String) × Exchanged path) :=
  ⟨[], tree.root⟩ :: tree.branches.preorder

/-- What `buildLedger` receives. -/
def listing (tree : ExchangeTree) : List LedgerHop := tree.tokens.map fun token ↦ token.2.hop

/-- The position of the token that each token was exchanged from. -/
def origins (tree : ExchangeTree) : List (Option Nat) :=
  none :: (tree.branches.origins 0 1).map some

/-- The actor that each exchange appended. -/
def appended (tree : ExchangeTree) : List (Option String) :=
  tree.tokens.map fun token ↦ token.1.head?

end ExchangeTree

/-- A chain of actors is shown when it is within the guard. -/
theorem collectSubs_of_actChain {write : String → String} {guard : Nat} {act : Option Json}
    {path : List String} (h : ActChain act path) (hguard : path.length ≤ guard) :
    collectSubs write guard act = some (path.map write) := by
  induction h generalizing guard with
  | @ends act hobject =>
    cases guard with
    | zero => rfl
    | succ guard =>
      unfold collectSubs
      split
      · next members hzero => cases hzero
      · next members _ => exact absurd rfl (hobject members)
      · rfl
  | actor hsub hnull hid hact ih =>
    cases guard with
    | zero => cases hguard
    | succ guard =>
      rw [collectSubs, hsub, Option.filter_some, if_pos hnull]
      simp only [hid, ih (Nat.le_of_succ_le_succ hguard), List.map_cons]

/-- A chain as the rows show it, the oldest actor first. -/
def shownChain (path : List String) : List String := (path.map shortSpiffe).reverse

/-- The newest actor is shown last. -/
@[simp] theorem shownChain_cons {actor : String} {path : List String} :
    shownChain (actor :: path) = shownChain path ++ [shortSpiffe actor] := by
  rw [shownChain, List.map_cons, List.reverse_cons, shownChain]

/-- A row shows as many actors as the chain has. -/
@[simp] theorem length_shownChain {path : List String} :
    (shownChain path).length = path.length := by
  rw [shownChain, List.length_reverse, List.length_map]

namespace TokenView

/-- What `flattenActChain` makes of a chain. -/
theorem flattenActChain_of_actChain {act : Option Json} {path : List String}
    (h : ActChain act path) (hdepth : path.length ≤ 16) :
    flattenActChain act = some (shownChain path) := by
  rw [flattenActChain, actChainIds, collectSubs_of_actChain h hdepth, List.map_id, shownChain,
    Option.map_some, Option.map_some, List.map_reverse]

section Parents

variable {summaries : List HopSummary} {paths : List (List String)} {i o : Nat}

private theorem getElem?_of_acts (hacts : summaries.map (·.act) = paths.map shownChain)
    {path : List String} (hpath : paths[i]? = some path) :
    ∃ summary, summaries[i]? = some summary ∧ summary.act = shownChain path := by
  have hget := congrArg (·[i]?) hacts
  simp only [List.getElem?_map, hpath, Option.map_some, Option.map_eq_some_iff] at hget
  exact hget

/-- A row without actors has no parent. -/
theorem findParentIndex_root (hacts : summaries.map (·.act) = paths.map shownChain)
    (hpath : paths[i]? = some []) : findParentIndex summaries i = none := by
  obtain ⟨cur, hcur, hact⟩ := getElem?_of_acts hacts hpath
  rw [findParentIndex, hcur]
  simp only [hact, length_shownChain, List.length_nil, if_true]

/-- The search finds the token that another one hangs from. -/
theorem findParentIndex_eq_some (hacts : summaries.map (·.act) = paths.map shownChain)
    (h : HangsFrom paths i o) : findParentIndex summaries i = some o := by
  obtain ⟨actor, path, hpath, hoi, horigin, hlonger⟩ := h
  obtain ⟨cur, hcur, hact⟩ := getElem?_of_acts hacts hpath
  obtain ⟨parent, hparent, hparentAct⟩ := getElem?_of_acts hacts horigin
  have hwant : cur.act.dropLast = shownChain path := by
    rw [hact, shownChain_cons, List.dropLast_concat]
  refine findParentIndex_eq_some_iff.mpr ⟨hoi, cur, parent, hcur, by simp [hact], hparent,
    hparentAct.trans hwant.symm, fun m hom hmi cand hcand hsame ↦ ?_⟩
  -- in between there are only longer chains
  have hm : m < paths.length := Nat.lt_trans hmi (List.getElem?_eq_some_iff.mp hpath).1
  have hother := List.getElem?_eq_getElem hm
  obtain ⟨cand', hcand', hcandAct⟩ := getElem?_of_acts hacts hother
  rw [hcand, Option.some.injEq] at hcand'
  have hlength := hlonger m hom hmi _ hother
  have hsameLength := congrArg List.length hsame
  rw [hcand', hcandAct, hwant, length_shownChain, length_shownChain] at hsameLength
  omega

end Parents

end TokenView
section Tree

variable {parse : String → Option Json} {tree : ExchangeTree} {summaries : List HopSummary}

/-- The summaries of the listing have the chains of the tokens. -/
theorem acts_of_listing
    (h : List.Forall₂ (fun h summary ↦ summarizeHop parse h = some summary) tree.listing
      summaries) :
    summaries.map (·.act) = (tree.tokens.map Sigma.fst).map shownChain := by
  rw [ExchangeTree.listing, List.forall₂_map_left_iff] at h
  symm
  rw [← List.forall₂_eq_eq_eq, List.map_map, List.forall₂_map_left_iff, List.forall₂_map_right_iff]
  refine h.imp fun token summary hsummary ↦ ?_
  have hact := (summarizeHop_eq_some hsummary).1
  rw [flattenActChain_of_actChain token.2.chain token.2.depth] at hact
  exact Option.some.inj hact

/-- The search finds for an exchanged token the one it was exchanged from. -/
theorem findParentIndex_branch
    (hacts : summaries.map (·.act) = (tree.tokens.map Sigma.fst).map shownChain) {i o : Nat}
    (horigin : (tree.branches.origins 0 1)[i]? = some o) :
    findParentIndex summaries (i + 1) = some o := by
  have hhangs := @Branches.hangsFrom_of_origins _ _ _ tree.branches (tree.tokens.map Sigma.fst)
    [[]] [] 0 i o (by rw [List.append_nil]; rfl) rfl (fun m hm other hother ↦ ?_) horigin
  · rw [List.length_singleton, Nat.add_comm] at hhangs
    exact findParentIndex_eq_some hacts hhangs
  · rw [List.getElem?_eq_none_iff.mpr (Nat.succ_le_of_lt hm)] at hother
    cases hother

/-- The search finds for every token the one it was exchanged from, and none for the login token. -/
theorem findParentIndex_tree
    (hacts : summaries.map (·.act) = (tree.tokens.map Sigma.fst).map shownChain) :
    (List.range' 0 tree.tokens.length).map (findParentIndex summaries) = tree.origins := by
  have hlength : tree.tokens.length = (tree.branches.origins 0 1).length + 1 := by
    rw [Branches.length_origins]
    exact List.length_cons
  apply List.ext_getElem?
  intro i
  rw [List.getElem?_map, ExchangeTree.origins]
  cases i with
  | zero =>
    rw [List.getElem?_range' (by omega), Option.map_some, List.getElem?_cons_zero]
    exact congrArg some (findParentIndex_root hacts rfl)
  | succ i =>
    rw [List.getElem?_cons_succ, List.getElem?_map]
    by_cases hi : i < (tree.branches.origins 0 1).length
    · have horigin := List.getElem?_eq_getElem hi
      rw [horigin, List.getElem?_range' (by omega), Option.map_some, Option.map_some,
        Nat.zero_add, Nat.one_mul, findParentIndex_branch hacts horigin]
    · rw [List.getElem?_eq_none_iff.mpr (Nat.le_of_not_lt hi),
        List.getElem?_eq_none_iff.mpr (by rw [List.length_range']; omega)]
      rfl

/-- An exchanged token is compared with the one it was exchanged from, and the login token with
none: the newest actor is the one that was appended. -/
theorem actAppended_tree
    (hacts : summaries.map (·.act) = (tree.tokens.map Sigma.fst).map shownChain) {k : Nat}
    {cur : HopSummary} (hcur : summaries[k]? = some cur) :
    (diffAgainst ((findParentIndex summaries k).bind (summaries[·]?)) cur).actAppended =
      cur.act.getLast? := by
  cases k with
  | zero =>
    obtain ⟨root, hroot, hact⟩ := getElem?_of_acts hacts (i := 0) rfl
    rw [hcur, Option.some.injEq] at hroot
    rw [findParentIndex_root hacts rfl, hroot, hact]
    rfl
  | succ i =>
    have hi : i < (tree.branches.origins 0 1).length := by
      have hlength := congrArg List.length hacts
      have hbound := (List.getElem?_eq_some_iff.mp hcur).1
      simp only [List.length_map, ExchangeTree.tokens, List.length_cons] at hlength
      rw [Branches.length_origins]
      omega
    have hparent := findParentIndex_branch hacts (List.getElem?_eq_getElem hi)
    obtain ⟨-, -, parent, -, -, hfound, -, -⟩ := findParentIndex_eq_some_iff.mp hparent
    rw [hparent, Option.bind_some, hfound]
    rfl

/-- For every tree of exchanges the ledger has its rows, unless `String` throws for another claim
that they show; every row is given the token it was exchanged from, the actor that was appended and
what became of the scopes, and the rows on the spine are numbered. -/
theorem ledger_of_tree (parse : String → Option Json) (tree : ExchangeTree) :
    ((buildLedger parse tree.listing).isSome = true ↔ ∀ h ∈ tree.listing, HasTexts parse h) ∧
    ∀ rows, buildLedger parse tree.listing = some rows →
      List.Forall₂ (fun h row ↦ summarizeHop parse h = some row.summary) tree.listing rows ∧
      rows.map (·.parentIndex) = tree.origins ∧
      rows.map (·.diff.actAppended) = tree.appended.map (Option.map shortSpiffe) ∧
      (∀ row ∈ rows, ∀ o, row.parentIndex = some o →
        ∃ parent, rows[o]? = some parent ∧
          ScopesParted parent.summary.scopes row.summary.scopes row.diff.scopesKept
            row.diff.scopesDropped) ∧
      (rows.filter fun row ↦ !row.leaf).map (·.number) =
        (List.range (rows.filter fun row ↦ !row.leaf).length).map some := by
  constructor
  · rw [buildLedger_isSome_iff]
    refine forall₂_congr fun h hmem ↦ ?_
    obtain ⟨token, -, rfl⟩ := List.mem_map.mp hmem
    rw [summarizeHop_isSome_iff, actChainIds,
      collectSubs_of_actChain token.2.chain token.2.depth]
    exact and_iff_left rfl
  · intro rows hrows
    obtain ⟨summaries, hsummaries, rfl⟩ := buildLedger_eq_some_iff.mp hrows
    have hacts := acts_of_listing hsummaries
    have hlength : tree.listing.length = summaries.length := hsummaries.length_eq
    have hentries : (tree.listing.zip summaries).map Prod.snd = summaries :=
      List.map_snd_zip (Nat.le_of_eq hlength.symm)
    have hshown : (ledgerRows summaries (tree.listing.zip summaries) 0 0).map (·.summary) =
        summaries := by
      rw [summary_ledgerRows, hentries]
    refine ⟨?_, ?_, ?_, ?_, ?_⟩
    · rw [← hshown, List.forall₂_map_right_iff] at hsummaries
      exact hsummaries
    · rw [parentIndex_ledgerRows, ← findParentIndex_tree hacts, List.length_zip, ← hlength,
        Nat.min_self, ExchangeTree.listing, List.length_map]
    · have hrow : ∀ row ∈ ledgerRows summaries (tree.listing.zip summaries) 0 0,
          row.diff.actAppended = row.summary.act.getLast? := by
        intro row hmem
        obtain ⟨k, hk⟩ := List.getElem?_of_mem hmem
        obtain ⟨hop, n, hentry, heq⟩ := getElem?_ledgerRows hk
        rw [Nat.zero_add] at heq
        calc
          _ = (diffAgainst ((findParentIndex summaries k).bind (summaries[·]?))
                row.summary).actAppended := congrArg (·.diff.actAppended) heq
          _ = row.summary.act.getLast? :=
            actAppended_tree hacts (List.getElem?_zip_eq_some.mp hentry).2
      calc
        _ = ((ledgerRows summaries (tree.listing.zip summaries) 0 0).map (·.summary)).map
              (fun summary ↦ summary.act.getLast?) := by
            rw [List.map_map]
            exact List.map_congr_left hrow
        _ = (summaries.map (·.act)).map List.getLast? := by
            rw [hshown, List.map_map]
            rfl
        _ = tree.appended.map (Option.map shortSpiffe) := by
            rw [hacts, ExchangeTree.appended, List.map_map, List.map_map, List.map_map]
            refine List.map_congr_left fun token _ ↦ ?_
            simp [shownChain]
    · intro row hmem o ho
      obtain ⟨k, hk⟩ := List.getElem?_of_mem hmem
      obtain ⟨-, -, parent, hget, -, -⟩ := (parentIndex_eq_some_iff hrows hk).mp ho
      refine ⟨parent, hget, ?_⟩
      rw [diff_of_buildLedger hrows hk ho hget]
      exact scopesParted_diffAgainst
    · rw [number_ledgerRows rfl, List.range_eq_range']

end Tree

section Sample

/-- An `act` claim that nests these actors, the newest first. -/
private def nestedActors (path : List String) : Option Json :=
  path.foldr
    (fun id older ↦ some (.obj (Json.members [("sub", some (.str id)), ("act", older)]))) none

private theorem actChain_nestedActors (path : List String) : ActChain (nestedActors path) path := by
  induction path with
  | nil =>
    apply ActChain.ends
    intro members h
    cases h
  | cons id older ih =>
    have hsub : (Json.members [("sub", some (.str id)), ("act", nestedActors older)]).lookup
        "sub" = some (.str id) := by
      cases nestedActors older <;> rfl
    have hact : (Json.members [("sub", some (.str id)), ("act", nestedActors older)]).lookup
        "act" = nestedActors older := by
      cases nestedActors older <;> rfl
    exact .actor hsub rfl rfl (hact.symm ▸ ih)

/-- A token with a scope and a chain. -/
private def sampleHop (scope : String) (path : List String) : LedgerHop :=
  ⟨"", some fun name ↦
    if name = "scope" then some (.str scope)
    else if name = "act" then nestedActors path
    else none, none⟩

private def sampleToken (scope : String) {path : List String} (depth : path.length ≤ 16) :
    Exchanged path :=
  ⟨sampleHop scope path, actChain_nestedActors path, depth⟩

/-- The specialist's token is exchanged once for the gateway and once, with the same chain, for
itself. -/
private def sampleTree : ExchangeTree where
  root := sampleToken "read write llm" (Nat.zero_le 16)
  branches :=
    .next "copilot" (sampleToken "read write llm" (Nat.le_add_right 1 15))
      (.next "specialist" (sampleToken "read" (Nat.le_add_right 2 14))
        (.next "gateway" (sampleToken "read" (Nat.le_add_right 3 13)) .none .none)
        (.next "specialist" (sampleToken "write" (Nat.le_add_right 2 14)) .none .none))
      .none

/-- A second branch with the chain of the first descends from the delegation token, not from the
end of the first. -/
theorem ledger_of_tree_sample :
    ∃ rows, buildLedger (fun _ ↦ none) sampleTree.listing = some rows ∧
      sampleTree.tokens.map Sigma.fst =
        [[], ["copilot"], ["specialist", "copilot"], ["gateway", "specialist", "copilot"],
          ["specialist", "copilot"]] ∧
      rows.map (·.parentIndex) = [none, some 0, some 1, some 2, some 1] ∧
      ∀ row ∈ rows, ∀ o, row.parentIndex = some o →
        ∃ parent, rows[o]? = some parent ∧
          ScopesParted parent.summary.scopes row.summary.scopes row.diff.scopesKept
            row.diff.scopesDropped := by
  obtain ⟨rows, hrows⟩ : ∃ rows, buildLedger (fun _ ↦ none) sampleTree.listing = some rows :=
    ⟨_, rfl⟩
  obtain ⟨-, hparents, -, hscopes, -⟩ := (ledger_of_tree (fun _ ↦ none) sampleTree).2 rows hrows
  exact ⟨rows, hrows, rfl, hparents, hscopes⟩

end Sample

end AgentsAuth.Display
