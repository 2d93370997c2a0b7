import AgentsAuth.Lib.Words

/-!
# Regular expressions

Patterns of ECMAScript without the flags `u` and `y`, matched by backtracking: `ends` lists where
the matches of a pattern end, the preferred one first, and the first match of a text is the first
entry at the first place that has one. `Reads` says what a pattern matches without saying how, and
`exists_mem_ends_iff` that the two agree.
-/

namespace AgentsAuth.Lib

/-- A pattern; its repetitions are greedy and repeat one character class. -/
inductive Regex where
  | empty
  | set (p : Char → Bool)
  | boundary
  | seq (r s : Regex)
  | alt (r s : Regex)
  | opt (r : Regex)
  | many (p : Char → Bool) (lo : Nat) (hi : Option Nat)
  | group (r : Regex)

namespace Regex

/-- Where a match stands: the characters before it, nearest first, the characters after it, and the
text of the last group that it has closed. -/
structure Cursor where
  before : List Char
  after : List Char
  group : Option (List Char)

/-- A character of the class `\w`. -/
def isWordChar (c : Char) : Bool := c.isAlphanum || c = '_'

/-- Whether one of both sides is a word and the other is none. -/
def Boundary (before after : List Char) : Prop :=
  before.head?.any isWordChar ≠ after.head?.any isWordChar

instance (before after : List Char) : Decidable (Boundary before after) :=
  inferInstanceAs (Decidable (_ ≠ _))

/-- A cursor after `k` more characters. -/
def Cursor.advance (c : Cursor) (k : Nat) : Cursor :=
  ⟨(c.after.take k).reverse ++ c.before, c.after.drop k, c.group⟩

/-- How many characters a repetition may take: those of its class in a row, up to its bound. -/
def longest (p : Char → Bool) (hi : Option Nat) (after : List Char) : Nat :=
  match hi with
  | none => (after.takeWhile p).length
  | some n => min n (after.takeWhile p).length

/-- The cursors at which a match can end, in the order in which backtracking tries them. -/
def ends : Regex → Cursor → List Cursor
  | .empty, c => [c]
  | .set p, c => if c.after.head?.any p then [c.advance 1] else []
  | .boundary, c => if Boundary c.before c.after then [c] else []
  | .seq r s, c => (ends r c).flatMap (ends s)
  | .alt r s, c => ends r c ++ ends s c
  | .opt r, c => ((ends r c).filter fun e ↦ e.after.length < c.after.length) ++ [c]
  | .many p lo hi, c =>
    ((List.range (longest p hi c.after + 1)).reverse.filter (lo ≤ ·)).map c.advance
  | .group r, c =>
    (ends r c).map fun e ↦
      { e with group := some (c.after.take (c.after.length - e.after.length)) }

/-- The first match at or after a place. -/
def firstFrom (r : Regex) (before : List Char) : List Char → Option Cursor
  | [] => (ends r ⟨before, [], none⟩).head?
  | c :: cs => (ends r ⟨before, c :: cs, none⟩).head?.or (firstFrom r (c :: before) cs)

/-- `r.exec(s)`. -/
def exec (r : Regex) (s : String) : Option Cursor := firstFrom r [] s.toList

/-- `r.test(s)`. -/
def test (r : Regex) (s : String) : Bool := (exec r s).isSome

/-- The matches of the flag `g` at or after a place, once `skip` more characters have passed. -/
def allFrom (r : Regex) : Nat → List Char → List Char → List (List Char)
  | 0, before, [] => if ends r ⟨before, [], none⟩ = [] then [] else [[]]
  | _ + 1, _, [] => []
  | skip + 1, before, c :: cs => allFrom r skip (c :: before) cs
  | 0, before, c :: cs =>
    match (ends r ⟨before, c :: cs, none⟩).head? with
    | none => allFrom r 0 (c :: before) cs
    | some e =>
      let text := (c :: cs).take ((c :: cs).length - e.after.length)
      text :: allFrom r (text.length - 1) (c :: before) cs

/-- `s.match(r) ?? []` for a pattern with the flag `g`. -/
def matchAll (r : Regex) (s : String) : List String :=
  (allFrom r 0 [] s.toList).map String.ofList

/-- A part of a text: a character outside of the matches, or a match. -/
inductive Piece where
  | char (c : Char)
  | hit (w : List Char)

/-- The match of a piece. -/
def Piece.hit? : Piece → Option (List Char)
  | .char _ => none
  | .hit w => some w

/-- The matches of the flag `g` with what stands between them, as `allFrom` finds them. -/
def piecesFrom (r : Regex) : Nat → List Char → List Char → List Piece
  | 0, before, [] => if ends r ⟨before, [], none⟩ = [] then [] else [.hit []]
  | _ + 1, _, [] => []
  | skip + 1, before, c :: cs => piecesFrom r skip (c :: before) cs
  | 0, before, c :: cs =>
    match (ends r ⟨before, c :: cs, none⟩).head? with
    | none => .char c :: piecesFrom r 0 (c :: before) cs
    | some e =>
      let text := (c :: cs).take ((c :: cs).length - e.after.length)
      .hit text :: ((if text = [] then [.char c] else []) ++
        piecesFrom r (text.length - 1) (c :: before) cs)

/-- What `s.replace(r, f)` puts together for a pattern with the flag `g`. -/
def pieces (r : Regex) (s : String) : List Piece := piecesFrom r 0 [] s.toList

/-- A text as a pattern. -/
def lit (s : String) : Regex := (s.toList.map fun c ↦ set (· = c)).foldr seq empty

/-- A text in lower case as a pattern with the flag `i`, which ignores the case of ASCII letters. -/
def caseless (s : String) : Regex := (s.toList.map fun c ↦ set (·.toLower = c)).foldr seq empty

/-- One of several patterns, the earlier ones preferred. -/
def oneOf : List Regex → Regex
  | [] => set fun _ ↦ false
  | r :: rs => alt r (oneOf rs)

/-- What a pattern matches between two texts, the one before it read backwards. -/
def Reads : Regex → List Char → List Char → List Char → Prop
  | .empty, _, w, _ => w = []
  | .set p, _, w, _ => ∃ c, w = [c] ∧ p c = true
  | .boundary, before, w, after => w = [] ∧ Boundary before after
  | .seq r s, before, w, after =>
    ∃ u v, w = u ++ v ∧ Reads r before u (v ++ after) ∧ Reads s (u.reverse ++ before) v after
  | .alt r s, before, w, after => Reads r before w after ∨ Reads s before w after
  | .opt r, before, w, after => Reads r before w after ∨ w = []
  | .many p lo hi, _, w, _ =>
    (∀ c ∈ w, p c = true) ∧ lo ≤ w.length ∧ ∀ n ∈ hi, w.length ≤ n
  | .group r, before, w, after => Reads r before w after

/-- The groups of a pattern. -/
def groups : Regex → List Regex
  | .empty => []
  | .set _ => []
  | .boundary => []
  | .seq r s => groups r ++ groups s
  | .alt r s => groups r ++ groups s
  | .opt r => groups r
  | .many _ _ _ => []
  | .group r => r :: groups r

section Ends

variable {r : Regex} {c : Cursor} {before after : List Char}

attribute [local simp] ends Reads

private theorem exists_advance_iff {k : Nat} :
    (∃ g, (⟨before, after, g⟩ : Cursor) = c.advance k) ↔
      c.after = c.after.take k ++ after ∧ before = (c.after.take k).reverse ++ c.before := by
  constructor
  · rintro ⟨g, h⟩
    cases h
    exact ⟨(List.take_append_drop k c.after).symm, rfl⟩
  · rintro ⟨hafter, rfl⟩
    refine ⟨c.group, ?_⟩
    have hdrop : c.after.drop k = after := by
      have happend := List.take_append_drop k c.after
      exact List.append_cancel_left (happend.trans hafter)
    rw [Cursor.advance, hdrop]

private theorem take_of_append {w : List Char} (h : c.after = w ++ after) :
    c.after.take w.length = w := by
  rw [h, List.take_left]

private theorem longest_le_length (p : Char → Bool) (hi : Option Nat) (cs : List Char) :
    longest p hi cs ≤ cs.length := by
  have hrun := (List.takeWhile_sublist p (l := cs)).length_le
  cases hi with
  | none => exact hrun
  | some n => exact (Nat.min_le_right _ _).trans hrun

private theorem le_longest_iff {p : Char → Bool} {hi : Option Nat} {w : List Char}
    (h : c.after = w ++ after) :
    w.length ≤ longest p hi c.after ↔ (∀ x ∈ w, p x = true) ∧ ∀ n ∈ hi, w.length ≤ n := by
  have hrun : w.length ≤ (c.after.takeWhile p).length ↔ ∀ x ∈ w, p x = true := by
    rw [h]
    constructor
    · intro hle x hx
      have htaken : w <+: (w ++ after).takeWhile p :=
        List.prefix_of_prefix_length_le (List.prefix_append w after)
          (List.takeWhile_prefix p) hle
      exact List.mem_takeWhile_imp (htaken.subset hx)
    · intro hall
      rw [List.takeWhile_append_of_pos hall, List.length_append]
      omega
  cases hi with
  | none => simp [longest, hrun]
  | some n => simp only [longest, Nat.le_min, hrun, Option.mem_some_iff, forall_eq', and_comm]

private theorem exists_mem_ends_empty_iff :
    (∃ g, (⟨before, after, g⟩ : Cursor) ∈ ends .empty c) ↔
      ∃ w, c.after = w ++ after ∧ before = w.reverse ++ c.before ∧
        Reads .empty c.before w after := by
  simp only [ends, List.mem_singleton, Reads]
  constructor
  · rintro ⟨g, rfl⟩
    exact ⟨[], rfl, rfl, rfl⟩
  · rintro ⟨w, hafter, rfl, rfl⟩
    exact ⟨c.group, by rw [List.nil_append] at hafter; rw [← hafter]; rfl⟩

private theorem exists_mem_ends_set_iff {p : Char → Bool} :
    (∃ g, (⟨before, after, g⟩ : Cursor) ∈ ends (.set p) c) ↔
      ∃ w, c.after = w ++ after ∧ before = w.reverse ++ c.before ∧
        Reads (.set p) c.before w after := by
  simp only [ends, Reads]
  constructor
  · rintro ⟨g, h⟩
    split at h
    · next hp =>
      cases hc : c.after with
      | nil => simp [hc] at hp
      | cons x xs =>
        rw [hc, List.head?_cons, Option.any_some] at hp
        rw [List.mem_singleton, Cursor.advance, hc] at h
        cases h
        exact ⟨[x], rfl, rfl, x, rfl, hp⟩
    · cases h
  · rintro ⟨w, hafter, rfl, x, rfl, hp⟩
    refine ⟨c.group, ?_⟩
    rw [if_pos (by simpa [hafter] using hp), List.mem_singleton, Cursor.advance, hafter]
    rfl

private theorem exists_mem_ends_boundary_iff :
    (∃ g, (⟨before, after, g⟩ : Cursor) ∈ ends .boundary c) ↔
      ∃ w, c.after = w ++ after ∧ before = w.reverse ++ c.before ∧
        Reads .boundary c.before w after := by
  simp only [ends, Reads]
  constructor
  · rintro ⟨g, h⟩
    split at h
    · next hb =>
      rw [List.mem_singleton] at h
      subst h
      exact ⟨[], rfl, rfl, rfl, hb⟩
    · cases h
  · rintro ⟨w, hafter, rfl, rfl, hb⟩
    rw [List.nil_append] at hafter
    rw [← hafter] at hb
    refine ⟨c.group, ?_⟩
    rw [if_pos hb, List.mem_singleton, ← hafter]
    rfl

private theorem exists_mem_ends_many_iff {p : Char → Bool} {lo : Nat} {hi : Option Nat} :
    (∃ g, (⟨before, after, g⟩ : Cursor) ∈ ends (.many p lo hi) c) ↔
      ∃ w, c.after = w ++ after ∧ before = w.reverse ++ c.before ∧
        Reads (.many p lo hi) c.before w after := by
  simp only [ends, List.mem_map, List.mem_filter, List.mem_reverse, List.mem_range,
    decide_eq_true_eq, Reads]
  have hbound := longest_le_length p hi c.after
  constructor
  · rintro ⟨g, k, ⟨hk, hlo⟩, h⟩
    have hlength : k ≤ c.after.length := by omega
    obtain ⟨hafter, hbefore⟩ := exists_advance_iff.mp ⟨g, h.symm⟩
    have hw : (c.after.take k).length = k := List.length_take_of_le hlength
    refine ⟨c.after.take k, hafter, hbefore, ?_⟩
    have hmany := (@le_longest_iff c after p hi _ hafter).mp (by omega)
    rw [hw]
    rw [hw] at hmany
    exact ⟨hmany.1, hlo, hmany.2⟩
  · rintro ⟨w, hafter, hbefore, hall, hlo, hhi⟩
    have hle := (le_longest_iff hafter).mpr ⟨hall, hhi⟩
    have htake := take_of_append hafter
    have hadvance : ∃ g, (⟨before, after, g⟩ : Cursor) = c.advance w.length := by
      rw [exists_advance_iff, htake]
      exact ⟨hafter, hbefore⟩
    obtain ⟨g, hg⟩ := hadvance
    exact ⟨g, w.length, ⟨by omega, hlo⟩, hg.symm⟩

/-- Backtracking ends where the pattern reads up to. -/
theorem exists_mem_ends_iff :
    (∃ g, (⟨before, after, g⟩ : Cursor) ∈ ends r c) ↔
      ∃ w, c.after = w ++ after ∧ before = w.reverse ++ c.before ∧ Reads r c.before w after := by
  induction r generalizing c before after with
  | empty => exact exists_mem_ends_empty_iff
  | set p => exact exists_mem_ends_set_iff
  | boundary => exact exists_mem_ends_boundary_iff
  | seq r s ihr ihs =>
    simp only [ends, List.mem_flatMap, Reads]
    constructor
    · rintro ⟨g, m, hm, h⟩
      obtain ⟨u, hu, hub, hru⟩ := ihr.mp ⟨m.group, hm⟩
      obtain ⟨v, hv, rfl, hsv⟩ := ihs.mp ⟨g, h⟩
      refine ⟨u ++ v, ?_, ?_, u, v, rfl, ?_, ?_⟩
      · rw [hu, hv, List.append_assoc]
      · rw [hub, List.reverse_append, List.append_assoc]
      · rw [← hv]
        exact hru
      · rw [← hub]
        exact hsv
    · rintro ⟨w, hafter, rfl, u, v, rfl, hru, hsv⟩
      rw [List.append_assoc] at hafter
      obtain ⟨g, hm⟩ := ihr.mpr ⟨u, hafter, rfl, hru⟩
      obtain ⟨g', h⟩ := (@ihs ⟨u.reverse ++ c.before, v ++ after, g⟩ _ _).mpr ⟨v, rfl, rfl, hsv⟩
      refine ⟨g', ⟨u.reverse ++ c.before, v ++ after, g⟩, hm, ?_⟩
      rw [List.reverse_append, List.append_assoc]
      exact h
  | alt r s ihr ihs =>
    simp [exists_or, ihr, ihs, and_or_left]
  | opt r ih =>
    simp only [ends, List.mem_append, List.mem_filter, List.mem_singleton, Reads]
    constructor
    · rintro ⟨g, ⟨h, -⟩ | rfl⟩
      · obtain ⟨w, hafter, hbefore, hw⟩ := ih.mp ⟨g, h⟩
        exact ⟨w, hafter, hbefore, Or.inl hw⟩
      · exact ⟨[], rfl, rfl, Or.inr rfl⟩
    · rintro ⟨w, hafter, rfl, hw⟩
      by_cases hnil : w = []
      · subst hnil
        exact ⟨c.group, Or.inr (by rw [List.nil_append] at hafter; rw [← hafter]; rfl)⟩
      · obtain ⟨g, h⟩ := ih.mpr ⟨w, hafter, rfl, hw.resolve_right hnil⟩
        refine ⟨g, Or.inl ⟨h, ?_⟩⟩
        have hpos := List.length_pos_iff.mpr hnil
        rw [hafter, List.length_append]
        exact decide_eq_true (by omega)
  | many p lo hi => exact exists_mem_ends_many_iff
  | group r ih =>
    simp only [ends, List.mem_map, Reads]
    rw [← ih]
    constructor
    · rintro ⟨g, e, he, h⟩
      cases h
      exact ⟨e.group, he⟩
    · rintro ⟨g, h⟩
      exact ⟨_, _, h, rfl⟩

/-- What a match has read. -/
theorem reads_of_mem_ends {e : Cursor} (h : e ∈ ends r c) :
    ∃ w, c.after = w ++ e.after ∧ e.before = w.reverse ++ c.before ∧ Reads r c.before w e.after :=
  exists_mem_ends_iff.mp ⟨e.group, h⟩

/-- There is a match at a place unless the pattern reads nothing from there. -/
theorem ends_eq_nil_iff :
    ends r c = [] ↔ ∀ w after, c.after = w ++ after → ¬Reads r c.before w after := by
  rw [List.eq_nil_iff_forall_not_mem]
  constructor
  · intro h w after hafter hw
    obtain ⟨g, hmem⟩ := exists_mem_ends_iff.mpr ⟨w, hafter, rfl, hw⟩
    exact h _ hmem
  · intro h e he
    obtain ⟨w, hafter, -, hw⟩ := reads_of_mem_ends he
    exact h w e.after hafter hw

/-- The matches of a sequence. -/
theorem mem_ends_seq_iff {s : Regex} {e : Cursor} :
    e ∈ ends (.seq r s) c ↔ ∃ m ∈ ends r c, e ∈ ends s m :=
  List.mem_flatMap

/-- A group holds what it has read. -/
theorem group_of_mem_ends_group {e : Cursor} (h : e ∈ ends (.group r) c) :
    ∃ w, c.after = w ++ e.after ∧ e.before = w.reverse ++ c.before ∧
      Reads r c.before w e.after ∧ e.group = some w := by
  obtain ⟨e', he', rfl⟩ := List.mem_map.mp h
  obtain ⟨w, hafter, hbefore, hw⟩ := reads_of_mem_ends he'
  refine ⟨w, hafter, hbefore, hw, ?_⟩
  rw [hafter, List.length_append, Nat.add_sub_cancel, List.take_left]

/-- The text of a group is one that a group of the pattern has read. -/
theorem group_of_mem_ends {e : Cursor} (h : e ∈ ends r c) :
    e.group = c.group ∨
      ∃ x ∈ groups r, ∃ p w rest, e.group = some w ∧ Reads x p w rest := by
  induction r generalizing c e with
  | empty =>
    rw [ends, List.mem_singleton] at h
    exact Or.inl (congrArg Cursor.group h)
  | set p =>
    rw [ends] at h
    split at h
    · rw [List.mem_singleton] at h
      subst h
      exact Or.inl rfl
    · cases h
  | boundary =>
    rw [ends] at h
    split at h
    · rw [List.mem_singleton] at h
      exact Or.inl (congrArg Cursor.group h)
    · cases h
  | seq r s ihr ihs =>
    obtain ⟨m, hm, he⟩ := mem_ends_seq_iff.mp h
    rcases ihs he with hsame | ⟨x, hx, hread⟩
    · rcases ihr hm with hsame' | ⟨x, hx, p, w, rest, hw, hread⟩
      · exact Or.inl (hsame.trans hsame')
      · exact Or.inr ⟨x, List.mem_append_left _ hx, p, w, rest, hsame.trans hw, hread⟩
    · exact Or.inr ⟨x, List.mem_append_right _ hx, hread⟩
  | alt r s ihr ihs =>
    rw [ends, List.mem_append] at h
    rcases h with h | h
    · rcases ihr h with hsame | ⟨x, hx, hread⟩
      · exact Or.inl hsame
      · exact Or.inr ⟨x, List.mem_append_left _ hx, hread⟩
    · rcases ihs h with hsame | ⟨x, hx, hread⟩
      · exact Or.inl hsame
      · exact Or.inr ⟨x, List.mem_append_right _ hx, hread⟩
  | opt r ih =>
    rw [ends, List.mem_append, List.mem_filter, List.mem_singleton] at h
    rcases h with ⟨h, -⟩ | rfl
    · exact ih h
    · exact Or.inl rfl
  | many p lo hi =>
    rw [ends] at h
    obtain ⟨k, -, rfl⟩ := List.mem_map.mp h
    exact Or.inl rfl
  | group r =>
    obtain ⟨w, -, -, hread, hw⟩ := group_of_mem_ends_group h
    exact Or.inr ⟨r, List.mem_cons_self .., c.before, w, e.after, hw, hread⟩

end Ends

section First

variable {r : Regex} {before after : List Char}

/-- The first match is the preferred one at the first place that has one. -/
theorem firstFrom_eq_some {e : Cursor} (h : firstFrom r before after = some e) :
    ∃ p rest, after = p ++ rest ∧
      (ends r ⟨p.reverse ++ before, rest, none⟩).head? = some e ∧
      ∀ u v, p = u ++ v → v ≠ [] → ends r ⟨u.reverse ++ before, v ++ rest, none⟩ = [] := by
  induction after generalizing before with
  | nil => exact ⟨[], [], rfl, h, fun u v huv hv ↦ absurd (List.append_eq_nil_iff.mp huv.symm).2 hv⟩
  | cons c cs ih =>
    rw [firstFrom, Option.or_eq_some_iff] at h
    rcases h with hhere | ⟨hhere, hlater⟩
    · exact ⟨[], c :: cs, rfl, hhere,
        fun u v huv hv ↦ absurd (List.append_eq_nil_iff.mp huv.symm).2 hv⟩
    · obtain ⟨p, rest, rfl, he, hearlier⟩ := ih hlater
      refine ⟨c :: p, rest, rfl, ?_, ?_⟩
      · rw [List.reverse_cons, List.append_assoc]
        exact he
      · intro u v huv hv
        cases u with
        | nil =>
          rw [List.nil_append] at huv
          rw [← huv]
          exact List.head?_eq_none_iff.mp hhere
        | cons d u =>
          obtain ⟨rfl, hp⟩ := List.cons.inj huv
          rw [List.reverse_cons, List.append_assoc]
          exact hearlier u v hp hv

/-- The first match is a match somewhere. -/
theorem mem_ends_of_firstFrom {e : Cursor} (h : firstFrom r before after = some e) :
    ∃ p rest, after = p ++ rest ∧ e ∈ ends r ⟨p.reverse ++ before, rest, none⟩ := by
  obtain ⟨p, rest, hafter, he, -⟩ := firstFrom_eq_some h
  exact ⟨p, rest, hafter, List.mem_of_mem_head? he⟩

/-- Places without a match are passed. -/
theorem firstFrom_append {p rest : List Char}
    (h : ∀ u v, p = u ++ v → v ≠ [] → ends r ⟨u.reverse ++ before, v ++ rest, none⟩ = []) :
    firstFrom r before (p ++ rest) = firstFrom r (p.reverse ++ before) rest := by
  induction p generalizing before with
  | nil => rfl
  | cons c cs ih =>
    have hhere := h [] (c :: cs) rfl (List.cons_ne_nil c cs)
    have hnone : (ends r ⟨before, c :: (cs ++ rest), none⟩).head? = none :=
      List.head?_eq_none_iff.mpr hhere
    rw [List.cons_append, firstFrom, hnone, Option.none_or, ih]
    · rw [List.reverse_cons, List.append_assoc]
      rfl
    · rintro u v rfl hv
      have hthere := h (c :: u) v rfl hv
      rw [List.reverse_cons, List.append_assoc] at hthere
      exact hthere

/-- A match at a place is the first one from there. -/
theorem firstFrom_of_ends {es : List Cursor} {e : Cursor}
    (h : ends r ⟨before, after, none⟩ = e :: es) : firstFrom r before after = some e := by
  cases after with
  | nil => rw [firstFrom, h, List.head?_cons]
  | cons c cs => rw [firstFrom, h, List.head?_cons, Option.some_or]

/-- Some place has a match when the pattern reads some part of the text. -/
theorem firstFrom_isSome_iff :
    (firstFrom r before after).isSome = true ↔
      ∃ p w rest, after = p ++ w ++ rest ∧ Reads r (p.reverse ++ before) w rest := by
  constructor
  · intro h
    obtain ⟨e, he⟩ := Option.isSome_iff_exists.mp h
    obtain ⟨p, rest, rfl, hmem⟩ := mem_ends_of_firstFrom he
    obtain ⟨w, hrest, -, hw⟩ := reads_of_mem_ends hmem
    refine ⟨p, w, e.after, ?_, hw⟩
    rw [List.append_assoc]
    exact congrArg (p ++ ·) hrest
  · rintro ⟨p, w, rest, rfl, hw⟩
    induction p generalizing before with
    | nil =>
      obtain ⟨g, hmem⟩ := (@exists_mem_ends_iff r ⟨before, w ++ rest, none⟩ _ _).mpr
        ⟨w, rfl, rfl, hw⟩
      obtain ⟨e, es, hes⟩ := List.exists_cons_of_ne_nil (List.ne_nil_of_mem hmem)
      rw [List.nil_append, firstFrom_of_ends hes]
      rfl
    | cons c p ih =>
      rw [List.cons_append, List.cons_append, firstFrom, Option.isSome_or, Bool.or_eq_true]
      right
      apply ih
      rw [List.reverse_cons, List.append_assoc] at hw
      exact hw

/-- A pattern is found in a text that it reads a part of. -/
theorem test_iff {s : String} :
    test r s = true ↔
      ∃ p w rest, s.toList = p ++ w ++ rest ∧ Reads r p.reverse w rest := by
  rw [test, exec, firstFrom_isSome_iff]
  simp only [List.append_nil]

private theorem reads_allFrom {skip : Nat} {t : List Char} (h : t ∈ allFrom r skip before after) :
    ∃ p rest, after = p ++ t ++ rest ∧ Reads r (p.reverse ++ before) t rest := by
  induction after generalizing skip before with
  | nil =>
    cases skip with
    | succ skip => cases h
    | zero =>
      rw [allFrom] at h
      split at h
      · cases h
      · next hne =>
        rw [List.mem_singleton] at h
        subst h
        obtain ⟨e, he⟩ := List.exists_mem_of_ne_nil _ hne
        obtain ⟨w, hnil, -, hw⟩ := reads_of_mem_ends he
        obtain ⟨rfl, hrest⟩ := List.append_eq_nil_iff.mp hnil.symm
        rw [hrest] at hw
        exact ⟨[], [], rfl, hw⟩
  | cons c cs ih =>
    have hlater : ∀ {skip}, t ∈ allFrom r skip (c :: before) cs →
        ∃ p rest, c :: cs = p ++ t ++ rest ∧ Reads r (p.reverse ++ before) t rest := by
      intro skip h
      obtain ⟨p, rest, rfl, hread⟩ := ih h
      refine ⟨c :: p, rest, rfl, ?_⟩
      rw [List.reverse_cons, List.append_assoc]
      exact hread
    cases skip with
    | succ skip => exact hlater h
    | zero =>
      rw [allFrom] at h
      split at h
      · exact hlater h
      · next e he =>
        rcases List.mem_cons.mp h with rfl | h
        · obtain ⟨w, hafter, -, hw⟩ := reads_of_mem_ends (List.mem_of_mem_head? he)
          have htext : (c :: cs).take ((c :: cs).length - e.after.length) = w := by
            have hcs : c :: cs = w ++ e.after := hafter
            rw [hcs, List.length_append, Nat.add_sub_cancel, List.take_left]
          rw [htext]
          exact ⟨[], e.after, hafter, hw⟩
        · exact hlater h

/-- Each match of the flag `g` is a part of the text that the pattern reads. -/
theorem reads_of_mem_matchAll {s t : String} (h : t ∈ matchAll r s) :
    ∃ p rest, s.toList = p ++ t.toList ++ rest ∧ Reads r p.reverse t.toList rest := by
  obtain ⟨cs, hcs, rfl⟩ := List.mem_map.mp h
  obtain ⟨p, rest, happend, hread⟩ := reads_allFrom hcs
  rw [List.append_nil] at hread
  rw [String.toList_ofList]
  exact ⟨p, rest, happend, hread⟩

private theorem filterMap_piecesFrom {skip : Nat} :
    (piecesFrom r skip before after).filterMap Piece.hit? = allFrom r skip before after := by
  induction after generalizing skip before with
  | nil =>
    cases skip with
    | succ skip => rfl
    | zero =>
      rw [piecesFrom, allFrom]
      split
      · rfl
      · rfl
  | cons c cs ih =>
    cases skip with
    | succ skip => rw [piecesFrom, allFrom, ih]
    | zero =>
      rw [piecesFrom, allFrom]
      split
      · rw [← ih, List.filterMap_cons_none rfl]
      · next e he =>
        simp only [List.filterMap_cons, List.filterMap_append, ih, Piece.hit?]
        split
        · rfl
        · rfl

/-- The matches of a replacement are those of the flag `g`. -/
theorem map_filterMap_pieces (s : String) :
    ((pieces r s).filterMap Piece.hit?).map String.ofList = matchAll r s := by
  rw [pieces, filterMap_piecesFrom, matchAll]

end First

section Preference

variable {r s : Regex} {c e : Cursor}

/-- The preferred match of a sequence goes on from the first match of its head that it can go on
from. -/
theorem head?_ends_seq (h : (ends (.seq r s) c).head? = some e) :
    ∃ before m after, ends r c = before ++ m :: after ∧ (∀ x ∈ before, ends s x = []) ∧
      (ends s m).head? = some e := by
  rw [ends] at h
  generalize ends r c = ms at h
  induction ms with
  | nil => cases h
  | cons m ms ih =>
    rw [List.flatMap_cons] at h
    by_cases hm : ends s m = []
    · rw [hm, List.nil_append] at h
      obtain ⟨before, m', after, rfl, hbefore, he⟩ := ih h
      exact ⟨m :: before, m', after, rfl, List.forall_mem_cons.mpr ⟨hm, hbefore⟩, he⟩
    · rw [List.head?_append_of_ne_nil _ hm] at h
      exact ⟨[], m, ms, rfl, by simp, h⟩

/-- Longer matches are tried before shorter ones. -/
def Greedy (r : Regex) : Prop :=
  ∀ c, (ends r c).Pairwise fun e e' ↦ e.after.length < e'.after.length

/-- A pattern that matches in one way at most, so many characters. -/
def OfLength (r : Regex) (n : Nat) : Prop :=
  ∀ c, ends r c = [] ∨ ∃ e, ends r c = [e] ∧ e.after.length + n = c.after.length

/-- The preferred match of a greedy pattern is its longest. -/
theorem Greedy.length_le (hr : Greedy r) (h : (ends r c).head? = some e) {e' : Cursor}
    (he' : e' ∈ ends r c) : e.after.length ≤ e'.after.length := by
  obtain ⟨es, hes⟩ := List.head?_eq_some_iff.mp h
  have hpair := hr c
  rw [hes, List.pairwise_cons] at hpair
  rw [hes, List.mem_cons] at he'
  rcases he' with rfl | he'
  · exact Nat.le_refl _
  · exact Nat.le_of_lt (hpair.1 e' he')

/-- One character. -/
theorem ofLength_set (p : Char → Bool) : OfLength (.set p) 1 := by
  intro c
  rw [ends]
  split
  · next hp =>
    right
    refine ⟨c.advance 1, rfl, ?_⟩
    cases hc : c.after with
    | nil => simp [hc] at hp
    | cons x xs => simp [Cursor.advance, hc]
  · exact Or.inl rfl

/-- A repetition. -/
theorem greedy_many (p : Char → Bool) (lo : Nat) (hi : Option Nat) : Greedy (.many p lo hi) := by
  intro c
  have hbound := longest_le_length p hi c.after
  rw [ends, List.pairwise_map]
  apply List.Pairwise.filter
  rw [List.pairwise_reverse]
  apply List.Pairwise.imp_of_mem _ (List.pairwise_lt_range)
  intro k k' hk hk' hlt
  rw [List.mem_range] at hk'
  simp only [Cursor.advance, List.length_drop]
  omega

/-- A pattern that ends in one of a fixed length. -/
theorem Greedy.seq_ofLength {n : Nat} (hr : Greedy r) (hs : OfLength s n) : Greedy (.seq r s) := by
  intro c
  rw [ends, List.pairwise_flatMap]
  constructor
  · intro m _
    rcases hs m with hnil | ⟨e, he, -⟩
    · simp [hnil]
    · simp [he]
  · apply (hr c).imp
    intro m m' hlt e he e' he'
    rcases hs m with hnil | ⟨f, hf, hlength⟩
    · simp [hnil] at he
    · rcases hs m' with hnil | ⟨f', hf', hlength'⟩
      · simp [hnil] at he'
      · rw [hf, List.mem_singleton] at he
        rw [hf', List.mem_singleton] at he'
        subst he he'
        omega

/-- A pattern that begins with one of a fixed length. -/
theorem Greedy.ofLength_seq {n : Nat} (hs : Greedy s) (hr : OfLength r n) : Greedy (.seq r s) := by
  intro c
  rw [ends]
  rcases hr c with hnil | ⟨m, hm, -⟩
  · simp [hnil]
  · rw [hm, List.flatMap_singleton]
    exact hs m

/-- A group. -/
theorem Greedy.group (hr : Greedy r) : Greedy (.group r) := by
  intro c
  rw [ends, List.pairwise_map]
  exact hr c

end Preference

section Sequences

variable {r s : Regex} {before w after : List Char}

/-- A sequence reads in two parts. -/
theorem reads_seq_iff :
    Reads (.seq r s) before w after ↔
      ∃ u v, w = u ++ v ∧ Reads r before u (v ++ after) ∧ Reads s (u.reverse ++ before) v after :=
  Iff.rfl

/-- One of two patterns. -/
theorem reads_alt_iff :
    Reads (.alt r s) before w after ↔ Reads r before w after ∨ Reads s before w after :=
  Iff.rfl

/-- A group reads what its pattern does. -/
theorem reads_group_iff : Reads (.group r) before w after ↔ Reads r before w after := Iff.rfl

/-- A part that may be missing. -/
theorem reads_opt_iff : Reads (.opt r) before w after ↔ Reads r before w after ∨ w = [] := Iff.rfl

/-- One character or more. -/
theorem reads_many_one_iff {p : Char → Bool} :
    Reads (.many p 1 none) before w after ↔ w ≠ [] ∧ ∀ c ∈ w, p c = true := by
  rw [Reads, and_comm, ← List.length_pos_iff]
  simp [Nat.succ_le_iff]

/-- A boundary in front. -/
theorem reads_boundary_seq_iff :
    Reads (.seq .boundary r) before w after ↔
      Boundary before (w ++ after) ∧ Reads r before w after := by
  rw [reads_seq_iff]
  constructor
  · rintro ⟨u, v, rfl, ⟨rfl, hboundary⟩, hr⟩
    exact ⟨hboundary, hr⟩
  · rintro ⟨hboundary, hr⟩
    exact ⟨[], w, rfl, ⟨rfl, hboundary⟩, hr⟩

/-- A boundary at the end. -/
theorem reads_seq_boundary_iff :
    Reads (.seq r .boundary) before w after ↔
      Reads r before w after ∧ Boundary (w.reverse ++ before) after := by
  rw [reads_seq_iff]
  constructor
  · rintro ⟨u, v, rfl, hr, rfl, hboundary⟩
    rw [List.append_nil]
    exact ⟨hr, hboundary⟩
  · rintro ⟨hr, hboundary⟩
    exact ⟨w, [], (List.append_nil w).symm, hr, rfl, hboundary⟩

end Sequences

section Texts

variable {s : String} {before w after : List Char}

private theorem reads_sets {f : Char → Char} {cs : List Char} :
    Reads ((cs.map fun c ↦ set (f · = c)).foldr seq empty) before w after ↔ w.map f = cs := by
  induction cs generalizing before w with
  | nil =>
    rw [List.map_nil, List.foldr_nil, Reads, List.map_eq_nil_iff]
  | cons c cs ih =>
    rw [List.map_cons, List.foldr_cons, Reads, List.map_eq_cons_iff]
    simp only [ih, Reads, decide_eq_true_eq]
    constructor
    · rintro ⟨u, v, rfl, ⟨x, rfl, hx⟩, hv⟩
      exact ⟨x, v, rfl, hx, hv⟩
    · rintro ⟨x, v, rfl, hx, hv⟩
      exact ⟨[x], v, rfl, ⟨x, rfl, hx⟩, hv⟩

/-- A text reads itself. -/
theorem reads_lit_iff : Reads (lit s) before w after ↔ w = s.toList := by
  have hsets := @reads_sets before w after id s.toList
  rw [List.map_id] at hsets
  exact hsets

/-- A text reads itself in any case. -/
theorem reads_caseless_iff :
    Reads (caseless s) before w after ↔ w.map Char.toLower = s.toList :=
  reads_sets

/-- One of several patterns reads what one of them does. -/
theorem reads_oneOf_iff {rs : List Regex} :
    Reads (oneOf rs) before w after ↔ ∃ r ∈ rs, Reads r before w after := by
  induction rs with
  | nil => simp [oneOf, Reads]
  | cons r rs ih => rw [oneOf, Reads, ih, List.exists_mem_cons_iff]

end Texts

end Regex
end AgentsAuth.Lib
