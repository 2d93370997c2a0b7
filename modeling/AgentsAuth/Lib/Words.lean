import Mathlib.Data.List.Basic
import Mathlib.Data.List.Infix
import Mathlib.Data.List.TakeWhile
import Mathlib.Tactic.Common

/-!
# Words of a string

Splitting a string at separator characters and dropping the empty pieces, as
`split(/\s+/).filter(Boolean)` and `split(' ').filter(Boolean)` do in ECMAScript.
Joining words by a separator and splitting again gives the words back.
-/

namespace AgentsAuth.Lib

/-- The characters of the ECMAScript class `\s`. -/
def isSpace (c : Char) : Bool :=
  [0x9, 0xA, 0xB, 0xC, 0xD, 0x20, 0xA0, 0x1680, 0x2028, 0x2029, 0x202F, 0x205F, 0x3000,
    0xFEFF].contains c.toNat || (0x2000 ≤ c.toNat && c.toNat ≤ 0x200A)

/-- The pieces of `s` between characters that satisfy `sep`, empty ones included. -/
def piecesBy (sep : Char → Bool) (s : String) : List String :=
  (s.toList.splitOnP sep).map String.ofList

/-- The non-empty pieces of `s` between characters that satisfy `sep`. -/
def wordsBy (sep : Char → Bool) (s : String) : List String :=
  ((s.toList.splitOnP sep).filter fun w ↦ !w.isEmpty).map String.ofList

/-- `s.split(/\s+/).filter(Boolean)`. -/
def words (s : String) : List String := wordsBy isSpace s

/-- `s.trim()`. -/
def trim (s : String) : String :=
  String.ofList (((s.toList.dropWhile isSpace).reverse.dropWhile isSpace).reverse)

/-- `s.includes(part)`. -/
def includes (s part : String) : Bool := s.toList.tails.any part.toList.isPrefixOf

/-- The UTF-16 code units of a string. -/
def codeUnits (s : String) : List Nat :=
  s.toList.flatMap fun c ↦
    if c.toNat < 0x10000 then [c.toNat]
    else [0xD800 + (c.toNat - 0x10000) / 0x400, 0xDC00 + (c.toNat - 0x10000) % 0x400]

/-- A non-empty string without separators. -/
def IsWord (sep : Char → Bool) (w : String) : Prop := w ≠ "" ∧ ∀ c ∈ w.toList, sep c = false

/-- Being a word is decided by looking at the characters. -/
instance (sep : Char → Bool) (w : String) : Decidable (IsWord sep w) :=
  inferInstanceAs (Decidable (_ ∧ _))

private theorem splitOnP_free (sep : Char → Bool) (cs : List Char) :
    ∀ w ∈ cs.splitOnP sep, ∀ c ∈ w, sep c = false := by
  induction cs with
  | nil => simp
  | cons c cs ih =>
    rw [List.splitOnP_cons_eq_if_modifyHead]
    split
    · simpa using ih
    · next hc =>
      obtain ⟨w, ws, hw⟩ := List.exists_cons_of_ne_nil (List.splitOnP_ne_nil sep cs)
      rw [hw] at ih ⊢
      simpa [hc] using ih

/-- The pieces of a split are words. -/
theorem isWord_of_mem_wordsBy {sep : Char → Bool} {s w : String} (h : w ∈ wordsBy sep s) :
    IsWord sep w := by
  obtain ⟨cs, hcs, rfl⟩ := List.mem_map.mp h
  obtain ⟨hm, he⟩ := List.mem_filter.mp hcs
  refine ⟨?_, by simpa using splitOnP_free sep _ cs hm⟩
  intro hn
  have : cs = [] := by simpa using congrArg String.toList hn
  simp [this] at he

/-- The empty string has no words. -/
@[simp] theorem wordsBy_empty (sep : Char → Bool) : wordsBy sep "" = [] := by
  simp [wordsBy]

private theorem wordsBy_cons {sep : Char → Bool} {w : String} (hw : IsWord sep w) {c : Char}
    (hc : sep c = true) (s : String) :
    wordsBy sep (w ++ String.singleton c ++ s) = w :: wordsBy sep s := by
  have hne : w.toList.isEmpty = false := by
    simpa [List.isEmpty_eq_false_iff] using hw.1
  have hl : (w ++ String.singleton c ++ s).toList = w.toList ++ c :: s.toList := by simp
  rw [wordsBy, hl, List.splitOnP_append_cons_of_forall_mem hw.2 c hc]
  simp [hne, wordsBy]

private theorem wordsBy_singleton {sep : Char → Bool} {w : String} (hw : IsWord sep w) :
    wordsBy sep w = [w] := by
  have hne : w.toList.isEmpty = false := by
    simpa [List.isEmpty_eq_false_iff] using hw.1
  rw [wordsBy, List.splitOnP_eq_singleton hw.2]
  simp [hne]

/-- Words joined by a separator split into the same words. -/
theorem wordsBy_intercalate {sep : Char → Bool} {c : Char} (hc : sep c = true)
    {ws : List String} (h : ∀ w ∈ ws, IsWord sep w) :
    wordsBy sep ((String.singleton c).intercalate ws) = ws := by
  induction ws with
  | nil => simp
  | cons w ws ih =>
    have hw := h w (by simp)
    cases ws with
    | nil => rw [String.intercalate_singleton, wordsBy_singleton hw]
    | cons w' ws =>
      rw [String.intercalate_cons_cons, wordsBy_cons hw hc]
      rw [ih fun x hx ↦ h x (List.mem_cons_of_mem w hx)]

/-- Pieces joined by a separator split into the same pieces. -/
theorem piecesBy_intercalate {sep : Char → Bool} {c : Char} (hc : sep c = true)
    {ws : List String} (hne : ws ≠ []) (h : ∀ w ∈ ws, ∀ x ∈ w.toList, sep x = false) :
    piecesBy sep ((String.singleton c).intercalate ws) = ws := by
  induction ws with
  | nil => exact absurd rfl hne
  | cons w ws ih =>
    have hw := h w (List.mem_cons_self ..)
    cases ws with
    | nil =>
      rw [String.intercalate_singleton, piecesBy, List.splitOnP_eq_singleton hw]
      simp
    | cons w' ws =>
      have hrest := ih (List.cons_ne_nil w' ws) fun x hx ↦ h x (List.mem_cons_of_mem w hx)
      rw [piecesBy] at hrest ⊢
      rw [String.intercalate_cons_cons, String.toList_append, String.toList_append,
        String.toList_singleton, List.append_assoc, List.singleton_append,
        List.splitOnP_append_cons_of_forall_mem hw c hc, List.map_cons, hrest,
        String.ofList_toList]

/-- Two lists joined by an element that the first does not have can be told apart again. -/
theorem append_cons_inj {α : Type} {c : α} {a a' b b' : List α} (ha : c ∉ a) (ha' : c ∉ a')
    (h : a ++ c :: b = a' ++ c :: b') : a = a' ∧ b = b' := by
  induction a generalizing a' with
  | nil =>
    cases a' with
    | nil => exact ⟨rfl, (List.cons.inj h).2⟩
    | cons x a' =>
      rw [(List.cons.inj h).1] at ha'
      exact absurd (List.mem_cons_self ..) ha'
  | cons x a ih =>
    cases a' with
    | nil =>
      rw [← (List.cons.inj h).1] at ha
      exact absurd (List.mem_cons_self ..) ha
    | cons y a' =>
      obtain ⟨rfl, hrest⟩ := List.cons.inj h
      rw [List.mem_cons, not_or] at ha ha'
      obtain ⟨rfl, hb⟩ := ih ha.2 ha'.2 hrest
      exact ⟨rfl, hb⟩

/-- Two strings joined by a character that the first does not have can be told apart again. -/
theorem append_singleton_append_inj {c : Char} {a a' b b' : String} (ha : c ∉ a.toList)
    (ha' : c ∉ a'.toList)
    (h : a ++ String.singleton c ++ b = a' ++ String.singleton c ++ b') : a = a' ∧ b = b' := by
  have hlist : a.toList ++ c :: b.toList = a'.toList ++ c :: b'.toList := by
    have happend := congrArg String.toList h
    simpa using happend
  obtain ⟨hfirst, hlast⟩ := append_cons_inj ha ha' hlist
  exact ⟨String.toList_inj.mp hfirst, String.toList_inj.mp hlast⟩

private theorem mem_dropWhile {p : Char → Bool} {cs : List Char} {c : Char} (h : c ∈ cs)
    (hc : p c = false) : c ∈ cs.dropWhile p := by
  rw [← List.takeWhile_append_dropWhile (p := p) (l := cs), List.mem_append] at h
  rcases h with hdropped | hkept
  · have htrue := List.mem_takeWhile_imp hdropped
    rw [hc] at htrue
    cases htrue
  · exact hkept

/-- Trimming keeps every character that is no white space. -/
theorem mem_trim {s : String} {c : Char} (h : c ∈ s.toList) (hc : isSpace c = false) :
    c ∈ (trim s).toList := by
  rw [trim, String.toList_ofList, List.mem_reverse]
  apply mem_dropWhile _ hc
  rw [List.mem_reverse]
  exact mem_dropWhile h hc

/-- A text is blank when it is white space throughout. -/
theorem trim_ne_empty_iff {s : String} : trim s ≠ "" ↔ ∃ c ∈ s.toList, isSpace c = false := by
  constructor
  · intro h
    by_contra hall
    push Not at hall
    have hblank : s.toList.dropWhile isSpace = [] := by
      rw [List.dropWhile_eq_nil_iff]
      intro c hc
      exact eq_true_of_ne_false (hall c hc)
    apply h
    rw [trim, hblank]
    rfl
  · rintro ⟨c, hc, hspace⟩ hempty
    have hmem := mem_trim hc hspace
    rw [hempty] at hmem
    cases hmem

/-- Nothing is dropped where the first character stays. -/
theorem dropWhile_eq_self_iff_head? {p : Char → Bool} {cs : List Char} :
    cs.dropWhile p = cs ↔ ∀ c ∈ cs.head?, p c = false := by
  rw [List.dropWhile_eq_self_iff]
  cases cs with
  | nil => simp
  | cons c cs => simp

/-- A text is trimmed when it neither begins nor ends with white space. -/
theorem trim_eq_self_iff {s : String} :
    trim s = s ↔ (∀ c ∈ s.toList.head?, isSpace c = false) ∧
      ∀ c ∈ s.toList.getLast?, isSpace c = false := by
  constructor
  · intro h
    have hlist := congrArg String.toList h
    rw [trim, String.toList_ofList] at hlist
    have hlength := congrArg List.length hlist
    have hfirst := (List.dropWhile_sublist isSpace (l := s.toList)).length_le
    have hlast := (List.dropWhile_sublist isSpace
      (l := (s.toList.dropWhile isSpace).reverse)).length_le
    rw [List.length_reverse] at hlength hlast
    have hhead : s.toList.dropWhile isSpace = s.toList :=
      (List.dropWhile_sublist isSpace).eq_of_length (by omega)
    rw [hhead] at hlist
    have htail : s.toList.reverse.dropWhile isSpace = s.toList.reverse := by
      rw [← List.reverse_inj, hlist, List.reverse_reverse]
    refine ⟨dropWhile_eq_self_iff_head?.mp hhead, ?_⟩
    rw [← List.head?_reverse]
    exact dropWhile_eq_self_iff_head?.mp htail
  · rintro ⟨hhead, hlast⟩
    rw [← List.head?_reverse] at hlast
    rw [trim, dropWhile_eq_self_iff_head?.mpr hhead, dropWhile_eq_self_iff_head?.mpr hlast,
      List.reverse_reverse, String.ofList_toList]

/-- A text includes another one when its characters occur in a row. -/
theorem includes_iff {s part : String} : includes s part = true ↔ part.toList <:+: s.toList := by
  rw [includes, List.any_eq_true, List.infix_iff_prefix_suffix]
  constructor
  · rintro ⟨tail, htail, hpre⟩
    exact ⟨tail, List.isPrefixOf_iff_prefix.mp hpre, (List.mem_tails _ _).mp htail⟩
  · rintro ⟨tail, hpre, hsuffix⟩
    exact ⟨tail, (List.mem_tails _ _).mpr hsuffix, List.isPrefixOf_iff_prefix.mpr hpre⟩

/-- Characters without `c` in a row are on one side of a `c`. -/
theorem infix_append_cons_iff {c : Char} {w a b : List Char} (hc : c ∉ w) :
    w <:+: a ++ c :: b ↔ w <:+: a ∨ w <:+: b := by
  constructor
  · rintro ⟨s, t, h⟩
    rcases List.append_eq_append_iff.mp h with ⟨rest, ha, -⟩ | ⟨rest, hsw, hb⟩
    · exact Or.inl ⟨s, rest, ha.symm⟩
    · cases rest with
      | nil => exact Or.inl ⟨s, [], by simpa using hsw⟩
      | cons c' rest =>
        rw [List.cons_append, List.cons.injEq] at hb
        obtain ⟨rfl, rfl⟩ := hb
        rcases List.append_eq_append_iff.mp hsw with ⟨mid, -, hmid⟩ | ⟨mid, -, hmid⟩
        · rw [hmid] at hc
          exact absurd (List.mem_append_right mid (List.mem_cons_self ..)) hc
        · cases mid with
          | nil =>
            rw [List.nil_append] at hmid
            rw [← hmid] at hc
            exact absurd (List.mem_cons_self ..) hc
          | cons c' mid =>
            rw [List.cons_append, List.cons.injEq] at hmid
            obtain ⟨-, rfl⟩ := hmid
            exact Or.inr ⟨mid, t, rfl⟩
  · rintro (⟨s, t, rfl⟩ | ⟨s, t, rfl⟩)
    · exact ⟨s, t ++ c :: b, by simp⟩
    · exact ⟨a ++ c :: s, t, by simp⟩

/-- A text without blanks is included on one side of a blank. -/
theorem includes_append_blank {part : String} (h : ' ' ∉ part.toList) (a b : String) :
    includes (a ++ " " ++ b) part = (includes a part || includes b part) := by
  rw [Bool.eq_iff_iff, Bool.or_eq_true, includes_iff, includes_iff, includes_iff,
    String.toList_append, String.toList_append, List.append_assoc]
  exact infix_append_cons_iff h

/-- A text that includes another one includes its parts. -/
theorem includes_trans {s part inner : String} (h : includes s part = true)
    (hinner : includes part inner = true) : includes s inner = true := by
  rw [includes_iff] at h hinner ⊢
  exact hinner.trans h

example : words "inspect:read  ops:write" = ["inspect:read", "ops:write"] := by decide

end AgentsAuth.Lib
