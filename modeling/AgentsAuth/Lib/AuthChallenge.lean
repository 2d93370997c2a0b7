import AgentsAuth.Lib.Words
import Mathlib.Data.List.Forall2

/-!
# Challenges of HTTP authentication

The grammar of a challenge whose parameters are quoted strings: a scheme, and names with values in
quotation marks between commas. In a quoted string a backslash stands for the character after it,
a quotation mark without one ends the value, and control characters have no place. A challenge that
is written without regard to this is read back exactly when no value has any of them.
-/

namespace AgentsAuth.Lib

/-- A scheme with its parameters in their order. -/
structure AuthChallenge where
  scheme : String
  params : List (String × String)
deriving DecidableEq

namespace AuthChallenge

/-- A character of a token. -/
def tokenChar (c : Char) : Bool := c.isAlphanum || "!#$%&'*+-.^_`|~".toList.contains c

/-- White space around the commas of a list. -/
def optionalSpace (c : Char) : Bool := c = ' ' || c = '\t'

/-- A character of a header field: a tab, a visible character or one of the upper half of
Latin-1. -/
def fieldChar (c : Char) : Bool :=
  c = '\t' || (32 ≤ c.toNat && c.toNat ≤ 126) || (128 ≤ c.toNat && c.toNat ≤ 255)

/-- The value of a quoted string whose opening mark has been read, and what follows its end. -/
def quotedRest : List Char → Option (List Char × List Char)
  | [] => none
  | '"' :: cs => some ([], cs)
  | ['\\'] => none
  | '\\' :: c :: cs =>
    if fieldChar c then (quotedRest cs).map fun r ↦ (c :: r.1, r.2) else none
  | c :: cs => if fieldChar c then (quotedRest cs).map fun r ↦ (c :: r.1, r.2) else none

/-- The parameters of a list of at most so many. -/
def readParams : Nat → List Char → Option (List (String × String))
  | 0, _ => none
  | n + 1, cs =>
    let name := cs.takeWhile tokenChar
    match cs.dropWhile tokenChar with
    | '=' :: '"' :: value =>
      match quotedRest value with
      | none => none
      | some (v, rest) =>
        if name = [] then none
        else
          match rest.dropWhile optionalSpace with
          | [] => some [(String.ofList name, String.ofList v)]
          | ',' :: rest =>
            (readParams n (rest.dropWhile optionalSpace)).map
              ((String.ofList name, String.ofList v) :: ·)
          | _ => none
    | _ => none

/-- A challenge of one scheme with parameters. -/
def read (s : String) : Option AuthChallenge :=
  let scheme := s.toList.takeWhile tokenChar
  match s.toList.dropWhile tokenChar with
  | ' ' :: cs => (readParams cs.length (cs.dropWhile (· = ' '))).map (⟨String.ofList scheme, ·⟩)
  | _ => none

/-- One parameter, its value as it is. -/
def writeParam (p : String × String) : String := p.1 ++ "=\"" ++ p.2 ++ "\""

/-- A challenge whose values are written as they are. -/
def write (c : AuthChallenge) : String :=
  c.scheme ++ " " ++ ", ".intercalate (c.params.map writeParam)

/-- A character that stands for itself in a quoted string. -/
def quotedText (c : Char) : Bool := fieldChar c && c ≠ '"' && c ≠ '\\'

/-- A text that stands for itself in a quoted string. -/
def Clean (s : String) : Prop := s.toList.all quotedText = true

instance (s : String) : Decidable (Clean s) := inferInstanceAs (Decidable (_ = _))

/-- A name or a scheme. -/
def IsToken (s : String) : Prop := s ≠ "" ∧ s.toList.all tokenChar = true

instance (s : String) : Decidable (IsToken s) := inferInstanceAs (Decidable (_ ∧ _))

/-- A value without quotation marks in the place of one of the same length. -/
structure StandsFor (p q : String × String) : Prop where
  name : p.1 = q.1
  quote : '"' ∉ q.2.toList
  length : q.2.toList.length = p.2.toList.length

section Quoted

variable {v w rest rest' : List Char}

private theorem quotedText_iff {c : Char} :
    quotedText c = true ↔ fieldChar c = true ∧ c ≠ '"' ∧ c ≠ '\\' := by
  simp [quotedText, and_assoc]

/-- Characters that stand for themselves are read as they are. -/
private theorem quotedRest_append (hv : v.all quotedText = true) :
    quotedRest (v ++ '"' :: rest) = some (v, rest) := by
  induction v with
  | nil => rfl
  | cons c v ih =>
    rw [List.all_cons, Bool.and_eq_true, quotedText_iff] at hv
    obtain ⟨⟨hfield, hquote, hescape⟩, hv⟩ := hv
    rw [List.cons_append, quotedRest, if_pos hfield, ih hv]
    · rfl
    · exact hquote
    · exact fun h ↦ absurd h hescape
    · exact fun _ _ h ↦ absurd h hescape

/-- A value without quotation marks ends at the first one, and each backslash makes it shorter. -/
private theorem quotedRest_eq_some (h : quotedRest v = some (w, rest)) (hw : '"' ∉ w) :
    ∃ r, v = r ++ '"' :: rest ∧ '"' ∉ r ∧ w.length ≤ r.length ∧
      (w.length = r.length → w = r ∧ r.all quotedText = true) := by
  induction v using quotedRest.induct generalizing w with
  | case1 => cases h
  | case2 cs =>
    cases h
    exact ⟨[], rfl, by simp, by simp, by simp⟩
  | case3 => cases h
  | case4 c cs hfield ih =>
    rw [quotedRest, if_pos hfield, Option.map_eq_some_iff] at h
    obtain ⟨⟨w', rest''⟩, hrest, heq⟩ := h
    cases heq
    rw [List.mem_cons, not_or] at hw
    obtain ⟨r, rfl, hr, hle, -⟩ := ih hrest hw.2
    refine ⟨'\\' :: c :: r, rfl, ?_, ?_, ?_⟩
    · simp [hr, hw.1]
    · simp only [List.length_cons]
      omega
    · simp only [List.length_cons]
      omega
  | case5 c cs hfield =>
    rw [quotedRest, if_neg hfield] at h
    cases h
  | case6 c cs hquote hend hescape hfield ih =>
    rw [quotedRest, if_pos hfield, Option.map_eq_some_iff] at h
    · obtain ⟨⟨w', rest''⟩, hrest, heq⟩ := h
      cases heq
      rw [List.mem_cons, not_or] at hw
      obtain ⟨r, rfl, hr, hle, heq⟩ := ih hrest hw.2
      refine ⟨c :: r, rfl, ?_, ?_, ?_⟩
      · simp [hr, hw.1]
      · simp only [List.length_cons]
        omega
      · intro hlength
        obtain ⟨rfl, hclean⟩ := heq (by simpa using hlength)
        refine ⟨rfl, ?_⟩
        rw [List.all_cons, Bool.and_eq_true, quotedText_iff]
        refine ⟨⟨hfield, hquote, ?_⟩, hclean⟩
        intro hbackslash
        obtain ⟨d, ds, hds⟩ := List.exists_cons_of_ne_nil
          (List.append_ne_nil_of_right_ne_nil w' (List.cons_ne_nil '"' rest''))
        exact hescape d ds hbackslash hds
    · exact hquote
    · exact hend
    · exact hescape
  | case7 c cs hquote hend hescape hfield =>
    rw [quotedRest, if_neg hfield] at h
    · cases h
    · exact hquote
    · exact hend
    · exact hescape

/-- A value that is read with its own length and without quotation marks was clean. -/
private theorem quotedRest_same (h : quotedRest (v ++ '"' :: rest) = some (w, rest'))
    (hw : '"' ∉ w) (hlength : w.length = v.length) :
    v = w ∧ rest = rest' ∧ v.all quotedText = true := by
  obtain ⟨r, hr, hquote, hle, heq⟩ := quotedRest_eq_some h hw
  have hv : '"' ∉ v := by
    intro hmem
    obtain ⟨a, b, rfl, ha⟩ := List.eq_append_cons_of_mem hmem
    rw [List.append_assoc, List.cons_append] at hr
    obtain ⟨rfl, -⟩ := append_cons_inj ha hquote hr
    simp only [List.length_append, List.length_cons] at hlength
    omega
  obtain ⟨rfl, hrest⟩ := append_cons_inj hv hquote hr
  obtain ⟨rfl, hclean⟩ := heq hlength
  exact ⟨rfl, hrest, hclean⟩

end Quoted

section Params

variable {n : Nat} {name : String} {p q : String × String} {ps qs : List (String × String)}

private theorem optionalSpace_of_tokenChar {c : Char} (h : tokenChar c = true) :
    optionalSpace c = false := by
  rw [optionalSpace, Bool.or_eq_false_iff, decide_eq_false_iff_not, decide_eq_false_iff_not]
  constructor
  · rintro rfl
    exact absurd h (by decide)
  · rintro rfl
    exact absurd h (by decide)

private theorem takeWhile_token (hname : IsToken name) {c : Char} (hc : tokenChar c = false)
    (cs : List Char) : (name.toList ++ c :: cs).takeWhile tokenChar = name.toList := by
  rw [List.takeWhile_append_of_pos fun d hd ↦ List.all_eq_true.mp hname.2 d hd,
    List.takeWhile_cons_of_neg (by simp [hc]), List.append_nil]

private theorem dropWhile_token (hname : IsToken name) {c : Char} (hc : tokenChar c = false)
    (cs : List Char) : (name.toList ++ c :: cs).dropWhile tokenChar = c :: cs := by
  rw [List.dropWhile_append_of_pos fun d hd ↦ List.all_eq_true.mp hname.2 d hd,
    List.dropWhile_cons_of_neg (by simp [hc])]

/-- A parameter is read from its value, and the others from what follows a comma. -/
private theorem readParams_succ (hname : IsToken name) {value : List Char} :
    readParams (n + 1) (name.toList ++ '=' :: '"' :: value) = some qs ↔
      ∃ v rest, quotedRest value = some (v, rest) ∧
        (rest.dropWhile optionalSpace = [] ∧ qs = [(name, String.ofList v)] ∨
          ∃ rest' qs', rest.dropWhile optionalSpace = ',' :: rest' ∧
            readParams n (rest'.dropWhile optionalSpace) = some qs' ∧
            qs = (name, String.ofList v) :: qs') := by
  have hne : name.toList ≠ [] := by simpa using hname.1
  rw [readParams, takeWhile_token hname (by decide), dropWhile_token hname (by decide),
    String.ofList_toList]
  cases hvalue : quotedRest value with
  | none => simp [hvalue]
  | some r =>
    obtain ⟨v, rest⟩ := r
    simp only [hvalue, if_neg hne]
    constructor
    · intro h
      refine ⟨v, rest, rfl, ?_⟩
      split at h
      · next hend => exact Or.inl ⟨hend, (Option.some.inj h).symm⟩
      · next rest' hcomma =>
        obtain ⟨qs', hqs, rfl⟩ := Option.map_eq_some_iff.mp h
        exact Or.inr ⟨rest', qs', hcomma, hqs, rfl⟩
      · cases h
    · rintro ⟨v', rest', heq, hrest⟩
      cases heq
      rcases hrest with ⟨hend, rfl⟩ | ⟨rest', qs', hcomma, hqs, rfl⟩
      · simp only [hend]
      · simp only [hcomma, hqs, Option.map_some]

/-- The parameters between commas, as characters. -/
private def text (ps : List (String × String)) : List Char :=
  (", ".intercalate (ps.map writeParam)).toList

/-- What stands after the closing mark of a parameter that the others follow. -/
private def more : List (String × String) → List Char
  | [] => []
  | p :: ps => ',' :: ' ' :: text (p :: ps)

private theorem text_cons (p : String × String) (ps : List (String × String)) :
    text (p :: ps) = p.1.toList ++ '=' :: '"' :: (p.2.toList ++ '"' :: more ps) := by
  cases ps with
  | nil => simp [text, writeParam, more]
  | cons q ps =>
    rw [text, List.map_cons, List.map_cons, String.intercalate_cons_cons]
    simp [text, writeParam, more]

/-- White space ends where the name of a parameter begins. -/
private theorem dropWhile_text (hname : IsToken p.1) {sep : Char → Bool}
    (hsep : ∀ c, tokenChar c = true → sep c = false) :
    (text (p :: ps)).dropWhile sep = text (p :: ps) := by
  obtain ⟨c, cs, hcs⟩ := List.exists_cons_of_ne_nil (l := p.1.toList) (by simpa using hname.1)
  have hc : tokenChar c = true := List.all_eq_true.mp hname.2 c (by simp [hcs])
  rw [text_cons, hcs, List.cons_append, List.dropWhile_cons_of_neg (by simp [hsep c hc])]

/-- What follows a parameter is read as the others are. -/
private theorem readMore_iff (hnames : ∀ p ∈ ps, IsToken p.1) :
    ((more ps).dropWhile optionalSpace = [] ∧ qs = [] ∨
      ∃ rest, (more ps).dropWhile optionalSpace = ',' :: rest ∧
        readParams n (rest.dropWhile optionalSpace) = some qs) ↔
      ps = [] ∧ qs = [] ∨ ps ≠ [] ∧ readParams n (text ps) = some qs := by
  cases ps with
  | nil => simp [more]
  | cons p ps =>
    have hcomma : (more (p :: ps)).dropWhile optionalSpace = ',' :: ' ' :: text (p :: ps) :=
      List.dropWhile_cons_of_neg (by decide)
    have htext : (' ' :: text (p :: ps)).dropWhile optionalSpace = text (p :: ps) := by
      rw [List.dropWhile_cons_of_pos (by decide)]
      exact dropWhile_text (hnames p (List.mem_cons_self ..)) fun c ↦ optionalSpace_of_tokenChar
    rw [hcomma]
    simp [htext]

/-- A parameter is read as one that stands for it exactly when it is that one and stands for
itself. -/
private theorem readParams_cons (hname : IsToken p.1) (hnames : ∀ p ∈ ps, IsToken p.1)
    (hq : StandsFor p q) :
    readParams (n + 1) (text (p :: ps)) = some (q :: qs) ↔
      (p = q ∧ Clean p.2) ∧
        (ps = [] ∧ qs = [] ∨ ps ≠ [] ∧ readParams n (text ps) = some qs) := by
  rw [text_cons, readParams_succ hname, ← readMore_iff hnames]
  constructor
  · rintro ⟨v, rest, hvalue, h⟩
    have hhead : q = (p.1, String.ofList v) := by
      rcases h with ⟨-, heq⟩ | ⟨_, _, -, -, heq⟩
      · exact (List.cons.inj heq).1
      · exact (List.cons.inj heq).1
    have hq2 : q.2.toList = v := by rw [hhead, String.toList_ofList]
    obtain ⟨hv, rfl, hclean⟩ := quotedRest_same hvalue (hq2 ▸ hq.quote) (hq2 ▸ hq.length)
    have hpq : p = q := Prod.ext hq.name (String.toList_inj.mp (hv.trans hq2.symm))
    refine ⟨⟨hpq, hclean⟩, ?_⟩
    rcases h with ⟨hend, heq⟩ | ⟨rest', qs', hcomma, hqs, heq⟩
    · exact Or.inl ⟨hend, (List.cons.inj heq).2⟩
    · rw [← (List.cons.inj heq).2] at hqs
      exact Or.inr ⟨rest', hcomma, hqs⟩
  · rintro ⟨⟨rfl, hclean⟩, hmore⟩
    refine ⟨p.2.toList, more ps, quotedRest_append hclean, ?_⟩
    rw [String.ofList_toList]
    rcases hmore with ⟨hend, rfl⟩ | ⟨rest, hcomma, hqs⟩
    · exact Or.inl ⟨hend, rfl⟩
    · exact Or.inr ⟨rest, qs, hcomma, hqs, rfl⟩

private theorem readParams_text_iff (hnames : ∀ p ∈ ps, IsToken p.1) (hne : ps ≠ [])
    (hqs : List.Forall₂ StandsFor ps qs) (hn : ps.length ≤ n) :
    readParams n (text ps) = some qs ↔ ps = qs ∧ ∀ p ∈ ps, Clean p.2 := by
  induction hqs generalizing n with
  | nil => exact absurd rfl hne
  | @cons p q ps qs hq hqs ih =>
    obtain ⟨hname, hnames⟩ := List.forall_mem_cons.mp hnames
    obtain ⟨n, rfl⟩ := Nat.exists_eq_add_one_of_ne_zero (Nat.ne_of_gt (Nat.lt_of_lt_of_le
      (Nat.succ_pos _) hn))
    rw [readParams_cons hname hnames hq, List.forall_mem_cons, List.cons.injEq]
    by_cases hps : ps = []
    · subst hps
      cases hqs
      simp
    · rw [ih hnames hps (Nat.le_of_succ_le_succ hn)]
      simp only [hps, false_and, false_or, ne_eq, not_false_eq_true, true_and]
      exact ⟨fun h ↦ ⟨⟨h.1.1, h.2.1⟩, h.1.2, h.2.2⟩, fun h ↦ ⟨⟨h.1.1, h.2.1⟩, h.1.2, h.2.2⟩⟩

private theorem length_le_length_text (ps : List (String × String)) :
    ps.length ≤ (text ps).length := by
  induction ps with
  | nil => exact Nat.zero_le _
  | cons p ps ih =>
    rw [text_cons]
    cases ps with
    | nil =>
      simp only [List.length_append, List.length_cons, List.length_nil]
      omega
    | cons q ps =>
      simp only [more, List.length_append, List.length_cons] at ih ⊢
      omega

end Params

/-- A challenge that is written without regard to the grammar is read as one whose values have the
lengths of its own and no quotation marks exactly when it is that one and all of its values stand
for themselves. -/
theorem read_write_iff {scheme : String} {ps qs : List (String × String)} (hscheme : IsToken scheme)
    (hnames : ∀ p ∈ ps, IsToken p.1) (hne : ps ≠ []) (hqs : List.Forall₂ StandsFor ps qs) :
    read (write ⟨scheme, ps⟩) = some ⟨scheme, qs⟩ ↔ ps = qs ∧ ∀ p ∈ ps, Clean p.2 := by
  have hwrite : (write ⟨scheme, ps⟩).toList = scheme.toList ++ ' ' :: text ps := by
    simp [write, text]
  have htext : (text ps).dropWhile (· = ' ') = text ps := by
    obtain ⟨p, ps, rfl⟩ := List.exists_cons_of_ne_nil hne
    apply dropWhile_text (hnames p (List.mem_cons_self ..))
    intro c hc
    rw [decide_eq_false_iff_not]
    rintro rfl
    exact absurd hc (by decide)
  rw [read, hwrite, takeWhile_token hscheme (by decide), dropWhile_token hscheme (by decide),
    String.ofList_toList]
  simp only [htext]
  rw [← readParams_text_iff hnames hne hqs (length_le_length_text ps)]
  cases readParams (text ps).length (text ps) with
  | none => simp
  | some params => simp

end AuthChallenge
end AgentsAuth.Lib
