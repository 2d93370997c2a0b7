import AgentsAuth.Lib.Regex

/-!
# The intent router of agent-copilot

`detectIntent` of `apps/agent-copilot/src/intent.ts`: a message goes to the specialist when it has
a privileged verb and names a deployment. The name is looked for in the lower-cased message, the
namespace in the message as it is.
-/

namespace AgentsAuth.Copilot

open AgentsAuth.Lib AgentsAuth.Lib.Regex

/-- `String.prototype.toLowerCase`; on ASCII texts it lower-cases letter by letter. -/
structure LowerCase where
  toLowerCase : String → String
  ascii : ∀ s, (∀ c ∈ s.toList, c.toNat < 128) → toLowerCase s = s.map Char.toLower

/-- `Intent` of `intent.ts:16–21`; the hint is in UTF-16 code units. -/
inductive Intent where
  | inspect
  | restart (deployment : String) (nameSpace : Option String) (reasonHint : List Nat)
deriving DecidableEq

/-- A character of the class `[\w-]`. -/
def isFiller (c : Char) : Bool := isWordChar c || c = '-'

/-- `RESTART_VERBS` of `intent.ts:35–36`. -/
def restartVerbs : Regex :=
  .alt
    (.seq .boundary (.seq
      (.group (oneOf [caseless "restart", caseless "reboot", caseless "kick", caseless "bounce",
        caseless "scale", caseless "deploy",
        .seq (caseless "roll") (.seq (.opt (.set isSpace)) (caseless "out")), caseless "upgrade"]))
      .boundary))
    (.seq .boundary (.seq
      (.group (oneOf [caseless "update", caseless "set", caseless "change", caseless "switch",
        caseless "bump"]))
      (.seq (.many isSpace 1 none) (.seq
        (.opt (.seq (.many isFiller 1 none) (.many isSpace 1 none)))
        (.seq (caseless "image") .boundary)))))

/-- A DNS-shaped name with letters of a class. -/
def dnsName (isLetter : Char → Bool) : Regex :=
  .seq (.set isLetter) (.seq
    (.many (fun c ↦ isLetter c || c.isDigit || c = '-') 0 (some 61))
    (.set fun c ↦ isLetter c || c.isDigit))

/-- `NAMESPACE_HINT` of `intent.ts:37`. -/
def namespaceHint : Regex :=
  .seq .boundary (.seq (caseless "in") (.seq (.many isSpace 1 none) (.seq
    (.group (dnsName Char.isAlpha))
    (.opt (.seq (.many isSpace 1 none) (oneOf [caseless "namespace", caseless "ns"]))))))

/-- `STOP_WORDS` of `intent.ts:39–68`. -/
def stopWords : List String :=
  ["the", "a", "an", "please", "pod", "pods", "deployment", "deployments", "svc", "service", "in",
    "on", "and", "or", "restart", "reboot", "kick", "bounce", "scale", "deploy", "rollout",
    "upgrade", "image", "replicas", "to", "version", "namespace", "ns"]

/-- `/^v\d/i.test(t)`. -/
def versionShaped (t : String) : Bool :=
  match t.toList with
  | v :: d :: _ => v.toLower = 'v' && d.isDigit
  | _ => false

/-- `/[-0-9]/.test(t)`. -/
def nameShaped (t : String) : Bool := t.toList.any fun c ↦ c = '-' || c.isDigit

/-- The filter of `intent.ts:78–80`. -/
def isTarget (t : String) : Bool := !stopWords.contains t && nameShaped t && !versionShaped t

/-- The tokens of `intent.ts:77`. -/
def nameTokens (lower : LowerCase) (message : String) : List String :=
  matchAll (dnsName Char.isLower) (lower.toLowerCase message)

/-- The namespace of `intent.ts:87–93`. -/
def namespaceOf (lower : LowerCase) (message : String) : Option String :=
  match ((exec namespaceHint message).bind Cursor.group).map String.ofList with
  | none => none
  | some name =>
    if ¬stopWords.contains (lower.toLowerCase name) ∧ lower.toLowerCase name ≠ "the" then some name
    else none

/-- Model of `apps/agent-copilot/src/intent.ts:70–101`. -/
def detectIntent (lower : LowerCase) (message : String) : Intent :=
  if ¬test restartVerbs message then .inspect
  else
    match ((nameTokens lower message).find? isTarget).filter (· ≠ "") with
    | none => .inspect
    | some deployment =>
      .restart deployment (namespaceOf lower message) ((codeUnits (trim message)).take 256)

/-- A text spells a word in any case. -/
def Spells (w : List Char) (s : String) : Prop := w.map Char.toLower = s.toList

/-- White space. -/
def Blank (w : List Char) : Prop := w ≠ [] ∧ ∀ c ∈ w, isSpace c = true

/-- `roll out`, in one word or in two. -/
def RollOut (w : List Char) : Prop :=
  ∃ u gap v, w = u ++ gap ++ v ∧ Spells u "roll" ∧ Spells v "out" ∧ gap.length ≤ 1 ∧
    ∀ c ∈ gap, isSpace c = true

/-- A verb that is privileged by itself. -/
def BareVerb (w : List Char) : Prop :=
  (∃ s ∈ ["restart", "reboot", "kick", "bounce", "scale", "deploy", "upgrade"], Spells w s) ∨
    RollOut w

/-- A verb that is privileged when it is about an image, at most one word further on. -/
def ImageChange (w : List Char) : Prop :=
  ∃ verb gap filler image, w = verb ++ gap ++ filler ++ image ∧
    (∃ s ∈ ["update", "set", "change", "switch", "bump"], Spells verb s) ∧ Blank gap ∧
    (filler = [] ∨ ∃ token gap', filler = token ++ gap' ∧ token ≠ [] ∧
      (∀ c ∈ token, isFiller c = true) ∧ Blank gap') ∧
    Spells image "image"

/-- A message has a privileged verb form between word boundaries. -/
def PrivilegedVerb (message : String) : Prop :=
  ∃ p w rest, message.toList = p ++ w ++ rest ∧ Boundary p.reverse (w ++ rest) ∧
    Boundary (w.reverse ++ p.reverse) rest ∧ (BareVerb w ∨ ImageChange w)

section Verbs

variable {before w after : List Char}

private theorem reads_rollOut_iff :
    Reads (.seq (caseless "roll") (.seq (.opt (.set isSpace)) (caseless "out"))) before w after ↔
      RollOut w := by
  simp only [Reads, reads_caseless_iff, RollOut]
  constructor
  · rintro ⟨u, t, rfl, hu, gap, v, rfl, hgap, hv⟩
    refine ⟨u, gap, v, (List.append_assoc ..).symm, hu, hv, ?_⟩
    rcases hgap with ⟨c, rfl, hc⟩ | rfl
    · simp [hc]
    · simp
  · rintro ⟨u, gap, v, rfl, hu, hv, hlength, hgap⟩
    refine ⟨u, gap ++ v, List.append_assoc .., hu, gap, v, rfl, ?_, hv⟩
    cases gap with
    | nil => exact Or.inr rfl
    | cons c gap =>
      cases gap with
      | nil => exact Or.inl ⟨c, rfl, hgap c (List.mem_singleton_self c)⟩
      | cons d gap => simp at hlength

private theorem reads_bareVerb_iff :
    Reads (oneOf [caseless "restart", caseless "reboot", caseless "kick", caseless "bounce",
        caseless "scale", caseless "deploy",
        .seq (caseless "roll") (.seq (.opt (.set isSpace)) (caseless "out")), caseless "upgrade"])
      before w after ↔ BareVerb w := by
  rw [reads_oneOf_iff, BareVerb]
  simp only [List.exists_mem_cons_iff, List.not_mem_nil, false_and, exists_false, or_false,
    reads_rollOut_iff, reads_caseless_iff, Spells, or_assoc]
  rw [@or_comm (RollOut w)]

private theorem reads_imageVerb_iff :
    Reads (oneOf [caseless "update", caseless "set", caseless "change", caseless "switch",
        caseless "bump"]) before w after ↔
      ∃ s ∈ ["update", "set", "change", "switch", "bump"], Spells w s := by
  rw [reads_oneOf_iff]
  simp only [List.exists_mem_cons_iff, List.not_mem_nil, false_and, exists_false, or_false,
    reads_caseless_iff, Spells]

private theorem reads_filler_iff :
    Reads (.opt (.seq (.many isFiller 1 none) (.many isSpace 1 none))) before w after ↔
      w = [] ∨ ∃ token gap, w = token ++ gap ∧ token ≠ [] ∧ (∀ c ∈ token, isFiller c = true) ∧
        Blank gap := by
  simp only [reads_opt_iff, reads_seq_iff, reads_many_one_iff, Blank, and_assoc]
  exact or_comm

private theorem reads_imageChange_iff :
    Reads (.seq
        (.group (oneOf [caseless "update", caseless "set", caseless "change", caseless "switch",
          caseless "bump"]))
        (.seq (.many isSpace 1 none) (.seq
          (.opt (.seq (.many isFiller 1 none) (.many isSpace 1 none)))
          (.seq (caseless "image") .boundary)))) before w after ↔
      ImageChange w ∧ Boundary (w.reverse ++ before) after := by
  simp only [@reads_seq_iff (.group _), @reads_seq_iff (.many isSpace 1 none),
    @reads_seq_iff (.opt _), reads_seq_boundary_iff, reads_group_iff, reads_imageVerb_iff,
    reads_many_one_iff, reads_filler_iff, reads_caseless_iff, ImageChange]
  constructor
  · rintro ⟨verb, t, rfl, hverb, gap, t', rfl, hgap, filler, image, rfl, hfiller, himage, hright⟩
    refine ⟨⟨verb, gap, filler, image, by simp, hverb, hgap, hfiller, himage⟩, ?_⟩
    simpa using hright
  · rintro ⟨⟨verb, gap, filler, image, rfl, hverb, hgap, hfiller, himage⟩, hright⟩
    refine ⟨verb, gap ++ (filler ++ image), by simp, hverb, gap, filler ++ image, rfl, hgap, filler,
      image, rfl, hfiller, himage, ?_⟩
    simpa using hright

/-- The verbs of the pattern. -/
private theorem reads_restartVerbs_iff :
    Reads restartVerbs before w after ↔
      Boundary before (w ++ after) ∧ Boundary (w.reverse ++ before) after ∧
        (BareVerb w ∨ ImageChange w) := by
  rw [restartVerbs, reads_alt_iff, reads_boundary_seq_iff, reads_boundary_seq_iff,
    reads_seq_boundary_iff, reads_group_iff, reads_bareVerb_iff, reads_imageChange_iff,
    ← and_or_left, ← or_and_right, @and_comm (BareVerb w ∨ ImageChange w)]

end Verbs

/-- The gate is open for the messages with a privileged verb form. -/
theorem test_restartVerbs_iff {message : String} :
    test restartVerbs message = true ↔ PrivilegedVerb message := by
  simp only [test_iff, reads_restartVerbs_iff, PrivilegedVerb]

/-- A DNS label but for the case of its letters: it starts with a letter, ends with a letter or a
digit and has at most 63 characters. -/
structure Label (isLetter : Char → Bool) (w : List Char) : Prop where
  nonempty : w ≠ []
  first : ∀ c ∈ w.head?, isLetter c = true
  chars : ∀ c ∈ w, (isLetter c || c.isDigit || c = '-') = true
  last : ∀ c ∈ w.getLast?, (isLetter c || c.isDigit) = true
  length : w.length ≤ 63

/-- A DNS-1123 label. -/
def IsDnsLabel (s : String) : Prop := Label Char.isLower s.toList

/-- A place of a message where a name follows `in` and white space. -/
def PhraseAt (before after w : List Char) : Prop :=
  ∃ word gap rest, after = word ++ gap ++ w ++ rest ∧ Boundary before after ∧ Spells word "in" ∧
    Blank gap ∧ Label Char.isAlpha w ∧ 2 ≤ w.length ∧
    ∀ w' rest', w ++ rest = w' ++ rest' → Label Char.isAlpha w' → w'.length ≤ w.length

/-- The first `in` with a name behind it has this name. -/
def HintsAt (message : String) (w : List Char) : Prop :=
  ∃ p rest, message.toList = p ++ rest ∧ PhraseAt p.reverse rest w ∧
    ∀ u v w', p = u ++ v → v ≠ [] → ¬PhraseAt u.reverse (v ++ rest) w'

section Names

variable {before after w w' : List Char} {isLetter : Char → Bool}

private theorem reads_dnsName_iff :
    Reads (dnsName isLetter) before w after ↔ Label isLetter w ∧ 2 ≤ w.length := by
  simp only [dnsName, Reads]
  constructor
  · rintro ⟨u, v, rfl, ⟨a, rfl, ha⟩, m, t, rfl, ⟨hm, -, hlength⟩, z, rfl, hz⟩
    have hbound : m.length ≤ 61 := hlength 61 rfl
    refine ⟨⟨by simp, by simpa using ha, ?_, ?_, ?_⟩, ?_⟩
    · intro c hc
      simp only [List.cons_append, List.nil_append, List.mem_cons, List.mem_append,
        List.not_mem_nil, or_false] at hc
      rcases hc with rfl | hc | rfl
      · simp [ha]
      · exact hm c hc
      · simp [hz]
    · intro c hc
      rw [← List.append_assoc, List.getLast?_concat, Option.mem_some_iff] at hc
      exact hc ▸ hz
    · simp only [List.length_append, List.length_cons, List.length_nil]
      omega
    · simp only [List.length_append, List.length_cons, List.length_nil]
      omega
  · rintro ⟨hlabel, htwo⟩
    cases w with
    | nil => simp at htwo
    | cons a t =>
      have ht : t ≠ [] := by
        rintro rfl
        simp at htwo
      obtain ⟨m, z, rfl⟩ := (List.eq_nil_or_concat' t).resolve_left ht
      have hlength := hlabel.length
      simp only [List.length_cons, List.length_append, List.length_nil] at hlength
      refine ⟨[a], m ++ [z], rfl, ⟨a, rfl, hlabel.first a rfl⟩, m, [z], rfl,
        ⟨?_, Nat.zero_le _, ?_⟩, z, rfl, ?_⟩
      · intro c hc
        exact hlabel.chars c (by simp [hc])
      · rintro n hn
        cases hn
        omega
      · apply hlabel.last z
        rw [← List.cons_append, List.getLast?_concat]
        rfl

private theorem greedy_dnsName : Greedy (dnsName isLetter) :=
  Greedy.ofLength_seq (Greedy.seq_ofLength (greedy_many _ _ _) (ofLength_set _)) (ofLength_set _)

/-- A place where the pattern matches has such a phrase, with the name that the group holds. -/
private theorem phraseAt_of_head? {e : Cursor}
    (h : (ends namespaceHint ⟨before, after, none⟩).head? = some e) :
    ∃ w, e.group = some w ∧ PhraseAt before after w := by
  obtain ⟨_, m₁, _, hends₁, -, h⟩ := head?_ends_seq h
  obtain ⟨_, m₂, _, hends₂, -, h⟩ := head?_ends_seq h
  obtain ⟨_, m₃, _, hends₃, -, h⟩ := head?_ends_seq h
  obtain ⟨passed, m₄, _, hends₄, hpassed, h⟩ := head?_ends_seq h
  obtain ⟨_, hafter₁, -, rfl, hboundary⟩ := reads_of_mem_ends (hends₁ ▸ List.mem_append_cons_self)
  obtain ⟨word, hafter₂, -, hword⟩ := reads_of_mem_ends (hends₂ ▸ List.mem_append_cons_self)
  obtain ⟨gap, hafter₃, -, hgap⟩ := reads_of_mem_ends (hends₃ ▸ List.mem_append_cons_self)
  obtain ⟨w, hafter₄, -, hw, hgroup⟩ :=
    group_of_mem_ends_group (hends₄ ▸ List.mem_append_cons_self)
  have hafter : after = m₁.after := hafter₁
  rw [reads_caseless_iff] at hword
  rw [reads_many_one_iff] at hgap
  rw [reads_dnsName_iff] at hw
  refine ⟨w, ?_, word, gap, m₄.after, ?_, ?_, hword, hgap, hw.1, hw.2, ?_⟩
  · rcases group_of_mem_ends (List.mem_of_mem_head? h) with hsame | ⟨x, hx, -⟩
    · rw [hsame, hgroup]
    · simp [groups, oneOf, caseless] at hx
  · rw [hafter, hafter₂, hafter₃, hafter₄]
    simp
  · rw [hafter]
    exact hboundary
  · intro w' rest' happend hw'
    by_cases htwo : 2 ≤ w'.length
    · -- What follows the name may be missing, so its preferred match is the one that counts.
      have hhead : (ends (.group (dnsName Char.isAlpha)) m₃).head? = some m₄ := by
        cases passed with
        | nil => rw [hends₄, List.nil_append, List.head?_cons]
        | cons x passed =>
          have hnil := hpassed x (List.mem_cons_self ..)
          simp [ends] at hnil
      obtain ⟨g, hmem⟩ := (@exists_mem_ends_iff (.group (dnsName Char.isAlpha)) m₃ _ _).mpr
        ⟨w', hafter₄.trans happend, rfl, reads_dnsName_iff.mpr ⟨hw', htwo⟩⟩
      have hle := (Greedy.group greedy_dnsName).length_le hhead hmem
      have hlength := congrArg List.length happend
      simp only [List.length_append] at hlength
      simp only at hle
      omega
    · omega

private theorem ends_namespaceHint_eq_nil_iff :
    ends namespaceHint ⟨before, after, none⟩ = [] ↔ ∀ w, ¬PhraseAt before after w := by
  constructor
  · rw [ends_eq_nil_iff]
    rintro h w ⟨word, gap, rest, rfl, hboundary, hword, hgap, hlabel, htwo, -⟩
    apply h (word ++ (gap ++ w)) rest (by simp)
    rw [namespaceHint, reads_boundary_seq_iff]
    refine ⟨by simpa using hboundary, word, gap ++ w, rfl, reads_caseless_iff.mpr hword, gap, w,
      rfl, reads_many_one_iff.mpr hgap, w, [], (List.append_nil w).symm, ?_, Or.inr rfl⟩
    exact reads_dnsName_iff.mpr ⟨hlabel, htwo⟩
  · intro h
    by_contra hne
    obtain ⟨e, es, hes⟩ := List.exists_cons_of_ne_nil hne
    obtain ⟨w, -, hphrase⟩ := phraseAt_of_head? (hes ▸ List.head?_cons)
    exact h w hphrase

/-- White space ends where a name begins. -/
private theorem gap_unique {gap gap' rest rest' : List Char} {c c' : Char} (hgap : Blank gap)
    (hgap' : Blank gap') (hc : isSpace c = false) (hc' : isSpace c' = false)
    (h : gap ++ c :: rest = gap' ++ c' :: rest') : gap = gap' := by
  have htake := congrArg (List.takeWhile isSpace) h
  rw [List.takeWhile_append_of_pos hgap.2, List.takeWhile_append_of_pos hgap'.2,
    List.takeWhile_cons_of_neg (by simp [hc]), List.takeWhile_cons_of_neg (by simp [hc'])] at htake
  simpa using htake

private theorem isUpper_iff {c : Char} : c.isUpper = true ↔ 65 ≤ c.toNat ∧ c.toNat ≤ 90 := by
  have hupper : c.isUpper = decide (c.val ≥ 65 ∧ c.val ≤ 90) := rfl
  rw [hupper, decide_eq_true_eq, ge_iff_le, UInt32.le_iff_toNat_le, UInt32.le_iff_toNat_le]
  rfl

private theorem isLower_iff {c : Char} : c.isLower = true ↔ 97 ≤ c.toNat ∧ c.toNat ≤ 122 := by
  have hlower : c.isLower = (decide (c.val ≥ 97) && decide (c.val ≤ 122)) := rfl
  rw [hlower, Bool.and_eq_true, decide_eq_true_eq, decide_eq_true_eq, ge_iff_le,
    UInt32.le_iff_toNat_le, UInt32.le_iff_toNat_le]
  rfl

private theorem isAlpha_iff {c : Char} :
    c.isAlpha = true ↔ 65 ≤ c.toNat ∧ c.toNat ≤ 90 ∨ 97 ≤ c.toNat ∧ c.toNat ≤ 122 := by
  show (c.isUpper || c.isLower) = true ↔ _
  rw [Bool.or_eq_true, isUpper_iff, isLower_iff]

private theorem isUpper_eq_false_iff {c : Char} :
    c.isUpper = false ↔ c.toNat < 65 ∨ 90 < c.toNat := by
  rw [← Bool.not_eq_true, isUpper_iff]
  omega

private theorem isSpace_of_isAlpha {c : Char} (h : c.isAlpha = true) : isSpace c = false := by
  rw [isAlpha_iff] at h
  simp [isSpace]
  omega

private theorem phraseAt_unique (h : PhraseAt before after w) (h' : PhraseAt before after w') :
    w = w' := by
  obtain ⟨word, gap, rest, rfl, -, hword, hgap, hlabel, -, hlongest⟩ := h
  obtain ⟨word', gap', rest', happend, -, hword', hgap', hlabel', -, hlongest'⟩ := h'
  have hlength : word.length = word'.length := by
    have hlower : (word.map Char.toLower).length = (word'.map Char.toLower).length := by
      rw [hword, hword']
    rwa [List.length_map, List.length_map] at hlower
  simp only [List.append_assoc] at happend
  obtain ⟨-, happend⟩ := List.append_inj happend hlength
  obtain ⟨c, t, rfl⟩ := List.exists_cons_of_ne_nil hlabel.nonempty
  obtain ⟨c', t', rfl⟩ := List.exists_cons_of_ne_nil hlabel'.nonempty
  have heq := gap_unique hgap hgap' (isSpace_of_isAlpha (hlabel.first c rfl))
    (isSpace_of_isAlpha (hlabel'.first c' rfl)) happend
  subst heq
  have hsame := List.append_cancel_left happend
  have hle := hlongest (c' :: t') rest' hsame hlabel'
  have hge := hlongest' (c :: t) rest hsame.symm hlabel
  exact (List.append_inj hsame (Nat.le_antisymm hge hle)).1

/-- The pattern finds the first name that follows `in`. -/
theorem exec_namespaceHint_iff {message : String} :
    (exec namespaceHint message).bind Cursor.group = some w ↔ HintsAt message w := by
  rw [Option.bind_eq_some_iff]
  constructor
  · rintro ⟨e, he, hgroup⟩
    obtain ⟨p, rest, happend, hhead, hearlier⟩ := firstFrom_eq_some he
    rw [List.append_nil] at hhead
    obtain ⟨w', hw', hphrase⟩ := phraseAt_of_head? hhead
    rw [hgroup, Option.some.injEq] at hw'
    subst hw'
    refine ⟨p, rest, happend, hphrase, ?_⟩
    intro u v w' hp hv
    have hnil := hearlier u v hp hv
    rw [List.append_nil] at hnil
    exact ends_namespaceHint_eq_nil_iff.mp hnil w'
  · rintro ⟨p, rest, happend, hphrase, hearlier⟩
    have hne : ends namespaceHint ⟨p.reverse, rest, none⟩ ≠ [] := by
      rw [ne_eq, ends_namespaceHint_eq_nil_iff]
      intro hnone
      exact hnone w hphrase
    obtain ⟨e, es, hes⟩ := List.exists_cons_of_ne_nil hne
    obtain ⟨w', hgroup, hphrase'⟩ := phraseAt_of_head? (hes ▸ List.head?_cons)
    refine ⟨e, ?_, phraseAt_unique hphrase hphrase' ▸ hgroup⟩
    rw [exec, happend, firstFrom_append, List.append_nil, firstFrom_of_ends hes]
    intro u v hp hv
    rw [List.append_nil]
    exact ends_namespaceHint_eq_nil_iff.mpr fun w' ↦ hearlier u v w' hp hv

end Names

section Answers

variable {lower : LowerCase} {message : String} {w : List Char} {n t deployment : String}
  {nameSpace : Option String} {reasonHint : List Nat}

private theorem label_of_hintsAt (h : HintsAt message w) : Label Char.isAlpha w := by
  obtain ⟨-, -, -, ⟨-, -, -, -, -, -, -, hlabel, -⟩, -⟩ := h
  exact hlabel

private theorem toLowerCase_of_label (h : Label Char.isAlpha n.toList) :
    lower.toLowerCase n = n.map Char.toLower := by
  apply lower.ascii
  intro c hc
  have hchar := h.chars c hc
  simp only [Bool.or_eq_true, decide_eq_true_eq, isAlpha_iff, Char.isDigit_iff_toNat] at hchar
  rcases hchar with (hletter | ⟨-, hdigit⟩) | rfl
  · omega
  · exact Nat.lt_of_le_of_lt hdigit (by decide)
  · decide

/-- The namespace is the first name that is hinted at, unless that is a stop word in some case. -/
theorem namespaceOf_eq_some_iff :
    namespaceOf lower message = some n ↔
      HintsAt message n.toList ∧ n.map Char.toLower ∉ stopWords := by
  have hfound : ((exec namespaceHint message).bind Cursor.group).map String.ofList = some n ↔
      HintsAt message n.toList := by
    rw [← exec_namespaceHint_iff, Option.map_eq_some_iff]
    constructor
    · rintro ⟨w, hw, rfl⟩
      rw [hw, String.toList_ofList]
    · intro h
      exact ⟨n.toList, h, String.ofList_toList⟩
  rw [namespaceOf, ← hfound]
  split
  · next hnone => simp [hnone]
  · next name hname =>
    rw [hname] at hfound ⊢
    by_cases heq : name = n
    · subst heq
      have hlower := @toLowerCase_of_label lower name (label_of_hintsAt (hfound.mp rfl))
      rw [hlower]
      by_cases hstop : name.map Char.toLower ∈ stopWords
      · simp [hstop]
      · have hthe : name.map Char.toLower ≠ "the" := by
          intro hthe
          exact hstop (hthe ▸ by decide)
        simp [hstop, hthe]
    · rw [Option.some.injEq]
      split
      · simp [heq]
      · simp [heq]

/-- A label in any case is one of DNS-1123 when it has no upper-case letter. -/
private theorem isDnsLabel_iff (h : Label Char.isAlpha n.toList) :
    IsDnsLabel n ↔ ∀ c ∈ n.toList, c.isUpper = false := by
  constructor
  · intro hlabel c hc
    have hchar := hlabel.chars c hc
    rw [Bool.or_eq_true, Bool.or_eq_true, decide_eq_true_eq] at hchar
    rw [isUpper_eq_false_iff]
    rcases hchar with (hlower | hdigit) | rfl
    · have hge := (isLower_iff.mp hlower).1
      omega
    · rw [Char.isDigit_iff_toNat] at hdigit
      exact Or.inl (Nat.lt_of_le_of_lt hdigit.2 (by decide))
    · decide
  · intro hupper
    have hletter : ∀ c ∈ n.toList, c.isAlpha = c.isLower := by
      intro c hc
      show (c.isUpper || c.isLower) = c.isLower
      rw [hupper c hc, Bool.false_or]
    refine ⟨h.nonempty, ?_, ?_, ?_, h.length⟩
    · intro c hc
      rw [← hletter c (List.mem_of_mem_head? hc)]
      exact h.first c hc
    · intro c hc
      rw [← hletter c hc]
      exact h.chars c hc
    · intro c hc
      rw [← hletter c (List.mem_of_mem_getLast? hc)]
      exact h.last c hc

private theorem map_toLower_eq_self (h : ∀ c ∈ n.toList, c.isUpper = false) :
    n.map Char.toLower = n := by
  rw [← String.toList_inj, String.toList_map, ← List.map_id n.toList, List.map_map]
  apply List.map_congr_left
  intro c hc
  have hupper : ¬(c.val ≥ 65 ∧ c.val ≤ 90) := of_decide_eq_false (h c hc)
  exact dif_neg hupper

/-- The tokens are the labels of the lower-cased message. -/
private theorem of_mem_nameTokens (h : t ∈ nameTokens lower message) :
    IsDnsLabel t ∧ includes (lower.toLowerCase message) t = true := by
  obtain ⟨p, rest, happend, hread⟩ := reads_of_mem_matchAll h
  refine ⟨(reads_dnsName_iff.mp hread).1, includes_iff.mpr ⟨p, rest, happend.symm⟩⟩

/-- When the router sends a message to the specialist, and what it sends along. -/
theorem detectIntent_eq_restart_iff :
    detectIntent lower message = .restart deployment nameSpace reasonHint ↔
      PrivilegedVerb message ∧ (nameTokens lower message).find? isTarget = some deployment ∧
        nameSpace = namespaceOf lower message ∧
        reasonHint = (codeUnits (trim message)).take 256 := by
  have hnonempty : ((nameTokens lower message).find? isTarget).filter (· ≠ "") =
      (nameTokens lower message).find? isTarget := by
    cases hfind : (nameTokens lower message).find? isTarget with
    | none => rfl
    | some t =>
      have hlabel := (of_mem_nameTokens (List.mem_of_find?_eq_some hfind)).1
      have hne : t ≠ "" := by
        rintro rfl
        exact hlabel.nonempty rfl
      rw [Option.filter_some, if_pos (decide_eq_true hne)]
  rw [detectIntent, hnonempty, ← test_restartVerbs_iff]
  by_cases hverb : test restartVerbs message = true
  · rw [if_neg (not_not.mpr hverb)]
    cases (nameTokens lower message).find? isTarget with
    | none => simp
    | some t => simp [hverb, eq_comm]
  · simp [hverb]

/-- What an answer promises: a privileged verb, the label of a deployment from the message, and the
label of a namespace if there is one. -/
structure Promised (lower : LowerCase) (message deployment : String)
    (nameSpace : Option String) : Prop where
  verb : PrivilegedVerb message
  label : IsDnsLabel deployment
  occurs : includes (lower.toLowerCase message) deployment = true
  notStopWord : deployment ∉ stopWords
  notVersion : versionShaped deployment = false
  nameSpace : ∀ n ∈ nameSpace, IsDnsLabel n ∧ n ∉ stopWords

/-- The router answers `restart` as promised, and `inspect` without a privileged verb. -/
def RoutesAsPromised (lower : LowerCase) (message : String) : Prop :=
  (∀ deployment nameSpace reasonHint,
    detectIntent lower message = .restart deployment nameSpace reasonHint →
      Promised lower message deployment nameSpace) ∧
    (¬PrivilegedVerb message → detectIntent lower message = .inspect)

/-- The message has a privileged verb and a deployment, and the first name that follows `in` is no
stop word in any case and has an upper-case letter. -/
def HintsAtUpperCase (lower : LowerCase) (message : String) : Prop :=
  PrivilegedVerb message ∧ (∃ t ∈ nameTokens lower message, isTarget t = true) ∧
    ∃ n : String, HintsAt message n.toList ∧ n.map Char.toLower ∉ stopWords ∧
      ∃ c ∈ n.toList, c.isUpper = true

end Answers

/-- The router keeps its promises except for a namespace that is not in lower case. -/
theorem routesAsPromised_iff {lower : LowerCase} {message : String} :
    RoutesAsPromised lower message ↔ ¬HintsAtUpperCase lower message := by
  constructor
  · rintro ⟨hrestart, -⟩ ⟨hverb, ⟨t, ht, htarget⟩, n, hhint, hstop, c, hc, hupper⟩
    obtain ⟨deployment, hfind⟩ := Option.isSome_iff_exists.mp
      (List.find?_isSome.mpr ⟨t, ht, htarget⟩)
    have hname := (@namespaceOf_eq_some_iff lower _ _).mpr ⟨hhint, hstop⟩
    have hpromised := hrestart deployment _ _
      (detectIntent_eq_restart_iff.mpr ⟨hverb, hfind, rfl, rfl⟩)
    have hlabel := (hpromised.nameSpace n hname).1
    have hfalse := (isDnsLabel_iff (label_of_hintsAt hhint)).mp hlabel c hc
    rw [hupper] at hfalse
    cases hfalse
  · intro hlower
    constructor
    · intro deployment nameSpace reasonHint h
      obtain ⟨hverb, hfind, rfl, -⟩ := detectIntent_eq_restart_iff.mp h
      have hmem := List.mem_of_find?_eq_some hfind
      have htarget := List.find?_some hfind
      obtain ⟨hlabel, hoccurs⟩ := of_mem_nameTokens hmem
      simp only [isTarget, Bool.and_eq_true, Bool.not_eq_true', List.contains_eq_mem,
        decide_eq_false_iff_not] at htarget
      refine ⟨hverb, hlabel, hoccurs, htarget.1.1, htarget.2, ?_⟩
      intro n hn
      obtain ⟨hhint, hstop⟩ := namespaceOf_eq_some_iff.mp hn
      have hnoUpper : ∀ c ∈ n.toList, c.isUpper = false := by
        intro c hc
        by_contra hupper
        exact hlower ⟨hverb, ⟨deployment, hmem, List.find?_some hfind⟩, n, hhint, hstop, c, hc,
          eq_true_of_ne_false hupper⟩
      rw [map_toLower_eq_self hnoUpper] at hstop
      exact ⟨(isDnsLabel_iff (label_of_hintsAt hhint)).mpr hnoUpper, hstop⟩
    · intro hverb
      rw [← test_restartVerbs_iff] at hverb
      rw [detectIntent, if_pos hverb]

section Sample

private def asciiLower : LowerCase where
  toLowerCase s := String.ofList (s.toList.map Char.toLower)
  ascii s _ := by rw [← String.toList_inj, String.toList_ofList, String.toList_map]

/-- A namespace is handed on in the case in which it was written. -/
theorem namespace_keeps_its_case :
    ¬ ∀ (lower : LowerCase) (message : String), RoutesAsPromised lower message := by
  intro h
  have hprod : detectIntent asciiLower "restart api-gateway in PROD" =
      .restart "api-gateway" (some "PROD")
        ((codeUnits (trim "restart api-gateway in PROD")).take 256) := by
    rfl
  have hlabel := (((h asciiLower "restart api-gateway in PROD").1 _ _ _ hprod).nameSpace
    "PROD" rfl).1
  exact absurd (hlabel.first 'P' rfl) (by decide)

end Sample

end AgentsAuth.Copilot
