import AgentsAuth.Lib.PercentEncoding
import AgentsAuth.Lib.Words
import Mathlib.Data.List.DropRight

/-!
# The path and the query of a web URL

What a URL parser makes of the part of an `http:` URL behind its authority: the segments of the
path without dot segments, and the query. A path that is put together from encoded segments is
read as these segments, dot segments apart, and a query that follows it is read as it is.
-/

namespace AgentsAuth.Lib

/-- What `encodeURIComponent` keeps: ASCII letters and digits, and `-_.!~*'()`. -/
def keepComponent (c : Char) : Bool :=
  (48 ≤ c.toNat && c.toNat ≤ 57) || (65 ≤ c.toNat && c.toNat ≤ 90) ||
    (97 ≤ c.toNat && c.toNat ≤ 122) ||
    [0x21, 0x27, 0x28, 0x29, 0x2A, 0x2D, 0x2E, 0x5F, 0x7E].contains c.toNat

/-- `encodeURIComponent(s)`. -/
def encodeURIComponent (s : String) : String := percentEncode keepComponent s

/-- What a URL parser keeps in a path: neither `\"`, `#`, `<`, `>`, `?`, `^`, `` ` ``, `{`, `}` nor
anything that is not printable ASCII. -/
def keepPath (c : Char) : Bool :=
  0x20 < c.toNat && c.toNat < 0x7F &&
    !([0x22, 0x23, 0x3C, 0x3E, 0x3F, 0x5E, 0x60, 0x7B, 0x7D].contains c.toNat)

/-- What it keeps in the query of an `http:` URL. -/
def keepQuery (c : Char) : Bool :=
  0x20 < c.toNat && c.toNat < 0x7F && !([0x22, 0x23, 0x27, 0x3C, 0x3E].contains c.toNat)

/-- What a request for a URL names: the segments of its path and its query. -/
structure UrlTarget where
  path : List String
  query : Option String
deriving DecidableEq

/-- Both slashes separate the segments of an `http:` URL. -/
def isSlash (c : Char) : Bool := c = '/' || c = '\\'

/-- A character that ends the path. -/
def endsPath (c : Char) : Bool := c = '?' || c = '#'

/-- A tab or a newline, which a URL parser removes anywhere. -/
def isTabOrNewline (c : Char) : Bool := c = '\t' || c = '\n' || c = '\r'

/-- A space or a control character, which a URL parser removes at the ends. -/
def isControlOrSpace (c : Char) : Bool := c.toNat ≤ 0x20

/-- The ways to write a dot in a dot segment. -/
def dots : List String := [".", "%2e", "%2E"]

/-- A segment for the directory itself. -/
def singleDot (segment : String) : Bool := dots.contains segment

/-- A segment for the directory above. -/
def doubleDot (segment : String) : Bool :=
  (dots.flatMap fun a ↦ dots.map fun b ↦ a ++ b).contains segment

/-- The segments of a path behind those that have been read. -/
def resolveDots : List String → List String → List String
  | path, [] => path ++ [""]
  | path, [segment] =>
    if doubleDot segment then path.dropLast ++ [""]
    else if singleDot segment then path ++ [""]
    else path ++ [segment]
  | path, segment :: next :: rest =>
    if doubleDot segment then resolveDots path.dropLast (next :: rest)
    else if singleDot segment then resolveDots path (next :: rest)
    else resolveDots (path ++ [segment]) (next :: rest)

/-- The target of a URL from what stands behind its authority. -/
def urlTarget (tail : String) : UrlTarget :=
  let cs := (tail.toList.filter fun c ↦ !isTabOrNewline c).rdropWhile isControlOrSpace
  let segments := ((cs.takeWhile fun c ↦ !endsPath c).splitOnP isSlash).drop 1
  { path := resolveDots [] (segments.map fun segment ↦
      percentEncode keepPath (String.ofList segment))
    query :=
      match cs.dropWhile fun c ↦ !endsPath c with
      | '?' :: rest => some (percentEncode keepQuery (String.ofList (rest.takeWhile (· ≠ '#'))))
      | _ => none }

/-- A character that the parser takes for part of a segment. -/
structure IsPlain (c : Char) : Prop where
  slash : isSlash c = false
  ends : endsPath c = false
  control : isControlOrSpace c = false
  kept : keepPath c = true

section Component

variable {c d : Char}

/-- A character of an encoded component. -/
def IsComponentChar (c : Char) : Prop := keepComponent c = true ∨ c = '%'

/-- The digits of an escape are kept as well. -/
theorem isComponentChar_of_isEscapeChar (h : IsEscapeChar c) : IsComponentChar c := by
  rcases h with h | h
  · exact Or.inr h
  · left
    unfold hexValue at h
    simp only [keepComponent, Bool.or_eq_true, Bool.and_eq_true, decide_eq_true_eq]
    split at h
    · omega
    · split at h
      · omega
      · split at h
        · omega
        · exact absurd rfl h

/-- An encoding that keeps nothing else has such characters only. -/
theorem isComponentChar_of_mem {keep : Char → Bool} {s : String}
    (hkeep : ∀ c, keep c = true → keepComponent c = true)
    (h : c ∈ (percentEncode keep s).toList) : IsComponentChar c := by
  rcases mem_percentEncode h with h | h
  · exact Or.inl (hkeep c h)
  · exact isComponentChar_of_isEscapeChar h

/-- A character that a component escapes is not in it. -/
theorem IsComponentChar.ne (h : IsComponentChar c) (hd : keepComponent d = false) (hne : d ≠ '%') :
    c ≠ d := by
  rintro rfl
  rcases h with h | h
  · rw [hd] at h
    cases h
  · exact hne h

/-- A segment may have any of these characters. -/
theorem IsComponentChar.isPlain (h : IsComponentChar c) : IsPlain c := by
  have hrange : 0x20 < c.toNat ∧ keepPath c = true := by
    rcases h with h | rfl
    · simp only [keepComponent, Bool.or_eq_true, Bool.and_eq_true, decide_eq_true_eq,
        List.contains_eq_mem, List.mem_cons, List.not_mem_nil, or_false] at h
      simp only [keepPath, Bool.and_eq_true, decide_eq_true_eq, Bool.not_eq_true',
        List.contains_eq_mem, decide_eq_false_iff_not, List.mem_cons, List.not_mem_nil, or_false]
      omega
    · decide
  constructor
  · rw [isSlash, decide_eq_false (h.ne rfl (by decide)), decide_eq_false (h.ne rfl (by decide))]
    rfl
  · rw [endsPath, decide_eq_false (h.ne rfl (by decide)), decide_eq_false (h.ne rfl (by decide))]
    rfl
  · rw [isControlOrSpace, decide_eq_false]
    omega
  · exact hrange.2

/-- The query of a URL keeps escapes. -/
theorem keepQuery_of_isEscapeChar (h : IsEscapeChar c) : keepQuery c = true := by
  rcases h with rfl | h
  · rfl
  · unfold hexValue at h
    simp only [keepQuery, Bool.and_eq_true, decide_eq_true_eq, Bool.not_eq_true',
      List.contains_eq_mem, decide_eq_false_iff_not, List.mem_cons, List.not_mem_nil, or_false]
    split at h
    · omega
    · split at h
      · omega
      · split at h
        · omega
        · exact absurd rfl h

end Component

section Dots

/-- A segment that is no dot segment. -/
def IsOrdinary (segment : String) : Prop := singleDot segment = false ∧ doubleDot segment = false

/-- Ordinary segments are read as they are. -/
theorem resolveDots_append {path segments : List String} (h : ∀ s ∈ segments, IsOrdinary s)
    (hne : segments ≠ []) : resolveDots path segments = path ++ segments := by
  induction segments generalizing path with
  | nil => exact absurd rfl hne
  | cons segment rest ih =>
    obtain ⟨hsingle, hdouble⟩ := h segment (List.mem_cons_self ..)
    cases rest with
    | nil => simp only [resolveDots, hsingle, hdouble, Bool.false_eq_true, if_false]
    | cons next rest =>
      simp only [resolveDots, hsingle, hdouble, Bool.false_eq_true, if_false]
      rw [ih (fun s hs ↦ h s (List.mem_cons_of_mem segment hs)) (List.cons_ne_nil next rest),
        List.append_assoc, List.singleton_append]

variable {keep : Char → Bool}

private theorem percentDecode_eq {s t : String} (hunescape : unescape s.toList = unescape t.toList)
    (ht : '%' ∉ t.toList) : percentDecode s = some t := by
  have hdecode := percentDecode_eq_self ht
  rw [percentDecode] at hdecode ⊢
  rw [hunescape, hdecode]

private theorem percentDecode_singleDot {s : String} (h : singleDot s = true) :
    percentDecode s = some "." := by
  have hall : ∀ s ∈ dots, unescape s.toList = unescape ".".toList := by decide
  exact percentDecode_eq (hall s (List.contains_iff_mem.mp h)) (by decide)

private theorem percentDecode_doubleDot {s : String} (h : doubleDot s = true) :
    percentDecode s = some ".." := by
  have hall : ∀ s ∈ dots.flatMap fun a ↦ dots.map fun b ↦ a ++ b,
      unescape s.toList = unescape "..".toList := by decide
  exact percentDecode_eq (hall s (List.contains_iff_mem.mp h)) (by decide)

/-- An encoding that keeps `.` and escapes `%` is a dot segment only of a dot segment. -/
theorem isOrdinary_percentEncode (hpercent : keep '%' = false) {s : String} (hdot : s ≠ ".")
    (hdots : s ≠ "..") : IsOrdinary (percentEncode keep s) := by
  have hdecode := percentDecode_percentEncode hpercent s
  constructor
  · apply eq_false_of_ne_true
    intro h
    rw [percentDecode_singleDot h, Option.some.injEq] at hdecode
    exact hdot hdecode.symm
  · apply eq_false_of_ne_true
    intro h
    rw [percentDecode_doubleDot h, Option.some.injEq] at hdecode
    exact hdots hdecode.symm

end Dots

section Target

variable {segments : List String} {query : String}

private theorem isTabOrNewline_eq_false {c : Char} (h : isControlOrSpace c = false) :
    isTabOrNewline c = false := by
  apply eq_false_of_ne_true
  intro htab
  have hcontrol : isControlOrSpace c = true := by
    simp only [isTabOrNewline, Bool.or_eq_true, decide_eq_true_eq] at htab
    rcases htab with (rfl | rfl) | rfl
    · decide
    · decide
    · decide
  rw [hcontrol] at h
  cases h

private theorem trimmed_eq_self {cs : List Char} (h : ∀ c ∈ cs, isControlOrSpace c = false) :
    (cs.filter fun c ↦ !isTabOrNewline c).rdropWhile isControlOrSpace = cs := by
  have hfilter : (cs.filter fun c ↦ !isTabOrNewline c) = cs := by
    rw [List.filter_eq_self]
    intro c hc
    rw [isTabOrNewline_eq_false (h c hc)]
    rfl
  rw [hfilter, List.rdropWhile_eq_self_iff]
  intro hne hlast
  rw [h _ (List.getLast_mem hne)] at hlast
  cases hlast

/-- A joined text has no other characters than its pieces and the separator. -/
theorem mem_intercalate {sep c : Char} {pieces : List String}
    (h : c ∈ ((String.singleton sep).intercalate pieces).toList) :
    c = sep ∨ ∃ s ∈ pieces, c ∈ s.toList := by
  induction pieces with
  | nil => simp at h
  | cons s rest ih =>
    cases rest with
    | nil =>
      rw [String.intercalate_singleton] at h
      exact Or.inr ⟨s, List.mem_cons_self .., h⟩
    | cons s' rest =>
      rw [String.intercalate_cons_cons, String.toList_append, String.toList_append,
        String.toList_singleton] at h
      rcases List.mem_append.mp h with h | h
      · rcases List.mem_append.mp h with h | h
        · exact Or.inr ⟨s, List.mem_cons_self .., h⟩
        · exact Or.inl (List.mem_singleton.mp h)
      · rcases ih h with h | ⟨t, ht, hc⟩
        · exact Or.inl h
        · exact Or.inr ⟨t, List.mem_cons_of_mem s ht, hc⟩

/-- A URL that is put together from plain segments and a query is read as these. -/
theorem urlTarget_eq (hne : segments ≠ [])
    (hpath : ∀ s ∈ segments, ∀ c ∈ s.toList, IsPlain c)
    (hquery : ∀ c ∈ query.toList, c ≠ '#' ∧ isControlOrSpace c = false) :
    urlTarget ("/" ++ "/".intercalate segments ++ "?" ++ query) =
      ⟨resolveDots [] segments, some (percentEncode keepQuery query)⟩ := by
  have hslashed : "/" ++ "/".intercalate segments = "/".intercalate ("" :: segments) := by
    obtain ⟨s, rest, rfl⟩ := List.exists_cons_of_ne_nil hne
    rw [String.intercalate_cons_cons, String.empty_append]
  have hplain : ∀ c ∈ ("/".intercalate ("" :: segments)).toList,
      endsPath c = false ∧ isControlOrSpace c = false := by
    intro c hc
    rcases @mem_intercalate '/' c _ hc with rfl | ⟨s, hs, hc⟩
    · decide
    · rcases List.mem_cons.mp hs with rfl | hs
      · cases hc
      · exact ⟨(hpath s hs c hc).ends, (hpath s hs c hc).control⟩
  have hpieces : ((("/".intercalate ("" :: segments)).toList).splitOnP isSlash).map String.ofList =
      "" :: segments := by
    apply @piecesBy_intercalate isSlash '/' rfl _ (List.cons_ne_nil "" segments)
    intro s hs c hc
    rcases List.mem_cons.mp hs with rfl | hs
    · cases hc
    · exact (hpath s hs c hc).slash
  have hencoded : segments.map (percentEncode keepPath) = segments := by
    conv_rhs => rw [← List.map_id segments]
    apply List.map_congr_left
    intro s hs
    exact percentEncode_eq_self fun c hc ↦ (hpath s hs c hc).kept
  have hfragment : query.toList.takeWhile (· ≠ '#') = query.toList := by
    rw [List.takeWhile_eq_self_iff]
    intro c hc
    exact decide_eq_true (hquery c hc).1
  rw [hslashed, urlTarget]
  generalize "/".intercalate ("" :: segments) = path at hplain hpieces
  have hcs : (path ++ "?" ++ query).toList = path.toList ++ '?' :: query.toList := by simp
  have hcontrol : ∀ c ∈ path.toList ++ '?' :: query.toList, isControlOrSpace c = false := by
    intro c hc
    rcases List.mem_append.mp hc with hc | hc
    · exact (hplain c hc).2
    · rcases List.mem_cons.mp hc with rfl | hc
      · decide
      · exact (hquery c hc).2
  have hbefore : ∀ c ∈ path.toList, (!endsPath c) = true := by
    intro c hc
    rw [(hplain c hc).1]
    rfl
  have htake : (path.toList ++ '?' :: query.toList).takeWhile (fun c ↦ !endsPath c) =
      path.toList := by
    rw [List.takeWhile_append_of_pos hbefore, List.takeWhile_cons]
    simp [endsPath]
  have hdrop : (path.toList ++ '?' :: query.toList).dropWhile (fun c ↦ !endsPath c) =
      '?' :: query.toList := by
    rw [List.dropWhile_append_of_pos hbefore, List.dropWhile_cons]
    simp [endsPath]
  have hsegments : ((path.toList.splitOnP isSlash).drop 1).map (fun segment ↦
      percentEncode keepPath (String.ofList segment)) = segments := by
    have hdropped := congrArg (List.drop 1) hpieces
    rw [← List.map_drop, List.drop_one, List.drop_one, List.tail_cons] at hdropped
    rw [List.drop_one, ← hencoded, ← hdropped, List.map_map]
    rfl
  simp only [hcs, trimmed_eq_self hcontrol, htake, hdrop, hsegments, hfragment,
    String.ofList_toList]

end Target

end AgentsAuth.Lib
