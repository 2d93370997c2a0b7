import AgentsAuth.Lib.Words

/-!
# Header lists

The `Headers` class of the Fetch API: a list of fields whose names are tokens, kept in
lower case, and whose values are byte strings without surrounding white space, NUL or
line breaks. A list that breaks this cannot be built; the class throws.
-/

namespace AgentsAuth.Base

open AgentsAuth.Lib

/-- A character of a field name. -/
def isTokenChar (c : Char) : Bool :=
  c.isAlphanum || [0x21, 0x23, 0x24, 0x25, 0x26, 0x27, 0x2A, 0x2B, 0x2D, 0x2E, 0x5E, 0x5F, 0x60,
    0x7C, 0x7E].contains c.toNat

/-- A field name. -/
def isHeaderName (name : String) : Bool := name ≠ "" && name.toList.all isTokenChar

/-- A field name in lower case. -/
def lowerName (name : String) : String := String.ofList (name.toList.map Char.toLower)

/-- A character of a field value. -/
def isValueChar (c : Char) : Bool := c.toNat < 256 && !([0x0, 0xA, 0xD].contains c.toNat)

/-- The white space that is removed around a value. -/
def isHttpSpace (c : Char) : Bool := [0x9, 0xA, 0xD, 0x20].contains c.toNat

/-- Whether a server can set a header to a value; Node throws at any other character. -/
def headerSafe (value : String) : Bool :=
  value.toList.all fun c ↦
    c = '\t' || (0x20 ≤ c.toNat && c.toNat ≤ 0x7e) || (0x80 ≤ c.toNat && c.toNat ≤ 0xff)

/-- A value without the white space around it. -/
def normalizeValue (value : String) : String :=
  String.ofList (((value.toList.dropWhile isHttpSpace).reverse.dropWhile isHttpSpace).reverse)

/-- The fields of a `Headers` object in order. -/
structure Headers where
  fields : List (String × String)
  valid : ∀ f ∈ fields, isHeaderName f.1 = true ∧ f.2.toList.all isValueChar = true

namespace Headers

/-- `new Headers()`. -/
def empty : Headers := ⟨[], by simp⟩

/-- `headers.append(name, value)`; `none` where it throws. -/
def append (headers : Headers) (name value : String) : Option Headers :=
  if h : isHeaderName (lowerName name) = true ∧
      (normalizeValue value).toList.all isValueChar = true then
    some ⟨headers.fields ++ [(lowerName name, normalizeValue value)], by
      intro f hf
      rcases List.mem_append.mp hf with hf | hf
      · exact headers.valid f hf
      · rw [List.mem_singleton.mp hf]
        exact h⟩
  else none

/-- `headers.get(name)`. -/
def get (headers : Headers) (name : String) : Option String :=
  match (headers.fields.filter fun f ↦ f.1 = lowerName name).map Prod.snd with
  | [] => none
  | values => some (", ".intercalate values)

private def setFields (name value : String) : List (String × String) → List (String × String)
  | [] => [(name, value)]
  | f :: rest =>
    if f.1 = name then (name, value) :: rest.filter fun g ↦ g.1 ≠ name
    else f :: setFields name value rest

private theorem mem_setFields {name value : String} {fields : List (String × String)}
    {f : String × String} (h : f ∈ setFields name value fields) :
    f = (name, value) ∨ f ∈ fields := by
  induction fields with
  | nil => exact Or.inl (List.mem_singleton.mp h)
  | cons g rest ih =>
    rw [setFields] at h
    split at h
    · rcases List.mem_cons.mp h with h | h
      · exact Or.inl h
      · exact Or.inr (List.mem_cons_of_mem _ (List.mem_of_mem_filter h))
    · rcases List.mem_cons.mp h with rfl | h
      · exact Or.inr List.mem_cons_self
      · rcases ih h with h | h
        · exact Or.inl h
        · exact Or.inr (List.mem_cons_of_mem _ h)

/-- `headers.set(name, value)`; `none` where it throws. -/
def set (headers : Headers) (name value : String) : Option Headers :=
  if h : isHeaderName (lowerName name) = true ∧
      (normalizeValue value).toList.all isValueChar = true then
    some ⟨setFields (lowerName name) (normalizeValue value) headers.fields, by
      intro f hf
      rcases mem_setFields hf with rfl | hf
      · exact h
      · exact headers.valid f hf⟩
  else none

private theorem filter_setFields_self (name value : String) (fields : List (String × String)) :
    (setFields name value fields).filter (fun f ↦ f.1 = name) = [(name, value)] := by
  induction fields with
  | nil => simp [setFields]
  | cons g rest ih =>
    rw [setFields]
    split
    · simp [List.filter_filter]
    · next hne => simp [hne, ih]

private theorem filter_setFields_ne {name other : String} (value : String)
    (fields : List (String × String)) (h : other ≠ name) :
    (setFields name value fields).filter (fun f ↦ f.1 = other) =
      fields.filter fun f ↦ f.1 = other := by
  induction fields with
  | nil => simp [setFields, h.symm]
  | cons g rest ih =>
    rw [setFields]
    split
    · next heq =>
      rw [List.filter_cons_of_neg (by simpa using h.symm),
        List.filter_cons_of_neg (by simpa [heq] using h.symm), List.filter_filter]
      apply List.filter_congr
      intro f _
      by_cases hf : f.1 = other
      · simp [hf, h]
      · simp [hf]
    · rw [List.filter_cons, List.filter_cons, ih]

/-- A value set is read back. -/
theorem get_set_self {headers headers' : Headers} {name value : String}
    (h : headers.set name value = some headers') :
    headers'.get name = some (normalizeValue value) := by
  unfold set at h
  split at h
  · cases h
    simp only [get, filter_setFields_self]
    rw [List.map_cons, List.map_nil]
    exact congrArg some String.intercalate_singleton
  · cases h

/-- Setting one name leaves the others alone. -/
theorem get_set_ne {headers headers' : Headers} {name value other : String}
    (h : headers.set name value = some headers') (hne : lowerName other ≠ lowerName name) :
    headers'.get other = headers.get other := by
  unfold set at h
  split at h
  · cases h
    simp only [get, filter_setFields_ne _ _ hne]
  · cases h

/-- A valid value is set. -/
theorem exists_set {name value : String} (headers : Headers)
    (hname : isHeaderName (lowerName name) = true)
    (hvalue : (normalizeValue value).toList.all isValueChar = true) :
    ∃ headers', headers.set name value = some headers' :=
  ⟨_, dif_pos ⟨hname, hvalue⟩⟩

private theorem all_intercalate {p : Char → Bool} {sep : List Char} {values : List (List Char)}
    (hsep : sep.all p = true) (h : ∀ value ∈ values, value.all p = true) :
    (sep.intercalate values).all p = true := by
  induction values with
  | nil => rfl
  | cons value values ih =>
    have hvalue := h value List.mem_cons_self
    have hrest := ih fun v hv ↦ h v (List.mem_cons_of_mem _ hv)
    cases values with
    | nil => simpa using hvalue
    | cons next values =>
      rw [List.intercalate_cons_cons, List.all_append, List.all_append, hvalue, hsep, hrest]
      rfl

/-- What is read consists of characters of values. -/
theorem all_isValueChar_of_get {headers : Headers} {name value : String}
    (h : headers.get name = some value) : value.toList.all isValueChar = true := by
  unfold get at h
  split at h
  · cases h
  · next values _ =>
    cases h
    rw [String.toList_intercalate]
    apply all_intercalate (by decide)
    intro v hv
    obtain ⟨value, hvalue, rfl⟩ := List.mem_map.mp hv
    obtain ⟨f, hf, rfl⟩ := List.mem_map.mp hvalue
    exact (headers.valid f (List.mem_of_mem_filter hf)).2

end Headers

private theorem dropWhile_eq_self {p : Char → Bool} {cs : List Char}
    (h : ∀ c, cs.head? = some c → p c = false) : cs.dropWhile p = cs := by
  cases cs with
  | nil => rfl
  | cons c cs => rw [List.dropWhile_cons, h c rfl, if_neg Bool.false_ne_true]

/-- A value without white space at its ends is kept. -/
theorem normalizeValue_eq_self {value : String}
    (hfirst : ∀ c, value.toList.head? = some c → isHttpSpace c = false)
    (hlast : ∀ c, value.toList.getLast? = some c → isHttpSpace c = false) :
    normalizeValue value = value := by
  rw [normalizeValue, dropWhile_eq_self hfirst, dropWhile_eq_self, List.reverse_reverse,
    String.ofList_toList]
  intro c hc
  rw [List.head?_reverse] at hc
  exact hlast c hc

end AgentsAuth.Base
