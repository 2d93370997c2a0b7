import Mathlib.Data.List.Basic

/-!
# Percent-encoding

A text with some of its characters written as the escapes of their UTF-8 bytes, and the text that
such an encoding stands for. What is kept unescaped is a parameter; encodings compose, and decoding
undoes each of them that escapes `%`.
-/

namespace AgentsAuth.Lib

/-- The digit for a number below sixteen. -/
def hexDigit (n : Nat) : Char := Char.ofNat (if n < 10 then 48 + n else 55 + n)

/-- The number that a hexadecimal digit of either case stands for. -/
def hexValue (c : Char) : Option Nat :=
  if 48 ≤ c.toNat ∧ c.toNat ≤ 57 then some (c.toNat - 48)
  else if 65 ≤ c.toNat ∧ c.toNat ≤ 70 then some (c.toNat - 55)
  else if 97 ≤ c.toNat ∧ c.toNat ≤ 102 then some (c.toNat - 87)
  else none

/-- The escape of a byte. -/
def escapeByte (b : UInt8) : List Char := ['%', hexDigit (b.toNat / 16), hexDigit (b.toNat % 16)]

/-- A character, or the escapes of its bytes. -/
def encodeChar (keep : Char → Bool) (c : Char) : List Char :=
  if keep c then [c] else (String.utf8EncodeChar c).flatMap escapeByte

/-- A text with every character escaped that is not to be kept. -/
def percentEncode (keep : Char → Bool) (s : String) : String :=
  String.ofList (s.toList.flatMap (encodeChar keep))

/-- The bytes of a text with escapes; `none` where a `%` begins no escape. -/
def unescape : List Char → Option (List UInt8)
  | [] => some []
  | c :: rest =>
    if c = '%' then
      match rest with
      | hi :: lo :: rest =>
        match hexValue hi, hexValue lo, unescape rest with
        | some a, some b, some bytes => some (UInt8.ofNat (16 * a + b) :: bytes)
        | _, _, _ => none
      | _ => none
    else (unescape rest).map (String.utf8EncodeChar c ++ ·)

/-- The text that a text with escapes stands for; `none` where its bytes are not UTF-8. -/
def percentDecode (s : String) : Option String :=
  (unescape s.toList).bind fun bytes ↦ String.fromUTF8? bytes.toByteArray

section Digits

private theorem hexValue_hexDigit {n : Nat} (h : n < 16) : hexValue (hexDigit n) = some n := by
  have hall : ∀ n : Fin 16, hexValue (hexDigit n.val) = some n.val := by decide
  exact hall ⟨n, h⟩

private theorem ofNat_digits (b : UInt8) :
    UInt8.ofNat (16 * (b.toNat / 16) + b.toNat % 16) = b := by
  rw [Nat.div_add_mod, UInt8.ofNat_toNat]

/-- Reading an escape gives its byte. -/
theorem unescape_escapeByte (b : UInt8) (rest : List Char) :
    unescape (escapeByte b ++ rest) = (unescape rest).map (b :: ·) := by
  have hhi : b.toNat / 16 < 16 := by
    have := b.toNat_lt
    omega
  have hlo : b.toNat % 16 < 16 := Nat.mod_lt _ (by omega)
  show unescape ('%' :: hexDigit (b.toNat / 16) :: hexDigit (b.toNat % 16) :: rest) = _
  rw [unescape, if_pos rfl]
  simp only [hexValue_hexDigit hhi, hexValue_hexDigit hlo]
  cases unescape rest with
  | none => rfl
  | some bytes =>
    show some (UInt8.ofNat _ :: bytes) = _
    rw [ofNat_digits]
    rfl

private theorem unescape_escapeBytes (bytes : List UInt8) (rest : List Char) :
    unescape (bytes.flatMap escapeByte ++ rest) = (unescape rest).map (bytes ++ ·) := by
  induction bytes with
  | nil =>
    simp
  | cons b bytes ih =>
    rw [List.flatMap_cons, List.append_assoc, unescape_escapeByte, ih, Option.map_map]
    rfl

end Digits

section Encode

variable {keep keep' : Char → Bool}

/-- The characters of an encoding are those of its characters. -/
@[simp] theorem toList_percentEncode (s : String) :
    (percentEncode keep s).toList = s.toList.flatMap (encodeChar keep) := String.toList_ofList

private theorem unescape_cons_of_ne {c : Char} (h : c ≠ '%') (rest : List Char) :
    unescape (c :: rest) = (unescape rest).map (String.utf8EncodeChar c ++ ·) := by
  rw [unescape.eq_def]
  exact if_neg h

private theorem unescape_encodeChar (hkeep : keep '%' = false) (c : Char) (rest : List Char) :
    unescape (encodeChar keep c ++ rest) = (unescape rest).map (String.utf8EncodeChar c ++ ·) := by
  rw [encodeChar]
  split
  · next hc =>
    have hne : c ≠ '%' := by
      rintro rfl
      rw [hkeep] at hc
      cases hc
    exact unescape_cons_of_ne hne rest
  · exact unescape_escapeBytes _ rest

private theorem unescape_encode (hkeep : keep '%' = false) (cs : List Char) :
    unescape (cs.flatMap (encodeChar keep)) = some (cs.flatMap String.utf8EncodeChar) := by
  induction cs with
  | nil => rfl
  | cons c cs ih =>
    rw [List.flatMap_cons, unescape_encodeChar hkeep, ih]
    rfl

private theorem fromUTF8?_bytes (s : String) :
    String.fromUTF8? (s.toList.flatMap String.utf8EncodeChar).toByteArray = some s := by
  have hbytes : (s.toList.flatMap String.utf8EncodeChar).toByteArray = s.toByteArray :=
    String.utf8Encode_toList
  rw [hbytes, String.fromUTF8?, dif_pos s.isValidUTF8]
  rfl

private theorem flatMap_encodeChar_of_keep {cs : List Char} (h : ∀ c ∈ cs, keep c = true) :
    cs.flatMap (encodeChar keep) = cs := by
  induction cs with
  | nil => rfl
  | cons c cs ih =>
    rw [List.flatMap_cons, ih fun c' hc' ↦ h c' (List.mem_cons_of_mem c hc'), encodeChar,
      if_pos (h c (List.mem_cons_self ..))]
    rfl

/-- A text of characters that are kept is its own encoding. -/
theorem percentEncode_eq_self {s : String} (h : ∀ c ∈ s.toList, keep c = true) :
    percentEncode keep s = s := by
  rw [percentEncode, flatMap_encodeChar_of_keep h, String.ofList_toList]

/-- An encoding that escapes `%` can be read back. -/
theorem percentDecode_percentEncode (hkeep : keep '%' = false) (s : String) :
    percentDecode (percentEncode keep s) = some s := by
  rw [percentDecode, toList_percentEncode, unescape_encode hkeep, Option.bind_some,
    fromUTF8?_bytes]

/-- A text without escapes is read as it is. -/
theorem percentDecode_eq_self {s : String} (h : '%' ∉ s.toList) : percentDecode s = some s := by
  have hself : percentEncode (fun c ↦ c ≠ '%') s = s := by
    apply percentEncode_eq_self
    intro c hc
    rw [decide_eq_true_eq]
    rintro rfl
    exact h hc
  have hdecode := @percentDecode_percentEncode (fun c ↦ c ≠ '%') rfl s
  rwa [hself] at hdecode

/-- A character of an escape. -/
def IsEscapeChar (c : Char) : Prop := c = '%' ∨ hexValue c ≠ none

private theorem isEscapeChar_of_mem {b : UInt8} {c : Char} (h : c ∈ escapeByte b) :
    IsEscapeChar c := by
  have hhi : b.toNat / 16 < 16 := by
    have := b.toNat_lt
    omega
  have hlo : b.toNat % 16 < 16 := Nat.mod_lt _ (by omega)
  simp only [escapeByte, List.mem_cons, List.not_mem_nil, or_false] at h
  rcases h with rfl | rfl | rfl
  · exact Or.inl rfl
  · right
    rw [hexValue_hexDigit hhi]
    exact Option.some_ne_none _
  · right
    rw [hexValue_hexDigit hlo]
    exact Option.some_ne_none _

/-- An encoding of a text and one of the text behind it are one of both. -/
theorem percentEncode_append (s t : String) :
    percentEncode keep (s ++ t) = percentEncode keep s ++ percentEncode keep t := by
  rw [← String.toList_inj, String.toList_append, toList_percentEncode, toList_percentEncode,
    toList_percentEncode, String.toList_append, List.flatMap_append]

/-- An encoding has no other characters than those that are kept and those of escapes. -/
theorem mem_percentEncode {s : String} {c : Char} (h : c ∈ (percentEncode keep s).toList) :
    keep c = true ∨ IsEscapeChar c := by
  rw [toList_percentEncode, List.mem_flatMap] at h
  obtain ⟨d, -, hd⟩ := h
  rw [encodeChar] at hd
  split at hd
  · next hkeep =>
    rw [List.mem_singleton.mp hd]
    exact Or.inl hkeep
  · obtain ⟨b, -, hb⟩ := List.mem_flatMap.mp hd
    exact Or.inr (isEscapeChar_of_mem hb)

/-- Encoding what has been encoded keeps its escapes, and so is one encoding. -/
theorem percentEncode_percentEncode (hkeep : ∀ c, IsEscapeChar c → keep' c = true) (s : String) :
    percentEncode keep' (percentEncode keep s) = percentEncode (fun c ↦ keep c && keep' c) s := by
  rw [← String.toList_inj]
  simp only [toList_percentEncode]
  rw [List.flatMap_assoc]
  apply List.flatMap_congr
  intro c _
  cases hc : keep c with
  | true =>
    simp [encodeChar, hc]
  | false =>
    rw [encodeChar, encodeChar, hc, Bool.false_and]
    simp only [Bool.false_eq_true, if_false]
    apply flatMap_encodeChar_of_keep
    intro d hd
    obtain ⟨b, -, hb⟩ := List.mem_flatMap.mp hd
    exact hkeep d (isEscapeChar_of_mem hb)

end Encode

end AgentsAuth.Lib
