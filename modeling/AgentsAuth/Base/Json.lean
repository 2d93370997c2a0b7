import AgentsAuth.Lib.Words
import Mathlib.Algebra.Order.Field.Rat
import Mathlib.Data.List.Basic

/-!
# JSON values and object literals

The values that `JSON.parse` builds, read the way the scripts read them: a missing
member is `undefined`, and a table written as an object literal also answers for
the names it inherits from `Object.prototype`.
-/

namespace AgentsAuth.Base

/-- A number of a JSON document: its value and how `String` writes it. -/
structure JsonNumber where
  value : ℚ
  text : String
deriving DecidableEq

/-- A JSON value; an object keeps its members in document order. -/
inductive Json where
  | null
  | bool (b : Bool)
  | num (n : JsonNumber)
  | str (s : String)
  | arr (items : List Json)
  | obj (members : List (String × Json))

namespace Json

/-- `value[name]` for a name that only objects have; `none` is `undefined`. -/
def get? : Json → String → Option Json
  | .obj members, name => members.lookup name
  | _, _ => none

/-- The members of an object literal that are not `undefined`. -/
def members (fields : List (String × Option Json)) : List (String × Json) :=
  fields.filterMap fun field ↦ field.2.map (field.1, ·)

/-- The string a member holds; `none` is a `typeof` other than `'string'`. -/
def string? : Option Json → Option String
  | some (.str s) => some s
  | _ => none

/-- Only a string has a string. -/
theorem string?_eq_some_iff {value : Option Json} {s : String} :
    string? value = some s ↔ value = some (.str s) := by
  unfold string?
  split
  · next s' => simp
  · next hne =>
    constructor
    · intro h
      cases h
    · intro h
      exact absurd h (hne s)

/-- `value && typeof value === 'object'`. -/
def isObject : Json → Bool
  | .arr _ => true
  | .obj _ => true
  | _ => false

/-- `value !== null`. -/
def notNull : Json → Bool
  | .null => false
  | _ => true

/-- Whether a condition on the value is taken. -/
def truthy : Json → Bool
  | .null => false
  | .bool b => b
  | .num n => n.value ≠ 0
  | .str s => s ≠ ""
  | .arr _ => true
  | .obj _ => true

mutual

/-- `String(value)`. -/
def toText : Json → String
  | .null => "null"
  | .bool b => if b then "true" else "false"
  | .num n => n.text
  | .str s => s
  | .arr items => ",".intercalate (itemTexts items)
  | .obj _ => "[object Object]"
termination_by structural j => j

/-- The pieces that `String` of an array joins: a `null` item is written as nothing. -/
def itemTexts : List Json → List String
  | [] => []
  | .null :: rest => "" :: itemTexts rest
  | item :: rest => toText item :: itemTexts rest
termination_by structural items => items

end

mutual

/-- Whether `String(value)` does not throw: no member of a parsed object is a function, so one
named `toString` leaves the object without a text. -/
def hasText : Json → Bool
  | .arr items => itemsHaveText items
  | .obj members => (members.lookup "toString").isNone
  | _ => true
termination_by structural j => j

/-- Whether every item of an array has a text. -/
def itemsHaveText : List Json → Bool
  | [] => true
  | item :: rest => hasText item && itemsHaveText rest
termination_by structural items => items

end

/-- `String(value)`; `none` where it throws. -/
def text? (value : Json) : Option String := if value.hasText then some value.toText else none

/-- Whether a `Set` takes two values for one; no two objects of a document are the same. -/
def sameValue : Json → Json → Bool
  | .null, .null => true
  | .bool b, .bool b' => b = b'
  | .num n, .num n' => n.value = n'.value
  | .str s, .str s' => s = s'
  | _, _ => false

/-- `[...new Set(items)]`. -/
def distinct (items : List Json) : List Json :=
  items.foldl (fun seen item ↦ if seen.any (sameValue item) then seen else seen ++ [item]) []

/-- The number that decimal digits write. -/
def digitsValue (cs : List Char) : Nat := cs.foldl (fun n c ↦ 10 * n + (c.toNat - '0'.toNat)) 0

/-- The exponent part of a decimal literal. -/
def exponent? : List Char → Option Int
  | [] => some 0
  | _ :: '-' :: cs => if cs ≠ [] ∧ cs.all Char.isDigit then some (-digitsValue cs) else none
  | _ :: '+' :: cs => if cs ≠ [] ∧ cs.all Char.isDigit then some (digitsValue cs) else none
  | _ :: cs => if cs ≠ [] ∧ cs.all Char.isDigit then some (digitsValue cs) else none

/-- Whether a decimal literal without a sign is a number above zero; one that is no larger than half
of the least double is zero. -/
def positiveDecimal (cs : List Char) : Bool :=
  let isExponent (c : Char) : Bool := c = 'e' || c = 'E'
  let mantissa := cs.takeWhile fun c ↦ !isExponent c
  let whole := mantissa.takeWhile (· ≠ '.')
  let fraction := (mantissa.dropWhile (· ≠ '.')).drop 1
  let value : ℚ := digitsValue (whole ++ fraction)
  match exponent? (cs.dropWhile fun c ↦ !isExponent c) with
  | some e =>
    whole ++ fraction ≠ [] && (whole ++ fraction).all Char.isDigit &&
      1 / 2 ^ 1075 < value * (10 : ℚ) ^ (e - fraction.length)
  | none => false

/-- Whether digits after a radix prefix write a number above zero. -/
def positiveRadix (isDigit : Char → Bool) (cs : List Char) : Bool :=
  cs.all isDigit && cs.any (· ≠ '0')

/-- `Number(text) > 0`. -/
def positiveText (text : String) : Bool :=
  match (Lib.trim text).toList with
  | '0' :: 'x' :: cs => positiveRadix Char.isHexDigit cs
  | '0' :: 'X' :: cs => positiveRadix Char.isHexDigit cs
  | '0' :: 'o' :: cs => positiveRadix (fun c ↦ '0' ≤ c && c ≤ '7') cs
  | '0' :: 'O' :: cs => positiveRadix (fun c ↦ '0' ≤ c && c ≤ '7') cs
  | '0' :: 'b' :: cs => positiveRadix (fun c ↦ c = '0' || c = '1') cs
  | '0' :: 'B' :: cs => positiveRadix (fun c ↦ c = '0' || c = '1') cs
  | '-' :: _ => false
  | '+' :: cs => cs = "Infinity".toList || positiveDecimal cs
  | cs => cs = "Infinity".toList || positiveDecimal cs

/-- `value > 0`; `none` where the value has no text to convert. -/
def positive? : Json → Option Bool
  | .null => some false
  | .bool b => some b
  | .num n => some (0 < n.value)
  | .str s => some (positiveText s)
  | .arr items =>
    if itemsHaveText items then some (positiveText (toText (.arr items))) else none
  | .obj members => if hasText (.obj members) then some false else none

/-- A string is its own text. -/
@[simp] theorem toText_str (s : String) : toText (.str s) = s := rfl

/-- A string has a text. -/
@[simp] theorem text?_str (s : String) : text? (.str s) = some s := rfl

/-- `String` gives a text where it does not throw. -/
theorem isSome_text?_iff {value : Json} : value.text?.isSome = true ↔ value.hasText = true := by
  rw [text?]
  split
  · next h => simp [h]
  · next h => simp [h]

/-- An array has a text when its items do. -/
theorem itemsHaveText_iff {items : List Json} :
    itemsHaveText items = true ↔ ∀ item ∈ items, item.hasText = true := by
  induction items with
  | nil => simp [itemsHaveText]
  | cons item items ih => simp [itemsHaveText, ih]

/-- What a `Set` takes for one of its values is one of the primitives. -/
theorem hasText_of_sameValue {value other : Json} (h : sameValue value other = true) :
    value.hasText = true := by
  cases value with
  | arr items => simp [sameValue] at h
  | obj members => simp [sameValue] at h
  | null => rfl
  | bool b => rfl
  | num n => rfl
  | str s => rfl

private theorem forall_foldl_distinct {items seen : List Json} :
    (∀ item ∈ items.foldl
        (fun seen item ↦ if seen.any (sameValue item) then seen else seen ++ [item]) seen,
      item.hasText = true) ↔
    (∀ item ∈ seen, item.hasText = true) ∧ ∀ item ∈ items, item.hasText = true := by
  induction items generalizing seen with
  | nil => simp
  | cons item items ih =>
    rw [List.foldl_cons, ih, List.forall_mem_cons]
    split
    · next hany =>
      obtain ⟨other, -, hsame⟩ := List.any_eq_true.mp hany
      simp [hasText_of_sameValue hsame]
    · next hnone => simp [or_imp, forall_and, and_assoc]

/-- Leaving repetitions out changes nothing about which items have a text. -/
theorem itemsHaveText_distinct (items : List Json) :
    itemsHaveText (distinct items) = itemsHaveText items := by
  rw [Bool.eq_iff_iff, itemsHaveText_iff, itemsHaveText_iff, distinct, forall_foldl_distinct]
  simp

end Json

/-- Whether a property name is an array index. -/
def isArrayIndex (name : String) : Bool :=
  name.toNat?.any fun n ↦ toString n = name && n < 2 ^ 32 - 1

/-- `Object.entries`: array indices in ascending order, then the other names as they came. -/
def objectEntries (members : List (String × Json)) : List (String × Json) :=
  (members.filter fun m ↦ isArrayIndex m.1).mergeSort
      (fun a b ↦ a.1.toNat?.getD 0 ≤ b.1.toNat?.getD 0) ++
    members.filter fun m ↦ !isArrayIndex m.1

/-- What reading a property of an object literal finds. -/
inductive Property (ν : Type) where
  | own (value : ν)
  | inherited
  | missing

/-- The properties of `Object.prototype` in the procedures' engine. -/
def scriptPrototype : List String :=
  ["constructor", "toString", "toLocaleString", "valueOf", "hasOwnProperty", "isPrototypeOf",
    "propertyIsEnumerable", "__proto__"]

/-- The properties of `Object.prototype` in Node. -/
def nodePrototype : List String :=
  scriptPrototype ++
    ["__defineGetter__", "__defineSetter__", "__lookupGetter__", "__lookupSetter__"]

section Property

variable {ν : Type} {prototype : List String} {table : List (String × ν)} {name : String}
  {value : ν}

/-- `table[name]` for a table written as an object literal. -/
def property (prototype : List String) (table : List (String × ν)) (name : String) : Property ν :=
  match table.lookup name with
  | some value => .own value
  | none => if name ∈ prototype then .inherited else .missing

/-- Own properties are the ones in the table. -/
theorem property_eq_own_iff :
    property prototype table name = .own value ↔ table.lookup name = some value := by
  rw [property]
  split
  · next v hv => simp [hv]
  · next hn =>
    rw [hn]
    split <;> simp

/-- An own property is an entry of the table. -/
theorem mem_of_property_eq_own (h : property prototype table name = .own value) :
    (name, value) ∈ table := by
  obtain ⟨before, after, htable, -⟩ := List.lookup_eq_some_iff.mp (property_eq_own_iff.mp h)
  rw [htable]
  exact List.mem_append_right before (List.mem_cons_self ..)

end Property
end AgentsAuth.Base
