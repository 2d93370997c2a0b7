import Mathlib.Tactic.Common

/-!
# A fragment of the Common Expression Language

The operators of policy rules over any domain of values: a field or a test for one, equality,
membership, and the connectives that absorb an error where one side decides. A rule applies where
its expression is true; an error is no truth, and none of its negation either.
-/

namespace AgentsAuth.Lib.Cel

/-- Values, as far as the operators look into them. -/
structure Domain (ν : Type) where
  ofBool : Bool → ν
  ofText : String → ν
  ofList : List ν → ν
  toBool? : ν → Option Bool
  toText? : ν → Option String
  /-- The field of a map; the outer `none` is a value that has no fields. -/
  field? : ν → String → Option (Option ν)
  /-- `x in container`; `none` where that is no container. -/
  contains? : ν → ν → Option Bool
  same : ν → ν → Bool
  toBool?_ofBool : ∀ b, toBool? (ofBool b) = some b

/-- An expression. -/
inductive Expr where
  | text (s : String)
  | texts (items : List String)
  | root (name : String)
  | select (e : Expr) (field : String)
  | has (e : Expr) (field : String)
  | eq (a b : Expr)
  | ne (a b : Expr)
  | isIn (a b : Expr)
  | split (e : Expr) (separator : String)
  | not (e : Expr)
  | and (a b : Expr)
deriving DecidableEq

/-- The conjunction of two results, either of which may be an error: `false` decides it from
either side. -/
def conj : Option Bool → Option Bool → Option Bool
  | some false, _ => some false
  | _, some false => some false
  | some true, some true => some true
  | _, _ => none

section Eval

variable {ν : Type} (D : Domain ν) (pieces : String → String → List String)
  (env : String → Option ν)

/-- The value of an expression; `none` is an error. `pieces separator s` are the pieces that a text
is split into. -/
def eval : Expr → Option ν
  | .text s => some (D.ofText s)
  | .texts items => some (D.ofList (items.map D.ofText))
  | .root name => env name
  | .select e field => (eval e).bind fun v ↦ (D.field? v field).join
  | .has e field => (eval e).bind fun v ↦ (D.field? v field).map fun f ↦ D.ofBool f.isSome
  | .eq a b => (eval a).bind fun x ↦ (eval b).map fun y ↦ D.ofBool (D.same x y)
  | .ne a b => (eval a).bind fun x ↦ (eval b).map fun y ↦ D.ofBool !(D.same x y)
  | .isIn a b => (eval a).bind fun x ↦ (eval b).bind fun y ↦ (D.contains? x y).map D.ofBool
  | .split e separator => (eval e).bind fun v ↦
      (D.toText? v).map fun s ↦ D.ofList ((pieces separator s).map D.ofText)
  | .not e => ((eval e).bind D.toBool?).map fun b ↦ D.ofBool !b
  | .and a b => (conj ((eval a).bind D.toBool?) ((eval b).bind D.toBool?)).map D.ofBool

/-- What an expression says, if anything. -/
def verdict (e : Expr) : Option Bool := (eval D pieces env e).bind D.toBool?

/-- A rule with this expression applies. -/
def holds (e : Expr) : Bool := verdict D pieces env e = some true

end Eval

section Rules

variable {ν : Type} {D : Domain ν} {pieces : String → String → List String}
  {env : String → Option ν} {a b e : Expr} {field : String}

private theorem verdict_ofBool {o : Option Bool} :
    (o.map D.ofBool).bind D.toBool? = o := by
  cases o with
  | none => rfl
  | some b => exact D.toBool?_ofBool b

/-- A negation says the opposite, where its expression says something. -/
theorem verdict_not : verdict D pieces env (.not e) = (verdict D pieces env e).map Bool.not := by
  rw [verdict, eval, ← verdict_ofBool (D := D) (o := (verdict D pieces env e).map Bool.not),
    Option.map_map]
  rfl

/-- A conjunction says what both sides say together. -/
theorem verdict_and : verdict D pieces env (.and a b) =
    conj (verdict D pieces env a) (verdict D pieces env b) := verdict_ofBool

/-- A rule for a conjunction applies where both sides would. -/
theorem holds_and_iff : holds D pieces env (.and a b) = true ↔
    holds D pieces env a = true ∧ holds D pieces env b = true := by
  simp only [holds, verdict_and, decide_eq_true_eq]
  cases verdict D pieces env a with
  | none =>
    cases verdict D pieces env b with
    | none => simp [conj]
    | some y => cases y <;> simp [conj]
  | some x =>
    cases x with
    | false => simp [conj]
    | true =>
      cases verdict D pieces env b with
      | none => simp [conj]
      | some y => cases y <;> simp [conj]

/-- A rule for a negation applies where the expression is false, and not where it is an error. -/
theorem holds_not_iff : holds D pieces env (.not e) = true ↔
    verdict D pieces env e = some false := by
  simp only [holds, verdict_not, decide_eq_true_eq]
  cases verdict D pieces env e with
  | none => simp
  | some b => cases b <;> simp

/-- Membership is what the container says, and an error where there is none. -/
theorem verdict_isIn {x : ν} (ha : eval D pieces env a = some x) :
    verdict D pieces env (.isIn a b) = (eval D pieces env b).bind (D.contains? x) := by
  rw [verdict, eval, ha, Option.bind_some]
  cases eval D pieces env b with
  | none => rfl
  | some y => exact verdict_ofBool

/-- Values are compared where both sides have one. -/
theorem verdict_eq {y : ν} (hb : eval D pieces env b = some y) :
    verdict D pieces env (.eq a b) = (eval D pieces env a).map fun x ↦ D.same x y := by
  rw [verdict, eval, hb]
  cases eval D pieces env a with
  | none => rfl
  | some x => exact D.toBool?_ofBool _

/-- And so they are for being different. -/
theorem verdict_ne {y : ν} (hb : eval D pieces env b = some y) :
    verdict D pieces env (.ne a b) = (eval D pieces env a).map fun x ↦ !(D.same x y) := by
  rw [verdict, eval, hb]
  cases eval D pieces env a with
  | none => rfl
  | some x => exact D.toBool?_ofBool _

/-- A test for a field says whether it is there, of a value that has fields. -/
theorem verdict_has : verdict D pieces env (.has e field) =
    ((eval D pieces env e).bind (D.field? · field)).map Option.isSome := by
  rw [verdict, eval]
  cases eval D pieces env e with
  | none => rfl
  | some v =>
    cases hfield : D.field? v field with
    | none => simp [hfield]
    | some f => simp [hfield, D.toBool?_ofBool]

end Rules

end AgentsAuth.Lib.Cel
