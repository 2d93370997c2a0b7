import Mathlib.Data.Int.Log
import Mathlib.Data.Rat.Floor
import Mathlib.Tactic.Linarith
import Mathlib.Tactic.NormNum
import Mathlib.Tactic.Positivity
import Mathlib.Tactic.Ring

/-!
# Rounding to double precision

What an arithmetic operation on numbers of double precision yields: the double nearest to the exact
result, and of two the one with the even significand. A double is a multiple of a power of two
that its size determines, so that rounding is monotone and leaves integers of up to 53 bits alone.
Results beyond the largest double are not treated: the exponent is bounded below only.
-/

namespace AgentsAuth.Lib

/-- The integer nearest to a number, and of two the even one. -/
def roundHalfEven (x : ℚ) : ℤ :=
  if x - ⌊x⌋ < 1 / 2 then ⌊x⌋
  else if 1 / 2 < x - ⌊x⌋ then ⌊x⌋ + 1
  else if Even ⌊x⌋ then ⌊x⌋ else ⌊x⌋ + 1

/-- The exponent of the last place of the doubles around a number. -/
def lastPlace (x : ℚ) : ℤ := max (Int.log 2 |x| - 52) (-1074)

/-- The double nearest to a number, and of two the one with the even significand. -/
def double (x : ℚ) : ℚ := roundHalfEven (x / 2 ^ lastPlace x) * 2 ^ lastPlace x

section Integers

variable {x y : ℚ}

/-- An integer is its own rounding. -/
theorem roundHalfEven_intCast (n : ℤ) : roundHalfEven n = n := by
  simp [roundHalfEven]

/-- Rounding is to one of the integers around the number. -/
theorem roundHalfEven_cases (x : ℚ) :
    roundHalfEven x = ⌊x⌋ ∧ x - ⌊x⌋ ≤ 1 / 2 ∨
      roundHalfEven x = ⌊x⌋ + 1 ∧ 1 / 2 ≤ x - ⌊x⌋ := by
  unfold roundHalfEven
  split
  · next h => exact Or.inl ⟨rfl, h.le⟩
  · next h =>
    split
    · next h' => exact Or.inr ⟨rfl, h'.le⟩
    · next h' =>
      split
      · exact Or.inl ⟨rfl, not_lt.mp h'⟩
      · exact Or.inr ⟨rfl, not_lt.mp h⟩

/-- Rounding moves a number by one half at most. -/
theorem abs_roundHalfEven_sub_le (x : ℚ) : |(roundHalfEven x : ℚ) - x| ≤ 1 / 2 := by
  have hfloor := Int.floor_le x
  have hlt := Int.lt_floor_add_one x
  rcases roundHalfEven_cases x with ⟨hround, hhalf⟩ | ⟨hround, hhalf⟩
  · rw [hround, abs_le]
    constructor <;> linarith
  · rw [hround, abs_le]
    push_cast
    constructor <;> linarith

/-- Rounding keeps the order. -/
theorem roundHalfEven_mono (h : x ≤ y) : roundHalfEven x ≤ roundHalfEven y := by
  have hfloor : ⌊x⌋ ≤ ⌊y⌋ := Int.floor_mono h
  rcases hfloor.lt_or_eq with hlt | heq
  · rcases roundHalfEven_cases x with ⟨hx, -⟩ | ⟨hx, -⟩
    · rcases roundHalfEven_cases y with ⟨hy, -⟩ | ⟨hy, -⟩ <;> omega
    · rcases roundHalfEven_cases y with ⟨hy, -⟩ | ⟨hy, -⟩ <;> omega
  · -- between the same two integers the fractional parts decide
    unfold roundHalfEven
    rw [← heq]
    have hfract : x - ⌊x⌋ ≤ y - ⌊x⌋ := by linarith
    split
    · split
      · exact le_refl _
      · split
        · exact (Int.lt_succ _).le
        · split
          · exact le_refl _
          · exact (Int.lt_succ _).le
    · next hx =>
      rw [if_neg (not_lt.mpr ((not_lt.mp hx).trans hfract))]
      split
      · next hx' => rw [if_pos (hx'.trans_le hfract)]
      · next hx' =>
        split
        · next heven =>
          split
          · exact (Int.lt_succ _).le
          · exact le_refl _
        · next hodd =>
          split
          · exact le_refl _
          · exact le_refl _

/-- A number at an integer or below it is rounded to no more. -/
theorem roundHalfEven_le {n : ℤ} (h : x ≤ n) : roundHalfEven x ≤ n :=
  (roundHalfEven_mono h).trans_eq (roundHalfEven_intCast n)

/-- A number at an integer or above it is rounded to no less. -/
theorem le_roundHalfEven {n : ℤ} (h : (n : ℚ) ≤ x) : n ≤ roundHalfEven x :=
  (roundHalfEven_intCast n).symm.trans_le (roundHalfEven_mono h)

end Integers

section Doubles

variable {x y : ℚ}

private theorem scale_pos (e : ℤ) : (0 : ℚ) < 2 ^ e := zpow_pos (by norm_num) e

/-- A multiple of the last place is a double. -/
theorem double_eq_self {m : ℤ} (h : x = m * 2 ^ lastPlace x) : double x = x := by
  have hdiv : x / 2 ^ lastPlace x = m := by
    rw [div_eq_iff (scale_pos _).ne']
    exact h
  rw [double, hdiv, roundHalfEven_intCast]
  exact h.symm

/-- An integer of up to 53 bits is a double. -/
theorem double_intCast {n : ℤ} (h : |n| < 2 ^ 53) : double n = n := by
  have hplace : lastPlace n ≤ 0 := by
    rw [lastPlace, max_le_iff]
    refine ⟨?_, by norm_num⟩
    rcases eq_or_ne n 0 with rfl | hne
    · simp
    · have habs : (0 : ℚ) < |(n : ℚ)| := abs_pos.mpr (Int.cast_ne_zero.mpr hne)
      have hcast : |(n : ℚ)| < (2 : ℕ) ^ (53 : ℤ) := by
        have hlt : ((|n| : ℤ) : ℚ) < ((2 ^ 53 : ℤ) : ℚ) := Int.cast_lt.mpr h
        push_cast at hlt ⊢
        exact hlt
      have hlog := (Int.lt_zpow_iff_log_lt (by norm_num) habs).mp hcast
      omega
  obtain ⟨k, hk⟩ := Int.eq_ofNat_of_zero_le (neg_nonneg.mpr hplace)
  apply @double_eq_self _ (n * 2 ^ k)
  have hpow : ((2 : ℚ) ^ k) * 2 ^ lastPlace n = 1 := by
    rw [← zpow_natCast, ← zpow_add₀ (by norm_num)]
    have hsum : (k : ℤ) + lastPlace n = 0 := by omega
    rw [hsum, zpow_zero]
  push_cast
  rw [mul_assoc, hpow, mul_one]

/-- Rounding moves a number by half of its last place at most. -/
theorem abs_double_sub_le (x : ℚ) : |double x - x| ≤ 2 ^ lastPlace x / 2 := by
  have hscale := scale_pos (lastPlace x)
  have hsub : double x - x =
      (roundHalfEven (x / 2 ^ lastPlace x) - x / 2 ^ lastPlace x) * 2 ^ lastPlace x := by
    rw [sub_mul, div_mul_cancel₀ _ hscale.ne']
    rfl
  rw [hsub, abs_mul, abs_of_pos hscale]
  have hround := abs_roundHalfEven_sub_le (x / 2 ^ lastPlace x)
  calc _ ≤ 1 / 2 * (2 : ℚ) ^ lastPlace x := mul_le_mul_of_nonneg_right hround hscale.le
    _ = 2 ^ lastPlace x / 2 := by ring

/-- Zero is a double. -/
@[simp] theorem double_zero : double 0 = 0 := by
  exact_mod_cast @double_intCast 0 (by norm_num)

/-- Above the least normal double rounding moves a number by its `2 ^ 53`rd part at most. -/
theorem abs_double_sub_le_div (h : 2 ^ (-1022 : ℤ) ≤ |x|) : |double x - x| ≤ |x| / 2 ^ 53 := by
  have hpos : 0 < |x| := (scale_pos (-1022)).trans_le h
  have hlog : -1022 ≤ Int.log 2 |x| :=
    (Int.zpow_le_iff_le_log (by norm_num) hpos).mp (by exact_mod_cast h)
  have hplace : lastPlace x = Int.log 2 |x| - 52 := by
    rw [lastPlace, max_eq_left]
    omega
  have hle : ((2 : ℕ) : ℚ) ^ Int.log 2 |x| ≤ |x| := Int.zpow_log_le_self (by norm_num) hpos
  have hpow : (2 : ℚ) ^ lastPlace x / 2 = 2 ^ Int.log 2 |x| / 2 ^ 53 := by
    rw [hplace, zpow_sub₀ (by norm_num)]
    norm_num
    ring
  apply (abs_double_sub_le x).trans
  rw [hpow]
  exact div_le_div_of_nonneg_right (by exact_mod_cast hle) (by norm_num)

/-- Rounding does not go beyond a multiple of the last place. -/
theorem double_le {m : ℤ} (h : x ≤ m * 2 ^ lastPlace x) : double x ≤ m * 2 ^ lastPlace x := by
  have hscale := scale_pos (lastPlace x)
  have hround : roundHalfEven (x / 2 ^ lastPlace x) ≤ m :=
    roundHalfEven_le ((div_le_iff₀ hscale).mpr h)
  exact mul_le_mul_of_nonneg_right (Int.cast_le.mpr hround) hscale.le

/-- Rounding does not fall below a multiple of the last place. -/
theorem le_double {m : ℤ} (h : m * 2 ^ lastPlace x ≤ x) : m * 2 ^ lastPlace x ≤ double x := by
  have hscale := scale_pos (lastPlace x)
  have hround : m ≤ roundHalfEven (x / 2 ^ lastPlace x) :=
    le_roundHalfEven ((le_div_iff₀ hscale).mpr h)
  exact mul_le_mul_of_nonneg_right (Int.cast_le.mpr hround) hscale.le

/-- A number that is not positive is not rounded to a positive one. -/
theorem double_nonpos (h : x ≤ 0) : double x ≤ 0 := by
  simpa using @double_le x 0 (by simpa using h)

/-- A number that is not negative is not rounded to a negative one. -/
theorem double_nonneg (h : 0 ≤ x) : 0 ≤ double x := by
  simpa using @le_double x 0 (by simpa using h)

/-- Of two numbers with different last places a power of two separates the sizes: the one at which
the significand of the larger number starts. -/
private theorem sizes_of_lastPlace_lt (h : lastPlace x < lastPlace y) (hy : y ≠ 0) :
    |x| < 2 ^ (lastPlace y + 52) ∧ 2 ^ (lastPlace y + 52) ≤ |y| := by
  have hlarge : lastPlace y = Int.log 2 |y| - 52 := by
    unfold lastPlace at h ⊢
    omega
  have hsmall : Int.log 2 |x| - 52 ≤ lastPlace x := le_max_left _ _
  constructor
  · have hlt : |x| < (2 : ℕ) ^ (Int.log 2 |x| + 1) :=
      Int.lt_zpow_succ_log_self (by norm_num) |x|
    push_cast at hlt
    exact hlt.trans_le (zpow_le_zpow_right₀ (by norm_num) (by omega))
  · have hle : ((2 : ℕ) : ℚ) ^ Int.log 2 |y| ≤ |y| :=
      Int.zpow_log_le_self (by norm_num) (abs_pos.mpr hy)
    rw [hlarge, sub_add_cancel]
    exact_mod_cast hle

private theorem exists_multiple {e : ℤ} (h : lastPlace x ≤ e) :
    ∃ m : ℤ, (2 : ℚ) ^ e = m * 2 ^ lastPlace x := by
  obtain ⟨k, hk⟩ := Int.eq_ofNat_of_zero_le (sub_nonneg.mpr h)
  refine ⟨2 ^ k, ?_⟩
  push_cast
  rw [← zpow_natCast, ← zpow_add₀ (by norm_num)]
  congr 1
  omega

/-- A power of two between two numbers, at which the significand of one of them starts, is also
between their roundings. -/
private theorem double_le_double_of_place {e : ℤ} (hx : lastPlace x ≤ e) (hy : lastPlace y ≤ e)
    (h : x ≤ 2 ^ e ∧ 2 ^ e ≤ y ∨ x ≤ -2 ^ e ∧ -2 ^ e ≤ y) : double x ≤ double y := by
  obtain ⟨m, hm⟩ := exists_multiple hx
  obtain ⟨n, hn⟩ := exists_multiple hy
  rcases h with ⟨hle, hge⟩ | ⟨hle, hge⟩
  · have hbelow := double_le (hm ▸ hle)
    have habove := le_double (hn ▸ hge)
    rw [← hm] at hbelow
    rw [← hn] at habove
    exact hbelow.trans habove
  · have hneg (k : ℤ) (s : ℚ) : -((k : ℚ) * s) = ((-k : ℤ) : ℚ) * s := by
      push_cast
      ring
    rw [hm, hneg] at hle
    rw [hn, hneg] at hge
    have hbelow := double_le hle
    have habove := le_double hge
    rw [← hneg, ← hm] at hbelow
    rw [← hneg, ← hn] at habove
    exact hbelow.trans habove

/-- Rounding keeps the order. -/
theorem double_mono (h : x ≤ y) : double x ≤ double y := by
  rcases lt_trichotomy (lastPlace x) (lastPlace y) with hlt | heq | hgt
  · rcases eq_or_ne y 0 with rfl | hy
    · rw [double_zero]
      exact double_nonpos h
    · obtain ⟨hsmall, hlarge⟩ := sizes_of_lastPlace_lt hlt hy
      have hpos : 0 < y := by
        by_contra hneg
        rw [abs_of_nonpos (not_lt.mp hneg)] at hlarge
        have habs := neg_le_abs x
        linarith
      rw [abs_of_pos hpos] at hlarge
      have hx := (le_abs_self x).trans hsmall.le
      exact double_le_double_of_place (by omega) (by omega) (Or.inl ⟨hx, hlarge⟩)
  · have hscale := scale_pos (lastPlace x)
    have hround : roundHalfEven (x / 2 ^ lastPlace x) ≤ roundHalfEven (y / 2 ^ lastPlace x) :=
      roundHalfEven_mono (div_le_div_of_nonneg_right h hscale.le)
    have hmul := mul_le_mul_of_nonneg_right (Int.cast_le.mpr hround : (_ : ℚ) ≤ _) hscale.le
    rw [double, double, ← heq]
    exact hmul
  · rcases eq_or_ne x 0 with rfl | hx
    · rw [double_zero]
      exact double_nonneg h
    · obtain ⟨hsmall, hlarge⟩ := sizes_of_lastPlace_lt hgt hx
      have hneg : x < 0 := by
        by_contra hpos
        rw [abs_of_nonneg (not_lt.mp hpos)] at hlarge
        have habs := le_abs_self y
        linarith
      rw [abs_of_neg hneg] at hlarge
      have hy := (neg_le_abs y).trans hsmall.le
      exact @double_le_double_of_place x y (lastPlace x + 52) (by omega) (by omega)
        (Or.inr ⟨by linarith, by linarith⟩)

/-- A quotient of integers of up to 53 bits is rounded by less than the divisor's part of one. -/
theorem abs_double_div_sub_lt {n : ℤ} {d : ℕ} (hn : |n| < 2 ^ 53) (hd : 0 < d)
    (hd' : d < 2 ^ 53) : |double (n / d) - n / d| < 1 / d := by
  have hpos : (0 : ℚ) < d := Nat.cast_pos.mpr hd
  rcases eq_or_ne n 0 with rfl | hne
  · simpa using hpos
  · have habs : |(n : ℚ) / d| = |(n : ℚ)| / d := by rw [abs_div, abs_of_pos hpos]
    have hone : (1 : ℚ) ≤ |(n : ℚ)| := by exact_mod_cast Int.one_le_abs hne
    have hsize : 2 ^ (-1022 : ℤ) ≤ |(n : ℚ) / d| := by
      have hlarge : (d : ℚ) ≤ 2 ^ 53 := by exact_mod_cast hd'.le
      rw [habs, le_div_iff₀ hpos]
      have hunit : (2 : ℚ) ^ (-1022 : ℤ) * 2 ^ 53 ≤ 1 := by
        rw [← zpow_natCast, ← zpow_add₀ (by norm_num)]
        exact zpow_le_one_of_nonpos₀ (by norm_num) (by norm_num)
      have hmul := mul_le_mul_of_nonneg_left hlarge (scale_pos (-1022)).le
      exact hmul.trans (hunit.trans hone)
    have hbits : |(n : ℚ)| < 2 ^ 53 := by exact_mod_cast hn
    apply (abs_double_sub_le_div hsize).trans_lt
    rw [habs, div_div, mul_comm, ← div_div]
    apply div_lt_div_of_pos_right _ hpos
    rwa [div_lt_one (by norm_num)]

/-- Between integers of up to 53 bits a quotient is not rounded up to the next integer. -/
theorem floor_double_div {n : ℤ} {d : ℕ} (hn : |n| < 2 ^ 53) (hd : 0 < d) (hd' : d < 2 ^ 53) :
    ⌊double (n / d)⌋ = ⌊(n : ℚ) / d⌋ := by
  have hpos : (0 : ℚ) < d := Nat.cast_pos.mpr hd
  have habs : |⌊(n : ℚ) / d⌋| < 2 ^ 53 := by
    rw [Rat.floor_intCast_div_natCast]
    exact (Int.abs_ediv_le_abs n d).trans_lt hn
  rw [Int.floor_eq_iff]
  constructor
  · have hmono := double_mono (Int.floor_le ((n : ℚ) / d))
    rwa [double_intCast habs] at hmono
  · have hnext : (n : ℚ) / d + 1 / d ≤ ⌊(n : ℚ) / d⌋ + 1 := by
      rw [Rat.floor_intCast_div_natCast, ← add_div, div_le_iff₀ hpos]
      exact_mod_cast Int.lt_ediv_add_one_mul_self n (Int.natCast_pos.mpr hd)
    have hupper := (abs_lt.mp (abs_double_div_sub_lt hn hd hd')).2
    linarith

end Doubles
end AgentsAuth.Lib
