import Clight.DecimalText
import Mathlib.Algebra.Order.Field.Power
import Mathlib.Data.Int.Log

/-! Doubles as the rationals that they stand for. A result is rounded to the nearest double, and to the
one with an even last place from the middle of two. Exponents are not bounded: nothing here underflows or
overflows. -/
namespace Binary64
variable {x y : ℚ}

/-- The unit in the last of the 53 places. -/
def ulp (x : ℚ) : ℚ := 2 ^ (Int.log 2 |x| - 52)

def round (x : ℚ) : ℚ := DecimalText.roundEven (x / ulp x) * ulp x

def div (x y : ℚ) : ℚ := round (x / y)

theorem ulp_pos (x : ℚ) : 0 < ulp x := zpow_pos two_pos _

theorem ulp_le (hx : x ≠ 0) : ulp x ≤ |x| / 2 ^ 52 := by
  have hlog : (2 : ℚ) ^ Int.log 2 |x| ≤ |x| := by
    exact_mod_cast Int.zpow_log_le_self one_lt_two (abs_pos.mpr hx)
  unfold ulp
  rw [zpow_sub₀ two_ne_zero]
  exact div_le_div_of_nonneg_right hlog (by positivity)

theorem round_zero : round 0 = 0 := by
  have hzero : DecimalText.roundEven 0 = 0 := DecimalText.roundEven_natCast 0
  unfold round
  rw [zero_div, hzero, Int.cast_zero, zero_mul]

/-- The relative error is half a unit. -/
theorem round_near (x : ℚ) : |round x - x| ≤ |x| / 2 ^ 53 := by
  by_cases hx : x = 0
  · rw [hx, round_zero]
    norm_num
  · have hunits := DecimalText.roundEven_near (x / ulp x)
    have hscaled : round x - x = (DecimalText.roundEven (x / ulp x) - x / ulp x) * ulp x := by
      rw [sub_mul, div_mul_cancel₀ _ (ulp_pos x).ne']
      rfl
    calc |round x - x| = |DecimalText.roundEven (x / ulp x) - x / ulp x| * ulp x := by
          rw [hscaled, abs_mul, abs_of_pos (ulp_pos x)]
      _ ≤ 1 / 2 * (|x| / 2 ^ 52) := mul_le_mul hunits (ulp_le hx) (ulp_pos x).le (by norm_num)
      _ = |x| / 2 ^ 53 := by ring

theorem round_bounds (hx : 0 ≤ x) : x * (1 - 1 / 2 ^ 53) ≤ round x ∧ round x ≤ x * (1 + 1 / 2 ^ 53) := by
  have hnear := abs_le.mp (round_near x)
  rw [abs_of_nonneg hx] at hnear
  constructor <;> linarith [hnear.1, hnear.2]

theorem zero_le_div (hx : 0 ≤ x) (hy : 0 ≤ y) : 0 ≤ div x y := by
  have hquot : 0 ≤ x / y := div_nonneg hx hy
  exact (mul_nonneg hquot (by norm_num)).trans (round_bounds hquot).1

/-! ### Quotients of whole numbers -/

section
variable {n d t m : ℤ}

/-- The divisor is itself a quotient, `t / n`. -/
theorem div_div_bounds (hd : 0 ≤ d) (ht : 0 < t) (hn : 0 < n) :
    0 < div t n ∧ (t : ℚ) / n * (1 - 1 / 2 ^ 53) ≤ div t n ∧ div t n ≤ t / n * (1 + 1 / 2 ^ 53) ∧
      d * (1 - 1 / 2 ^ 53) ≤ div d (div t n) * div t n ∧
      div d (div t n) * div t n ≤ d * (1 + 1 / 2 ^ 53) := by
  have hshare : (0 : ℚ) < t / n := div_pos (by exact_mod_cast ht) (by exact_mod_cast hn)
  obtain ⟨hlo, hhi⟩ := round_bounds hshare.le
  have hpos : 0 < div t n := lt_of_lt_of_le (mul_pos hshare (by norm_num)) hlo
  have hquot : (0 : ℚ) ≤ d / div t n := div_nonneg (by exact_mod_cast hd) hpos.le
  obtain ⟨hlo', hhi'⟩ := round_bounds hquot
  refine ⟨hpos, hlo, hhi, ?_, ?_⟩
  · have hmul := mul_le_mul_of_nonneg_right hlo' hpos.le
    rwa [mul_right_comm, div_mul_cancel₀ _ hpos.ne'] at hmul
  · have hmul := mul_le_mul_of_nonneg_right hhi' hpos.le
    rwa [mul_right_comm, div_mul_cancel₀ _ hpos.ne'] at hmul

/-- The rounding does not reach the next whole number from below. -/
theorem not_le_div_div (hd : 0 ≤ d) (hsmall : n * d < 2 ^ 50) (ht : 0 < t) (hn : 0 < n) (hm : n * d < m * t) :
    ¬(m : ℚ) ≤ div d (div t n) := by
  intro hle
  obtain ⟨hpos, hlo, -, -, hprod⟩ := div_div_bounds hd ht hn
  have hn' : (0 : ℚ) < n := by exact_mod_cast hn
  have hnd : (0 : ℚ) ≤ n * d := by exact_mod_cast mul_nonneg hn.le hd
  have hgap : (n * d + 1 : ℚ) ≤ m * t := by exact_mod_cast hm
  have hsmall' : (n * d : ℚ) < 2 ^ 50 := by exact_mod_cast hsmall
  have hm0 : (0 : ℚ) ≤ m := by
    by_contra hneg
    have : (m : ℚ) * t ≤ 0 := mul_nonpos_of_nonpos_of_nonneg (not_le.mp hneg).le (by exact_mod_cast ht.le)
    linarith
  have hscaled : (m : ℚ) * t * (1 - 1 / 2 ^ 53) ≤ n * d * (1 + 1 / 2 ^ 53) :=
    calc (m : ℚ) * t * (1 - 1 / 2 ^ 53) = n * (m * (t / n * (1 - 1 / 2 ^ 53))) := by field_simp
      _ ≤ n * (m * div t n) := by gcongr
      _ ≤ n * (div d (div t n) * div t n) := by gcongr
      _ ≤ n * (d * (1 + 1 / 2 ^ 53)) := by gcongr
      _ = n * d * (1 + 1 / 2 ^ 53) := (mul_assoc ..).symm
  nlinarith

/-- Nor does it fall short of a whole number that is below the quotient. -/
theorem le_div_div (hd : 0 ≤ d) (hsmall : n * d < 2 ^ 50) (ht : 0 < t) (hn : 0 < n) (hm : m * t < n * d) :
    (m : ℚ) ≤ div d (div t n) := by
  obtain ⟨hpos, -, hhi, hprod, -⟩ := div_div_bounds hd ht hn
  have hn' : (0 : ℚ) < n := by exact_mod_cast hn
  have hgap : (m * t + 1 : ℚ) ≤ n * d := by exact_mod_cast hm
  have hsmall' : (n * d : ℚ) < 2 ^ 50 := by exact_mod_cast hsmall
  have hd' : (0 : ℚ) ≤ d := by exact_mod_cast hd
  refine le_of_mul_le_mul_right ?_ hpos
  refine le_trans ?_ hprod
  by_cases hm0 : (m : ℚ) ≤ 0
  · exact (mul_nonpos_of_nonpos_of_nonneg hm0 hpos.le).trans (mul_nonneg hd' (by norm_num))
  · have hm0' : (0 : ℚ) ≤ m := (not_le.mp hm0).le
    refine le_of_mul_le_mul_left ?_ hn'
    calc n * (m * div t n) ≤ n * (m * (t / n * (1 + 1 / 2 ^ 53))) := by gcongr
      _ = m * t * (1 + 1 / 2 ^ 53) := by field_simp
      _ ≤ n * (d * (1 - 1 / 2 ^ 53)) := by nlinarith

/-- Only a quotient that is whole may come out below the whole number. -/
theorem le_div_div_iff (hd : 0 ≤ d) (hsmall : n * d < 2 ^ 50) (ht : 0 < t) (hn : 0 < n) :
    (m : ℚ) ≤ div d (div t n) ↔ m * t < n * d ∨ m * t = n * d ∧ (m : ℚ) ≤ div d (div t n) := by
  constructor
  · intro hle
    rcases lt_trichotomy (m * t) (n * d) with hlt | heq | hgt
    · exact .inl hlt
    · exact .inr ⟨heq, hle⟩
    · exact absurd hle (not_le_div_div hd hsmall ht hn hgt)
  · rintro (hlt | ⟨-, hle⟩)
    · exact le_div_div hd hsmall ht hn hlt
    · exact hle

/-- 2412 / 160.8, which is 15. -/
example : div (2412 : ℤ) (div (1608 : ℤ) (10 : ℤ)) < 15 := by decide +kernel

end

end Binary64
