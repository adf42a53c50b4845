import Mathlib.Data.Int.Log
import Mathlib.Data.Rat.Floor
import Mathlib.Tactic.Linarith
import Mathlib.Tactic.Positivity
import Mathlib.Tactic.Ring

/-!
# Double Precision

The rationals a double holds, and the one of them that is nearest to a rational. A
double has 53 binary digits, so that a number has a last place, and rounding is to a
whole number of units there. No unit is smaller than `2 ^ -1074`. Between two
neighbours at the same distance the even one is taken, which is what arithmetic does
unless it is told otherwise.

What is too large for a double is not cut off here: the caller compares the result
with `2 ^ 1024`.

## Main definitions

* `roundHalfEven`: The integer nearest to a rational.
* `lastPlace`: The exponent of the last digit that is kept.
* `nearestDouble`: The double nearest to a rational.

## Theorems

* `roundHalfEven_error`, `nearestDouble_error`, `half_le_nearestDouble`,
  `abs_nearestDouble_lt`: How far rounding goes.
* `nearestDouble_scaled`: A number of at most 53 digits is kept as it is.
* `nearestDouble_intCast`: So are the integers up to `2 ^ 53`.
* `floor_nearestDouble_div`: A quotient has the same floor before and after, unless
  the divisor is too large for the digits that are kept.
-/

namespace VellarSdk

namespace Js

/-- The integer nearest to a rational, and the even one of two. -/
def roundHalfEven (q : ℚ) : Int :=
  if q - ⌊q⌋ < 1 / 2 then ⌊q⌋
  else if 1 / 2 < q - ⌊q⌋ then ⌊q⌋ + 1
  -- Half way between two integers, one of which is even.
  else if ⌊q⌋ % 2 = 0 then ⌊q⌋
  else ⌊q⌋ + 1

/-- An integer is nearest to itself. -/
theorem roundHalfEven_intCast (n : Int) : roundHalfEven n = n := by
  unfold roundHalfEven
  rw [Int.floor_intCast, sub_self, if_pos (by norm_num)]

/-- Rounding goes no further than half way to the next integer. -/
theorem roundHalfEven_error (q : ℚ) : |(roundHalfEven q : ℚ) - q| ≤ 1 / 2 := by
  have hlow := Int.floor_le q
  have hhigh := Int.lt_floor_add_one q
  unfold roundHalfEven
  rw [abs_le]
  split
  · constructor <;> linarith
  · split
    · push_cast
      constructor <;> linarith
    · split
      · constructor <;> linarith
      · push_cast
        constructor <;> linarith

/-- The exponent of the last binary digit a double keeps of a number: the 53rd, unless
    it would be too small. -/
def lastPlace (q : ℚ) : Int :=
  max (Int.log 2 |q| - 52) (-1074)

/-- The double nearest to a rational. -/
def nearestDouble (q : ℚ) : ℚ :=
  roundHalfEven (q / 2 ^ lastPlace q) * 2 ^ lastPlace q

/-- A unit in the last place. -/
theorem unit_pos (q : ℚ) : (0 : ℚ) < 2 ^ lastPlace q :=
  zpow_pos two_pos _

/-- Rounding goes no further than half a unit in the last place. -/
theorem nearestDouble_error (q : ℚ) : |nearestDouble q - q| ≤ 2 ^ lastPlace q / 2 := by
  have hunit := unit_pos q
  have hscaled : nearestDouble q - q =
      (roundHalfEven (q / 2 ^ lastPlace q) - q / 2 ^ lastPlace q) * 2 ^ lastPlace q := by
    rw [nearestDouble, sub_mul, div_mul_cancel₀ q hunit.ne']
  rw [hscaled, abs_mul, abs_of_pos hunit]
  calc |(roundHalfEven (q / 2 ^ lastPlace q) : ℚ) - q / 2 ^ lastPlace q| * 2 ^ lastPlace q
      ≤ 1 / 2 * 2 ^ lastPlace q :=
        mul_le_mul_of_nonneg_right (roundHalfEven_error _) hunit.le
    _ = 2 ^ lastPlace q / 2 := by ring

/-- A number below a power of two has its last place 53 digits below that power, unless
    there are no units so small. -/
theorem lastPlace_le {q : ℚ} {e : Int} (hne : q ≠ 0) (hq : |q| < 2 ^ e) (he : -1021 ≤ e) :
    lastPlace q ≤ e - 53 := by
  have hlog : Int.log 2 |q| < e :=
    (Int.lt_zpow_iff_log_lt Nat.one_lt_two (abs_pos.mpr hne)).mp hq
  unfold lastPlace
  omega

theorem nearestDouble_zero : nearestDouble 0 = 0 := by
  rw [nearestDouble, zero_div, ← Int.cast_zero, roundHalfEven_intCast, Int.cast_zero, zero_mul]

/-- Rounding does not take a number far beyond a bound on it. -/
theorem abs_nearestDouble_lt {q : ℚ} {e : Int} (hq : |q| < 2 ^ e) (he : -1021 ≤ e) :
    |nearestDouble q| < 2 ^ (e + 1) := by
  rcases eq_or_ne q 0 with rfl | hne
  · rw [nearestDouble_zero, abs_zero]
    exact zpow_pos two_pos _
  have hplace : (2 : ℚ) ^ lastPlace q ≤ 2 ^ e := by
    have hle := lastPlace_le hne hq he
    exact zpow_le_zpow_right₀ one_le_two (by omega)
  calc |nearestDouble q| ≤ |nearestDouble q - q| + |q| := by
        simpa only [sub_add_cancel] using abs_add_le (nearestDouble q - q) q
    _ < 2 ^ e + 2 ^ e := by
        have herror := nearestDouble_error q
        have hunit := unit_pos q
        linarith
    _ = 2 ^ (e + 1) := by rw [zpow_add_one₀ two_ne_zero, mul_two]

/-- A number of 53 digits at most, in units that there are, is kept as it is. -/
theorem nearestDouble_scaled {m k : Int} (hm : m.natAbs < 2 ^ 53) (hk : -1074 ≤ k) :
    nearestDouble (m * 2 ^ k) = m * 2 ^ k := by
  rcases eq_or_ne m 0 with rfl | hne
  · rw [Int.cast_zero, zero_mul, nearestDouble_zero]
  have hunit : (0 : ℚ) < 2 ^ k := zpow_pos two_pos _
  have habs : |(m : ℚ) * 2 ^ k| < 2 ^ (k + 53) := by
    have hcast : |(m : ℚ)| < 2 ^ (53 : ℤ) := by
      rw [← Int.cast_abs, Int.abs_eq_natAbs]
      exact_mod_cast hm
    rw [abs_mul, abs_of_pos hunit, zpow_add₀ two_ne_zero, mul_comm (2 ^ k)]
    exact mul_lt_mul_of_pos_right hcast hunit
  have hplace : lastPlace (m * 2 ^ k) ≤ k := by
    have h := lastPlace_le (mul_ne_zero (Int.cast_ne_zero.mpr hne) hunit.ne') habs (by omega)
    omega
  -- So it is a whole number of units in its last place.
  obtain ⟨j, hj⟩ := Int.eq_ofNat_of_zero_le (Int.sub_nonneg.mpr hplace)
  have hwhole : (m : ℚ) * 2 ^ k / 2 ^ lastPlace (m * 2 ^ k) = ((m * 2 ^ j : Int) : ℚ) := by
    rw [mul_div_assoc, ← zpow_sub₀ two_ne_zero, hj, zpow_natCast]
    push_cast
    rfl
  rw [nearestDouble, hwhole, roundHalfEven_intCast, ← hwhole,
    div_mul_cancel₀ _ (unit_pos _).ne']

/-- The integers up to `2 ^ 53` are doubles. -/
theorem nearestDouble_intCast {n : Int} (h : n.natAbs ≤ 2 ^ 53) : nearestDouble n = n := by
  rcases Nat.lt_or_eq_of_le h with hlt | heq
  · have hscaled := nearestDouble_scaled hlt (k := 0) (by decide)
    rwa [zpow_zero, mul_one] at hscaled
  · -- The two that have 54 digits are even.
    obtain ⟨m, rfl⟩ : ∃ m : Int, n = m * 2 := ⟨n / 2, by omega⟩
    have hscaled := nearestDouble_scaled (m := m) (k := 1) (by omega) (by decide)
    rw [zpow_one] at hscaled
    exact_mod_cast hscaled

/-- A quotient has the same floor after rounding, when the digits behind the point are
    enough to tell the fractions of the divisor apart. -/
theorem floor_nearestDouble_div {n : Int} {d e : Nat} (hd : 0 < d) (hde : d ≤ 2 ^ e)
    (he : e ≤ 53) (hn : |(n / d : ℚ)| < 2 ^ (53 - e : ℤ)) :
    ⌊nearestDouble (n / d)⌋ = n / d := by
  have hdq : (0 : ℚ) < d := Nat.cast_pos.mpr hd
  have hparts : (n : ℚ) = d * (n / d : Int) + (n % d : Int) := by
    exact_mod_cast (Int.mul_ediv_add_emod n d).symm
  have hquotient : (n / d : ℚ) = (n / d : Int) + (n % d : Int) / d := by
    rw [div_eq_iff hdq.ne', add_mul, div_mul_cancel₀ _ hdq.ne', mul_comm _ (d : ℚ)]
    exact hparts
  by_cases hzero : n % d = 0
  · -- The quotient is an integer with no more digits than a double has.
    rw [hzero, Int.cast_zero, zero_div, add_zero] at hquotient
    have hbound : (n / d).natAbs ≤ 2 ^ 53 := by
      have hle : (2 : ℚ) ^ (53 - e : ℤ) ≤ 2 ^ (53 : ℤ) :=
        zpow_le_zpow_right₀ one_le_two (by omega)
      rw [hquotient, ← Int.cast_abs, Int.abs_eq_natAbs] at hn
      exact_mod_cast hn.le.trans hle
    rw [hquotient, nearestDouble_intCast hbound, Int.floor_intCast]
  · have hfraction : (1 : ℚ) ≤ (n % d : Int) ∧ ((n % d : Int) : ℚ) ≤ d - 1 := by
      have hnonneg := Int.emod_nonneg n (Int.natCast_ne_zero.mpr hd.ne')
      have hlt := Int.emod_lt_of_pos n (Int.natCast_pos.mpr hd)
      have hpos : 1 ≤ n % d := by omega
      refine ⟨by exact_mod_cast hpos, ?_⟩
      rw [le_sub_iff_add_le]
      exact_mod_cast hlt
    have hne : (n / d : ℚ) ≠ 0 := by
      rw [div_ne_zero_iff]
      refine ⟨fun h => hzero ?_, hdq.ne'⟩
      rw [Int.cast_eq_zero.mp h, Int.zero_emod]
    -- Half a unit in the last place is less than the smallest fraction.
    have hsmall : (2 : ℚ) ^ lastPlace (n / d) / 2 < 1 / d := by
      have hplace : lastPlace (n / d) ≤ -e := by
        have h := lastPlace_le hne hn (by omega)
        omega
      have hunit : (2 : ℚ) ^ lastPlace (n / d) ≤ 1 / d := by
        calc (2 : ℚ) ^ lastPlace (n / d) ≤ 2 ^ (-e : ℤ) :=
              zpow_le_zpow_right₀ one_le_two hplace
          _ = 1 / 2 ^ e := by rw [zpow_neg, zpow_natCast, one_div]
          _ ≤ 1 / d := one_div_le_one_div_of_le hdq (by exact_mod_cast hde)
      exact lt_of_lt_of_le (half_lt_self (unit_pos _)) hunit
    obtain ⟨hlow, hhigh⟩ := abs_le.mp (nearestDouble_error (n / d))
    have hfirst : (1 : ℚ) / d ≤ (n % d : Int) / d := div_le_div_of_nonneg_right hfraction.1 hdq.le
    have hlast : ((n % d : Int) : ℚ) / d ≤ 1 - 1 / d := by
      calc ((n % d : Int) : ℚ) / d ≤ (d - 1) / d :=
            div_le_div_of_nonneg_right hfraction.2 hdq.le
        _ = 1 - 1 / d := by rw [sub_div, div_self hdq.ne']
    rw [Int.floor_eq_iff]
    constructor <;> linarith

/-- An integer that is written with more digits than there are. -/
example : nearestDouble 36893488147419103100 = 2 ^ 65 := by decide +kernel

end Js

end VellarSdk
