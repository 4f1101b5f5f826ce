import AitpPlayground.Lib.Py
import Mathlib.Algebra.Order.Floor.Ring
import Mathlib.Data.Int.Log
import Mathlib.Data.Rat.Floor
import Mathlib.Tactic.FieldSimp
import Mathlib.Tactic.Linarith

/-!
# `AitpPlayground.Lib.Double`: rounding to the doubles of IEEE 754

An operation on floats gives the double nearest to its exact result, and of two that are
equally near the one with an even significand. `roundDouble` is this rounding, on the exact
result as a rational: a double has 53 bits, its last place is worth at least `2 ^ (-1074)`, and
a result of `2 ^ 1024` or more is an infinity.

* `roundDouble_of_multiple`: a multiple of a power of two, with less than 53 bits, is a double.
* `roundDouble_sub_of_grid` and `roundDouble_add_of_grid`: so the difference and the sum of two
  numbers on a common grid of 52 bits are exact.
-/

set_option autoImplicit false

namespace AitpPlayground.Lib

/-- The integer nearest to `q`, the even one of two that are equally near. -/
def roundEven (q : ℚ) : ℤ :=
  let k := ⌊q⌋
  if q - k < 1 / 2 then k
  else if 1 / 2 < q - k then k + 1
  else k + k % 2

/-- An integer is nearest to itself. -/
@[simp] theorem roundEven_intCast (k : ℤ) : roundEven (k : ℚ) = k := by
  simp [roundEven]

/-- What the last place of a double near `q` is worth. Below `2 ^ (-1022)` the doubles are
equally spaced. -/
def lastPlace (q : ℚ) : ℚ := 2 ^ max (Int.log 2 |q| - 52) (-1074)

/-- The double nearest to `q`. -/
def roundDouble (q : ℚ) : PyFloat :=
  let r := roundEven (q / lastPlace q) * lastPlace q
  if 2 ^ 1024 ≤ |r| then .inf (decide (q < 0)) else .fin r

/-- Zero is a double. -/
theorem roundDouble_zero : roundDouble 0 = .fin 0 := by decide +kernel

/-- A multiple of a power of two with less than 53 bits is a double. -/
theorem roundDouble_of_multiple {q : ℚ} {n k : ℤ} (hq : q = n * 2 ^ k) (hn : |n| < 2 ^ 53)
    (hlo : -1074 ≤ k) (hhi : k ≤ 971) : roundDouble q = .fin q := by
  rcases (abs_nonneg q).eq_or_lt with hzero | hpos
  · rw [abs_eq_zero.mp hzero.symm, roundDouble_zero]
  have htwo : (2 : ℚ) ≠ 0 := two_ne_zero
  have hnq : |(n : ℚ)| < 2 ^ 53 := by exact_mod_cast hn
  have habs : |q| = |(n : ℚ)| * 2 ^ k := by
    rw [hq, abs_mul, abs_of_pos (a := (2 : ℚ) ^ k) (zpow_pos two_pos k)]
  have hbound : |q| < 2 ^ (k + 53) := by
    rw [habs, zpow_add₀ htwo, mul_comm]
    exact mul_lt_mul_of_pos_left (by exact_mod_cast hnq) (zpow_pos two_pos k)
  -- The last place is worth no more than the grid, so `q` is a whole number of them.
  obtain ⟨j, hj, hplace⟩ : ∃ j : ℕ, (2 : ℚ) ^ k = 2 ^ j * lastPlace q ∧ 0 < lastPlace q := by
    have hexp : max (Int.log 2 |q| - 52) (-1074) ≤ k := by
      refine max_le ?_ hlo
      have := (Int.lt_zpow_iff_log_lt one_lt_two hpos).mp (by exact_mod_cast hbound)
      omega
    refine ⟨(k - max (Int.log 2 |q| - 52) (-1074)).toNat, ?_, zpow_pos two_pos _⟩
    rw [lastPlace, ← zpow_natCast, ← zpow_add₀ htwo, Int.toNat_of_nonneg (by omega),
      sub_add_cancel]
  have hwhole : q / lastPlace q = ((n * 2 ^ j : ℤ) : ℚ) := by
    rw [div_eq_iff hplace.ne']
    push_cast
    rw [mul_assoc, ← hj, ← hq]
  have hsmall : ¬(2 : ℚ) ^ 1024 ≤ |q| := by
    rw [not_le]
    refine hbound.trans_le ?_
    rw [← zpow_natCast]
    exact zpow_le_zpow_right₀ one_le_two (by omega)
  have hback : (roundEven (q / lastPlace q) : ℚ) * lastPlace q = q := by
    rw [hwhole, roundEven_intCast, ← hwhole, div_mul_cancel₀ _ hplace.ne']
  simp only [roundDouble, hback, if_neg hsmall]

/-- `q` is a whole number of units of `2 ^ k`, of less than 53 bits. -/
def OnGrid (k : ℤ) (q : ℚ) : Prop :=
  ∃ n : ℤ, |n| < 2 ^ 52 ∧ q = n * 2 ^ k

section Grid

variable {k : ℤ} {q r : ℚ}

/-- A number on the grid is a double. -/
theorem roundDouble_of_grid (hq : OnGrid k q) (hlo : -1074 ≤ k) (hhi : k ≤ 971) :
    roundDouble q = .fin q := by
  obtain ⟨n, hn, heq⟩ := hq
  exact roundDouble_of_multiple heq (by omega) hlo hhi

/-- The difference of two numbers on one grid is exact. -/
theorem roundDouble_sub_of_grid (hq : OnGrid k q) (hr : OnGrid k r) (hlo : -1074 ≤ k)
    (hhi : k ≤ 971) : roundDouble (q - r) = .fin (q - r) := by
  obtain ⟨n, hn, rfl⟩ := hq
  obtain ⟨m, hm, rfl⟩ := hr
  refine roundDouble_of_multiple (n := n - m) (by push_cast; ring) ?_ hlo hhi
  have := abs_sub n m
  omega

/-- The sum of two numbers on one grid is exact. -/
theorem roundDouble_add_of_grid (hq : OnGrid k q) (hr : OnGrid k r) (hlo : -1074 ≤ k)
    (hhi : k ≤ 971) : roundDouble (q + r) = .fin (q + r) := by
  obtain ⟨n, hn, rfl⟩ := hq
  obtain ⟨m, hm, rfl⟩ := hr
  refine roundDouble_of_multiple (n := n + m) (by push_cast; ring) ?_ hlo hhi
  have := abs_add_le n m
  omega

end Grid

end AitpPlayground.Lib
