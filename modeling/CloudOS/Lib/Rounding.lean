import Mathlib.Data.Rat.Floor
import Mathlib.Tactic.Linarith

/-!
# Rounding

Cutting off fractions, dividing upwards in integers, and rounding to the
nearest multiple of one over `parts`, where a number in the middle between two
may go either way.
-/

set_option autoImplicit false

namespace CloudOS.Lib.Rounding

/-! ## Towards zero, and upwards -/

def truncate (x : ℚ) : Int := x.num.tdiv x.den

theorem truncate_eq_floor {x : ℚ} (nonneg : 0 ≤ x) : truncate x = ⌊x⌋ := by
  unfold truncate
  rw [Int.tdiv_eq_ediv_of_nonneg (Rat.num_nonneg.mpr nonneg), Rat.floor_def']

theorem ceil_div_le_iff {n d : Int} (pos : 1 ≤ d) (r : Int) :
    ⌈(n : ℚ) / d⌉ ≤ r ↔ n ≤ r * d := by
  have pos' : (0 : ℚ) < d := by exact_mod_cast pos
  rw [Int.ceil_le, div_le_iff₀ pos']
  norm_cast

theorem tdiv_add_pred_eq_ceil {n d : Int} (nonneg : 0 ≤ n) (pos : 1 ≤ d) :
    (n + d - 1).tdiv d = ⌈(n : ℚ) / d⌉ := by
  rw [Int.tdiv_eq_ediv_of_nonneg (by omega)]
  apply eq_of_forall_ge_iff
  intro r
  rw [ceil_div_le_iff pos, ← Int.lt_add_one_iff, Int.ediv_lt_iff_lt_mul (by omega), Int.add_mul]
  omega

/-! ## To the nearest -/

structure RoundsToParts (parts : Nat) (round : ℚ → ℚ) : Prop where
  multiple : ∀ x, ∃ n : Int, round x = n / parts
  near : ∀ x, |round x - x| ≤ 1 / (2 * parts)

section Nearest
variable {parts : Nat} {round : ℚ → ℚ} (rounds : RoundsToParts parts round) (pos : 0 < parts)
  {x : ℚ}
include rounds pos

theorem RoundsToParts.exists_parts (x : ℚ) :
    ∃ n : Int, round x = n / parts ∧ parts * x ≤ n + 1 / 2 ∧ n - 1 / 2 ≤ parts * x := by
  have pos' : (0 : ℚ) < parts := by exact_mod_cast pos
  obtain ⟨n, isMultiple⟩ := rounds.multiple x
  obtain ⟨lower, upper⟩ := abs_le.mp (rounds.near x)
  rw [isMultiple] at lower upper
  have half : (1 : ℚ) / (2 * parts) = 1 / 2 / parts := by ring
  rw [half] at lower upper
  have below : x ≤ (n + 1 / 2) / parts := by
    rw [add_div]
    linarith
  have above : (n - 1 / 2) / parts ≤ x := by
    rw [sub_div]
    linarith
  rw [le_div_iff₀ pos'] at below
  rw [div_le_iff₀ pos'] at above
  exact ⟨n, isMultiple, by linarith, by linarith⟩

theorem RoundsToParts.nonneg (nonneg : 0 ≤ x) : 0 ≤ round x := by
  obtain ⟨n, isMultiple, near, _⟩ := rounds.exists_parts pos x
  have scaled : 0 ≤ parts * x := mul_nonneg (Nat.cast_nonneg parts) nonneg
  have bound : (-1 : ℚ) < n := by linarith
  have whole : 0 ≤ n := Int.le_of_sub_one_lt (by exact_mod_cast bound)
  rw [isMultiple]
  exact div_nonneg (by exact_mod_cast whole) (Nat.cast_nonneg parts)

theorem RoundsToParts.le_whole {whole : Int} (bound : x ≤ whole) : round x ≤ whole := by
  have pos' : (0 : ℚ) < parts := by exact_mod_cast pos
  obtain ⟨n, isMultiple, _, near⟩ := rounds.exists_parts pos x
  have scaled : parts * x ≤ parts * whole := mul_le_mul_of_nonneg_left bound pos'.le
  have less : (n : ℚ) < parts * whole + 1 := by linarith
  have parts_le : n ≤ parts * whole := Int.le_of_lt_add_one (by exact_mod_cast less)
  rw [isMultiple, div_le_iff₀ pos', mul_comm]
  exact_mod_cast parts_le

/-- A rounded number is a part below the next whole number at least, and half a
part from `x` at most: the next whole number is no less than `x`. -/
theorem RoundsToParts.le_floor_add_one (x : ℚ) : x ≤ ⌊round x⌋ + 1 := by
  have pos' : (0 : ℚ) < parts := by exact_mod_cast pos
  obtain ⟨n, isMultiple, near, _⟩ := rounds.exists_parts pos x
  have next := Int.lt_floor_add_one (round x)
  generalize ⌊round x⌋ = whole at next ⊢
  rw [isMultiple, div_lt_iff₀ pos'] at next
  have parts_lt : n < (whole + 1) * parts := by exact_mod_cast next
  have parts_le : (n : ℚ) + 1 ≤ (whole + 1) * parts := by exact_mod_cast parts_lt
  have scaled : parts * x ≤ parts * (whole + 1) := by linarith
  exact le_of_mul_le_mul_left scaled pos'

end Nearest

def halfUp (parts : Nat) (x : ℚ) : ℚ := ⌊parts * x + 1 / 2⌋ / parts

theorem halfUp_rounds {parts : Nat} (pos : 0 < parts) : RoundsToParts parts (halfUp parts) := by
  have pos' : (0 : ℚ) < parts := by exact_mod_cast pos
  constructor
  · intro x
    exact ⟨⌊parts * x + 1 / 2⌋, rfl⟩
  · intro x
    have lower := Int.floor_le (parts * x + 1 / 2)
    have upper := Int.lt_floor_add_one (parts * x + 1 / 2)
    have half : (1 : ℚ) / (2 * parts) = 1 / 2 / parts := by ring
    have scaled : halfUp parts x - x = (⌊parts * x + 1 / 2⌋ - parts * x) / parts := by
      unfold halfUp
      rw [sub_div, mul_div_cancel_left₀ x pos'.ne']
    rw [half, scaled, abs_le, ← neg_div, div_le_div_iff_of_pos_right pos',
      div_le_div_iff_of_pos_right pos']
    constructor
    · linarith
    · linarith

end CloudOS.Lib.Rounding
