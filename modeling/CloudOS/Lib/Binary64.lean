import Mathlib.Data.Int.Log
import Mathlib.Data.Rat.Floor
import Mathlib.Tactic.FieldSimp
import Mathlib.Tactic.Linarith
import Mathlib.Tactic.Positivity

/-!
# Numbers of 64-bit floating point

`round64` is the rounding of IEEE 754 to binary64, to the nearest number of 53
binary digits and to the even one of two that are equally near.  Numbers are
neither so large that they overflow nor, but for zero, so small that they have
fewer digits.
-/

set_option autoImplicit false

namespace CloudOS.Lib.Binary64

/-! ## To whole numbers -/

def roundEven (x : ℚ) : Int :=
  if x - ⌊x⌋ < 1 / 2 then ⌊x⌋
  else if 1 / 2 < x - ⌊x⌋ then ⌊x⌋ + 1
  else if ⌊x⌋ % 2 = 0 then ⌊x⌋
  else ⌊x⌋ + 1

theorem roundEven_near (x : ℚ) : |(roundEven x : ℚ) - x| ≤ 1 / 2 := by
  have lower := Int.floor_le x
  have upper := Int.lt_floor_add_one x
  unfold roundEven
  rw [abs_le]
  split
  · constructor <;> linarith
  · split
    · push_cast
      constructor <;> linarith
    · split
      · constructor <;> linarith
      · push_cast
        constructor <;> linarith

theorem roundEven_nonneg {x : ℚ} (nonneg : 0 ≤ x) : 0 ≤ roundEven x := by
  have near := (abs_le.mp (roundEven_near x)).1
  have above : (-1 : ℚ) < roundEven x := by linarith
  have above' : -1 < roundEven x := by exact_mod_cast above
  omega

theorem roundEven_le {x : ℚ} {n : Int} (bound : x ≤ n) : roundEven x ≤ n := by
  have near := (abs_le.mp (roundEven_near x)).2
  have below : (roundEven x : ℚ) < n + 1 := by linarith
  have below' : roundEven x < n + 1 := by exact_mod_cast below
  omega

theorem roundEven_even_add {n : Int} (even : n % 2 = 0) (x : ℚ) :
    roundEven (n + x) = n + roundEven x := by
  have floor : ⌊(n : ℚ) + x⌋ = n + ⌊x⌋ := Int.floor_intCast_add n x
  have rest : (n : ℚ) + x - ((n + ⌊x⌋ : Int) : ℚ) = x - ⌊x⌋ := by
    push_cast
    ring
  have parity : (n + ⌊x⌋) % 2 = ⌊x⌋ % 2 := by omega
  unfold roundEven
  rw [floor, rest, parity, add_assoc]
  split
  · rfl
  · split
    · rfl
    · split <;> rfl

theorem roundEven_eq_zero {x : ℚ} (small : |x| ≤ 1 / 2) : roundEven x = 0 := by
  rw [abs_le] at small
  rcases lt_or_ge x 0 with negative | nonneg
  · have floor : ⌊x⌋ = -1 := by
      rw [Int.floor_eq_iff]
      push_cast
      constructor <;> linarith
    have rest : ¬ x - ((-1 : Int) : ℚ) < 1 / 2 := by
      push_cast
      linarith
    unfold roundEven
    rw [floor, if_neg rest]
    split <;> rfl
  · have floor : ⌊x⌋ = 0 := Int.floor_eq_zero_iff.mpr ⟨nonneg, by linarith⟩
    have rest : ¬ 1 / 2 < x - ((0 : Int) : ℚ) := by
      push_cast
      linarith
    unfold roundEven
    rw [floor, if_neg rest]
    split <;> rfl

/-! ## To binary places -/

def roundAt (places : Nat) (x : ℚ) : ℚ := roundEven (x * 2 ^ places) / 2 ^ places

theorem roundAt_near (places : Nat) (x : ℚ) :
    |roundAt places x - x| ≤ 1 / 2 ^ (places + 1) := by
  have unit : (0 : ℚ) < 2 ^ places := by positivity
  have scaled : roundAt places x - x = (roundEven (x * 2 ^ places) - x * 2 ^ places) / 2 ^ places := by
    unfold roundAt
    field_simp
  calc |roundAt places x - x|
      = |(roundEven (x * 2 ^ places) : ℚ) - x * 2 ^ places| / 2 ^ places := by
        rw [scaled, abs_div, abs_of_pos unit]
    _ ≤ 1 / 2 / 2 ^ places := by
        gcongr
        exact roundEven_near _
    _ = 1 / 2 ^ (places + 1) := by
        rw [pow_succ]
        field_simp

theorem roundAt_whole_add {places : Nat} (fractional : 0 < places) (n : Int) (x : ℚ) :
    roundAt places (n + x) = n + roundAt places x := by
  have unit : (2 : ℚ) ^ places ≠ 0 := by positivity
  have even : (n * 2 ^ places) % 2 = 0 :=
    Int.emod_eq_zero_of_dvd ((dvd_pow_self 2 fractional.ne').mul_left n)
  have scaled : ((n : ℚ) + x) * 2 ^ places = ((n * 2 ^ places : Int) : ℚ) + x * 2 ^ places := by
    push_cast
    ring
  unfold roundAt
  rw [scaled, roundEven_even_add even]
  push_cast
  rw [add_div, mul_div_cancel_right₀ _ unit]

theorem roundAt_eq_zero {places : Nat} {x : ℚ} (small : |x| ≤ 1 / 2 ^ (places + 1)) :
    roundAt places x = 0 := by
  have half : |x * 2 ^ places| ≤ 1 / 2 := by
    rw [le_div_iff₀ (by positivity), pow_succ] at small
    rw [abs_mul, abs_of_pos (show (0 : ℚ) < 2 ^ places by positivity)]
    linarith
  unfold roundAt
  rw [roundEven_eq_zero half, Int.cast_zero, zero_div]

theorem roundAt_fraction_cases {places : Nat} (fractional : 0 < places) {x : ℚ}
    (nonneg : 0 ≤ x) (bounded : x ≤ 1) :
    (x ≤ 1 / 2 ^ (places + 1) ∧ roundAt places x = 0) ∨
      (1 - x ≤ 1 / 2 ^ (places + 1) ∧ roundAt places x = 1) ∨
      (¬ x ≤ 1 / 2 ^ (places + 1) ∧ ¬ 1 - x ≤ 1 / 2 ^ (places + 1) ∧
        0 < roundAt places x ∧ roundAt places x < 1) := by
  by_cases low : x ≤ 1 / 2 ^ (places + 1)
  · exact .inl ⟨low, roundAt_eq_zero (by rwa [abs_of_nonneg nonneg])⟩
  by_cases high : 1 - x ≤ 1 / 2 ^ (places + 1)
  · have rest : roundAt places (x - 1) = 0 :=
      roundAt_eq_zero (by rwa [abs_sub_comm, abs_of_nonneg (by linarith)])
    have shifted := roundAt_whole_add fractional 1 (x - 1)
    rw [Int.cast_one, add_sub_cancel, rest, add_zero] at shifted
    exact .inr (.inl ⟨high, shifted⟩)
  · have near := abs_le.mp (roundAt_near places x)
    exact .inr (.inr ⟨low, high, by linarith, by linarith⟩)

/-! ## To 53 binary digits -/

def unit64 (x : ℚ) : ℚ := 2 ^ (Int.log 2 |x| - 52)

def round64 (x : ℚ) : ℚ := roundEven (x / unit64 x) * unit64 x

/-- The seconds of a number of nanoseconds, as the sum of the whole ones and the
rest.  Both parts are whole numbers of 53 digits at most. -/
def seconds64 (nanoseconds : Int) : ℚ :=
  round64 (nanoseconds.tdiv 1000000000 + round64 (nanoseconds.tmod 1000000000 / 1000000000))

theorem round64_zero : round64 0 = 0 := by simp [round64, roundEven]

theorem unit64_pos (x : ℚ) : 0 < unit64 x := zpow_pos (by norm_num) _

theorem round64_near {x : ℚ} (nonneg : 0 ≤ x) : |round64 x - x| ≤ x / 2 ^ 53 := by
  rcases nonneg.eq_or_lt with rfl | positive
  · rw [round64_zero]
    norm_num
  have pos := unit64_pos x
  have half : unit64 x = 2 ^ Int.log 2 x / 2 ^ 52 := by
    unfold unit64
    rw [abs_of_pos positive, zpow_sub₀ (by norm_num)]
    norm_num
  have leading : (2 : ℚ) ^ Int.log 2 x ≤ x := by
    exact_mod_cast Int.zpow_log_le_self (by norm_num) positive
  have scaled : round64 x - x = (roundEven (x / unit64 x) - x / unit64 x) * unit64 x := by
    unfold round64
    field_simp
  calc |round64 x - x|
      = |(roundEven (x / unit64 x) : ℚ) - x / unit64 x| * unit64 x := by
        rw [scaled, abs_mul, abs_of_pos pos]
    _ ≤ 1 / 2 * unit64 x := by
        gcongr
        exact roundEven_near _
    _ = 2 ^ Int.log 2 x / 2 ^ 53 := by
        rw [half]
        ring
    _ ≤ x / 2 ^ 53 := by gcongr

theorem round64_nonneg {x : ℚ} (nonneg : 0 ≤ x) : 0 ≤ round64 x := by
  have pos := unit64_pos x
  have whole : 0 ≤ roundEven (x / unit64 x) := roundEven_nonneg (by positivity)
  unfold round64
  positivity

theorem round64_eq_roundAt {x : ℚ} (digits : Int.log 2 |x| ≤ 52) :
    round64 x = roundAt (52 - Int.log 2 |x|).toNat x := by
  have places : ((52 - Int.log 2 |x|).toNat : Int) = -(Int.log 2 |x| - 52) := by omega
  have unit : (2 : ℚ) ^ (52 - Int.log 2 |x|).toNat = (unit64 x)⁻¹ := by
    unfold unit64
    rw [← zpow_natCast, places, zpow_neg]
  unfold round64 roundAt
  rw [unit, ← div_eq_mul_inv, div_inv_eq_mul]

theorem round64_le {x : ℚ} {n : Nat} (nonneg : 0 ≤ x) (small : x < 2 ^ 53) (bound : x ≤ n) :
    round64 x ≤ n := by
  rcases nonneg.eq_or_lt with rfl | positive
  · rwa [round64_zero]
  have digits : Int.log 2 |x| ≤ 52 := by
    rw [abs_of_pos positive, ← Int.lt_add_one_iff, ← Int.lt_zpow_iff_log_lt (by norm_num) positive]
    exact_mod_cast small
  rw [round64_eq_roundAt digits]
  generalize (52 - Int.log 2 |x|).toNat = places
  have scaled : x * 2 ^ places ≤ ((n * 2 ^ places : Int) : ℚ) := by
    push_cast
    gcongr
  have rounded : ((roundEven (x * 2 ^ places) : Int) : ℚ) ≤ ((n * 2 ^ places : Int) : ℚ) := by
    exact_mod_cast roundEven_le scaled
  push_cast at rounded
  unfold roundAt
  rwa [div_le_iff₀ (by positivity)]

/-- The digits of a number that has a whole part are those of the whole part and as many
binary places as are left. -/
theorem round64_whole_add {n : Nat} (positive : 0 < n) (below : n < 2 ^ 52) {x : ℚ}
    (nonneg : 0 ≤ x) (fraction : x < 1) :
    round64 (n + x) = n + roundAt (52 - Nat.log 2 n) x := by
  have log_lt : Nat.log 2 n < 52 := Nat.log_lt_of_lt_pow positive.ne' below
  have lower : ((2 : ℕ) : ℚ) ^ (Nat.log 2 n : Int) ≤ n + x := by
    have whole : (2 : ℚ) ^ Nat.log 2 n ≤ n := by exact_mod_cast Nat.pow_log_le_self 2 positive.ne'
    rw [zpow_natCast]
    push_cast
    linarith
  have upper : (n : ℚ) + x < ((2 : ℕ) : ℚ) ^ (Nat.log 2 n + 1 : Int) := by
    have whole : (n : ℚ) + 1 ≤ 2 ^ (Nat.log 2 n + 1) := by
      exact_mod_cast Nat.lt_pow_succ_log_self (by norm_num) n
    rw [show (Nat.log 2 n + 1 : Int) = ((Nat.log 2 n + 1 : Nat) : Int) by push_cast; rfl, zpow_natCast]
    push_cast
    linarith
  have sum_pos : (0 : ℚ) < n + x := by positivity
  have log_eq : Int.log 2 ((n : ℚ) + x) = Nat.log 2 n := by
    have least := (Int.zpow_le_iff_le_log (by norm_num) sum_pos).mp lower
    have greatest := (Int.lt_zpow_iff_log_lt (by norm_num) sum_pos).mp upper
    omega
  have places : (52 - (Nat.log 2 n : Int)).toNat = 52 - Nat.log 2 n := by omega
  have digits : Int.log 2 |(n : ℚ) + x| = Nat.log 2 n := by rw [abs_of_pos sum_pos, log_eq]
  rw [round64_eq_roundAt (by omega), digits, places]
  exact roundAt_whole_add (by omega) n x

end CloudOS.Lib.Binary64
