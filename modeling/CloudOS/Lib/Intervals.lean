import Mathlib.Order.Bounds.Basic
import Mathlib.Order.Lattice

/-!
# The least sufficient value of an interval

Of the values between two bounds, take the least that is enough; if none is,
take the greatest.  The value is determined by the condition, and a weaker
condition gives no greater value.  Where enough means at least some `n`, it is
`n` moved into the interval.
-/

set_option autoImplicit false

namespace CloudOS.Lib.Intervals

variable {α : Type} [LinearOrder α] {lo hi n r r' : α} {enough enough' : α → Prop}

def LeastWithin (lo hi : α) (enough : α → Prop) (r : α) : Prop :=
  IsLeast {x | lo ≤ x ∧ x ≤ hi ∧ enough x} r ∨
    (∀ x, lo ≤ x → x ≤ hi → ¬ enough x) ∧ r = hi

theorem LeastWithin.le_of_imp (least : LeastWithin lo hi enough r)
    (least' : LeastWithin lo hi enough' r')
    (weaker : ∀ x, lo ≤ x → enough' x → enough x) : r ≤ r' := by
  rcases least with isLeast | ⟨none, rfl⟩
  · rcases least' with isLeast' | ⟨_, rfl⟩
    · obtain ⟨above, below, isEnough⟩ := isLeast'.1
      exact isLeast.2 ⟨above, below, weaker r' above isEnough⟩
    · exact isLeast.1.2.1
  · rcases least' with isLeast' | ⟨_, rfl⟩
    · obtain ⟨above, below, isEnough⟩ := isLeast'.1
      exact absurd (weaker r' above isEnough) (none r' above below)
    · exact le_refl r'

theorem LeastWithin.unique (least : LeastWithin lo hi enough r)
    (least' : LeastWithin lo hi enough r') : r = r' :=
  le_antisymm (least.le_of_imp least' fun _ _ isEnough => isEnough)
    (least'.le_of_imp least fun _ _ isEnough => isEnough)

theorem leastWithin_clamp (ordered : lo ≤ hi) (threshold : ∀ x, enough x ↔ n ≤ x) :
    LeastWithin lo hi enough (max lo (min hi n)) := by
  by_cases reached : n ≤ hi
  · left
    rw [min_eq_right reached]
    constructor
    · exact ⟨le_max_left lo n, max_le ordered reached, (threshold _).mpr (le_max_right lo n)⟩
    · rintro x ⟨above, _, isEnough⟩
      exact max_le above ((threshold x).mp isEnough)
  · right
    have short : hi < n := not_le.mp reached
    constructor
    · intro x _ below isEnough
      exact absurd ((threshold x).mp isEnough) (not_le.mpr (below.trans_lt short))
    · rw [min_eq_left short.le, max_eq_right ordered]

end CloudOS.Lib.Intervals
