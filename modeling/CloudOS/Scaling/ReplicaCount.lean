import CloudOS.Lib.Intervals
import CloudOS.Lib.Rounding

/-!
# Replicas for a queue

The two functions that turn the depth of the queue into a number of replicas,
`HPACalculator.CalculateDesiredReplicas` in
`module2-orchestrator/pkg/scaling/hpa_calculator.go` and
`KEDAScaler.CalculateDesiredReplicasFromQueueDepth` in `keda_scaler.go`.  The
first computes in `int64` and returns an `int32`; the `int` of the second has
64 bits.  A pod takes `itemsPerPod` items.
-/

set_option autoImplicit false

namespace CloudOS.Scaling.ReplicaCount

open CloudOS.Lib.Intervals
open CloudOS.Lib.Rounding

structure HPACalculator where
  minReplicas : Int32
  maxReplicas : Int32
  itemsPerPod : Int64
  cpuThreshold : ℚ
  memThreshold : ℚ

def HPACalculator.calculateDesiredReplicas (hc : HPACalculator) (queueDepth : Int64) : Int32 :=
  if queueDepth = 0 then hc.minReplicas
  else
    let needed := (queueDepth + hc.itemsPerPod - 1) / hc.itemsPerPod
    if needed < hc.minReplicas.toInt64 then hc.minReplicas
    else if needed > hc.maxReplicas.toInt64 then hc.maxReplicas
    else needed.toInt32

def calculateDesiredReplicasFromQueueDepth
    (queueDepth itemsPerPod minReplicas maxReplicas : Int64) : Int64 :=
  if queueDepth = 0 then minReplicas
  else
    let needed := (queueDepth + itemsPerPod - 1) / itemsPerPod
    if needed < minReplicas then minReplicas
    else if needed > maxReplicas then maxReplicas
    else needed

/-! ## Rounding up -/

section Needed
variable {queueDepth itemsPerPod : Int64}

/-- As long as the sum stays in range, the division rounds up. -/
theorem needed_toInt (nonneg : 0 ≤ queueDepth.toInt) (perPod : 1 ≤ itemsPerPod.toInt)
    (inRange : queueDepth.toInt + itemsPerPod.toInt - 1 ≤ 9223372036854775807) :
    ((queueDepth + itemsPerPod - 1) / itemsPerPod).toInt =
      ⌈(queueDepth.toInt : ℚ) / itemsPerPod.toInt⌉ := by
  have sum : (queueDepth + itemsPerPod - 1).toInt =
      queueDepth.toInt + itemsPerPod.toInt - 1 := by
    rw [Int64.toInt_sub, Int64.toInt_add, Int64.toInt_one, Int.bmod_sub_bmod,
      Int.bmod_eq_of_le] <;> omega
  have notMin : queueDepth + itemsPerPod - 1 ≠ Int64.minValue := by
    intro same
    rw [same] at sum
    have lowest : Int64.minValue.toInt = -9223372036854775808 := by decide
    omega
  rw [Int64.toInt_div_of_ne_left _ _ notMin, sum, tdiv_add_pred_eq_ceil nonneg perPod]

/-- Otherwise it wraps to a negative sum. -/
theorem needed_toInt_nonpos (perPod : 1 ≤ itemsPerPod.toInt)
    (overflow : 9223372036854775807 < queueDepth.toInt + itemsPerPod.toInt - 1) :
    ((queueDepth + itemsPerPod - 1) / itemsPerPod).toInt ≤ 0 := by
  have upper := Int64.toInt_lt queueDepth
  have upper' := Int64.toInt_lt itemsPerPod
  have sum : (queueDepth + itemsPerPod - 1).toInt =
      queueDepth.toInt + itemsPerPod.toInt - 1 - 18446744073709551616 := by
    rw [Int64.toInt_sub, Int64.toInt_add, Int64.toInt_one, Int.bmod_sub_bmod,
      ← Int.sub_bmod_right, Int.bmod_eq_of_le] <;> omega
  have notMinusOne : itemsPerPod ≠ -1 := by
    intro same
    rw [same] at perPod
    exact absurd perPod (by decide)
  rw [Int64.toInt_div_of_ne_right _ _ notMinusOne]
  have quotient : 0 ≤ (-(queueDepth + itemsPerPod - 1).toInt).tdiv itemsPerPod.toInt :=
    Int.tdiv_nonneg (by omega) (by omega)
  rw [Int.neg_tdiv] at quotient
  omega

end Needed

/-! ## The rule -/

section Rule
variable {hc : HPACalculator} {queueDepth : Int64}

theorem calculateDesiredReplicas_toInt (nonneg : 0 ≤ queueDepth.toInt)
    (perPod : 1 ≤ hc.itemsPerPod.toInt)
    (inRange : queueDepth.toInt + hc.itemsPerPod.toInt - 1 ≤ 9223372036854775807)
    (least : 0 ≤ hc.minReplicas.toInt) (ordered : hc.minReplicas.toInt ≤ hc.maxReplicas.toInt) :
    (hc.calculateDesiredReplicas queueDepth).toInt =
      max hc.minReplicas.toInt
        (min hc.maxReplicas.toInt ⌈(queueDepth.toInt : ℚ) / hc.itemsPerPod.toInt⌉) := by
  have exact_needed := needed_toInt nonneg perPod inRange
  unfold HPACalculator.calculateDesiredReplicas
  by_cases empty : queueDepth = 0
  · rw [if_pos empty, empty, Int64.toInt_zero, Int.cast_zero, zero_div, Int.ceil_zero]
    omega
  · rw [if_neg empty]
    simp only [gt_iff_lt, Int64.lt_iff_toInt_lt, Int32.toInt_toInt64, exact_needed]
    generalize ⌈(queueDepth.toInt : ℚ) / hc.itemsPerPod.toInt⌉ = needed at exact_needed
    have upper := Int32.toInt_lt hc.maxReplicas
    split_ifs with few many
    · omega
    · omega
    · rw [Int64.toInt_toInt32, exact_needed, Int.bmod_eq_of_le] <;> omega

theorem fromQueueDepth_toInt {itemsPerPod minReplicas maxReplicas : Int64}
    (nonneg : 0 ≤ queueDepth.toInt) (perPod : 1 ≤ itemsPerPod.toInt)
    (inRange : queueDepth.toInt + itemsPerPod.toInt - 1 ≤ 9223372036854775807)
    (least : 0 ≤ minReplicas.toInt) (ordered : minReplicas.toInt ≤ maxReplicas.toInt) :
    (calculateDesiredReplicasFromQueueDepth queueDepth itemsPerPod minReplicas maxReplicas).toInt =
      max minReplicas.toInt
        (min maxReplicas.toInt ⌈(queueDepth.toInt : ℚ) / itemsPerPod.toInt⌉) := by
  have exact_needed := needed_toInt nonneg perPod inRange
  unfold calculateDesiredReplicasFromQueueDepth
  by_cases empty : queueDepth = 0
  · rw [if_pos empty, empty, Int64.toInt_zero, Int.cast_zero, zero_div, Int.ceil_zero]
    omega
  · rw [if_neg empty]
    simp only [gt_iff_lt, Int64.lt_iff_toInt_lt, exact_needed]
    generalize ⌈(queueDepth.toInt : ℚ) / itemsPerPod.toInt⌉ = needed at exact_needed
    split_ifs with few many
    · omega
    · omega
    · omega

structure InRange (queueDepth itemsPerPod : Int64) : Prop where
  depth : 0 ≤ queueDepth.toInt
  perPod : 1 ≤ itemsPerPod.toInt
  sum : queueDepth.toInt + itemsPerPod.toInt - 1 ≤ 9223372036854775807

/-- The share of each of `r` pods is small enough. -/
def Covers (queueDepth itemsPerPod : Int64) (r : Int) : Prop :=
  queueDepth.toInt ≤ r * itemsPerPod.toInt

theorem Covers.of_le_depth {queueDepth queueDepth' itemsPerPod : Int64} {r : Int}
    (deeper : queueDepth ≤ queueDepth') (covers : Covers queueDepth' itemsPerPod r) :
    Covers queueDepth itemsPerPod r := by
  rw [Int64.le_iff_toInt_le] at deeper
  exact deeper.trans covers

theorem Covers.of_le_perPod {queueDepth itemsPerPod itemsPerPod' : Int64} {r : Int}
    (nonneg : 0 ≤ r) (larger : itemsPerPod ≤ itemsPerPod')
    (covers : Covers queueDepth itemsPerPod r) : Covers queueDepth itemsPerPod' r := by
  rw [Int64.le_iff_toInt_le] at larger
  exact le_trans covers (mul_le_mul_of_nonneg_left larger nonneg)

variable (least : 0 ≤ hc.minReplicas.toInt) (ordered : hc.minReplicas.toInt ≤ hc.maxReplicas.toInt)
include least ordered

theorem calculateDesiredReplicas_least (inRange : InRange queueDepth hc.itemsPerPod) :
    LeastWithin hc.minReplicas.toInt hc.maxReplicas.toInt (Covers queueDepth hc.itemsPerPod)
      (hc.calculateDesiredReplicas queueDepth).toInt := by
  rw [calculateDesiredReplicas_toInt inRange.depth inRange.perPod inRange.sum least ordered]
  exact leastWithin_clamp ordered fun r => (ceil_div_le_iff inRange.perPod r).symm

theorem fromQueueDepth_least {itemsPerPod : Int64} (inRange : InRange queueDepth itemsPerPod) :
    LeastWithin hc.minReplicas.toInt hc.maxReplicas.toInt (Covers queueDepth itemsPerPod)
      (calculateDesiredReplicasFromQueueDepth queueDepth itemsPerPod hc.minReplicas.toInt64
        hc.maxReplicas.toInt64).toInt := by
  rw [fromQueueDepth_toInt inRange.depth inRange.perPod inRange.sum
    (by rw [Int32.toInt_toInt64]; exact least)
    (by rw [Int32.toInt_toInt64, Int32.toInt_toInt64]; exact ordered),
    Int32.toInt_toInt64, Int32.toInt_toInt64]
  exact leastWithin_clamp ordered fun r => (ceil_div_le_iff inRange.perPod r).symm

end Rule

/-- Both calculators return the least number of replicas within the bounds that
covers the queue, or the greatest if none does.  So they agree; more items ask
for no fewer replicas, and larger shares for no more. -/
theorem calculators_follow_rule (hc : HPACalculator) (least : 0 ≤ hc.minReplicas.toInt)
    (ordered : hc.minReplicas.toInt ≤ hc.maxReplicas.toInt) (queueDepth : Int64)
    (inRange : InRange queueDepth hc.itemsPerPod) :
    LeastWithin hc.minReplicas.toInt hc.maxReplicas.toInt (Covers queueDepth hc.itemsPerPod)
        (hc.calculateDesiredReplicas queueDepth).toInt ∧
      LeastWithin hc.minReplicas.toInt hc.maxReplicas.toInt (Covers queueDepth hc.itemsPerPod)
        (calculateDesiredReplicasFromQueueDepth queueDepth hc.itemsPerPod
          hc.minReplicas.toInt64 hc.maxReplicas.toInt64).toInt ∧
      (hc.calculateDesiredReplicas queueDepth).toInt64 =
        calculateDesiredReplicasFromQueueDepth queueDepth hc.itemsPerPod
          hc.minReplicas.toInt64 hc.maxReplicas.toInt64 ∧
      (∀ deeper, InRange deeper hc.itemsPerPod → queueDepth ≤ deeper →
        hc.calculateDesiredReplicas queueDepth ≤ hc.calculateDesiredReplicas deeper) ∧
      ∀ larger, InRange queueDepth larger → hc.itemsPerPod ≤ larger →
        HPACalculator.calculateDesiredReplicas { hc with itemsPerPod := larger } queueDepth ≤
          hc.calculateDesiredReplicas queueDepth := by
  have hpa := calculateDesiredReplicas_least least ordered inRange
  have keda := fromQueueDepth_least least ordered inRange
  refine ⟨hpa, keda, ?_, ?_, ?_⟩
  · rw [← Int64.toInt_inj, Int32.toInt_toInt64]
    exact hpa.unique keda
  · intro deeper inRange' isDeeper
    rw [Int32.le_iff_toInt_le]
    exact hpa.le_of_imp (calculateDesiredReplicas_least least ordered inRange')
      fun _ _ covers => covers.of_le_depth isDeeper
  · intro larger inRange' isLarger
    rw [Int32.le_iff_toInt_le]
    have fewer := @calculateDesiredReplicas_least { hc with itemsPerPod := larger } queueDepth
      least ordered inRange'
    exact fewer.le_of_imp hpa fun _ above covers => covers.of_le_perPod (least.trans above) isLarger

/-- Two to fifty replicas, ten items each. -/
def tenPerPod : HPACalculator := ⟨2, 50, 10, 70, 80⟩

theorem tenPerPod_follows_rule :
    tenPerPod.calculateDesiredReplicas 95 = 10 ∧
      LeastWithin 2 50 (Covers 95 10) 10 ∧
      (∀ deeper, InRange deeper 10 → 95 ≤ deeper →
        10 ≤ tenPerPod.calculateDesiredReplicas deeper) := by
  have inRange : InRange 95 tenPerPod.itemsPerPod := ⟨by decide, by decide, by decide⟩
  have rule := calculators_follow_rule tenPerPod (by decide) (by decide) 95 inRange
  exact ⟨by decide, rule.1, rule.2.2.2.1⟩

end CloudOS.Scaling.ReplicaCount
