import CloudOS.Scaling.ReplicaCount

/-!
# Scaling decisions

`MakeScalingDecision` of `module2-orchestrator/pkg/scaling/hpa_calculator.go`
over exact rationals, with its conversion to `int32` as truncation.  How `%.1f`
prints is a parameter; log lines are left out.

The action and the number of replicas follow different rules.  Whatever the
action, the number stays within the bounds and covers the queue; it does not
always go in the direction that the action says.
-/

set_option autoImplicit false

namespace CloudOS.Scaling.HpaDecision

open CloudOS.Lib.Rounding
open CloudOS.Scaling.ReplicaCount

structure MetricsSnapshot where
  queueDepth : Int64
  currentReplicas : Int32
  currentCPU : ℚ
  currentMemory : ℚ

inductive Action where
  | scaleUp
  | scaleDown
  | noChange
  deriving DecidableEq, Repr

def Action.text : Action → String
  | .scaleUp => "scale-up"
  | .scaleDown => "scale-down"
  | .noChange => "no-change"

structure ScalingDecision where
  desiredReplicas : Int32
  action : Action
  reason : String
  queueBasedReplicas : Int32

section Definitions
variable (hc : HPACalculator) (metrics : MetricsSnapshot)

def shouldScaleUp : Bool :=
  if metrics.currentCPU > hc.cpuThreshold then true
  else if metrics.currentMemory > hc.memThreshold then true
  else decide (hc.calculateDesiredReplicas metrics.queueDepth > metrics.currentReplicas)

def shouldScaleDown : Bool :=
  if metrics.currentReplicas ≤ hc.minReplicas then false
  else if shouldScaleUp hc metrics then false
  else if metrics.currentCPU < hc.cpuThreshold * (1 / 2) then true
  else if metrics.currentMemory < hc.memThreshold * (1 / 2) then true
  else decide (hc.calculateDesiredReplicas metrics.queueDepth < metrics.currentReplicas ∧
    metrics.currentCPU < hc.cpuThreshold * (3 / 5))

def calculateFrom (usage threshold : ℚ) : Int32 :=
  if usage = 0 then hc.minReplicas
  else
    let ratio := usage / threshold
    let desired := truncate (metrics.currentReplicas.toInt * ratio)
    if desired < hc.minReplicas.toInt then hc.minReplicas
    else if desired > hc.maxReplicas.toInt then hc.maxReplicas
    else Int32.ofInt desired

def calculateFromCPU : Int32 := calculateFrom hc metrics metrics.currentCPU hc.cpuThreshold

def calculateFromMemory : Int32 := calculateFrom hc metrics metrics.currentMemory hc.memThreshold

def makeScalingDecision (fixed1 : ℚ → String) : ScalingDecision :=
  let queueBased := hc.calculateDesiredReplicas metrics.queueDepth
  if shouldScaleUp hc metrics then
    if calculateFromCPU hc metrics > queueBased then
      ⟨calculateFromCPU hc metrics, .scaleUp,
        s!"CPU-based scaling ({fixed1 metrics.currentCPU}% > {fixed1 hc.cpuThreshold}%)", queueBased⟩
    else if calculateFromMemory hc metrics > queueBased then
      ⟨calculateFromMemory hc metrics, .scaleUp,
        s!"Memory-based scaling ({fixed1 metrics.currentMemory}% > {fixed1 hc.memThreshold}%)",
        queueBased⟩
    else ⟨queueBased, .scaleUp, s!"Queue-based scaling (depth: {metrics.queueDepth} items)", queueBased⟩
  else if shouldScaleDown hc metrics then
    let desired := if queueBased < hc.minReplicas then hc.minReplicas else queueBased
    ⟨desired, .scaleDown,
      s!"Scaling down from {metrics.currentReplicas} to {desired} replicas " ++
        s!"(queue: {metrics.queueDepth} items)", queueBased⟩
  else ⟨metrics.currentReplicas, .noChange, "Metrics within acceptable ranges", queueBased⟩

/-- The replicas go where the action says: up to each of the three counts and
not down, down, or nowhere. -/
def FollowsAction (decision : ScalingDecision) : Prop :=
  match decision.action with
  | .scaleUp =>
      metrics.currentReplicas ≤ decision.desiredReplicas ∧
        hc.calculateDesiredReplicas metrics.queueDepth ≤ decision.desiredReplicas ∧
        calculateFromCPU hc metrics ≤ decision.desiredReplicas ∧
        calculateFromMemory hc metrics ≤ decision.desiredReplicas
  | .scaleDown => decision.desiredReplicas < metrics.currentReplicas
  | .noChange => decision.desiredReplicas = metrics.currentReplicas

/-- What the calculator was configured with, and what it is told. -/
structure Wellformed : Prop where
  least : 1 ≤ hc.minReplicas.toInt
  ordered : hc.minReplicas.toInt ≤ hc.maxReplicas.toInt
  perPod : 1 ≤ hc.itemsPerPod.toInt
  depth : 0 ≤ metrics.queueDepth.toInt
  lower : hc.minReplicas.toInt ≤ metrics.currentReplicas.toInt
  upper : metrics.currentReplicas.toInt ≤ hc.maxReplicas.toInt

structure Positive : Prop where
  cpuThreshold : 0 < hc.cpuThreshold
  memThreshold : 0 < hc.memThreshold
  cpu : 0 ≤ metrics.currentCPU
  memory : 0 ≤ metrics.currentMemory

/-! ## The three counts -/

/-- Where the sum overflows, the calculator falls back to the minimum. -/
def queueDemand : Int :=
  if metrics.queueDepth.toInt + hc.itemsPerPod.toInt - 1 ≤ 9223372036854775807 then
    max hc.minReplicas.toInt
      (min hc.maxReplicas.toInt ⌈(metrics.queueDepth.toInt : ℚ) / hc.itemsPerPod.toInt⌉)
  else hc.minReplicas.toInt

def usageDemand (usage threshold : ℚ) : Int :=
  max hc.minReplicas.toInt
    (min hc.maxReplicas.toInt ⌊metrics.currentReplicas.toInt * (usage / threshold)⌋)

def cpuDemand : Int := usageDemand hc metrics metrics.currentCPU hc.cpuThreshold

def memDemand : Int := usageDemand hc metrics metrics.currentMemory hc.memThreshold

/-- One of the measures is above what the current replicas are good for. -/
def Pressed : Prop :=
  hc.cpuThreshold < metrics.currentCPU ∨ hc.memThreshold < metrics.currentMemory ∨
    metrics.currentReplicas.toInt < queueDemand hc metrics

/-- One of the measures is low enough to give replicas up. -/
def Idle : Prop :=
  metrics.currentCPU < hc.cpuThreshold * (1 / 2) ∨
    metrics.currentMemory < hc.memThreshold * (1 / 2) ∨
    queueDemand hc metrics < metrics.currentReplicas.toInt ∧
      metrics.currentCPU < hc.cpuThreshold * (3 / 5)

/-- Under pressure the CPU does not ask for more than the queue while the memory
asks for still more; and without it, replicas that the queue needs are not
given up because a usage is low. -/
def Consistent : Prop :=
  (Pressed hc metrics →
    ¬ (queueDemand hc metrics < cpuDemand hc metrics ∧
      cpuDemand hc metrics < memDemand hc metrics)) ∧
  (¬ Pressed hc metrics → hc.minReplicas.toInt < metrics.currentReplicas.toInt →
    queueDemand hc metrics = metrics.currentReplicas.toInt →
      hc.cpuThreshold * (1 / 2) ≤ metrics.currentCPU ∧
        hc.memThreshold * (1 / 2) ≤ metrics.currentMemory)

end Definitions

section Counts
variable {hc : HPACalculator} {metrics : MetricsSnapshot} (wellformed : Wellformed hc metrics)

theorem calculateFrom_bounds (ordered : hc.minReplicas.toInt ≤ hc.maxReplicas.toInt)
    (usage threshold : ℚ) :
    hc.minReplicas.toInt ≤ (calculateFrom hc metrics usage threshold).toInt ∧
      (calculateFrom hc metrics usage threshold).toInt ≤ hc.maxReplicas.toInt := by
  have lowest := Int32.le_toInt hc.minReplicas
  have highest := Int32.toInt_lt hc.maxReplicas
  simp only [calculateFrom]
  split_ifs with none few many
  · exact ⟨le_refl _, ordered⟩
  · exact ⟨le_refl _, ordered⟩
  · exact ⟨ordered, le_refl _⟩
  · rw [Int32.toInt_ofInt_of_le (by omega) (by omega)]
    omega

include wellformed

theorem calculateDesiredReplicas_eq_queueDemand :
    (hc.calculateDesiredReplicas metrics.queueDepth).toInt = queueDemand hc metrics := by
  have least : 0 ≤ hc.minReplicas.toInt := by linarith [wellformed.least]
  unfold queueDemand
  split_ifs with inRange
  · exact calculateDesiredReplicas_toInt wellformed.depth wellformed.perPod inRange least
      wellformed.ordered
  · have nonpos := needed_toInt_nonpos wellformed.perPod (not_le.mp inRange)
    have few : (metrics.queueDepth + hc.itemsPerPod - 1) / hc.itemsPerPod <
        hc.minReplicas.toInt64 := by
      rw [Int64.lt_iff_toInt_lt, Int32.toInt_toInt64]
      linarith [wellformed.least]
    simp only [HPACalculator.calculateDesiredReplicas, few, if_true, ite_self]

theorem queueDemand_bounds :
    hc.minReplicas.toInt ≤ queueDemand hc metrics ∧
      queueDemand hc metrics ≤ hc.maxReplicas.toInt := by
  have ordered := wellformed.ordered
  unfold queueDemand
  split_ifs <;> omega

theorem calculateFrom_eq_usageDemand {usage threshold : ℚ} (pos : 0 < threshold)
    (nonneg : 0 ≤ usage) :
    (calculateFrom hc metrics usage threshold).toInt = usageDemand hc metrics usage threshold := by
  have least := wellformed.least
  have ordered := wellformed.ordered
  have lower := wellformed.lower
  have highest := Int32.toInt_lt hc.maxReplicas
  have replicas : (0 : ℚ) ≤ metrics.currentReplicas.toInt := by
    exact_mod_cast (by omega : 0 ≤ metrics.currentReplicas.toInt)
  have product : 0 ≤ metrics.currentReplicas.toInt * (usage / threshold) :=
    mul_nonneg replicas (div_nonneg nonneg pos.le)
  simp only [calculateFrom, usageDemand, truncate_eq_floor product]
  split_ifs with none few many
  · rw [none, zero_div, mul_zero, Int.floor_zero]
    omega
  · omega
  · omega
  · rw [Int32.toInt_ofInt_of_le (by omega) (by omega)]
    omega

theorem le_usageDemand {usage threshold : ℚ} (pos : 0 < threshold) (above : threshold < usage) :
    metrics.currentReplicas.toInt ≤ usageDemand hc metrics usage threshold := by
  have least := wellformed.least
  have lower := wellformed.lower
  have upper := wellformed.upper
  have replicas : (0 : ℚ) ≤ metrics.currentReplicas.toInt := by
    exact_mod_cast (by omega : 0 ≤ metrics.currentReplicas.toInt)
  have ratio : 1 ≤ usage / threshold := (one_le_div pos).mpr above.le
  have reached : metrics.currentReplicas.toInt ≤
      ⌊metrics.currentReplicas.toInt * (usage / threshold)⌋ := by
    rw [Int.le_floor]
    exact le_mul_of_one_le_right replicas ratio
  unfold usageDemand
  omega

end Counts

/-! ## The decision -/

section Decision
variable {hc : HPACalculator} {metrics : MetricsSnapshot} (wellformed : Wellformed hc metrics)
include wellformed

theorem shouldScaleUp_iff : shouldScaleUp hc metrics = true ↔ Pressed hc metrics := by
  have queue := calculateDesiredReplicas_eq_queueDemand wellformed
  unfold shouldScaleUp Pressed
  rw [← queue]
  split_ifs with cpu memory
  · simp [cpu]
  · simp [memory]
  · rw [gt_iff_lt] at cpu memory
    simp only [gt_iff_lt, Int32.lt_iff_toInt_lt, decide_eq_true_eq, cpu, memory, false_or]

theorem shouldScaleDown_iff :
    shouldScaleDown hc metrics = true ↔
      hc.minReplicas.toInt < metrics.currentReplicas.toInt ∧ ¬ Pressed hc metrics ∧
        Idle hc metrics := by
  have queue := calculateDesiredReplicas_eq_queueDemand wellformed
  have up := shouldScaleUp_iff wellformed
  unfold shouldScaleDown Idle
  rw [← queue, ← up]
  split_ifs with least pressed cpu memory
  · rw [Int32.le_iff_toInt_le] at least
    exact iff_of_false id fun both => not_lt.mpr least both.1
  · exact iff_of_false id fun both => both.2.1 pressed
  · rw [Int32.le_iff_toInt_le, not_le] at least
    exact iff_of_true rfl ⟨least, pressed, .inl cpu⟩
  · rw [Int32.le_iff_toInt_le, not_le] at least
    exact iff_of_true rfl ⟨least, pressed, .inr (.inl memory)⟩
  · rw [Int32.le_iff_toInt_le, not_le] at least
    rw [decide_eq_true_eq, Int32.lt_iff_toInt_lt]
    constructor
    · intro low
      exact ⟨least, pressed, .inr (.inr low)⟩
    · rintro ⟨_, _, low⟩
      exact (low.resolve_left cpu).resolve_left memory

def raised (queueBased cpuBased memBased : Int) : Int :=
  if queueBased < cpuBased then cpuBased else if queueBased < memBased then memBased else queueBased

theorem makeScalingDecision_cases (fixed1 : ℚ → String) :
    (Pressed hc metrics ∧ (makeScalingDecision hc metrics fixed1).action = .scaleUp ∧
        (makeScalingDecision hc metrics fixed1).desiredReplicas.toInt =
          raised (queueDemand hc metrics) (calculateFromCPU hc metrics).toInt
            (calculateFromMemory hc metrics).toInt) ∨
      (¬ Pressed hc metrics ∧ hc.minReplicas.toInt < metrics.currentReplicas.toInt ∧
        Idle hc metrics ∧ (makeScalingDecision hc metrics fixed1).action = .scaleDown ∧
        (makeScalingDecision hc metrics fixed1).desiredReplicas.toInt = queueDemand hc metrics) ∨
      (¬ Pressed hc metrics ∧
        ¬ (hc.minReplicas.toInt < metrics.currentReplicas.toInt ∧ Idle hc metrics) ∧
        (makeScalingDecision hc metrics fixed1).action = .noChange ∧
        (makeScalingDecision hc metrics fixed1).desiredReplicas = metrics.currentReplicas) := by
  have queue := calculateDesiredReplicas_eq_queueDemand wellformed
  have bounds := queueDemand_bounds wellformed
  have up := shouldScaleUp_iff wellformed
  have down := shouldScaleDown_iff wellformed
  unfold makeScalingDecision raised
  by_cases pressed : shouldScaleUp hc metrics = true
  · left
    refine ⟨up.mp pressed, ?_⟩
    rw [← queue]
    simp only [pressed, if_true, gt_iff_lt, Int32.lt_iff_toInt_lt]
    split_ifs <;> exact ⟨rfl, rfl⟩
  · right
    have calm : ¬ Pressed hc metrics := mt up.mpr pressed
    by_cases idle : shouldScaleDown hc metrics = true
    · left
      obtain ⟨spare, _, isIdle⟩ := down.mp idle
      have covered : ¬ hc.calculateDesiredReplicas metrics.queueDepth < hc.minReplicas := by
        rw [Int32.lt_iff_toInt_lt, queue]
        omega
      rw [if_neg pressed, if_pos idle, if_neg covered]
      exact ⟨calm, spare, isIdle, rfl, queue⟩
    · right
      rw [if_neg pressed, if_neg idle]
      exact ⟨calm, fun both => idle (down.mpr ⟨both.1, calm, both.2⟩), rfl, rfl⟩

/-- The decision goes where its action says exactly when the measures are
consistent. -/
theorem decision_follows_action_iff (positive : Positive hc metrics) (fixed1 : ℚ → String) :
    FollowsAction hc metrics (makeScalingDecision hc metrics fixed1) ↔
      Consistent hc metrics := by
  have queue := calculateDesiredReplicas_eq_queueDemand wellformed
  have cpu : (calculateFromCPU hc metrics).toInt = cpuDemand hc metrics :=
    calculateFrom_eq_usageDemand wellformed positive.cpuThreshold positive.cpu
  have memory : (calculateFromMemory hc metrics).toInt = memDemand hc metrics :=
    calculateFrom_eq_usageDemand wellformed positive.memThreshold positive.memory
  unfold FollowsAction Consistent
  rcases makeScalingDecision_cases wellformed fixed1 with
    ⟨pressed, action, desired⟩ | ⟨calm, spare, idle, action, desired⟩ |
      ⟨calm, notIdle, action, desired⟩
  · -- one of the three counts is no less than the current replicas
    have highest : metrics.currentReplicas.toInt ≤ cpuDemand hc metrics ∨
        metrics.currentReplicas.toInt ≤ memDemand hc metrics ∨
        metrics.currentReplicas.toInt ≤ queueDemand hc metrics := by
      rcases pressed with high | high | deep
      · exact .inl (le_usageDemand wellformed positive.cpuThreshold high)
      · exact .inr (.inl (le_usageDemand wellformed positive.memThreshold high))
      · exact .inr (.inr deep.le)
    simp only [action, Int32.le_iff_toInt_le, desired, queue, cpu, memory, pressed, raised,
      forall_const, not_true_eq_false, false_imp_iff, and_true]
    split_ifs <;> omega
  · simp only [action, Int32.lt_iff_toInt_lt, desired, calm, spare, false_imp_iff, true_and,
      not_false_eq_true, forall_const]
    have covered : queueDemand hc metrics ≤ metrics.currentReplicas.toInt :=
      not_lt.mp fun deep => calm (.inr (.inr deep))
    constructor
    · intro fewer same
      omega
    · intro busy
      by_contra notFewer
      obtain ⟨cpuBusy, memBusy⟩ := busy (le_antisymm covered (not_lt.mp notFewer))
      rcases idle with low | low | ⟨fewer, _⟩
      · exact absurd low (not_lt.mpr cpuBusy)
      · exact absurd low (not_lt.mpr memBusy)
      · exact notFewer fewer
  · simp only [action, desired, calm, false_imp_iff, true_and, not_false_eq_true, forall_const,
      true_iff]
    intro spare _
    constructor
    · exact not_lt.mp fun low => notIdle ⟨spare, .inl low⟩
    · exact not_lt.mp fun low => notIdle ⟨spare, .inr (.inl low)⟩

/-- Whatever the measures and the action, the replicas stay within the bounds
and cover the queue as far as the bounds allow. -/
theorem decision_covers_queue (inRange : InRange metrics.queueDepth hc.itemsPerPod)
    (fixed1 : ℚ → String) :
    hc.minReplicas ≤ (makeScalingDecision hc metrics fixed1).desiredReplicas ∧
      (makeScalingDecision hc metrics fixed1).desiredReplicas ≤ hc.maxReplicas ∧
      min hc.maxReplicas.toInt ⌈(metrics.queueDepth.toInt : ℚ) / hc.itemsPerPod.toInt⌉ ≤
        (makeScalingDecision hc metrics fixed1).desiredReplicas.toInt := by
  have bounds := queueDemand_bounds wellformed
  have cpu := @calculateFrom_bounds hc metrics wellformed.ordered metrics.currentCPU hc.cpuThreshold
  have memory := @calculateFrom_bounds hc metrics wellformed.ordered metrics.currentMemory
    hc.memThreshold
  have lower := wellformed.lower
  have upper := wellformed.upper
  have demand : min hc.maxReplicas.toInt
      ⌈(metrics.queueDepth.toInt : ℚ) / hc.itemsPerPod.toInt⌉ ≤ queueDemand hc metrics := by
    unfold queueDemand
    rw [if_pos inRange.sum]
    exact le_max_right _ _
  rw [Int32.le_iff_toInt_le, Int32.le_iff_toInt_le]
  rcases makeScalingDecision_cases wellformed fixed1 with
    ⟨_, _, desired⟩ | ⟨_, _, _, _, desired⟩ | ⟨calm, _, _, desired⟩
  · rw [desired]
    unfold raised calculateFromCPU calculateFromMemory
    split_ifs <;> omega
  · rw [desired]
    omega
  · have covered : queueDemand hc metrics ≤ metrics.currentReplicas.toInt :=
      not_lt.mp fun deep => calm (.inr (.inr deep))
    rw [desired]
    omega

end Decision

/-! ## Decisions of one calculator -/

instance (hc : HPACalculator) (metrics : MetricsSnapshot) : Decidable (Pressed hc metrics) :=
  inferInstanceAs (Decidable (_ ∨ _ ∨ _))

instance (hc : HPACalculator) (metrics : MetricsSnapshot) : Decidable (Consistent hc metrics) :=
  inferInstanceAs (Decidable (_ ∧ _))

instance (hc : HPACalculator) (metrics : MetricsSnapshot) :
    DecidablePred (FollowsAction hc metrics)
  | ⟨_, .scaleUp, _, _⟩ => inferInstanceAs (Decidable (_ ∧ _ ∧ _ ∧ _))
  | ⟨_, .scaleDown, _, _⟩ => inferInstanceAs (Decidable (_ < _))
  | ⟨_, .noChange, _, _⟩ => inferInstanceAs (Decidable (_ = _))

def noFormat : ℚ → String := fun _ => ""

def quiet : MetricsSnapshot := ⟨20, 10, 40, 50⟩

theorem quiet_follows_action :
    (makeScalingDecision tenPerPod quiet noFormat).action = .scaleDown ∧
      (makeScalingDecision tenPerPod quiet noFormat).desiredReplicas = 2 ∧
      FollowsAction tenPerPod quiet (makeScalingDecision tenPerPod quiet noFormat) := by
  have wellformed : Wellformed tenPerPod quiet :=
    ⟨by decide, by decide, by decide, by decide, by decide, by decide⟩
  have positive : Positive tenPerPod quiet :=
    ⟨by decide +kernel, by decide +kernel, by decide +kernel, by decide +kernel⟩
  exact ⟨by decide +kernel, by decide +kernel,
    (decision_follows_action_iff wellformed positive noFormat).mpr (by decide +kernel)⟩

theorem quiet_covers_queue :
    2 ≤ (makeScalingDecision tenPerPod quiet noFormat).desiredReplicas ∧
      (makeScalingDecision tenPerPod quiet noFormat).desiredReplicas ≤ 50 ∧
      min 50 ⌈(20 : ℚ) / 10⌉ ≤
        (makeScalingDecision tenPerPod quiet noFormat).desiredReplicas.toInt := by
  have wellformed : Wellformed tenPerPod quiet :=
    ⟨by decide, by decide, by decide, by decide, by decide, by decide⟩
  have inRange : InRange quiet.queueDepth tenPerPod.itemsPerPod :=
    ⟨by decide, by decide, by decide⟩
  exact decision_covers_queue wellformed inRange noFormat

/-- The memory of ten pods is short, their CPU half as busy as it might be. -/
def shortOfMemory : MetricsSnapshot := ⟨20, 10, 35, 88⟩

/-- Ten pods have exactly the items they take, and a low CPU. -/
def lowCpu : MetricsSnapshot := ⟨100, 10, 10, 60⟩

/-- A decision to scale up that goes from ten pods to five, and one to scale
down that stays at ten. -/
theorem decisions_against_action :
    (makeScalingDecision tenPerPod shortOfMemory noFormat).action = .scaleUp ∧
      (makeScalingDecision tenPerPod shortOfMemory noFormat).desiredReplicas = 5 ∧
      calculateFromMemory tenPerPod shortOfMemory = 11 ∧
      ¬ FollowsAction tenPerPod shortOfMemory
        (makeScalingDecision tenPerPod shortOfMemory noFormat) ∧
      (makeScalingDecision tenPerPod lowCpu noFormat).action = .scaleDown ∧
      (makeScalingDecision tenPerPod lowCpu noFormat).desiredReplicas = 10 ∧
      ¬ FollowsAction tenPerPod lowCpu (makeScalingDecision tenPerPod lowCpu noFormat) := by
  decide +kernel

end CloudOS.Scaling.HpaDecision
