import CloudOS.Lib.StagedRounds
import CloudOS.Operator.FinishedPods

/-!
# An acyclic set of TaskJobs reaches its outcome

A round reconciles every TaskJob of a set, in any order, and then lets every
pod end.  The cluster follows the rounds of `Lib.StagedRounds`: `Represents`
says which phase and which pods stand for each stage, and every reconcile keeps
it.  What the rounds come to is then read off the stages.
-/

set_option autoImplicit false

namespace CloudOS.Operator.DagOutcome

open CloudOS.Kubernetes.Objects
open CloudOS.Lib.History
open CloudOS.Lib.StagedRounds
open CloudOS.Lib.VersionedStore
open CloudOS.Operator.DependencySafety hiding Ready Seen ready_kept
open CloudOS.Operator.FinishedPods
open CloudOS.Operator.ReconcileEval
open CloudOS.Operator.ReconcileOutline (reportedPhase)
open CloudOS.Operator.TaskJobReconcile
open CloudOS.Operator.TaskJobCluster
open Relation (TransGen)

/-! ## Rounds -/

def endPhase (success : Bool) : PodPhase := if success then .succeeded else .failed

def endPod (outcome : String → Bool) (pod : Pod) : Pod :=
  match pod.labels taskIdLabel with
  | none => pod
  | some t => { pod with status := { pod.status with phase := endPhase (outcome t) } }

def podsEnd (outcome : String → Bool) (w : Cluster) : Cluster :=
  { w with pods := w.pods.map (endPod outcome) }

section Round
variable (parseQuantity : String → Option ℚ) (ns : String) (outcome : String → Bool)

def reconcileNamed (w : Cluster) (t : String) : Cluster := afterReconcile parseQuantity ⟨ns, t⟩ w

def clusterRound (w : Cluster) (order : List String) : Cluster :=
  podsEnd outcome (after (reconcileNamed parseQuantity ns) w order)

end Round

/-- The TaskJobs named in `S`, with images and readable quantities, whose
dependencies stay inside `S` and form no cycle; nothing has been started. -/
structure Workload (parseQuantity : String → Option ℚ) (ns : String) (S : Finset String)
    (spec : String → TaskJobSpec) (w : Cluster) : Prop where
  jobs : ∀ t ∈ S, ∃ entry, w.jobs.cell ⟨ns, t⟩ = some entry ∧ entry.value.spec = spec t ∧
    entry.value.status.phase = .unset
  noPods : w.pods = []
  image : ∀ t ∈ S, (spec t).image ≠ ""
  cpu : ∀ t ∈ S, (parseQuantity (orDefault (spec t).cpuRequest "500m")).isSome
  memory : ∀ t ∈ S, (parseQuantity (orDefault (spec t).memoryRequest "256Mi")).isSome
  closed : ∀ t ∈ S, ∀ d ∈ (spec t).dependsOn, d ∈ S
  acyclic : ∀ t ∈ S, ¬ TransGen (Needs fun t => (spec t).dependsOn) t t

/-! ## The cluster behind the stages -/

def PhaseFits (success : Bool) (phase : TaskPhase) : Stage → Prop
  | .fresh => phase = .unset
  | .waiting => phase = .queued
  | .started => phase = .running ∨ phase = .queued
  | .ended => phase = .running ∨ phase = .queued
  | .settled => phase = if success then .completed else .failed

def PodsFit (success : Bool) (items : List Pod) : Stage → Prop
  | .fresh => items = []
  | .waiting => items = []
  | .started => ∃ pod, items = [pod] ∧ pod.status.phase = .pending
  | .ended => ∃ pod, items = [pod] ∧ pod.status.phase = endPhase success
  | .settled => ∃ pod, items = [pod] ∧ pod.status.phase = endPhase success

structure Represents (ns : String) (S : Finset String) (spec : String → TaskJobSpec)
    (outcome : String → Bool) (σ : String → Stage) (w : Cluster) : Prop where
  job : ∀ t ∈ S, ∃ entry, w.jobs.cell ⟨ns, t⟩ = some entry ∧ entry.value.spec = spec t ∧
    PhaseFits (outcome t) entry.value.status.phase (σ t)
  pods : ∀ t ∈ S, PodsFit (outcome t) (w.pods.filter (labelledFor ns t)) (σ t)
  named : ∀ pod ∈ w.pods, ∃ t, pod.labels taskIdLabel = some t ∧
    pod.key = ⟨ns, "taskjob-" ++ t⟩

section Step
variable {parseQuantity : String → Option ℚ} {ns : String} {S : Finset String}
  {spec : String → TaskJobSpec} {outcome : String → Bool} {σ : String → Stage} {w : Cluster}

theorem represents_update (represents : Represents ns S spec outcome σ w) {t : String}
    {stage : Stage} {w' : Cluster} {status : TaskJobStatus}
    (jobs : w'.jobs = w.jobs.put ⟨ns, t⟩ ⟨spec t, status⟩)
    (fits : PhaseFits (outcome t) status.phase stage)
    (otherPods : ∀ u, u ≠ t → w'.pods.filter (labelledFor ns u) =
      w.pods.filter (labelledFor ns u))
    (ownPods : PodsFit (outcome t) (w'.pods.filter (labelledFor ns t)) stage)
    (named : ∀ pod ∈ w'.pods, ∃ u, pod.labels taskIdLabel = some u ∧
      pod.key = ⟨ns, "taskjob-" ++ u⟩) :
    Represents ns S spec outcome (Function.update σ t stage) w' := by
  refine ⟨?_, ?_, named⟩
  · intro u inS
    by_cases same : u = t
    · subst same
      refine ⟨⟨w.jobs.next, ⟨spec u, status⟩⟩, by simp [jobs], rfl, ?_⟩
      simpa using fits
    · obtain ⟨entry, found, sameSpec, phase⟩ := represents.job u inS
      have other : (⟨ns, u⟩ : ObjectKey) ≠ ⟨ns, t⟩ := fun equal => same (congrArg ObjectKey.name equal)
      refine ⟨entry, ?_, sameSpec, ?_⟩
      · rw [jobs, put_cell_of_ne _ _ other]
        exact found
      · simpa [same] using phase
  · intro u inS
    by_cases same : u = t
    · subst same
      simpa using ownPods
    · rw [otherPods u same]
      simpa [same] using represents.pods u inS

theorem represents_write (represents : Represents ns S spec outcome σ w) {t : String}
    {stage : Stage} {status : TaskJobStatus}
    (fits : PhaseFits (outcome t) status.phase stage)
    (ownPods : PodsFit (outcome t) (w.pods.filter (labelledFor ns t)) stage) :
    Represents ns S spec outcome (Function.update σ t stage)
      (writeJobStatus w ⟨ns, t⟩ (spec t) status) :=
  represents_update represents rfl fits (fun _ _ => rfl) ownPods represents.named

theorem represents_start (represents : Represents ns S spec outcome σ w) {t : String} {pod : Pod}
    {status : TaskJobStatus} (phase : status.phase = .running)
    (noPod : w.pods.filter (labelledFor ns t) = [])
    (named : pod.key = ⟨ns, "taskjob-" ++ t⟩) (label : pod.labels taskIdLabel = some t) :
    Represents ns S spec outcome (Function.update σ t .started)
      (writeJobStatus (addPod w pod) ⟨ns, t⟩ (spec t) status) := by
  apply represents_update represents rfl
  · exact Or.inl phase
  · intro u different
    have notOwn : labelledFor ns u { pod with uid := w.nextUid, status := .fresh } = false := by
      simp [labelledFor, label, Ne.symm different]
    simp [writeJobStatus, addPod, List.filter_append, notOwn]
  · have own : labelledFor ns t { pod with uid := w.nextUid, status := .fresh } = true := by
      simp [labelledFor, label, named]
    exact ⟨{ pod with uid := w.nextUid, status := .fresh },
      by simp [writeJobStatus, addPod, List.filter_append, noPod, own], rfl⟩
  · intro other member
    rcases List.mem_append.mp member with old | new
    · exact represents.named other old
    · rw [List.mem_singleton] at new
      subst new
      exact ⟨t, label, named⟩

theorem represents_same (represents : Represents ns S spec outcome σ w) {t : String}
    {stage : Stage} (same : σ t = stage) :
    Represents ns S spec outcome (Function.update σ t stage) w := by
  rw [← same, Function.update_eq_self]
  exact represents

theorem completedIn_iff (represents : Represents ns S spec outcome σ w) {d : String}
    (inS : d ∈ S) : CompletedIn w ns d ↔ σ d = .settled ∧ outcome d = true := by
  obtain ⟨entry, found, _, phase⟩ := represents.job d inS
  have current : CompletedIn w ns d ↔ entry.value.status.phase = .completed := by
    constructor
    · rintro ⟨again, here, done⟩
      cases Option.some.inj (here.symm.trans found)
      exact done
    · exact fun done => ⟨entry, found, done⟩
  rw [current]
  cases stage : σ d with
  | fresh => simp_all [PhaseFits]
  | waiting => simp_all [PhaseFits]
  | started => rcases (stage ▸ phase : PhaseFits _ _ Stage.started) with here | here <;> simp [here]
  | ended => rcases (stage ▸ phase : PhaseFits _ _ Stage.ended) with here | here <;> simp [here]
  | settled =>
      rw [stage] at phase
      cases success : outcome d <;> simp_all [PhaseFits]

theorem ready_iff (represents : Represents ns S spec outcome σ w)
    (closed : ∀ t ∈ S, ∀ d ∈ (spec t).dependsOn, d ∈ S) {t : String} (inS : t ∈ S) :
    Ready (fun t => (spec t).dependsOn) outcome σ t ↔
      ∀ d ∈ (spec t).dependsOn, CompletedIn w ns d := by
  constructor
  · intro ready d member
    exact (completedIn_iff represents (closed t inS d member)).mpr (ready d member)
  · intro completed d member
    exact (completedIn_iff represents (closed t inS d member)).mp (completed d member)

theorem phaseFits_live {success : Bool} {phase : TaskPhase} {stage : Stage}
    (fits : PhaseFits success phase stage) (unsettled : stage ≠ .settled) :
    ¬ TaskPhase.terminal phase := by
  cases stage with
  | fresh => simp_all [PhaseFits, TaskPhase.terminal]
  | waiting => simp_all [PhaseFits, TaskPhase.terminal]
  | started =>
      rcases (fits : _ ∨ _) with here | here <;> simp [here, TaskPhase.terminal]
  | ended =>
      rcases (fits : _ ∨ _) with here | here <;> simp [here, TaskPhase.terminal]
  | settled => exact absurd rfl unsettled

variable {start : Cluster} (workload : Workload parseQuantity ns S spec start)
include workload

theorem reconcile_unstarted (represents : Represents ns S spec outcome σ w) {t : String}
    (inS : t ∈ S) (noPod : w.pods.filter (labelledFor ns t) = [])
    (unsettled : σ t ≠ .settled) :
    Represents ns S spec outcome
      (Function.update σ t
        (if Ready (fun t => (spec t).dependsOn) outcome σ t then .started else .waiting))
      (reconcileNamed parseQuantity ns w t) := by
  obtain ⟨entry, found, sameSpec, phase⟩ := represents.job t inS
  have live := phaseFits_live phase unsettled
  by_cases ready : Ready (fun t => (spec t).dependsOn) outcome σ t
  · rw [if_pos ready]
    have completed := (ready_iff represents workload.closed inS).mp ready
    rw [← sameSpec] at completed
    have start : afterReconcile parseQuantity ⟨ns, t⟩ w = _ := congrArg Prod.snd
      (reconcile_eval_start parseQuantity found live completed (by simp [noPod]))
    obtain ⟨pod, built⟩ : ∃ pod, buildPod parseQuantity (toTaskJob ⟨ns, t⟩ entry) = some pod := by
      rw [← Option.isSome_iff_exists, buildPod_isSome_iff]
      constructor
      · simpa [toTaskJob, sameSpec] using workload.cpu t inS
      · simpa [toTaskJob, sameSpec] using workload.memory t inS
    obtain ⟨named, label⟩ := buildPod_label built
    have free : ∀ other ∈ w.pods, other.key ≠ pod.key := by
      -- a pod of that name would be a pod of `t`
      intro other member sameKey
      obtain ⟨u, otherLabel, otherKey⟩ := represents.named other member
      have sameName : u = t := by
        rw [otherKey, named] at sameKey
        simpa [podNameOf, toTaskJob] using sameKey
      subst sameName
      have listed : other ∈ w.pods.filter (labelledFor ns u) :=
        List.mem_filter.mpr ⟨member, labelledFor_iff.mpr ⟨by rw [otherKey], otherLabel⟩⟩
      rw [noPod] at listed
      cases listed
    obtain ⟨status, running, final⟩ := startPod_eval parseQuantity found
      (by rw [sameSpec]; exact workload.image t inS) built free
    unfold reconcileNamed
    rw [start, final, sameSpec]
    exact represents_start represents running noPod named label
  · rw [if_neg ready]
    have waiting : ¬ ∀ dep ∈ entry.value.spec.dependsOn, CompletedIn w ns dep := by
      rw [sameSpec, ← ready_iff represents workload.closed inS]
      exact ready
    rcases afterReconcile_waiting parseQuantity found live waiting with
      ⟨_, missing⟩ | ⟨status, queued, final⟩
    · refine absurd ?_ missing
      intro dep member
      rw [sameSpec] at member
      obtain ⟨other, there, _⟩ := represents.job dep (workload.closed t inS dep member)
      exact ⟨other, there⟩
    · unfold reconcileNamed
      rw [final, sameSpec]
      exact represents_write represents queued noPod

theorem reconcile_started (represents : Represents ns S spec outcome σ w)
    (sound : Sound (fun t => (spec t).dependsOn) outcome σ) {t : String} (inS : t ∈ S)
    (high : 2 ≤ (σ t).level) (unsettled : σ t ≠ .settled) {pod : Pod}
    (pods : w.pods.filter (labelledFor ns t) = [pod]) {phase : TaskPhase}
    (reported : reportedPhase pod.status.phase = some phase) :
    ∃ status : TaskJobStatus, status.phase = phase ∧
      reconcileNamed parseQuantity ns w t = writeJobStatus w ⟨ns, t⟩ (spec t) status := by
  obtain ⟨entry, found, sameSpec, fits⟩ := represents.job t inS
  have completed := (ready_iff represents workload.closed inS).mp (sound t high)
  rw [← sameSpec] at completed
  have synced : afterReconcile parseQuantity ⟨ns, t⟩ w = _ :=
    congrArg Prod.snd (reconcile_eval_sync parseQuantity found
      (phaseFits_live fits unsettled) completed (show _ = some pod by simp [pods]))
  unfold reconcileNamed
  rcases syncStatus_eval found pod with ⟨unknown, _⟩ | ⟨status, known, final⟩
  · rw [reported] at unknown
    cases unknown
  · rw [synced, final, sameSpec]
    exact ⟨status, Option.some.inj (known.symm.trans reported), rfl⟩

theorem reconcile_represents (represents : Represents ns S spec outcome σ w)
    (sound : Sound (fun t => (spec t).dependsOn) outcome σ) {t : String} (inS : t ∈ S) :
    Represents ns S spec outcome (visit (fun t => (spec t).dependsOn) outcome σ t)
      (reconcileNamed parseQuantity ns w t) := by
  have pods := represents.pods t inS
  unfold visit advance
  cases stage : σ t with
  | fresh =>
      rw [stage] at pods
      exact reconcile_unstarted workload represents inS pods (by simp [stage])
  | waiting =>
      rw [stage] at pods
      exact reconcile_unstarted workload represents inS pods (by simp [stage])
  | started =>
      rw [stage] at pods
      obtain ⟨pod, only, pending⟩ := pods
      obtain ⟨status, queued, final⟩ := reconcile_started workload represents sound inS
        (by simp [stage, Stage.level]) (by simp [stage]) only
        (show reportedPhase pod.status.phase = some .queued by rw [pending]; rfl)
      rw [final]
      exact represents_write represents (Or.inr queued) ⟨pod, only, pending⟩
  | ended =>
      rw [stage] at pods
      obtain ⟨pod, only, ended⟩ := pods
      obtain ⟨status, settled, final⟩ := reconcile_started workload represents sound inS
        (by simp [stage, Stage.level]) (by simp [stage]) only
        (show reportedPhase pod.status.phase =
          some (if outcome t then .completed else .failed) by
            rw [ended]
            cases outcome t <;> rfl)
      rw [final]
      exact represents_write represents settled ⟨pod, only, ended⟩
  | settled =>
      obtain ⟨entry, found, _, fits⟩ := represents.job t inS
      rw [stage] at fits
      have terminal : TaskPhase.terminal entry.value.status.phase := by
        cases success : outcome t <;> simp_all [PhaseFits, TaskPhase.terminal]
      unfold reconcileNamed
      rw [afterReconcile_terminal parseQuantity found terminal]
      exact represents_same represents stage

end Step

/-! ## Whole rounds -/

section Run
variable {parseQuantity : String → Option ℚ} {ns : String} {S : Finset String}
  {spec : String → TaskJobSpec} {outcome : String → Bool} {σ : String → Stage} {w : Cluster}

theorem endPod_labels (outcome : String → Bool) (pod : Pod) :
    (endPod outcome pod).labels = pod.labels ∧ (endPod outcome pod).key = pod.key := by
  unfold endPod
  cases pod.labels taskIdLabel <;> exact ⟨rfl, rfl⟩

theorem endPod_phase {t : String} {pod : Pod} (label : pod.labels taskIdLabel = some t) :
    (endPod outcome pod).status.phase = endPhase (outcome t) := by
  unfold endPod
  rw [label]

theorem podsEnd_filter (t : String) :
    (podsEnd outcome w).pods.filter (labelledFor ns t) =
      (w.pods.filter (labelledFor ns t)).map (endPod outcome) := by
  have sameTask : labelledFor ns t ∘ endPod outcome = labelledFor ns t := by
    funext pod
    simp [labelledFor, endPod_labels]
  unfold podsEnd
  rw [List.filter_map, sameTask]

theorem podsEnd_represents (represents : Represents ns S spec outcome σ w) :
    Represents ns S spec outcome (finish σ) (podsEnd outcome w) := by
  refine ⟨?_, ?_, ?_⟩
  · intro t inS
    obtain ⟨entry, found, sameSpec, fits⟩ := represents.job t inS
    refine ⟨entry, found, sameSpec, ?_⟩
    unfold finish
    cases stage : σ t <;> simpa [stage, PhaseFits] using fits
  · intro t inS
    have before := represents.pods t inS
    have ends : ∀ pod, w.pods.filter (labelledFor ns t) = [pod] →
        ∃ ended, [endPod outcome pod] = [ended] ∧ ended.status.phase = endPhase (outcome t) := by
      intro pod only
      have listed : pod ∈ w.pods.filter (labelledFor ns t) := by simp [only]
      have own := labelledFor_iff.mp (List.mem_filter.mp listed).2
      exact ⟨endPod outcome pod, rfl, endPod_phase own.2⟩
    rw [podsEnd_filter]
    unfold finish
    cases stage : σ t with
    | fresh =>
        rw [stage] at before
        simpa [PodsFit] using before
    | waiting =>
        rw [stage] at before
        simpa [PodsFit] using before
    | started =>
        rw [stage] at before
        obtain ⟨pod, only, _⟩ := before
        rw [only]
        exact ends pod only
    | ended =>
        rw [stage] at before
        obtain ⟨pod, only, _⟩ := before
        rw [only]
        exact ends pod only
    | settled =>
        rw [stage] at before
        obtain ⟨pod, only, _⟩ := before
        rw [only]
        exact ends pod only
  · intro pod member
    obtain ⟨earlier, before, rfl⟩ := List.mem_map.mp member
    obtain ⟨t, label, key⟩ := represents.named earlier before
    exact ⟨t, by rw [(endPod_labels outcome earlier).1]; exact label,
      by rw [(endPod_labels outcome earlier).2]; exact key⟩

def Follows (ns : String) (S : Finset String) (spec : String → TaskJobSpec)
    (outcome : String → Bool) (σ : String → Stage) (w : Cluster) : Prop :=
  Sound (fun t => (spec t).dependsOn) outcome σ ∧ Represents ns S spec outcome σ w

theorem round_follows {start : Cluster} (workload : Workload parseQuantity ns S spec start)
    {order : List String} (inside : ∀ t ∈ order, t ∈ S)
    (follows : Follows ns S spec outcome σ w) :
    Follows ns S spec outcome (round (fun t => (spec t).dependsOn) outcome σ order)
      (clusterRound parseQuantity ns outcome w order) := by
  have visits : Follows ns S spec outcome
      (after (visit (fun t => (spec t).dependsOn) outcome) σ order)
      (after (reconcileNamed parseQuantity ns) w order) := by
    refine after_related ?_ follows
    rintro t member σ' w' ⟨sound, represents⟩
    exact ⟨visit_sound sound t, reconcile_represents workload represents sound (inside t member)⟩
  exact ⟨round_sound follows.1 order, podsEnd_represents visits.2⟩

theorem workload_follows (workload : Workload parseQuantity ns S spec w) :
    Follows ns S spec outcome (fun _ => .fresh) w := by
  refine ⟨fun _ high => by simp [Stage.level] at high, workload.jobs, ?_, ?_⟩
  · intro t inS
    simp [PodsFit, workload.noPods]
  · intro pod member
    simp [workload.noPods] at member

end Run

def PhaseIs (w : Cluster) (key : ObjectKey) (phase : TaskPhase) : Prop :=
  ∃ entry, w.jobs.cell key = some entry ∧ entry.value.status.phase = phase

/-- From `2 * |S|` rounds on, each TaskJob of the set is Completed or Failed as
its pod was to end if everything it needs succeeds, and otherwise Queued
without a pod.  A round may take the TaskJobs in any order. -/
theorem dag_reaches_outcome (parseQuantity : String → Option ℚ) (ns : String)
    (S : Finset String) (spec : String → TaskJobSpec) (w : Cluster)
    (workload : Workload parseQuantity ns S spec w) (outcome : String → Bool)
    (orders : List (List String)) (complete : ∀ order ∈ orders, ∀ t, t ∈ order ↔ t ∈ S)
    (enough : 2 * S.card ≤ orders.length) (t : String) (inS : t ∈ S) :
    ((outcome t = true ∧ ∀ u, TransGen (Needs fun t => (spec t).dependsOn) t u → outcome u = true) →
      PhaseIs (after (clusterRound parseQuantity ns outcome) w orders) ⟨ns, t⟩ .completed) ∧
    ((outcome t = false ∧ ∀ u, TransGen (Needs fun t => (spec t).dependsOn) t u → outcome u = true) →
      PhaseIs (after (clusterRound parseQuantity ns outcome) w orders) ⟨ns, t⟩ .failed) ∧
    ((∃ u, TransGen (Needs fun t => (spec t).dependsOn) t u ∧ outcome u = false) →
      PhaseIs (after (clusterRound parseQuantity ns outcome) w orders) ⟨ns, t⟩ .queued ∧
      ∀ pod ∈ (after (clusterRound parseQuantity ns outcome) w orders).pods,
        ¬ IsPodOf pod ⟨ns, t⟩) := by
  have follows : Follows ns S spec outcome
      (after (round (fun t => (spec t).dependsOn) outcome) (fun _ => .fresh) orders)
      (after (clusterRound parseQuantity ns outcome) w orders) := by
    refine after_related ?_ (workload_follows workload)
    intro order member σ w' holds
    exact round_follows workload (fun u listed => (complete order member u).mp listed) holds
  obtain ⟨settles, waits⟩ := settled_or_waiting outcome workload.closed
    workload.acyclic (fun order member u => (complete order member u).mpr) enough inS
  obtain ⟨entry, found, _, fits⟩ := follows.2.job t inS
  refine ⟨?_, ?_, ?_⟩
  · rintro ⟨success, needs⟩
    rw [settles needs, success] at fits
    exact ⟨entry, found, fits⟩
  · rintro ⟨failure, needs⟩
    rw [settles needs, failure] at fits
    exact ⟨entry, found, fits⟩
  · intro blocked
    have pods := follows.2.pods t inS
    rw [waits blocked] at fits pods
    refine ⟨⟨entry, found, fits⟩, ?_⟩
    intro pod member isPod
    have listed := List.mem_filter.mpr ⟨member, labelledFor_iff.mpr isPod⟩
    rw [show _ = [] from pods] at listed
    cases listed

/-! ### `a` fails and `b`, which waits for it, stays queued -/

def pairSpec (t : String) : TaskJobSpec := if t = "b" then plainSpec ["a"] else plainSpec []

theorem pairSpec_needs {t u : String}
    (needs : TransGen (Needs fun t => (pairSpec t).dependsOn) t u) : t = "b" ∧ u = "a" := by
  have direct : ∀ x y, Needs (fun t => (pairSpec t).dependsOn) x y → x = "b" ∧ y = "a" := by
    intro x y member
    unfold Needs pairSpec at member
    by_cases same : x = "b"
    · simpa [same, plainSpec] using member
    · simp [same, plainSpec] at member
  induction needs with
  | single member => exact direct _ _ member
  | tail _ member ih => exact ⟨ih.1, (direct _ _ member).2⟩

theorem twoJobs_workload : Workload (fun _ => some 1) "default" {"a", "b"} pairSpec twoJobs where
  jobs t inS := by
    simp only [Finset.mem_insert, Finset.mem_singleton] at inS
    rcases inS with rfl | rfl
    · exact ⟨_, rfl, rfl, rfl⟩
    · exact ⟨_, rfl, rfl, rfl⟩
  noPods := rfl
  image t inS := by
    unfold pairSpec
    split <;> simp [plainSpec]
  cpu t inS := rfl
  memory t inS := rfl
  closed t inS d member := by
    have needs := pairSpec_needs (.single member)
    simp [needs.2]
  acyclic t inS around := by
    obtain ⟨isB, isA⟩ := pairSpec_needs around
    rw [isB] at isA
    simp at isA

theorem pair_outcome :
    Workload (fun _ => some 1) "default" {"a", "b"} pairSpec twoJobs ∧
    PhaseIs (after (clusterRound (fun _ => some 1) "default" fun t => t != "a") twoJobs
      [["b", "a"], ["a", "b"], ["b", "a"], ["b", "a"]]) ⟨"default", "a"⟩ .failed ∧
    PhaseIs (after (clusterRound (fun _ => some 1) "default" fun t => t != "a") twoJobs
      [["b", "a"], ["a", "b"], ["b", "a"], ["b", "a"]]) ⟨"default", "b"⟩ .queued := by
  have complete : ∀ order ∈ [["b", "a"], ["a", "b"], ["b", "a"], ["b", "a"]],
      ∀ t, t ∈ order ↔ t ∈ ({"a", "b"} : Finset String) := by
    intro order member t
    simp only [List.mem_cons, List.not_mem_nil, or_false] at member
    rcases member with rfl | rfl | rfl | rfl <;> simp [or_comm]
  have result := dag_reaches_outcome (fun _ => some 1) "default" {"a", "b"} pairSpec twoJobs
    twoJobs_workload (fun t => t != "a") _ complete (by decide)
  refine ⟨twoJobs_workload, ?_, ?_⟩
  · refine (result "a" (by decide)).2.1 ⟨by decide, ?_⟩
    intro u needs
    have impossible := (pairSpec_needs needs).1
    simp at impossible
  · refine ((result "b" (by decide)).2.2 ⟨"a", .single ?_, by decide⟩).1
    simp [Needs, pairSpec, plainSpec]

end CloudOS.Operator.DagOutcome
