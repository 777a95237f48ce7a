import CloudOS.Orchestrator.CloudTaskCluster
import Mathlib.Data.List.Nodup

/-!
# The invariant behind retry accounting

A failing pod causes two status writes, and the controller may fail or crash
between them.  The invariant `Accounted` ties the retry count to the list of
pods it was charged to: a task that names a pod names one that has not been
charged, its phase agrees with how that pod ended, and the pod name is dropped
in the same write that charges the pod.  `Rely` and `Guarantee` say what the
reconcile of one task may assume of all others and what it promises them.
-/

set_option autoImplicit false

namespace CloudOS.Orchestrator.RetryInvariant

open CloudOS.Kubernetes.Objects
open CloudOS.Lib.CallProgram
open CloudOS.Lib.VersionedStore
open CloudOS.Orchestrator.CloudTaskReconcile
open CloudOS.Orchestrator.CloudTaskCluster

/-- Where `constructPod` puts the pod of the task under `key`. -/
def podKey (key : ObjectKey) : ObjectKey := ⟨key.ns, podNameFor key.name⟩

theorem podKey_injective {a b : ObjectKey} (same : podKey a = podKey b) : a = b := by
  cases a with
  | mk ns name =>
      cases b with
      | mk ns' name' =>
          simp only [podKey, podNameFor, ObjectKey.mk.injEq] at same
          rw [same.1, (String.append_left_inj "-pod").mp same.2]

/-! ## The invariant -/

/-- The pods the increments of one task's retry count were charged to. -/
def chargedUids (charges : List Charge) : List (Option Nat) :=
  charges.map fun charge => charge.pod.map Pod.uid

def chargesOf (charges : List Charge) (uid : Nat) : List Charge :=
  charges.filter fun charge => charge.taskUid == uid

/-- A task names its pod exactly while its phase says that there is one. -/
def StatusShape (key : ObjectKey) (status : CloudTaskStatus) : Prop :=
  (status.podName = "" ∧ (status.phase = .unset ∨ status.phase = .pending)) ∨
  (status.podName = podNameFor key.name ∧
    (status.phase = .running ∨ status.phase = .completed ∨ status.phase = .failed))

/-- The pod a task names is not charged yet and ended as the phase says. -/
structure PodAgrees (phase : CloudTaskPhase) (charges : List Charge) (pod : Pod) : Prop where
  uncharged : some pod.uid ∉ chargedUids charges
  succeeded : phase = .completed → pod.status.phase = .succeeded
  failed : phase = .failed → pod.status.phase = .failed

theorem PodAgrees.later {phase : CloudTaskPhase} {charges : List Charge} {p p' : Pod}
    (agrees : PodAgrees phase charges p) (moved : p.Later p') :
    PodAgrees phase charges p' := by
  refine ⟨by rw [moved.uid]; exact agrees.uncharged, ?_, ?_⟩
  · intro completed
    have ended := agrees.succeeded completed
    rw [forward_of_terminated moved.forward (by rw [ended]; rfl), ended]
  · intro failed
    have ended := agrees.failed failed
    rw [forward_of_terminated moved.forward (by rw [ended]; rfl), ended]

theorem PodAgrees.of_ended {phase phase' : CloudTaskPhase} {charges : List Charge} {pod : Pod}
    (agrees : PodAgrees phase charges pod)
    (ended : (phase' = .completed ∧ pod.status.phase = .succeeded) ∨
      (phase' = .failed ∧ pod.status.phase = .failed)) : PodAgrees phase' charges pod := by
  rcases ended with ⟨rfl, succeeded⟩ | ⟨rfl, failed⟩
  · refine ⟨agrees.uncharged, fun _ => succeeded, ?_⟩
    intro other
    cases other
  · refine ⟨agrees.uncharged, ?_, fun _ => failed⟩
    intro other
    cases other

structure TaskOk (key : ObjectKey) (charges : List Charge) (pod : Option Pod)
    (record : TaskRecord) : Prop where
  nonneg : 0 ≤ record.status.retryCount
  bounded : record.status.retryCount ≤ record.spec.retries
  counted : ((chargesOf charges record.uid).length : Int) = record.status.retryCount
  shape : StatusShape key record.status
  agrees : record.status.podName ≠ "" → ∀ p, pod = some p →
    PodAgrees record.status.phase charges p

/-- Every charge has a failed pod of the task, and no pod has two charges. -/
structure ChargesOk (key : ObjectKey) (nextUid : Nat) (charges : List Charge) : Prop where
  task : ∀ charge ∈ charges, charge.taskUid < nextUid
  pod : ∀ charge ∈ charges, ∃ p, charge.pod = some p ∧ p.status.phase = .failed ∧
    p.key = podKey key ∧ p.uid < nextUid
  distinct : (chargedUids charges).Nodup

/-- The invariant of the controller's runs. -/
structure Accounted (w : Cluster) : Prop where
  task : ∀ key entry, w.tasks.cell key = some entry →
    TaskOk key (w.charges key) (w.pods (podKey key)) entry.value ∧
      entry.value.uid < w.nextUid
  pod : ∀ key p, w.pods key = some p → p.key = key ∧ p.uid < w.nextUid
  charge : ∀ key, ChargesOk key w.nextUid (w.charges key)
  remains : ∀ key, w.charges key ≠ [] → w.pods (podKey key) = none →
    podKey key ∈ w.removed

theorem ChargesOk.mono {key : ObjectKey} {bound bound' : Nat} {charges : List Charge}
    (ok : ChargesOk key bound charges) (le : bound ≤ bound') :
    ChargesOk key bound' charges := by
  refine ⟨fun charge member => Nat.lt_of_lt_of_le (ok.task charge member) le, ?_, ok.distinct⟩
  intro charge member
  obtain ⟨p, isPod, failed, located, lt⟩ := ok.pod charge member
  exact ⟨p, isPod, failed, located, Nat.lt_of_lt_of_le lt le⟩

theorem chargesOf_fresh {key : ObjectKey} {bound : Nat} {charges : List Charge}
    (ok : ChargesOk key bound charges) {uid : Nat} (fresh : bound ≤ uid) :
    chargesOf charges uid = [] := by
  apply List.filter_eq_nil_iff.mpr
  intro charge member
  have lt := ok.task charge member
  simp only [beq_iff_eq]
  omega

theorem taskOk_zero {key : ObjectKey} {charges : List Charge} {pod : Option Pod}
    {record : TaskRecord} (zero : record.status = .zero) (retries : 0 ≤ record.spec.retries)
    (uncharged : chargesOf charges record.uid = []) : TaskOk key charges pod record := by
  refine ⟨?_, ?_, ?_, ?_, ?_⟩
  · simp [zero, CloudTaskStatus.zero]
  · simpa [zero, CloudTaskStatus.zero] using retries
  · simp [zero, CloudTaskStatus.zero, uncharged]
  · exact Or.inl (by simp [zero, CloudTaskStatus.zero])
  · intro named
    simp [zero, CloudTaskStatus.zero] at named

theorem TaskOk.of_status {key : ObjectKey} {charges : List Charge} {pod : Option Pod}
    {record record' : TaskRecord} (ok : TaskOk key charges pod record)
    (uid : record'.uid = record.uid) (status : record'.status = record.status)
    (retries : record'.spec.retries = record.spec.retries) :
    TaskOk key charges pod record' := by
  refine ⟨?_, ?_, ?_, ?_, ?_⟩
  · rw [status]; exact ok.nonneg
  · rw [status, retries]; exact ok.bounded
  · rw [uid, status]; exact ok.counted
  · rw [status]; exact ok.shape
  · rw [status]; exact ok.agrees

theorem TaskOk.of_sameCount {key : ObjectKey} {charges : List Charge} {pod : Option Pod}
    {record : TaskRecord} {status : CloudTaskStatus} (ok : TaskOk key charges pod record)
    (sameCount : status.retryCount = record.status.retryCount) (shape : StatusShape key status)
    (agrees : ∀ p, pod = some p → PodAgrees status.phase charges p) :
    TaskOk key charges pod (record.withStatus status) := by
  refine ⟨?_, ?_, ?_, shape, fun _ => agrees⟩
  · show 0 ≤ status.retryCount
    rw [sameCount]
    exact ok.nonneg
  · show status.retryCount ≤ record.spec.retries
    rw [sameCount]
    exact ok.bounded
  · show ((chargesOf charges record.uid).length : Int) = status.retryCount
    rw [sameCount]
    exact ok.counted

theorem TaskOk.of_pod {key : ObjectKey} {charges : List Charge} {pod pod' : Option Pod}
    {record : TaskRecord} (ok : TaskOk key charges pod record)
    (later : ∀ p', pod' = some p' → ∃ p, pod = some p ∧ p.Later p') :
    TaskOk key charges pod' record := by
  refine ⟨ok.nonneg, ok.bounded, ok.counted, ok.shape, ?_⟩
  intro named p' isPod
  obtain ⟨p, wasPod, moved⟩ := later p' isPod
  exact (ok.agrees named p wasPod).later moved

/-! ## Writes that keep the invariant -/

theorem accounted_storeTask {w : Cluster} (ok : Accounted w) {key : ObjectKey}
    {record : TaskRecord}
    (taskOk : TaskOk key (w.charges key) (w.pods (podKey key)) record)
    (uid : record.uid < w.nextUid) : Accounted (storeTask w key record) := by
  refine ⟨?_, ok.pod, ok.charge, ok.remains⟩
  intro other entry found
  rcases cell_of_put found with ⟨rfl, rfl⟩ | ⟨_, before⟩
  · exact ⟨taskOk, uid⟩
  · exact ok.task other entry before

theorem accounted_nextUid {w : Cluster} (ok : Accounted w) {nextUid : Nat}
    (le : w.nextUid ≤ nextUid) : Accounted { w with nextUid := nextUid } :=
  ⟨fun key entry found => ⟨(ok.task key entry found).1,
      Nat.lt_of_lt_of_le (ok.task key entry found).2 le⟩,
    fun key p isPod => ⟨(ok.pod key p isPod).1, Nat.lt_of_lt_of_le (ok.pod key p isPod).2 le⟩,
    fun key => (ok.charge key).mono le, ok.remains⟩

theorem accounted_erase {w : Cluster} (ok : Accounted w) (key : ObjectKey) :
    Accounted { w with tasks := w.tasks.erase key } := by
  refine ⟨?_, ok.pod, ok.charge, ok.remains⟩
  intro other entry found
  exact ok.task other entry (cell_of_erase found).2

theorem storeMetadata_cases (w : Cluster) (key : ObjectKey) (record : TaskRecord) :
    storeMetadata w key record = { w with tasks := w.tasks.erase key } ∨
      storeMetadata w key record = storeTask w key record := by
  unfold storeMetadata
  split
  · exact Or.inl rfl
  · exact Or.inr rfl

theorem accounted_storeMetadata {w : Cluster} (ok : Accounted w) {key : ObjectKey}
    {record : TaskRecord}
    (taskOk : TaskOk key (w.charges key) (w.pods (podKey key)) record)
    (uid : record.uid < w.nextUid) : Accounted (storeMetadata w key record) := by
  rcases storeMetadata_cases w key record with erased | stored
  · rw [erased]
    exact accounted_erase ok key
  · rw [stored]
    exact accounted_storeTask ok taskOk uid

/-- Pods moved forward or were removed, and nothing else happened. -/
structure PodsMoved (w w' : Cluster) : Prop where
  tasks : w'.tasks = w.tasks
  nextUid : w'.nextUid = w.nextUid
  charges : w'.charges = w.charges
  observed : w'.observed = w.observed
  later : ∀ key p', w'.pods key = some p' → ∃ p, w.pods key = some p ∧ p.Later p'
  gone : ∀ key, w'.pods key = none → w.pods key = none ∨ key ∈ w'.removed
  removed : ∀ key ∈ w.removed, key ∈ w'.removed
  passed : w.clock ≤ w'.clock

theorem accounted_podsMoved {w w' : Cluster} (ok : Accounted w) (moved : PodsMoved w w') :
    Accounted w' := by
  constructor
  · intro key entry found
    rw [moved.tasks] at found
    obtain ⟨taskOk, uid⟩ := ok.task key entry found
    rw [moved.charges, moved.nextUid]
    exact ⟨taskOk.of_pod (moved.later (podKey key)), uid⟩
  · intro key p' isPod
    obtain ⟨p, wasPod, later⟩ := moved.later key p' isPod
    rw [later.uid, later.key, moved.nextUid]
    exact ok.pod key p wasPod
  · intro key
    rw [moved.charges, moved.nextUid]
    exact ok.charge key
  · intro key used empty
    rw [moved.charges] at used
    rcases moved.gone (podKey key) empty with before | now
    · exact moved.removed _ (ok.remains key used before)
    · exact now

theorem podsMoved_update {w : Cluster} {name : ObjectKey} {p q : Pod}
    (found : w.pods name = some p) (later : p.Later q) :
    PodsMoved w { w with pods := Function.update w.pods name (some q) } := by
  refine ⟨rfl, rfl, rfl, rfl, ?_, ?_, fun _ member => member, Nat.le_refl _⟩
  · intro other p' isPod
    by_cases same : other = name
    · subst same
      simp only [Function.update_self, Option.some.injEq] at isPod
      subst isPod
      exact ⟨p, found, later⟩
    · simp only [Function.update_of_ne same] at isPod
      exact ⟨p', isPod, later_refl p'⟩
  · intro other empty
    by_cases same : other = name
    · simp [same] at empty
    · simp only [Function.update_of_ne same] at empty
      exact Or.inl empty

theorem podsMoved_remove (w : Cluster) (name : ObjectKey) :
    PodsMoved w { w with
      pods := Function.update w.pods name none, removed := name :: w.removed } := by
  refine ⟨rfl, rfl, rfl, rfl, ?_, ?_, fun _ member => List.mem_cons_of_mem _ member,
    Nat.le_refl _⟩
  · intro other p' isPod
    by_cases same : other = name
    · simp [same] at isPod
    · simp only [Function.update_of_ne same] at isPod
      exact ⟨p', isPod, later_refl p'⟩
  · intro other empty
    by_cases same : other = name
    · exact Or.inr (by simp [same])
    · simp only [Function.update_of_ne same] at empty
      exact Or.inl empty

theorem podsMoved_tick (w : Cluster) (later : Nat) :
    PodsMoved w { w with clock := w.clock + later } :=
  ⟨rfl, rfl, rfl, rfl, fun _ p isPod => ⟨p, isPod, later_refl p⟩, fun _ empty => Or.inl empty,
    fun _ member => member, Nat.le_add_right _ _⟩

theorem accounted_charge {w : Cluster} (ok : Accounted w) {key : ObjectKey}
    {record : TaskRecord} {p : Pod} (uid : record.uid < w.nextUid)
    (taskOk : TaskOk key (w.charges key ++ [⟨record.uid, some p⟩]) (w.pods (podKey key)) record)
    (uncharged : some p.uid ∉ chargedUids (w.charges key))
    (failed : p.status.phase = .failed) (located : p.key = podKey key)
    (podUid : p.uid < w.nextUid)
    (gone : w.pods (podKey key) = none → podKey key ∈ w.removed) :
    Accounted { storeTask w key record with
      charges := Function.update w.charges key (w.charges key ++ [⟨record.uid, some p⟩]) } := by
  refine ⟨?_, ok.pod, ?_, ?_⟩
  · intro other entry found
    rcases cell_of_put found with ⟨rfl, rfl⟩ | ⟨different, before⟩
    · simp only [Function.update_self]
      exact ⟨taskOk, uid⟩
    · simp only [Function.update_of_ne different]
      exact ok.task other entry before
  · intro other
    by_cases same : other = key
    · subst same
      have old := ok.charge other
      simp only [Function.update_self]
      refine ⟨?_, ?_, ?_⟩
      · intro charge member
        rcases List.mem_append.mp member with before | new
        · exact old.task charge before
        · rw [List.mem_singleton] at new
          subst new
          exact uid
      · intro charge member
        rcases List.mem_append.mp member with before | new
        · exact old.pod charge before
        · rw [List.mem_singleton] at new
          subst new
          exact ⟨p, rfl, failed, located, podUid⟩
      · simp only [chargedUids, List.map_append, List.map_cons, List.map_nil, Option.map_some]
        exact old.distinct.append (List.nodup_singleton _)
          (List.disjoint_singleton.mpr uncharged)
    · simp only [Function.update_of_ne same]
      exact ok.charge other
  · intro other used none
    by_cases same : other = key
    · subst same
      exact gone none
    · simp only [Function.update_of_ne same] at used
      exact ok.remains other used none

theorem accounted_addPod {w : Cluster} (ok : Accounted w) {key : ObjectKey} {pod : Pod}
    (located : pod.key = podKey key)
    (quiet : ∀ entry, w.tasks.cell key = some entry → entry.value.status.podName = "") :
    Accounted (addPod w pod) := by
  constructor
  · intro other entry found
    obtain ⟨taskOk, uid⟩ := ok.task other entry found
    refine ⟨?_, Nat.lt_succ_of_lt uid⟩
    by_cases same : other = key
    · subst same
      exact ⟨taskOk.nonneg, taskOk.bounded, taskOk.counted, taskOk.shape,
        fun named => absurd (quiet entry found) named⟩
    · have elsewhere : podKey other ≠ pod.key :=
        fun equal => same (podKey_injective (equal.trans located))
      simpa only [addPod, Function.update_of_ne elsewhere] using taskOk
  · intro other p isPod
    by_cases same : other = pod.key
    · subst same
      simp only [addPod, Function.update_self, Option.some.injEq] at isPod
      subst isPod
      exact ⟨rfl, Nat.lt_succ_self _⟩
    · simp only [addPod, Function.update_of_ne same] at isPod
      exact ⟨(ok.pod other p isPod).1, Nat.lt_succ_of_lt (ok.pod other p isPod).2⟩
  · intro other
    exact (ok.charge other).mono (Nat.le_succ w.nextUid)
  · intro other used none
    refine ok.remains other used ?_
    by_cases same : podKey other = pod.key
    · simp [addPod, same] at none
    · simpa [addPod, same] using none

/-! ## Rely and guarantee -/

/-- What the reconcile of `key` may assume of a move by anybody else: it sees
only finished or removed pods of its own, and status writes on its task only
when the task was created anew. -/
structure Rely (key : ObjectKey) (w w' : Cluster) : Prop where
  advances : w.tasks.Advances w'.tasks
  uids : w.nextUid ≤ w'.nextUid
  task : ∀ entry', w'.tasks.cell key = some entry' → entry'.value.status = .zero ∨
    ∃ entry, w.tasks.cell key = some entry ∧ entry'.value.status = entry.value.status
  charges : w'.charges key = w.charges key
  observed : w'.observed key = w.observed key
  pod : ∀ p', w'.pods (podKey key) = some p' → ∃ p, w.pods (podKey key) = some p ∧ p.Later p'
  gone : w'.pods (podKey key) = none → w.pods (podKey key) = none ∨ podKey key ∈ w'.removed
  removed : ∀ name ∈ w.removed, name ∈ w'.removed
  passed : w.clock ≤ w'.clock

structure Progressed (record record' : TaskRecord) : Prop where
  uid : record'.uid = record.uid
  retryCount : record.status.retryCount ≤ record'.status.retryCount
  completed : record.status.phase = .completed → record'.status.phase = .completed

/-- A move of the reconcile of `key` keeps to the task and its pod. -/
structure Local (key : ObjectKey) (w w' : Cluster) : Prop where
  advances : w.tasks.Advances w'.tasks
  uids : w.nextUid ≤ w'.nextUid
  task : ∀ other, other ≠ key → w'.tasks.cell other = w.tasks.cell other
  charges : ∀ other, other ≠ key → w'.charges other = w.charges other
  observed : ∀ other, other ≠ key → w'.observed other = w.observed other
  pod : ∀ other, other ≠ podKey key → w'.pods other = w.pods other
  removed : w'.removed = w.removed
  clock : w'.clock = w.clock

structure Guarantee (key : ObjectKey) (w w' : Cluster) : Prop extends Local key w w' where
  accounted : Accounted w'
  progress : ∀ entry', w'.tasks.cell key = some entry' →
    ∃ entry, w.tasks.cell key = some entry ∧ Progressed entry.value entry'.value

theorem progressed_refl (record : TaskRecord) : Progressed record record :=
  ⟨rfl, Int.le_refl _, id⟩

theorem progressed_trans {a b c : TaskRecord} (first : Progressed a b)
    (second : Progressed b c) : Progressed a c :=
  ⟨second.uid.trans first.uid, Int.le_trans first.retryCount second.retryCount,
    fun completed => second.completed (first.completed completed)⟩

theorem rely_refl (key : ObjectKey) (w : Cluster) : Rely key w w where
  advances := advances_refl w.tasks
  uids := Nat.le_refl _
  task entry found := Or.inr ⟨entry, found, rfl⟩
  charges := rfl
  observed := rfl
  pod p isPod := ⟨p, isPod, later_refl p⟩
  gone none := Or.inl none
  removed _ member := member
  passed := Nat.le_refl _

theorem rely_trans (key : ObjectKey) (a b c : Cluster) (first : Rely key a b)
    (second : Rely key b c) : Rely key a c where
  advances := advances_trans first.advances second.advances
  uids := Nat.le_trans first.uids second.uids
  task entry'' found'' := by
    rcases second.task entry'' found'' with zero | ⟨entry', found', same'⟩
    · exact Or.inl zero
    · rw [same']
      exact first.task entry' found'
  charges := second.charges.trans first.charges
  observed := second.observed.trans first.observed
  pod p'' isPod'' := by
    obtain ⟨p', isPod', later'⟩ := second.pod p'' isPod''
    obtain ⟨p, isPod, later⟩ := first.pod p' isPod'
    exact ⟨p, isPod, later_trans later later'⟩
  gone none := by
    rcases second.gone none with before | now
    · exact (first.gone before).imp_right (second.removed _)
    · exact Or.inr now
  removed name member := second.removed name (first.removed name member)
  passed := Nat.le_trans first.passed second.passed

theorem guarantee_rely (key other : ObjectKey) (different : key ≠ other) (w w' : Cluster)
    (move : Guarantee key w w') : Rely other w w' := by
  have elsewhere : podKey other ≠ podKey key :=
    fun same => different (podKey_injective same).symm
  refine ⟨move.advances, move.uids, ?_, move.charges other different.symm,
    move.observed other different.symm, ?_, ?_, ?_, move.clock.ge⟩
  · intro entry' found
    rw [move.task other different.symm] at found
    exact Or.inr ⟨entry', found, rfl⟩
  · intro p' isPod
    rw [move.pod _ elsewhere] at isPod
    exact ⟨p', isPod, later_refl p'⟩
  · intro none
    rw [move.pod _ elsewhere] at none
    exact Or.inl none
  · intro name member
    rw [move.removed]
    exact member

theorem local_refl (key : ObjectKey) (w : Cluster) : Local key w w :=
  ⟨advances_refl w.tasks, Nat.le_refl _, fun _ _ => rfl, fun _ _ => rfl, fun _ _ => rfl,
    fun _ _ => rfl, rfl, rfl⟩

theorem guarantee_of_task_eq {key : ObjectKey} {w w' : Cluster} (frame : Local key w w')
    (accounted : Accounted w') (same : w'.tasks = w.tasks) : Guarantee key w w' :=
  ⟨frame, accounted, fun entry' found => ⟨entry', same ▸ found, progressed_refl _⟩⟩

theorem guarantee_refl {key : ObjectKey} {w : Cluster} (ok : Accounted w) :
    Guarantee key w w :=
  guarantee_of_task_eq (local_refl key w) ok rfl

theorem guarantee_observe {key : ObjectKey} {w : Cluster} (ok : Accounted w) (p : Pod) :
    Guarantee key w { w with observed := Function.update w.observed key (some p) } := by
  refine guarantee_of_task_eq ⟨advances_refl w.tasks, Nat.le_refl _, fun _ _ => rfl,
    fun _ _ => rfl, ?_, fun _ _ => rfl, rfl, rfl⟩ ?_ rfl
  · intro other different
    simp [different]
  · exact ⟨ok.task, ok.pod, ok.charge, ok.remains⟩

theorem local_storeTask (key : ObjectKey) (w : Cluster) (record : TaskRecord) :
    Local key w (storeTask w key record) :=
  ⟨put_advances w.tasks key record, Nat.le_refl _,
    fun _ different => put_cell_of_ne w.tasks record different, fun _ _ => rfl,
    fun _ _ => rfl, fun _ _ => rfl, rfl, rfl⟩

theorem guarantee_storeTask {key : ObjectKey} {w : Cluster} {entry : Versioned TaskRecord}
    {record : TaskRecord} (found : w.tasks.cell key = some entry)
    (accounted : Accounted (storeTask w key record))
    (progressed : Progressed entry.value record) : Guarantee key w (storeTask w key record) := by
  refine ⟨local_storeTask key w record, accounted, fun entry' found' => ⟨entry, found, ?_⟩⟩
  obtain ⟨_, rfl⟩ := (cell_of_put found').resolve_right fun other => other.1 rfl
  exact progressed

theorem guarantee_storeMetadata {key : ObjectKey} {w : Cluster}
    {entry : Versioned TaskRecord} {record : TaskRecord}
    (found : w.tasks.cell key = some entry)
    (accounted : Accounted (storeMetadata w key record))
    (progressed : Progressed entry.value record) :
    Guarantee key w (storeMetadata w key record) := by
  rcases storeMetadata_cases w key record with erased | stored
  · rw [erased] at accounted ⊢
    refine ⟨⟨erase_advances w.tasks key, Nat.le_refl _, ?_,
      fun _ _ => rfl, fun _ _ => rfl, fun _ _ => rfl, rfl, rfl⟩, accounted, ?_⟩
    · intro other different
      exact erase_cell_of_ne w.tasks different
    · intro entry' found'
      exact absurd rfl (cell_of_erase found').1
  · rw [stored] at accounted ⊢
    exact guarantee_storeTask found accounted progressed

/-! ## Users, kubelets and the clock -/

theorem rely_of_tasks {key : ObjectKey} {w w' : Cluster}
    (advances : w.tasks.Advances w'.tasks) (uids : w.nextUid ≤ w'.nextUid)
    (task : ∀ entry', w'.tasks.cell key = some entry' → entry'.value.status = .zero ∨
      ∃ entry, w.tasks.cell key = some entry ∧ entry'.value.status = entry.value.status)
    (pods : w'.pods = w.pods) (charges : w'.charges = w.charges)
    (observed : w'.observed = w.observed) (removed : w'.removed = w.removed)
    (clock : w'.clock = w.clock) : Rely key w w' := by
  refine ⟨advances, uids, task, by rw [charges], by rw [observed], ?_,
    ?_, fun name member => by rw [removed]; exact member, clock.ge⟩
  · intro p' isPod
    rw [pods] at isPod
    exact ⟨p', isPod, later_refl p'⟩
  · intro none
    rw [pods] at none
    exact Or.inl none

theorem rely_storeTask {key other : ObjectKey} {w : Cluster} {record : TaskRecord}
    (status : record.status = .zero ∨ ∃ entry, w.tasks.cell other = some entry ∧
      record.status = entry.value.status) :
    Rely key w (storeTask w other record) := by
  refine rely_of_tasks (put_advances w.tasks other record) (Nat.le_refl _) ?_ rfl rfl rfl rfl rfl
  intro entry' found
  rcases cell_of_put found with ⟨rfl, rfl⟩ | ⟨_, before⟩
  · exact status
  · exact Or.inr ⟨entry', before, rfl⟩

theorem rely_storeMetadata {key other : ObjectKey} {w : Cluster} {record : TaskRecord}
    (status : ∃ entry, w.tasks.cell other = some entry ∧
      record.status = entry.value.status) :
    Rely key w (storeMetadata w other record) := by
  rcases storeMetadata_cases w other record with erased | stored
  · rw [erased]
    refine rely_of_tasks (erase_advances w.tasks other) (Nat.le_refl _) ?_ rfl rfl rfl rfl rfl
    intro entry' found
    exact Or.inr ⟨entry', (cell_of_erase found).2, rfl⟩
  · rw [stored]
    exact rely_storeTask (Or.inr status)

theorem rely_podsMoved {key : ObjectKey} {w w' : Cluster} (moved : PodsMoved w w') :
    Rely key w w' := by
  refine ⟨by rw [moved.tasks]; exact advances_refl _, Nat.le_of_eq moved.nextUid.symm,
    ?_, by rw [moved.charges], by rw [moved.observed], moved.later _,
    moved.gone _, moved.removed, moved.passed⟩
  intro entry' found
  rw [moved.tasks] at found
  exact Or.inr ⟨entry', found, rfl⟩

theorem environment_rely (key : ObjectKey) {w w' : Cluster} (moves : Environment w w') :
    Rely key w w' := by
  cases moves with
  | createTask other spec finalizers absent retries =>
      have stored : Rely key w (storeTask w other ⟨w.nextUid, none, finalizers, spec, .zero⟩) :=
        rely_storeTask (Or.inl rfl)
      exact { stored with uids := Nat.le_succ w.nextUid }
  | editSpec other entry spec found sameRetries =>
      exact rely_storeTask (Or.inr ⟨entry, found, rfl⟩)
  | requestDeletion other entry found => exact rely_storeMetadata ⟨entry, found, rfl⟩
  | podMoves name p status found forward =>
      exact rely_podsMoved (podsMoved_update found ⟨rfl, rfl, forward⟩)
  | podRemoved name => exact rely_podsMoved (podsMoved_remove w name)
  | tick later => exact rely_podsMoved (podsMoved_tick w _)

theorem environment_accounted {w w' : Cluster} (ok : Accounted w) (moves : Environment w w') :
    Accounted w' := by
  cases moves with
  | createTask key spec finalizers absent retries =>
      -- the uid is new, so nothing has been charged to this incarnation
      have renumbered := accounted_nextUid ok (Nat.le_succ w.nextUid)
      have created : TaskOk key (w.charges key) (w.pods (podKey key))
          ⟨w.nextUid, none, finalizers, spec, .zero⟩ :=
        taskOk_zero rfl retries (chargesOf_fresh (ok.charge key) (Nat.le_refl w.nextUid))
      exact accounted_storeTask renumbered created (Nat.lt_succ_self w.nextUid)
  | editSpec key entry spec found sameRetries =>
      obtain ⟨taskOk, uid⟩ := ok.task key entry found
      exact accounted_storeTask ok (taskOk.of_status rfl rfl sameRetries) uid
  | requestDeletion key entry found =>
      obtain ⟨taskOk, uid⟩ := ok.task key entry found
      exact accounted_storeMetadata ok (taskOk.of_status rfl rfl rfl) uid
  | podMoves name p status found forward =>
      exact accounted_podsMoved ok (podsMoved_update found ⟨rfl, rfl, forward⟩)
  | podRemoved name => exact accounted_podsMoved ok (podsMoved_remove w name)
  | tick later => exact accounted_podsMoved ok (podsMoved_tick w _)

/-! ## What a run does to one incarnation of a task -/

/-- A task seen later is the same incarnation further on, or one created in
between. -/
structure Progress (w w' : Cluster) : Prop where
  uids : w.nextUid ≤ w'.nextUid
  task : ∀ key entry', w'.tasks.cell key = some entry' → w.nextUid ≤ entry'.value.uid ∨
    ∃ entry, w.tasks.cell key = some entry ∧ Progressed entry.value entry'.value

theorem progress_refl (w : Cluster) : Progress w w :=
  ⟨Nat.le_refl _, fun _ entry found => Or.inr ⟨entry, found, progressed_refl _⟩⟩

theorem progress_trans (a b c : Cluster) (first : Progress a b) (second : Progress b c) :
    Progress a c := by
  refine ⟨Nat.le_trans first.uids second.uids, ?_⟩
  intro key entry'' found''
  rcases second.task key entry'' found'' with new | ⟨entry', found', later⟩
  · exact Or.inl (Nat.le_trans first.uids new)
  · rcases first.task key entry' found' with new | ⟨entry, found, earlier⟩
    · exact Or.inl (by rw [later.uid]; exact new)
    · exact Or.inr ⟨entry, found, progressed_trans earlier later⟩

theorem guarantee_progress {key : ObjectKey} {w w' : Cluster} (move : Guarantee key w w') :
    Progress w w' := by
  refine ⟨move.uids, fun other entry' found => Or.inr ?_⟩
  by_cases same : other = key
  · subst same
    exact move.progress entry' found
  · rw [move.task other same] at found
    exact ⟨entry', found, progressed_refl _⟩

theorem progress_storeTask {w : Cluster} {key : ObjectKey} {entry : Versioned TaskRecord}
    {record : TaskRecord} (found : w.tasks.cell key = some entry)
    (progressed : Progressed entry.value record) : Progress w (storeTask w key record) := by
  refine ⟨Nat.le_refl _, fun other entry' found' => Or.inr ?_⟩
  rcases cell_of_put found' with ⟨rfl, rfl⟩ | ⟨_, before⟩
  · exact ⟨entry, found, progressed⟩
  · exact ⟨entry', before, progressed_refl _⟩

theorem progress_of_tasks_eq {w w' : Cluster} (tasks : w'.tasks = w.tasks)
    (nextUid : w'.nextUid = w.nextUid) : Progress w w' :=
  ⟨Nat.le_of_eq nextUid.symm,
    fun _ entry found => Or.inr ⟨entry, tasks ▸ found, progressed_refl _⟩⟩

theorem progress_storeMetadata {w : Cluster} {key : ObjectKey} {entry : Versioned TaskRecord}
    {record : TaskRecord} (found : w.tasks.cell key = some entry)
    (progressed : Progressed entry.value record) : Progress w (storeMetadata w key record) := by
  rcases storeMetadata_cases w key record with erased | stored
  · rw [erased]
    refine ⟨Nat.le_refl _, ?_⟩
    intro other entry' found'
    exact Or.inr ⟨entry', (cell_of_erase found').2, progressed_refl _⟩
  · rw [stored]
    exact progress_storeTask found progressed

theorem environment_progress {w w' : Cluster} (moves : Environment w w') : Progress w w' := by
  cases moves with
  | createTask key spec finalizers absent retries =>
      refine ⟨Nat.le_succ w.nextUid, ?_⟩
      intro other entry' found
      rcases cell_of_put found with ⟨rfl, rfl⟩ | ⟨_, before⟩
      · exact Or.inl (Nat.le_refl _)
      · exact Or.inr ⟨entry', before, progressed_refl _⟩
  | editSpec key entry spec found sameRetries =>
      exact progress_storeTask found ⟨rfl, Int.le_refl _, id⟩
  | requestDeletion key entry found =>
      exact progress_storeMetadata found ⟨rfl, Int.le_refl _, id⟩
  | podMoves name p status found forward => exact progress_of_tasks_eq rfl rfl
  | podRemoved name => exact progress_of_tasks_eq rfl rfl
  | tick later => exact progress_of_tasks_eq rfl rfl

end CloudOS.Orchestrator.RetryInvariant
