import CloudOS.Lib.History
import CloudOS.Operator.AdmittedJobs

/-!
# Reconciling one TaskJob again and again

What a `Reconcile` served without faults does to the objects of the cluster, as
one function of them and of the time it reads: `settle`.  The versions of the
records are left aside, since every status write takes a new one.  With nobody
else at work, two rounds of it reach objects it leaves alone: the first may
create the pod and record Running, the second then reports that the pod is
Pending.
-/

set_option autoImplicit false

namespace CloudOS.Operator.Settling

open CloudOS.Kubernetes.Objects
open CloudOS.Lib.CallProgram
open CloudOS.Lib.History
open CloudOS.Lib.VersionedStore
open CloudOS.Operator.AdmittedJobs
open CloudOS.Operator.DependencySafety
open CloudOS.Operator.ReconcileEval
open CloudOS.Operator.ReconcileOutline
open CloudOS.Operator.TaskJobReconcile
open CloudOS.Operator.TaskJobCluster

/-! ## The objects of a cluster -/

/-- The cluster without its clock and the versions of its records. -/
@[ext] structure Contents where
  jobs : ObjectKey → Option JobRecord
  pods : List Pod
  nextUid : Nat

def contents (w : Cluster) : Contents :=
  ⟨fun key => (w.jobs.cell key).map (·.value), w.pods, w.nextUid⟩

def Contents.write (x : Contents) (key : ObjectKey) (record : JobRecord) : Contents :=
  { x with jobs := Function.update x.jobs key (some record) }

def Contents.add (x : Contents) (pod : Pod) : Contents :=
  { x with
    pods := x.pods ++ [{ pod with uid := x.nextUid, status := .fresh }]
    nextUid := x.nextUid + 1 }

theorem contents_write (w : Cluster) (key : ObjectKey) (spec : TaskJobSpec)
    (status : TaskJobStatus) :
    contents (writeJobStatus w key spec status) = (contents w).write key ⟨spec, status⟩ := by
  refine Contents.ext ?_ rfl rfl
  funext other
  by_cases same : other = key
  · subst same
    simp [contents, writeJobStatus, Contents.write]
  · simp [contents, writeJobStatus, Contents.write, same]

theorem contents_addPod (w : Cluster) (pod : Pod) :
    contents (addPod w pod) = (contents w).add pod := rfl

@[simp] theorem write_jobs_self (x : Contents) (key : ObjectKey) (record : JobRecord) :
    (x.write key record).jobs key = some record := by
  simp [Contents.write]

theorem write_found {x : Contents} {key : ObjectKey} {record : JobRecord}
    (found : x.jobs key = some record) : x.write key record = x := by
  unfold Contents.write
  rw [← found, Function.update_eq_self]

/-! ## One round -/

def check (jobs : ObjectKey → Option JobRecord) (ns : String) :
    List String → Except ApiError Bool
  | [] => .ok true
  | dep :: rest =>
      match jobs ⟨ns, dep⟩ with
      | none => .error (notFoundError "taskjobs.scheduler.cloudos.io" dep)
      | some record => if record.status.phase = .completed then check jobs ns rest else .ok false

section Round
variable (parseQuantity : String → Option ℚ) (key : ObjectKey)

def firstPod (pods : List Pod) : Option Pod :=
  (pods.filter (labelledFor key.ns key.name)).head?

def start (x : Contents) (record : JobRecord) : Contents :=
  if record.spec.image = "" then
    x.write key ⟨record.spec, { record.status with
      phase := .failed, message := "No image specified" }⟩
  else match buildPod parseQuantity ⟨key, 0, record.spec, record.status⟩ with
    | none => x
    | some pod =>
        if x.pods.any (fun other => other.key == pod.key) then
          x.write key ⟨record.spec, { record.status with
            phase := .failed
            message := "Pod creation failed: " ++
              (alreadyExistsError "pods" pod.key.name).message }⟩
        else (x.add pod).write key ⟨record.spec, { record.status with
          phase := .running, podName := pod.key.name }⟩

def settle (x : Contents) (now : Nat) : Contents :=
  match x.jobs key with
  | none => x
  | some record =>
      if record.status.phase = .completed ∨ record.status.phase = .failed then x
      else match check x.jobs key.ns record.spec.dependsOn with
        | .error _ => x
        | .ok false => x.write key ⟨record.spec, waiting record.status⟩
        | .ok true =>
            match firstPod key x.pods with
            | none => start parseQuantity key x record
            | some pod => x.write key ⟨record.spec, synced now record.status pod.status.phase⟩

def reconcileAt (w : Cluster) (now : Nat) : Cluster :=
  afterReconcile parseQuantity key { w with clock := now }

end Round

/-! ## The reconciler computes it -/

section Computes
variable {w : Cluster} {key : ObjectKey} {entry : Versioned JobRecord}

theorem checkDependencies_eval_eq (w : Cluster) (ns : String) (deps : List String) :
    (checkDependencies ns deps).eval serve w = (check (contents w).jobs ns deps, w) := by
  induction deps with
  | nil => rfl
  | cons dep rest ih =>
      unfold checkDependencies
      cases found : w.jobs.cell ⟨ns, dep⟩ with
      | none =>
          simp only [eval_bind, getTaskJob_eval_missing found, check, contents, found,
            Option.map_none]
          rfl
      | some entry =>
          simp only [eval_bind, getTaskJob_eval found, check, contents, found, Option.map_some,
            toTaskJob, ne_eq, ite_not]
          split_ifs with phase
          · exact ih
          · rfl

theorem syncStatus_eval_eq (found : w.jobs.cell key = some entry) (pod : Pod) :
    contents ((syncStatus (toTaskJob key entry) pod).eval serve w).2 =
      (contents w).write key
        ⟨entry.value.spec, synced w.clock entry.value.status pod.status.phase⟩ := by
  have written : ∀ status exit,
      contents ((writeStatus (toTaskJob key entry) status exit).eval serve w).2 =
        (contents w).write key ⟨entry.value.spec, status⟩ := by
    intro status exit
    rw [writeStatus_eval found, contents_write]
  unfold syncStatus
  cases pod.status.phase with
  | running =>
      have isTime : (toTaskJob key entry).status.startTime = entry.value.status.startTime := rfl
      cases started : entry.value.status.startTime with
      | none =>
          simp only [isTime, started, eval_bind, timeNow_eval, synced, Option.getD_none]
          exact written _ _
      | some time =>
          simp only [isTime, started, eval_bind, synced, Option.getD_some]
          exact written _ _
  | succeeded =>
      simp only [eval_bind, timeNow_eval]
      exact written _ _
  | failed =>
      simp only [eval_bind, timeNow_eval]
      exact written _ _
  | pending => exact written _ _
  | unknown =>
      rw [synced, write_found (by simp [contents, found])]
      rfl

theorem startPod_eval_eq (parseQuantity : String → Option ℚ)
    (found : w.jobs.cell key = some entry) :
    contents ((startPod parseQuantity (toTaskJob key entry)).eval serve w).2 =
      start parseQuantity key (contents w) entry.value := by
  have isImage : (toTaskJob key entry).spec.image = entry.value.spec.image := rfl
  have built : buildPod parseQuantity (toTaskJob key entry) =
      buildPod parseQuantity ⟨key, 0, entry.value.spec, entry.value.status⟩ := rfl
  unfold startPod start
  rw [isImage, built]
  by_cases noImage : entry.value.spec.image = ""
  · rw [if_pos noImage, if_pos noImage, writeStatus_eval found, contents_write]
    rfl
  · rw [if_neg noImage, if_neg noImage]
    cases buildPod parseQuantity ⟨key, 0, entry.value.spec, entry.value.status⟩ with
    | none => rfl
    | some pod =>
        have sameAny : (contents w).pods.any (fun other => other.key == pod.key) =
            w.pods.any (fun other => other.key == pod.key) := rfl
        by_cases taken : w.pods.any (fun other => other.key == pod.key)
        · have refused : servePodCreate w pod =
              (.error (alreadyExistsError "pods" pod.key.name), w) := by
            unfold servePodCreate
            rw [if_pos taken]
          simp only [eval_bind, createPod_eval, refused, sameAny, if_pos taken]
          rw [writeStatus_eval found, contents_write]
          rfl
        · have created : servePodCreate w pod = (.ok (), addPod w pod) := by
            unfold servePodCreate
            rw [if_neg taken]
            rfl
          have found' : (addPod w pod).jobs.cell key = some entry := found
          simp only [eval_bind, createPod_eval, created, sameAny, if_neg taken]
          rw [writeStatus_eval found', contents_write, contents_addPod]
          rfl

theorem afterReconcile_eq (parseQuantity : String → Option ℚ) (key : ObjectKey) (w : Cluster) :
    contents (afterReconcile parseQuantity key w) =
      settle parseQuantity key (contents w) w.clock := by
  unfold settle
  cases found : w.jobs.cell key with
  | none =>
      have absent : (contents w).jobs key = none := by simp [contents, found]
      unfold afterReconcile reconcile
      simp only [eval_bind, getTaskJob_eval_missing found, absent]
      rfl
  | some entry =>
      have isRecord : (contents w).jobs key = some entry.value := by simp [contents, found]
      simp only [isRecord]
      by_cases terminal : entry.value.status.phase = .completed ∨
          entry.value.status.phase = .failed
      · rw [if_pos terminal, afterReconcile_terminal parseQuantity found terminal]
      · have goOn : ¬ ((toTaskJob key entry).status.phase = .completed ∨
            (toTaskJob key entry).status.phase = .failed) := terminal
        have checked : (checkDependencies (toTaskJob key entry).key.ns
            (toTaskJob key entry).spec.dependsOn).eval serve w = _ :=
          checkDependencies_eval_eq w key.ns entry.value.spec.dependsOn
        rw [if_neg terminal]
        unfold afterReconcile reconcile
        simp only [eval_bind, getTaskJob_eval found, goOn, if_false, checked]
        cases check (contents w).jobs key.ns entry.value.spec.dependsOn with
        | error err => rfl
        | ok depsOk =>
            cases depsOk with
            | false =>
                rw [writeStatus_eval found, contents_write]
                rfl
            | true =>
                have listed : (findPod (toTaskJob key entry)).eval serve w =
                    (.ok (firstPod key (contents w).pods), w) := findPod_eval _
                simp only [eval_bind, listed]
                cases firstPod key (contents w).pods with
                | none => exact startPod_eval_eq parseQuantity found
                | some pod => exact syncStatus_eval_eq found pod

end Computes

/-! ## Two rounds -/

section Rounds
variable {parseQuantity : String → Option ℚ} {key : ObjectKey} {x : Contents} {record : JobRecord}

theorem check_write (found : x.jobs key = some record)
    (live : record.status.phase ≠ .completed) {written : JobRecord}
    (liveNext : written.status.phase ≠ .completed) (ns : String) (deps : List String) :
    check (x.write key written).jobs ns deps = check x.jobs ns deps := by
  induction deps with
  | nil => rfl
  | cons dep rest ih =>
      unfold check
      by_cases own : (⟨ns, dep⟩ : ObjectKey) = key
      · rw [own, write_jobs_self, found]
        simp only [if_neg live, if_neg liveNext]
      · have other : (x.write key written).jobs ⟨ns, dep⟩ = x.jobs ⟨ns, dep⟩ := by
          simp [Contents.write, own]
        rw [other, ih]

def Still (parseQuantity : String → Option ℚ) (key : ObjectKey) (x : Contents) : Prop :=
  ∀ now, settle parseQuantity key x now = x

theorem still_terminal (found : x.jobs key = some record)
    (terminal : TaskPhase.terminal record.status.phase) : Still parseQuantity key x := by
  intro now
  unfold settle
  rw [found]
  exact if_pos terminal

/-- A live TaskJob whose dependencies are completed and which has a pod. -/
structure HasPod (key : ObjectKey) (x : Contents) (record : JobRecord) (pod : Pod) : Prop where
  found : x.jobs key = some record
  live : ¬ TaskPhase.terminal record.status.phase
  ready : check x.jobs key.ns record.spec.dependsOn = .ok true
  first : firstPod key x.pods = some pod

theorem HasPod.settle_eq {pod : Pod} (has : HasPod key x record pod) (now : Nat) :
    settle parseQuantity key x now =
      x.write key ⟨record.spec, synced now record.status pod.status.phase⟩ := by
  have live : ¬ (record.status.phase = .completed ∨ record.status.phase = .failed) := has.live
  unfold settle
  rw [has.found]
  simp only [if_neg live, has.ready, has.first]

theorem synced_again (first now : Nat) (status : TaskJobStatus) (phase : PodPhase)
    (live : ¬ TaskPhase.terminal (synced first status phase).phase) :
    synced now (synced first status phase) phase = synced first status phase := by
  cases phase with
  | running => rfl
  | succeeded => exact absurd (Or.inl rfl) live
  | failed => exact absurd (Or.inr rfl) live
  | pending => rfl
  | unknown => rfl

theorem write_write (x : Contents) (key : ObjectKey) (first second : JobRecord) :
    (x.write key first).write key second = x.write key second := by
  simp [Contents.write]

theorem HasPod.still {pod : Pod} (has : HasPod key x record pod) (now : Nat) :
    Still parseQuantity key (settle parseQuantity key x now) := by
  rw [has.settle_eq]
  by_cases terminal : TaskPhase.terminal (synced now record.status pod.status.phase).phase
  · exact still_terminal (write_jobs_self _ _ _) terminal
  · have again : HasPod key
        (x.write key ⟨record.spec, synced now record.status pod.status.phase⟩)
        ⟨record.spec, synced now record.status pod.status.phase⟩ pod := by
      refine ⟨write_jobs_self _ _ _, terminal, ?_, has.first⟩
      rw [check_write has.found (fun completed => has.live (Or.inl completed))
        fun completed => terminal (Or.inl completed)]
      exact has.ready
    intro later
    rw [again.settle_eq, synced_again _ _ _ _ terminal, write_write]

theorem still_waiting (found : x.jobs key = some record)
    (live : ¬ TaskPhase.terminal record.status.phase)
    (notReady : check x.jobs key.ns record.spec.dependsOn = .ok false) :
    Still parseQuantity key (x.write key ⟨record.spec, waiting record.status⟩) := by
  intro now
  have goOn : ¬ ((waiting record.status).phase = .completed ∨
      (waiting record.status).phase = .failed) := by
    simp [waiting]
  have sameCheck := @check_write key x record found (fun completed => live (Or.inl completed))
    ⟨record.spec, waiting record.status⟩ (by simp [waiting]) key.ns record.spec.dependsOn
  unfold settle
  rw [write_jobs_self]
  simp only [if_neg goOn, sameCheck, notReady, write_write]
  rfl

theorem firstPod_add {pod : Pod} (noPod : firstPod key x.pods = none)
    (labelled : labelledFor key.ns key.name pod = true) :
    firstPod key (x.add pod).pods = some { pod with uid := x.nextUid, status := .fresh } := by
  have none_before : x.pods.filter (labelledFor key.ns key.name) = [] :=
    List.head?_eq_none_iff.mp noPod
  have label : labelledFor key.ns key.name { pod with uid := x.nextUid, status := .fresh } = true :=
    labelled
  unfold firstPod Contents.add
  rw [List.filter_append, none_before, List.filter_singleton, label]
  rfl

/-- All that one round can do. -/
inductive Round (parseQuantity : String → Option ℚ) (key : ObjectKey) (x : Contents) (now : Nat) :
    Contents → Prop
  | still (still : Still parseQuantity key x) : Round parseQuantity key x now x
  | waits (record : JobRecord) (found : x.jobs key = some record)
      (live : ¬ TaskPhase.terminal record.status.phase)
      (notReady : check x.jobs key.ns record.spec.dependsOn = .ok false) :
      Round parseQuantity key x now (x.write key ⟨record.spec, waiting record.status⟩)
  | reports (record : JobRecord) (pod : Pod) (has : HasPod key x record pod) :
      Round parseQuantity key x now
        (x.write key ⟨record.spec, synced now record.status pod.status.phase⟩)
  | fails (record : JobRecord) (status : TaskJobStatus) (found : x.jobs key = some record)
      (failed : status.phase = .failed) :
      Round parseQuantity key x now (x.write key ⟨record.spec, status⟩)
  | creates (record : JobRecord) (pod : Pod) (status : TaskJobStatus)
      (found : x.jobs key = some record) (live : ¬ TaskPhase.terminal record.status.phase)
      (ready : check x.jobs key.ns record.spec.dependsOn = .ok true)
      (noPod : firstPod key x.pods = none) (labelled : labelledFor key.ns key.name pod = true)
      (running : status.phase = .running) :
      Round parseQuantity key x now ((x.add pod).write key ⟨record.spec, status⟩)

theorem start_round (now : Nat) (found : x.jobs key = some record)
    (live : ¬ TaskPhase.terminal record.status.phase)
    (ready : check x.jobs key.ns record.spec.dependsOn = .ok true)
    (noPod : firstPod key x.pods = none)
    (started : ∀ now, settle parseQuantity key x now = start parseQuantity key x record) :
    Round parseQuantity key x now (start parseQuantity key x record) := by
  unfold start at started ⊢
  split_ifs at started ⊢ with noImage
  · exact .fails record _ found rfl
  · cases built : buildPod parseQuantity ⟨key, 0, record.spec, record.status⟩ with
    | none =>
        simp only [built] at started
        exact .still started
    | some pod =>
        obtain ⟨named, label⟩ := buildPod_label built
        have labelled : labelledFor key.ns key.name pod = true := by
          simp [labelledFor, named, label]
        by_cases taken : x.pods.any fun other => other.key == pod.key
        · simp only [if_pos taken]
          exact .fails record _ found rfl
        · simp only [if_neg taken]
          exact .creates record pod _ found live ready noPod labelled rfl

theorem settle_round (parseQuantity : String → Option ℚ) (key : ObjectKey) (x : Contents)
    (now : Nat) : Round parseQuantity key x now (settle parseQuantity key x now) := by
  have unchanged : Still parseQuantity key x →
      Round parseQuantity key x now (settle parseQuantity key x now) := by
    intro still
    rw [still now]
    exact .still still
  cases found : x.jobs key with
  | none =>
      apply unchanged
      intro later
      unfold settle
      rw [found]
  | some record =>
      by_cases terminal : record.status.phase = .completed ∨ record.status.phase = .failed
      · exact unchanged (still_terminal found terminal)
      · cases checked : check x.jobs key.ns record.spec.dependsOn with
        | error err =>
            apply unchanged
            intro later
            unfold settle
            rw [found]
            simp only [if_neg terminal, checked]
        | ok depsOk =>
            cases depsOk with
            | false =>
                have waits : settle parseQuantity key x now =
                    x.write key ⟨record.spec, waiting record.status⟩ := by
                  unfold settle
                  rw [found]
                  simp only [if_neg terminal, checked]
                rw [waits]
                exact .waits record found terminal checked
            | true =>
                cases first : firstPod key x.pods with
                | some pod =>
                    have has : HasPod key x record pod := ⟨found, terminal, checked, first⟩
                    rw [has.settle_eq]
                    exact .reports record pod has
                | none =>
                    have started : ∀ now, settle parseQuantity key x now =
                        start parseQuantity key x record := by
                      intro now
                      unfold settle
                      rw [found]
                      simp only [if_neg terminal, checked, first]
                    rw [started]
                    exact start_round now found terminal checked first started

theorem Still.settle (still : Still parseQuantity key x) (now : Nat) :
    Still parseQuantity key (settle parseQuantity key x now) := by
  rw [still now]
  exact still

theorem settle_twice (parseQuantity : String → Option ℚ) (key : ObjectKey) (x : Contents)
    (first second : Nat) :
    Still parseQuantity key
      (settle parseQuantity key (settle parseQuantity key x first) second) := by
  generalize result : settle parseQuantity key x first = y
  have round := settle_round parseQuantity key x first
  rw [result] at round
  cases round with
  | still still => exact still.settle second
  | waits record found live notReady => exact (still_waiting found live notReady).settle second
  | reports record pod has =>
      have still := @HasPod.still parseQuantity key x record pod has first
      rw [result] at still
      exact still.settle second
  | fails record status found failed =>
      exact (still_terminal (write_jobs_self _ _ _) (Or.inr failed)).settle second
  | creates record pod status found live ready noPod labelled running =>
      have livesOn : ¬ TaskPhase.terminal status.phase := by simp [TaskPhase.terminal, running]
      have has : HasPod key ((x.add pod).write key ⟨record.spec, status⟩) ⟨record.spec, status⟩
          { pod with uid := x.nextUid, status := .fresh } := by
        refine ⟨write_jobs_self _ _ _, livesOn, ?_, firstPod_add noPod labelled⟩
        rw [@check_write key (x.add pod) record found
          (fun completed => live (Or.inl completed)) ⟨record.spec, status⟩
          fun completed => livesOn (Or.inl completed)]
        exact ready
      exact has.still second

theorem settle_pods (x : Contents) (now : Nat) :
    (settle parseQuantity key x now).pods = x.pods ∨
      firstPod key x.pods = none ∧ ∃ pod, labelledFor key.ns key.name pod = true ∧
        (settle parseQuantity key x now).pods = x.pods ++ [pod] := by
  have round := settle_round parseQuantity key x now
  generalize settle parseQuantity key x now = y at round ⊢
  cases round with
  | still still => exact Or.inl rfl
  | waits record found live notReady => exact Or.inl rfl
  | reports record pod has => exact Or.inl rfl
  | fails record status found failed => exact Or.inl rfl
  | creates record pod status found live ready noPod labelled running =>
      exact Or.inr ⟨noPod, { pod with uid := x.nextUid, status := .fresh }, labelled, rfl⟩

theorem settle_spec (x : Contents) (now : Nat) :
    ((settle parseQuantity key x now).jobs key).map (·.spec) = (x.jobs key).map (·.spec) := by
  have round := settle_round parseQuantity key x now
  generalize settle parseQuantity key x now = y at round ⊢
  cases round with
  | still still => rfl
  | waits record found live notReady => rw [write_jobs_self, found]; rfl
  | reports record pod has => rw [write_jobs_self, has.found]; rfl
  | fails record status found failed => rw [write_jobs_self, found]; rfl
  | creates record pod status found live ready noPod labelled running =>
      rw [write_jobs_self, found]
      rfl

end Rounds

/-! ## Any number of rounds -/

section Runs
variable {parseQuantity : String → Option ℚ} {key : ObjectKey}

theorem contents_reconcileAt (w : Cluster) (now : Nat) :
    contents (reconcileAt parseQuantity key w now) =
      settle parseQuantity key (contents w) now :=
  afterReconcile_eq parseQuantity key { w with clock := now }

theorem contents_after (w : Cluster) (times : List Nat) :
    contents (after (reconcileAt parseQuantity key) w times) =
      after (settle parseQuantity key) (contents w) times := by
  have kept : ∀ now ∈ times, ∀ w x, contents w = x →
      contents (reconcileAt parseQuantity key w now) = settle parseQuantity key x now := by
    rintro now _ w x rfl
    exact contents_reconcileAt w now
  exact after_related kept rfl

theorem after_settled (x : Contents) (times : List Nat) :
    after (settle parseQuantity key) x times =
      after (settle parseQuantity key) x (times.take 2) := by
  match times with
  | [] => rfl
  | [first] => rfl
  | first :: second :: rest =>
      have still := settle_twice parseQuantity key x first second
      have kept : ∀ y now,
          y = settle parseQuantity key (settle parseQuantity key x first) second →
            settle parseQuantity key y now =
              settle parseQuantity key (settle parseQuantity key x first) second := by
        rintro y now rfl
        exact still now
      exact after_invariant kept rfl rest

theorem after_pods (x : Contents) (times : List Nat) :
    ∃ created : List Pod, created.length ≤ 1 ∧
      (after (settle parseQuantity key) x times).pods = x.pods ++ created := by
  have kept : ∀ y now,
      (y.pods = x.pods ∨ ∃ pod, labelledFor key.ns key.name pod = true ∧
        y.pods = x.pods ++ [pod]) →
      (settle parseQuantity key y now).pods = x.pods ∨
        ∃ pod, labelledFor key.ns key.name pod = true ∧
          (settle parseQuantity key y now).pods = x.pods ++ [pod] := by
    intro y now before
    rcases settle_pods y now with same | ⟨noPod, pod, labelled, added⟩
    · rw [same]
      exact before
    · rcases before with same | ⟨earlier, isPod, same⟩
      · exact Or.inr ⟨pod, labelled, by rw [added, same]⟩
      · simp [firstPod, same, isPod] at noPod
  rcases after_invariant kept (Or.inl rfl) times with same | ⟨pod, _, added⟩
  · exact ⟨[], by simp, by simp [same]⟩
  · exact ⟨[pod], by simp, added⟩

/-- Both requests of the TaskJob, or the defaults used for empty ones, are
quantities. -/
def Parseable (parseQuantity : String → Option ℚ) (spec : TaskJobSpec) : Prop :=
  (parseQuantity (orDefault spec.cpuRequest "500m")).isSome = true ∧
    (parseQuantity (orDefault spec.memoryRequest "256Mi")).isSome = true

theorem reconcile_returns (w : Cluster)
    (parseable : ∀ record, (contents w).jobs key = some record →
      Parseable parseQuantity record.spec) :
    ((reconcile parseQuantity key).eval serve w).1 ≠ .panicked := by
  cases found : w.jobs.cell key with
  | none =>
      unfold reconcile
      simp only [eval_bind, getTaskJob_eval_missing found]
      exact nofun
  | some entry =>
      intro panicked
      have onlyBuilding := Prog.Outline.eval serve (fun _ _ => .served) (fun _ => rfl)
        (fun _ => trivial) (reconcile_outline (reading_obligations parseQuantity found) w rfl)
      obtain ⟨tj, ⟨_, rfl, _⟩, _, unbuilt⟩ := onlyBuilding panicked
      have built := (buildPod_isSome_iff parseQuantity (toTaskJob key entry)).mpr
        (parseable entry.value (by simp [contents, found]))
      rw [unbuilt] at built
      cases built

end Runs

/-- From every cluster, reconciling one TaskJob again and again with nobody else
at work, whatever times are read: every reconcile returns, after two of them
nothing changes in any TaskJob or pod, and at most one pod is created. -/
theorem reconcile_settles (parseQuantity : String → Option ℚ) (key : ObjectKey) (w : Cluster)
    (parseable : ∀ entry, w.jobs.cell key = some entry →
      Parseable parseQuantity entry.value.spec) (times : List Nat) :
    (∀ visited ∈ history (reconcileAt parseQuantity key) w times,
      ((reconcile parseQuantity key).eval serve
        { visited.1 with clock := visited.2 }).1 ≠ .panicked) ∧
    contents (after (reconcileAt parseQuantity key) w times) =
      contents (after (reconcileAt parseQuantity key) w (times.take 2)) ∧
    ∃ created : List Pod, created.length ≤ 1 ∧
      (after (reconcileAt parseQuantity key) w times).pods = w.pods ++ created := by
  refine ⟨?_, ?_, ?_⟩
  · have kept : ∀ (w : Cluster) (now : Nat),
        (∀ record, (contents w).jobs key = some record → Parseable parseQuantity record.spec) →
        ∀ record, (contents (reconcileAt parseQuantity key w now)).jobs key = some record →
          Parseable parseQuantity record.spec := by
      intro w now parseable record found
      have sameSpec := @settle_spec parseQuantity key (contents w) now
      rw [← contents_reconcileAt, found] at sameSpec
      obtain ⟨before, foundBefore, isSpec⟩ := Option.map_eq_some_iff.mp sameSpec.symm
      change before.spec = record.spec at isSpec
      rw [← isSpec]
      exact parseable before foundBefore
    have start : ∀ record, (contents w).jobs key = some record →
        Parseable parseQuantity record.spec := by
      intro record found
      obtain ⟨entry, isEntry, rfl⟩ := Option.map_eq_some_iff.mp found
      exact parseable entry isEntry
    intro visited member
    exact reconcile_returns { visited.1 with clock := visited.2 }
      (history_invariant kept start times visited member)
  · rw [contents_after, contents_after, after_settled]
  · have same := @contents_after parseQuantity key w times
    obtain ⟨created, few, added⟩ := @after_pods parseQuantity key (contents w) times
    rw [← same] at added
    exact ⟨created, few, added⟩

/-- `a` gets its pod in the first round, and is queued behind it from the second
on. -/
theorem a_settles :
    contents (after (reconcileAt (fun _ => some 1) ⟨"default", "a"⟩) twoJobs [3, 5, 9]) =
        contents (after (reconcileAt (fun _ => some 1) ⟨"default", "a"⟩) twoJobs [3, 5]) ∧
      ∃ created : List Pod, created.length ≤ 1 ∧
        (after (reconcileAt (fun _ => some 1) ⟨"default", "a"⟩) twoJobs [3, 5, 9]).pods =
          twoJobs.pods ++ created :=
  (reconcile_settles (fun _ => some 1) ⟨"default", "a"⟩ twoJobs
    (fun _ _ => ⟨rfl, rfl⟩) [3, 5, 9]).2

end CloudOS.Operator.Settling
