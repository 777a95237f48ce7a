import CloudOS.Lib.VersionedStore
import CloudOS.Operator.TaskJobReconcile

/-!
# TaskJobs and pods behind the API server

The cluster the TaskJob reconciler runs against.  `serve` answers a call as a
correct API server does; `Outcome` adds the two ways a call may fail: without
effect, or with its effect but a lost reply.  `TaskJobReconcile.reconcile` then
runs for any number of TaskJobs at once, one reconcile for each at a time,
beside users and kubelets.
-/

set_option autoImplicit false

namespace CloudOS.Operator.TaskJobCluster

open CloudOS.Kubernetes.Objects
open CloudOS.Lib.CallProgram
open CloudOS.Lib.VersionedStore
open CloudOS.Operator.TaskJobReconcile

/-- What the store keeps under a key; name, namespace and resource version are
the key and the version of the cell. -/
structure JobRecord where
  spec : TaskJobSpec
  status : TaskJobStatus

structure Cluster where
  jobs : Store ObjectKey JobRecord
  pods : List Pod
  nextUid : Nat
  clock : Nat

def toTaskJob (key : ObjectKey) (entry : Versioned JobRecord) : TaskJob :=
  ⟨key, entry.version, entry.value.spec, entry.value.status⟩

/-- The selector of `findPod`. -/
def labelledFor (ns taskId : String) (pod : Pod) : Bool :=
  pod.key.ns == ns && pod.labels taskIdLabel == some taskId

def servePodCreate (w : Cluster) (pod : Pod) : Except ApiError Unit × Cluster :=
  if w.pods.any (fun other => other.key == pod.key) then
    (.error (alreadyExistsError "pods" pod.key.name), w)
  else
    (.ok (), { w with
      pods := w.pods ++ [{ pod with uid := w.nextUid, status := .fresh }]
      nextUid := w.nextUid + 1 })

/-- `Status().Update`: refused unless the object is still the one that was
read, and then only the status is taken over. -/
def serveStatusUpdate (w : Cluster) (tj : TaskJob) : Except ApiError Unit × Cluster :=
  match w.jobs.cell tj.key with
  | none => (.error (notFoundError "taskjobs.scheduler.cloudos.io" tj.key.name), w)
  | some entry =>
      if entry.version = tj.resourceVersion then
        (.ok (), { w with jobs := w.jobs.put tj.key ⟨entry.value.spec, tj.status⟩ })
      else (.error (conflictError "taskjobs.scheduler.cloudos.io" tj.key.name), w)

def serve : (op : Call) → Cluster → Answer op × Cluster
  | .getTaskJob key, w =>
      match w.jobs.cell key with
      | none => (.error (notFoundError "taskjobs.scheduler.cloudos.io" key.name), w)
      | some entry => (.ok (toTaskJob key entry), w)
  | .listPods ns taskId, w => (.ok (w.pods.filter (labelledFor ns taskId)), w)
  | .createPod pod, w => servePodCreate w pod
  | .updateStatus tj, w => serveStatusUpdate w tj
  | .now, w => (w.clock, w)

/-- The answer of a call that failed on the way; reading the clock cannot. -/
def unavailable (reason : String) : (op : Call) → Option (Answer op)
  | .getTaskJob _ => some (.error ⟨.unavailable, reason⟩)
  | .listPods _ _ => some (.error ⟨.unavailable, reason⟩)
  | .createPod _ => some (.error ⟨.unavailable, reason⟩)
  | .updateStatus _ => some (.error ⟨.unavailable, reason⟩)
  | .now => none

inductive Outcome (op : Call) (w : Cluster) : Answer op → Cluster → Prop
  | served : Outcome op w (serve op w).1 (serve op w).2
  | refused (reason : String) (answer : Answer op)
      (failed : unavailable reason op = some answer) : Outcome op w answer w
  | replyLost (reason : String) (answer : Answer op)
      (failed : unavailable reason op = some answer) : Outcome op w answer (serve op w).2

/-- Users create TaskJobs and edit their specs except for `dependsOn`; pods
move forward, may be removed, and others may create pods that do not carry the
task label; time passes. -/
inductive Environment (w : Cluster) : Cluster → Prop
  | createTaskJob (key : ObjectKey) (spec : TaskJobSpec)
      (absent : w.jobs.cell key = none) :
      Environment w { w with jobs := w.jobs.put key ⟨spec, .zero⟩ }
  | editSpec (key : ObjectKey) (entry : Versioned JobRecord) (spec : TaskJobSpec)
      (found : w.jobs.cell key = some entry)
      (sameDeps : spec.dependsOn = entry.value.spec.dependsOn) :
      Environment w { w with jobs := w.jobs.put key ⟨spec, entry.value.status⟩ }
  | podMoves (before after : List Pod) (pod : Pod) (status : PodStatus)
      (split : w.pods = before ++ pod :: after)
      (forward : pod.status.phase.Forward status.phase) :
      Environment w { w with pods := before ++ { pod with status := status } :: after }
  | podRemoved (before after : List Pod) (pod : Pod)
      (split : w.pods = before ++ pod :: after) :
      Environment w { w with pods := before ++ after }
  | foreignPod (pod : Pod) (unlabelled : pod.labels taskIdLabel = none) :
      Environment w { w with
        pods := w.pods ++ [{ pod with uid := w.nextUid }], nextUid := w.nextUid + 1 }
  | tick (later : Nat) : Environment w { w with clock := w.clock + later }

def system (parseQuantity : String → Option ℚ) :
    System ObjectKey Cluster Call Answer Exit where
  outcome _ := Outcome
  program key p := p = reconcile parseQuantity key
  environment := Environment

abbrev Configuration := Conf ObjectKey Cluster Call Answer Exit

/-- No TaskJob has a status yet, no pod carries a task label, and no reconcile
is under way. -/
structure Initial (c : Configuration) : Prop where
  fresh : ∀ key entry, c.world.jobs.cell key = some entry →
    entry.value.status = .zero
  noPods : ∀ pod ∈ c.world.pods, pod.labels taskIdLabel = none
  idle : ∀ key, c.running key = none

/-- No TaskJob has a phase, there are no task pods, and no reconcile is under
way. -/
structure Unstarted (c : Configuration) : Prop where
  noPhase : ∀ key entry, c.world.jobs.cell key = some entry → entry.value.status.phase = .unset
  noPods : ∀ pod ∈ c.world.pods, pod.labels taskIdLabel = none
  idle : ∀ key, c.running key = none

/-! ## What each call may do -/

theorem serve_get (key : ObjectKey) (w : Cluster) :
    (serve (.getTaskJob key) w).2 = w := by
  simp only [serve]
  cases w.jobs.cell key <;> rfl

theorem outcome_get {key : ObjectKey} {w w' : Cluster}
    {answer : Answer (.getTaskJob key)} (out : Outcome (.getTaskJob key) w answer w') :
    w' = w ∧ ∀ tj, answer = Except.ok tj →
      ∃ entry, w.jobs.cell key = some entry ∧ tj = toTaskJob key entry := by
  cases out with
  | served =>
      refine ⟨serve_get key w, ?_⟩
      intro tj ok
      simp only [serve] at ok
      cases found : w.jobs.cell key with
      | none => simp [found] at ok
      | some entry =>
          simp only [found] at ok
          exact ⟨entry, rfl, (Except.ok.inj ok).symm⟩
  | refused reason _ failed =>
      cases failed
      exact ⟨rfl, fun tj ok => by cases ok⟩
  | replyLost reason _ failed =>
      cases failed
      exact ⟨serve_get key w, fun tj ok => by cases ok⟩

theorem outcome_list {ns taskId : String} {w w' : Cluster}
    {answer : Answer (.listPods ns taskId)}
    (out : Outcome (.listPods ns taskId) w answer w') :
    w' = w ∧ ∀ items, answer = Except.ok items →
      items = w.pods.filter (labelledFor ns taskId) := by
  cases out with
  | served =>
      exact ⟨rfl, fun items ok => (Except.ok.inj ok).symm⟩
  | refused reason _ failed =>
      cases failed
      exact ⟨rfl, fun items ok => by cases ok⟩
  | replyLost reason _ failed =>
      cases failed
      exact ⟨rfl, fun items ok => by cases ok⟩

theorem outcome_now {w w' : Cluster} {answer : Answer .now}
    (out : Outcome .now w answer w') : w' = w := by
  cases out with
  | served => rfl
  | refused reason _ failed => rfl
  | replyLost reason _ failed => cases failed

theorem outcome_clock {w w' : Cluster} {answer : Answer .now}
    (out : Outcome .now w answer w') : answer = w.clock := by
  cases out with
  | served => rfl
  | refused reason _ failed => cases failed
  | replyLost reason _ failed => cases failed

def addPod (w : Cluster) (pod : Pod) : Cluster :=
  { w with
    pods := w.pods ++ [{ pod with uid := w.nextUid, status := .fresh }]
    nextUid := w.nextUid + 1 }

theorem servePodCreate_cases (w : Cluster) (pod : Pod) :
    (servePodCreate w pod).2 = w ∨
      (servePodCreate w pod).2 = addPod w pod ∧ ∀ other ∈ w.pods, other.key ≠ pod.key := by
  unfold servePodCreate
  split
  · exact Or.inl rfl
  · rename_i free
    exact Or.inr ⟨rfl, by simpa using free⟩

theorem outcome_create {pod : Pod} {w w' : Cluster} {answer : Answer (.createPod pod)}
    (out : Outcome (.createPod pod) w answer w') :
    w' = w ∨ w' = addPod w pod ∧ ∀ other ∈ w.pods, other.key ≠ pod.key := by
  cases out with
  | served => exact servePodCreate_cases w pod
  | refused reason _ failed => exact Or.inl rfl
  | replyLost reason _ failed => exact servePodCreate_cases w pod

def writeJobStatus (w : Cluster) (key : ObjectKey) (spec : TaskJobSpec)
    (status : TaskJobStatus) : Cluster :=
  { w with jobs := w.jobs.put key ⟨spec, status⟩ }

theorem serveStatusUpdate_cases (w : Cluster) (tj : TaskJob) :
    (serveStatusUpdate w tj).2 = w ∨
      ∃ entry, w.jobs.cell tj.key = some entry ∧ entry.version = tj.resourceVersion ∧
        (serveStatusUpdate w tj).2 =
          writeJobStatus w tj.key entry.value.spec tj.status := by
  unfold serveStatusUpdate
  cases found : w.jobs.cell tj.key with
  | none => exact Or.inl rfl
  | some entry =>
      by_cases current : entry.version = tj.resourceVersion
      · exact Or.inr ⟨entry, rfl, current, by simp [current, writeJobStatus]⟩
      · exact Or.inl (by simp [current])

theorem outcome_update {tj : TaskJob} {w w' : Cluster} {answer : Answer (.updateStatus tj)}
    (out : Outcome (.updateStatus tj) w answer w') :
    w' = w ∨ ∃ entry, w.jobs.cell tj.key = some entry ∧
      entry.version = tj.resourceVersion ∧
      w' = writeJobStatus w tj.key entry.value.spec tj.status := by
  cases out with
  | served => exact serveStatusUpdate_cases w tj
  | refused reason _ failed => exact Or.inl rfl
  | replyLost reason _ failed => exact serveStatusUpdate_cases w tj

/-! ## What users and kubelets may do -/

theorem environment_pods {w w' : Cluster} (moves : Environment w w') {pod : Pod} {name : String}
    (member : pod ∈ w'.pods) (labelled : pod.labels taskIdLabel = some name) :
    ∃ earlier ∈ w.pods, earlier.key = pod.key ∧ earlier.labels = pod.labels ∧
      earlier.status.phase.Forward pod.status.phase := by
  cases moves with
  | createTaskJob key spec absent => exact ⟨pod, member, rfl, rfl, forward_refl _⟩
  | editSpec key entry spec found sameDeps => exact ⟨pod, member, rfl, rfl, forward_refl _⟩
  | podMoves before after moved status split forward =>
      rcases List.mem_append.mp member with early | late
      · exact ⟨pod, by simp [split, early], rfl, rfl, forward_refl _⟩
      · rcases List.mem_cons.mp late with rfl | late
        · exact ⟨moved, by simp [split], rfl, rfl, forward⟩
        · exact ⟨pod, by simp [split, late], rfl, rfl, forward_refl _⟩
  | podRemoved before after removed split =>
      refine ⟨pod, ?_, rfl, rfl, forward_refl _⟩
      rcases List.mem_append.mp member with early | late
      · simp [split, early]
      · simp [split, late]
  | foreignPod foreign unlabelled =>
      rcases List.mem_append.mp member with old | new
      · exact ⟨pod, old, rfl, rfl, forward_refl _⟩
      · rw [List.mem_singleton] at new
        subst new
        simp [unlabelled] at labelled
  | tick later => exact ⟨pod, member, rfl, rfl, forward_refl _⟩

theorem environment_status {w w' : Cluster} (moves : Environment w w') {key : ObjectKey}
    {entry' : Versioned JobRecord} (found' : w'.jobs.cell key = some entry') :
    entry'.value.status = .zero ∨
      ∃ entry, w.jobs.cell key = some entry ∧ entry'.value.status = entry.value.status := by
  cases moves with
  | createTaskJob created spec absent =>
      rcases cell_of_put found' with ⟨rfl, rfl⟩ | ⟨_, before⟩
      · exact Or.inl rfl
      · exact Or.inr ⟨entry', before, rfl⟩
  | editSpec edited entry spec found sameDeps =>
      rcases cell_of_put found' with ⟨rfl, rfl⟩ | ⟨_, before⟩
      · exact Or.inr ⟨entry, found, rfl⟩
      · exact Or.inr ⟨entry', before, rfl⟩
  | podMoves before after moved status split forward => exact Or.inr ⟨entry', found', rfl⟩
  | podRemoved before after removed split => exact Or.inr ⟨entry', found', rfl⟩
  | foreignPod foreign unlabelled => exact Or.inr ⟨entry', found', rfl⟩
  | tick later => exact Or.inr ⟨entry', found', rfl⟩

end CloudOS.Operator.TaskJobCluster
