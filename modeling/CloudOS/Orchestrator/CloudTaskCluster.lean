import CloudOS.Lib.VersionedStore
import CloudOS.Orchestrator.CloudTaskReconcile

/-!
# CloudTasks and pods behind the API server

The cluster the CloudTask reconciler runs against, with calls that may fail
before or after taking effect and reconciles that may crash between two calls.
Three history variables record what the run did and are read by no code:
`observed` is the pod the last successful lookup for a task returned, `charges`
lists for each task the increments of its retry count with the pod observed
last, and `removed` the pod names that somebody else removed.
-/

set_option autoImplicit false

namespace CloudOS.Orchestrator.CloudTaskCluster

open CloudOS.Kubernetes.Objects
open CloudOS.Lib.CallProgram
open CloudOS.Lib.VersionedStore
open CloudOS.Orchestrator.CloudTaskReconcile

structure TaskRecord where
  uid : Nat
  deletionTimestamp : Option Nat
  finalizers : List String
  spec : CloudTaskSpec
  status : CloudTaskStatus

def TaskRecord.withStatus (record : TaskRecord) (status : CloudTaskStatus) : TaskRecord :=
  { record with status := status }

structure Charge where
  taskUid : Nat
  pod : Option Pod

structure Cluster where
  tasks : Store ObjectKey TaskRecord
  pods : ObjectKey → Option Pod
  nextUid : Nat
  clock : Nat
  observed : ObjectKey → Option Pod
  charges : ObjectKey → List Charge
  removed : List ObjectKey

def toCloudTask (key : ObjectKey) (entry : Versioned TaskRecord) : CloudTask :=
  ⟨key, entry.value.uid, entry.version, entry.value.deletionTimestamp,
    entry.value.finalizers, entry.value.spec, entry.value.status⟩

def toRecord (cloudTask : CloudTask) : TaskRecord :=
  ⟨cloudTask.uid, cloudTask.deletionTimestamp, cloudTask.finalizers, cloudTask.spec,
    cloudTask.status⟩

def taskKind : String := "cloudtasks.tasks.orchestrator.dev"

/-- The cluster after `record` has been written under `key`, and the object
the server answers with. -/
def storeTask (w : Cluster) (key : ObjectKey) (record : TaskRecord) : Cluster :=
  { w with tasks := w.tasks.put key record }

/-- An object marked for deletion goes away with its last finalizer. -/
def storeMetadata (w : Cluster) (key : ObjectKey) (record : TaskRecord) : Cluster :=
  if record.deletionTimestamp.isSome ∧ record.finalizers = [] then
    { w with tasks := w.tasks.erase key }
  else storeTask w key record

/-- `Update` takes metadata and spec, never the status. -/
def updatedRecord (record : TaskRecord) (cloudTask : CloudTask) : TaskRecord :=
  { record with finalizers := cloudTask.finalizers, spec := cloudTask.spec }

/-- The retry count before and after decides whether a write is a charge. -/
def recordCharge (w : Cluster) (key : ObjectKey) (record : TaskRecord)
    (status : CloudTaskStatus) : Cluster :=
  if record.status.retryCount < status.retryCount then
    { w with
      charges := Function.update w.charges key
        (w.charges key ++ [⟨record.uid, w.observed key⟩]) }
  else w

def storeStatus (w : Cluster) (key : ObjectKey) (record : TaskRecord)
    (status : CloudTaskStatus) : Cluster :=
  recordCharge (storeTask w key (record.withStatus status)) key record status

def serveUpdate (w : Cluster) (cloudTask : CloudTask)
    (store : TaskRecord → Cluster) (record : TaskRecord → TaskRecord) :
    Except ApiError CloudTask × Cluster :=
  match w.tasks.cell cloudTask.key with
  | none => (.error (notFoundError taskKind cloudTask.key.name), w)
  | some entry =>
      if entry.version = cloudTask.resourceVersion then
        (.ok (toCloudTask cloudTask.key ⟨w.tasks.next, record entry.value⟩),
          store entry.value)
      else (.error (conflictError taskKind cloudTask.key.name), w)

def servePodCreate (w : Cluster) (pod : Pod) : Except ApiError Unit × Cluster :=
  match w.pods pod.key with
  | some _ => (.error (alreadyExistsError "pods" pod.key.name), w)
  | none =>
      (.ok (), { w with
        pods := Function.update w.pods pod.key
          (some { pod with uid := w.nextUid, status := .fresh })
        nextUid := w.nextUid + 1 })

/-- A correct API server, answering the reconcile of the task `caller`. -/
def serve (caller : ObjectKey) : (op : Call) → Cluster → Answer op × Cluster
  | .getCloudTask key, w =>
      match w.tasks.cell key with
      | none => (.error (notFoundError taskKind key.name), w)
      | some entry => (.ok (toCloudTask key entry), w)
  | .updateCloudTask cloudTask, w =>
      serveUpdate w cloudTask
        (fun record => storeMetadata w cloudTask.key (updatedRecord record cloudTask))
        (fun record => updatedRecord record cloudTask)
  | .updateStatus cloudTask, w =>
      serveUpdate w cloudTask
        (fun record => storeStatus w cloudTask.key record cloudTask.status)
        (fun record => record.withStatus cloudTask.status)
  | .getPod key, w =>
      match w.pods key with
      | none => (.error (notFoundError "pods" key.name), w)
      | some pod =>
          (.ok pod, { w with observed := Function.update w.observed caller (some pod) })
  | .createPod pod, w => servePodCreate w pod
  | .deletePod key, w =>
      match w.pods key with
      | none => (.error (notFoundError "pods" key.name), w)
      | some pod =>
          (.ok (), { w with
            pods := Function.update w.pods key (some { pod with deleting := true }) })
  | .now, w => (w.clock, w)

def unavailable (reason : String) : (op : Call) → Option (Answer op)
  | .getCloudTask _ => some (.error ⟨.unavailable, reason⟩)
  | .updateCloudTask _ => some (.error ⟨.unavailable, reason⟩)
  | .updateStatus _ => some (.error ⟨.unavailable, reason⟩)
  | .getPod _ => some (.error ⟨.unavailable, reason⟩)
  | .createPod _ => some (.error ⟨.unavailable, reason⟩)
  | .deletePod _ => some (.error ⟨.unavailable, reason⟩)
  | .now => none

/-- A lost reply to a lookup is a lookup that observed nothing. -/
def writes : Call → Bool
  | .updateCloudTask _ => true
  | .updateStatus _ => true
  | .createPod _ => true
  | .deletePod _ => true
  | _ => false

inductive Outcome (caller : ObjectKey) (op : Call) (w : Cluster) :
    Answer op → Cluster → Prop
  | served : Outcome caller op w (serve caller op w).1 (serve caller op w).2
  | refused (reason : String) (answer : Answer op)
      (failed : unavailable reason op = some answer) : Outcome caller op w answer w
  | replyLost (reason : String) (answer : Answer op)
      (failed : unavailable reason op = some answer) (isWrite : writes op = true) :
      Outcome caller op w answer (serve caller op w).2

/-- Users create CloudTasks, edit their specs except for `retries`, and ask for
their deletion; pods move forward or are removed; time passes.  Nobody else
creates pods. -/
inductive Environment (w : Cluster) : Cluster → Prop
  | createTask (key : ObjectKey) (spec : CloudTaskSpec) (finalizers : List String)
      (absent : w.tasks.cell key = none) (retries : 0 ≤ spec.retries) :
      Environment w { storeTask w key ⟨w.nextUid, none, finalizers, spec, .zero⟩ with
        nextUid := w.nextUid + 1 }
  | editSpec (key : ObjectKey) (entry : Versioned TaskRecord) (spec : CloudTaskSpec)
      (found : w.tasks.cell key = some entry)
      (sameRetries : spec.retries = entry.value.spec.retries) :
      Environment w (storeTask w key { entry.value with spec := spec })
  | requestDeletion (key : ObjectKey) (entry : Versioned TaskRecord)
      (found : w.tasks.cell key = some entry) :
      Environment w
        (storeMetadata w key { entry.value with
          deletionTimestamp := some (entry.value.deletionTimestamp.getD w.clock) })
  | podMoves (key : ObjectKey) (pod : Pod) (status : PodStatus)
      (found : w.pods key = some pod)
      (forward : pod.status.phase.Forward status.phase) :
      Environment w { w with
        pods := Function.update w.pods key (some { pod with status := status }) }
  | podRemoved (key : ObjectKey) :
      Environment w { w with
        pods := Function.update w.pods key none, removed := key :: w.removed }
  | tick (later : Nat) : Environment w { w with clock := w.clock + later }

def system (parseQuantity : String → Option ℚ) :
    System ObjectKey Cluster Call Answer Exit where
  outcome := Outcome
  program key p := p = reconcile parseQuantity key
  environment := Environment

abbrev Configuration := Conf ObjectKey Cluster Call Answer Exit

/-- Tasks without a status, no pods, an empty history, and no reconcile under
way. -/
structure Initial (c : Configuration) : Prop where
  fresh : ∀ key entry, c.world.tasks.cell key = some entry →
    entry.value.status = .zero ∧ 0 ≤ entry.value.spec.retries ∧
      entry.value.uid < c.world.nextUid
  noPods : ∀ key, c.world.pods key = none
  noCharges : ∀ key, c.world.charges key = []
  idle : ∀ key, c.running key = none

/-! ## What each call may do -/

theorem outcome_getCloudTask {caller key : ObjectKey} {w w' : Cluster}
    {answer : Answer (.getCloudTask key)}
    (out : Outcome caller (.getCloudTask key) w answer w') :
    w' = w ∧ ∀ task, answer = Except.ok task →
      ∃ entry, w.tasks.cell key = some entry ∧ task = toCloudTask key entry := by
  cases out with
  | served =>
      simp only [serve]
      cases found : w.tasks.cell key with
      | none => exact ⟨rfl, fun task ok => by cases ok⟩
      | some entry =>
          exact ⟨rfl, fun task ok => ⟨entry, rfl, (Except.ok.inj ok).symm⟩⟩
  | refused reason _ failed =>
      cases failed
      exact ⟨rfl, fun task ok => by cases ok⟩
  | replyLost reason _ failed isWrite => cases isWrite

theorem serveUpdate_cases (w : Cluster) (task : CloudTask) (store : TaskRecord → Cluster)
    (record : TaskRecord → TaskRecord) :
    ((serveUpdate w task store record).2 = w ∧
      ∀ written, (serveUpdate w task store record).1 ≠ .ok written) ∨
    ∃ entry, w.tasks.cell task.key = some entry ∧
      entry.version = task.resourceVersion ∧
      serveUpdate w task store record =
        (.ok (toCloudTask task.key ⟨w.tasks.next, record entry.value⟩), store entry.value) := by
  unfold serveUpdate
  cases found : w.tasks.cell task.key with
  | none => exact Or.inl ⟨rfl, fun written ok => by cases ok⟩
  | some entry =>
      by_cases current : entry.version = task.resourceVersion
      · exact Or.inr ⟨entry, rfl, current, if_pos current⟩
      · exact Or.inl (by simp [current])

theorem serveUpdate_current {w : Cluster} {task : CloudTask} (store : TaskRecord → Cluster)
    (record : TaskRecord → TaskRecord) {entry : Versioned TaskRecord}
    (found : w.tasks.cell task.key = some entry)
    (current : entry.version = task.resourceVersion) :
    serveUpdate w task store record =
      (.ok (toCloudTask task.key ⟨w.tasks.next, record entry.value⟩), store entry.value) := by
  unfold serveUpdate
  rw [found]
  exact if_pos current

theorem update_effect {w w' : Cluster} {task : CloudTask} (store : TaskRecord → Cluster)
    (record : TaskRecord → TaskRecord) (answer : Except ApiError CloudTask)
    (effect : w' = w ∨ w' = (serveUpdate w task store record).2)
    (honest : ∀ written, answer = .ok written →
      (answer, w') = serveUpdate w task store record) :
    (w' = w ∧ ∀ written, answer ≠ .ok written) ∨
    ∃ entry, w.tasks.cell task.key = some entry ∧
      entry.version = task.resourceVersion ∧ w' = store entry.value ∧
      ∀ written, answer = .ok written →
        written = toCloudTask task.key ⟨w.tasks.next, record entry.value⟩ := by
  cases answer with
  | error err =>
      rcases effect with rfl | rfl
      · exact Or.inl ⟨rfl, fun written ok => by cases ok⟩
      · rcases serveUpdate_cases w task store record with
          ⟨same, _⟩ | ⟨entry, found, current, equal⟩
        · exact Or.inl ⟨same, fun written ok => by cases ok⟩
        · exact Or.inr ⟨entry, found, current, by rw [equal], fun written ok => by cases ok⟩
  | ok written =>
      have served := honest written rfl
      rcases serveUpdate_cases w task store record with
        ⟨_, fails⟩ | ⟨entry, found, current, equal⟩
      · exact absurd (congrArg Prod.fst served).symm (fails written)
      · rw [equal] at served
        cases served
        exact Or.inr ⟨entry, found, current, rfl, fun again ok => by cases ok; rfl⟩

theorem outcome_updateCloudTask {caller : ObjectKey} {task : CloudTask} {w w' : Cluster}
    {answer : Answer (.updateCloudTask task)}
    (out : Outcome caller (.updateCloudTask task) w answer w') :
    (w' = w ∧ ∀ written, answer ≠ Except.ok written) ∨
    ∃ entry, w.tasks.cell task.key = some entry ∧
      entry.version = task.resourceVersion ∧
      w' = storeMetadata w task.key (updatedRecord entry.value task) ∧
      ∀ written, answer = Except.ok written →
        written = toCloudTask task.key ⟨w.tasks.next, updatedRecord entry.value task⟩ := by
  cases out with
  | served => exact update_effect _ _ _ (Or.inr rfl) fun _ _ => rfl
  | refused reason _ failed =>
      cases failed
      exact Or.inl ⟨rfl, fun written ok => by cases ok⟩
  | replyLost reason _ failed isWrite =>
      cases failed
      exact update_effect _ (fun record => updatedRecord record task) (.error _)
        (Or.inr rfl) fun _ ok => by cases ok

theorem outcome_updateStatus {caller : ObjectKey} {task : CloudTask} {w w' : Cluster}
    {answer : Answer (.updateStatus task)}
    (out : Outcome caller (.updateStatus task) w answer w') :
    (w' = w ∧ ∀ written, answer ≠ Except.ok written) ∨
    ∃ entry, w.tasks.cell task.key = some entry ∧
      entry.version = task.resourceVersion ∧
      w' = storeStatus w task.key entry.value task.status ∧
      ∀ written, answer = Except.ok written →
        written = toCloudTask task.key
          ⟨w.tasks.next, entry.value.withStatus task.status⟩ := by
  cases out with
  | served =>
      exact update_effect _ (fun record => record.withStatus task.status) _
        (Or.inr rfl) fun _ _ => rfl
  | refused reason _ failed =>
      cases failed
      exact Or.inl ⟨rfl, fun written ok => by cases ok⟩
  | replyLost reason _ failed isWrite =>
      cases failed
      exact update_effect _ (fun record => record.withStatus task.status)
        (.error _) (Or.inr rfl) fun _ ok => by cases ok

theorem outcome_getPod {caller key : ObjectKey} {w w' : Cluster}
    {answer : Answer (.getPod key)} (out : Outcome caller (.getPod key) w answer w') :
    (w' = w ∧ ∀ pod, answer ≠ Except.ok pod) ∨
    ∃ pod, w.pods key = some pod ∧ answer = Except.ok pod ∧
      w' = { w with observed := Function.update w.observed caller (some pod) } := by
  cases out with
  | served =>
      simp only [serve]
      cases found : w.pods key with
      | none => exact Or.inl ⟨rfl, fun pod ok => by cases ok⟩
      | some pod => exact Or.inr ⟨pod, rfl, rfl, rfl⟩
  | refused reason _ failed =>
      cases failed
      exact Or.inl ⟨rfl, fun pod ok => by cases ok⟩
  | replyLost reason _ failed isWrite => cases isWrite

def addPod (w : Cluster) (pod : Pod) : Cluster :=
  { w with
    pods := Function.update w.pods pod.key
      (some { pod with uid := w.nextUid, status := .fresh })
    nextUid := w.nextUid + 1 }

theorem servePodCreate_cases (w : Cluster) (pod : Pod) :
    ((servePodCreate w pod).2 = w ∧ (servePodCreate w pod).1 ≠ .ok ()) ∨
      (w.pods pod.key = none ∧ (servePodCreate w pod).2 = addPod w pod) := by
  unfold servePodCreate
  cases found : w.pods pod.key with
  | none => exact Or.inr ⟨rfl, rfl⟩
  | some other => exact Or.inl ⟨rfl, fun ok => by cases ok⟩

theorem outcome_createPod {caller : ObjectKey} {pod : Pod} {w w' : Cluster}
    {answer : Answer (.createPod pod)}
    (out : Outcome caller (.createPod pod) w answer w') :
    (w' = w ∧ answer ≠ Except.ok ()) ∨ (w.pods pod.key = none ∧ w' = addPod w pod) := by
  cases out with
  | served => exact servePodCreate_cases w pod
  | refused reason _ failed =>
      cases failed
      exact Or.inl ⟨rfl, fun ok => by cases ok⟩
  | replyLost reason _ failed isWrite =>
      cases failed
      rcases servePodCreate_cases w pod with ⟨same, _⟩ | added
      · exact Or.inl ⟨same, fun ok => by cases ok⟩
      · exact Or.inr added

theorem outcome_deletePod {caller key : ObjectKey} {w w' : Cluster}
    {answer : Answer (.deletePod key)} (out : Outcome caller (.deletePod key) w answer w') :
    w' = w ∨ ∃ pod, w.pods key = some pod ∧
      w' = { w with pods := Function.update w.pods key (some { pod with deleting := true }) } := by
  have effect : (serve caller (.deletePod key) w).2 = w ∨ ∃ pod, w.pods key = some pod ∧
      (serve caller (.deletePod key) w).2 =
        { w with pods := Function.update w.pods key (some { pod with deleting := true }) } := by
    simp only [serve]
    cases found : w.pods key with
    | none => exact Or.inl rfl
    | some pod => exact Or.inr ⟨pod, rfl, rfl⟩
  cases out with
  | served => exact effect
  | refused reason _ failed => exact Or.inl rfl
  | replyLost reason _ failed isWrite => exact effect

theorem outcome_now {caller : ObjectKey} {w w' : Cluster} {answer : Answer .now}
    (out : Outcome caller .now w answer w') : w' = w := by
  cases out with
  | served => rfl
  | refused reason _ failed => rfl
  | replyLost reason _ failed isWrite => cases failed

end CloudOS.Orchestrator.CloudTaskCluster
