import CloudOS.Orchestrator.RetryInvariant

/-!
# Retry accounting of the CloudTask controller

`Accounted` holds throughout every run: whatever call fails and wherever the
controller crashes, each unit of a retry count belongs to one failed pod of the
task, the count stays within the spec, and Completed is final.
-/

set_option autoImplicit false

namespace CloudOS.Orchestrator.RetryAccounting

open CloudOS.Kubernetes.Objects
open CloudOS.Lib.CallProgram
open CloudOS.Lib.VersionedStore
open CloudOS.Orchestrator.CloudTaskReconcile
open CloudOS.Orchestrator.CloudTaskCluster
open CloudOS.Orchestrator.RetryInvariant

/-! ## What a reconcile knows between two calls -/

/-- The task as it was read; a write on it goes through only while the store
still has it. -/
structure Snap (task : CloudTask) (w : Cluster) : Prop where
  shape : StatusShape task.key task.status
  remembered : w.tasks.Remembers task.key ⟨task.resourceVersion, toRecord task⟩

def Live (task : CloudTask) (w : Cluster) : Prop :=
  w.tasks.cell task.key = some ⟨task.resourceVersion, toRecord task⟩

/-- A task without pod: whatever is stored under the key names no pod either. -/
structure Unnamed (task : CloudTask) (w : Cluster) : Prop extends Snap task w where
  quiet : ∀ entry, w.tasks.cell task.key = some entry → entry.value.status.podName = ""

/-- The pod under the task's pod name was created after the last charge. -/
structure Started (task : CloudTask) (w : Cluster) : Prop extends Snap task w where
  fresh : ∀ p, w.pods (podKey task.key) = some p →
    some p.uid ∉ chargedUids (w.charges task.key)

/-- The lookup returned `pod`. -/
structure Seen (task : CloudTask) (pod : Pod) (w : Cluster) : Prop extends Snap task w where
  named : task.status.podName ≠ ""
  observed : w.observed task.key = some pod
  located : pod.key = podKey task.key
  uid : pod.uid < w.nextUid
  stored : ∀ p, w.pods (podKey task.key) = some p → pod.Later p
  gone : w.pods (podKey task.key) = none → podKey task.key ∈ w.removed
  agrees : Live task w → PodAgrees task.status.phase (w.charges task.key) pod

/-- The pod was created, and the clock read `now` since. -/
structure StartedAt (task : CloudTask) (now : Nat) (w : Cluster) : Prop
    extends Started task w where
  reached : now ≤ w.clock

/-- The lookup returned `pod`, and the clock read `now` since; if the store
still has the task, it had it then. -/
structure SeenAt (inv : Cluster → Prop) (task : CloudTask) (pod : Pod) (now : Nat)
    (w : Cluster) : Prop extends Seen task pod w where
  reached : now ≤ w.clock
  read : Live task w → ∃ a, inv a ∧ a.clock = now ∧ Live task a

theorem snap_kept {task : CloudTask} (w w' : Cluster) (snap : Snap task w)
    (moved : Rely task.key w w') : Snap task w' :=
  ⟨snap.shape, remembers_kept snap.remembered moved.advances⟩

theorem unnamed_kept {task : CloudTask} (w w' : Cluster) (unnamed : Unnamed task w)
    (moved : Rely task.key w w') : Unnamed task w' := by
  refine ⟨snap_kept w w' unnamed.toSnap moved, ?_⟩
  intro entry' found'
  rcases moved.task entry' found' with zero | ⟨entry, found, same⟩
  · rw [zero]
    rfl
  · rw [same]
    exact unnamed.quiet entry found

theorem started_kept {task : CloudTask} (w w' : Cluster) (started : Started task w)
    (moved : Rely task.key w w') : Started task w' := by
  refine ⟨snap_kept w w' started.toSnap moved, ?_⟩
  intro p' isPod
  obtain ⟨p, wasPod, later⟩ := moved.pod p' isPod
  rw [moved.charges, later.uid]
  exact started.fresh p wasPod

theorem seen_kept {task : CloudTask} {pod : Pod} (w w' : Cluster) (seen : Seen task pod w)
    (moved : Rely task.key w w') : Seen task pod w' where
  toSnap := snap_kept w w' seen.toSnap moved
  named := seen.named
  observed := moved.observed.trans seen.observed
  located := seen.located
  uid := Nat.lt_of_lt_of_le seen.uid moved.uids
  stored p' isPod := by
    obtain ⟨p, wasPod, later⟩ := moved.pod p' isPod
    exact later_trans (seen.stored p wasPod) later
  gone empty := by
    rcases moved.gone empty with before | now
    · exact moved.removed _ (seen.gone before)
    · exact now
  agrees live := by
    rw [moved.charges]
    exact seen.agrees (live_before seen.remembered moved.advances live)

theorem startedAt_kept {task : CloudTask} {now : Nat} (w w' : Cluster)
    (held : StartedAt task now w) (moved : Rely task.key w w') : StartedAt task now w' :=
  ⟨started_kept w w' held.toStarted moved, Nat.le_trans held.reached moved.passed⟩

theorem seenAt_kept {inv : Cluster → Prop} {task : CloudTask} {pod : Pod} {now : Nat}
    (w w' : Cluster) (held : SeenAt inv task pod now w) (moved : Rely task.key w w') :
    SeenAt inv task pod now w' where
  toSeen := seen_kept w w' held.toSeen moved
  reached := Nat.le_trans held.reached moved.passed
  read live := held.read (live_before held.remembered moved.advances live)

theorem snap_of_cell {key : ObjectKey} {w : Cluster} {entry : Versioned TaskRecord}
    (ok : Accounted w) (found : w.tasks.cell key = some entry) :
    Snap (toCloudTask key entry) w :=
  ⟨(ok.task key entry found).1.shape, remembers_of_cell w.tasks found⟩

/-- The version matched, so the store still has what was read. -/
theorem live_of_version {task : CloudTask} {w : Cluster} (snap : Snap task w)
    {entry : Versioned TaskRecord} (found : w.tasks.cell task.key = some entry)
    (current : entry.version = task.resourceVersion) :
    entry = ⟨task.resourceVersion, toRecord task⟩ ∧ Live task w := by
  have same := snap.remembered.2 entry found current
  refine ⟨same, ?_⟩
  rw [same] at found
  exact found

theorem named_shape {key : ObjectKey} {status : CloudTaskStatus}
    (shape : StatusShape key status) (named : status.podName ≠ "") :
    status.podName = podNameFor key.name ∧
      (status.phase = .running ∨ status.phase = .completed ∨ status.phase = .failed) :=
  shape.resolve_left fun unnamed => named unnamed.1

theorem podNameFor_ne_empty (name : String) : podNameFor name ≠ "" := by
  intro empty
  have none : (podNameFor name).length = 0 := by
    rw [empty]
    rfl
  simp [podNameFor] at none

theorem unnamed_shape {key : ObjectKey} {status : CloudTaskStatus}
    (shape : StatusShape key status) (unnamed : status.podName = "") :
    status.phase = .unset ∨ status.phase = .pending := by
  rcases shape with ⟨_, waiting⟩ | ⟨named, _⟩
  · exact waiting
  · rw [unnamed] at named
    exact absurd named.symm (podNameFor_ne_empty key.name)

/-! ## What a call of a reconcile does -/

/-- Everything that a call of the reconcile of a task does to the cluster, and
what is known when it does; a world in which the clock was read satisfied
`inv`. -/
inductive Move (inv : Cluster → Prop) : ObjectKey → Cluster → Cluster → Prop
  | still (key : ObjectKey) (w : Cluster) : Move inv key w w
  | observes (key : ObjectKey) (w : Cluster) (pod : Pod) :
      Move inv key w { w with observed := Function.update w.observed key (some pod) }
  | adds (task : CloudTask) (pod : Pod) (w : Cluster) (unnamed : Unnamed task w)
      (located : pod.key = podKey task.key) : Move inv task.key w (addPod w pod)
  | marks (key : ObjectKey) (w : Cluster) (pod : Pod) (found : w.pods (podKey key) = some pod) :
      Move inv key w { w with
        pods := Function.update w.pods (podKey key) (some { pod with deleting := true }) }
  | updates (task : CloudTask) (finalizers : List String) (w : Cluster) (live : Live task w) :
      Move inv task.key w (storeMetadata w task.key
        (updatedRecord (toRecord task) { task with finalizers := finalizers }))
  | starts (task : CloudTask) (now : Nat) (w : Cluster) (started : StartedAt task now w)
      (live : Live task w)
      (waiting : task.status.phase = .unset ∨ task.status.phase = .pending) :
      Move inv task.key w (storeStatus w task.key (toRecord task)
        (startedStatus task (podNameFor task.key.name) now))
  | refreshes (task : CloudTask) (pod : Pod) (now lastUpdate : Nat) (status : CloudTaskStatus)
      (w : Cluster) (seen : SeenAt inv task pod now w) (live : Live task w)
      (news : observedStatus task.status pod.status now = some status) :
      Move inv task.key w (storeStatus w task.key (toRecord task)
        { status with lastUpdateTime := some lastUpdate })
  | retries (task : CloudTask) (pod : Pod) (w : Cluster) (seen : Seen task pod w)
      (live : Live task w) (failed : task.status.phase = .failed)
      (more : task.status.retryCount < task.spec.retries) :
      Move inv task.key w (storeStatus w task.key (toRecord task) (retriedStatus task))

abbrev Outlined {α : Type} (inv : Cluster → Prop) (key : ObjectKey) (p : Prog Call Answer α)
    (post : α → Cluster → Prop) (w : Cluster) : Prop :=
  p.Outline (Outcome key) inv (Rely key) (Move inv key) post w

theorem timeNow_outlined {α : Type} {inv : Cluster → Prop} {key : ObjectKey}
    {post : α → Cluster → Prop} {next : Nat → Prog Call Answer α} {w : Cluster}
    (assertion : Cluster → Prop) (established : assertion w)
    (kept : ∀ a b, assertion a → Rely key a b → assertion b)
    (rest : ∀ a, assertion a → inv a → Outlined inv key (next a.clock) post a) :
    Outlined inv key (timeNow >>= next) post w := by
  apply Prog.Outline.of_perform assertion established kept
  intro a now b held holds out
  cases out with
  | served => exact ⟨.still key a, rest a held holds⟩
  | refused reason _ failed => cases failed
  | replyLost reason _ failed isWrite => cases failed

/-! ## Status writes -/

theorem storeStatus_same {w : Cluster} {key : ObjectKey} {record : TaskRecord}
    {status : CloudTaskStatus} (same : status.retryCount = record.status.retryCount) :
    storeStatus w key record status = storeTask w key (record.withStatus status) := by
  unfold storeStatus recordCharge
  rw [if_neg (by omega)]

theorem storeStatus_tasks (w : Cluster) (key : ObjectKey) (record : TaskRecord)
    (status : CloudTaskStatus) :
    (storeStatus w key record status).tasks = w.tasks.put key (record.withStatus status) := by
  unfold storeStatus recordCharge
  split <;> rfl

/-- The rule for a status write: what it does when the store still has the
task that was read. -/
theorem updateStatus_outlined {α : Type} {inv : Cluster → Prop} {task : CloudTask}
    (status : CloudTaskStatus)
    {next : Except ApiError CloudTask → Prog Call Answer α} {post : α → Cluster → Prop}
    {w : Cluster} (assertion : Cluster → Prop) (established : assertion w)
    (kept : ∀ a b, assertion a → Rely task.key a b → assertion b)
    (snap : ∀ a, assertion a → Snap task a)
    (write : ∀ a, assertion a → inv a → Live task a →
      Move inv task.key a (storeStatus a task.key (toRecord task) status) ∧
      Outlined inv task.key
        (next (.ok (toCloudTask task.key ⟨a.tasks.next, (toRecord task).withStatus status⟩)))
        post (storeStatus a task.key (toRecord task) status))
    (fails : ∀ err a, Outlined inv task.key (next (.error err)) post a) :
    Outlined inv task.key (updateStatus { task with status := status } >>= next) post w := by
  apply Prog.Outline.of_perform assertion established kept
  intro a answer b held holds out
  rcases outcome_updateStatus out with ⟨rfl, notOk⟩ | ⟨entry, found, current, rfl, written⟩
  · refine ⟨.still task.key b, ?_⟩
    cases answer with
    | error err => exact fails err b
    | ok task' => exact absurd rfl (notOk task')
  · obtain ⟨rfl, live⟩ := live_of_version (snap a held) found current
    obtain ⟨move, continued⟩ := write a held holds live
    refine ⟨move, ?_⟩
    cases answer with
    | error err => exact fails err _
    | ok task' =>
        rw [written task' rfl]
        exact continued

/-! ### The retry -/

theorem storeStatus_retried {task : CloudTask} {pod : Pod} {w : Cluster}
    (observed : w.observed task.key = some pod) :
    storeStatus w task.key (toRecord task) (retriedStatus task) =
      { storeTask w task.key ((toRecord task).withStatus (retriedStatus task)) with
        charges := Function.update w.charges task.key
          (w.charges task.key ++ [⟨task.uid, some pod⟩]) } := by
  have grows : (toRecord task).status.retryCount < (retriedStatus task).retryCount :=
    Int.lt_succ task.status.retryCount
  unfold storeStatus recordCharge
  rw [if_pos grows]
  simp only [storeTask, observed]
  rfl

theorem taskOk_retried {task : CloudTask} {pod : Pod} {charges : List Charge}
    {stored : Option Pod} (taskOk : TaskOk task.key charges stored (toRecord task))
    (more : task.status.retryCount < task.spec.retries) :
    TaskOk task.key (charges ++ [⟨task.uid, some pod⟩]) stored
      ((toRecord task).withStatus (retriedStatus task)) := by
  have nonneg : 0 ≤ task.status.retryCount := taskOk.nonneg
  have counted : ((chargesOf (charges ++ [⟨task.uid, some pod⟩]) task.uid).length : Int) =
      task.status.retryCount + 1 := by
    have before : ((chargesOf charges task.uid).length : Int) = task.status.retryCount :=
      taskOk.counted
    simp only [chargesOf, List.filter_append, List.length_append] at before ⊢
    simp [before]
  refine ⟨?_, ?_, counted, Or.inl ⟨rfl, Or.inr rfl⟩, fun named => absurd rfl named⟩
  · show 0 ≤ task.status.retryCount + 1
    omega
  · show task.status.retryCount + 1 ≤ task.spec.retries
    omega

theorem guarantee_retry {task : CloudTask} {pod : Pod} {w : Cluster} (seen : Seen task pod w)
    (ok : Accounted w) (live : Live task w) (failed : task.status.phase = .failed)
    (more : task.status.retryCount < task.spec.retries) :
    Guarantee task.key w (storeStatus w task.key (toRecord task) (retriedStatus task)) := by
  obtain ⟨taskOk, uid⟩ := ok.task task.key _ live
  have agrees := seen.agrees live
  rw [storeStatus_retried seen.observed]
  have frame := local_storeTask task.key w ((toRecord task).withStatus (retriedStatus task))
  refine ⟨⟨frame.advances, frame.uids, frame.task, ?_, frame.observed,
    frame.pod, frame.removed, frame.clock⟩, ?_, fun entry' found' => ⟨_, live, ?_⟩⟩
  · intro other different
    exact Function.update_of_ne different _ _
  · exact accounted_charge ok uid (taskOk_retried taskOk more) agrees.uncharged
      (agrees.failed failed) seen.located seen.uid seen.gone
  · obtain ⟨_, rfl⟩ := (cell_of_put found').resolve_right fun other => other.1 rfl
    refine ⟨rfl, ?_, ?_⟩
    · show task.status.retryCount ≤ task.status.retryCount + 1
      omega
    · intro completed
      have running : task.status.phase = .completed := completed
      rw [failed] at running
      cases running

theorem actOnPhase_outlined {inv : Cluster → Prop} (task : CloudTask) (pod : Pod) (w : Cluster)
    (seen : Seen task pod w) :
    Outlined inv task.key (actOnPhase task) (fun _ _ => True) w := by
  unfold actOnPhase
  cases phase : task.status.phase with
  | unset => trivial
  | pending => trivial
  | running => trivial
  | completed => trivial
  | failed =>
      by_cases more : task.status.retryCount < task.spec.retries
      · simp only [more, if_true]
        refine updateStatus_outlined (retriedStatus task) (Seen task pod) seen seen_kept
          (fun a held => held.toSnap) ?_ (fun err a => trivial)
        intro a held _ live
        exact ⟨.retries task pod a held live phase more, trivial⟩
      · simp only [more, if_false]
        trivial

/-! ### Bringing the status up to date -/

/-- While the task and its pod agree, the only news is how a running pod
ended. -/
theorem observedStatus_agreeing {status status' : CloudTaskStatus} {charges : List Charge}
    {pod : Pod} {now : Nat} (agrees : PodAgrees status.phase charges pod)
    (named : status.phase = .running ∨ status.phase = .completed ∨ status.phase = .failed)
    (news : observedStatus status pod.status now = some status') :
    status.phase = .running ∧ status'.podName = status.podName ∧
      status'.retryCount = status.retryCount ∧
      ((status'.phase = .completed ∧ pod.status.phase = .succeeded) ∨
        (status'.phase = .failed ∧ pod.status.phase = .failed)) := by
  unfold observedStatus at news
  rcases named with running | completed | failed
  · cases podPhase : pod.status.phase with
    | pending => simp [podPhase, running] at news
    | running => simp [podPhase, running] at news
    | unknown => simp [podPhase] at news
    | succeeded =>
        simp only [podPhase, running, ne_eq, reduceCtorEq, not_false_eq_true, if_true,
          Option.some.injEq] at news
        subst news
        exact ⟨running, rfl, rfl, Or.inl ⟨rfl, rfl⟩⟩
    | failed =>
        simp only [podPhase, running, ne_eq, reduceCtorEq, not_false_eq_true, if_true,
          Option.some.injEq] at news
        subst news
        exact ⟨running, rfl, rfl, Or.inr ⟨rfl, rfl⟩⟩
  · simp [agrees.succeeded completed, completed] at news
  · simp [agrees.failed failed, failed] at news

/-- What `updateStatusFromPod` returns, and when. -/
def Refreshed (inv : Cluster → Prop) (task : CloudTask) (pod : Pod) (result : CloudTask × Bool)
    (w : Cluster) : Prop :=
  (result = (task, false) ∧ Seen task pod w) ∨
    ∃ now status lastUpdate, SeenAt inv task pod now w ∧
      observedStatus task.status pod.status now = some status ∧
      result = ({ task with
        status := { status with lastUpdateTime := some lastUpdate } }, true)

theorem updateStatusFromPod_outlined {inv : Cluster → Prop} (task : CloudTask) (pod : Pod)
    (w : Cluster) (seen : Seen task pod w) :
    Outlined inv task.key (updateStatusFromPod task pod) (Refreshed inv task pod) w := by
  apply timeNow_outlined (Seen task pod) seen seen_kept
  intro a held holds
  cases news : observedStatus task.status pod.status a.clock with
  | none => exact Or.inl ⟨rfl, held⟩
  | some status =>
      have heldAt : SeenAt inv task pod a.clock a :=
        ⟨held, Nat.le_refl _, fun live => ⟨a, holds, rfl, live⟩⟩
      apply timeNow_outlined (SeenAt inv task pod a.clock) heldAt seenAt_kept
      intro b still _
      exact Or.inr ⟨a.clock, status, b.clock, still, news, rfl⟩

theorem guarantee_refresh {task : CloudTask} {pod : Pod} {w : Cluster} {now : Nat}
    {status : CloudTaskStatus} {lastUpdate : Nat} (seen : Seen task pod w) (ok : Accounted w)
    (live : Live task w) (news : observedStatus task.status pod.status now = some status) :
    Guarantee task.key w (storeStatus w task.key (toRecord task)
      { status with lastUpdateTime := some lastUpdate }) ∧
    Seen (toCloudTask task.key ⟨w.tasks.next,
        (toRecord task).withStatus { status with lastUpdateTime := some lastUpdate }⟩) pod
      (storeStatus w task.key (toRecord task)
        { status with lastUpdateTime := some lastUpdate }) := by
  obtain ⟨taskOk, uid⟩ := ok.task task.key _ live
  have agrees := seen.agrees live
  obtain ⟨podName, phases⟩ := named_shape seen.shape seen.named
  obtain ⟨running, sameName, sameCount, ended⟩ := observedStatus_agreeing agrees phases news
  have shape : StatusShape task.key { status with lastUpdateTime := some lastUpdate } := by
    refine Or.inr ⟨sameName.trans podName, ?_⟩
    rcases ended with ⟨completed, _⟩ | ⟨failed, _⟩
    · exact Or.inr (Or.inl completed)
    · exact Or.inr (Or.inr failed)
  have agrees' : PodAgrees status.phase (w.charges task.key) pod := agrees.of_ended ended
  have taskOk' : TaskOk task.key (w.charges task.key) (w.pods (podKey task.key))
      ((toRecord task).withStatus { status with lastUpdateTime := some lastUpdate }) :=
    taskOk.of_sameCount sameCount shape fun p isPod => agrees'.later (seen.stored p isPod)
  rw [storeStatus_same sameCount]
  constructor
  · refine guarantee_storeTask live (accounted_storeTask ok taskOk' uid) ⟨rfl, ?_, ?_⟩
    · exact Int.le_of_eq sameCount.symm
    · intro completed
      have was : task.status.phase = .completed := completed
      rw [running] at was
      cases was
  · exact {
      shape := shape
      remembered := remembers_of_cell _ (put_cell_self w.tasks task.key _)
      named := by
        show status.podName ≠ ""
        rw [sameName]
        exact seen.named
      observed := seen.observed
      located := seen.located
      uid := seen.uid
      stored := seen.stored
      gone := seen.gone
      agrees := fun _ => agrees' }

theorem reconcileWithPod_outlined {inv : Cluster → Prop} (accounted : ∀ a, inv a → Accounted a)
    (task : CloudTask) (pod : Pod) (w : Cluster) (seen : Seen task pod w) :
    Outlined inv task.key (reconcileWithPod task pod) (fun _ _ => True) w := by
  refine Prog.Outline.bind (updateStatusFromPod_outlined task pod w seen) ?_
  rintro result a (⟨rfl, held⟩ | ⟨now, status, lastUpdate, held, news, rfl⟩)
  · exact actOnPhase_outlined task pod a held
  · refine updateStatus_outlined _ (SeenAt inv task pod now) held seenAt_kept
      (fun b still => still.toSnap) ?_ (fun err b => trivial)
    intro b still holds live
    exact ⟨.refreshes task pod now lastUpdate status b still live news,
      actOnPhase_outlined _ pod _ (guarantee_refresh still.toSeen (accounted b holds) live news).2⟩

/-! ### Starting a pod -/

theorem guarantee_addPod {task : CloudTask} {pod : Pod} {w : Cluster}
    (unnamed : Unnamed task w) (ok : Accounted w) (located : pod.key = podKey task.key) :
    Guarantee task.key w (addPod w pod) := by
  have frame : Local task.key w (addPod w pod) := by
    refine ⟨advances_refl w.tasks, Nat.le_succ w.nextUid, fun _ _ => rfl, fun _ _ => rfl,
      fun _ _ => rfl, ?_, rfl, rfl⟩
    intro other different
    rw [← located] at different
    exact Function.update_of_ne different _ _
  exact guarantee_of_task_eq frame (accounted_addPod ok located unnamed.quiet) rfl

theorem started_of_addPod {task : CloudTask} {pod : Pod} {w : Cluster} (snap : Snap task w)
    (ok : Accounted w) (located : pod.key = podKey task.key) :
    Started task (addPod w pod) := by
  refine ⟨⟨snap.shape, snap.remembered⟩, ?_⟩
  intro p isPod charged
  have new : p.uid = w.nextUid := by
    simp only [addPod, located, Function.update_self, Option.some.injEq] at isPod
    rw [← isPod]
  obtain ⟨charge, member, same⟩ := List.mem_map.mp charged
  obtain ⟨q, isCharged, _, _, old⟩ := (ok.charge task.key).pod charge member
  rw [isCharged, Option.map_some, Option.some.injEq] at same
  omega

theorem guarantee_start {task : CloudTask} {w : Cluster} {status : CloudTaskStatus}
    (started : Started task w) (ok : Accounted w) (live : Live task w)
    (waiting : task.status.phase = .unset ∨ task.status.phase = .pending)
    (phase : status.phase = .running) (podName : status.podName = podNameFor task.key.name)
    (sameCount : status.retryCount = task.status.retryCount) :
    Guarantee task.key w (storeStatus w task.key (toRecord task) status) := by
  obtain ⟨taskOk, uid⟩ := ok.task task.key _ live
  have taskOk' : TaskOk task.key (w.charges task.key) (w.pods (podKey task.key))
      ((toRecord task).withStatus status) := by
    apply taskOk.of_sameCount sameCount (Or.inr ⟨podName, Or.inl phase⟩)
    intro p isPod
    refine ⟨started.fresh p isPod, ?_, ?_⟩
    · intro completed
      exact absurd (phase.symm.trans completed) (by decide)
    · intro failed
      exact absurd (phase.symm.trans failed) (by decide)
  rw [storeStatus_same sameCount]
  refine guarantee_storeTask live (accounted_storeTask ok taskOk' uid)
    ⟨rfl, Int.le_of_eq sameCount.symm, ?_⟩
  intro completed
  have was : task.status.phase = .completed := completed
  rcases waiting with unset | pending
  · exact absurd (unset.symm.trans was) (by decide)
  · exact absurd (pending.symm.trans was) (by decide)

theorem reconcileWithoutPod_outlined {inv : Cluster → Prop}
    (accounted : ∀ a, inv a → Accounted a) (parseQuantity : String → Option ℚ) (task : CloudTask)
    (w : Cluster) (snap : Snap task w)
    (quiet : task.status.podName = "" → Unnamed task w) :
    Outlined inv task.key (reconcileWithoutPod parseQuantity task) (fun _ _ => True) w := by
  unfold reconcileWithoutPod
  by_cases waiting : task.status.phase = .unset ∨ task.status.phase = .pending
  · simp only [waiting, if_true]
    -- a task that still waits names no pod
    have unnamed : Unnamed task w := by
      apply quiet
      by_contra named
      obtain ⟨_, phases⟩ := named_shape snap.shape named
      rcases waiting with phase | phase <;> simp [phase] at phases
    apply Prog.Outline.of_perform (Unnamed task) unnamed unnamed_kept
    intro a answer b held holds out
    rcases outcome_createPod out with ⟨rfl, notOk⟩ | ⟨free, rfl⟩
    · refine ⟨.still task.key b, ?_⟩
      cases answer with
      | error err => trivial
      | ok done => exact absurd rfl notOk
    · refine ⟨.adds task _ a held rfl, ?_⟩
      cases answer with
      | error err => trivial
      | ok done =>
          have started : Started task (addPod a
              (setControllerReference task (constructPod parseQuantity task))) :=
            started_of_addPod held.toSnap (accounted a holds) rfl
          apply timeNow_outlined (Started task) started started_kept
          intro c still _
          refine updateStatus_outlined _ (StartedAt task c.clock) ⟨still, Nat.le_refl _⟩
            startedAt_kept (fun d later => later.toSnap) ?_ (fun err d => trivial)
          intro d later _ live
          exact ⟨.starts task c.clock d later live waiting, trivial⟩
  · simp only [waiting, if_false]
    trivial

/-! ### Lookup, finalizer and deletion -/

theorem seen_of_observe {task : CloudTask} {pod : Pod} {w : Cluster} (snap : Snap task w)
    (ok : Accounted w) (named : task.status.podName ≠ "")
    (found : w.pods (podKey task.key) = some pod) :
    Seen task pod
      { w with observed := Function.update w.observed task.key (some pod) } where
  shape := snap.shape
  remembered := snap.remembered
  named := named
  observed := Function.update_self _ _ _
  located := (ok.pod _ pod found).1
  uid := (ok.pod _ pod found).2
  stored p isPod := by
    cases Option.some.inj (isPod.symm.trans found)
    exact later_refl pod
  gone empty := by
    rw [found] at empty
    cases empty
  agrees live := (ok.task task.key _ live).1.agrees named pod found

theorem podKey_of_named {task : CloudTask} {w : Cluster} (snap : Snap task w)
    (named : task.status.podName ≠ "") :
    (⟨task.key.ns, task.status.podName⟩ : ObjectKey) = podKey task.key := by
  rw [(named_shape snap.shape named).1]
  rfl

theorem getPod_outlined {α : Type} {inv : Cluster → Prop} {task : CloudTask}
    {next : Except ApiError Pod → Prog Call Answer α} {post : α → Cluster → Prop} {w : Cluster}
    (snap : Snap task w)
    (failed : ∀ err a, Snap task a → Outlined inv task.key (next (.error err)) post a)
    (read : ∀ pod a, Snap task a → inv a → a.pods (podKey task.key) = some pod →
      Outlined inv task.key (next (.ok pod)) post
        { a with observed := Function.update a.observed task.key (some pod) }) :
    Outlined inv task.key (getPod (podKey task.key) >>= next) post w := by
  apply Prog.Outline.of_perform (Snap task) snap snap_kept
  intro a answer b held holds out
  rcases outcome_getPod out with ⟨rfl, notOk⟩ | ⟨pod, found, rfl, rfl⟩
  · refine ⟨.still task.key b, ?_⟩
    cases answer with
    | error err => exact failed err b held
    | ok pod => exact absurd rfl (notOk pod)
  · exact ⟨.observes task.key a pod, read pod a held holds found⟩

theorem lookupPod_outlined {inv : Cluster → Prop} (accounted : ∀ a, inv a → Accounted a)
    (task : CloudTask) (w : Cluster) (snap : Snap task w)
    (quiet : task.status.podName = "" → Unnamed task w) :
    Outlined inv task.key (lookupPod task)
      (fun result a => Snap task a ∧ (task.status.podName = "" → Unnamed task a) ∧
        ∀ pod, result = .ok (some pod) → Seen task pod a) w := by
  unfold lookupPod
  by_cases named : task.status.podName = ""
  · rw [if_pos named]
    exact ⟨snap, quiet, fun pod isPod => by cases isPod⟩
  · rw [if_neg named]
    simp only [podKey_of_named snap named]
    refine getPod_outlined snap ?_ ?_
    · intro err a held
      refine Prog.Outline.ite (fun _ => ?_) (fun _ => ?_)
      · exact ⟨held, fun empty => absurd empty named, fun pod isPod => by cases isPod⟩
      · exact ⟨held, fun empty => absurd empty named, fun pod isPod => by cases isPod⟩
    · intro pod a held holds found
      have seen := seen_of_observe held (accounted a holds) named found
      refine ⟨seen.toSnap, fun empty => absurd empty named, ?_⟩
      intro other isPod
      cases isPod
      exact seen

theorem guarantee_update {task : CloudTask} {w : Cluster} {finalizers : List String}
    (ok : Accounted w) (live : Live task w) :
    Guarantee task.key w (storeMetadata w task.key
      (updatedRecord (toRecord task) { task with finalizers := finalizers })) := by
  obtain ⟨taskOk, uid⟩ := ok.task task.key _ live
  have taskOk' : TaskOk task.key (w.charges task.key) (w.pods (podKey task.key))
      (updatedRecord (toRecord task) { task with finalizers := finalizers }) :=
    taskOk.of_status rfl rfl rfl
  exact guarantee_storeMetadata live (accounted_storeMetadata ok taskOk' uid)
    ⟨rfl, Int.le_refl _, id⟩

theorem ensureFinalizer_outlined {inv : Cluster → Prop} (accounted : ∀ a, inv a → Accounted a)
    (task : CloudTask) (w : Cluster) (snap : Snap task w)
    (quiet : task.status.podName = "" → Unnamed task w) :
    Outlined inv task.key (ensureFinalizer task)
      (fun result a => ∀ owned, result = .ok owned → owned.key = task.key ∧ Snap owned a ∧
        (owned.status.podName = "" → Unnamed owned a)) w := by
  unfold ensureFinalizer
  by_cases present : cloudTaskFinalizerKey ∈ task.finalizers
  · rw [if_pos present]
    intro owned isOwned
    cases isOwned
    exact ⟨rfl, snap, quiet⟩
  · rw [if_neg present]
    intro a moved holds answer b out
    have held := snap_kept w a snap moved
    rcases outcome_updateCloudTask out with ⟨rfl, notOk⟩ | ⟨entry, found, current, rfl, written⟩
    · refine ⟨.still task.key b, ?_⟩
      intro owned isOwned
      exact absurd isOwned (notOk owned)
    · obtain ⟨rfl, live⟩ := live_of_version held found current
      refine ⟨.updates task _ a live, ?_⟩
      intro owned isOwned
      rw [written owned isOwned]
      -- an added finalizer keeps the object, so the store now has what was written
      have stays : storeMetadata a task.key (updatedRecord (toRecord task) { task with
            finalizers := task.finalizers ++ [cloudTaskFinalizerKey] }) =
          storeTask a task.key (updatedRecord (toRecord task) { task with
            finalizers := task.finalizers ++ [cloudTaskFinalizerKey] }) := by
        unfold storeMetadata
        rw [if_neg (by simp [updatedRecord])]
      have snap' := snap_of_cell (guarantee_update (accounted a holds) live).accounted
        (by rw [stays]; exact put_cell_self a.tasks task.key _)
      refine ⟨rfl, snap', fun empty => ⟨snap', ?_⟩⟩
      intro entry' found'
      simp only [stays, storeTask, toCloudTask, put_cell_self, Option.some.injEq] at found'
      subst found'
      exact empty

theorem guarantee_markDeleting {key : ObjectKey} {w : Cluster} {pod : Pod} (ok : Accounted w)
    (found : w.pods (podKey key) = some pod) :
    Guarantee key w { w with
      pods := Function.update w.pods (podKey key) (some { pod with deleting := true }) } := by
  have moved := podsMoved_update found
    (q := { pod with deleting := true }) ⟨rfl, rfl, forward_refl _⟩
  refine guarantee_of_task_eq ⟨advances_refl w.tasks, Nat.le_refl _, fun _ _ => rfl,
    fun _ _ => rfl, fun _ _ => rfl, ?_, rfl, rfl⟩
    (accounted_podsMoved ok moved) rfl
  intro other different
  exact Function.update_of_ne different _ _

theorem deleteExternalResources_outlined {inv : Cluster → Prop} (task : CloudTask) (w : Cluster)
    (snap : Snap task w) :
    Outlined inv task.key (deleteExternalResources task) (fun _ a => Snap task a) w := by
  unfold deleteExternalResources
  by_cases named : task.status.podName = ""
  · rw [if_pos named]
    exact snap
  · rw [if_neg named]
    simp only [podKey_of_named snap named]
    refine getPod_outlined snap ?_ ?_
    · intro err a held
      exact Prog.Outline.ite (fun _ => held) (fun _ => held)
    · intro pod a held _ found
      refine Prog.Outline.of_perform (Snap task) ⟨held.shape, held.remembered⟩ snap_kept ?_
      intro c answer' d still _ out'
      have move : Move inv task.key c d ∧ Snap task d := by
        rcases outcome_deletePod out' with rfl | ⟨pod', found', rfl⟩
        · exact ⟨.still task.key d, still⟩
        · exact ⟨.marks task.key c pod' found', still.shape, still.remembered⟩
      refine ⟨move.1, ?_⟩
      cases answer' with
      | error err => exact move.2
      | ok done => exact move.2

theorem reconcileDeletion_outlined {inv : Cluster → Prop} (task : CloudTask) (w : Cluster)
    (snap : Snap task w) :
    Outlined inv task.key (reconcileDeletion task) (fun _ _ => True) w := by
  unfold reconcileDeletion
  by_cases present : cloudTaskFinalizerKey ∈ task.finalizers
  · rw [if_pos present]
    apply Prog.Outline.bind (deleteExternalResources_outlined task w snap)
    intro result a held
    cases result with
    | some err => trivial
    | none =>
        apply Prog.Outline.of_perform (Snap task) held snap_kept
        intro b answer c still _ out
        have move : Move inv task.key b c := by
          rcases outcome_updateCloudTask out with ⟨rfl, _⟩ | ⟨entry, found, current, rfl, _⟩
          · exact .still task.key c
          · obtain ⟨rfl, live⟩ := live_of_version still found current
            exact .updates task _ b live
        refine ⟨move, ?_⟩
        cases answer <;> trivial
  · rw [if_neg present]
    trivial

theorem reconcile_outlined {inv : Cluster → Prop} (accounted : ∀ a, inv a → Accounted a)
    (parseQuantity : String → Option ℚ) (key : ObjectKey) (w : Cluster) :
    Outlined inv key (reconcile parseQuantity key) (fun _ _ => True) w := by
  apply Prog.Outline.of_perform (fun _ => True) trivial (fun _ _ _ _ => trivial)
  intro a answer b _ holds out
  obtain ⟨rfl, read⟩ := outcome_getCloudTask out
  refine ⟨.still key b, ?_⟩
  cases answer with
  | error err =>
      exact Prog.Outline.ite (fun _ => trivial) (fun _ => trivial)
  | ok task =>
      obtain ⟨entry, found, rfl⟩ := read task rfl
      have snap := snap_of_cell (accounted b holds) found
      by_cases deleted : (toCloudTask key entry).deletionTimestamp.isSome
      · simp only [deleted, if_true]
        exact reconcileDeletion_outlined (toCloudTask key entry) b snap
      · simp only [deleted]
        have quiet : (toCloudTask key entry).status.podName = "" →
            Unnamed (toCloudTask key entry) b := by
          intro empty
          refine ⟨snap, ?_⟩
          intro current again
          cases Option.some.inj (again.symm.trans found)
          exact empty
        refine Prog.Outline.bind
          (ensureFinalizer_outlined accounted (toCloudTask key entry) b snap quiet) ?_
        rintro (err | owned) c post
        · trivial
        · obtain ⟨sameKey, snap', quiet'⟩ := post owned rfl
          have here : owned.key = key := sameKey
          subst here
          refine Prog.Outline.bind (lookupPod_outlined accounted owned c snap' quiet') ?_
          rintro (err | _ | pod) d ⟨stillSnap, stillQuiet, seen⟩
          · trivial
          · exact reconcileWithoutPod_outlined accounted parseQuantity owned d stillSnap stillQuiet
          · exact reconcileWithPod_outlined accounted owned pod d (seen pod rfl)

theorem guarantee_of_move {inv : Cluster → Prop} {key : ObjectKey} {w w' : Cluster}
    (ok : Accounted w) (move : Move inv key w w') : Guarantee key w w' := by
  cases move with
  | still => exact guarantee_refl ok
  | observes _ _ pod => exact guarantee_observe ok pod
  | adds task pod _ unnamed located => exact guarantee_addPod unnamed ok located
  | marks _ _ pod found => exact guarantee_markDeleting ok found
  | updates task finalizers _ live => exact guarantee_update ok live
  | starts task now _ started live waiting =>
      exact guarantee_start started.toStarted ok live waiting rfl rfl rfl
  | refreshes task pod now lastUpdate status _ seen live news =>
      exact (guarantee_refresh seen.toSeen ok live news).1
  | retries task pod _ seen live failed more => exact guarantee_retry seen ok live failed more

theorem reconcile_guaranteed (parseQuantity : String → Option ℚ) (key : ObjectKey) (w : Cluster) :
    (reconcile parseQuantity key).Outline (Outcome key) Accounted (Rely key) (Guarantee key)
      (fun _ _ => True) w :=
  (reconcile_outlined (fun _ ok => ok) parseQuantity key w).mono (fun _ ok => ok)
    (fun _ _ ok move => guarantee_of_move ok move) fun _ _ _ => trivial

/-! ## Every interleaving -/

def discipline (parseQuantity : String → Option ℚ) :
    Discipline (system parseQuantity) where
  inv := Accounted
  rely := Rely
  guar := Guarantee
  rely_refl := rely_refl
  rely_trans := rely_trans
  guar_rely key other different w w' _ move := guarantee_rely key other different w w' move
  environment_rely key _ _ _ moves := environment_rely key moves
  guar_inv _ _ _ _ move := move.accounted
  environment_inv _ _ ok moves := environment_accounted ok moves
  outlined key p w allowed _ := by
    cases allowed
    exact reconcile_guaranteed parseQuantity key w

theorem initial_accounted (c : Configuration) (initial : Initial c) : Accounted c.world := by
  refine ⟨?_, ?_, ?_, ?_⟩
  · intro key entry found
    obtain ⟨zero, retries, uid⟩ := initial.fresh key entry found
    rw [initial.noCharges key]
    exact ⟨taskOk_zero zero retries rfl, uid⟩
  · intro key p isPod
    rw [initial.noPods key] at isPod
    cases isPod
  · intro key
    rw [initial.noCharges key]
    exact ⟨by simp, by simp, List.nodup_nil⟩
  · intro key used
    exact absurd (initial.noCharges key) used

theorem run_sound (parseQuantity : String → Option ℚ) {start c : Configuration}
    {history : List (Configuration × Event ObjectKey Call Answer)} (initial : Initial start)
    (run : (system parseQuantity).Run start history c) : (discipline parseQuantity).Sound c :=
  (discipline parseQuantity).run_sound
    ((discipline parseQuantity).sound_of_idle start (initial_accounted start initial)
      initial.idle) run

/-- In every run, and between any two of its states: the retry count of a task
stays within its spec and never falls, it counts charges to different pods of
the task that were seen failed, and a completed task stays completed. -/
theorem retries_accounted (parseQuantity : String → Option ℚ) (start c : Configuration)
    (history : List (Configuration × Event ObjectKey Call Answer))
    (initial : Initial start) (run : (system parseQuantity).Run start history c) :
    (∀ key entry, c.world.tasks.cell key = some entry →
      0 ≤ entry.value.status.retryCount ∧
      entry.value.status.retryCount ≤ entry.value.spec.retries ∧
      ((chargesOf (c.world.charges key) entry.value.uid).length : Int) =
        entry.value.status.retryCount) ∧
    (∀ key, (chargedUids (c.world.charges key)).Nodup ∧
      ∀ charge ∈ c.world.charges key, ∃ pod, charge.pod = some pod ∧
        pod.key = podKey key ∧ pod.status.phase = .failed) ∧
    (∀ later c', (system parseQuantity).Run c later c' →
      ∀ key entry entry', c.world.tasks.cell key = some entry →
        c'.world.tasks.cell key = some entry' → entry'.value.uid = entry.value.uid →
        entry.value.status.retryCount ≤ entry'.value.status.retryCount ∧
        (entry.value.status.phase = .completed → entry'.value.status.phase = .completed)) := by
  have sound := run_sound parseQuantity initial run
  have ok : Accounted c.world := sound.1
  refine ⟨?_, fun key => ⟨(ok.charge key).distinct, ?_⟩, ?_⟩
  · intro key entry found
    obtain ⟨taskOk, _⟩ := ok.task key entry found
    exact ⟨taskOk.nonneg, taskOk.bounded, taskOk.counted⟩
  · intro charge member
    obtain ⟨pod, isPod, failed, located, _⟩ := (ok.charge key).pod charge member
    exact ⟨pod, isPod, located, failed⟩
  · intro later c' laterRun key entry entry' found found' sameUid
    have progress : Progress c.world c'.world :=
      (discipline parseQuantity).run_observed Progress progress_refl progress_trans
        (fun _ _ _ _ move => guarantee_progress move)
        (fun _ _ _ moves => environment_progress moves) sound laterRun
    rcases progress.task key entry' found' with new | ⟨before, foundBefore, progressed⟩
    · -- a task created in between has a uid that was not in use
      have old := (ok.task key entry found).2
      omega
    · cases Option.some.inj (foundBefore.symm.trans found)
      exact ⟨progressed.retryCount, progressed.completed⟩

/-! ### A run in which a pod fails and is charged -/

def flakySpec : CloudTaskSpec :=
  ⟨"busybox", [], [], none, 1, "", "tenant", 0, [], [], .empty, .empty⟩

def flakyKey : ObjectKey := ⟨"default", "flaky"⟩

def oneTask : Cluster where
  tasks := Store.empty.put flakyKey ⟨0, none, [], flakySpec, .zero⟩
  pods := fun _ => none
  nextUid := 1
  clock := 0
  observed := fun _ => none
  charges := fun _ => []
  removed := []

def reconciled (w : Cluster) : Cluster :=
  ((reconcile (fun _ => none) flakyKey).eval (serve flakyKey) w).2

def podFails (w : Cluster) (pod : Pod) : Cluster :=
  { w with
    pods := Function.update w.pods (podKey flakyKey)
      (some { pod with status := { pod.status with phase := .failed } }) }

def firstPod : Pod :=
  let task := toCloudTask flakyKey ⟨1, 0, none, [cloudTaskFinalizerKey], flakySpec, .zero⟩
  { setControllerReference task (constructPod (fun _ => none) task) with uid := 1 }

def retried : Cluster := reconciled (podFails (reconciled oneTask) firstPod)

theorem reconciled_run (w : Cluster) :
    ∃ history, (system fun _ => none).Run ⟨w, fun _ => none⟩ history
      ⟨reconciled w, fun _ => none⟩ :=
  (system fun _ => none).run_eval (serve flakyKey) flakyKey (fun _ _ => .served)
    (reconcile (fun _ => none) flakyKey) rfl ⟨w, fun _ => none⟩ rfl

theorem firstPod_created : (reconciled oneTask).pods (podKey flakyKey) = some firstPod := rfl

theorem retried_run : ∃ history, (system fun _ => none).Run ⟨oneTask, fun _ => none⟩ history
    ⟨retried, fun _ => none⟩ := by
  have moved : Environment (reconciled oneTask) (podFails (reconciled oneTask) firstPod) :=
    .podMoves (podKey flakyKey) firstPod _ firstPod_created
      (Or.inr ⟨rfl, by decide⟩)
  obtain ⟨first, toFirst⟩ := reconciled_run oneTask
  obtain ⟨second, toSecond⟩ := reconciled_run (podFails (reconciled oneTask) firstPod)
  exact ⟨_, (toFirst.snoc (.environment _ _ moved)).trans toSecond⟩

theorem oneTask_initial : Initial ⟨oneTask, fun _ => none⟩ := by
  refine ⟨?_, fun _ => rfl, fun _ => rfl, fun _ => rfl⟩
  intro key entry found
  rcases cell_of_put found with ⟨rfl, rfl⟩ | ⟨_, before⟩
  · exact ⟨rfl, by decide, by decide⟩
  · cases before

theorem first_failure_charged :
    Initial ⟨oneTask, fun _ => none⟩ ∧
    (∃ entry, retried.tasks.cell flakyKey = some entry ∧
      entry.value.status.retryCount = 1 ∧
      entry.value.status.retryCount ≤ entry.value.spec.retries) ∧
    (chargedUids (retried.charges flakyKey) = [some 1] ∧
      (chargedUids (retried.charges flakyKey)).Nodup) := by
  obtain ⟨history, run⟩ := retried_run
  have safe := retries_accounted (fun _ => none) _ _ history oneTask_initial run
  obtain ⟨entry, found, count⟩ : ∃ entry, retried.tasks.cell flakyKey = some entry ∧
      entry.value.status.retryCount = 1 := ⟨_, rfl, rfl⟩
  exact ⟨oneTask_initial, ⟨entry, found, count, (safe.1 flakyKey entry found).2.1⟩, rfl,
    (safe.2.1 flakyKey).1⟩

end CloudOS.Orchestrator.RetryAccounting
