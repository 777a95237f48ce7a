import CloudOS.Orchestrator.RetryAccounting

/-!
# The lifecycle of a CloudTask

Whatever call fails, wherever a reconcile crashes and however reconciles, pods and users
interleave, the status of a CloudTask changes in three ways only: a waiting task starts, a
running task ends as its pod did, and a failed one goes back to waiting while it has retries
left.  A started task has a start time and an ended one an end that is not earlier.

A retry leaves the times as they are, so a task that runs again still shows the end of the
attempt before.
-/

set_option autoImplicit false

namespace CloudOS.Orchestrator.TaskLifecycle

open CloudOS.Kubernetes.Objects
open CloudOS.Lib.CallProgram
open CloudOS.Lib.VersionedStore
open CloudOS.Orchestrator.CloudTaskCluster
open CloudOS.Orchestrator.CloudTaskReconcile
open CloudOS.Orchestrator.RetryAccounting
open CloudOS.Orchestrator.RetryInvariant

/-- How a status may change, at a time, with a number of retries and after the pod that was
looked up last. -/
inductive Transition (clock : Nat) (retries : Int) (observed : Option Pod)
    (before after : CloudTaskStatus) : Prop
  | started (now : Nat) (waiting : before.phase = .unset ∨ before.phase = .pending)
      (phase : after.phase = .running) (retryCount : after.retryCount = before.retryCount)
      (startTime : after.startTime = some now) (reached : now ≤ clock)
  | ended (now : Nat) (pod : Pod) (seen : observed = some pod) (running : before.phase = .running)
      (phase : (after.phase = .completed ∧ pod.status.phase = .succeeded) ∨
        (after.phase = .failed ∧ pod.status.phase = .failed))
      (podName : after.podName = before.podName) (retryCount : after.retryCount = before.retryCount)
      (startTime : after.startTime = before.startTime)
      (completionTime : after.completionTime = some now)
      (ordered : ∀ time, before.startTime = some time → time ≤ now) (reached : now ≤ clock)
  | retried (failed : before.phase = .failed) (phase : after.phase = .pending)
      (podName : after.podName = "") (retryCount : after.retryCount = before.retryCount + 1)
      (allowed : after.retryCount ≤ retries)

structure WellTimed (clock : Nat) (status : CloudTaskStatus) : Prop where
  running : status.phase = .running → ∃ started, status.startTime = some started ∧ started ≤ clock
  ended : status.phase = .completed ∨ status.phase = .failed →
    ∃ started finished, status.startTime = some started ∧ status.completionTime = some finished ∧
      started ≤ finished ∧ finished ≤ clock

theorem WellTimed.later {clock clock' : Nat} {status : CloudTaskStatus}
    (timed : WellTimed clock status) (passed : clock ≤ clock') : WellTimed clock' status := by
  constructor
  · intro running
    obtain ⟨started, isStart, reached⟩ := timed.running running
    exact ⟨started, isStart, reached.trans passed⟩
  · intro ended
    obtain ⟨started, finished, isStart, isEnd, ordered, reached⟩ := timed.ended ended
    exact ⟨started, finished, isStart, isEnd, ordered, reached.trans passed⟩

theorem wellTimed_of_waiting {clock : Nat} {status : CloudTaskStatus}
    (waiting : status.phase = .unset ∨ status.phase = .pending) : WellTimed clock status := by
  constructor
  · intro running
    rcases waiting with phase | phase <;> simp [phase] at running
  · intro ended
    rcases waiting with phase | phase <;> simp [phase] at ended

theorem Transition.wellTimed {clock : Nat} {retries : Int} {observed : Option Pod}
    {before after : CloudTaskStatus} (moves : Transition clock retries observed before after)
    (timed : WellTimed clock before) : WellTimed clock after := by
  cases moves with
  | started now waiting phase retryCount startTime reached =>
      refine ⟨fun _ => ⟨now, startTime, reached⟩, ?_⟩
      intro ended
      simp [phase] at ended
  | ended now pod seen running phase podName retryCount startTime completionTime ordered reached =>
      obtain ⟨started, isStart, _⟩ := timed.running running
      refine ⟨?_, fun _ => ⟨started, now, startTime.trans isStart, completionTime,
        ordered started isStart, reached⟩⟩
      intro again
      rcases phase with ⟨completed, _⟩ | ⟨failed, _⟩
      · simp [completed] at again
      · simp [failed] at again
  | retried failed phase podName retryCount allowed => exact wellTimed_of_waiting (.inr phase)

/-! ## What every step keeps -/

structure Inv (w : Cluster) : Prop where
  accounted : Accounted w
  timed : ∀ key entry, w.tasks.cell key = some entry → WellTimed w.clock entry.value.status

def Follows (key : ObjectKey) (w w' : Cluster) : Prop :=
  ∀ entry', w'.tasks.cell key = some entry' → ∃ entry, w.tasks.cell key = some entry ∧
    (entry'.value.status = entry.value.status ∨
      Transition w.clock entry.value.spec.retries (w.observed key) entry.value.status
        entry'.value.status)

structure TimedGuarantee (key : ObjectKey) (w w' : Cluster) : Prop where
  guarantee : Guarantee key w w'
  follows : Follows key w w'

theorem follows_of_tasks {key : ObjectKey} {w w' : Cluster} (tasks : w'.tasks = w.tasks) :
    Follows key w w' := by
  intro entry' found'
  rw [tasks] at found'
  exact ⟨entry', found', .inl rfl⟩

theorem inv_guarantee {key : ObjectKey} {w w' : Cluster} (inv : Inv w)
    (move : TimedGuarantee key w w') : Inv w' := by
  refine ⟨move.guarantee.accounted, ?_⟩
  intro other entry' found'
  rw [move.guarantee.clock]
  by_cases same : other = key
  · subst same
    obtain ⟨entry, found, unchanged | moves⟩ := move.follows entry' found'
    · rw [unchanged]
      exact inv.timed other entry found
    · exact moves.wellTimed (inv.timed other entry found)
  · rw [move.guarantee.task other same] at found'
    exact inv.timed other entry' found'

/-! ## Users, pods and time -/

/-- Nothing but a reconcile changes the status of a task that stays the same object. -/
def KeepsStatus (w w' : Cluster) : Prop :=
  ∀ key entry', w'.tasks.cell key = some entry' →
    (w.tasks.cell key = none ∧ entry'.value.status = .zero) ∨
      ∃ entry, w.tasks.cell key = some entry ∧ entry'.value.status = entry.value.status

theorem keepsStatus_of_tasks {w w' : Cluster} (tasks : w'.tasks = w.tasks) :
    KeepsStatus w w' := by
  intro key entry' found'
  rw [tasks] at found'
  exact .inr ⟨entry', found', rfl⟩

theorem keepsStatus_storeTask {w : Cluster} {key : ObjectKey} {entry : Versioned TaskRecord}
    {record : TaskRecord} (found : w.tasks.cell key = some entry)
    (same : record.status = entry.value.status) : KeepsStatus w (storeTask w key record) := by
  intro other entry' found'
  rcases cell_of_put found' with ⟨rfl, rfl⟩ | ⟨_, before⟩
  · exact .inr ⟨entry, found, same⟩
  · exact .inr ⟨entry', before, rfl⟩

theorem keepsStatus_erase (w : Cluster) (key : ObjectKey) :
    KeepsStatus w { w with tasks := w.tasks.erase key } :=
  fun _ entry' found' => .inr ⟨entry', (cell_of_erase found').2, rfl⟩

theorem environment_keepsStatus {w w' : Cluster} (moves : Environment w w') :
    KeepsStatus w w' := by
  cases moves with
  | createTask key spec finalizers absent retries =>
      intro other entry' found'
      rcases cell_of_put found' with ⟨rfl, rfl⟩ | ⟨_, before⟩
      · exact .inl ⟨absent, rfl⟩
      · exact .inr ⟨entry', before, rfl⟩
  | editSpec key entry spec found sameRetries => exact keepsStatus_storeTask found rfl
  | requestDeletion key entry found =>
      rcases storeMetadata_cases w key _ with erased | stored
      · rw [erased]
        exact keepsStatus_erase w key
      · rw [stored]
        exact keepsStatus_storeTask found rfl
  | podMoves key pod status found forward => exact keepsStatus_of_tasks rfl
  | podRemoved key => exact keepsStatus_of_tasks rfl
  | tick later => exact keepsStatus_of_tasks rfl

theorem inv_environment {w w' : Cluster} (inv : Inv w) (moves : Environment w w') : Inv w' := by
  refine ⟨environment_accounted inv.accounted moves, ?_⟩
  intro key entry' found'
  rcases environment_keepsStatus moves key entry' found' with ⟨_, zero⟩ | ⟨entry, found, same⟩
  · rw [zero]
    exact wellTimed_of_waiting (.inl rfl)
  · rw [same]
    exact (inv.timed key entry found).later (environment_rely key moves).passed

/-! ## The calls of a reconcile -/

theorem follows_updates {task : CloudTask} {w : Cluster} (live : Live task w)
    (finalizers : List String) :
    Follows task.key w (storeMetadata w task.key
      (updatedRecord (toRecord task) { task with finalizers := finalizers })) := by
  intro entry' found'
  rcases storeMetadata_cases w task.key
    (updatedRecord (toRecord task) { task with finalizers := finalizers }) with erased | stored
  · rw [erased] at found'
    exact absurd rfl (cell_of_erase found').1
  · rw [stored] at found'
    obtain ⟨_, rfl⟩ := (cell_of_put found').resolve_right fun other => other.1 rfl
    exact ⟨_, live, .inl rfl⟩

theorem follows_storeStatus {task : CloudTask} {w : Cluster} {status : CloudTaskStatus}
    (live : Live task w)
    (moves : Transition w.clock task.spec.retries (w.observed task.key) task.status status) :
    Follows task.key w (storeStatus w task.key (toRecord task) status) := by
  intro entry' found'
  rw [storeStatus_tasks] at found'
  obtain ⟨_, rfl⟩ := (cell_of_put found').resolve_right fun other => other.1 rfl
  exact ⟨_, live, .inr moves⟩

theorem started_before {task : CloudTask} {pod : Pod} {now : Nat} {w : Cluster}
    (seen : SeenAt Inv task pod now w) (live : Live task w) :
    ∀ time, task.status.startTime = some time → time ≤ now := by
  intro time isStart
  obtain ⟨a, inv, rfl, before⟩ := seen.read live
  have timed := inv.timed task.key _ before
  rcases (named_shape seen.shape seen.named).2 with running | ended
  · obtain ⟨started, same, reached⟩ := timed.running running
    cases Option.some.inj (same.symm.trans isStart)
    exact reached
  · obtain ⟨started, finished, same, _, ordered, reached⟩ := timed.ended ended
    cases Option.some.inj (same.symm.trans isStart)
    exact ordered.trans reached

theorem observedStatus_times {status status' : CloudTaskStatus} {pod : PodStatus} {now : Nat}
    (running : status.phase = .running) (news : observedStatus status pod now = some status') :
    status'.startTime = status.startTime ∧ status'.completionTime = some now := by
  unfold observedStatus at news
  cases phase : pod.phase with
  | pending => simp [phase, running] at news
  | running => simp [phase, running] at news
  | unknown => simp [phase] at news
  | succeeded =>
      simp only [phase, running, ne_eq, reduceCtorEq, not_false_eq_true, if_true,
        Option.some.injEq] at news
      subst news
      exact ⟨rfl, rfl⟩
  | failed =>
      simp only [phase, running, ne_eq, reduceCtorEq, not_false_eq_true, if_true,
        Option.some.injEq] at news
      subst news
      exact ⟨rfl, rfl⟩

theorem follows_refresh {task : CloudTask} {pod : Pod} {w : Cluster} {now lastUpdate : Nat}
    {status : CloudTaskStatus} (seen : SeenAt Inv task pod now w) (live : Live task w)
    (news : observedStatus task.status pod.status now = some status) :
    Follows task.key w (storeStatus w task.key (toRecord task)
      { status with lastUpdateTime := some lastUpdate }) := by
  obtain ⟨running, sameName, sameCount, ended⟩ := observedStatus_agreeing
    (seen.agrees live) (named_shape seen.shape seen.named).2 news
  obtain ⟨sameStart, isEnd⟩ := observedStatus_times running news
  exact follows_storeStatus live (.ended now pod seen.observed running ended sameName sameCount
    sameStart isEnd (started_before seen live) seen.reached)

theorem follows_of_move {key : ObjectKey} {w w' : Cluster} (move : Move Inv key w w') :
    Follows key w w' := by
  cases move with
  | still => exact follows_of_tasks rfl
  | observes _ _ pod => exact follows_of_tasks rfl
  | adds task pod _ unnamed located => exact follows_of_tasks rfl
  | marks _ _ pod found => exact follows_of_tasks rfl
  | updates task finalizers _ live => exact follows_updates live finalizers
  | starts task now _ started live waiting =>
      exact follows_storeStatus live (.started now waiting rfl rfl rfl started.reached)
  | refreshes task pod now lastUpdate status _ seen live news =>
      exact follows_refresh seen live news
  | retries task pod _ seen live failed more =>
      exact follows_storeStatus live (.retried failed rfl rfl rfl more)

/-! ## Every interleaving -/

def timedDiscipline (parseQuantity : String → Option ℚ) : Discipline (system parseQuantity) where
  inv := Inv
  rely := Rely
  guar := TimedGuarantee
  rely_refl := rely_refl
  rely_trans := rely_trans
  guar_rely key other different w w' _ move :=
    guarantee_rely key other different w w' move.guarantee
  environment_rely key _ _ _ moves := environment_rely key moves
  guar_inv _ _ _ inv move := inv_guarantee inv move
  environment_inv _ _ inv moves := inv_environment inv moves
  outlined key p w allowed _ := by
    cases allowed
    exact (reconcile_outlined (fun _ inv => inv.accounted) parseQuantity key w).mono
      (fun _ inv => inv)
      (fun _ _ inv move => ⟨guarantee_of_move inv.accounted move, follows_of_move move⟩)
      fun _ _ _ => trivial

theorem initial_inv {c : Configuration} (initial : Initial c) : Inv c.world := by
  refine ⟨initial_accounted c initial, ?_⟩
  intro key entry found
  rw [(initial.fresh key entry found).1]
  exact wellTimed_of_waiting (.inl rfl)

/-- In every state of every run the times fit the phase, and what a step changes of a status
is a start, an end or a retry. -/
theorem lifecycle_followed (parseQuantity : String → Option ℚ) (start c c' : Configuration)
    (history : List (Configuration × Event ObjectKey Call Answer))
    (event : Event ObjectKey Call Answer) (initial : Initial start)
    (run : (system parseQuantity).Run start history c)
    (step : (system parseQuantity).Step c event c') :
    (∀ key entry, c.world.tasks.cell key = some entry →
      WellTimed c.world.clock entry.value.status) ∧
    ∀ key entry entry', c.world.tasks.cell key = some entry →
      c'.world.tasks.cell key = some entry' →
        entry'.value.status = entry.value.status ∨
        Transition c.world.clock entry.value.spec.retries (c.world.observed key)
          entry.value.status entry'.value.status := by
  have sound : (timedDiscipline parseQuantity).Sound c :=
    (timedDiscipline parseQuantity).run_sound ((timedDiscipline parseQuantity).sound_of_idle start
      (initial_inv initial) initial.idle) run
  refine ⟨sound.1.timed, ?_⟩
  intro key entry entry' found found'
  rcases (timedDiscipline parseQuantity).step_world sound step with same | ⟨tid, move⟩ | moves
  · rw [same] at found'
    cases Option.some.inj (found'.symm.trans found)
    exact .inl rfl
  · by_cases own : key = tid
    · subst own
      obtain ⟨before, isBefore, moved⟩ := move.follows entry' found'
      cases Option.some.inj (isBefore.symm.trans found)
      exact moved
    · rw [move.guarantee.task key own] at found'
      cases Option.some.inj (found'.symm.trans found)
      exact .inl rfl
  · rcases environment_keepsStatus moves key entry' found' with
      ⟨absent, _⟩ | ⟨before, isBefore, same⟩
    · rw [found] at absent
      cases absent
    · cases Option.some.inj (isBefore.symm.trans found)
      exact .inl same

/-- The second reconcile has recorded the failure and writes the retry. -/
theorem retried_task_lifecycle :
    ∃ history c event c' entry entry',
      (system fun _ => none).Run ⟨oneTask, fun _ => none⟩ history c ∧
      Initial ⟨oneTask, fun _ => none⟩ ∧
      (system fun _ => none).Step c event c' ∧
      c.world.tasks.cell flakyKey = some entry ∧ entry.value.status.phase = .failed ∧
      c'.world.tasks.cell flakyKey = some entry' ∧ entry'.value.status.phase = .pending ∧
      WellTimed c.world.clock entry.value.status ∧
      Transition c.world.clock entry.value.spec.retries (c.world.observed flakyKey)
        entry.value.status entry'.value.status := by
  obtain ⟨history, run⟩ := reconciled_run oneTask
  have toFailed := run.snoc (.environment _ (podFails (reconciled oneTask) firstPod)
    (.podMoves (podKey flakyKey) firstPod _ firstPod_created (Or.inr ⟨rfl, by decide⟩)))
  have toStart := toFailed.snoc (.start _ flakyKey _ rfl rfl)
  have toRead := toStart.snoc (.call _ flakyKey (.getCloudTask flakyKey) _ _ _ rfl .served)
  have toFound := toRead.snoc (.call _ flakyKey (.getPod (podKey flakyKey)) _ _ _ rfl .served)
  have toNow := toFound.snoc (.call _ flakyKey .now _ _ _ rfl .served)
  have toLater := toNow.snoc (.call _ flakyKey .now _ _ _ rfl .served)
  have toEnded := toLater.snoc (.call _ flakyKey (.updateStatus _) _ _ _ rfl .served)
  refine ⟨_, _, _, _, _, _, toEnded, oneTask_initial,
    .call _ flakyKey (.updateStatus _) _ _ _ rfl .served, rfl, rfl, rfl, rfl, ?_⟩
  have followed := lifecycle_followed (fun _ => none) _ _ _ _ _ oneTask_initial toEnded
    (.call _ flakyKey (.updateStatus _) _ _ _ rfl .served)
  refine ⟨followed.1 flakyKey _ rfl, (followed.2 flakyKey _ _ rfl rfl).resolve_left ?_⟩
  intro same
  cases congrArg CloudTaskStatus.phase same

end CloudOS.Orchestrator.TaskLifecycle
