import CloudOS.Gateway.StoredTasks

/-!
# Completed and rejected tasks

`next_task` does not look at the status of what it takes out of the queues, and
neither cancelling nor completing a task takes it out of them.  A task that is
ended while it waits in a queue is therefore run by a later pass.  As long as
that does not happen, the queues hold no ended task, and an ended task stays as
it is and holds no resources.
-/

set_option autoImplicit false

namespace CloudOS.Gateway.FinalStatus

open CloudOS.Gateway.StoredTasks
open CloudOS.Gateway.TaskService
open CloudOS.Lib.History
open CloudOS.Lib.References

def Ended (task : Task) : Prop := task.status = .completed ∨ task.status = .rejected

def HoldsResources (s : Globals) (ref : TaskRef) : Prop := ref ∈ s.reservations.map Prod.fst

instance (s : Globals) (ref : TaskRef) : Decidable (HoldsResources s ref) :=
  inferInstanceAs (Decidable (_ ∈ _))

def NotQueued (s : Globals) (taskId : String) : Prop :=
  ∀ ref ∈ s.taskStore.ref? taskId, ref ∉ s.queue.map QueueEntry.ref

instance (s : Globals) (taskId : String) : Decidable (NotQueued s taskId) :=
  inferInstanceAs (Decidable (∀ ref ∈ s.taskStore.ref? taskId, _))

/-- No task is cancelled or completed while it waits in a queue. -/
def SparesQueued : Globals × Request → Prop
  | (_, .submitTask _ _) => True
  | (s, .cancelTask taskId) => NotQueued s taskId
  | (s, .completeTask taskId _) => NotQueued s taskId

instance : DecidablePred SparesQueued
  | (_, .submitTask _ _) => inferInstanceAs (Decidable True)
  | (s, .cancelTask taskId) => inferInstanceAs (Decidable (NotQueued s taskId))
  | (s, .completeTask taskId _) => inferInstanceAs (Decidable (NotQueued s taskId))

/-- No task that is given as completed is called ready. -/
def ExcludesCompleted (detector : Detector) : Prop :=
  ∀ calls allIds completedIds,
    ∀ taskId ∈ detector.getReadyTasks calls allIds completedIds, taskId ∉ completedIds

/-- Queued tasks have not ended, and those that hold resources are running. -/
structure Healthy (s : Globals) : Prop where
  queued : ∀ entry ∈ s.queue, ∃ task, s.taskStore.get? entry.ref = some task ∧ ¬ Ended task
  holding : ∀ held ∈ s.reservations,
    ∃ task, s.taskStore.get? held.1 = some task ∧ task.status = .running

def KeepsEnded (s s' : Globals) : Prop :=
  ∀ ref task, s.taskStore.get? ref = some task → Ended task → s'.taskStore.get? ref = some task

/-- A task that the request completes is completed, and holds nothing, when the
pass at the end of the request is over. -/
def CompletesForGood (detector : Detector) (entry : Globals × Request) : Prop :=
  ∀ taskId env ref task, entry.2 = .completeTask taskId env →
    entry.1.taskStore.find? taskId = some (ref, task) →
    (task.status = .pending ∨ task.status = .running) →
    (step detector entry.1 entry.2).taskStore.get? ref = some { task with status := .completed } ∧
      ¬ HoldsResources (step detector entry.1 entry.2) ref

/-- What each part of a request does to a healthy state. -/
structure Sound (s s' : Globals) : Prop where
  healthy : Healthy s'
  keeps : KeepsEnded s s'

section Relations
variable {s s' s'' : Globals}

theorem Sound.refl (healthy : Healthy s) : Sound s s := ⟨healthy, fun _ _ found _ => found⟩

theorem Sound.trans (first : Sound s s') (second : Sound s' s'') : Sound s s'' :=
  ⟨second.healthy, fun ref task found ended =>
    second.keeps ref task (first.keeps ref task found ended) ended⟩

theorem Sound.of_taskStore (healthy : Healthy s') (same : s'.taskStore = s.taskStore) :
    Sound s s' := by
  refine ⟨healthy, ?_⟩
  intro ref task found _
  rw [same]
  exact found

end Relations

/-! ## Changing one task -/

section Modify
variable {s : Globals} {ref : TaskRef} {task : Task} {f : Task → Task}

theorem get?_modify_self (found : s.taskStore.get? ref = some task) (f : Task → Task) :
    (s.taskStore.modify ref f).get? ref = some (f task) := by
  rw [RefStore.get?_modify, if_pos rfl, found, Option.map_some]

theorem get?_modify_other {other : TaskRef} (apart : other ≠ ref) (f : Task → Task) :
    (s.taskStore.modify ref f).get? other = s.taskStore.get? other := by
  rw [RefStore.get?_modify, if_neg apart]

theorem keepsEnded_modify (found : s.taskStore.get? ref = some task)
    (harmless : Ended task → f task = task) {s' : Globals}
    (changed : s'.taskStore = s.taskStore.modify ref f) : KeepsEnded s s' := by
  intro other kept there ended
  rw [changed]
  by_cases same : other = ref
  · subst same
    obtain rfl := Option.some.inj (found.symm.trans there)
    rw [get?_modify_self found, harmless ended]
  · rw [get?_modify_other same]
    exact there

theorem queued_modify (healthy : Healthy s) (found : s.taskStore.get? ref = some task)
    (allowed : ref ∉ s.queue.map QueueEntry.ref ∨ ¬ Ended (f task)) :
    ∀ entry ∈ s.queue,
      ∃ task, (s.taskStore.modify ref f).get? entry.ref = some task ∧ ¬ Ended task := by
  intro entry queued
  by_cases same : entry.ref = ref
  · rcases allowed with notQueued | notEnded
    · exact absurd (same ▸ List.mem_map_of_mem queued) notQueued
    · rw [same]
      exact ⟨f task, get?_modify_self found f, notEnded⟩
  · rw [get?_modify_other same]
    exact healthy.queued entry queued

theorem holding_modify_other (healthy : Healthy s) {held : TaskRef × String}
    (reserved : held ∈ s.reservations) (apart : held.1 ≠ ref) (f : Task → Task) :
    ∃ task, (s.taskStore.modify ref f).get? held.1 = some task ∧ task.status = .running := by
  rw [get?_modify_other apart]
  exact healthy.holding held reserved

end Modify

/-! ## The scheduling pass -/

section Pass
variable {detector : Detector} {env : PassEnv} {s s' : Globals}

theorem nextTask_sound {pick : Nat} {ref : TaskRef} (healthy : Healthy s)
    (taken : s.nextTask pick = some (ref, s')) :
    Sound s s' ∧ ∃ task, s'.taskStore.get? ref = some task ∧ ¬ Ended task := by
  obtain ⟨entry, queued, rfl, rfl, _⟩ := nextTask_some taken
  have shorter : Healthy
      { s with queue := s.queue.eraseIdx (pick % s.queue.length) } := by
    refine ⟨?_, healthy.holding⟩
    intro other remaining
    exact healthy.queued other (List.mem_of_mem_eraseIdx remaining)
  exact ⟨.of_taskStore shorter rfl, healthy.queued entry queued⟩

theorem allocate_sound {ref : TaskRef} {task : Task} (healthy : Healthy s)
    (found : s.taskStore.get? ref = some task) (notEnded : ¬ Ended task) (worker : String) :
    Sound s (s.allocate ref worker) := by
  refine ⟨⟨?_, ?_⟩, keepsEnded_modify found (fun ended => absurd ended notEnded) rfl⟩
  · exact queued_modify healthy found (Or.inr (by simp [Ended]))
  · intro held reserved
    by_cases own : held.1 = ref
    · rw [own]
      exact ⟨_, get?_modify_self found _, rfl⟩
    · rcases List.mem_append.mp reserved with old | new
      · exact holding_modify_other healthy old own _
      · exact absurd (congrArg Prod.fst (List.mem_singleton.mp new)) own

theorem requeue_sound {ref : TaskRef} {task : Task} (healthy : Healthy s)
    (found : s.taskStore.get? ref = some task) (notEnded : ¬ Ended task) :
    Sound s (s.requeue ref) := by
  have longer : Healthy (s.requeue ref) := by
    refine ⟨?_, healthy.holding⟩
    intro entry queued
    rcases List.mem_append.mp queued with old | new
    · exact healthy.queued entry old
    · obtain rfl := List.mem_singleton.mp new
      exact ⟨task, found, notEnded⟩
  exact .of_taskStore longer rfl

theorem dispatch_sound (healthy : Healthy s) (fuel round : Nat) :
    Sound s (dispatch env fuel round s) := by
  induction fuel generalizing s round with
  | zero => exact .refl healthy
  | succ fuel ih =>
      unfold dispatch
      split
      · exact .refl healthy
      · rename_i ref rest taken
        obtain ⟨first, task, found, notEnded⟩ := nextTask_sound healthy taken
        split
        · rename_i worker _
          have allocated := allocate_sound first.healthy found notEnded worker
          exact (first.trans allocated).trans (ih allocated.healthy (round + 1))
        · exact first.trans (requeue_sound first.healthy found notEnded)

theorem mem_completedIds {taskId : String} {ref : TaskRef} {task : Task}
    (found : s.taskStore.find? taskId = some (ref, task)) (done : task.status = .completed) :
    taskId ∈ s.completedIds := by
  obtain ⟨named, there⟩ := RefStore.find?_eq_some_iff.mp found
  apply List.mem_map.mpr
  refine ⟨(taskId, ref), List.mem_filter.mpr ⟨RefStore.mem_entries_of_ref? named, ?_⟩, rfl⟩
  simp [Globals.statusIs, RefStore.satisfies_of_get? there, done]

theorem promote_sound (healthy : Healthy s) {ready : List String}
    (notCompleted : ∀ taskId ∈ ready, taskId ∉ s.completedIds) :
    Sound s (promote env ready s).2 := by
  obtain ⟨store, reservations, _⟩ := @promote_frame env ready s
  refine .of_taskStore ⟨?_, ?_⟩ store
  · intro entry queued
    rw [store]
    rcases mem_promote_queue queued with old | ⟨rid, isReady, task, found, notRejected⟩
    · exact healthy.queued entry old
    · refine ⟨task, (RefStore.find?_eq_some_iff.mp found).2, ?_⟩
      rintro (done | rejected)
      · exact notCompleted rid isReady (mem_completedIds found done)
      · exact notRejected rejected
  · rw [store, reservations]
    exact healthy.holding

theorem triggerScheduling_sound (excludes : ExcludesCompleted detector) (healthy : Healthy s) :
    Sound s (triggerScheduling detector env s).2 := by
  have promoted := @promote_sound env s healthy
    (detector.getReadyTasks s.detectorCalls s.allIds s.completedIds) (excludes _ _ _)
  unfold triggerScheduling
  split
  · rename_i outcome
    rw [outcome] at promoted
    exact promoted
  · rename_i outcome
    rw [outcome] at promoted
    exact promoted.trans (dispatch_sound promoted.healthy _ 0)

end Pass

/-! ## The requests -/

section Requests
variable {detector : Detector} {s : Globals}

theorem put_sound (healthy : Healthy s) {s' : Globals} (taskId : String) (task : Task)
    (stored : s'.taskStore = s.taskStore.put taskId task) (queue : s'.queue = s.queue)
    (reservations : s'.reservations = s.reservations) : Sound s s' := by
  have kept : ∀ ref old, s.taskStore.get? ref = some old → s'.taskStore.get? ref = some old := by
    intro ref old found
    have below : ref < s.taskStore.heap.length := (List.getElem?_eq_some_iff.mp found).1
    rw [stored, RefStore.get?_put, if_neg (Nat.ne_of_lt below)]
    exact found
  refine ⟨⟨?_, ?_⟩, fun ref old found _ => kept ref old found⟩
  · rw [queue]
    intro entry queued
    obtain ⟨old, found, notEnded⟩ := healthy.queued entry queued
    exact ⟨old, kept entry.ref old found, notEnded⟩
  · rw [reservations]
    intro held reserved
    obtain ⟨old, found, running⟩ := healthy.holding held reserved
    exact ⟨old, kept held.1 old found, running⟩

theorem submitTask_sound (excludes : ExcludesCompleted detector) (healthy : Healthy s)
    (body : TaskRequest) (env : SubmitEnv) : Sound s (submitTask detector body env s).2 := by
  have outcome := submitTask_submitted detector s body env
  generalize submitTask detector body env s = result at outcome
  cases outcome with
  | refused => exact .refl healthy
  | deadlocked => exact .refl healthy
  | overQuota detail task _ => exact put_sound healthy _ _ rfl rfl rfl
  | registered response task _ _ _ _ =>
      have stored : Sound s (putRegistered s body env task) :=
        put_sound healthy (taskIdOf body env) task rfl rfl rfl
      exact stored.trans (triggerScheduling_sound excludes stored.healthy)

theorem cancelTask_sound (healthy : Healthy s) {taskId : String} (spared : NotQueued s taskId) :
    Sound s (cancelTask taskId s).2 := by
  have outcome := cancelTask_cancelled taskId s
  generalize cancelTask taskId s = result at outcome
  cases outcome with
  | refused => exact .refl healthy
  | cancelled message ref task found notEnded =>
      obtain ⟨named, there⟩ := RefStore.find?_eq_some_iff.mp found
      have notQueued := spared ref named
      -- a rejected task is cancelled again without a change
      have harmless : Ended task → { task with status := .rejected } = task := by
        rintro (done | rejected)
        · rcases notEnded with pending | rejected
          · cases pending.symm.trans done
          · cases rejected.symm.trans done
        · rw [← rejected]
      refine ⟨⟨queued_modify healthy there (Or.inl notQueued), ?_⟩,
        keepsEnded_modify there harmless rfl⟩
      intro held reserved
      have apart : held.1 ≠ ref := by
        rintro rfl
        obtain ⟨holder, same, running⟩ := healthy.holding held reserved
        obtain rfl := Option.some.inj (same.symm.trans there)
        rcases notEnded with pending | rejected
        · cases pending.symm.trans running
        · cases rejected.symm.trans running
      exact holding_modify_other healthy reserved apart _

theorem finished_sound (healthy : Healthy s) {taskId : String} {ref : TaskRef} {task : Task}
    (found : s.taskStore.find? taskId = some (ref, task)) (spared : NotQueued s taskId)
    (active : task.status = .pending ∨ task.status = .running) :
    Sound s (finished taskId s ref) := by
  obtain ⟨named, there⟩ := RefStore.find?_eq_some_iff.mp found
  have notEnded : ¬ Ended task := by
    rcases active with pending | running
    · simp [Ended, pending]
    · simp [Ended, running]
  refine ⟨⟨queued_modify healthy there (Or.inl (spared ref named)), ?_⟩,
    keepsEnded_modify there (fun ended => absurd ended notEnded) rfl⟩
  intro held reserved
  obtain ⟨old, apart⟩ := List.mem_filter.mp reserved
  exact holding_modify_other healthy old (by simpa using apart) _

theorem completeTask_sound (excludes : ExcludesCompleted detector) (healthy : Healthy s)
    {taskId : String} (spared : NotQueued s taskId) (env : PassEnv) :
    Sound s (completeTask detector taskId env s).2 := by
  have outcome := completeTask_completed detector taskId s env
  generalize completeTask detector taskId env s = result at outcome
  cases outcome with
  | unchanged => exact .refl healthy
  | completed response ref task _ found active =>
      have done := finished_sound healthy found spared active
      exact done.trans (triggerScheduling_sound excludes done.healthy)

theorem Healthy.not_holdsResources {s : Globals} (healthy : Healthy s) {ref : TaskRef} {task : Task}
    (found : s.taskStore.get? ref = some task) (ended : Ended task) : ¬ HoldsResources s ref := by
  intro holds
  obtain ⟨held, reserved, rfl⟩ := List.mem_map.mp holds
  obtain ⟨holder, same, running⟩ := healthy.holding held reserved
  obtain rfl := Option.some.inj (same.symm.trans found)
  rcases ended with done | rejected
  · cases running.symm.trans done
  · cases running.symm.trans rejected

theorem completesForGood (excludes : ExcludesCompleted detector) (healthy : Healthy s)
    {request : Request} (spares : SparesQueued (s, request)) :
    CompletesForGood detector (s, request) := by
  rintro taskId env ref task rfl found active
  have outcome := completeTask_completed detector taskId s env
  simp only [step, serve]
  generalize completeTask detector taskId env s = result at outcome ⊢
  cases outcome with
  | unchanged response _ inactive =>
      obtain ⟨notPending, notRunning⟩ := inactive ref task found
      exact absurd active (not_or.mpr ⟨notPending, notRunning⟩)
  | completed response ref' task' _ found' _ =>
      cases Option.some.inj (found'.symm.trans found)
      have done := finished_sound healthy found spares active
      have pass := @triggerScheduling_sound detector env _ excludes done.healthy
      have kept := pass.keeps ref { task with status := .completed }
        (get?_modify_self (RefStore.find?_eq_some_iff.mp found).2 _) (.inl rfl)
      exact ⟨kept, pass.healthy.not_holdsResources kept (.inl rfl)⟩

theorem step_sound (excludes : ExcludesCompleted detector) (healthy : Healthy s)
    {request : Request} (spares : SparesQueued (s, request)) :
    Sound s (step detector s request) := by
  cases request with
  | submitTask body env => exact submitTask_sound excludes healthy body env
  | cancelTask taskId => exact cancelTask_sound healthy spares
  | completeTask taskId env => exact completeTask_sound excludes healthy spares env

end Requests

/-! ## Runs -/

section Runs
variable {detector : Detector}

theorem initial_healthy : Healthy .initial := ⟨by simp [Globals.initial], by simp [Globals.initial]⟩

/-- In every run in which no queued task is cancelled or completed, a task that
was completed or rejected at some time is unchanged at the end, and holds no
resources; and a task that a request completes is completed at the end of that
request. -/
theorem ended_tasks_stay_ended (detector : Detector) (excludes : ExcludesCompleted detector)
    (requests : List Request)
    (spares : ∀ entry ∈ history (step detector) .initial requests, SparesQueued entry) :
    (∀ earlier, earlier <+: requests → ∀ ref task,
      (after (step detector) .initial earlier).taskStore.get? ref = some task → Ended task →
        (after (step detector) .initial requests).taskStore.get? ref = some task ∧
          ¬ HoldsResources (after (step detector) .initial requests) ref) ∧
      ∀ entry ∈ history (step detector) .initial requests, CompletesForGood detector entry := by
  refine ⟨?_, fun entry visited => completesForGood excludes
    (history_invariant_allowed
      (fun s request healthy allowed => (step_sound excludes healthy allowed).healthy)
      initial_healthy spares entry visited) (spares entry visited)⟩
  rintro earlier ⟨later, rfl⟩ ref task found ended
  rw [history_append, List.forall_mem_append] at spares
  obtain ⟨sparesEarlier, sparesLater⟩ := spares
  have healthy : Healthy (after (step detector) .initial earlier) :=
    after_invariant_allowed
      (fun s request healthy allowed => (step_sound excludes healthy allowed).healthy)
      initial_healthy sparesEarlier
  -- from there on the state stays healthy and the task is kept
  have kept : Healthy (after (step detector) .initial (earlier ++ later)) ∧
      (after (step detector) .initial (earlier ++ later)).taskStore.get? ref = some task := by
    rw [after_append]
    refine @after_invariant_allowed Globals Request (step detector)
      (fun s => Healthy s ∧ s.taskStore.get? ref = some task) SparesQueued ?_ _
      ⟨healthy, found⟩ later sparesLater
    rintro s request ⟨healthy, found⟩ allowed
    have sound := step_sound excludes healthy allowed
    exact ⟨sound.healthy, sound.keeps ref task found ended⟩
  exact ⟨kept.2, kept.1.not_holdsResources kept.2 ended⟩

end Runs

theorem rememberingDetector_excludesCompleted : ExcludesCompleted rememberingDetector := by
  intro calls allIds completedIds taskId ready
  have chosen : taskId ∉ completedIds ∧
      ∀ edge ∈ declared calls, edge.1 = taskId → edge.2 ∈ completedIds := by
    simpa using (List.mem_filter.mp ready).2
  exact chosen.1

/-- `allocate` answers the same in every round. -/
def passWith (worker : Option String) : PassEnv := ⟨fun _ => .mlfq, fun _ => 0, fun _ => worker⟩

def submitWith (taskId : String) (dependencies : List String) (worker : Option String) : Request :=
  .submitTask { TaskRequest.minimal taskId with id := some taskId, dependencies := dependencies }
    ⟨someId, 0, true, passWith worker⟩

/-- "b" and "c" wait for "a", so they are in no queue when they are ended. -/
def blockedEnds : List Request :=
  [submitWith "a" [] (some "worker-1"), submitWith "b" ["a"] none, submitWith "c" ["a"] none,
    .cancelTask "b", .completeTask "c" (passWith none), .completeTask "a" (passWith none)]

theorem blockedEnds_stay_ended :
    ((after (step rememberingDetector) .initial blockedEnds).taskStore.heap.map Task.status =
        [.completed, .rejected, .completed]) ∧
      (∀ earlier, earlier <+: blockedEnds → ∀ ref task,
        (after (step rememberingDetector) .initial earlier).taskStore.get? ref = some task →
          Ended task →
          (after (step rememberingDetector) .initial blockedEnds).taskStore.get? ref = some task ∧
            ¬ HoldsResources (after (step rememberingDetector) .initial blockedEnds) ref) ∧
      ∀ entry ∈ history (step rememberingDetector) .initial blockedEnds,
        CompletesForGood rememberingDetector entry :=
  ⟨by decide +kernel,
    ended_tasks_stay_ended rememberingDetector rememberingDetector_excludesCompleted blockedEnds
      (by decide +kernel)⟩

def submitWide (taskId : String) (worker : Option String) : Request :=
  .submitTask { TaskRequest.minimal taskId with
      id := some taskId, cpuCores := 4, cpuCores_bounds := by decide +kernel }
    ⟨someId, 0, true, passWith worker⟩

/-- No worker has room for the fourth task, which waits in the queue and is
ended there; then the first one completes. -/
def waitingEnds (ending : Request) : List Request :=
  [submitWide "a" (some "worker-1"), submitWide "b" (some "worker-2"),
    submitWith "c" [] (some "worker-3"), submitWide "d" none, ending,
    .completeTask "a" (passWith (some "worker-1"))]

/-- The cancelled task is run, and so is the completed one. -/
theorem ended_task_runs :
    ((after (step rememberingDetector) .initial
        ((waitingEnds (.cancelTask "d")).take 5)).taskStore.get? 3).map Task.status =
          some .rejected ∧
      ((after (step rememberingDetector) .initial
        (waitingEnds (.cancelTask "d"))).taskStore.get? 3).map Task.status = some .running ∧
      HoldsResources (after (step rememberingDetector) .initial
        (waitingEnds (.cancelTask "d"))) 3 ∧
      ((after (step rememberingDetector) .initial
        ((waitingEnds (.completeTask "d" (passWith none))).take 5)).taskStore.get? 3).map
          Task.status = some .completed ∧
      ((after (step rememberingDetector) .initial
        (waitingEnds (.completeTask "d" (passWith none)))).taskStore.get? 3).map Task.status =
          some .running ∧
      HoldsResources (after (step rememberingDetector) .initial
        (waitingEnds (.completeTask "d" (passWith none)))) 3 := by
  decide +kernel

end CloudOS.Gateway.FinalStatus
