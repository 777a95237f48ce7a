import CloudOS.Mock.SchedulerService

/-!
# Terminal states of the mock scheduler

A task that is completed or failed is to stay as it is, with one event published
for it.  Neither locked section of `scheduleTaskTransition` looks at the status it
overwrites, so a cancelled task is set running again by the first and ended a
second time by the second.  Tasks are told apart by their pointers; with fresh ids
that is the same as by their ids.
-/

set_option autoImplicit false

namespace CloudOS.Mock.TerminalStates

open CloudOS.Lib.History
open CloudOS.Lib.References
open CloudOS.Mock.SchedulerService

def eventsOf (ref : Nat) (s : Service) : List Event :=
  s.published.filter fun event => event.ref = ref

/-- After the calls, every task that was ever terminal is as it was then, and no
task has two events. -/
structure Settled (config : Config) (calls : List Call) : Prop where
  final : ∀ earlier, earlier <+: calls → ∀ ref task,
    (after (step config) .fresh earlier).tasks.get? ref = some task → task.active = false →
      ∃ task', (after (step config) .fresh calls).tasks.get? ref = some task' ∧
        task'.status = task.status ∧ task'.exitCode = task.exitCode
  once : ∀ ref, (eventsOf ref (after (step config) .fresh calls)).length ≤ 1

def SparesTerminal (s : Service) : Call → Prop
  | .submitTask _ _ => True
  | .addPendingTask _ _ => True
  | .cancelTask _ _ _ => True
  | .transition index _ _ => ∀ stage ref task, Due index stage ref task s → stage ≠ .ended →
      task.active = true

/-! ## One call -/

/-- A call writes to one task: it sets it active without an event, or terminal
with one.  A call that spares terminal tasks finds it active. -/
structure Writes (config : Config) (s : Service) (call : Call) (ref : Nat) (task task' : Task) :
    Prop where
  there : s.tasks.get? ref = some task
  tasks : (step config s call).tasks = s.tasks.write ref task'
  events : (task'.active = true ∧ (step config s call).published = s.published) ∨
    (task'.active = false ∧ ∃ event, event.ref = ref ∧
      (step config s call).published = s.published ++ [event])
  spares : SparesTerminal s call → task.active = true

theorem step_effect (config : Config) (s : Service) (call : Call) :
    (∃ key task, task.active = true ∧ (step config s call).tasks = s.tasks.alloc key task ∧
        (step config s call).published = s.published) ∨
      step config s call = s ∨
      ∃ ref task task', Writes config s call ref task task' := by
  cases call with
  | submitTask req now => exact .inl ⟨req.taskID, submittedTask req now s, rfl, rfl, rfl⟩
  | addPendingTask taskID now => exact .inl ⟨taskID, pendingTask taskID now s, rfl, rfl, rfl⟩
  | cancelTask taskID tenantID now =>
      rcases cancelTask_cases taskID tenantID now s with
        same | ⟨ref, task, _, there, active, left⟩
      · exact .inr (.inl same)
      · have after : step config s (.cancelTask taskID tenantID now) = _ := left
        refine .inr (.inr ⟨ref, task, cancelledTask now task, there, ?_, .inr ⟨rfl, ?_⟩, ?_⟩)
        · rw [after]
        · exact ⟨_, rfl, by rw [after]⟩
        · exact fun _ => active
  | transition index roll now =>
      rcases transition_cases config index roll now s with
        ⟨ref, task, due⟩ | ⟨ref, task, due⟩ | ⟨same, _⟩
      · have after : step config s (.transition index roll now) = _ := transition_waiting due roll now
        refine .inr (.inr ⟨ref, task, runningTask now task, due.2, ?_, .inl ⟨rfl, ?_⟩, ?_⟩)
        · rw [after]
        · rw [after]
        · exact fun spares => spares .waiting ref task due Stage.noConfusion
      · have after : step config s (.transition index roll now) = _ :=
          transition_executing due roll now
        refine .inr (.inr ⟨ref, task, finishedTask (shouldFail config roll) now task, due.2, ?_,
          .inr ⟨finishedTask_active _ _ _, ?_⟩, ?_⟩)
        · rw [after]
        · exact ⟨_, rfl, by rw [after]⟩
        · exact fun spares => spares .executing ref task due Stage.noConfusion
      · exact .inr (.inl same)

theorem step_keeps_terminal {config : Config} {s : Service} {call : Call}
    (spares : SparesTerminal s call) {ref : Nat} {task : Task} (there : s.tasks.get? ref = some task)
    (terminal : task.active = false) : (step config s call).tasks.get? ref = some task := by
  rcases step_effect config s call with
    ⟨key, stored, _, tasks, _⟩ | same | ⟨written, old, new, writes⟩
  · rw [tasks]
    exact s.tasks.get?_alloc key stored there
  · rw [same]
    exact there
  · have apart : ref ≠ written := by
      rintro rfl
      obtain rfl := Option.some.inj (there.symm.trans writes.there)
      rw [writes.spares spares] at terminal
      cases terminal
    rw [writes.tasks, s.tasks.get?_write writes.there, if_neg apart]
    exact there

/-! ## Every run -/

section Runs
variable (config : Config)

theorem terminal_has_event (calls : List Call) :
    ∀ ref task, (after (step config) .fresh calls).tasks.get? ref = some task →
      task.active = false → eventsOf ref (after (step config) .fresh calls) ≠ [] := by
  have kept : ∀ (s : Service) call,
      (∀ ref task, s.tasks.get? ref = some task → task.active = false → eventsOf ref s ≠ []) →
      ∀ ref task, (step config s call).tasks.get? ref = some task → task.active = false →
        eventsOf ref (step config s call) ≠ [] := by
    intro s call before ref task there terminal
    unfold eventsOf at *
    rcases step_effect config s call with
      ⟨key, stored, active, tasks, published⟩ | same | ⟨written, old, new, writes⟩
    · rw [published]
      rw [tasks] at there
      rcases RefStore.get?_alloc_cases there with older | rfl
      · exact before ref task older terminal
      · rw [active] at terminal
        cases terminal
    · rw [same] at there ⊢
      exact before ref task there terminal
    · rw [writes.tasks, s.tasks.get?_write writes.there] at there
      rcases writes.events with ⟨active, published⟩ | ⟨_, event, about, published⟩
      · rw [published]
        split at there
        next here =>
          obtain rfl := Option.some.inj there
          rw [active] at terminal
          cases terminal
        next => exact before ref task there terminal
      · rw [published, List.filter_append]
        split at there
        next here => simp [about, here]
        next => simp [before ref task there terminal]
  have start : ∀ ref task, Service.fresh.tasks.get? ref = some task → task.active = false →
      eventsOf ref Service.fresh ≠ [] := by
    intro ref task there
    cases there
  exact after_invariant kept start calls

theorem event_was_terminal (calls : List Call) :
    ∀ event ∈ (after (step config) .fresh calls).published,
      ∃ earlier, earlier <+: calls ∧ ∃ task,
        (after (step config) .fresh earlier).tasks.get? event.ref = some task ∧
          task.active = false := by
  induction calls using List.reverseRecOn with
  | nil =>
      intro event member
      cases member
  | append_singleton calls call ih =>
      have older : ∀ event ∈ (after (step config) .fresh calls).published,
          ∃ earlier, earlier <+: calls ++ [call] ∧ ∃ task,
            (after (step config) .fresh earlier).tasks.get? event.ref = some task ∧
              task.active = false := by
        intro event member
        obtain ⟨earlier, within, found⟩ := ih event member
        exact ⟨earlier, within.trans (List.prefix_append calls [call]), found⟩
      intro event member
      rw [after_snoc] at member
      rcases step_effect config (after (step config) .fresh calls) call with
        ⟨key, stored, _, _, published⟩ | same | ⟨written, old, new, writes⟩
      · exact older event (published ▸ member)
      · exact older event (same ▸ member)
      · rcases writes.events with ⟨_, published⟩ | ⟨terminal, event', about, published⟩
        · exact older event (published ▸ member)
        · rw [published] at member
          rcases List.mem_append.mp member with before | new_
          · exact older event before
          · obtain rfl := List.mem_singleton.mp new_
            refine ⟨calls ++ [call], List.prefix_refl _, new, ?_, terminal⟩
            rw [after_snoc, writes.tasks, RefStore.get?_write _ writes.there, if_pos about]

variable {config}

theorem Settled.no_event {calls : List Call} (settled : Settled config calls) {ref : Nat}
    {task : Task} (there : (after (step config) .fresh calls).tasks.get? ref = some task)
    (active : task.active = true) : eventsOf ref (after (step config) .fresh calls) = [] := by
  rw [eventsOf, List.filter_eq_nil_iff]
  intro event member about
  obtain rfl : event.ref = ref := of_decide_eq_true about
  obtain ⟨earlier, within, old, found, terminal⟩ := event_was_terminal config calls event member
  obtain ⟨now, found', status, _⟩ := settled.final earlier within event.ref old found terminal
  obtain rfl := Option.some.inj (there.symm.trans found')
  rw [Task.active, status] at active
  rw [Task.active, active] at terminal
  cases terminal

theorem Settled.snoc {calls : List Call} (settled : Settled config calls) {call : Call}
    (spares : SparesTerminal (after (step config) .fresh calls) call) :
    Settled config (calls ++ [call]) := by
  constructor
  · intro earlier within ref task found terminal
    rcases List.prefix_concat_iff.mp within with rfl | before
    · exact ⟨task, found, rfl, rfl⟩
    · obtain ⟨now, there, status, exitCode⟩ := settled.final earlier before ref task found terminal
      have terminal' : now.active = false := by
        rw [Task.active, status]
        exact terminal
      refine ⟨now, ?_, status, exitCode⟩
      rw [after_snoc]
      exact step_keeps_terminal spares there terminal'
  · intro ref
    rw [after_snoc]
    have before := settled.once ref
    unfold eventsOf at *
    rcases step_effect config (after (step config) .fresh calls) call with
      ⟨key, stored, _, _, published⟩ | same | ⟨written, old, new, writes⟩
    · rw [published]
      exact before
    · rw [same]
      exact before
    · rcases writes.events with ⟨_, published⟩ | ⟨_, event, about, published⟩
      · rw [published]
        exact before
      · rw [published, List.filter_append, List.length_append]
        by_cases here : event.ref = ref
        · have none := settled.no_event writes.there (writes.spares spares)
          rw [← about, here, eventsOf] at none
          simp [none, here]
        · simp [here]
          exact before

theorem Settled.spares {calls : List Call} {call : Call}
    (settled : Settled config (calls ++ [call])) :
    SparesTerminal (after (step config) .fresh calls) call := by
  cases call with
  | submitTask req now => trivial
  | addPendingTask taskID now => trivial
  | cancelTask taskID tenantID now => trivial
  | transition index roll now =>
      intro stage ref task due unfinished
      by_contra inactive
      have terminal : task.active = false := by simpa using inactive
      cases stage with
      | ended => exact unfinished rfl
      | waiting =>
          -- the status is overwritten at once
          obtain ⟨now', found, status, _⟩ :=
            settled.final calls (List.prefix_append _ _) ref task due.2 terminal
          rw [after_snoc, step, transition_waiting due, RefStore.get?_write _ due.2, if_pos rfl]
            at found
          obtain rfl := Option.some.inj found
          rw [Task.active, ← status] at terminal
          cases terminal
      | executing =>
          -- a second event is published
          have first := terminal_has_event config calls ref task due.2 terminal
          have both := settled.once ref
          rw [after_snoc, step, transition_executing due] at both
          unfold eventsOf at first both
          rw [List.filter_append, List.length_append, List.filter_cons_of_pos (by simp),
            List.filter_nil, List.length_singleton] at both
          have some : 0 < ((after (step config) .fresh calls).published.filter
              fun event => event.ref = ref).length := List.length_pos_iff.mpr first
          omega

/-- Terminal states are final, with one event each, all along a run exactly when
no goroutine takes a step on a terminal task. -/
theorem terminal_final_iff (config : Config) (calls : List Call) :
    (∀ earlier, earlier <+: calls → Settled config earlier) ↔
      ∀ earlier last, earlier ++ [last] <+: calls →
        SparesTerminal (after (step config) .fresh earlier) last := by
  have start : Settled config [] := by
    constructor
    · intro earlier within ref task found _
      obtain rfl := List.prefix_nil.mp within
      cases found
    · intro ref
      exact Nat.zero_le 1
  have exact_step : ∀ ops op, Settled config ops →
      (Settled config (ops ++ [op]) ↔ SparesTerminal (after (step config) .fresh ops) op) :=
    fun ops op settled => ⟨Settled.spares, settled.snoc⟩
  exact forall_prefix_iff start exact_step calls

end Runs

/-! ## A cancelled task that completes -/

def completedAfterCancel : List Call :=
  [.submitTask ⟨"t", "a", "100m", "128Mi"⟩ 0, .transition 0 0 1, .cancelTask "t" "a" 2,
    .transition 0 0 3]

theorem cancelled_task_completes :
    (((after (step ⟨0, 0⟩) .fresh (completedAfterCancel.take 3)).tasks.get? 0).map
        fun task => (task.status, task.exitCode)) = some (.failed, 137) ∧
      (((after (step ⟨0, 0⟩) .fresh completedAfterCancel).tasks.get? 0).map
        fun task => (task.status, task.exitCode)) = some (.completed, 0) ∧
      ((eventsOf 0 (after (step ⟨0, 0⟩) .fresh completedAfterCancel)).map
        fun event => event.channel) = [.cancelled, .completed] ∧
      ¬ ∀ earlier, earlier <+: completedAfterCancel → Settled ⟨0, 0⟩ earlier := by
  have events : ((eventsOf 0 (after (step ⟨0, 0⟩) .fresh completedAfterCancel)).map
      fun event => event.channel) = [.cancelled, .completed] := by decide +kernel
  refine ⟨by decide +kernel, by decide +kernel, events, ?_⟩
  intro settled
  have once := (settled completedAfterCancel (List.prefix_refl _)).once 0
  have two := congrArg List.length events
  rw [List.length_map] at two
  rw [two] at once
  exact absurd once (by decide)

end CloudOS.Mock.TerminalStates
