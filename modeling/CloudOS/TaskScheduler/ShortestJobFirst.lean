import CloudOS.Lib.History
import CloudOS.TaskScheduler.PriorityQueue
import Mathlib.Data.Multiset.AddSub

/-!
# The shortest job first scheduler

`SJFScheduler` sorts its queue after every addition and takes from the front.
Nothing records when a task was enqueued: that tasks of one duration leave in
the order in which they came is due to the stability of the sort, which never
moves them past each other.  The queue is therefore compared with the held
tasks in their order of arrival, duration by duration.
-/

set_option autoImplicit false

namespace CloudOS.TaskScheduler.ShortestJobFirst

open CloudOS.Lib.History
open CloudOS.TaskScheduler.PriorityQueue

def enqueue (queue : List Task) (task : Task) : List Task := sortByDuration (queue ++ [task])

theorem scheduler_enqueue (queue : List Task) (task : Task) :
    (Scheduler.sjf queue).enqueue task = .ok (.sjf (enqueue queue task)) := rfl

theorem scheduler_dequeue (queue : List Task) :
    (Scheduler.sjf queue).dequeue = .ok ((popFirst queue).1, .sjf (popFirst queue).2) := rfl

inductive Op where
  | enqueue (task : Task)
  | dequeue

/-- The queue, the held tasks in the order in which they were enqueued, and
everything enqueued and dequeued so far. -/
structure Use where
  queue : List Task
  arrivals : List Task
  enqueued : Multiset Task
  dequeued : Multiset Task

def Use.start : Use := ⟨[], [], 0, 0⟩

def step (u : Use) : Op → Use
  | .enqueue task =>
      { u with
        queue := enqueue u.queue task
        arrivals := u.arrivals ++ [task]
        enqueued := task ::ₘ u.enqueued }
  | .dequeue =>
      match popFirst u.queue with
      | (none, queue) => { u with queue := queue }
      | (some task, queue) =>
          { u with
            queue := queue
            arrivals := u.arrivals.erase task
            dequeued := task ::ₘ u.dequeued }

/-- No held task is shorter, and none that came before is as short. -/
def EarliestShortest (arrivals : List Task) (task : Task) : Prop :=
  ∃ before later, arrivals = before ++ task :: later ∧
    (∀ other ∈ before, task.estimatedDuration < other.estimatedDuration) ∧
    ∀ other ∈ later, task.estimatedDuration ≤ other.estimatedDuration

/-! ## The stable sort -/

abbrev lasting (duration : Int) (queue : List Task) : List Task :=
  queue.filter fun task => task.estimatedDuration = duration

theorem lasting_orderedInsert (duration : Int) (task : Task) (queue : List Task) :
    lasting duration
        (queue.orderedInsert (fun a b => a.estimatedDuration ≤ b.estimatedDuration) task) =
      lasting duration (task :: queue) := by
  induction queue with
  | nil => rfl
  | cons first rest ih =>
      rw [List.orderedInsert_cons]
      split
      · rfl
      · -- the task goes behind a strictly shorter one
        rename_i longer
        rw [lasting, List.filter_cons, ← lasting, ih]
        by_cases own : task.estimatedDuration = duration
        · have other : ¬ first.estimatedDuration = duration := by omega
          simp [own, other]
        · simp [List.filter_cons, own]

theorem lasting_sortByDuration (duration : Int) (queue : List Task) :
    lasting duration (sortByDuration queue) = lasting duration queue := by
  induction queue with
  | nil => rfl
  | cons first rest ih =>
      unfold sortByDuration at ih ⊢
      rw [List.insertionSort_cons, lasting_orderedInsert, lasting, List.filter_cons, ← lasting, ih,
        lasting, lasting, List.filter_cons]

def Sorted (queue : List Task) : Prop :=
  queue.Pairwise fun a b => a.estimatedDuration ≤ b.estimatedDuration

instance : Std.Total fun a b : Task => a.estimatedDuration ≤ b.estimatedDuration :=
  ⟨fun a b => Int.le_total a.estimatedDuration b.estimatedDuration⟩

instance : IsTrans Task fun a b => a.estimatedDuration ≤ b.estimatedDuration :=
  ⟨fun _ _ _ => Int.le_trans⟩

theorem sortByDuration_sorted (queue : List Task) : Sorted (sortByDuration queue) :=
  List.pairwise_insertionSort _ queue

/-! ## The invariant -/

/-- The queue is sorted, and holds the tasks of each duration in the order of
their arrival. -/
structure Sound (u : Use) : Prop where
  sorted : Sorted u.queue
  stable : ∀ duration, lasting duration u.queue = lasting duration u.arrivals
  balance : u.enqueued = u.dequeued + (u.queue : Multiset Task)

section Invariant
variable {u : Use} {task : Task}

theorem Sound.mem_iff (sound : Sound u) : task ∈ u.queue ↔ task ∈ u.arrivals := by
  have same := sound.stable task.estimatedDuration
  have queued : task ∈ u.queue ↔ task ∈ lasting task.estimatedDuration u.queue := by simp
  have arrived : task ∈ u.arrivals ↔ task ∈ lasting task.estimatedDuration u.arrivals := by simp
  rw [queued, arrived, same]

theorem Sound.earliestShortest (sound : Sound u) {rest : List Task}
    (first : u.queue = task :: rest) : EarliestShortest u.arrivals task := by
  have member : task ∈ u.arrivals := by
    rw [← sound.mem_iff, first]
    exact List.mem_cons_self
  obtain ⟨before, later, notBefore, split, _⟩ := List.exists_erase_eq member
  have shortest : ∀ other ∈ u.arrivals, task.estimatedDuration ≤ other.estimatedDuration := by
    intro other arrived
    rw [← sound.mem_iff, first] at arrived
    have sorted := sound.sorted
    rw [first] at sorted
    rcases List.mem_cons.mp arrived with rfl | behind
    · exact Int.le_refl _
    · exact (List.pairwise_cons.mp sorted).1 other behind
  refine ⟨before, later, split, ?_, ?_⟩
  · intro other earlier
    have atLeast := shortest other (by rw [split]; simp [earlier])
    have different : other.estimatedDuration ≠ task.estimatedDuration := by
      intro same
      -- the first arrival of this duration is the first in the queue
      have stable := sound.stable task.estimatedDuration
      rw [first, split, lasting, List.filter_cons_of_pos (by simp), lasting, List.filter_append]
        at stable
      cases front : before.filter fun t => t.estimatedDuration = task.estimatedDuration with
      | nil =>
          have filtered : other ∈ before.filter
              fun t => t.estimatedDuration = task.estimatedDuration :=
            List.mem_filter.mpr ⟨earlier, by simpa using same⟩
          rw [front] at filtered
          cases filtered
      | cons head tail =>
          rw [front, List.cons_append, List.cons.injEq] at stable
          have inFront : head ∈ before := by
            have listed : head ∈ before.filter
                fun t => t.estimatedDuration = task.estimatedDuration := by
              rw [front]
              exact List.mem_cons_self
            exact (List.mem_filter.mp listed).1
          exact notBefore (stable.1 ▸ inFront)
    omega
  · intro other behind
    exact shortest other (by rw [split]; simp [behind])

theorem sound_enqueue (sound : Sound u) (task : Task) : Sound (step u (.enqueue task)) where
  sorted := sortByDuration_sorted _
  stable := by
    intro duration
    show lasting duration (sortByDuration (u.queue ++ [task])) =
      lasting duration (u.arrivals ++ [task])
    rw [lasting_sortByDuration, lasting, lasting, List.filter_append, List.filter_append,
      ← lasting, ← lasting, sound.stable]
  balance := by
    have sorted : (sortByDuration (u.queue ++ [task])).Perm (task :: u.queue) :=
      (List.perm_insertionSort _ _).trans (List.perm_append_singleton task u.queue)
    show task ::ₘ u.enqueued = u.dequeued + (sortByDuration (u.queue ++ [task]) : Multiset Task)
    rw [Multiset.coe_eq_coe.mpr sorted, sound.balance, ← Multiset.cons_coe, Multiset.add_cons]

theorem sound_dequeue (sound : Sound u) : Sound (step u .dequeue) := by
  cases queue : u.queue with
  | nil =>
      have idle : step u .dequeue = u := by
        simp only [step, queue, popFirst]
        rw [← queue]
      rw [idle]
      exact sound
  | cons task rest =>
      have stepped : step u .dequeue =
          { u with
            queue := rest
            arrivals := u.arrivals.erase task
            dequeued := task ::ₘ u.dequeued } := by
        simp only [step, queue, popFirst]
      rw [stepped]
      constructor
      · have sorted := sound.sorted
        rw [queue] at sorted
        exact (List.pairwise_cons.mp sorted).2
      · intro duration
        have stable := sound.stable duration
        rw [queue] at stable
        show lasting duration rest = lasting duration (u.arrivals.erase task)
        calc
          lasting duration rest = lasting duration ((task :: rest).erase task) := by
            rw [List.erase_cons_head]
          _ = (lasting duration (task :: rest)).erase task := List.erase_filter.symm
          _ = (lasting duration u.arrivals).erase task := by rw [stable]
          _ = lasting duration (u.arrivals.erase task) := List.erase_filter
      · show u.enqueued = task ::ₘ u.dequeued + (rest : Multiset Task)
        rw [sound.balance, queue, ← Multiset.cons_coe, Multiset.add_cons, Multiset.cons_add]

end Invariant

theorem start_sound : Sound .start := ⟨List.Pairwise.nil, fun _ => rfl, rfl⟩

theorem step_sound (u : Use) (op : Op) (sound : Sound u) : Sound (step u op) := by
  cases op with
  | enqueue task => exact sound_enqueue sound task
  | dequeue => exact sound_dequeue sound

/-- After any calls: the next dequeue returns the earliest of the shortest held
tasks, or nothing if none is held, and what was enqueued is what was dequeued
and what is held. -/
theorem shortest_job_first (ops : List Op) :
    ((popFirst (after step .start ops).queue).1 = none ↔ (after step .start ops).arrivals = []) ∧
      (∀ task, (popFirst (after step .start ops).queue).1 = some task →
        EarliestShortest (after step .start ops).arrivals task) ∧
      (after step .start ops).queue.Perm (after step .start ops).arrivals ∧
      (after step .start ops).enqueued =
        (after step .start ops).dequeued + ((after step .start ops).queue : Multiset Task) := by
  have sound : Sound (after step .start ops) := after_invariant step_sound start_sound ops
  generalize after step .start ops = u at sound
  have perm : u.queue.Perm u.arrivals := by
    rw [List.perm_iff_count]
    intro task
    have counts : ∀ queue : List Task,
        queue.count task = (lasting task.estimatedDuration queue).count task :=
      fun queue => (List.count_filter (by simp)).symm
    rw [counts u.queue, counts u.arrivals, sound.stable]
  refine ⟨?_, ?_, perm, sound.balance⟩
  · cases queue : u.queue with
    | nil =>
        rw [queue] at perm
        exact iff_of_true rfl perm.symm.eq_nil
    | cons task rest =>
        rw [queue] at perm
        refine iff_of_false (nomatch ·) ?_
        intro none_held
        rw [none_held] at perm
        exact List.cons_ne_nil task rest perm.eq_nil
  · intro task returned
    cases queue : u.queue with
    | nil =>
        rw [queue] at returned
        cases returned
    | cons first rest =>
        rw [queue] at returned
        cases returned
        exact sound.earliestShortest queue

end CloudOS.TaskScheduler.ShortestJobFirst
