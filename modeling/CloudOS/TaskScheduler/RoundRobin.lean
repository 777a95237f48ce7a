import CloudOS.Lib.History
import CloudOS.TaskScheduler.PriorityQueue
import Mathlib.Data.List.Rotate

/-!
# The round robin scheduler

`next_task` and `complete` of `RoundRobinScheduler`.  The turn is a counter
reduced by the length of the queue, so an addition or a removal gives it to
another task unless the two remainders happen to agree; and `complete` removes
the first task that compares equal, which the dataclass decides by priority
and submission time.
-/

set_option autoImplicit false

namespace CloudOS.TaskScheduler.RoundRobin

open CloudOS.Lib.History
open CloudOS.TaskScheduler.PriorityQueue

/-- `__eq__` of the dataclass: the other fields have `compare=False`. -/
def Task.same (a b : Task) : Bool := a.priority = b.priority ∧ a.submittedAt = b.submittedAt

def new : RoundRobinScheduler := ⟨[], 0⟩

def enqueue (s : RoundRobinScheduler) (task : Task) : RoundRobinScheduler :=
  { s with queue := s.queue ++ [task] }

def nextTask (s : RoundRobinScheduler) : Option Task × RoundRobinScheduler :=
  if s.queue = [] then (none, s)
  else (s.queue[s.index % s.queue.length]?, { s with index := s.index + 1 })

/-- `in` and `remove` find the first task that is equal to the given one. -/
def complete (s : RoundRobinScheduler) (task : Task) : RoundRobinScheduler :=
  if s.queue.any (Task.same task) then { s with queue := s.queue.eraseP (Task.same task) } else s

inductive Op where
  | enqueue (task : Task)
  | nextTask
  | complete (task : Task)

def step (s : RoundRobinScheduler) : Op → RoundRobinScheduler
  | .enqueue task => enqueue s task
  | .nextTask => (nextTask s).2
  | .complete task => complete s task

/-! ## What `complete` removes -/

/-- The given task is removed and nothing else, or nothing if it is not
held. -/
def CompletesExactly (s : RoundRobinScheduler) (task : Task) : Prop :=
  (task ∈ s.queue →
    (complete s task).queue = s.queue.filter fun other => other.taskId ≠ task.taskId) ∧
  (task ∉ s.queue → complete s task = s)

/-- No task in front of the given one compares equal to it; if it is not held,
no task at all. -/
def NoneEqualInFront (s : RoundRobinScheduler) (task : Task) : Prop :=
  ∀ other ∈ s.queue.takeWhile (· ≠ task), Task.same task other = false

theorem Task.same_refl (task : Task) : Task.same task task = true := by simp [Task.same]

theorem complete_queue (s : RoundRobinScheduler) (task : Task) :
    (complete s task).queue = s.queue.eraseP (Task.same task) := by
  unfold complete
  split
  · rfl
  · rename_i absent
    symm
    apply List.eraseP_of_forall_not
    intro other member equal
    exact absent (List.any_eq_true.mpr ⟨other, member, equal⟩)

theorem complete_index (s : RoundRobinScheduler) (task : Task) :
    (complete s task).index = s.index := by
  unfold complete
  split <;> rfl

theorem takeWhile_ne_of_notMem {queue : List Task} {task : Task} (absent : task ∉ queue) :
    queue.takeWhile (· ≠ task) = queue := by
  induction queue with
  | nil => rfl
  | cons first rest ih =>
      obtain ⟨here, later⟩ := List.ne_and_not_mem_of_not_mem_cons absent
      rw [List.takeWhile_cons_of_pos (by simpa using Ne.symm here), ih later]

theorem split_at_task {queue : List Task} {task : Task} (held : task ∈ queue) :
    ∃ behind, queue = queue.takeWhile (· ≠ task) ++ task :: behind := by
  induction queue with
  | nil => cases held
  | cons first rest ih =>
      by_cases here : first = task
      · exact ⟨rest, by simp [here]⟩
      · obtain ⟨behind, split⟩ := ih ((List.mem_cons.mp held).resolve_left (Ne.symm here))
        refine ⟨behind, ?_⟩
        rw [List.takeWhile_cons_of_pos (by simpa using here), List.cons_append, ← split]

theorem filter_others {front behind : List Task} {task : Task}
    (distinct : ((front ++ task :: behind).map Task.taskId).Nodup) :
    ((front ++ task :: behind).filter fun other => other.taskId ≠ task.taskId) =
      front ++ behind := by
  rw [List.map_append, List.map_cons] at distinct
  have apart := List.nodup_append.mp distinct
  have inFront : ∀ other ∈ front, other.taskId ≠ task.taskId := fun other member =>
    apart.2.2 other.taskId (List.mem_map_of_mem member) task.taskId List.mem_cons_self
  have inBack : ∀ other ∈ behind, other.taskId ≠ task.taskId := by
    intro other member same
    exact (List.nodup_cons.mp apart.2.1).1 (same ▸ List.mem_map_of_mem member)
  rw [List.filter_append, List.filter_cons]
  simp only [ne_eq, not_true_eq_false, decide_false, Bool.false_eq_true, if_false]
  rw [List.filter_eq_self.mpr (by simpa using inFront),
    List.filter_eq_self.mpr (by simpa using inBack)]

/-- Over any queue of tasks with distinct ids: `complete` removes exactly its
task if and only if no task in front of it compares equal. -/
theorem completes_exactly_iff (s : RoundRobinScheduler)
    (distinct : (s.queue.map Task.taskId).Nodup) (task : Task) :
    CompletesExactly s task ↔ NoneEqualInFront s task := by
  unfold CompletesExactly NoneEqualInFront
  by_cases held : task ∈ s.queue
  · obtain ⟨behind, split⟩ := split_at_task held
    generalize s.queue.takeWhile (· ≠ task) = front at split ⊢
    rw [split] at distinct
    simp only [held, not_true_eq_false, false_implies, and_true, true_implies]
    rw [complete_queue, split, filter_others distinct]
    constructor
    · intro removed other member
      by_contra equal
      rw [Bool.not_eq_false] at equal
      -- a task in front went instead, and this one is still there
      have still : task ∈ front ++ behind := by
        rw [← removed, List.eraseP_append_left equal _ member]
        simp
      rw [← filter_others distinct] at still
      simp at still
    · intro noneEqual
      rw [List.eraseP_append_right _ (by simpa using noneEqual),
        List.eraseP_cons_of_pos (Task.same_refl task)]
  · rw [takeWhile_ne_of_notMem held]
    simp only [held, false_implies, not_false_eq_true, true_implies, true_and]
    constructor
    · intro unchanged
      have same : s.queue.eraseP (Task.same task) = s.queue := by
        rw [← complete_queue, unchanged]
      simpa using List.eraseP_eq_self_iff.mp same
    · intro noneEqual
      unfold complete
      rw [if_neg]
      simpa using noneEqual

/-- Two tasks submitted at the same time, the second of which completes. -/
def simultaneous : List Op :=
  [.enqueue (plainTask 2 7 "a"), .enqueue (plainTask 2 7 "b"), .complete (plainTask 2 7 "b")]

theorem wrong_task_completed :
    (after step new (simultaneous.take 2)).queue.map Task.taskId = ["a", "b"] ∧
      plainTask 2 7 "b" ∈ (after step new (simultaneous.take 2)).queue ∧
      (after step new simultaneous).queue.map Task.taskId = ["b"] ∧
      ¬ CompletesExactly (after step new (simultaneous.take 2)) (plainTask 2 7 "b") := by
  unfold CompletesExactly
  refine ⟨by decide +kernel, by decide +kernel, by decide +kernel, ?_⟩
  rintro ⟨removed, _⟩
  have others := removed (by decide +kernel)
  revert others
  decide +kernel

/-- The first of the two is removed as it should be. -/
theorem first_task_completed :
    ((after step new (simultaneous.take 2)).queue.map Task.taskId).Nodup ∧
      NoneEqualInFront (after step new (simultaneous.take 2)) (plainTask 2 7 "a") ∧
      CompletesExactly (after step new (simultaneous.take 2)) (plainTask 2 7 "a") := by
  have noneInFront : NoneEqualInFront (after step new (simultaneous.take 2)) (plainTask 2 7 "a") := by
    unfold NoneEqualInFront
    decide +kernel
  exact ⟨by decide +kernel, noneInFront,
    (completes_exactly_iff _ (by decide +kernel) _).mpr noneInFront⟩

/-! ## Whose turn it is -/

def returned : RoundRobinScheduler × Op → Option Task
  | (s, .nextTask) => (nextTask s).1
  | _ => none

def turn (s : RoundRobinScheduler) : Nat := s.index % s.queue.length

/-- A task that is enqueued differs in priority or submission time from those
in the queue. -/
def DistinctTask : RoundRobinScheduler × Op → Prop
  | (s, .enqueue task) => ∀ other ∈ s.queue, Task.same task other = false
  | _ => True

/-- The call leaves the turn with the task that has it.  At the end of a round
it may go to an added task first, and from a removed task it goes to the one
behind it. -/
def KeepsTurn : RoundRobinScheduler × Op → Prop
  | (s, .enqueue _) =>
      s.queue = [] ∨ s.index % (s.queue.length + 1) = turn s ∨
        turn s = 0 ∧ s.index % (s.queue.length + 1) = s.queue.length
  | (_, .nextTask) => True
  | (s, .complete task) =>
      s.queue.any (Task.same task) = true →
        s.queue.length = 1 ∨
          s.index % (s.queue.length - 1) =
            (if (s.queue.take (turn s)).any (Task.same task) then turn s - 1 else turn s) %
              (s.queue.length - 1)

instance : DecidablePred DistinctTask := fun
  | (_, .enqueue _) => inferInstanceAs (Decidable (∀ other ∈ _, _))
  | (_, .nextTask) => inferInstanceAs (Decidable True)
  | (_, .complete _) => inferInstanceAs (Decidable True)

instance : DecidablePred KeepsTurn := fun
  | (_, .enqueue _) => inferInstanceAs (Decidable (_ ∨ _ ∨ _ ∧ _))
  | (_, .nextTask) => inferInstanceAs (Decidable True)
  | (_, .complete _) => inferInstanceAs (Decidable (_ → _ ∨ _))

def completes (task : Task) : Op → Bool
  | .complete other => Task.same other task
  | _ => false

abbrev stretch (earlier middle : List Op) : List (RoundRobinScheduler × Op) :=
  history step (after step new (earlier ++ [.nextTask])) middle

/-- `task` is returned, and again after the calls of `middle`, and not in
between. -/
structure ReturnedAgain (task : Task) (earlier middle : List Op) : Prop where
  first : returned (after step new earlier, .nextTask) = some task
  notBetween : ∀ entry ∈ stretch earlier middle, returned entry ≠ some task
  again : returned (after step new (earlier ++ [.nextTask] ++ middle), .nextTask) = some task

/-- Every other task that is in the queue all the while gets a turn. -/
def OthersServed (task : Task) (earlier middle : List Op) : Prop :=
  ∀ other, other ≠ task →
    (∀ s ∈ states step (after step new (earlier ++ [.nextTask])) middle, other ∈ s.queue) →
      ∃ entry ∈ stretch earlier middle, returned entry = some other

def turnOrder (s : RoundRobinScheduler) : List Task := s.queue.rotate s.index

def DistinctQueue (s : RoundRobinScheduler) : Prop :=
  s.queue.Pairwise fun a b => Task.same a b = false

theorem Task.same_comm (a b : Task) : Task.same a b = Task.same b a := by
  simp [Task.same, eq_comm]

theorem Task.same_trans {a b c : Task} (first : Task.same a b = true)
    (second : Task.same b c = true) : Task.same a c = true := by
  simp only [Task.same, decide_eq_true_eq] at *
  exact ⟨first.1.trans second.1, first.2.trans second.2⟩

theorem distinctQueue_step {s : RoundRobinScheduler} {op : Op} (distinct : DistinctQueue s)
    (differs : DistinctTask (s, op)) : DistinctQueue (step s op) := by
  cases op with
  | enqueue task =>
      refine List.pairwise_append.mpr ⟨distinct, List.pairwise_singleton _ _, ?_⟩
      intro a member b last
      rw [List.mem_singleton.mp last, Task.same_comm]
      exact differs a member
  | nextTask =>
      simp only [step, nextTask]
      split <;> exact distinct
  | complete task =>
      unfold DistinctQueue
      simp only [step, complete_queue]
      exact distinct.sublist List.eraseP_sublist

theorem DistinctQueue.complete {s : RoundRobinScheduler} (distinct : DistinctQueue s) {task other : Task}
    (left : other ∈ (complete s task).queue) : Task.same task other = false := by
  rw [complete_queue] at left
  by_contra equal
  rw [Bool.not_eq_false] at equal
  have member : other ∈ s.queue := List.mem_of_mem_eraseP left
  obtain ⟨first, front, back, before, equalFirst, split, rest⟩ :=
    List.exists_of_eraseP member equal
  rw [rest] at left
  rcases List.mem_append.mp left with inFront | behind
  · exact before other inFront equal
  · unfold DistinctQueue at distinct
    rw [split] at distinct
    have later := (List.pairwise_append.mp distinct).2.1
    have apart := (List.pairwise_cons.mp later).1 other behind
    rw [Task.same_trans (Task.same_comm task first ▸ equalFirst) equal] at apart
    cases apart

theorem DistinctQueue.nodup {s : RoundRobinScheduler} (distinct : DistinctQueue s) :
    (turnOrder s).Nodup := by
  unfold turnOrder
  rw [List.nodup_rotate]
  refine distinct.imp ?_
  rintro a b notSame rfl
  rw [Task.same_refl] at notSame
  cases notSame

theorem turnOrder_eq (s : RoundRobinScheduler) :
    turnOrder s = s.queue.drop (turn s) ++ s.queue.take (turn s) :=
  List.rotate_eq_drop_append_take_mod

theorem nextTask_returned (s : RoundRobinScheduler) : (nextTask s).1 = (turnOrder s).head? := by
  unfold nextTask turnOrder
  by_cases empty : s.queue = []
  · simp [empty]
  · rw [if_neg empty, ← List.rotate_mod,
      List.head?_rotate (Nat.mod_lt _ (List.length_pos_of_ne_nil empty))]

theorem nextTask_turnOrder {s : RoundRobinScheduler} {task : Task} {rest : List Task}
    (order : turnOrder s = task :: rest) : turnOrder (nextTask s).2 = rest ++ [task] := by
  have filled : s.queue ≠ [] := by
    intro empty
    simp [turnOrder, empty] at order
  unfold nextTask
  rw [if_neg filled]
  show s.queue.rotate (s.index + 1) = _
  rw [← List.rotate_rotate]
  show (turnOrder s).rotate 1 = _
  rw [order]
  simp

theorem enqueue_turnOrder {s : RoundRobinScheduler} {task : Task}
    (keeps : KeepsTurn (s, .enqueue task)) : (turnOrder s).Sublist (turnOrder (enqueue s task)) := by
  have grown : turnOrder (enqueue s task) =
      (s.queue ++ [task]).rotate (s.index % (s.queue.length + 1)) := by
    have mod := List.rotate_mod (s.queue ++ [task]) s.index
    simpa [turnOrder, enqueue] using mod.symm
  rw [grown]
  rcases keeps with empty | same | ⟨first, last⟩
  · simp [turnOrder, empty]
  · have inside : turn s ≤ s.queue.length := by
      rw [← same]
      exact Nat.le_of_lt_succ (Nat.mod_lt _ (Nat.succ_pos _))
    rw [same, turnOrder_eq, List.rotate_eq_drop_append_take (by simp; omega),
      List.drop_append_of_le_length inside, List.take_append_of_le_length inside]
    exact (List.sublist_append_left _ _).append_right _
  · rw [last, List.rotate_append_length_eq, turnOrder_eq, first]
    simp

theorem rotate_congr {queue : List Task} {i j : Nat}
    (same : queue.length = 0 ∨ i % queue.length = j % queue.length) :
    queue.rotate i = queue.rotate j := by
  rcases same with empty | same
  · rw [List.length_eq_zero_iff.mp empty, List.rotate_nil, List.rotate_nil]
  · rw [← List.rotate_mod, same, List.rotate_mod]

section Removal
variable {front back : List Task} {test : Task → Bool} {found : Task}

theorem eraseP_rotate_front (member : found ∈ front) (passes : test found = true)
    (others : ∀ task ∈ back, ¬ test task = true) :
    ((front ++ back).eraseP test).rotate (front.length - 1) = (back ++ front).eraseP test := by
  have shorter : (front.eraseP test).length = front.length - 1 :=
    List.length_eraseP_of_mem member passes
  rw [List.eraseP_append_left passes _ member, ← shorter, List.rotate_append_length_eq,
    List.eraseP_append_right _ others]

theorem eraseP_rotate_back (member : found ∈ back) (passes : test found = true)
    (others : ∀ task ∈ front, ¬ test task = true) :
    ((front ++ back).eraseP test).rotate front.length = (back ++ front).eraseP test := by
  rw [List.eraseP_append_right _ others, List.rotate_append_length_eq,
    List.eraseP_append_left passes _ member]

end Removal

theorem complete_turnOrder {s : RoundRobinScheduler} {task : Task} (distinct : DistinctQueue s)
    (keeps : KeepsTurn (s, .complete task)) :
    turnOrder (complete s task) = (turnOrder s).eraseP (Task.same task) := by
  by_cases held : s.queue.any (Task.same task) = true
  · obtain ⟨found, member, equal⟩ := List.any_eq_true.mp held
    have filled : 0 < s.queue.length := List.length_pos_of_mem member
    have inside : turn s < s.queue.length := Nat.mod_lt _ filled
    have frontLength : (s.queue.take (turn s)).length = turn s :=
      List.length_take_of_le (Nat.le_of_lt inside)
    have shorter : (complete s task).queue.length = s.queue.length - 1 := by
      rw [complete_queue, List.length_eraseP_of_mem member equal]
    have parts := List.take_append_drop (turn s) s.queue
    have again := keeps held
    rw [turnOrder_eq s, turnOrder, complete_index]
    by_cases front : (s.queue.take (turn s)).any (Task.same task) = true
    · obtain ⟨earlier, inFront, equalEarlier⟩ := List.any_eq_true.mp front
      have others : ∀ other ∈ s.queue.drop (turn s), ¬ Task.same task other = true := by
        intro other behind equalOther
        have apart : Task.same earlier other = false := by
          have pairwise : (s.queue.take (turn s) ++ s.queue.drop (turn s)).Pairwise
              fun a b => Task.same a b = false := by
            rw [parts]
            exact distinct
          exact (List.pairwise_append.mp pairwise).2.2 earlier inFront other behind
        rw [Task.same_trans (Task.same_comm task earlier ▸ equalEarlier) equalOther] at apart
        cases apart
      rw [← eraseP_rotate_front inFront equalEarlier others, parts, ← complete_queue, frontLength]
      apply rotate_congr
      rw [shorter]
      rw [if_pos front] at again
      omega
    · have others : ∀ other ∈ s.queue.take (turn s), ¬ Task.same task other = true := by
        simpa using front
      have behind : found ∈ s.queue.drop (turn s) := by
        rw [← parts] at member
        rcases List.mem_append.mp member with inFront | behind
        · exact absurd equal (others found inFront)
        · exact behind
      rw [← eraseP_rotate_back behind equal others, parts, ← complete_queue, frontLength]
      apply rotate_congr
      rw [shorter]
      rw [if_neg front] at again
      omega
  · have absent : ∀ other ∈ s.queue, ¬ Task.same task other = true := by simpa using held
    have unchanged : complete s task = s := if_neg held
    rw [unchanged, List.eraseP_of_forall_not]
    intro other member
    exact absent other (List.mem_rotate.mp member)

/-! ## Fairness -/

/-- What the stretch between two returns of `task` must not do: move the turn
to another task, or remove `task` itself. -/
def Undisturbed (task : Task) (entry : RoundRobinScheduler × Op) : Prop :=
  KeepsTurn entry ∧ completes task entry.2 = false

instance (task : Task) : DecidablePred (Undisturbed task) :=
  fun _ => inferInstanceAs (Decidable (_ ∧ _))

def Ahead (other task : Task) (s : RoundRobinScheduler) : Prop :=
  [other, task].Sublist (turnOrder s)

section Fairness
variable {task other : Task} {s : RoundRobinScheduler}

theorem returned_head : returned (s, .nextTask) = (turnOrder s).head? := nextTask_returned s

theorem ahead_of_returned (isReturned : returned (s, .nextTask) = some task)
    (different : other ≠ task) (present : other ∈ (step s .nextTask).queue) :
    Ahead other task (step s .nextTask) := by
  rw [returned_head] at isReturned
  obtain ⟨rest, order⟩ := List.head?_eq_some_iff.mp isReturned
  have behind : turnOrder (step s .nextTask) = rest ++ [task] := nextTask_turnOrder order
  have member : other ∈ turnOrder (step s .nextTask) := List.mem_rotate.mpr present
  rw [behind, List.mem_append, List.mem_singleton] at member
  unfold Ahead
  rw [behind]
  have inRest : other ∈ rest := member.resolve_right different
  exact (List.singleton_sublist.mpr inRest).append (List.Sublist.refl [task])

theorem not_ahead_of_returned (distinct : DistinctQueue s)
    (isReturned : returned (s, .nextTask) = some task) (different : other ≠ task) :
    ¬ Ahead other task s := by
  intro ahead
  rw [returned_head] at isReturned
  obtain ⟨rest, order⟩ := List.head?_eq_some_iff.mp isReturned
  have nodup := distinct.nodup
  unfold Ahead at ahead
  rw [order] at ahead nodup
  have later : [other, task].Sublist rest := by
    cases ahead with
    | cons _ later => exact later
    | cons_cons _ _ => exact absurd rfl different
  exact (List.nodup_cons.mp nodup).1 (later.subset (by simp))

theorem ahead_step {op : Op} (distinct : DistinctQueue s) (ahead : Ahead other task s)
    (undisturbed : Undisturbed task (s, op)) (stays : other ∈ (step s op).queue)
    (notOther : returned (s, op) ≠ some other) : Ahead other task (step s op) := by
  obtain ⟨keeps, notCompleted⟩ := undisturbed
  unfold Ahead at ahead ⊢
  cases op with
  | enqueue added => exact ahead.trans (enqueue_turnOrder keeps)
  | nextTask =>
      rw [returned_head] at notOther
      cases order : turnOrder s with
      | nil =>
          rw [order] at ahead
          cases ahead
      | cons first rest =>
          rw [order] at ahead notOther
          have behind : turnOrder (step s .nextTask) = rest ++ [first] := nextTask_turnOrder order
          rw [behind]
          cases ahead with
          | cons _ later => exact later.trans (List.sublist_append_left rest [first])
          | cons_cons _ _ => exact absurd rfl notOther
  | complete removed =>
      have notRemoved : Task.same removed other = false := distinct.complete stays
      have kept : [other, task].eraseP (Task.same removed) = [other, task] := by
        apply List.eraseP_of_forall_not
        simp only [List.mem_cons, List.not_mem_nil, or_false, forall_eq_or_imp, forall_eq,
          notRemoved, Bool.false_eq_true, not_false_eq_true, true_and]
        rw [Bool.not_eq_true]
        exact notCompleted
      show [other, task].Sublist (turnOrder (complete s removed))
      rw [complete_turnOrder distinct keeps, ← kept]
      exact ahead.eraseP

end Fairness

/-- Between two consecutive returns of a task, every other task that is in the
queue all the while is returned, if no call in between moves the turn or
removes the task. -/
theorem round_robin_fair (task : Task) (earlier middle : List Op)
    (distinct : ∀ entry ∈ history step new (earlier ++ [.nextTask] ++ middle), DistinctTask entry)
    (again : ReturnedAgain task earlier middle)
    (undisturbed : ∀ entry ∈ stretch earlier middle, Undisturbed task entry) :
    OthersServed task earlier middle := by
  intro other different present
  by_contra unserved
  rw [history_append, List.forall_mem_append] at distinct
  have empty : DistinctQueue new := List.Pairwise.nil
  have distinctStart : DistinctQueue (after step new (earlier ++ [.nextTask])) :=
    after_invariant_allowed (fun _ _ holds differs => distinctQueue_step holds differs) empty
      distinct.1
  have start : Ahead other task (after step new (earlier ++ [.nextTask])) := by
    have there := present _ (mem_states_self _ _)
    rw [after_snoc] at there ⊢
    exact ahead_of_returned again.first different there
  have final : DistinctQueue (after step new (earlier ++ [.nextTask] ++ middle)) ∧
      Ahead other task (after step new (earlier ++ [.nextTask] ++ middle)) := by
    rw [after_append]
    refine @after_invariant_given _ _ step
      (fun s => DistinctQueue s ∧ Ahead other task s) (fun s => other ∈ s.queue)
      (fun entry => DistinctTask entry ∧ Undisturbed task entry ∧ returned entry ≠ some other)
      ?_ _ ⟨distinctStart, start⟩ middle present ?_
    · rintro s op ⟨distinctQueue, ahead⟩ _ stays ⟨differs, quiet, notOther⟩
      exact ⟨distinctQueue_step distinctQueue differs,
        ahead_step distinctQueue ahead quiet stays notOther⟩
    · intro entry member
      exact ⟨distinct.2 entry member, undisturbed entry member,
        fun isReturned => unserved ⟨entry, member, isReturned⟩⟩
  exact not_ahead_of_returned final.1 again.again different final.2

def threeTasks : List Op :=
  [.enqueue (plainTask 2 1 "a"), .enqueue (plainTask 2 2 "b"), .enqueue (plainTask 2 3 "c")]

/-- The third task completes, and a new one comes in at the end of the round. -/
def quietRound : List Op :=
  [.complete (plainTask 2 3 "c"), .nextTask, .enqueue (plainTask 2 4 "d"), .nextTask]

theorem quietRound_fair :
    ReturnedAgain (plainTask 2 1 "a") threeTasks quietRound ∧
      (stretch threeTasks quietRound).map returned =
        [none, some (plainTask 2 2 "b"), none, some (plainTask 2 4 "d")] ∧
      OthersServed (plainTask 2 1 "a") threeTasks quietRound := by
  have again : ReturnedAgain (plainTask 2 1 "a") threeTasks quietRound :=
    ⟨by decide +kernel, by decide +kernel, by decide +kernel⟩
  exact ⟨again, by decide +kernel,
    round_robin_fair (plainTask 2 1 "a") threeTasks quietRound (by decide +kernel) again
      (by decide +kernel)⟩

/-- One round and the first turn of the next; then the third task completes,
and the turn goes back to the first. -/
theorem completion_skips_a_turn :
    (∀ entry ∈ history step new
        (threeTasks ++ [.nextTask, .nextTask, .nextTask] ++ [.nextTask] ++
          [.complete (plainTask 2 3 "c")]), DistinctTask entry) ∧
      ReturnedAgain (plainTask 2 1 "a") (threeTasks ++ [.nextTask, .nextTask, .nextTask])
        [.complete (plainTask 2 3 "c")] ∧
      ¬ OthersServed (plainTask 2 1 "a") (threeTasks ++ [.nextTask, .nextTask, .nextTask])
        [.complete (plainTask 2 3 "c")] := by
  refine ⟨by decide +kernel, ⟨by decide +kernel, by decide +kernel, by decide +kernel⟩, ?_⟩
  intro served
  have skipped := served (plainTask 2 2 "b") (by decide +kernel) (by decide +kernel)
  revert skipped
  decide +kernel

end CloudOS.TaskScheduler.RoundRobin
