import CloudOS.Lib.History
import CloudOS.TaskScheduler.PriorityQueue
import Mathlib.Data.Multiset.AddSub

/-!
# The multilevel feedback queue with task objects

`MLFQueue` of `scheduler/priority_queue.py` with its third method.  `demote`
writes to the task object it is given, by whose fields the heaps are ordered
and the level is chosen, so tasks are references here and `objects` says what
they hold.  The caller owns a task from its dequeue until it is demoted; as
long as only owned tasks are demoted the queue hands out the least task it
holds.
-/

set_option autoImplicit false

namespace CloudOS.TaskScheduler.MultilevelQueue

open CloudOS.Lib.Heapq
open CloudOS.Lib.History
open CloudOS.Lib.LevelQueues
open CloudOS.TaskScheduler.PriorityQueue

abbrev TaskRef := Nat

structure Mlfq where
  objects : TaskRef → Task
  queues : List (List TaskRef)
  levels : queues.length = 4

def Mlfq.new (objects : TaskRef → Task) : Mlfq := ⟨objects, [[], [], [], []], rfl⟩

def refLt (objects : TaskRef → Task) (a b : TaskRef) : Bool := (objects a).lt (objects b)

def refLevel (objects : TaskRef → Task) (ref : TaskRef) : Int := (objects ref).priority

/-- `heapq.heappush(self.queues[level], task)` -/
def Mlfq.push (q : Mlfq) (index : Int) (ref : TaskRef) : Option PyError × Mlfq :=
  match pyIndex q.queues.length index with
  | none => (some (.indexError "list index out of range"), q)
  | some level =>
      (none,
        { q with
          queues := q.queues.modify level fun heap => heappush (refLt q.objects) heap ref
          levels := by rw [List.length_modify, q.levels] })

def Mlfq.enqueue (q : Mlfq) (ref : TaskRef) : Option PyError × Mlfq :=
  q.push (q.objects ref).priority ref

def Mlfq.dequeue (q : Mlfq) : Option TaskRef × Mlfq :=
  match taken : takeFirst (refLt q.objects) q.queues with
  | none => (none, q)
  | some (ref, queues) =>
      (some ref, { q with queues := queues, levels := (takeFirst_length taken).trans q.levels })

/-- The task is written before it is pushed. -/
def Mlfq.demote (q : Mlfq) (ref : TaskRef) : Option PyError × Mlfq :=
  let newLevel := min ((q.objects ref).priority + 1) (4 - 1)
  let lowered := { q.objects ref with priority := newLevel }
  { q with objects := Function.update q.objects ref lowered }.push newLevel ref

def Mlfq.held (q : Mlfq) : List TaskRef := q.queues.flatten

/-! ## Runs -/

inductive Op where
  | enqueue (ref : TaskRef)
  | dequeue
  | demote (ref : TaskRef)

/-- The queue and what its caller knows: the tasks enqueued so far, those
dequeued and not yet put back, and everything put in and taken out. -/
structure Use where
  queue : Mlfq
  enqueued : List TaskRef
  owned : List TaskRef
  putIn : Multiset TaskRef
  takenOut : Multiset TaskRef

def Use.start (objects : TaskRef → Task) : Use := ⟨.new objects, [], [], 0, 0⟩

def step (u : Use) : Op → Use
  | .enqueue ref =>
      { u with
        queue := (u.queue.enqueue ref).2
        enqueued := ref :: u.enqueued
        putIn := ref ::ₘ u.putIn }
  | .dequeue =>
      match u.queue.dequeue with
      | (none, queue) => { u with queue := queue }
      | (some ref, queue) =>
          { u with queue := queue, owned := ref :: u.owned, takenOut := ref ::ₘ u.takenOut }
  | .demote ref =>
      { u with
        queue := (u.queue.demote ref).2
        owned := u.owned.erase ref
        putIn := ref ::ₘ u.putIn }

/-- A task is enqueued once, with one of the four priorities, and only a task
that was dequeued and not yet put back is demoted. -/
def Disciplined : Use × Op → Prop
  | (u, .enqueue ref) =>
      ref ∉ u.enqueued ∧ 0 ≤ (u.queue.objects ref).priority ∧ (u.queue.objects ref).priority ≤ 3
  | (_, .dequeue) => True
  | (u, .demote ref) => ref ∈ u.owned

instance : DecidablePred Disciplined := fun
  | (_, .enqueue _) => inferInstanceAs (Decidable (_ ∧ _ ∧ _))
  | (_, .dequeue) => inferInstanceAs (Decidable True)
  | (_, .demote _) => inferInstanceAs (Decidable (_ ∈ _))

/-- `(priority, submitted_at)` of the one is at most that of the other. -/
def Task.Before (a b : Task) : Prop :=
  a.priority < b.priority ∨ a.priority = b.priority ∧ a.submittedAt ≤ b.submittedAt

/-- Nothing is returned exactly when nothing is held, and otherwise the least
of what is held. -/
structure ReturnsLeast (q : Mlfq) : Prop where
  empty : q.dequeue.1 = none ↔ q.held = []
  least : ∀ ref, q.dequeue.1 = some ref →
    ref ∈ q.held ∧ ∀ other ∈ q.held, Task.Before (q.objects ref) (q.objects other)

def OwnLevels (q : Mlfq) : Prop :=
  ∀ (i : Nat) (heap : List TaskRef), q.queues[i]? = some heap →
    ∀ ref ∈ heap, (q.objects ref).priority = i

/-! ## The methods -/

theorem refLt_weakOrder (objects : TaskRef → Task) : WeakOrder (refLt objects) where
  asymm := by
    intro a b before
    simp only [refLt, Task.lt, decide_eq_true_eq, decide_eq_false_iff_not] at before ⊢
    rcases before with higher | ⟨same, earlier⟩
    · rintro (lower | ⟨equal, _⟩)
      · omega
      · omega
    · rintro (lower | ⟨_, later⟩)
      · omega
      · exact absurd earlier (not_lt_of_gt later)
  trans := by
    intro a b c first second
    simp only [refLt, Task.lt, decide_eq_false_iff_not, not_or, not_and, not_lt] at first second ⊢
    refine ⟨by omega, ?_⟩
    intro same
    have between : (objects b).priority = (objects a).priority := by omega
    have onwards : (objects c).priority = (objects b).priority := by omega
    exact (first.2 between).trans (second.2 onwards)

section Methods
variable {q : Mlfq} {ref : TaskRef}

theorem push_level {index : Int} (low : 0 ≤ index) (high : index ≤ 3) :
    (q.push index ref).1 = none ∧ (q.push index ref).2.objects = q.objects ∧
      (q.push index ref).2.queues =
        q.queues.modify index.toNat fun heap => heappush (refLt q.objects) heap ref := by
  have found : pyIndex q.queues.length index = some index.toNat := by
    unfold pyIndex
    rw [if_pos low, if_pos (by rw [q.levels]; omega)]
  unfold Mlfq.push
  rw [found]
  exact ⟨rfl, rfl, rfl⟩

theorem push_held {index : Int} (low : 0 ≤ index) (high : index ≤ 3) :
    (q.push index ref).2.held.Perm (ref :: q.held) := by
  unfold Mlfq.held
  rw [(push_level low high).2.2]
  have inside : index.toNat < q.queues.length := by
    rw [q.levels]
    omega
  exact flatten_modify_perm (fun heap => heappush_perm (refLt q.objects) heap ref) inside

theorem dequeue_none (nothing : takeFirst (refLt q.objects) q.queues = none) :
    q.dequeue = (none, q) := by
  unfold Mlfq.dequeue
  split
  · rfl
  · rename_i taken
    rw [nothing] at taken
    cases taken

theorem dequeue_some {queues : List (List TaskRef)}
    (taken : takeFirst (refLt q.objects) q.queues = some (ref, queues)) :
    q.dequeue.1 = some ref ∧ q.dequeue.2.objects = q.objects ∧ q.dequeue.2.queues = queues := by
  unfold Mlfq.dequeue
  split
  · rename_i nothing
    rw [nothing] at taken
    cases taken
  · rename_i other others taken'
    cases Option.some.inj (taken'.symm.trans taken)
    exact ⟨rfl, rfl, rfl⟩

def demoted (task : Task) : Task := { task with priority := min (task.priority + 1) 3 }

theorem demote_eq (q : Mlfq) (ref : TaskRef) :
    q.demote ref =
      { q with objects := Function.update q.objects ref (demoted (q.objects ref)) }.push
        (demoted (q.objects ref)).priority ref := rfl

end Methods

/-! ## The queue of values

Without demotions nobody writes to a task, and references may be replaced by
what they refer to. -/

def Mlfq.values (q : Mlfq) : MLFQueue where
  queues := q.queues.map (List.map q.objects)
  levels := by rw [List.length_map, q.levels]

theorem values_enqueue (q : Mlfq) (ref : TaskRef) :
    q.values.enqueue (q.objects ref) =
      (q.enqueue ref).1.elim (.ok (q.enqueue ref).2.values) .error := by
  unfold MLFQueue.enqueue Mlfq.enqueue Mlfq.push
  rw [show q.values.queues.length = q.queues.length from List.length_map ..]
  cases pyIndex q.queues.length (q.objects ref).priority with
  | none => rfl
  | some level =>
      simp only [MLFQueue.atLevel, Mlfq.values, Option.elim_none, Except.ok.injEq,
        MLFQueue.mk.injEq]
      apply List.ext_getElem?
      intro i
      simp only [List.getElem?_map, List.getElem?_modify]
      cases q.queues[i]? with
      | none => rfl
      | some heap =>
          have pushed : heappush Task.lt (heap.map q.objects) (q.objects ref) =
              (heappush (refLt q.objects) heap ref).map q.objects :=
            (heappush_map Task.lt q.objects heap ref).symm
          by_cases here : level = i
          · simp [here, pushed]
          · simp [here]

theorem takeFirst_values (objects : TaskRef → Task) (queues : List (List TaskRef)) :
    takeFirst Task.lt (queues.map (List.map objects)) =
      (takeFirst (refLt objects) queues).map fun found =>
        (objects found.1, found.2.map (List.map objects)) := by
  induction queues with
  | nil => rfl
  | cons heap rest ih =>
      have popped : heappop Task.lt (heap.map objects) =
          (heappop (refLt objects) heap).map fun found =>
            (objects found.1, found.2.map objects) := heappop_map Task.lt objects heap
      simp only [List.map_cons, takeFirst, popped, ih]
      cases heappop (refLt objects) heap with
      | some found => rfl
      | none => cases takeFirst (refLt objects) rest <;> rfl

theorem values_dequeue (q : Mlfq) :
    q.values.dequeue = (q.dequeue.1.map q.objects, q.dequeue.2.values) := by
  have found : takeFirst Task.lt q.values.queues = (takeFirst (refLt q.objects) q.queues).map
      fun found => (q.objects found.1, found.2.map (List.map q.objects)) :=
    takeFirst_values q.objects q.queues
  unfold MLFQueue.dequeue
  cases taken : takeFirst (refLt q.objects) q.queues with
  | none =>
      rw [taken] at found
      rw [dequeue_none taken]
      split
      · rfl
      · rename_i some_found
        rw [found] at some_found
        cases some_found
  | some first =>
      obtain ⟨ref, queues⟩ := first
      obtain ⟨returns, objects, rest⟩ := dequeue_some taken
      rw [taken] at found
      split
      · rename_i none_found
        rw [found] at none_found
        cases none_found
      · rename_i task levels some_found
        cases Option.some.inj (some_found.symm.trans found)
        simp [returns, Mlfq.values, objects, rest]

/-! ## The invariant -/

def Sorted (q : Mlfq) : Prop := Leveled (refLt q.objects) (refLevel q.objects) 0 q.queues

theorem sorted_new (objects : TaskRef → Task) : Sorted (.new objects) := leveled_empty 4

theorem sorted_push {q : Mlfq} {ref : TaskRef} {level : Int} (sorted : Sorted q)
    (own : (q.objects ref).priority = level) (low : 0 ≤ level) (high : level ≤ 3) :
    Sorted (q.push level ref).2 := by
  obtain ⟨_, objects, queues⟩ := @push_level q ref level low high
  unfold Sorted
  rw [objects, queues]
  apply sorted.push (refLt_weakOrder q.objects)
  simp [refLevel, own, low]

theorem sorted_write {q : Mlfq} {ref : TaskRef} (sorted : Sorted q) (absent : ref ∉ q.held)
    (task : Task) : Sorted { q with objects := Function.update q.objects ref task } := by
  have same : ∀ other ∈ q.queues.flatten, Function.update q.objects ref task other =
      q.objects other := by
    intro other member
    apply Function.update_of_ne
    rintro rfl
    exact absent member
  apply Leveled.congr sorted
  · intro a memberA b memberB
    simp only [refLt, same a memberA, same b memberB]
  · intro a member
    simp only [refLevel, same a member]

theorem returnsLeast_of_sorted {q : Mlfq} (sorted : Sorted q) : ReturnsLeast q := by
  cases taken : takeFirst (refLt q.objects) q.queues with
  | none =>
      constructor
      · rw [dequeue_none taken]
        exact iff_of_true rfl (takeFirst_eq_none_iff.mp taken)
      · intro ref returned
        rw [dequeue_none taken] at returned
        cases returned
  | some found =>
      obtain ⟨first, queues⟩ := found
      have returns := (dequeue_some taken).1
      have member : first ∈ q.held := (takeFirst_perm taken).mem_iff.mpr List.mem_cons_self
      constructor
      · rw [returns]
        exact iff_of_false (nomatch ·) (List.ne_nil_of_mem member)
      · intro ref returned
        obtain rfl : first = ref := Option.some.inj (returns.symm.trans returned)
        refine ⟨member, ?_⟩
        intro other held
        rcases (sorted.takeFirst (refLt_weakOrder q.objects) taken).2 other held with
          higher | ⟨level, notBefore⟩
        · exact Or.inl higher
        · have same : (q.objects first).priority = (q.objects other).priority := level
          simp only [refLt, Task.lt, decide_eq_false_iff_not, not_or, not_and, not_lt]
            at notBefore
          exact Or.inr ⟨same, notBefore.2 same.symm⟩

/-- A held or owned task is one of those enqueued and is there once; owned
tasks have one of the four priorities. -/
structure Sound (u : Use) : Prop where
  sorted : Sorted u.queue
  once : (u.queue.held ++ u.owned).Nodup
  known : ∀ ref ∈ u.queue.held ++ u.owned, ref ∈ u.enqueued
  range : ∀ ref ∈ u.owned,
    0 ≤ (u.queue.objects ref).priority ∧ (u.queue.objects ref).priority ≤ 3
  balance : u.putIn = u.takenOut + (u.queue.held : Multiset TaskRef)

section Steps
variable {u : Use} {ref : TaskRef}

theorem sound_enqueue (sound : Sound u) (allowed : Disciplined (u, .enqueue ref)) :
    Sound (step u (.enqueue ref)) := by
  obtain ⟨fresh, low, high⟩ := allowed
  have held : (u.queue.enqueue ref).2.held.Perm (ref :: u.queue.held) := push_held low high
  have objects : (u.queue.enqueue ref).2.objects = u.queue.objects := (push_level low high).2.1
  have holdings : ((u.queue.enqueue ref).2.held ++ u.owned).Perm
      (ref :: (u.queue.held ++ u.owned)) := held.append_right u.owned
  simp only [step]
  constructor
  · exact sorted_push sound.sorted rfl low high
  · rw [holdings.nodup_iff, List.nodup_cons]
    exact ⟨fun present => fresh (sound.known ref present), sound.once⟩
  · intro other member
    rcases List.mem_cons.mp (holdings.mem_iff.mp member) with rfl | old
    · exact List.mem_cons_self
    · exact List.mem_cons_of_mem ref (sound.known other old)
  · rw [objects]
    exact sound.range
  · rw [Multiset.coe_eq_coe.mpr held, sound.balance, ← Multiset.cons_coe, Multiset.add_cons]

theorem sound_dequeue (sound : Sound u) : Sound (step u .dequeue) := by
  cases taken : takeFirst (refLt u.queue.objects) u.queue.queues with
  | none =>
      simp only [step, dequeue_none taken]
      exact sound
  | some found =>
      obtain ⟨ref, queues⟩ := found
      obtain ⟨returns, objects, rest⟩ := dequeue_some taken
      have held : u.queue.held.Perm (ref :: u.queue.dequeue.2.held) := by
        unfold Mlfq.held
        rw [rest]
        exact takeFirst_perm taken
      have member : ref ∈ u.queue.held := held.mem_iff.mpr List.mem_cons_self
      -- the task changes hands
      have holdings : (u.queue.dequeue.2.held ++ ref :: u.owned).Perm
          (u.queue.held ++ u.owned) :=
        List.perm_middle.trans (held.symm.append_right u.owned)
      have stepped : step u .dequeue =
          { u with
            queue := u.queue.dequeue.2
            owned := ref :: u.owned
            takenOut := ref ::ₘ u.takenOut } := by
        have pair : u.queue.dequeue = (some ref, u.queue.dequeue.2) := Prod.ext returns rfl
        simp only [step]
        rw [pair]
      rw [stepped]
      have leveled := (sound.sorted.takeFirst (refLt_weakOrder u.queue.objects) taken).1
      constructor
      · unfold Sorted
        rw [objects, rest]
        exact leveled
      · exact holdings.nodup_iff.mpr sound.once
      · exact fun other listed => sound.known other (holdings.mem_iff.mp listed)
      · rw [objects]
        intro other listed
        rcases List.mem_cons.mp listed with rfl | before
        · obtain ⟨heap, inQueues, inHeap⟩ := List.mem_flatten.mp member
          obtain ⟨i, at_level⟩ := List.mem_iff_getElem?.mp inQueues
          have level : (u.queue.objects other).priority = 0 + (i : Int) :=
            sound.sorted.placed i heap at_level other inHeap
          have bound : i < u.queue.queues.length := (List.getElem?_eq_some_iff.mp at_level).1
          rw [u.queue.levels] at bound
          omega
        · exact sound.range other before
      · show u.putIn = ref ::ₘ u.takenOut + (u.queue.dequeue.2.held : Multiset TaskRef)
        rw [sound.balance, Multiset.coe_eq_coe.mpr held, ← Multiset.cons_coe, Multiset.add_cons,
          Multiset.cons_add]

theorem sound_demote (sound : Sound u) (allowed : Disciplined (u, .demote ref)) :
    Sound (step u (.demote ref)) := by
  have isOwned : ref ∈ u.owned := allowed
  obtain ⟨low, high⟩ := sound.range ref isOwned
  have absent : ref ∉ u.queue.held := by
    intro present
    exact List.disjoint_of_nodup_append sound.once present isOwned
  have low' : 0 ≤ (demoted (u.queue.objects ref)).priority := by
    simp only [demoted]
    omega
  have high' : (demoted (u.queue.objects ref)).priority ≤ 3 := by
    simp only [demoted]
    omega
  have written := sorted_write sound.sorted absent (demoted (u.queue.objects ref))
  have held : (u.queue.demote ref).2.held.Perm (ref :: u.queue.held) := by
    rw [demote_eq]
    exact push_held low' high'
  have holdings : ((u.queue.demote ref).2.held ++ u.owned.erase ref).Perm
      (u.queue.held ++ u.owned) := by
    calc
      ((u.queue.demote ref).2.held ++ u.owned.erase ref).Perm
          (ref :: u.queue.held ++ u.owned.erase ref) := held.append_right _
      _ |>.Perm (u.queue.held ++ ref :: u.owned.erase ref) := List.perm_middle.symm
      _ |>.Perm (u.queue.held ++ u.owned) :=
        (List.perm_cons_erase isOwned).symm.append_left u.queue.held
  have objects : (u.queue.demote ref).2.objects =
      Function.update u.queue.objects ref (demoted (u.queue.objects ref)) := by
    rw [demote_eq]
    exact (push_level low' high').2.1
  simp only [step]
  constructor
  · have own : (Function.update u.queue.objects ref (demoted (u.queue.objects ref)) ref).priority =
        (demoted (u.queue.objects ref)).priority := by rw [Function.update_self]
    rw [demote_eq]
    exact sorted_push written own low' high'
  · exact holdings.nodup_iff.mpr sound.once
  · exact fun other listed => sound.known other (holdings.mem_iff.mp listed)
  · rw [objects]
    intro other listed
    have other_owned : other ∈ u.owned := List.mem_of_mem_erase listed
    by_cases same : other = ref
    · rw [same, Function.update_self]
      exact ⟨low', high'⟩
    · rw [Function.update_of_ne same]
      exact sound.range other other_owned
  · rw [Multiset.coe_eq_coe.mpr held, sound.balance, ← Multiset.cons_coe, Multiset.add_cons]

end Steps

theorem start_sound (objects : TaskRef → Task) : Sound (.start objects) where
  sorted := sorted_new objects
  once := List.nodup_nil
  known _ member := by cases member
  range _ member := by cases member
  balance := rfl

theorem step_sound {u : Use} {op : Op} (sound : Sound u) (allowed : Disciplined (u, op)) :
    Sound (step u op) := by
  cases op with
  | enqueue ref => exact sound_enqueue sound allowed
  | dequeue => exact sound_dequeue sound
  | demote ref => exact sound_demote sound allowed

/-- After any disciplined use the next dequeue returns the least held task,
each task stands in the level of its priority, and what was put in is what was
taken out and what is held. -/
theorem multilevel_queue_correct (objects : TaskRef → Task) (ops : List Op)
    (disciplined : ∀ entry ∈ history step (.start objects) ops, Disciplined entry) :
    ReturnsLeast (after step (.start objects) ops).queue ∧
      OwnLevels (after step (.start objects) ops).queue ∧
      (after step (.start objects) ops).putIn =
        (after step (.start objects) ops).takenOut +
          ((after step (.start objects) ops).queue.held : Multiset TaskRef) := by
  have sound : Sound (after step (.start objects) ops) :=
    after_invariant_allowed (fun _ _ sound allowed => step_sound sound allowed)
      (start_sound objects) disciplined
  refine ⟨returnsLeast_of_sorted sound.sorted, ?_, sound.balance⟩
  intro i heap found ref member
  have level := sound.sorted.placed i heap found ref member
  simpa [refLevel] using level

def threeTasks : TaskRef → Task
  | 0 => plainTask 0 5 "late"
  | 1 => plainTask 2 1 "normal"
  | _ => plainTask 0 3 "early"

/-- The urgent task that came first is handed out and demoted twice; it then
waits behind the other urgent one, and in the level of the normal one. -/
def demotions : List Op :=
  [.enqueue 0, .enqueue 1, .enqueue 2, .dequeue, .demote 2, .dequeue, .dequeue, .demote 2]

theorem demotions_correct :
    ((after step (.start threeTasks) demotions).queue.queues = [[], [], [1, 2], []] ∧
      (after step (.start threeTasks) demotions).owned = [0]) ∧
      ReturnsLeast (after step (.start threeTasks) demotions).queue ∧
      OwnLevels (after step (.start threeTasks) demotions).queue ∧
      (after step (.start threeTasks) demotions).putIn =
        (after step (.start threeTasks) demotions).takenOut +
          ((after step (.start threeTasks) demotions).queue.held : Multiset TaskRef) :=
  ⟨by decide +kernel, multilevel_queue_correct threeTasks demotions (by decide +kernel)⟩

end CloudOS.TaskScheduler.MultilevelQueue
