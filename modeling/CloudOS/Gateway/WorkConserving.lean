import CloudOS.Gateway.TaskService
import CloudOS.Lib.GreedyPasses

/-!
# What a scheduling pass leaves in the queues

The loop of `_trigger_scheduling` takes one queued task after another and stops
at the first that the allocator has no worker for, whatever is queued behind it.
Here the allocator has workers with free cpu and memory: it finds a worker for a
task exactly when one of them has enough of both, and reserves what the task asks
for.
-/

set_option autoImplicit false

namespace CloudOS.Gateway.WorkConserving

open CloudOS.Gateway.TaskService
open CloudOS.Lib.GreedyPasses
open CloudOS.Lib.References

structure Resources where
  cpuCores : ℚ
  memoryMb : Int
  deriving DecidableEq

abbrev Workers : Type := String → Option Resources

def demand (s : Globals) (ref : TaskRef) : Resources :=
  ((s.taskStore.get? ref).map fun task => ⟨task.cpuCores, task.memoryMb⟩).getD ⟨0, 0⟩

def HasRoom (workers : Workers) (worker : String) (need : Resources) : Prop :=
  ∃ free, workers worker = some free ∧ need.cpuCores ≤ free.cpuCores ∧
    need.memoryMb ≤ free.memoryMb

def reserve (workers : Workers) (worker : String) (need : Resources) : Workers :=
  Function.update workers worker ((workers worker).map fun free =>
    ⟨free.cpuCores - need.cpuCores, free.memoryMb - need.memoryMb⟩)

/-- The loop from a round on, with an allocator that goes by what is free. -/
inductive Dispatched (env : PassEnv) : Nat → Globals → Workers → Globals → Workers → Prop
  | empty {round : Nat} {s : Globals} {workers : Workers}
      (none_left : s.nextTask (env.pick round) = none) : Dispatched env round s workers s workers
  | placed {round : Nat} {s rest s' : Globals} {workers workers' : Workers} {ref : TaskRef}
      {worker : String} (taken : s.nextTask (env.pick round) = some (ref, rest))
      (found : env.worker round = some worker) (room : HasRoom workers worker (demand s ref))
      (later : Dispatched env (round + 1) (rest.allocate ref worker)
        (reserve workers worker (demand s ref)) s' workers') :
      Dispatched env round s workers s' workers'
  | stopped {round : Nat} {s rest : Globals} {workers : Workers} {ref : TaskRef}
      (taken : s.nextTask (env.pick round) = some (ref, rest)) (refused : env.worker round = none)
      (full : ∀ worker, ¬ HasRoom workers worker (demand s ref)) :
      Dispatched env round s workers (rest.requeue ref) workers

def readyIds (detector : Detector) (s : Globals) : List String :=
  detector.getReadyTasks s.detectorCalls s.allIds s.completedIds

/-- The pass returns, and from the ready tasks being queued on its allocator goes
by what is free. -/
structure PassesTo (detector : Detector) (env : PassEnv) (s : Globals) (workers : Workers)
    (s' : Globals) (workers' : Workers) : Prop where
  returned : triggerScheduling detector env s = (none, s')
  allocated : ∃ promoted, promote env (readyIds detector s) s = (none, promoted) ∧
    Dispatched env 0 promoted workers s' workers'

def NothingFits (s : Globals) (workers : Workers) : Prop :=
  ∀ entry ∈ s.queue, ∀ worker, ¬ HasRoom workers worker (demand s entry.ref)

/-- However `next_task` and `allocate` choose, no queued task fits afterwards. -/
def Conserves (detector : Detector) (route : String → Algorithm) (s : Globals)
    (workers : Workers) : Prop :=
  ∀ pick worker s' workers',
    PassesTo detector ⟨route, pick, worker⟩ s workers s' workers' → NothingFits s' workers'

/-! ## The loop is the one of the pass -/

theorem dispatch_of_dispatched {env : PassEnv} {round : Nat} {s s' : Globals}
    {workers workers' : Workers} (run : Dispatched env round s workers s' workers') :
    ∀ fuel, s.queue.length < fuel → dispatch env fuel round s = s' := by
  induction run with
  | empty none_left =>
      intro fuel enough
      cases fuel with
      | zero => omega
      | succ fuel => simp only [dispatch, none_left]
  | placed taken found _ _ ih =>
      intro fuel enough
      obtain ⟨_, _, _, _, shorter⟩ := nextTask_some taken
      cases fuel with
      | zero => omega
      | succ fuel =>
          simp only [dispatch, taken, found]
          exact ih fuel (by show _ < fuel; simp only [Globals.allocate]; omega)
  | stopped taken refused _ =>
      intro fuel enough
      cases fuel with
      | zero => omega
      | succ fuel => simp only [dispatch, taken, refused]

theorem passesTo_of_dispatched {detector : Detector} {env : PassEnv} {s promoted s' : Globals}
    {workers workers' : Workers}
    (isPromoted : promote env (readyIds detector s) s = (none, promoted))
    (run : Dispatched env 0 promoted workers s' workers') :
    PassesTo detector env s workers s' workers' := by
  refine ⟨?_, promoted, isPromoted, run⟩
  unfold readyIds at isPromoted
  unfold triggerScheduling
  rw [isPromoted]
  simp only [dispatch_of_dispatched run _ (Nat.lt_succ_self _)]

/-! ## The loop as a pass over the waiting tasks -/

def refs (s : Globals) : Multiset TaskRef := s.queue.map QueueEntry.ref

def placeOn (need : TaskRef → Resources) (workers : Workers) (ref : TaskRef)
    (workers' : Workers) : Prop :=
  ∃ worker, HasRoom workers worker (need ref) ∧ workers' = reserve workers worker (need ref)

theorem fits_placeOn_iff {need : TaskRef → Resources} {workers : Workers} {ref : TaskRef} :
    Fits (placeOn need) workers ref ↔ ∃ worker, HasRoom workers worker (need ref) := by
  constructor
  · rintro ⟨_, worker, room, _⟩
    exact ⟨worker, room⟩
  · rintro ⟨worker, room⟩
    exact ⟨_, worker, room, rfl⟩

theorem nothingFits_iff (s : Globals) (workers : Workers) :
    NothingFits s workers ↔ NoneFits (placeOn (demand s)) (refs s) workers := by
  simp only [NothingFits, NoneFits, fits_placeOn_iff, refs, Multiset.mem_coe, List.mem_map,
    forall_exists_index, and_imp, forall_apply_eq_imp_iff₂, not_exists]

theorem demand_allocate (s : Globals) (ref : TaskRef) (worker : String) :
    demand (s.allocate ref worker) = demand s := by
  funext other
  unfold demand Globals.allocate
  rw [RefStore.get?_modify]
  by_cases same : other = ref
  · rw [if_pos same, Option.map_map]
    rfl
  · rw [if_neg same]

theorem nextTask_at {s : Globals} {ref : TaskRef} (queued : ref ∈ refs s) :
    ∃ i rest, s.nextTask i = some (ref, rest) := by
  obtain ⟨entry, member, isRef⟩ := List.mem_map.mp (Multiset.mem_coe.mp queued)
  obtain ⟨i, inside, here⟩ := List.getElem_of_mem member
  refine ⟨i, { s with queue := s.queue.eraseIdx i }, ?_⟩
  unfold Globals.nextTask
  rw [Nat.mod_eq_of_lt inside, List.getElem?_eq_getElem inside, here, ← isRef]
  rfl

theorem nextTask_taken {s rest : Globals} {pick : Nat} {ref : TaskRef}
    (taken : s.nextTask pick = some (ref, rest)) :
    refs s = ref ::ₘ refs rest ∧ demand rest = demand s := by
  obtain ⟨entry, found, same⟩ := Option.map_eq_some_iff.mp taken
  obtain ⟨inside, here⟩ := List.getElem?_eq_some_iff.mp found
  cases same
  refine ⟨?_, rfl⟩
  have perm := (List.getElem_cons_eraseIdx_perm inside).map QueueEntry.ref
  rw [here] at perm
  exact (Multiset.coe_eq_coe.mpr perm).symm

theorem nextTask_none_iff {s : Globals} {pick : Nat} :
    s.nextTask pick = none ↔ refs s = 0 := by
  unfold Globals.nextTask refs
  rw [Option.map_eq_none_iff, List.getElem?_eq_none_iff, Multiset.coe_eq_zero, List.map_eq_nil_iff]
  constructor
  · intro outside
    by_contra nonempty
    have := Nat.mod_lt pick (List.length_pos_iff.mpr nonempty)
    omega
  · intro empty
    simp [empty]

theorem refs_requeue (s : Globals) (ref : TaskRef) : refs (s.requeue ref) = ref ::ₘ refs s := by
  unfold refs Globals.requeue
  rw [List.map_append, List.map_singleton]
  exact Multiset.coe_eq_coe.mpr (List.perm_append_singleton ref _)

theorem pass_of_dispatched {env : PassEnv} {round : Nat} {s s' : Globals}
    {workers workers' : Workers} (run : Dispatched env round s workers s' workers') :
    demand s' = demand s ∧ Pass (placeOn (demand s)) (refs s) workers (refs s') workers' := by
  induction run with
  | empty none_left =>
      rw [nextTask_none_iff.mp none_left]
      exact ⟨rfl, .empty _⟩
  | placed taken _ room _ ih =>
      obtain ⟨waiting, same⟩ := nextTask_taken taken
      obtain ⟨sameLater, rest⟩ := ih
      rw [demand_allocate, same] at sameLater rest
      rw [waiting]
      exact ⟨sameLater, .placed ⟨_, room, rfl⟩ rest⟩
  | stopped taken _ full =>
      obtain ⟨waiting, same⟩ := nextTask_taken taken
      rw [refs_requeue, waiting]
      exact ⟨same, .stopped fun fits => (fits_placeOn_iff.mp fits).elim full⟩

theorem Dispatched.congr {env env' : PassEnv} {round : Nat} {s s' : Globals}
    {workers workers' : Workers} (run : Dispatched env round s workers s' workers')
    (picks : ∀ r, round ≤ r → env'.pick r = env.pick r)
    (answers : ∀ r, round ≤ r → env'.worker r = env.worker r) :
    Dispatched env' round s workers s' workers' := by
  induction run with
  | empty none_left => exact .empty (by rw [picks _ (Nat.le_refl _)]; exact none_left)
  | placed taken found room _ ih =>
      refine .placed (by rw [picks _ (Nat.le_refl _)]; exact taken)
        (by rw [answers _ (Nat.le_refl _)]; exact found) room (ih ?_ ?_)
      · exact fun r later => picks r (by omega)
      · exact fun r later => answers r (by omega)
  | stopped taken refused full =>
      exact .stopped (by rw [picks _ (Nat.le_refl _)]; exact taken)
        (by rw [answers _ (Nat.le_refl _)]; exact refused) full

theorem dispatched_of_pass (route : String → Algorithm) {need : TaskRef → Resources}
    {waiting left : Multiset TaskRef} {workers workers' : Workers}
    (pass : Pass (placeOn need) waiting workers left workers') :
    ∀ (round : Nat) (s : Globals), refs s = waiting → demand s = need →
      ∃ pick worker s', Dispatched ⟨route, pick, worker⟩ round s workers s' workers' ∧
        refs s' = left ∧ demand s' = need := by
  induction pass with
  | empty workers =>
      intro round s queued needs
      exact ⟨fun _ => 0, fun _ => none, s, .empty (nextTask_none_iff.mpr queued), queued, needs⟩
  | @placed ref waiting left workers workers' workers'' here _ ih =>
      intro round s queued needs
      obtain ⟨worker, room, reserved⟩ := here
      obtain ⟨i, rest, taken⟩ := nextTask_at
        (show ref ∈ refs s by rw [queued]; exact Multiset.mem_cons_self _ _)
      obtain ⟨split, same⟩ := nextTask_taken taken
      have others : refs rest = waiting := (Multiset.cons_inj_right ref).mp (split.symm.trans queued)
      obtain ⟨pick, answer, s', run, isLeft, isNeed⟩ := ih (round + 1) (rest.allocate ref worker)
        others ((demand_allocate rest ref worker).trans (same.trans needs))
      refine ⟨Function.update pick round i, Function.update answer round (some worker), s', ?_,
        isLeft, isNeed⟩
      subst reserved needs
      refine .placed (by simpa using taken) (by simp) room (run.congr ?_ ?_)
      · intro r later
        exact Function.update_of_ne (by omega) _ _
      · intro r later
        exact Function.update_of_ne (by omega) _ _
  | @stopped ref waiting workers full =>
      intro round s queued needs
      obtain ⟨i, rest, taken⟩ := nextTask_at
        (show ref ∈ refs s by rw [queued]; exact Multiset.mem_cons_self _ _)
      obtain ⟨split, same⟩ := nextTask_taken taken
      refine ⟨fun _ => i, fun _ => none, rest.requeue ref, .stopped taken rfl ?_, ?_, ?_⟩
      · intro worker room
        rw [needs] at room
        exact full (fits_placeOn_iff.mpr ⟨worker, room⟩)
      · rw [refs_requeue, ← split, queued]
      · exact same.trans needs

/-! ## When nothing that fits is left -/

theorem promote_route (route : String → Algorithm) (pick pick' : Nat → Nat)
    (worker worker' : Nat → Option String) (ids : List String) (s : Globals) :
    promote ⟨route, pick, worker⟩ ids s = promote ⟨route, pick', worker'⟩ ids s := by
  induction ids generalizing s with
  | nil => rfl
  | cons rid rest ih => simp only [promote, ih]

/-- A pass leaves no queued task that fits, however the scheduler and the
allocator choose, exactly when no placements of the tasks that are queued at the
start of the loop lead to where one queued task fits and another does not. -/
theorem pass_conserves_iff (detector : Detector) (route : String → Algorithm) (s promoted : Globals)
    (workers : Workers)
    (returns : promote ⟨route, fun _ => 0, fun _ => none⟩ (readyIds detector s) s =
      (none, promoted)) :
    Conserves detector route s workers ↔
      NeverMixed (placeOn (demand promoted)) (refs promoted) workers := by
  rw [← passes_noneFit_iff]
  constructor
  · intro conserves left workers' pass
    obtain ⟨pick, worker, s', run, isLeft, isNeed⟩ :=
      dispatched_of_pass route pass 0 promoted rfl rfl
    have isPromoted := (promote_route route pick (fun _ => 0) worker (fun _ => none)
      (readyIds detector s) s).trans returns
    have nothing := conserves pick worker s' workers' (passesTo_of_dispatched isPromoted run)
    rw [nothingFits_iff, isLeft, isNeed] at nothing
    exact nothing
  · intro all pick worker s' workers' passes
    obtain ⟨started, isStarted, run⟩ := passes.allocated
    have same := (promote_route route (fun _ => 0) pick (fun _ => none) worker
      (readyIds detector s) s).trans isStarted
    rw [returns, Prod.mk.injEq] at same
    rw [← same.2] at run
    obtain ⟨isNeed, pass⟩ := pass_of_dispatched run
    rw [nothingFits_iff, isNeed]
    exact all _ _ pass

/-! ## A task that fits behind one that does not -/

def taskOf (id : String) (cpuCores : ℚ) : Task where
  id := id
  name := id
  burstTime := 1
  priority := .normal
  dependencies := []
  cpuCores := cpuCores
  memoryMb := 256
  status := .pending
  arrivalTime := 0
  workerId := none

def twoQueued (firstCpu secondCpu : ℚ) : Globals where
  taskStore := (RefStore.empty.put "first" (taskOf "first" firstCpu)).put "second"
    (taskOf "second" secondCpu)
  taskAlgos := fun _ => some .mlfq
  submittedTasks := ["first", "second"]
  queue := [⟨0, .mlfq⟩, ⟨1, .mlfq⟩]
  reservations := []
  detectorCalls := [.addTask "first" [], .addTask "second" []]

def freeDetector : Detector where
  canAdd := fun _ _ _ => (true, none)
  getReadyTasks := fun _ ids _ => ids

def oneWorker : Workers := fun worker => if worker = "w1" then some ⟨2, 1024⟩ else none

theorem hasRoom_oneWorker {worker : String} {need : Resources} :
    HasRoom oneWorker worker need ↔ worker = "w1" ∧ need.cpuCores ≤ 2 ∧ need.memoryMb ≤ 1024 := by
  unfold HasRoom oneWorker
  by_cases isWorker : worker = "w1"
  · simp [isWorker]
  · simp [isWorker]

/-- Of two tasks that need the whole worker one is placed and the other stays
queued, as it has to. -/
theorem equal_tasks_conserved :
    promote ⟨fun _ => .mlfq, fun _ => 0, fun _ => none⟩ (readyIds freeDetector (twoQueued 2 2))
        (twoQueued 2 2) = (none, twoQueued 2 2) ∧
      (∃ pick worker s' workers', PassesTo freeDetector ⟨fun _ => .mlfq, pick, worker⟩
        (twoQueued 2 2) oneWorker s' workers' ∧ refs s' = [1]) ∧
      Conserves freeDetector (fun _ => .mlfq) (twoQueued 2 2) oneWorker := by
  have nothing_new : promote ⟨fun _ => .mlfq, fun _ => 0, fun _ => none⟩
      (readyIds freeDetector (twoQueued 2 2)) (twoQueued 2 2) = (none, twoQueued 2 2) := rfl
  refine ⟨nothing_new, ?_, ?_⟩
  · have room : HasRoom oneWorker "w1" (demand (twoQueued 2 2) 0) :=
      hasRoom_oneWorker.mpr ⟨rfl, by decide +kernel, by decide +kernel⟩
    refine ⟨fun _ => 0, fun round => if round = 0 then some "w1" else none, _, _,
      passesTo_of_dispatched rfl (.placed rfl rfl room (.stopped rfl rfl ?_)), rfl⟩
    rintro worker ⟨free, isFree, cores, _⟩
    by_cases isWorker : worker = "w1"
    · subst isWorker
      cases isFree
      exact absurd cores (by decide +kernel)
    · simp [reserve, oneWorker, isWorker] at isFree
  · refine (pass_conserves_iff freeDetector _ _ _ oneWorker nothing_new).mpr ?_
    refine neverMixed_of_alike ?_ oneWorker
    have need : ∀ ref ∈ refs (twoQueued 2 2), demand (twoQueued 2 2) ref = ⟨2, 256⟩ := by
      intro ref queued
      have either : ref = 0 ∨ ref = 1 := by simpa [refs, twoQueued] using queued
      rcases either with rfl | rfl
      · rfl
      · rfl
    intro workers t first u second fits
    rw [fits_placeOn_iff, need t first] at fits
    rw [fits_placeOn_iff, need u second]
    exact fits

/-- Four cores are not there, so the task with one core stays queued. -/
theorem small_task_left_behind :
    (∃ pick worker s', PassesTo freeDetector ⟨fun _ => .mlfq, pick, worker⟩ (twoQueued 4 1)
        oneWorker s' oneWorker ∧
      ∃ entry ∈ s'.queue, HasRoom oneWorker "w1" (demand s' entry.ref)) ∧
      ¬ Conserves freeDetector (fun _ => .mlfq) (twoQueued 4 1) oneWorker := by
  have stops : ∃ pick worker s', PassesTo freeDetector ⟨fun _ => .mlfq, pick, worker⟩
      (twoQueued 4 1) oneWorker s' oneWorker ∧
        ∃ entry ∈ s'.queue, HasRoom oneWorker "w1" (demand s' entry.ref) := by
    refine ⟨fun _ => 0, fun _ => none, _, passesTo_of_dispatched rfl (.stopped rfl rfl ?_),
      ⟨1, .mlfq⟩, List.mem_cons_self, ?_⟩
    · intro worker room
      have cores := (hasRoom_oneWorker.mp room).2.1
      exact absurd cores (by decide +kernel)
    · exact hasRoom_oneWorker.mpr ⟨rfl, by decide +kernel, by decide +kernel⟩
  refine ⟨stops, ?_⟩
  intro conserves
  obtain ⟨pick, worker, s', passes, entry, queued, room⟩ := stops
  exact conserves pick worker s' oneWorker passes entry queued "w1" room

end CloudOS.Gateway.WorkConserving
