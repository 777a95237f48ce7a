import CloudOS.Lib.History
import CloudOS.Lib.References
import Mathlib.Algebra.Order.Ring.Rat
import Mathlib.Logic.Function.Basic

/-!
# The tasks of the gateway

`submit_task`, `cancel_task` and `complete_task` of `gateway/main.py` with the
scheduling pass that they trigger, over the task classes of
`scheduler/models.py`.  A task is an object that the store, the scheduler's
queues and the allocator all refer to.  No handler waits inside, so requests
are handled one at a time.

The scheduler, the allocator and the detector that the gateway imports are not
in the repository.  Of the scheduler the queues are kept: `next_task` takes any
entry out of them.  Of the allocator it is kept which task holds resources of
which worker; quota verdicts and the answers of `allocate` come with the
request.  The detector is any object: its answers are functions of the calls
that were made to it.  Log lines, accounting times and the queue level are left
out.
-/

set_option autoImplicit false

namespace CloudOS.Gateway.TaskService

open CloudOS.Lib.References

inductive Priority where
  | low
  | normal
  | high
  | critical
  deriving DecidableEq, Repr

def Priority.name : Priority → String
  | .low => "LOW"
  | .normal => "NORMAL"
  | .high => "HIGH"
  | .critical => "CRITICAL"

def Priority.ofName? (name : String) : Option Priority :=
  if name = "LOW" then some .low
  else if name = "NORMAL" then some .normal
  else if name = "HIGH" then some .high
  else if name = "CRITICAL" then some .critical
  else none

/-- `upper`, as far as it can lead to a name of a priority: beside the small
letters only the dotless i has a letter of these names as its upper case. -/
def upper (text : String) : String :=
  String.ofList (text.toList.map fun c => if c = Char.ofNat 0x131 then 'I' else c.toUpper)

inductive TaskStatus where
  | pending
  | running
  | completed
  | failed
  | rejected
  deriving DecidableEq, Repr

def TaskStatus.name : TaskStatus → String
  | .pending => "PENDING"
  | .running => "RUNNING"
  | .completed => "COMPLETED"
  | .failed => "FAILED"
  | .rejected => "REJECTED"

inductive Algorithm where
  | roundRobin
  | sjf
  | mlfq
  deriving DecidableEq, Repr

structure Task where
  id : String
  name : String
  burstTime : ℚ
  priority : Priority
  dependencies : List String
  cpuCores : ℚ
  memoryMb : Int
  status : TaskStatus
  arrivalTime : ℚ
  workerId : Option String
  deriving DecidableEq

/-- The request model, with the bounds it declares. -/
structure TaskRequest where
  id : Option String
  name : String
  burstTime : ℚ
  priority : String
  dependencies : List String
  cpuCores : ℚ
  memoryMb : Int
  burstTime_pos : 0 < burstTime
  cpuCores_bounds : 0 < cpuCores ∧ cpuCores ≤ 8
  memoryMb_bounds : 0 < memoryMb ∧ memoryMb ≤ 32768

def TaskRequest.minimal (name : String) : TaskRequest where
  id := none
  name := name
  burstTime := 1
  priority := "NORMAL"
  dependencies := []
  cpuCores := 1
  memoryMb := 256
  burstTime_pos := by decide +kernel
  cpuCores_bounds := by decide +kernel
  memoryMb_bounds := by decide

/-- `str(uuid.uuid4())[:8]` -/
structure GeneratedId where
  text : String
  eight : text.toList.length = 8
  hex : text.toList.all "0123456789abcdef".toList.contains = true

structure TaskResponse where
  id : String
  name : String
  status : String
  priority : String
  burstTime : ℚ
  cpuCores : ℚ
  memoryMb : Int
  workerId : Option String
  dependencies : List String
  message : String
  deriving DecidableEq

inductive Detail where
  | text (message : String)
  | coded (error message : String)
  | deadlock (message : String) (cycle : Option (List String))
  deriving DecidableEq

/-- `serverError` is the `KeyError` of a scheduling pass, which no handler
catches. -/
inductive Response where
  | created (task : TaskResponse)
  | completed (task : TaskResponse)
  | cancelled (message taskId : String)
  | httpError (status : Nat) (detail : Detail)
  | serverError (key : String)
  deriving DecidableEq

abbrev TaskRef := Nat

structure QueueEntry where
  ref : TaskRef
  algorithm : Algorithm
  deriving DecidableEq

inductive DetectorCall where
  | addTask (taskId : String) (dependencies : List String)
  | removeTask (taskId : String)
  deriving DecidableEq

/-- The answers of the detector, after the calls made to it. -/
structure Detector where
  canAdd : List DetectorCall → String → List String → Bool × Option (List String)
  getReadyTasks : List DetectorCall → List String → List String → List String

structure Globals where
  taskStore : RefStore String Task
  taskAlgos : String → Option Algorithm
  submittedTasks : List String
  queue : List QueueEntry
  reservations : List (TaskRef × String)
  detectorCalls : List DetectorCall

def Globals.initial : Globals := ⟨.empty, fun _ => none, [], [], [], []⟩

/-- What the scheduler and the allocator do in one pass: where a task is routed,
which entry the calls of `next_task` take, and what `allocate` then answers. -/
structure PassEnv where
  route : String → Algorithm
  pick : Nat → Nat
  worker : Nat → Option String

structure SubmitEnv where
  generatedId : GeneratedId
  now : ℚ
  quotaOk : Bool
  pass : PassEnv

inductive Request where
  | submitTask (body : TaskRequest) (env : SubmitEnv)
  | cancelTask (taskId : String)
  | completeTask (taskId : String) (env : PassEnv)

/-! ## The scheduling pass -/

namespace Globals

def allIds (s : Globals) : List String := s.taskStore.entries.map Prod.fst

def statusIs (s : Globals) (status : TaskStatus) (ref : TaskRef) : Bool :=
  s.taskStore.satisfies (fun task => task.status = status) ref

def completedIds (s : Globals) : List String :=
  (s.taskStore.entries.filter fun entry => s.statusIs .completed entry.2).map Prod.fst

/-- `_scheduler.submit` and the notes the pass makes of it. -/
def enqueue (s : Globals) (algorithm : Algorithm) (rid : String) (ref : TaskRef) : Globals :=
  { s with
    queue := s.queue ++ [⟨ref, algorithm⟩]
    taskAlgos := Function.update s.taskAlgos rid (some algorithm)
    submittedTasks := s.submittedTasks ++ [rid] }

/-- `next_task` takes one of the entries, whatever the status of its task. -/
def nextTask (s : Globals) (pick : Nat) : Option (TaskRef × Globals) :=
  (s.queue[pick % s.queue.length]?).map fun entry =>
    (entry.ref, { s with queue := s.queue.eraseIdx (pick % s.queue.length) })

def allocate (s : Globals) (ref : TaskRef) (worker : String) : Globals :=
  { s with
    taskStore := s.taskStore.modify ref fun task =>
      { task with status := .running, workerId := some worker }
    reservations := s.reservations ++ [(ref, worker)] }

def requeue (s : Globals) (ref : TaskRef) : Globals :=
  let algorithm := (s.taskStore.get? ref).bind fun task => s.taskAlgos task.id
  { s with queue := s.queue ++ [⟨ref, algorithm.getD .mlfq⟩] }

def release (s : Globals) (ref : TaskRef) : Globals :=
  { s with reservations := s.reservations.filter fun held => held.1 ≠ ref }

def setStatus (s : Globals) (ref : TaskRef) (status : TaskStatus) : Globals :=
  { s with taskStore := s.taskStore.modify ref fun task => { task with status := status } }

def removeFromDetector (s : Globals) (taskId : String) : Globals :=
  { s with detectorCalls := s.detectorCalls ++ [.removeTask taskId] }

end Globals

/-- An id that is not in the store ends the pass with what has been promoted. -/
def promote (env : PassEnv) : List String → Globals → Option String × Globals
  | [], s => (none, s)
  | rid :: rest, s =>
      if rid ∈ s.submittedTasks then promote env rest s
      else
        match s.taskStore.find? rid with
        | none => (some rid, s)
        | some (ref, task) =>
            if task.status = .rejected then promote env rest s
            else promote env rest (s.enqueue (env.route rid) rid ref)

/-- The loop, for at most `fuel` rounds from round `round` on. -/
def dispatch (env : PassEnv) : Nat → Nat → Globals → Globals
  | 0, _, s => s
  | fuel + 1, round, s =>
      match s.nextTask (env.pick round) with
      | none => s
      | some (ref, s) =>
          match env.worker round with
          | some worker => dispatch env fuel (round + 1) (s.allocate ref worker)
          | none => s.requeue ref

section Endpoints
variable (detector : Detector)

/-- Each round takes one entry out of the queues or is the last. -/
def triggerScheduling (env : PassEnv) (s : Globals) : Option String × Globals :=
  match promote env (detector.getReadyTasks s.detectorCalls s.allIds s.completedIds) s with
  | (some key, s) => (some key, s)
  | (none, s) => (none, dispatch env (s.queue.length + 1) 0 s)

/-! ## The endpoints -/

def taskToResponse (task : Task) (message : String) : TaskResponse :=
  ⟨task.id, task.name, task.status.name, task.priority.name, task.burstTime, task.cpuCores,
    task.memoryMb, task.workerId, task.dependencies, message⟩

/-- The empty string counts as none. -/
def TaskRequest.clientId (body : TaskRequest) : Option String := body.id.filter (· ≠ "")

def newTask (body : TaskRequest) (taskId : String) (priority : Priority) (now : ℚ) : Task :=
  ⟨taskId, body.name, body.burstTime, priority, body.dependencies, body.cpuCores, body.memoryMb,
    .pending, now, none⟩

def submittedMessage (task : Task) : String :=
  if task.status = .running then
    "Task submitted and allocated to " ++ task.workerId.getD "None"
  else if task.dependencies ≠ [] then "Task submitted. Waiting for dependencies to complete."
  else "Task submitted. Waiting for available worker resources."

def Globals.isStored (s : Globals) (taskId : String) : Bool := (s.taskStore.ref? taskId).isSome

/-- A submission from the quota check on. -/
def registerTask (body : TaskRequest) (env : SubmitEnv) (taskId : String) (task : Task)
    (s : Globals) : Response × Globals :=
  if !env.quotaOk then
    (.httpError 422 (.text ("Task '" ++ body.name ++ "' exceeds resource quota. " ++
        "Max CPU: 4.0 cores, Max MEM: 4096 MB.")),
      { s with taskStore := s.taskStore.put taskId { task with status := .rejected } })
  else
    match body.dependencies.find? fun depId => !s.isStored depId with
    | some depId =>
        (.httpError 422 (.text ("Dependency task_id '" ++ depId ++ "' does not exist.")), s)
    | none =>
        let (safe, cycle) := detector.canAdd s.detectorCalls taskId body.dependencies
        if !safe then
          (.httpError 409 (.deadlock
            "Adding this task would create a circular dependency (deadlock)." cycle), s)
        else
          let ref := s.taskStore.heap.length
          let s :=
            { s with
              detectorCalls := s.detectorCalls ++ [.addTask taskId body.dependencies]
              taskStore := s.taskStore.put taskId task }
          match triggerScheduling detector env.pass s with
          | (some key, s) => (.serverError key, s)
          | (none, s) =>
              let task := (s.taskStore.get? ref).getD task
              (.created (taskToResponse task (submittedMessage task)), s)

def submitTask (body : TaskRequest) (env : SubmitEnv) (s : Globals) : Response × Globals :=
  match Priority.ofName? (upper body.priority) with
  | none =>
      (.httpError 422 (.coded "invalid_priority" ("Invalid priority '" ++ body.priority ++ "'. " ++
        "Choose from: ['LOW', 'NORMAL', 'HIGH', 'CRITICAL']")), s)
  | some priority =>
      match body.clientId with
      | some taskId =>
          if s.isStored taskId then
            (.httpError 422 (.coded "duplicate_id" ("Task id '" ++ taskId ++ "' already exists.")),
              s)
          else
            registerTask detector body env taskId (newTask body taskId priority env.now) s
      | none =>
          registerTask detector body env env.generatedId.text
            (newTask body env.generatedId.text priority env.now) s

def notFound (taskId : String) : Response :=
  .httpError 404 (.text ("Task '" ++ taskId ++ "' not found"))

/-- The task stays where it is in the scheduler's queues. -/
def cancelTask (taskId : String) (s : Globals) : Response × Globals :=
  match s.taskStore.find? taskId with
  | none => (notFound taskId, s)
  | some (ref, task) =>
      if task.status = .running then
        (.httpError 400 (.text ("Cannot cancel task '" ++ taskId ++
          "' -- it is currently RUNNING. " ++
          "Wait for it to complete or use POST /tasks/\x7bid\x7d/complete.")), s)
      else if task.status = .completed ∨ task.status = .failed then
        (.httpError 400 (.text ("Task '" ++ taskId ++ "' is already " ++ task.status.name ++
          " -- cannot cancel.")), s)
      else
        (.cancelled ("Task '" ++ taskId ++ "' (" ++ task.name ++ ") cancelled successfully.") taskId,
          (s.setStatus ref .rejected).removeFromDetector taskId)

/-- A task that is not running is completed as well. -/
def completeTask (taskId : String) (env : PassEnv) (s : Globals) : Response × Globals :=
  match s.taskStore.find? taskId with
  | none => (notFound taskId, s)
  | some (ref, task) =>
      if task.status = .completed then
        (.completed (taskToResponse task "Task was already completed."), s)
      else if task.status = .rejected ∨ task.status = .failed then
        (.httpError 400 (.text ("Task '" ++ taskId ++ "' is " ++ task.status.name ++
          " -- cannot complete.")), s)
      else
        let s := ((s.setStatus ref .completed).release ref).removeFromDetector taskId
        match triggerScheduling detector env s with
        | (some key, s) => (.serverError key, s)
        | (none, s) =>
            (.completed (taskToResponse ((s.taskStore.get? ref).getD task)
              "Task completed successfully."), s)

def serve (s : Globals) : Request → Response × Globals
  | .submitTask body env => submitTask detector body env s
  | .cancelTask taskId => cancelTask taskId s
  | .completeTask taskId env => completeTask detector taskId env s

def step (s : Globals) (request : Request) : Globals := (serve detector s request).2

end Endpoints

/-! ## The pass -/

section Pass
variable {s s' : Globals} {env : PassEnv}

theorem nextTask_some {pick : Nat} {ref : TaskRef} (taken : s.nextTask pick = some (ref, s')) :
    ∃ entry ∈ s.queue, entry.ref = ref ∧
      s' = { s with queue := s.queue.eraseIdx (pick % s.queue.length) } ∧
      s'.queue.length + 1 = s.queue.length := by
  obtain ⟨entry, found, same⟩ := Option.map_eq_some_iff.mp taken
  obtain ⟨below, _⟩ := List.getElem?_eq_some_iff.mp found
  cases same
  refine ⟨entry, List.mem_of_getElem? found, rfl, rfl, ?_⟩
  simp only [List.length_eraseIdx, if_pos below]
  omega

/-- More rounds than there are entries change nothing: the loop has ended. -/
theorem dispatch_ended {fuel : Nat} (enough : s.queue.length < fuel) (more round : Nat) :
    dispatch env (fuel + more) round s = dispatch env fuel round s := by
  induction fuel generalizing s round with
  | zero => omega
  | succ fuel ih =>
      rw [Nat.add_right_comm]
      unfold dispatch
      cases taken : s.nextTask (env.pick round) with
      | none => rfl
      | some pair =>
          obtain ⟨ref, rest⟩ := pair
          obtain ⟨_, _, _, _, shorter⟩ := nextTask_some taken
          cases env.worker round with
          | none => rfl
          | some worker =>
              have left : (rest.allocate ref worker).queue.length < fuel := by
                show rest.queue.length < fuel
                omega
              exact ih left (round + 1)

structure SameStore (s s' : Globals) : Prop where
  entries : s'.taskStore.entries = s.taskStore.entries
  size : s'.taskStore.heap.length = s.taskStore.heap.length
  calls : s'.detectorCalls = s.detectorCalls

theorem SameStore.refl (s : Globals) : SameStore s s := ⟨rfl, rfl, rfl⟩

theorem SameStore.trans {s'' : Globals} (first : SameStore s s') (second : SameStore s' s'') :
    SameStore s s'' :=
  ⟨second.entries.trans first.entries, second.size.trans first.size,
    second.calls.trans first.calls⟩

theorem SameStore.ref? (same : SameStore s s') (taskId : String) :
    s'.taskStore.ref? taskId = s.taskStore.ref? taskId := by
  rw [RefStore.ref?, same.entries, RefStore.ref?]

theorem promote_frame (ready : List String) (s : Globals) :
    (promote env ready s).2.taskStore = s.taskStore ∧
      (promote env ready s).2.reservations = s.reservations ∧
      (promote env ready s).2.detectorCalls = s.detectorCalls := by
  induction ready generalizing s with
  | nil => exact ⟨rfl, rfl, rfl⟩
  | cons rid rest ih =>
      unfold promote
      split
      · exact ih s
      · split
        · exact ⟨rfl, rfl, rfl⟩
        · rename_i ref task _
          split
          · exact ih s
          · exact ih (s.enqueue (env.route rid) rid ref)

theorem mem_promote_queue {ready : List String} {entry : QueueEntry}
    (queued : entry ∈ (promote env ready s).2.queue) :
    entry ∈ s.queue ∨ ∃ rid ∈ ready, ∃ task,
      s.taskStore.find? rid = some (entry.ref, task) ∧ task.status ≠ .rejected := by
  induction ready generalizing s with
  | nil => exact Or.inl queued
  | cons rid rest ih =>
      -- a ready task of the rest is one of the whole list
      have later : ∀ {s' : Globals}, s'.taskStore = s.taskStore →
          (∃ rid ∈ rest, ∃ task, s'.taskStore.find? rid = some (entry.ref, task) ∧
            task.status ≠ .rejected) →
          ∃ other ∈ rid :: rest, ∃ task, s.taskStore.find? other = some (entry.ref, task) ∧
            task.status ≠ .rejected := by
        rintro s' same ⟨other, listed, task, found, notRejected⟩
        rw [same] at found
        exact ⟨other, List.mem_cons_of_mem rid listed, task, found, notRejected⟩
      unfold promote at queued
      split at queued
      · exact (ih queued).imp id (later rfl)
      · split at queued
        · exact Or.inl queued
        · rename_i ref task found
          split at queued
          · exact (ih queued).imp id (later rfl)
          · rename_i notRejected
            rcases ih queued with known | ready
            · rcases List.mem_append.mp known with old | new
              · exact Or.inl old
              · obtain rfl := List.mem_singleton.mp new
                exact Or.inr ⟨rid, List.mem_cons_self, task, found, notRejected⟩
            · exact Or.inr (later rfl ready)

theorem promote_sameStore (ready : List String) (s : Globals) :
    SameStore s (promote env ready s).2 := by
  obtain ⟨store, _, calls⟩ := @promote_frame env ready s
  exact ⟨congrArg RefStore.entries store, by rw [store], calls⟩

theorem nextTask_sameStore {pick : Nat} {ref : TaskRef}
    (taken : s.nextTask pick = some (ref, s')) : SameStore s s' := by
  obtain ⟨_, _, _, rfl, _⟩ := nextTask_some taken
  exact ⟨rfl, rfl, rfl⟩

theorem setStatus_sameStore (s : Globals) (ref : TaskRef) (status : TaskStatus) :
    SameStore s (s.setStatus ref status) :=
  ⟨rfl, List.length_modify .., rfl⟩

theorem dispatch_sameStore (fuel round : Nat) (s : Globals) :
    SameStore s (dispatch env fuel round s) := by
  induction fuel generalizing s round with
  | zero => exact SameStore.refl s
  | succ fuel ih =>
      unfold dispatch
      split
      · exact SameStore.refl s
      · rename_i ref rest taken
        have first := nextTask_sameStore taken
        split
        · rename_i worker _
          have allocated : SameStore rest (rest.allocate ref worker) :=
            ⟨rfl, List.length_modify .., rfl⟩
          exact (first.trans allocated).trans (ih (round + 1) _)
        · exact first.trans ⟨rfl, rfl, rfl⟩

theorem triggerScheduling_sameStore (detector : Detector) (env : PassEnv) (s : Globals) :
    SameStore s (triggerScheduling detector env s).2 := by
  have promoted := @promote_sameStore env
    (detector.getReadyTasks s.detectorCalls s.allIds s.completedIds) s
  unfold triggerScheduling
  split
  · rename_i key rest ended
    rw [ended] at promoted
    exact promoted
  · rename_i rest ended
    rw [ended] at promoted
    exact promoted.trans (dispatch_sameStore _ 0 rest)

end Pass

/-! ## What a submission does -/

section Submission
variable (detector : Detector) (s : Globals) (body : TaskRequest) (env : SubmitEnv)

def taskIdOf (body : TaskRequest) (env : SubmitEnv) : String :=
  body.clientId.getD env.generatedId.text

def Writes : Prop :=
  (Priority.ofName? (upper body.priority)).isSome = true ∧
    (∀ taskId, body.clientId = some taskId → s.isStored taskId = false) ∧
    (env.quotaOk = false ∨
      (∀ depId ∈ body.dependencies, s.isStored depId = true) ∧
        (detector.canAdd s.detectorCalls (taskIdOf body env) body.dependencies).1 = true)

def putRejected (task : Task) : Globals :=
  { s with taskStore := s.taskStore.put (taskIdOf body env) { task with status := .rejected } }

def putRegistered (task : Task) : Globals :=
  { s with
    detectorCalls := s.detectorCalls ++ [.addTask (taskIdOf body env) body.dependencies]
    taskStore := s.taskStore.put (taskIdOf body env) task }

/-- All that can become of a submission. -/
inductive Submitted : Response × Globals → Prop
  | refused (status : Nat) (detail : Detail) (otherwise : status ≠ 409)
      (unwritten : ¬ Writes detector s body env) : Submitted (.httpError status detail, s)
  | deadlocked (detail : Detail)
      (unused : ∀ taskId, body.clientId = some taskId → s.isStored taskId = false)
      (known : ∀ depId ∈ body.dependencies, s.isStored depId = true)
      (cyclic : (detector.canAdd s.detectorCalls (taskIdOf body env) body.dependencies).1 = false)
      (unwritten : ¬ Writes detector s body env) : Submitted (.httpError 409 detail, s)
  | overQuota (detail : Detail) (task : Task) (isWritten : Writes detector s body env) :
      Submitted (.httpError 422 detail, putRejected s body env task)
  | registered (response : Response) (task : Task)
      (answered : ∀ status detail, response ≠ .httpError status detail)
      (isPending : task.status = .pending) (isWritten : Writes detector s body env)
      (known : ∀ depId ∈ body.dependencies, s.isStored depId = true) :
      Submitted
        (response, (triggerScheduling detector env.pass (putRegistered s body env task)).2)

end Submission

section Outcome
variable {detector : Detector} {s : Globals} {body : TaskRequest} {env : SubmitEnv}

theorem registerTask_submitted {task : Task} (isPending : task.status = .pending)
    (valid : (Priority.ofName? (upper body.priority)).isSome = true)
    (unused : ∀ taskId, body.clientId = some taskId → s.isStored taskId = false) :
    Submitted detector s body env
      (registerTask detector body env (taskIdOf body env) task s) := by
  unfold registerTask
  cases quota : env.quotaOk with
  | false => exact .overQuota _ task ⟨valid, unused, Or.inl quota⟩
  | true =>
      simp only [Bool.not_true, Bool.false_eq_true, if_false]
      cases missing : body.dependencies.find? fun depId => !s.isStored depId with
      | some depId =>
          refine .refused 422 _ (by decide) ?_
          rintro ⟨_, _, refusedQuota | ⟨known, _⟩⟩
          · rw [quota] at refusedQuota
            cases refusedQuota
          · have absent := List.find?_some missing
            rw [known depId (List.mem_of_find?_eq_some missing)] at absent
            cases absent
      | none =>
          have known : ∀ depId ∈ body.dependencies, s.isStored depId = true := by
            simpa using missing
          cases safe : (detector.canAdd s.detectorCalls (taskIdOf body env)
              body.dependencies).1 with
          | false =>
              simp only [Bool.not_false, if_true]
              refine .deadlocked _ unused known safe ?_
              rintro ⟨_, _, refusedQuota | ⟨_, isSafe⟩⟩
              · rw [quota] at refusedQuota
                cases refusedQuota
              · rw [safe] at isSafe
                cases isSafe
          | true =>
              simp only [Bool.not_true, Bool.false_eq_true, if_false]
              have isWritten : Writes detector s body env :=
                ⟨valid, unused, Or.inr ⟨known, safe⟩⟩
              have pass : ∀ response,
                  (∀ status detail, response ≠ .httpError status detail) →
                  Submitted detector s body env (response,
                    (triggerScheduling detector env.pass (putRegistered s body env task)).2) :=
                fun response answered => .registered response task answered isPending isWritten known
              cases ended : triggerScheduling detector env.pass (putRegistered s body env task) with
              | mk key rest =>
                  rw [ended] at pass
                  simp only [putRegistered] at ended
                  cases key with
                  | some key =>
                      simp only [ended]
                      exact pass _ (by simp)
                  | none =>
                      simp only [ended]
                      exact pass _ (by simp)

theorem submitTask_submitted (detector : Detector) (s : Globals) (body : TaskRequest)
    (env : SubmitEnv) : Submitted detector s body env (submitTask detector body env s) := by
  unfold submitTask
  cases named : Priority.ofName? (upper body.priority) with
  | none =>
      refine .refused 422 _ (by decide) ?_
      rintro ⟨valid, _⟩
      simp [named] at valid
  | some priority =>
      have valid : (Priority.ofName? (upper body.priority)).isSome = true := by simp [named]
      cases client : body.clientId with
      | none =>
          have generated : taskIdOf body env = env.generatedId.text := by simp [taskIdOf, client]
          simp only [← generated]
          exact registerTask_submitted rfl valid (by simp [client])
      | some taskId =>
          have supplied : taskIdOf body env = taskId := by simp [taskIdOf, client]
          simp only
          split
          · rename_i duplicate
            refine .refused 422 _ (by decide) ?_
            rintro ⟨_, unused, _⟩
            rw [unused taskId client] at duplicate
            cases duplicate
          · rename_i unstored
            simp only [← supplied] at unstored ⊢
            apply registerTask_submitted rfl valid
            intro other isClient
            rw [client] at isClient
            cases isClient
            simpa [supplied] using unstored

end Outcome

/-! ## What a cancellation and a completion do -/

section Ends
variable (detector : Detector) (taskId : String) (s : Globals)

inductive Cancelled : Response × Globals → Prop
  | refused (status : Nat) (detail : Detail) (otherwise : status ≠ 409) :
      Cancelled (.httpError status detail, s)
  | cancelled (message : String) (ref : TaskRef) (task : Task)
      (found : s.taskStore.find? taskId = some (ref, task))
      (notEnded : task.status = .pending ∨ task.status = .rejected) :
      Cancelled (.cancelled message taskId, (s.setStatus ref .rejected).removeFromDetector taskId)

/-- The completion pipeline, up to the scheduling pass. -/
def finished (ref : TaskRef) : Globals :=
  ((s.setStatus ref .completed).release ref).removeFromDetector taskId

inductive Completed (env : PassEnv) : Response × Globals → Prop
  | unchanged (response : Response) (otherwise : ∀ detail, response ≠ .httpError 409 detail)
      (inactive : ∀ ref task, s.taskStore.find? taskId = some (ref, task) →
        task.status ≠ .pending ∧ task.status ≠ .running) : Completed env (response, s)
  | completed (response : Response) (ref : TaskRef) (task : Task)
      (answered : ∀ status detail, response ≠ .httpError status detail)
      (found : s.taskStore.find? taskId = some (ref, task))
      (notEnded : task.status = .pending ∨ task.status = .running) :
      Completed env (response, (triggerScheduling detector env (finished taskId s ref)).2)

theorem cancelTask_cancelled : Cancelled taskId s (cancelTask taskId s) := by
  unfold cancelTask
  cases found : s.taskStore.find? taskId with
  | none => exact .refused 404 _ (by decide)
  | some pair =>
      obtain ⟨ref, task⟩ := pair
      simp only
      split
      · exact .refused 400 _ (by decide)
      · rename_i notRunning
        split
        · exact .refused 400 _ (by decide)
        · rename_i notEnded
          refine .cancelled _ ref task found ?_
          cases status : task.status <;> simp_all

theorem completeTask_completed (env : PassEnv) :
    Completed detector taskId s env (completeTask detector taskId env s) := by
  unfold completeTask
  cases found : s.taskStore.find? taskId with
  | none => exact .unchanged _ (by simp [notFound]) (by simp [found])
  | some pair =>
      obtain ⟨ref, task⟩ := pair
      simp only
      split
      · rename_i completed
        exact .unchanged _ (by simp) (by simp [found, completed])
      · rename_i notCompleted
        split
        · rename_i ended
          refine .unchanged _ (by simp) ?_
          rcases ended with rejected | failed
          · simp [found, rejected]
          · simp [found, failed]
        · rename_i notEnded
          have active : task.status = .pending ∨ task.status = .running := by
            cases status : task.status <;> simp_all
          have pass : ∀ response, (∀ status detail, response ≠ .httpError status detail) →
              Completed detector taskId s env
                (response, (triggerScheduling detector env (finished taskId s ref)).2) :=
            fun response answered => .completed response ref task answered found active
          cases ended : triggerScheduling detector env (finished taskId s ref) with
          | mk key rest =>
              rw [ended] at pass
              simp only [finished] at ended
              cases key with
              | some key =>
                  simp only [ended]
                  exact pass _ (by simp)
              | none =>
                  simp only [ended]
                  exact pass _ (by simp)

end Ends

end CloudOS.Gateway.TaskService
