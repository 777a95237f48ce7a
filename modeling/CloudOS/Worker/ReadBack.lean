import CloudOS.Storage.TaskStreams
import CloudOS.Worker.OwnReports

/-!
# What the tasks of the workers are read back as

Any number of workers write their logs and states to one Redis, in any order of
their calls, and `RedisStreamStore` reads them.  A worker whose task has an id of
its own is read back as if it were alone; when it has finished, the logs are its
command, the lines of the process and how the process ended, and the status is
that of the end.
-/

set_option autoImplicit false

namespace CloudOS.Worker.ReadBack

open CloudOS.Kubernetes.Objects
open CloudOS.Lib.CallProgram
open CloudOS.Lib.JsonText
open CloudOS.Lib.TypedKeys
open CloudOS.Storage.TaskStreams (Record Redis Text getLogs getStatus logKey_inj
  logKey_ne_statusKey statusKey_inj)
open CloudOS.Worker.OwnReports
open CloudOS.Worker.Runner

/-! ## The objects as JSON -/

def statusText : Status → String
  | .running => "running"
  | .completed => "completed"
  | .failed => "failed"

section Server
variable {F : Type} (floats : Floats F) (stamp : ℚ → F)

def encode : Data → Value F
  | .log taskId timestamp message =>
      .dict [("task_id", .text taskId), ("timestamp", .float (stamp timestamp)),
        ("message", .text message)]
  | .status taskId status timestamp exitCode =>
      .dict ([("task_id", .text taskId), ("status", .text (statusText status)),
        ("timestamp", .float (stamp timestamp))] ++
          (exitCode.map fun code => ("exit_code", .int code)).toList)

def writeOf : Call → Option (Command String Text Record)
  | .rpush key entry => some (.rpush key (dumps floats (encode stamp entry)))
  | .set key data => some (.set key (dumps floats (encode stamp data)))
  | _ => none

variable {ι : Type}

def server (merged : List (ι × Call)) : Redis :=
  run (merged.filterMap fun entry => writeOf floats stamp entry.2)

end Server

def logged : Call → Option Data
  | .rpush _ entry => some entry
  | _ => none

def stated : Call → Option Data
  | .set _ data => some data
  | _ => none

/-! ## Several workers -/

section Workers
variable {ι : Type} [DecidableEq ι]

def own (i : ι) (merged : List (ι × Call)) : List Call :=
  merged.filterMap fun entry => if entry.1 = i then some entry.2 else none

/-- The workers' containers and how their calls turn out. -/
structure Workers (ι : Type) where
  container : ι → Container
  run : ι → Run

def Workers.taskId (workers : Workers ι) (i : ι) : String :=
  taskIdOf (environ (workers.container i) (workers.run i).image)

def Workers.command (workers : Workers ι) (i : ι) : String :=
  commandOf (environ (workers.container i) (workers.run i).image)

def Workers.calls (workers : Workers ι) (i : ι) : List Call :=
  (workers.run i).calls (workers.container i)

/-- Each worker has made the calls of a part of its run, in their order. -/
def Workers.Interleaved (workers : Workers ι) (merged : List (ι × Call)) : Prop :=
  ∀ i, own i merged <+: workers.calls i

theorem mem_own {merged : List (ι × Call)} {entry : ι × Call} (member : entry ∈ merged) :
    entry.2 ∈ own entry.1 merged :=
  List.mem_filterMap.mpr ⟨entry, member, if_pos rfl⟩

omit [DecidableEq ι] in
theorem Workers.calls_under (workers : Workers ι) (i : ι) :
    ∀ call ∈ workers.calls i, call.Under (workers.taskId i) := by
  have program : (main (workers.run i).lines
      (environ (workers.container i) (workers.run i).image)).run.Ensures (fun _ _ => True)
        (Call.Under (workers.taskId i)) fun _ => True :=
    (main_under _ _).ensures
  exact program.trace (fun _ _ => trivial) (fun _ none_ => absurd none_ List.not_mem_nil)

theorem Workers.Interleaved.under {workers : Workers ι} {merged : List (ι × Call)}
    (interleaved : workers.Interleaved merged) :
    ∀ entry ∈ merged, entry.2.Under (workers.taskId entry.1) :=
  fun entry member => workers.calls_under entry.1 _ ((interleaved entry.1).subset (mem_own member))

theorem filterMap_own {X Y : Type} (view : Call → Option X) (write : X → Y) (i : ι)
    (merged : List (ι × Call)) :
    (merged.filterMap fun entry => if entry.1 = i then (view entry.2).map write else none) =
      ((own i merged).filterMap view).map write := by
  rw [own, List.filterMap_filterMap, List.map_filterMap]
  congr 1
  funext entry
  split <;> rfl

/-! ## A task of its own is kept apart -/

section Apart
variable {F : Type} (floats : Floats F) (stamp : ℚ → F) {workers : Workers ι}
  {merged : List (ι × Call)}

theorem statusKey_eq (taskId : String) :
    statusKey taskId = CloudOS.Storage.TaskStreams.statusKey taskId := rfl

theorem items_server (distinct : Function.Injective workers.taskId)
    (interleaved : workers.Interleaved merged) (i : ι) :
    items (logKey (workers.taskId i)) (server floats stamp merged) =
      some (((own i merged).filterMap logged).map fun data => dumps floats (encode stamp data)) := by
  rw [← filterMap_own]
  refine items_run_rpush ⟨?_, ?_⟩
  · rintro ⟨j, call⟩ member made written here
    have under := interleaved.under _ member
    cases call with
    | rpush key entry =>
        obtain rfl := Option.some.inj written
        have same : i = j := distinct (logKey_inj (here.symm.trans under.1))
        exact ⟨_, if_pos same.symm, by rw [← here]; rfl⟩
    | set key data =>
        obtain rfl := Option.some.inj written
        have clash := here.symm.trans under.1
        rw [statusKey_eq] at clash
        exact absurd clash (logKey_ne_statusKey _ _)
    | _ => cases written
  · rintro ⟨j, call⟩ member elsewhere
    have under := interleaved.under _ member
    cases call with
    | rpush key entry =>
        have other : j ≠ i := by
          rintro rfl
          exact elsewhere _ rfl under.1
        exact if_neg other
    | _ => exact ite_self none

theorem get_server (distinct : Function.Injective workers.taskId)
    (interleaved : workers.Interleaved merged) (i : ι) :
    get (statusKey (workers.taskId i)) (server floats stamp merged) =
      some (((own i merged).filterMap stated).getLast?.map
        fun data => dumps floats (encode stamp data)) := by
  rw [← List.getLast?_map, ← filterMap_own]
  refine get_run ⟨?_, ?_⟩
  · rintro ⟨j, call⟩ member made written here
    have under := interleaved.under _ member
    cases call with
    | rpush key entry =>
        obtain rfl := Option.some.inj written
        have clash := under.1.symm.trans here
        rw [statusKey_eq] at clash
        exact absurd clash (logKey_ne_statusKey _ _)
    | set key data =>
        obtain rfl := Option.some.inj written
        have same : i = j := distinct (statusKey_inj (here.symm.trans under.1))
        exact ⟨_, if_pos same.symm, by rw [← here]; rfl⟩
    | _ => cases written
  · rintro ⟨j, call⟩ member elsewhere
    have under := interleaved.under _ member
    cases call with
    | set key data =>
        have other : j ≠ i := by
          rintro rfl
          exact elsewhere _ rfl under.1
        exact if_neg other
    | _ => exact ite_self none

end Apart

end Workers

/-! ## What one run says -/

def messageOf : Call → Option String
  | .rpush _ (.log _ _ message) => some message
  | _ => none

def stateOf : Call → Option (Status × Option Int)
  | .set _ (.status _ status _ exitCode) => some (status, exitCode)
  | _ => none

/-- What further calls add to the logs, to the states and to the lines read. -/
structure Adds (issued later : List Call) (messages : List String)
    (states : List (Status × Option Int)) (read : Nat) : Prop where
  messages : later.filterMap messageOf = issued.filterMap messageOf ++ messages
  states : later.filterMap stateOf = issued.filterMap stateOf ++ states
  read : later.count .readline = issued.count .readline + read

theorem Adds.trans {issued between later : List Call} {messages messages' : List String}
    {states states' : List (Status × Option Int)} {read read' : Nat}
    (first : Adds issued between messages states read)
    (second : Adds between later messages' states' read') :
    Adds issued later (messages ++ messages') (states ++ states') (read + read') where
  messages := by rw [second.messages, first.messages, List.append_assoc]
  states := by rw [second.states, first.states, List.append_assoc]
  read := by rw [second.read, first.read, Nat.add_assoc]

theorem Adds.silent (call : Call) (message : messageOf call = none) (state : stateOf call = none)
    (issued : List Call) :
    Adds issued (issued ++ [call]) [] [] (if call = .readline then 1 else 0) where
  messages := by simp [message]
  states := by simp [state]
  read := by simp [List.count_singleton]

/-- How the process behaves: whether it starts, its lines, whether its output then
ends, and its exit code; an error is the traceback of what is raised there. -/
structure Process where
  started : Except String Unit
  lines : List String
  ended : Except String Unit
  waited : Except String Int

def Process.next (process : Process) (n : Nat) : Except String (Option String) :=
  match process.lines[n]? with
  | some line => .ok (some line)
  | none => process.ended.map fun _ => none

structure Process.Answers (process : Process) (run : Run) : Prop where
  popen : ∀ issued command, run.answers issued (.popen command) = process.started
  readline : ∀ issued, run.answers issued .readline = process.next (issued.count .readline)
  wait : ∀ issued, run.answers issued .wait = process.waited

def Process.outcome (process : Process) : Except String Int := do
  process.started
  process.ended
  process.waited

def Process.output (process : Process) : List String :=
  match process.started with
  | .ok _ => process.lines.map strip
  | .error _ => []

def closing : Except String Int → String × Status × Int
  | .error traceback => ("Exception: " ++ traceback, .failed, 1)
  | .ok exitCode =>
      if exitCode = 0 then ("Task completed successfully", .completed, 0)
      else ("Task failed with exit code " ++ toString exitCode, .failed, exitCode)

def Process.Closes (process : Process) (issued : List Call)
    (result : Except String Unit × List Call) : Prop :=
  ∃ later read, result = (.ok (), later) ∧
    Adds issued later (process.output ++ [(closing process.outcome).1])
      [((closing process.outcome).2.1, some (closing process.outcome).2.2)] read

section Runs
variable {run : Run}

theorem eval_bind_error {α β S : Type} {handle : (call : Call) → S → Answer call × S} {x : Action α}
    {f : α → Action β} {before later : S} {traceback : String}
    (first : x.run.eval handle before = (.error traceback, later)) :
    (x >>= f).run.eval handle before = (.error traceback, later) := by
  show (x.run >>= ExceptT.bindCont f).eval handle before = _
  rw [eval_bind, first]
  rfl

theorem eval_tryCatch_ok {α S : Type} {handle : (call : Call) → S → Answer call × S} {x : Action α}
    {handler : String → Action α} {before later : S} {value : α}
    (first : x.run.eval handle before = (.ok value, later)) :
    (tryCatch x handler).run.eval handle before = (.ok value, later) := by
  show (x.run >>= _).eval handle before = _
  rw [eval_bind, first]
  rfl

theorem eval_tryCatch_error {α S : Type} {handle : (call : Call) → S → Answer call × S}
    {x : Action α} {handler : String → Action α} {before later : S} {traceback : String}
    (first : x.run.eval handle before = (.error traceback, later)) :
    (tryCatch x handler).run.eval handle before = (handler traceback).run.eval handle later := by
  show (x.run >>= _).eval handle before = _
  rw [eval_bind, first]
  rfl

section Reports
variable (answering : run.RedisAnswers)
include answering

theorem log_adds (taskId message : String) (issued : List Call) :
    ∃ later, (log taskId message).run.eval (record run.answers) issued = (.ok (), later) ∧
      Adds issued later [message] [] 0 := by
  obtain ⟨timestamp, told⟩ := log_eval answering taskId message issued
  refine ⟨_, told, ?_, ?_, ?_⟩
  · simp only [List.filterMap_append, List.append_assoc]
    rfl
  · simp [stateOf]
  · simp

theorem setStatus_adds (taskId : String) (status : Status) (exitCode : Option Int)
    (issued : List Call) :
    ∃ later, (setStatus taskId status exitCode).run.eval (record run.answers) issued =
        (.ok (), later) ∧ Adds issued later [] [(status, exitCode)] 0 := by
  obtain ⟨timestamp, told⟩ := setStatus_eval answering taskId status exitCode issued
  refine ⟨_, told, ?_, ?_, ?_⟩
  · simp [messageOf]
  · simp only [List.filterMap_append, List.append_assoc]
    rfl
  · simp

theorem report_adds (taskId message : String) (status : Status) (exitCode : Option Int)
    (issued : List Call) :
    ∃ later, (do log taskId message; setStatus taskId status exitCode : Action Unit).run.eval
        (record run.answers) issued = (.ok (), later) ∧
      Adds issued later [message] [(status, exitCode)] 0 := by
  obtain ⟨between, said, adds⟩ := log_adds answering taskId message issued
  obtain ⟨later, told, more⟩ := setStatus_adds answering taskId status exitCode between
  exact ⟨later, (eval_bind_ok said).trans told, adds.trans more⟩

variable {process : Process} (behaves : process.Answers run)
include behaves

theorem readLines_adds (taskId : String) (fuel : Nat) (issued : List Call)
    (enough : process.lines.length < issued.count .readline + fuel)
    (within : issued.count .readline ≤ process.lines.length) :
    ∃ later read, (readLines taskId fuel).run.eval (record run.answers) issued =
        (process.ended.map fun _ => true, later) ∧
      Adds issued later ((process.lines.drop (issued.count .readline)).map strip) [] read := by
  induction fuel generalizing issued with
  | zero => omega
  | succ fuel ih =>
      have answer := behaves.readline issued
      have read : readline.run.eval (record run.answers) issued =
          (process.next (issued.count .readline), issued ++ [.readline]) := congrArg (·, _) answer
      have counted := Adds.silent .readline rfl rfl issued
      rcases Nat.lt_or_ge (issued.count .readline) process.lines.length with more | over_
      · have line : process.next (issued.count .readline) =
            .ok (some process.lines[issued.count .readline]) := by
          rw [Process.next, List.getElem?_eq_getElem more]
        rw [line] at read
        obtain ⟨between, said, adds⟩ := log_adds answering taskId
          (strip process.lines[issued.count .readline]) (issued ++ [.readline])
        have soFar := counted.trans adds
        have position := soFar.read
        simp only [if_true, Nat.add_zero] at position
        obtain ⟨later, further, rest, addsRest⟩ := ih between (by omega) (by omega)
        have whole := soFar.trans addsRest
        rw [position] at whole
        rw [List.drop_eq_getElem_cons more, List.map_cons]
        exact ⟨later, _, (eval_bind_ok read).trans ((eval_bind_ok said).trans rest), whole⟩
      · have line : process.next (issued.count .readline) = process.ended.map fun _ => none := by
          rw [Process.next, List.getElem?_eq_none over_]
        rw [line] at read
        rw [List.drop_eq_nil_of_le over_]
        refine ⟨issued ++ [.readline], 1, ?_, counted⟩
        cases ended : process.ended with
        | error traceback =>
            rw [ended] at read
            exact eval_bind_error read
        | ok _ =>
            rw [ended] at read
            exact eval_bind_ok read

omit behaves in
theorem raised_closes {taskId command : String} {fuel : Nat} {issued between : List Call} {read : Nat}
    {traceback : String}
    (failing : (runProcess fuel taskId command).run.eval (record run.answers) issued =
      (.error traceback, between)) (adds : Adds issued between process.output [] read)
    (outcome : process.outcome = .error traceback) :
    process.Closes issued ((guarded fuel taskId command).run.eval (record run.answers) issued) := by
  obtain ⟨later, told, more⟩ :=
    report_adds answering taskId ("Exception: " ++ traceback) .failed (some 1) between
  rw [Process.Closes, outcome]
  exact ⟨later, _, (eval_tryCatch_error failing).trans told, adds.trans more⟩

theorem guarded_closes (taskId command : String) {fuel : Nat} {issued : List Call}
    (unread : issued.count .readline = 0) (enough : process.lines.length < fuel) :
    process.Closes issued ((guarded fuel taskId command).run.eval (record run.answers) issued) := by
  have opened : (popen command).run.eval (record run.answers) issued =
      (process.started, issued ++ [.popen command]) := congrArg (·, _) (behaves.popen _ _)
  have begun := Adds.silent (.popen command) rfl rfl issued
  have counted := begun.read
  rw [unread, if_neg (by rintro ⟨⟩)] at counted
  cases started : process.started with
  | error traceback =>
      have output : process.output = [] := by rw [Process.output, started]
      rw [started] at opened
      rw [← output] at begun
      exact raised_closes answering (eval_bind_error opened) begun
        (by rw [Process.outcome, started]; rfl)
  | ok _ =>
      have output : process.output = process.lines.map strip := by rw [Process.output, started]
      rw [started] at opened
      obtain ⟨between, read, lines, adds⟩ := readLines_adds answering behaves taskId fuel
        (issued ++ [.popen command]) (by omega) (by omega)
      rw [counted, List.drop_zero, ← output] at adds
      have soFar := begun.trans adds
      cases ended : process.ended with
      | error traceback =>
          rw [ended] at lines
          exact raised_closes answering ((eval_bind_ok opened).trans (eval_bind_error lines)) soFar
            (by rw [Process.outcome, started, ended]; rfl)
      | ok _ =>
          rw [ended] at lines
          have outcome : process.outcome = process.waited := by
            rw [Process.outcome, started, ended]
            rfl
          have waited : wait.run.eval (record run.answers) between =
              (process.waited, between ++ [.wait]) := congrArg (·, _) (behaves.wait _)
          have upToWait := soFar.trans (Adds.silent .wait rfl rfl between)
          rw [List.nil_append, List.append_nil] at upToWait
          cases result : process.waited with
          | error traceback =>
              rw [result] at waited outcome
              exact raised_closes answering ((eval_bind_ok opened).trans
                ((eval_bind_ok lines).trans (eval_bind_error waited))) upToWait outcome
          | ok exitCode =>
              rw [result] at waited outcome
              have reached : (runProcess fuel taskId command).run.eval (record run.answers) issued =
                  (if exitCode = 0 then do
                    log taskId "Task completed successfully"
                    setStatus taskId .completed (some 0)
                  else do
                    log taskId ("Task failed with exit code " ++ toString exitCode)
                    setStatus taskId .failed (some exitCode) : Action Unit).run.eval
                      (record run.answers) (between ++ [.wait]) :=
                (eval_bind_ok opened).trans ((eval_bind_ok lines).trans (eval_bind_ok waited))
              rw [Process.Closes, outcome, closing]
              by_cases zero : exitCode = 0
              · obtain ⟨later, told, more⟩ := report_adds answering taskId
                  "Task completed successfully" .completed (some 0) (between ++ [.wait])
                rw [if_pos zero] at reached ⊢
                exact ⟨later, _, eval_tryCatch_ok (reached.trans told), upToWait.trans more⟩
              · obtain ⟨later, told, more⟩ := report_adds answering taskId
                  ("Task failed with exit code " ++ toString exitCode) .failed (some exitCode)
                  (between ++ [.wait])
                rw [if_neg zero] at reached ⊢
                exact ⟨later, _, eval_tryCatch_ok (reached.trans told), upToWait.trans more⟩

theorem main_says (environ : String → Option String) (enough : process.lines.length < run.lines) :
    ((main run.lines environ).run.trace run.answers []).filterMap messageOf =
        ("Starting task: " ++ commandOf environ) ::
          (process.output ++ [(closing process.outcome).1]) ∧
      ((main run.lines environ).run.trace run.answers []).filterMap stateOf =
        [(.running, none),
          ((closing process.outcome).2.1, some (closing process.outcome).2.2)] := by
  let url := (environ "REDIS_URL").getD "redis://redis-svc:6379"
  have connected : (connect url).run.eval (record run.answers) [] = (.ok (), [.connect url]) :=
    congrArg (·, _) (answering.connect _ _)
  obtain ⟨greeted, said, first⟩ := log_adds answering (taskIdOf environ)
    ("Starting task: " ++ commandOf environ) [.connect url]
  obtain ⟨told, stated, second⟩ := setStatus_adds answering (taskIdOf environ) .running none greeted
  have beginning := first.trans second
  obtain ⟨later, read, closed, rest⟩ := guarded_closes answering behaves (taskIdOf environ)
    (commandOf environ) beginning.read enough
  have whole : (main run.lines environ).run.eval (record run.answers) [] = (.ok (), later) :=
    (eval_bind_ok connected).trans
      ((eval_bind_ok said).trans ((eval_bind_ok stated).trans closed))
  have all := beginning.trans rest
  rw [Prog.trace, whole]
  exact ⟨all.messages, all.states⟩

end Reports

end Runs

theorem Workers.calls_say {ι : Type} (workers : Workers ι) {i : ι} {process : Process}
    (answering : (workers.run i).RedisAnswers) (behaves : process.Answers (workers.run i))
    (enough : process.lines.length < (workers.run i).lines) :
    (workers.calls i).filterMap messageOf =
        ("Starting task: " ++ workers.command i) ::
          (process.output ++ [(closing process.outcome).1]) ∧
      (workers.calls i).filterMap stateOf =
        [(.running, none), ((closing process.outcome).2.1, some (closing process.outcome).2.2)] :=
  main_says answering behaves _ enough

/-! ## Reading it back -/

section Decoded
variable {F : Type} (floats : Floats F) (stamp : ℚ → F) {taskId : String} {calls : List Call}

theorem logged_messages (under : ∀ call ∈ calls, call.Under taskId) :
    ((calls.filterMap logged).map fun data => (encode stamp data).get? "message") =
      (calls.filterMap messageOf).map fun message => some (.text message) := by
  rw [List.map_filterMap, List.map_filterMap]
  refine List.filterMap_congr ?_
  intro call member
  cases call with
  | rpush key entry =>
      obtain ⟨_, timestamp, message, rfl⟩ := under _ member
      rfl
  | _ => rfl

theorem stated_states (under : ∀ call ∈ calls, call.Under taskId) :
    ((calls.filterMap stated).map fun data =>
        ((encode stamp data).get? "status", (encode stamp data).get? "exit_code")) =
      (calls.filterMap stateOf).map fun state =>
        (some (.text (statusText state.1)), state.2.map .int) := by
  rw [List.map_filterMap, List.map_filterMap]
  refine List.filterMap_congr ?_
  intro call member
  cases call with
  | set key data =>
      obtain ⟨_, status, timestamp, exitCode, rfl⟩ := under _ member
      cases exitCode <;> rfl
  | _ => rfl

/-- What the store reads of a task: the messages of its log, and its last status
with the exit code. -/
structure Reads (taskId : String) (r : Redis) (messages : List String) (status : Status)
    (exitCode : Int) : Prop where
  logs : ∃ logs, getLogs floats taskId r = some logs ∧
    logs.map (Value.get? "message") = messages.map fun message => some (.text message)
  status : ∃ value, getStatus floats taskId r = some (some value) ∧
    value.get? "status" = some (.text (statusText status)) ∧
    value.get? "exit_code" = some (.int exitCode)

/-- Whatever the other workers do, a finished worker with a task id of its own is
read back with its command, the lines of its process and the end of it, and is
completed exactly when its process has exited with code 0. -/
theorem finished_worker_read_back {ι : Type} [DecidableEq ι] (workers : Workers ι)
    (distinct : Function.Injective workers.taskId)
    (answering : ∀ i, (workers.run i).RedisAnswers) (merged : List (ι × Call))
    (interleaved : workers.Interleaved merged) (i : ι) (finished : own i merged = workers.calls i)
    (process : Process) (behaves : process.Answers (workers.run i))
    (enough : process.lines.length < (workers.run i).lines) :
    Reads floats (workers.taskId i) (server floats stamp merged)
      (("Starting task: " ++ workers.command i) ::
        (process.output ++ [(closing process.outcome).1]))
      (closing process.outcome).2.1 (closing process.outcome).2.2 := by
  obtain ⟨messages, states⟩ := workers.calls_say (answering i) behaves enough
  have under := workers.calls_under i
  have logs := items_server floats stamp distinct interleaved i
  have status := get_server floats stamp distinct interleaved i
  rw [finished] at logs status
  constructor
  · refine ⟨((workers.calls i).filterMap logged).map (encode stamp), ?_, ?_⟩
    · have texts : items (CloudOS.Storage.TaskStreams.logKey (workers.taskId i))
          (server floats stamp merged) =
          some ((((workers.calls i).filterMap logged).map (encode stamp)).map (dumps floats)) := by
        rw [List.map_map]
        exact logs
      rw [getLogs, texts, Option.bind_some, mapM_loads_dumps]
    · rw [List.map_map, ← messages]
      exact logged_messages stamp under
  · have last := congrArg List.getLast? (stated_states stamp under)
    rw [List.getLast?_map, states] at last
    obtain ⟨data, isLast, same⟩ := Option.map_eq_some_iff.mp last
    obtain ⟨statusIs, codeIs⟩ := Prod.mk.inj same
    rw [isLast, Option.map_some, statusKey_eq] at status
    refine ⟨encode stamp data, ?_, statusIs, codeIs⟩
    have written : dumps floats (encode stamp data) ≠ [] := by
      obtain ⟨c, rest, shape, _⟩ := dumps_head floats (encode stamp data)
      rw [shape]
      exact List.cons_ne_nil c rest
    rw [getStatus, status]
    simp only [Option.bind_some, if_neg written, loads_dumps, Option.map_some]

end Decoded

/-! ### Two workers that take turns -/

/-- A run in which the clock stands still, Redis answers and the process behaves
as it is given. -/
def Process.run (process : Process) : Run where
  image := fun _ => none
  lines := process.lines.length + 1
  answers := fun issued call =>
    match call with
    | .connect _ => .ok ()
    | .time => (0 : ℚ)
    | .rpush _ _ => .ok ()
    | .set _ _ => .ok ()
    | .publish _ _ => .ok ()
    | .popen _ => process.started
    | .readline => process.next (issued.count .readline)
    | .wait => process.waited

/-- One process prints two lines and fails, the other prints a line and succeeds. -/
def talking (i : Bool) : Process :=
  if i then ⟨.ok (), ["one\n", "  two \n"], .ok (), .ok 3⟩
  else ⟨.ok (), ["done\n"], .ok (), .ok 0⟩

def twoWorkers : Workers Bool where
  container i := ⟨"worker", "", [], [], [⟨"CLOUDOS_TASK_ID", if i then "a" else "b"⟩,
    ⟨"CLOUDOS_COMMAND", "sh job.sh"⟩], [], none, ⟨none, none⟩⟩
  run i := (talking i).run

def inTurn : List Call → List Call → List (Bool × Call)
  | call :: rest, other :: others => (true, call) :: (false, other) :: inTurn rest others
  | [], others => others.map (false, ·)
  | rest, [] => rest.map (true, ·)

theorem own_inTurn (first second : List Call) (i : Bool) :
    own i (inTurn first second) = if i then first else second := by
  induction first generalizing second with
  | nil => cases i <;> simp [own, inTurn, List.filterMap_map]
  | cons call rest ih =>
      cases second with
      | nil => cases i <;> simp [own, inTurn, List.filterMap_map]
      | cons other others =>
          have later := ih others
          cases i <;> simpa [own, inTurn] using later

def takingTurns : List (Bool × Call) := inTurn (twoWorkers.calls true) (twoWorkers.calls false)

theorem talking_workers_read_back :
    Reads Floats.zero "a" (server Floats.zero (fun _ => ()) takingTurns)
        ["Starting task: sh job.sh", "one", "two", "Task failed with exit code 3"] .failed 3 ∧
      Reads Floats.zero "b" (server Floats.zero (fun _ => ()) takingTurns)
        ["Starting task: sh job.sh", "done", "Task completed successfully"] .completed 0 := by
  have distinct : Function.Injective twoWorkers.taskId := by
    intro i j same
    cases i <;> cases j <;> first | rfl | exact absurd same (by decide)
  have whole : ∀ i, own i takingTurns = twoWorkers.calls i := by
    intro i
    rw [takingTurns, own_inTurn]
    cases i <;> rfl
  have readBack := fun i => finished_worker_read_back Floats.zero (fun _ => ()) twoWorkers distinct
    (fun _ => ⟨fun _ _ => rfl, fun _ _ _ => rfl, fun _ _ _ => rfl, fun _ _ _ => rfl⟩) takingTurns
    (fun j => by rw [whole j]) i (whole i) (talking i)
    ⟨fun _ _ => rfl, fun _ => rfl, fun _ => rfl⟩ (Nat.lt_succ_self _)
  exact ⟨readBack true, readBack false⟩

end CloudOS.Worker.ReadBack
