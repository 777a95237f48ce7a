import CloudOS.Lib.CallProgram
import Mathlib.Data.Rat.Defs

/-!
# The worker

`worker/runner.py` as a program of calls: commands to Redis, the clock, and the
subprocess that runs the task's command.  A call that raises answers with the
traceback.  Standard output is left out.

The loop over the output of the subprocess may go on for ever, so `main` stops
after a number of lines; what it has called by then is what the worker has
called.
-/

set_option autoImplicit false

namespace CloudOS.Worker.Runner

open CloudOS.Lib.CallProgram

inductive Status where
  | running
  | completed
  | failed
  deriving DecidableEq, Repr

/-- The objects that are written as JSON. -/
inductive Data where
  | log (taskId : String) (timestamp : ℚ) (message : String)
  | status (taskId : String) (status : Status) (timestamp : ℚ) (exitCode : Option Int)
  deriving DecidableEq

inductive Call where
  | connect (url : String)
  | time
  | rpush (key : String) (entry : Data)
  | set (key : String) (data : Data)
  | publish (channel : String) (data : Data)
  | popen (command : String)
  | readline
  | wait
  deriving DecidableEq

/-- At its end the output has no further line. -/
def Answer : Call → Type
  | .connect _ => Except String Unit
  | .time => ℚ
  | .rpush _ _ => Except String Unit
  | .set _ _ => Except String Unit
  | .publish _ _ => Except String Unit
  | .popen _ => Except String Unit
  | .readline => Except String (Option String)
  | .wait => Except String Int

abbrev Action (α : Type) : Type := ExceptT String (Prog Call Answer) α

def connect (url : String) : Action Unit := ExceptT.mk (perform (Call.connect url))

def time : Action ℚ := ExceptT.lift (perform Call.time)

def rpush (key : String) (entry : Data) : Action Unit :=
  ExceptT.mk (perform (Call.rpush key entry))

def set (key : String) (data : Data) : Action Unit := ExceptT.mk (perform (Call.set key data))

def publish (channel : String) (data : Data) : Action Unit :=
  ExceptT.mk (perform (Call.publish channel data))

def popen (command : String) : Action Unit := ExceptT.mk (perform (Call.popen command))

def readline : Action (Option String) := ExceptT.mk (perform Call.readline)

def wait : Action Int := ExceptT.mk (perform Call.wait)

/-! ## The functions of the file -/

def logKey (taskId : String) : String := "cloudos:logs" ++ ":" ++ taskId

def statusKey (taskId : String) : String := "cloudos:status" ++ ":" ++ taskId

def log (taskId message : String) : Action Unit := do
  let timestamp ← time
  let entry := Data.log taskId timestamp message
  rpush (logKey taskId) entry
  publish "cloudos:events" entry

def setStatus (taskId : String) (status : Status) (exitCode : Option Int) : Action Unit := do
  let timestamp ← time
  let data := Data.status taskId status timestamp exitCode
  set (statusKey taskId) data
  publish "cloudos:events" data

def isSpace (c : Char) : Bool :=
  let n := c.toNat
  (9 ≤ n && n ≤ 13) || (28 ≤ n && n ≤ 32) || n = 0x85 || n = 0xA0 || n = 0x1680 ||
    (0x2000 ≤ n && n ≤ 0x200A) || n = 0x2028 || n = 0x2029 || n = 0x202F || n = 0x205F ||
    n = 0x3000

def strip (text : String) : String :=
  String.ofList (((text.toList.dropWhile isSpace).reverse.dropWhile isSpace).reverse)

/-- Whether the output came to its end within `fuel` lines. -/
def readLines (taskId : String) : Nat → Action Bool
  | 0 => return false
  | fuel + 1 => do
      match ← readline with
      | none => return true
      | some line =>
          log taskId (strip line)
          readLines taskId fuel

/-- The `try` block. -/
def runProcess (fuel : Nat) (taskId command : String) : Action Unit := do
  popen command
  if ← readLines taskId fuel then
    let exitCode ← wait
    if exitCode = 0 then
      log taskId "Task completed successfully"
      setStatus taskId .completed (some 0)
    else
      log taskId ("Task failed with exit code " ++ toString exitCode)
      setStatus taskId .failed (some exitCode)

/-- The `try` statement. -/
def guarded (fuel : Nat) (taskId command : String) : Action Unit :=
  tryCatch (runProcess fuel taskId command) fun traceback => do
    log taskId ("Exception: " ++ traceback)
    setStatus taskId .failed (some 1)

def runTask (fuel : Nat) (taskId command : String) : Action Unit := do
  log taskId ("Starting task: " ++ command)
  setStatus taskId .running none
  guarded fuel taskId command

def taskIdOf (environ : String → Option String) : String :=
  (environ "CLOUDOS_TASK_ID").getD "unknown"

def commandOf (environ : String → Option String) : String :=
  (environ "CLOUDOS_COMMAND").getD "echo 'No command specified'"

def main (fuel : Nat) (environ : String → Option String) : Action Unit := do
  connect ((environ "REDIS_URL").getD "redis://redis-svc:6379")
  runTask fuel (taskIdOf environ) (commandOf environ)

/-! ## What is reported, and as which task -/

/-- Keys and contents of what is written are those of the task. -/
def Call.Under (taskId : String) : Call → Prop
  | .rpush key entry => key = logKey taskId ∧ ∃ timestamp message, entry = .log taskId timestamp message
  | .set key data => key = statusKey taskId ∧
      ∃ status timestamp exitCode, data = .status taskId status timestamp exitCode
  | .publish _ data => (∃ timestamp message, data = .log taskId timestamp message) ∨
      ∃ status timestamp exitCode, data = .status taskId status timestamp exitCode
  | _ => True

section Calls
variable {α β : Type} {allowed : Call → Prop}

theorem calls_bind {x : Action α} {f : α → Action β} (first : x.run.Calls allowed)
    (rest : ∀ value, (f value).run.Calls allowed) : (x >>= f).run.Calls allowed := by
  refine Prog.Calls.bind first ?_
  intro result
  cases result with
  | error traceback => trivial
  | ok value => exact rest value

theorem calls_tryCatch {x : Action α} {handler : String → Action α} (first : x.run.Calls allowed)
    (rest : ∀ traceback, (handler traceback).run.Calls allowed) :
    (tryCatch x handler).run.Calls allowed := by
  refine Prog.Calls.bind first ?_
  intro result
  cases result with
  | error traceback => exact rest traceback
  | ok value => trivial

theorem calls_time (here : allowed .time) : time.run.Calls allowed :=
  Prog.Calls.bind ⟨here, fun _ => trivial⟩ fun _ => trivial

end Calls

section Under
variable (taskId : String)

theorem log_under (message : String) : (log taskId message).run.Calls (Call.Under taskId) := by
  refine calls_bind (calls_time trivial) ?_
  intro timestamp
  refine calls_bind ⟨⟨rfl, timestamp, message, rfl⟩, fun _ => trivial⟩ ?_
  intro _
  exact ⟨.inl ⟨timestamp, message, rfl⟩, fun _ => trivial⟩

theorem setStatus_under (status : Status) (exitCode : Option Int) :
    (setStatus taskId status exitCode).run.Calls (Call.Under taskId) := by
  refine calls_bind (calls_time trivial) ?_
  intro timestamp
  refine calls_bind ⟨⟨rfl, status, timestamp, exitCode, rfl⟩, fun _ => trivial⟩ ?_
  intro _
  exact ⟨.inr ⟨status, timestamp, exitCode, rfl⟩, fun _ => trivial⟩

theorem report_under (message : String) (status : Status) (exitCode : Option Int) :
    (do log taskId message; setStatus taskId status exitCode : Action Unit).run.Calls
      (Call.Under taskId) :=
  calls_bind (log_under taskId message) fun _ => setStatus_under taskId status exitCode

theorem readLines_under (fuel : Nat) :
    (readLines taskId fuel).run.Calls (Call.Under taskId) := by
  induction fuel with
  | zero => trivial
  | succ fuel ih =>
      refine calls_bind ⟨trivial, fun _ => trivial⟩ ?_
      intro line
      cases line with
      | none => trivial
      | some line => exact calls_bind (log_under taskId _) fun _ => ih

theorem runProcess_under (fuel : Nat) (command : String) :
    (runProcess fuel taskId command).run.Calls (Call.Under taskId) := by
  refine calls_bind ⟨trivial, fun _ => trivial⟩ ?_
  intro _
  refine calls_bind (readLines_under taskId fuel) ?_
  intro ended
  cases ended with
  | false => trivial
  | true =>
      refine calls_bind ⟨trivial, fun _ => trivial⟩ ?_
      intro exitCode
      by_cases succeeded : exitCode = 0
      · rw [if_pos succeeded]
        exact report_under taskId _ _ _
      · rw [if_neg succeeded]
        exact report_under taskId _ _ _

theorem runTask_under (fuel : Nat) (command : String) :
    (runTask fuel taskId command).run.Calls (Call.Under taskId) := by
  refine calls_bind (log_under taskId _) ?_
  intro _
  refine calls_bind (setStatus_under taskId _ _) ?_
  intro _
  exact calls_tryCatch (runProcess_under taskId fuel command) fun traceback =>
    report_under taskId _ _ _

theorem main_under (fuel : Nat) (environ : String → Option String) :
    (main fuel environ).run.Calls (Call.Under (taskIdOf environ)) :=
  calls_bind ⟨trivial, fun _ => trivial⟩ fun _ => runTask_under _ fuel _

end Under

end CloudOS.Worker.Runner
