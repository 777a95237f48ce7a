import CloudOS.Lib.CallProgram
import CloudOS.Orchestrator.CircuitBreaker
import Mathlib.Algebra.Group.Int.Defs
import Mathlib.Algebra.Group.Nat.Defs

/-!
# The Module 1 gRPC client

`module2-orchestrator/pkg/grpc/module1_client.go` as programs over the critical
sections of the breaker, the connection, the remote stub and the clock.  Log
lines are left out.  The protobuf messages have the fields of the client's own
request and response types, so one type stands for both.
-/

set_option autoImplicit false

namespace CloudOS.Orchestrator.Module1Client

open CloudOS.Lib.CallProgram
open CloudOS.Lib.History
open CloudOS.Orchestrator.CircuitBreaker

/-! ## Messages and errors -/

structure SubmitTaskRequest where
  taskID : String
  tenantID : String
  image : String
  command : List String
  cpuRequest : String
  memoryRequest : String
  priority : Int
  timeoutSeconds : Int
  deriving DecidableEq, Repr

structure SubmitTaskResponse where
  accepted : Bool
  queuePosition : Int
  estimatedStartSeconds : Int
  reason : String
  deriving DecidableEq, Repr

structure TaskStatusResponse where
  taskID : String
  status : String
  podName : String
  startedAt : Int
  completedAt : Int
  exitCode : Int
  deriving DecidableEq, Repr

structure CancelTaskResponse where
  cancelled : Bool
  reason : String
  deriving DecidableEq, Repr

structure QueueDepthResponse where
  totalQueued : Int
  pendingTasks : Int
  runningTasks : Int
  deriving DecidableEq, Repr

inductive Rpc where
  | submitTask (req : SubmitTaskRequest)
  | getTaskStatus (taskId tenantId : String)
  | cancelTask (taskId tenantId : String)
  | getQueueDepth
  deriving DecidableEq, Repr

def Rpc.Reply : Rpc → Type
  | .submitTask _ => SubmitTaskResponse
  | .getTaskStatus _ _ => TaskStatusResponse
  | .cancelTask _ _ => CancelTaskResponse
  | .getQueueDepth => QueueDepthResponse

structure RpcError where
  code : String
  message : String
  deriving DecidableEq, Repr

inductive ContextError where
  | canceled
  | deadlineExceeded
  deriving DecidableEq, Repr

inductive AttemptError where
  | rpc (err : RpcError)
  | cancellationRejected (reason : String)
  deriving DecidableEq, Repr

/-- `exhausted` wraps the last error, which is nil if no attempt was made. -/
inductive CallError where
  | notConnected
  | connectFailed (attempts : Int)
  | circuitOpen (err : CircuitOpenError)
  | contextDone (err : ContextError)
  | exhausted (attempts : Int) (lastErr : Option AttemptError)
  deriving DecidableEq, Repr

def AttemptError.text : AttemptError → String
  | .rpc err => "rpc error: code = " ++ err.code ++ " desc = " ++ err.message
  | .cancellationRejected reason => "task cancellation rejected: " ++ reason

/-- The printed form of a duration is the parameter. -/
def CallError.text (showDuration : Int → String) : CallError → String
  | .notConnected => "client not connected"
  | .connectFailed attempts =>
      "failed to connect to Module 1 after " ++ toString attempts ++ " attempts"
  | .circuitOpen err =>
      "circuit breaker is open (failed " ++ toString err.failed ++
        " consecutive times, recover in " ++ showDuration err.recoverIn ++ ")"
  | .contextDone .canceled => "context canceled"
  | .contextDone .deadlineExceeded => "context deadline exceeded"
  | .exhausted attempts lastErr =>
      "gRPC call failed after " ++ toString attempts ++ " attempts: " ++
        (lastErr.map AttemptError.text).getD "%!w(<nil>)"

inductive ConnState where
  | idle
  | connecting
  | ready
  | transientFailure
  | shutdown
  deriving DecidableEq, Repr

def ConnState.failing : ConnState → Bool
  | .transientFailure => true
  | .shutdown => true
  | _ => false

/-! ## Operations -/

/-- `getState` answers none for a nil connection; `dialContext` answers whether
the error was nil; `awaitBackoff` is the `select` between the timer and the
context, and answers none for the timer. -/
inductive Op where
  | getState
  | dialContext
  | install
  | sleep (d : Int)
  | checkCircuitBreaker
  | invoke (rpc : Rpc)
  | awaitBackoff (d : Int)
  | recordSuccess
  | recordFailure

def Res : Op → Type
  | .getState => Option ConnState
  | .dialContext => Bool
  | .install => Unit
  | .sleep _ => Unit
  | .checkCircuitBreaker => Option CircuitOpenError
  | .invoke rpc => Except RpcError rpc.Reply
  | .awaitBackoff _ => Option ContextError
  | .recordSuccess => Unit
  | .recordFailure => Unit

def getState : Prog Op Res (Option ConnState) := perform Op.getState

def dialContext : Prog Op Res Bool := perform Op.dialContext

def install : Prog Op Res Unit := perform Op.install

def sleep (d : Int) : Prog Op Res Unit := perform (Op.sleep d)

def doCheck : Prog Op Res (Option CircuitOpenError) := perform Op.checkCircuitBreaker

def invoke (rpc : Rpc) : Prog Op Res (Except RpcError rpc.Reply) := perform (Op.invoke rpc)

def awaitBackoff (d : Int) : Prog Op Res (Option ContextError) :=
  perform (Op.awaitBackoff d)

def doRecordSuccess : Prog Op Res Unit := perform Op.recordSuccess

def doRecordFailure : Prog Op Res Unit := perform Op.recordFailure

/-! ## Connecting -/

/-- Arithmetic on `time.Duration` wraps around. -/
def wrapInt64 (n : Int) : Int := n.bmod (2 ^ 64)

/-- The iterations of `connectWithRetry` from `attempt` on. -/
def connectLoop (config : ClientConfig) : Nat → Nat → Prog Op Res (Option CallError)
  | 0, _ => return some (.connectFailed config.maxRetries)
  | left + 1, attempt => do
      if ← dialContext then
        install
        return none
      else if left = 0 then connectLoop config left (attempt + 1)
      else
        sleep (wrapInt64 (config.retryBackoff * wrapInt64 (2 ^ (attempt - 1))))
        connectLoop config left (attempt + 1)

def connectWithRetry (config : ClientConfig) : Prog Op Res (Option CallError) :=
  connectLoop config config.maxRetries.toNat 1

def ensureConnected (config : ClientConfig) : Prog Op Res (Option CallError) := do
  match ← getState with
  | none => return some .notConnected
  | some state => if state.failing then connectWithRetry config else return none

/-! ## Calling -/

section Call
variable {α : Type} (config : ClientConfig) (callFunc : Prog Op Res (Except AttemptError α))

/-- The iterations of `callWithRetry` that are left, with the next backoff and
the last error.  The last iteration does not wait. -/
def callLoop : Nat → Int → Option AttemptError → Prog Op Res (Except CallError α)
  | 0, _, lastErr => do
      doRecordFailure
      return .error (.exhausted (config.maxRetries + 1) lastErr)
  | left + 1, backoffDuration, _ => do
      match ← callFunc with
      | .ok response => do
          doRecordSuccess
          return .ok response
      | .error err =>
          if left = 0 then callLoop left backoffDuration (some err)
          else
            match ← awaitBackoff backoffDuration with
            | none => callLoop left (wrapInt64 (backoffDuration * 2)) (some err)
            | some done => return .error (.contextDone done)

def callWithRetry : Prog Op Res (Except CallError α) := do
  match ← doCheck with
  | some err => return .error (.circuitOpen err)
  | none => callLoop config callFunc (config.maxRetries + 1).toNat config.retryBackoff none

end Call

/-- The closures handed to `callWithRetry`: they differ in the procedure and in
what they make of its reply. -/
def attemptRpc {α : Type} (rpc : Rpc) (judge : rpc.Reply → Except AttemptError α) :
    Prog Op Res (Except AttemptError α) := do
  match ← invoke rpc with
  | .error err => return .error (.rpc err)
  | .ok reply => return judge reply

def remoteCall {α : Type} (config : ClientConfig) (rpc : Rpc)
    (judge : rpc.Reply → Except AttemptError α) : Prog Op Res (Except CallError α) := do
  match ← ensureConnected config with
  | some err => return .error err
  | none => callWithRetry config (attemptRpc rpc judge)

inductive Response where
  | submitted (response : SubmitTaskResponse)
  | taskStatus (response : TaskStatusResponse)
  | cancelled
  | queueDepth (response : QueueDepthResponse)
  deriving DecidableEq, Repr

/-- A rejected submission is a response like any other. -/
def submitTask (config : ClientConfig) (req : SubmitTaskRequest) :
    Prog Op Res (Except CallError Response) :=
  remoteCall config (.submitTask req) fun reply => .ok (.submitted reply)

def getTaskStatus (config : ClientConfig) (taskID : String) :
    Prog Op Res (Except CallError Response) :=
  remoteCall config (.getTaskStatus taskID "") fun reply => .ok (.taskStatus reply)

def judgeCancel (reply : CancelTaskResponse) : Except AttemptError Response :=
  if !reply.cancelled then .error (.cancellationRejected reply.reason) else .ok .cancelled

/-- A rejected cancellation is an error of the attempt. -/
def cancelTask (config : ClientConfig) (taskID : String) :
    Prog Op Res (Except CallError Response) :=
  remoteCall config (.cancelTask taskID "") judgeCancel

def getQueueDepth (config : ClientConfig) : Prog Op Res (Except CallError Response) :=
  remoteCall config .getQueueDepth fun reply => .ok (.queueDepth reply)

inductive Request where
  | submitTask (req : SubmitTaskRequest)
  | getTaskStatus (taskID : String)
  | cancelTask (taskID : String)
  | getQueueDepth
  deriving DecidableEq, Repr

def clientCall (config : ClientConfig) : Request → Prog Op Res (Except CallError Response)
  | .submitTask req => submitTask config req
  | .getTaskStatus taskID => getTaskStatus config taskID
  | .cancelTask taskID => cancelTask config taskID
  | .getQueueDepth => getQueueDepth config

def Request.rpc : Request → Rpc
  | .submitTask req => .submitTask req
  | .getTaskStatus taskID => .getTaskStatus taskID ""
  | .cancelTask taskID => .cancelTask taskID ""
  | .getQueueDepth => .getQueueDepth

def Request.judge : (request : Request) → request.rpc.Reply → Except AttemptError Response
  | .submitTask _ => fun reply => .ok (.submitted reply)
  | .getTaskStatus _ => fun reply => .ok (.taskStatus reply)
  | .cancelTask _ => judgeCancel
  | .getQueueDepth => fun reply => .ok (.queueDepth reply)

def Request.callFunc (request : Request) : Prog Op Res (Except AttemptError Response) :=
  attemptRpc request.rpc request.judge

theorem clientCall_eq (config : ClientConfig) (request : Request) :
    clientCall config request = remoteCall config request.rpc request.judge := by
  cases request <;> rfl

end CloudOS.Orchestrator.Module1Client
