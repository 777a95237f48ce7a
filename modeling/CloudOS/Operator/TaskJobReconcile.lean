import CloudOS.Kubernetes.Objects
import CloudOS.Lib.CallProgram

/-!
# The TaskJob reconciler

`internal/controller/taskjob_controller.go` as a program of API calls.  Each
`r.Get`, `r.List`, `r.Create`, `r.Status().Update` and `time.Now` is one call;
everything between two calls is a pure step.  `resource.MustParse` belongs to
the Kubernetes libraries and is the parameter `parseQuantity`, which fails
where the original panics.
-/

set_option autoImplicit false

namespace CloudOS.Operator.TaskJobReconcile

open CloudOS.Kubernetes.Objects
open CloudOS.Lib.CallProgram

/-- `unset` is the empty string of a status nobody has written. -/
inductive TaskPhase where
  | unset
  | queued
  | running
  | completed
  | failed
  deriving DecidableEq, Repr

def TaskPhase.terminal (phase : TaskPhase) : Prop :=
  phase = .completed ∨ phase = .failed

structure TaskJobSpec where
  image : String
  command : List String
  args : List String
  priority : String
  algorithm : String
  cpuRequest : String
  memoryRequest : String
  dependsOn : List String
  env : List EnvVar
  deriving DecidableEq, Repr

/-- `startTime` and `endTime` are the RFC 3339 strings, kept as the instants
they print; an empty string is `none`. -/
structure TaskJobStatus where
  phase : TaskPhase
  podName : String
  startTime : Option Nat
  endTime : Option Nat
  exitCode : Int
  message : String
  deriving DecidableEq, Repr

def TaskJobStatus.zero : TaskJobStatus := ⟨.unset, "", none, none, 0, ""⟩

structure TaskJob where
  key : ObjectKey
  resourceVersion : Nat
  spec : TaskJobSpec
  status : TaskJobStatus
  deriving DecidableEq, Repr

inductive Call where
  | getTaskJob (key : ObjectKey)
  | listPods (ns taskId : String)
  | createPod (pod : Pod)
  | updateStatus (taskJob : TaskJob)
  | now

def Answer : Call → Type
  | .getTaskJob _ => Except ApiError TaskJob
  | .listPods _ _ => Except ApiError (List Pod)
  | .createPod _ => Except ApiError Unit
  | .updateStatus _ => Except ApiError Unit
  | .now => Nat

def getTaskJob (key : ObjectKey) : Prog Call Answer (Except ApiError TaskJob) :=
  perform (Call.getTaskJob key)

def listPods (ns taskId : String) : Prog Call Answer (Except ApiError (List Pod)) :=
  perform (Call.listPods ns taskId)

def createPod (pod : Pod) : Prog Call Answer (Except ApiError Unit) :=
  perform (Call.createPod pod)

def updateStatus (taskJob : TaskJob) : Prog Call Answer (Except ApiError Unit) :=
  perform (Call.updateStatus taskJob)

def timeNow : Prog Call Answer Nat := perform Call.now

/-- `ctrl.Result{RequeueAfter: d}, nil`, or `ctrl.Result{}, err`, or a panic. -/
inductive Exit where
  | done (requeueAfter : Nat)
  | failed (err : ApiError)
  | panicked
  deriving DecidableEq, Repr

def taskIdLabel : String := "cloudos.io/task-id"

def checkDependencies (ns : String) :
    List String → Prog Call Answer (Except ApiError Bool)
  | [] => return .ok true
  | depName :: rest => do
      match ← getTaskJob ⟨ns, depName⟩ with
      | .error err => return .error err
      | .ok dep =>
          if dep.status.phase ≠ .completed then return .ok false
          else checkDependencies ns rest

def findPod (tj : TaskJob) : Prog Call Answer (Except ApiError (Option Pod)) := do
  match ← listPods tj.key.ns tj.key.name with
  | .error err => return .error err
  | .ok items => return .ok items.head?

section BuildPod
variable (parseQuantity : String → Option ℚ)

def orDefault (value fallback : String) : String :=
  if value = "" then fallback else value

def buildEnv (tj : TaskJob) : List EnvVar :=
  [⟨"CLOUDOS_TASK_ID", tj.key.name⟩,
   ⟨"CLOUDOS_NAMESPACE", tj.key.ns⟩,
   ⟨"CLOUDOS_PRIORITY", tj.spec.priority⟩,
   ⟨"CLOUDOS_ALGORITHM", tj.spec.algorithm⟩,
   ⟨"REDIS_URL", "redis://redis-svc:6379"⟩] ++ tj.spec.env

def podNameOf (tj : TaskJob) : String := "taskjob-" ++ tj.key.name

/-- `none` where `resource.MustParse` panics. -/
def buildPod (tj : TaskJob) : Option Pod := do
  let cpu ← parseQuantity (orDefault tj.spec.cpuRequest "500m")
  let memory ← parseQuantity (orDefault tj.spec.memoryRequest "256Mi")
  return {
    key := ⟨tj.key.ns, podNameOf tj⟩
    uid := 0
    labels := ((StringMap.empty.set taskIdLabel tj.key.name).set
      "cloudos.io/priority" tj.spec.priority).set "app" "cloudos-worker"
    annotations := .empty
    owner := some ⟨"TaskJob", tj.key.name⟩
    deleting := false
    spec := {
      restartPolicy := "Never"
      containers := [{
        name := "task-runner"
        image := tj.spec.image
        command := tj.spec.command
        args := tj.spec.args
        env := buildEnv tj
        volumeMounts := []
        imagePullPolicy := some "IfNotPresent"
        resources := ⟨some ⟨some cpu, some memory⟩, some ⟨some cpu, some memory⟩⟩ }]
      activeDeadlineSeconds := none
      terminationGracePeriodSeconds := none }
    status := .fresh }

end BuildPod

def writeStatus (tj : TaskJob) (status : TaskJobStatus) (exit : Exit) :
    Prog Call Answer Exit := do
  match ← updateStatus { tj with status := status } with
  | .error err => return .failed err
  | .ok () => return exit

def syncStatus (tj : TaskJob) (pod : Pod) : Prog Call Answer Exit :=
  match pod.status.phase with
  | .running => do
      let startTime ← match tj.status.startTime with
        | none => do
            let now ← timeNow
            pure (some now)
        | some started => pure (some started)
      writeStatus tj { tj.status with
        phase := .running, message := "Pod is running", startTime := startTime } (.done 5)
  | .succeeded => do
      let now ← timeNow
      writeStatus tj { tj.status with
        phase := .completed, endTime := some now,
        message := "Task completed successfully", exitCode := 0 } (.done 0)
  | .failed => do
      let now ← timeNow
      writeStatus tj { tj.status with
        phase := .failed, endTime := some now, message := "Pod failed" } (.done 0)
  | .pending =>
      writeStatus tj { tj.status with
        phase := .queued, message := "Pod pending scheduling" } (.done 5)
  | .unknown => return .done 10

section Reconcile
variable (parseQuantity : String → Option ℚ)

/-- The branch of `Reconcile` taken when no pod carries the task's label. -/
def startPod (tj : TaskJob) : Prog Call Answer Exit :=
  if tj.spec.image = "" then
    writeStatus tj { tj.status with
      phase := .failed, message := "No image specified" } (.done 0)
  else match buildPod parseQuantity tj with
    | none => return .panicked
    | some pod => do
        match ← createPod pod with
        | .error err =>
            -- the error of `Create` is returned even when the status write succeeds
            writeStatus tj { tj.status with
              phase := .failed, message := "Pod creation failed: " ++ err.message }
              (.failed err)
        | .ok () =>
            writeStatus tj { tj.status with
              phase := .running, podName := pod.key.name } (.done 5)

def reconcile (key : ObjectKey) : Prog Call Answer Exit := do
  match ← getTaskJob key with
  | .error err =>
      if err.reason = .notFound then return .done 0 else return .failed err
  | .ok taskJob =>
      if taskJob.status.phase = .completed ∨ taskJob.status.phase = .failed then
        return .done 0
      else do
        match ← checkDependencies taskJob.key.ns taskJob.spec.dependsOn with
        | .error err => return .failed err
        | .ok false =>
            writeStatus taskJob { taskJob.status with
              phase := .queued, message := "Waiting for dependencies" } (.done 10)
        | .ok true =>
            match ← findPod taskJob with
            | .error err => return .failed err
            | .ok none => startPod parseQuantity taskJob
            | .ok (some existingPod) => syncStatus taskJob existingPod

end Reconcile

end CloudOS.Operator.TaskJobReconcile
