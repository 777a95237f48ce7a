import CloudOS.Kubernetes.Objects
import CloudOS.Lib.Binary64
import CloudOS.Lib.CallProgram
import CloudOS.Lib.Rounding
import Mathlib.Algebra.Group.Nat.Defs

/-!
# The CloudTask reconciler

`module2-orchestrator/controllers/cloudtask_controller.go` as a program of API
calls, in the order in which `Reconcile` issues them.  Log lines and recorded
events are left out.  `resource.ParseQuantity` belongs to the Kubernetes
libraries and is the parameter `parseQuantity`.
-/

set_option autoImplicit false

namespace CloudOS.Orchestrator.CloudTaskReconcile

open CloudOS.Kubernetes.Objects
open CloudOS.Lib.Binary64
open CloudOS.Lib.CallProgram
open CloudOS.Lib.Rounding

/-- `unset` is the empty string of a status nobody has written. -/
inductive CloudTaskPhase where
  | unset
  | pending
  | running
  | completed
  | failed
  deriving DecidableEq, Repr

/-- `ResourceList` of the CRD: an empty string is a resource left out. -/
structure ResourceTexts where
  cpu : String
  memory : String
  deriving DecidableEq, Repr

structure TaskResources where
  requests : Option ResourceTexts
  limits : Option ResourceTexts
  deriving DecidableEq, Repr

structure CloudTaskSpec where
  image : String
  command : List String
  args : List String
  resources : Option TaskResources
  retries : Int
  timeout : String
  tenantID : String
  priority : Int
  env : List EnvVar
  volumeMounts : List VolumeMount
  labels : StringMap
  annotations : StringMap

structure CloudTaskStatus where
  phase : CloudTaskPhase
  podName : String
  startTime : Option Nat
  completionTime : Option Nat
  retryCount : Int
  message : String
  lastUpdateTime : Option Nat
  deriving DecidableEq, Repr

def CloudTaskStatus.zero : CloudTaskStatus := ⟨.unset, "", none, none, 0, "", none⟩

structure CloudTask where
  key : ObjectKey
  uid : Nat
  resourceVersion : Nat
  deletionTimestamp : Option Nat
  finalizers : List String
  spec : CloudTaskSpec
  status : CloudTaskStatus

inductive Call where
  | getCloudTask (key : ObjectKey)
  | updateCloudTask (cloudTask : CloudTask)
  | updateStatus (cloudTask : CloudTask)
  | getPod (key : ObjectKey)
  | createPod (pod : Pod)
  | deletePod (key : ObjectKey)
  | now

/-- Both updates answer with the object as the server now has it. -/
def Answer : Call → Type
  | .getCloudTask _ => Except ApiError CloudTask
  | .updateCloudTask _ => Except ApiError CloudTask
  | .updateStatus _ => Except ApiError CloudTask
  | .getPod _ => Except ApiError Pod
  | .createPod _ => Except ApiError Unit
  | .deletePod _ => Except ApiError Unit
  | .now => Nat

def getCloudTask (key : ObjectKey) : Prog Call Answer (Except ApiError CloudTask) :=
  perform (Call.getCloudTask key)

def updateCloudTask (cloudTask : CloudTask) : Prog Call Answer (Except ApiError CloudTask) :=
  perform (Call.updateCloudTask cloudTask)

def updateStatus (cloudTask : CloudTask) : Prog Call Answer (Except ApiError CloudTask) :=
  perform (Call.updateStatus cloudTask)

def getPod (key : ObjectKey) : Prog Call Answer (Except ApiError Pod) :=
  perform (Call.getPod key)

def createPod (pod : Pod) : Prog Call Answer (Except ApiError Unit) :=
  perform (Call.createPod pod)

def deletePod (key : ObjectKey) : Prog Call Answer (Except ApiError Unit) :=
  perform (Call.deletePod key)

def timeNow : Prog Call Answer Nat := perform Call.now

/-- `ctrl.Result{RequeueAfter: d}, err` -/
structure Exit where
  requeueAfter : Nat
  err : Option ApiError
  deriving DecidableEq, Repr

def Exit.done (requeueAfter : Nat) : Exit := ⟨requeueAfter, none⟩

def Exit.failed (err : ApiError) : Exit := ⟨0, some err⟩

def cloudTaskFinalizerKey : String := "tasks.orchestrator.dev/finalizer"

/-! ## `time.ParseDuration` -/

def durationUnit : List Char → Option Nat
  | ['n', 's'] => some 1
  | ['u', 's'] => some 1000
  | ['µ', 's'] => some 1000
  | ['μ', 's'] => some 1000
  | ['m', 's'] => some 1000000
  | ['s'] => some 1000000000
  | ['m'] => some 60000000000
  | ['h'] => some 3600000000000
  | _ => none

def digitsValue (digits : List Char) : Nat :=
  digits.foldl (fun value c => 10 * value + (c.toNat - '0'.toNat)) 0

/-- The terms `[0-9]*(\.[0-9]*)?[a-z]+` one after another; a term that does not
fit 63 bits is an error.  A fraction is cut to whole nanoseconds. -/
def durationTerms : Nat → Nat → List Char → Option Nat
  | _, total, [] => some total
  | 0, _, _ :: _ => none
  | fuel + 1, total, text => do
      let whole := text.takeWhile Char.isDigit
      let afterWhole := text.dropWhile Char.isDigit
      let fraction := match afterWhole with
        | '.' :: rest => rest.takeWhile Char.isDigit
        | _ => []
      let afterFraction := match afterWhole with
        | '.' :: rest => rest.dropWhile Char.isDigit
        | _ => afterWhole
      if whole = [] ∧ fraction = [] then none
      else
        let isUnit := fun c : Char => c ≠ '.' ∧ ¬ c.isDigit
        let unit ← durationUnit (afterFraction.takeWhile isUnit)
        let value := digitsValue whole * unit +
          digitsValue fraction * unit / 10 ^ fraction.length
        if 2 ^ 63 < total + value then none
        else durationTerms fuel (total + value) (afterFraction.dropWhile isUnit)

/-- In nanoseconds; `none` is a parse error. -/
def parseDuration (text : String) : Option Int :=
  let unsigned := fun chars : List Char =>
    if chars = ['0'] then some 0
    else if chars = [] then none
    else durationTerms chars.length 0 chars
  match text.toList with
  | '-' :: rest => (unsigned rest).map fun d => -(d : Int)
  | '+' :: rest => (unsigned rest).bind fun d => if d < 2 ^ 63 then some (d : Int) else none
  | chars => (unsigned chars).bind fun d => if d < 2 ^ 63 then some (d : Int) else none

/-! ## `constructPod` -/

section ConstructPod
variable (parseQuantity : String → Option ℚ)

/-- `utils.ParseQuantity`: an unparsable text is the zero quantity. -/
def utilsParseQuantity (text : String) : ℚ := (parseQuantity text).getD 0

def resourceList (texts : ResourceTexts) : ResourceList where
  cpu := if texts.cpu ≠ "" then some (utilsParseQuantity parseQuantity texts.cpu) else none
  memory :=
    if texts.memory ≠ "" then some (utilsParseQuantity parseQuantity texts.memory) else none

def podResources : Option TaskResources → ResourceRequirements
  | none => ⟨none, none⟩
  | some resources =>
      ⟨resources.requests.map (resourceList parseQuantity),
       resources.limits.map (resourceList parseQuantity)⟩

def podNameFor (name : String) : String := name ++ "-pod"

/-- User labels are copied last and win over the three system labels. -/
def podLabels (key : ObjectKey) (spec : CloudTaskSpec) : StringMap :=
  (((StringMap.empty.set "cloudtask-name" key.name).set "tenant-id" spec.tenantID).set
    "priority" (toString spec.priority)).merge spec.labels

/-- `int64(d.Seconds())`, or five minutes without a readable timeout. -/
def activeDeadline (timeout : String) : Int :=
  if timeout = "" then 300
  else match parseDuration timeout with
    | some nanoseconds => truncate (seconds64 nanoseconds)
    | none => 300

def constructPod (cloudTask : CloudTask) : Pod where
  key := ⟨cloudTask.key.ns, podNameFor cloudTask.key.name⟩
  uid := 0
  labels := podLabels cloudTask.key cloudTask.spec
  annotations := StringMap.empty.merge cloudTask.spec.annotations
  owner := none
  deleting := false
  spec := {
    restartPolicy := "Never"
    containers := [{
      name := "task-container"
      image := cloudTask.spec.image
      command := cloudTask.spec.command
      args := cloudTask.spec.args
      env := cloudTask.spec.env
      volumeMounts := cloudTask.spec.volumeMounts
      imagePullPolicy := none
      resources := podResources parseQuantity cloudTask.spec.resources }]
    activeDeadlineSeconds := some (activeDeadline cloudTask.spec.timeout)
    terminationGracePeriodSeconds := some 30 }
  status := .fresh

/-- `controllerutil.SetControllerReference`, which cannot fail for an owner in
the pod's namespace. -/
def setControllerReference (cloudTask : CloudTask) (pod : Pod) : Pod :=
  { pod with owner := some ⟨"CloudTask", cloudTask.key.name⟩ }

end ConstructPod

/-! ## Status from the pod -/

def failureReason (status : PodStatus) : String :=
  let reason := if status.reason ≠ "" then status.reason else "Unknown"
  match status.containerStatuses with
  | { terminated := some terminatedReason } :: _ => terminatedReason
  | _ => reason

/-- The `switch` of `updateStatusFromPod`; `none` leaves `updated` false. -/
def observedStatus (status : CloudTaskStatus) (pod : PodStatus) (now : Nat) :
    Option CloudTaskStatus :=
  match pod.phase with
  | .running =>
      if status.phase ≠ .running then
        some { status with phase := .running, message := "Pod is running" }
      else none
  | .succeeded =>
      if status.phase ≠ .completed then
        some { status with
          phase := .completed, completionTime := some now, message := "Pod succeeded" }
      else none
  | .failed =>
      if status.phase ≠ .failed then
        some { status with
          phase := .failed, completionTime := some now,
          message := "Pod failed: " ++ failureReason pod }
      else none
  | .pending =>
      if status.phase ≠ .running ∧ status.phase ≠ .pending then
        some { status with phase := .pending, message := "Pod is pending" }
      else none
  | .unknown => none

/-- Reading the clock has no effect, so it is read before the `switch` also
for the branches that do not use it. -/
def updateStatusFromPod (cloudTask : CloudTask) (pod : Pod) :
    Prog Call Answer (CloudTask × Bool) := do
  let now ← timeNow
  match observedStatus cloudTask.status pod.status now with
  | none => return (cloudTask, false)
  | some status => do
      let lastUpdate ← timeNow
      return ({ cloudTask with
        status := { status with lastUpdateTime := some lastUpdate } }, true)

/-! ## `Reconcile` -/

def deleteExternalResources (cloudTask : CloudTask) :
    Prog Call Answer (Option ApiError) :=
  if cloudTask.status.podName = "" then return none
  else do
    let podKey : ObjectKey := ⟨cloudTask.key.ns, cloudTask.status.podName⟩
    match ← getPod podKey with
    | .error err => if err.reason = .notFound then return none else return some err
    | .ok _ =>
        match ← deletePod podKey with
        | .error err => return some err
        | .ok () => return none

def reconcileDeletion (cloudTask : CloudTask) : Prog Call Answer Exit :=
  if cloudTaskFinalizerKey ∈ cloudTask.finalizers then do
    match ← deleteExternalResources cloudTask with
    | some err => return .failed err
    | none =>
        match ← updateCloudTask { cloudTask with
            finalizers := cloudTask.finalizers.filter (· ≠ cloudTaskFinalizerKey) } with
        | .error err => return .failed err
        | .ok _ => return .done 0
  else return .done 0

def ensureFinalizer (cloudTask : CloudTask) :
    Prog Call Answer (Except ApiError CloudTask) :=
  if cloudTaskFinalizerKey ∈ cloudTask.finalizers then return .ok cloudTask
  else updateCloudTask { cloudTask with
    finalizers := cloudTask.finalizers ++ [cloudTaskFinalizerKey] }

/-- `none` is both the empty `Pod` of a task without pod name and the nil of a
pod that is gone. -/
def lookupPod (cloudTask : CloudTask) : Prog Call Answer (Except ApiError (Option Pod)) :=
  if cloudTask.status.podName = "" then return .ok none
  else do
    match ← getPod ⟨cloudTask.key.ns, cloudTask.status.podName⟩ with
    | .error err => if err.reason = .notFound then return .ok none else return .error err
    | .ok pod => return .ok (some pod)

def retriedStatus (cloudTask : CloudTask) : CloudTaskStatus :=
  let attempt := cloudTask.status.retryCount + 1
  { cloudTask.status with
    phase := .pending
    retryCount := attempt
    podName := ""
    message := "Retrying (attempt " ++ toString attempt ++ "/" ++
      toString cloudTask.spec.retries ++ ")" }

def startedStatus (cloudTask : CloudTask) (podName : String) (now : Nat) : CloudTaskStatus :=
  { cloudTask.status with
    phase := .running
    podName := podName
    startTime := some now
    message := "Pod created and running" }

/-- The `switch` on the phase after the status has been brought up to date. -/
def actOnPhase (cloudTask : CloudTask) : Prog Call Answer Exit :=
  match cloudTask.status.phase with
  | .completed => return .done 0
  | .failed =>
      if cloudTask.status.retryCount < cloudTask.spec.retries then do
        match ← updateStatus { cloudTask with status := retriedStatus cloudTask } with
        | .error err => return .failed err
        | .ok _ => return .done 5
      else return .done 0
  | _ => return .done 30

def reconcileWithPod (cloudTask : CloudTask) (pod : Pod) : Prog Call Answer Exit := do
  match ← updateStatusFromPod cloudTask pod with
  | (current, false) => actOnPhase current
  | (current, true) =>
      match ← updateStatus current with
      | .error err => return .failed err
      | .ok written => actOnPhase written

section Reconcile
variable (parseQuantity : String → Option ℚ)

def reconcileWithoutPod (cloudTask : CloudTask) : Prog Call Answer Exit :=
  if cloudTask.status.phase = .unset ∨ cloudTask.status.phase = .pending then do
    let newPod := setControllerReference cloudTask (constructPod parseQuantity cloudTask)
    match ← createPod newPod with
    | .error err => return ⟨10, some err⟩
    | .ok () => do
        let now ← timeNow
        match ← updateStatus { cloudTask with
            status := startedStatus cloudTask newPod.key.name now } with
        | .error err => return .failed err
        | .ok _ => return .done 30
  else return .done 30

def reconcile (key : ObjectKey) : Prog Call Answer Exit := do
  match ← getCloudTask key with
  | .error err =>
      if err.reason = .notFound then return .done 0 else return .failed err
  | .ok cloudTask =>
      if cloudTask.deletionTimestamp.isSome then reconcileDeletion cloudTask
      else do
        match ← ensureFinalizer cloudTask with
        | .error err => return .failed err
        | .ok owned =>
            match ← lookupPod owned with
            | .error err => return .failed err
            | .ok (some pod) => reconcileWithPod owned pod
            | .ok none => reconcileWithoutPod parseQuantity owned

end Reconcile

end CloudOS.Orchestrator.CloudTaskReconcile
