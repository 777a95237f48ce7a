import CloudOS.Lib.Patterns

/-!
# The validators of the task API

`module2-orchestrator/pkg/api/validators/task_validator.go` and the request of
`pkg/api/types.go`.  A nil error is `none`.  In Go's regular expressions `\d` is
an ASCII digit and `$` the end of the text.
-/

set_option autoImplicit false

namespace CloudOS.Orchestrator.TaskValidator

open CloudOS.Lib.Patterns
open RegularExpression

/-! ## Requests -/

/-- An empty string is a resource left out. -/
structure ResourceListReq where
  cpu : String
  memory : String
  deriving DecidableEq, Repr

structure ResourceRequirementsReq where
  requests : Option ResourceListReq
  limits : Option ResourceListReq
  deriving DecidableEq, Repr

structure CreateCloudTaskRequest where
  name : String
  image : String
  command : List String
  args : List String
  tenantID : String
  resources : Option ResourceRequirementsReq
  retries : Int
  timeout : String
  priority : Int
  deriving DecidableEq, Repr

structure ValidationError where
  field : String
  message : String
  deriving DecidableEq, Repr

/-! ## Patterns -/

def digits : List Char := "0123456789".toList

def lowers : List Char := "abcdefghijklmnopqrstuvwxyz".toList

def uppers : List Char := "ABCDEFGHIJKLMNOPQRSTUVWXYZ".toList

/-- `(?:[a-z0-9]|[._-])+` -/
def imageName : Pattern := oneOrMore (oneOf (lowers ++ digits ++ ['.', '_', '-']))

/-- `(?::[a-zA-Z0-9_][a-zA-Z0-9_.-]{0,127})?` -/
def imageTag : Pattern :=
  optional (char ':' * (oneOf (lowers ++ uppers ++ digits ++ ['_']) *
    atMost 127 (oneOf (lowers ++ uppers ++ digits ++ ['_', '.', '-']))))

/-- A registry, with an optional port, before the name or not. -/
def imageRegex : Pattern :=
  imageName * (optional (char ':' * oneOrMore (oneOf digits)) *
    (char '/' * (imageName * imageTag))) + imageName * imageTag

/-- `^\d+(\.\d+)?m?$` -/
def cpuRegex : Pattern :=
  oneOrMore (oneOf digits) *
    (optional (char '.' * oneOrMore (oneOf digits)) * optional (char 'm'))

/-- `^\d+(Ki|Mi|Gi|Ti|Pi)$` -/
def memRegex : Pattern :=
  oneOrMore (oneOf digits) * (oneOf ['K', 'M', 'G', 'T', 'P'] * char 'i')

/-- `^(\d+)([smh])$` -/
def timeoutRegex : Pattern := oneOrMore (oneOf digits) * oneOf ['s', 'm', 'h']

/-- `^[a-z0-9]([-a-z0-9]*[a-z0-9])?$` -/
def idRegex : Pattern :=
  oneOf (lowers ++ digits) *
    optional ((oneOf ('-' :: lowers ++ digits)).star * oneOf (lowers ++ digits))

/-! ## Validators -/

def validateImage (image : String) : Option String :=
  if image = "" then some "required"
  else if !fullMatch imageRegex image then some "invalid docker image format"
  else none

def validateCommand (command : List String) : Option String :=
  if command.length = 0 then some "required, must have at least one element"
  else if command.any (· = "") then some "command elements cannot be empty"
  else none

inductive QuantityType where
  | cpu
  | memory
  deriving DecidableEq, Repr

def validateQuantity (quantityType : QuantityType) (value : String) : Option String :=
  if value = "" then none
  else
    match quantityType with
    | .cpu =>
        if !fullMatch cpuRegex value then some "invalid CPU format (use: 100m, 1, 0.5)" else none
    | .memory =>
        if !fullMatch memRegex value then
          some "invalid memory format (use: 128Mi, 256Mi, 1Gi)"
        else none

def fieldError (field : String) (err : Option String) : List ValidationError :=
  (err.map fun message => ⟨field, message⟩).toList

/-- The checks of `requests` and of `limits`: a field that is not set is not
checked. -/
def validateResourceList (path : String) (list : ResourceListReq) : List ValidationError :=
  (if list.cpu ≠ "" then fieldError (path ++ ".cpu") (validateQuantity .cpu list.cpu) else []) ++
    if list.memory ≠ "" then
      fieldError (path ++ ".memory") (validateQuantity .memory list.memory)
    else []

def validateResources (resources : ResourceRequirementsReq) : List ValidationError :=
  (match resources.requests with
    | none => []
    | some requests => validateResourceList "resources.requests" requests) ++
  match resources.limits with
    | none => []
    | some limits => validateResourceList "resources.limits" limits

def validatePriority (priority : Int) : Option String :=
  if priority < 0 ∨ priority > 100 then some "must be between 0 and 100" else none

/-- `ParseInt` with 32 bits fails above 2147483647. -/
def validateTimeout (timeout : String) : Option String :=
  if timeout = "" then none
  else if !fullMatch timeoutRegex timeout then some "invalid format (use: 5s, 30m, 1h)"
  else
    let num := Nat.ofDigitChars 10 timeout.toList.dropLast 0
    if num > 2147483647 ∨ num = 0 then some "timeout must be positive" else none

/-- Of the retries only the upper bound is checked. -/
def validateCreateTaskRequest (req : CreateCloudTaskRequest) : List ValidationError :=
  fieldError "image" (validateImage req.image) ++
  fieldError "command" (validateCommand req.command) ++
  (match req.resources with
    | none => []
    | some resources => validateResources resources) ++
  fieldError "priority" (validatePriority req.priority) ++
  (if req.timeout ≠ "" then fieldError "timeout" (validateTimeout req.timeout) else []) ++
  if req.retries > 10 then [⟨"retries", "must be between 0 and 10"⟩] else []

/-- Past the pattern all characters are single bytes. -/
def validateTaskID (taskID : String) : Option String :=
  if taskID = "" then some "task ID required"
  else if !fullMatch idRegex taskID then
    some "invalid format: must match Kubernetes naming rules [a-z0-9-]"
  else if taskID.toList.length > 63 then some "must be 63 characters or less"
  else none

def validStatuses : List String := ["Pending", "Running", "Completed", "Failed"]

def validateStatus (status : String) : Option String :=
  if status = "" then none
  else if status ∉ validStatuses then
    some "invalid status: must be one of Pending, Running, Completed, Failed"
  else none

/-! ## What passes -/

@[simp] theorem fieldError_eq_nil_iff (field : String) (err : Option String) :
    fieldError field err = [] ↔ err = none := by
  cases err <;> simp [fieldError]

theorem validateImage_none {image : String} (passed : validateImage image = none) :
    image ≠ "" := by
  rintro rfl
  cases passed

theorem validatePriority_none {priority : Int} (passed : validatePriority priority = none) :
    0 ≤ priority ∧ priority ≤ 100 := by
  unfold validatePriority at passed
  split at passed
  · cases passed
  · omega

theorem validateTimeout_none {timeout : String} (passed : validateTimeout timeout = none)
    (set : timeout ≠ "") : fullMatch timeoutRegex timeout = true := by
  unfold validateTimeout at passed
  rw [if_neg set] at passed
  cases matched : fullMatch timeoutRegex timeout with
  | true => rfl
  | false => simp [matched] at passed

theorem validateQuantity_cpu {value : String} (passed : validateQuantity .cpu value = none)
    (set : value ≠ "") : fullMatch cpuRegex value = true := by
  unfold validateQuantity at passed
  rw [if_neg set] at passed
  cases matched : fullMatch cpuRegex value with
  | true => rfl
  | false => simp [matched] at passed

theorem validateQuantity_memory {value : String}
    (passed : validateQuantity .memory value = none) (set : value ≠ "") :
    fullMatch memRegex value = true := by
  unfold validateQuantity at passed
  rw [if_neg set] at passed
  cases matched : fullMatch memRegex value with
  | true => rfl
  | false => simp [matched] at passed

theorem validateResourceList_nil {path : String} {list : ResourceListReq}
    (passed : validateResourceList path list = []) :
    (list.cpu ≠ "" → fullMatch cpuRegex list.cpu = true) ∧
      (list.memory ≠ "" → fullMatch memRegex list.memory = true) := by
  obtain ⟨cpu, memory⟩ := List.append_eq_nil_iff.mp passed
  constructor
  · intro set
    rw [if_pos set, fieldError_eq_nil_iff] at cpu
    exact validateQuantity_cpu cpu set
  · intro set
    rw [if_pos set, fieldError_eq_nil_iff] at memory
    exact validateQuantity_memory memory set

def ResourceRequirementsReq.lists (resources : ResourceRequirementsReq) : List ResourceListReq :=
  resources.requests.toList ++ resources.limits.toList

theorem validateResources_nil {resources : ResourceRequirementsReq}
    (passed : validateResources resources = []) {list : ResourceListReq}
    (member : list ∈ resources.lists) :
    (list.cpu ≠ "" → fullMatch cpuRegex list.cpu = true) ∧
      (list.memory ≠ "" → fullMatch memRegex list.memory = true) := by
  obtain ⟨requests, limits⟩ := List.append_eq_nil_iff.mp passed
  rcases List.mem_append.mp member with inRequests | inLimits
  · rw [Option.mem_toList] at inRequests
    rw [inRequests] at requests
    exact validateResourceList_nil requests
  · rw [Option.mem_toList] at inLimits
    rw [inLimits] at limits
    exact validateResourceList_nil limits

end CloudOS.Orchestrator.TaskValidator
