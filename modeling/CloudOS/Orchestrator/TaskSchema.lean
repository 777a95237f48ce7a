import CloudOS.Orchestrator.TaskHandler

/-!
# The validators against the schema of CloudTasks

`module2-orchestrator/config/crd/cloudtask_crd.yaml`: what the API server admits
as the spec of a CloudTask, where `omitempty` of `api/v1/cloudtask_types.go` leaves
out a field that is not set.  The validators of the API let through more than
that: fractions of a CPU, other units of memory and negative retries.
-/

set_option autoImplicit false

namespace CloudOS.Orchestrator.TaskSchema

open CloudOS.Lib.Patterns
open CloudOS.Orchestrator.CloudTaskReconcile
open CloudOS.Orchestrator.TaskHandler
open CloudOS.Orchestrator.TaskValidator
open RegularExpression

/-! ## The schema -/

/-- `^\d+m?$` -/
def cpuPattern : Pattern := oneOrMore (oneOf digits) * optional (char 'm')

/-- `^\d+Mi$` -/
def memoryPattern : Pattern := oneOrMore (oneOf digits) * (char 'M' * char 'i')

/-- `^\d+[smh]$` -/
def timeoutPattern : Pattern := oneOrMore (oneOf digits) * oneOf ['s', 'm', 'h']

def admitsText (pattern : Pattern) (text : String) : Bool := text = "" || fullMatch pattern text

def admitsNumber (minimum maximum n : Int) : Bool := n = 0 || (minimum ≤ n && n ≤ maximum)

def admitsList (list : ResourceTexts) : Bool :=
  admitsText cpuPattern list.cpu && admitsText memoryPattern list.memory

def admitsResources (resources : TaskResources) : Bool :=
  resources.requests.all admitsList && resources.limits.all admitsList

def admits (spec : CloudTaskSpec) : Bool :=
  spec.image ≠ "" && spec.tenantID ≠ "" && spec.resources.all admitsResources &&
    admitsNumber 0 10 spec.retries && admitsText timeoutPattern spec.timeout &&
    admitsNumber 0 100 spec.priority

/-! ## CPU -/

theorem dot_notMem_digits {text : List Char} (all : ∀ c ∈ text, c ∈ digits) : '.' ∉ text := by
  intro member
  have digit := all '.' member
  revert digit
  decide

theorem cpu_admitted_iff {text : List Char} (accepted : cpuRegex.rmatch text = true) :
    cpuPattern.rmatch text = true ↔ '.' ∉ text := by
  constructor
  · intro matched dot
    obtain ⟨whole, unit, rfl, isNumber, isUnit⟩ := (mul_rmatch_iff _ _ _).mp matched
    have digitsOnly := ((oneOrMore_oneOf_rmatch_iff _ _).mp isNumber).2
    rw [optional_rmatch_iff, char_rmatch_iff] at isUnit
    rcases List.mem_append.mp dot with inWhole | inUnit
    · exact dot_notMem_digits digitsOnly inWhole
    · rcases isUnit with rfl | rfl
      · simp at inUnit
      · simp at inUnit
  · intro whole
    obtain ⟨number, rest, rfl, isNumber, isRest⟩ := (mul_rmatch_iff _ _ _).mp accepted
    obtain ⟨fraction, unit, rfl, isFraction, isUnit⟩ := (mul_rmatch_iff _ _ _).mp isRest
    rcases (optional_rmatch_iff _ _).mp isFraction with rfl | pointed
    · exact (mul_rmatch_iff _ _ _).mpr ⟨number, unit, rfl, isNumber, isUnit⟩
    · obtain ⟨point, places, rfl, isPoint, _⟩ := (mul_rmatch_iff _ _ _).mp pointed
      obtain rfl := (char_rmatch_iff _ _).mp isPoint
      simp at whole

/-! ## Memory -/

theorem memory_admitted_iff {text : List Char} (accepted : memRegex.rmatch text = true) :
    memoryPattern.rmatch text = true ↔ "Mi".toList <:+ text := by
  constructor
  · intro matched
    obtain ⟨number, unit, rfl, _, isUnit⟩ := (mul_rmatch_iff _ _ _).mp matched
    obtain ⟨first, second, rfl, isFirst, isSecond⟩ := (mul_rmatch_iff _ _ _).mp isUnit
    obtain rfl := (char_rmatch_iff _ _).mp isFirst
    obtain rfl := (char_rmatch_iff _ _).mp isSecond
    exact ⟨number, rfl⟩
  · rintro ⟨start, ends⟩
    obtain ⟨number, unit, rfl, isNumber, isUnit⟩ := (mul_rmatch_iff _ _ _).mp accepted
    obtain ⟨first, second, rfl, isFirst, isSecond⟩ := (mul_rmatch_iff _ _ _).mp isUnit
    obtain ⟨c, _, rfl⟩ := (oneOf_rmatch_iff _ _).mp isFirst
    obtain rfl := (char_rmatch_iff _ _).mp isSecond
    obtain ⟨rfl, units⟩ := List.append_inj' ends rfl
    obtain rfl : c = 'M' := by simpa using units.symm
    refine (mul_rmatch_iff _ _ _).mpr ⟨start, ['M', 'i'], rfl, isNumber, ?_⟩
    exact (mul_rmatch_iff _ _ _).mpr
      ⟨['M'], ['i'], rfl, (char_rmatch_iff _ _).mpr rfl, (char_rmatch_iff _ _).mpr rfl⟩

/-! ## A request -/

/-- What the schema asks of a resource list beyond the validators. -/
def Plain (list : ResourceListReq) : Prop :=
  '.' ∉ list.cpu.toList ∧ (list.memory = "" ∨ "Mi".toList <:+ list.memory.toList)

instance (list : ResourceListReq) : Decidable (Plain list) :=
  inferInstanceAs (Decidable (_ ∧ _))

theorem admitsList_iff {list : ResourceListReq}
    (valid : (list.cpu ≠ "" → fullMatch cpuRegex list.cpu = true) ∧
      (list.memory ≠ "" → fullMatch memRegex list.memory = true)) :
    admitsList ⟨list.cpu, list.memory⟩ = true ↔ Plain list := by
  have cpu : admitsText cpuPattern list.cpu = true ↔ '.' ∉ list.cpu.toList := by
    by_cases unset : list.cpu = ""
    · simp [admitsText, unset]
    · simpa [admitsText, unset, fullMatch] using cpu_admitted_iff (valid.1 unset)
  have memory : admitsText memoryPattern list.memory = true ↔
      list.memory = "" ∨ "Mi".toList <:+ list.memory.toList := by
    by_cases unset : list.memory = ""
    · simp [admitsText, unset]
    · simpa [admitsText, unset, fullMatch] using memory_admitted_iff (valid.2 unset)
  rw [admitsList, Bool.and_eq_true, cpu, memory, Plain]

theorem admitsResources_iff {resources : ResourceRequirementsReq}
    (passed : validateResources resources = []) :
    admitsResources (convertResourceRequirements resources) = true ↔
      ∀ list ∈ resources.lists, Plain list := by
  have each : ∀ list ∈ resources.lists,
      (admitsList ⟨list.cpu, list.memory⟩ = true ↔ Plain list) := fun list member =>
    admitsList_iff (validateResources_nil passed member)
  have parts : admitsResources (convertResourceRequirements resources) = true ↔
      ∀ list ∈ resources.lists, admitsList ⟨list.cpu, list.memory⟩ = true := by
    simp only [admitsResources, convertResourceRequirements, ResourceRequirementsReq.lists,
      Bool.and_eq_true, Option.all_map, List.forall_mem_append, Option.mem_toList]
    cases resources.requests <;> cases resources.limits <;> simp
  rw [parts]
  exact forall₂_congr each

/-- What a request that passes the validators still has to meet. -/
structure Passed (req : CreateCloudTaskRequest) : Prop where
  image : req.image ≠ ""
  resources : ∀ resources, req.resources = some resources → validateResources resources = []
  priority : 0 ≤ req.priority ∧ req.priority ≤ 100
  timeout : req.timeout ≠ "" → fullMatch timeoutRegex req.timeout = true
  retries : req.retries ≤ 10

theorem passed_of_valid {req : CreateCloudTaskRequest}
    (valid : validateCreateTaskRequest req = []) : Passed req := by
  unfold validateCreateTaskRequest at valid
  simp only [List.append_eq_nil_iff, fieldError_eq_nil_iff] at valid
  obtain ⟨⟨⟨⟨⟨image, _⟩, resources⟩, priority⟩, timeout⟩, retries⟩ := valid
  refine ⟨validateImage_none image, ?_, validatePriority_none priority, ?_, ?_⟩
  · intro given set
    rw [set] at resources
    exact resources
  · intro set
    rw [if_pos set, fieldError_eq_nil_iff] at timeout
    exact validateTimeout_none timeout set
  · by_contra above
    rw [if_pos (by omega)] at retries
    cases retries

/-- A valid request becomes a CloudTask of the schema exactly when its retries
are not negative, its CPUs have no fraction and its memory is given in `Mi`. -/
theorem admits_newCloudTask_iff (req : CreateCloudTaskRequest) (tenant : req.tenantID ≠ "")
    (valid : validateCreateTaskRequest req = []) :
    admits (newCloudTask req.tenantID (newTaskID req) req).spec = true ↔
      0 ≤ req.retries ∧
        ∀ resources, req.resources = some resources → ∀ list ∈ resources.lists, Plain list := by
  have passed := passed_of_valid valid
  have resources : (req.resources.map convertResourceRequirements).all admitsResources = true ↔
      ∀ resources, req.resources = some resources → ∀ list ∈ resources.lists, Plain list := by
    cases given : req.resources with
    | none => simp
    | some resources =>
        have exactly := admitsResources_iff (passed.resources resources given)
        simpa using exactly
  have retries : admitsNumber 0 10 req.retries = true ↔ 0 ≤ req.retries := by
    have upper := passed.retries
    simp only [admitsNumber, Bool.or_eq_true, Bool.and_eq_true, decide_eq_true_eq]
    omega
  have timeout : admitsText timeoutPattern req.timeout = true := by
    by_cases unset : req.timeout = ""
    · simp [admitsText, unset]
    · have matched : fullMatch timeoutPattern req.timeout = true := passed.timeout unset
      simp [admitsText, matched]
  have priority : admitsNumber 0 100 req.priority = true := by
    obtain ⟨lower, upper⟩ := passed.priority
    simp [admitsNumber, lower, upper]
  simp only [admits, newCloudTask, Bool.and_eq_true, resources, retries, timeout, priority]
  simp [passed.image, tenant, and_comm]

def halfCpuRequest : CreateCloudTaskRequest where
  name := "half"
  image := "busybox"
  command := ["true"]
  args := []
  tenantID := "a"
  resources := some ⟨some ⟨"0.5", "128Mi"⟩, none⟩
  retries := 0
  timeout := "5m"
  priority := 10

theorem half_cpu_valid_not_admitted :
    halfCpuRequest.tenantID ≠ "" ∧ validateCreateTaskRequest halfCpuRequest = [] ∧
      validateTaskID halfCpuRequest.name = none ∧
      admits (newCloudTask "a" (newTaskID halfCpuRequest) halfCpuRequest).spec = false := by
  decide +kernel

def plainRequest : CreateCloudTaskRequest :=
  { halfCpuRequest with resources := some ⟨some ⟨"500m", "128Mi"⟩, none⟩ }

theorem plain_request_admitted :
    (plainRequest.tenantID ≠ "" ∧ validateCreateTaskRequest plainRequest = [] ∧
      validateTaskID plainRequest.name = none) ∧
      admits (newCloudTask "a" (newTaskID plainRequest) plainRequest).spec = true := by
  have given : plainRequest.tenantID ≠ "" ∧ validateCreateTaskRequest plainRequest = [] ∧
      validateTaskID plainRequest.name = none := by decide +kernel
  refine ⟨given, (admits_newCloudTask_iff plainRequest given.1 given.2.1).mpr ?_⟩
  refine ⟨by decide, ?_⟩
  rintro resources set
  obtain rfl := Option.some.inj set
  intro list member
  obtain rfl : list = ⟨"500m", "128Mi"⟩ := by
    simpa [ResourceRequirementsReq.lists] using member
  exact of_decide_eq_true (by decide +kernel)

end CloudOS.Orchestrator.TaskSchema
