import CloudOS.Lib.Patterns
import CloudOS.Operator.ReconcileEval

/-!
# Which admitted TaskJobs make the operator panic

The CRD schema types the fields of a TaskJob spec and requires `image` and
`name`, but puts no pattern on `cpuRequest` and `memoryRequest`.  `buildPod`
hands both to `resource.MustParse`, which panics on what is not a quantity.
-/

set_option autoImplicit false

namespace CloudOS.Operator.AdmittedJobs

open CloudOS.Kubernetes.Objects
open CloudOS.Lib.CallProgram
open CloudOS.Lib.Patterns
open CloudOS.Lib.VersionedStore
open CloudOS.Operator.DependencySafety
open CloudOS.Operator.ReconcileEval
open CloudOS.Operator.ReconcileOutline
open CloudOS.Operator.TaskJobReconcile
open CloudOS.Operator.TaskJobCluster
open RegularExpression (char)

/-! ## Quantities

The grammar of Kubernetes quantities: a signed decimal number and a binary,
decimal or exponent suffix. -/

def digit : Pattern := oneOf ['0', '1', '2', '3', '4', '5', '6', '7', '8', '9']

def sign : Pattern := optional (oneOf ['+', '-'])

def number : Pattern :=
  oneOrMore digit * optional (char '.' * digit.star) + char '.' * oneOrMore digit

def binarySI : Pattern := oneOf ['K', 'M', 'G', 'T', 'P', 'E'] * char 'i'

def decimalSI : Pattern := optional (oneOf ['n', 'u', 'm', 'k', 'M', 'G', 'T', 'P', 'E'])

def decimalExponent : Pattern := oneOf ['e', 'E'] * (sign * oneOrMore digit)

def quantity : Pattern := sign * (number * (binarySI + decimalExponent + decimalSI))

def validQuantity (text : String) : Bool := fullMatch quantity text

/-! ## The schema of the spec -/

/-- The types of the properties: a string, an int64, an array of strings, an
array of objects with string properties. -/
inductive FieldSchema where
  | text
  | whole
  | texts
  | records (required : List String)

inductive FieldValue where
  | text (value : String)
  | whole (value : Int)
  | texts (items : List String)
  | records (items : List (List (String × String)))

def FieldSchema.accepts : FieldSchema → FieldValue → Bool
  | .text, .text _ => true
  | .whole, .whole value => -9223372036854775808 ≤ value && value ≤ 9223372036854775807
  | .texts, .texts _ => true
  | .records required, .records items =>
      items.all fun item => required.all fun name => (item.lookup name).isSome
  | _, _ => false

abbrev Manifest : Type := List (String × FieldValue)

structure ObjectSchema where
  properties : List (String × FieldSchema)
  required : List String

/-- Properties the schema does not list are dropped by the API server, so they
do not matter. -/
def ObjectSchema.accepts (schema : ObjectSchema) (object : Manifest) : Bool :=
  (schema.required.all fun name => (object.lookup name).isSome) &&
    schema.properties.all fun property =>
      match object.lookup property.1 with
      | none => true
      | some value => property.2.accepts value

def taskJobSpecSchema : ObjectSchema where
  properties :=
    [("algorithm", .text), ("args", .texts), ("command", .texts), ("cpuRequest", .text),
     ("dependsOn", .texts), ("env", .records ["name", "value"]),
     ("estimatedDurationSec", .whole), ("image", .text), ("memoryRequest", .text),
     ("name", .text), ("priority", .text), ("schedule", .text)]
  required := ["image", "name"]

/-- The spec of an admitted TaskJob; the schema does not require that there is
one. -/
def AdmittedSpec : Type :=
  { spec : Option Manifest // ∀ object ∈ spec, taskJobSpecSchema.accepts object = true }

def textField (object : Manifest) (name : String) : String :=
  match object.lookup name with
  | some (.text value) => value
  | _ => ""

def textsField (object : Manifest) (name : String) : List String :=
  match object.lookup name with
  | some (.texts items) => items
  | _ => []

def envVar (item : List (String × String)) : EnvVar :=
  ⟨(item.lookup "name").getD "", (item.lookup "value").getD ""⟩

def envField (object : Manifest) : List EnvVar :=
  match object.lookup "env" with
  | some (.records items) => items.map envVar
  | _ => []

/-- The manifest as the controller's client decodes it: what is absent is the
zero value. -/
def decodeSpec (object : Manifest) : TaskJobSpec where
  image := textField object "image"
  command := textsField object "command"
  args := textsField object "args"
  priority := textField object "priority"
  algorithm := textField object "algorithm"
  cpuRequest := textField object "cpuRequest"
  memoryRequest := textField object "memoryRequest"
  dependsOn := textsField object "dependsOn"
  env := envField object

def AdmittedSpec.toSpec (admitted : AdmittedSpec) : TaskJobSpec :=
  decodeSpec (admitted.val.getD [])

def encodeSpec (spec : TaskJobSpec) : Manifest :=
  [("image", .text spec.image), ("name", .text ""), ("command", .texts spec.command),
   ("args", .texts spec.args), ("priority", .text spec.priority),
   ("algorithm", .text spec.algorithm), ("cpuRequest", .text spec.cpuRequest),
   ("memoryRequest", .text spec.memoryRequest), ("dependsOn", .texts spec.dependsOn),
   ("env", .records (spec.env.map fun var => [("name", var.name), ("value", var.value)]))]

/-- The schema excludes no spec: every one is the reading of an admitted
manifest. -/
theorem every_spec_admitted (spec : TaskJobSpec) :
    ∃ admitted : AdmittedSpec, admitted.toSpec = spec := by
  have accepted : taskJobSpecSchema.accepts (encodeSpec spec) = true := by
    simp [ObjectSchema.accepts, taskJobSpecSchema, encodeSpec, FieldSchema.accepts,
      List.lookup_cons]
  have env : envField (encodeSpec spec) = spec.env := by
    have each : envVar ∘ (fun var : EnvVar => [("name", var.name), ("value", var.value)]) = id := by
      funext var
      rfl
    simp [envField, encodeSpec, List.lookup_cons, each]
  refine ⟨⟨some (encodeSpec spec), ?_⟩, ?_⟩
  · intro object same
    cases same
    exact accepted
  · have fields : decodeSpec (encodeSpec spec) =
        { spec with env := envField (encodeSpec spec) } := rfl
    change decodeSpec (encodeSpec spec) = spec
    rw [fields, env]

/-! ## Panics -/

/-- Whatever each call of the reconcile answers, it does not panic. -/
def NeverPanics (parseQuantity : String → Option ℚ) (key : ObjectKey) (w : Cluster) : Prop :=
  (reconcile parseQuantity key).Outline Outcome (fun _ => True) (fun a b => a = b)
    (fun _ _ => True) (fun exit _ => exit ≠ .panicked) w

/-- The reconcile comes to building a pod: the TaskJob is not terminal, its
dependencies are completed, it has no pod and it has an image. -/
structure ReachesBuildPod (w : Cluster) (key : ObjectKey) (entry : Versioned JobRecord) :
    Prop where
  live : ¬ TaskPhase.terminal entry.value.status.phase
  completed : ∀ dep ∈ entry.value.spec.dependsOn, CompletedIn w key.ns dep
  noPod : w.pods.filter (labelledFor key.ns key.name) = []
  image : entry.value.spec.image ≠ ""

section
variable {parseQuantity : String → Option ℚ} {w : Cluster} {key : ObjectKey}
  {entry : Versioned JobRecord}

/-- Up to the call that creates the pod the cluster is the one at the start. -/
def Reading (w : Cluster) (key : ObjectKey) (entry : Versioned JobRecord) (tj : TaskJob) :
    Progress → Cluster → Prop
  | .checking remaining, a => a = w ∧ tj = toTaskJob key entry ∧
      ¬ TaskPhase.terminal entry.value.status.phase ∧
      ∀ dep ∈ entry.value.spec.dependsOn, dep ∈ remaining ∨ CompletedIn w key.ns dep
  | .vacant, a => a = w ∧ tj = toTaskJob key entry ∧
      (entry.value.spec.image ≠ "" → ReachesBuildPod w key entry)
  | _, _ => True

theorem reading_obligations (parseQuantity : String → Option ℚ)
    (found : w.jobs.cell key = some entry) :
    Obligations Outcome (fun _ => True) (fun a b => a = b) (fun _ _ => True) parseQuantity key
      (fun a => a = w) (Reading w key entry) where
  begunKept a b start same := same ▸ start
  kept tj progress a b reading same := same ▸ reading
  taskRead a answer b start _ out := by
    subst start
    obtain ⟨same, read⟩ := outcome_get out
    refine ⟨trivial, ?_⟩
    intro tj ok live
    obtain ⟨current, here, rfl⟩ := read tj ok
    cases Option.some.inj (here.symm.trans found)
    exact ⟨same, rfl, live, fun dep member => Or.inl member⟩
  dependencyRead tj dep rest a answer b reading _ out := by
    obtain ⟨rfl, isEntry, live, seen⟩ := reading
    obtain ⟨same, read⟩ := outcome_get out
    refine ⟨trivial, ⟨same, isEntry, live, seen⟩, ?_⟩
    intro other ok phase
    obtain ⟨otherEntry, there, rfl⟩ := read other ok
    refine ⟨same, isEntry, live, ?_⟩
    intro each member
    rcases seen each member with listed | before
    · rcases List.mem_cons.mp listed with rfl | later
      · subst isEntry
        exact Or.inr ⟨otherEntry, there, phase⟩
      · exact Or.inl later
    · exact Or.inr before
  podsListed tj a answer b reading _ out := by
    obtain ⟨rfl, isEntry, live, seen⟩ := reading
    obtain ⟨same, read⟩ := outcome_list out
    refine ⟨trivial, fun items ok => ⟨fun empty => ?_, fun _ _ => trivial⟩⟩
    refine ⟨same, isEntry, fun image => ⟨live, ?_, ?_, image⟩⟩
    · exact fun dep member => (seen dep member).resolve_left (by simp)
    · subst isEntry
      have listed := read items ok
      rw [List.head?_eq_none_iff.mp empty] at listed
      exact listed.symm
  clockRead tj pod a answer b _ _ _ := ⟨trivial, trivial⟩
  podCreated tj pod a answer b _ _ _ _ _ := ⟨trivial, fun _ => trivial, fun _ _ => trivial⟩
  statusWritten tj progress status a answer b _ _ _ _ := trivial

end

/-- For every admitted TaskJob, in every cluster: the reconcile does not panic,
whatever its calls answer, exactly when it does not come to building a pod or
both requests, or the defaults used for empty ones, are quantities. -/
theorem admitted_never_panics_iff (parseQuantity : String → Option ℚ)
    (parses : ∀ text, (parseQuantity text).isSome = validQuantity text)
    (admitted : AdmittedSpec) (w : Cluster) (key : ObjectKey) (entry : Versioned JobRecord)
    (found : w.jobs.cell key = some entry) (isSpec : entry.value.spec = admitted.toSpec) :
    NeverPanics parseQuantity key w ↔
      (ReachesBuildPod w key entry →
        validQuantity (orDefault admitted.toSpec.cpuRequest "500m") = true ∧
        validQuantity (orDefault admitted.toSpec.memoryRequest "256Mi") = true) := by
  have builds : (buildPod parseQuantity (toTaskJob key entry)).isSome = true ↔
      validQuantity (orDefault admitted.toSpec.cpuRequest "500m") = true ∧
      validQuantity (orDefault admitted.toSpec.memoryRequest "256Mi") = true := by
    rw [buildPod_isSome_iff, parses, parses, ← isSpec]
    rfl
  rw [← builds]
  constructor
  · intro safe reaches
    by_contra unbuilt
    have none_built : buildPod parseQuantity (toTaskJob key entry) = none := by
      simpa using unbuilt
    have evaluated := reconcile_eval_start parseQuantity found reaches.live reaches.completed
      (by rw [reaches.noPod]; rfl)
    have panics : (startPod parseQuantity (toTaskJob key entry)).eval serve w =
        (.panicked, w) := by
      have image : (toTaskJob key entry).spec.image ≠ "" := reaches.image
      unfold startPod
      rw [if_neg image, none_built]
      rfl
    have returns := Prog.Outline.eval serve (fun _ _ => .served) (fun _ => rfl)
      (fun _ => trivial) safe
    rw [evaluated, panics] at returns
    exact returns rfl
  · intro condition
    refine (reconcile_outline (reading_obligations parseQuantity found) w rfl).mono
      (fun _ _ => trivial) (fun _ _ _ _ => trivial) ?_
    intro exit a onlyBuilding panicked
    obtain ⟨tj, ⟨_, rfl, reaches⟩, image, unbuilt⟩ := onlyBuilding panicked
    have built := condition (reaches image)
    rw [unbuilt] at built
    cases built

/-! ### A CPU request of "abc", and one of "250m" -/

def strictParse (text : String) : Option ℚ := if validQuantity text then some 1 else none

theorem strictParse_parses (text : String) : (strictParse text).isSome = validQuantity text := by
  unfold strictParse
  cases validQuantity text <;> rfl

def requestManifest (cpuRequest : String) : Manifest :=
  [("image", .text "busybox"), ("name", .text "job"), ("cpuRequest", .text cpuRequest)]

def requestSpec (cpuRequest : String) : AdmittedSpec :=
  ⟨some (requestManifest cpuRequest), fun object same => by cases same; rfl⟩

def requestCluster (cpuRequest : String) : Cluster where
  jobs := Store.empty.put ⟨"default", "job"⟩ ⟨(requestSpec cpuRequest).toSpec, .zero⟩
  pods := []
  nextUid := 0
  clock := 0

theorem request_250m_never_panics :
    (∀ text, (strictParse text).isSome = validQuantity text) ∧
    NeverPanics strictParse ⟨"default", "job"⟩ (requestCluster "250m") := by
  refine ⟨strictParse_parses, ?_⟩
  refine (admitted_never_panics_iff strictParse strictParse_parses (requestSpec "250m")
    (requestCluster "250m") ⟨"default", "job"⟩ _ rfl rfl).mpr ?_
  intro _
  decide

/-- An admitted TaskJob on which a fault-free reconcile panics. -/
theorem request_abc_panics :
    (∀ text, (strictParse text).isSome = validQuantity text) ∧
    ((reconcile strictParse ⟨"default", "job"⟩).eval serve (requestCluster "abc")).1 = .panicked := by
  refine ⟨strictParse_parses, ?_⟩
  have invalid : strictParse "abc" = none := by
    unfold strictParse
    rw [show validQuantity "abc" = false by decide]
    rfl
  have found : (requestCluster "abc").jobs.cell ⟨"default", "job"⟩ =
      some ⟨0, ⟨(requestSpec "abc").toSpec, .zero⟩⟩ := rfl
  rw [reconcile_eval_start strictParse found (by simp [TaskPhase.terminal, TaskJobStatus.zero])
    (fun dep member => by cases member) rfl]
  have unbuilt : buildPod strictParse (toTaskJob ⟨"default", "job"⟩
      ⟨0, ⟨(requestSpec "abc").toSpec, .zero⟩⟩) = none := by
    unfold buildPod
    rw [show orDefault (toTaskJob ⟨"default", "job"⟩
      ⟨0, ⟨(requestSpec "abc").toSpec, .zero⟩⟩).spec.cpuRequest "500m" = "abc" from rfl, invalid]
    rfl
  unfold startPod
  rw [if_neg (by decide), unbuilt]
  rfl

end CloudOS.Operator.AdmittedJobs
