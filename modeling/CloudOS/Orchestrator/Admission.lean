import CloudOS.Lib.History
import CloudOS.Orchestrator.TaskSchema

/-!
# Admission of CloudTasks

The webhook of `module2-orchestrator/api/v1/cloudtask_webhook.go` between a request
and the store of the API server.  A request to create or to update goes through
`Default`, the schema, and `ValidateCreate` or `ValidateUpdate`.  A spec is as it is
decoded: a field that is not set is zero or empty.  Writes of the status do not go
through the webhook and leave the spec alone.
-/

set_option autoImplicit false

namespace CloudOS.Orchestrator.Admission

open CloudOS.Kubernetes.Objects
open CloudOS.Lib.History
open CloudOS.Lib.Patterns
open CloudOS.Orchestrator.CloudTaskReconcile
open CloudOS.Orchestrator.TaskSchema

/-! ## The webhook -/

def defaulted (spec : CloudTaskSpec) : CloudTaskSpec :=
  { spec with
    retries := if spec.retries = 0 then 3 else spec.retries
    priority := if spec.priority = 0 then 50 else spec.priority
    timeout := if spec.timeout = "" then "5m" else spec.timeout }

def warning (refused : Prop) [Decidable refused] (text : String) : List String :=
  if refused then [text] else []

def rangeWarnings (spec : CloudTaskSpec) : List String :=
  warning (spec.retries < 0 ∨ spec.retries > 10) "retries must be between 0 and 10" ++
    warning (spec.priority < 0 ∨ spec.priority > 100) "priority must be between 0 and 100"

/-- With a warning there is the error `cloudtask validation failed`. -/
def validateCreate (spec : CloudTaskSpec) : List String :=
  warning (spec.image = "") "image is required" ++
    warning (spec.tenantID = "") "tenantID is required" ++ rangeWarnings spec

def validateUpdate (spec old : CloudTaskSpec) : List String :=
  warning (spec.image ≠ old.image) "image cannot be changed after creation" ++
    warning (spec.tenantID ≠ old.tenantID) "tenantID cannot be changed" ++ rangeWarnings spec

/-! ## Requests -/

inductive Refusal where
  | schema
  | webhook (warnings : List String)

/-- What becomes of a spec that is to be stored, over an old one or as a new one. -/
def admission (old : Option CloudTaskSpec) (spec : CloudTaskSpec) : Except Refusal CloudTaskSpec :=
  let spec := defaulted spec
  if admits spec then
    let warnings := old.elim (validateCreate spec) (validateUpdate spec)
    if warnings = [] then .ok spec else .error (.webhook warnings)
  else .error .schema

inductive Request where
  | create (key : ObjectKey) (spec : CloudTaskSpec)
  | update (key : ObjectKey) (spec : CloudTaskSpec)
  | delete (key : ObjectKey)

def Request.key : Request → ObjectKey
  | .create key _ => key
  | .update key _ => key
  | .delete key => key

abbrev Specs := ObjectKey → Option CloudTaskSpec

def Specs.empty : Specs := fun _ => none

def stored (specs : Specs) (key : ObjectKey) (spec : CloudTaskSpec) : Specs :=
  match admission (specs key) spec with
  | .error _ => specs
  | .ok admitted => Function.update specs key (some admitted)

/-- An object is created once and updated while it is there. -/
def step (specs : Specs) : Request → Specs
  | .create key spec => if (specs key).isSome then specs else stored specs key spec
  | .update key spec => if (specs key).isSome then stored specs key spec else specs
  | .delete key => Function.update specs key none

/-! ## What is admitted -/

theorem warning_eq_nil_iff {refused : Prop} [Decidable refused] {text : String} :
    warning refused text = [] ↔ ¬ refused := by
  unfold warning
  split <;> simp_all

/-- What is stored has all its defaults, and they are in range. -/
structure Sound (spec : CloudTaskSpec) : Prop where
  schema : admits spec = true
  image : spec.image ≠ ""
  tenantID : spec.tenantID ≠ ""
  retries : 1 ≤ spec.retries ∧ spec.retries ≤ 10
  priority : 1 ≤ spec.priority ∧ spec.priority ≤ 100
  timeout : fullMatch timeoutPattern spec.timeout = true

theorem defaulted_sound {spec : CloudTaskSpec} (schema : admits (defaulted spec) = true) :
    Sound (defaulted spec) := by
  have parts := schema
  simp only [admits, Bool.and_eq_true, decide_eq_true_eq, admitsNumber, admitsText,
    Bool.or_eq_true] at parts
  obtain ⟨⟨⟨⟨⟨image, tenantID⟩, _⟩, retries⟩, timeout⟩, priority⟩ := parts
  have someRetries : (defaulted spec).retries ≠ 0 := by
    simp only [defaulted]
    split <;> omega
  have somePriority : (defaulted spec).priority ≠ 0 := by
    simp only [defaulted]
    split <;> omega
  have someTimeout : (defaulted spec).timeout ≠ "" := by
    simp only [defaulted]
    split
    · decide
    · assumption
  exact ⟨schema, image, tenantID, by omega, by omega, timeout.resolve_left someTimeout⟩

theorem Sound.defaulted {spec : CloudTaskSpec} (sound : Sound spec) : defaulted spec = spec := by
  have someRetries : spec.retries ≠ 0 := by
    have := sound.retries
    omega
  have somePriority : spec.priority ≠ 0 := by
    have := sound.priority
    omega
  have someTimeout : spec.timeout ≠ "" := by
    intro unset
    have matched := sound.timeout
    rw [unset] at matched
    revert matched
    decide +kernel
  simp [Admission.defaulted, someRetries, somePriority, someTimeout]

theorem Sound.rangeWarnings {spec : CloudTaskSpec} (sound : Sound spec) : rangeWarnings spec = [] := by
  have retries := sound.retries
  have priority := sound.priority
  simp only [Admission.rangeWarnings, List.append_eq_nil_iff, warning_eq_nil_iff]
  constructor <;> omega

theorem Sound.validateCreate {spec : CloudTaskSpec} (sound : Sound spec) :
    validateCreate spec = [] := by
  simp only [Admission.validateCreate, List.append_eq_nil_iff, warning_eq_nil_iff,
    sound.rangeWarnings, and_true]
  exact ⟨sound.image, sound.tenantID⟩

theorem admission_ok {old : Option CloudTaskSpec} {spec admitted : CloudTaskSpec}
    (ok : admission old spec = .ok admitted) :
    Sound admitted ∧ ∀ before, old = some before →
      admitted.image = before.image ∧ admitted.tenantID = before.tenantID := by
  simp only [admission] at ok
  by_cases schema : admits (defaulted spec) = true
  · rw [if_pos schema] at ok
    by_cases silent : old.elim (validateCreate (defaulted spec))
        (validateUpdate (defaulted spec)) = []
    · rw [if_pos silent] at ok
      obtain rfl := Except.ok.inj ok
      refine ⟨defaulted_sound schema, ?_⟩
      rintro before rfl
      simp only [Option.elim_some, validateUpdate, List.append_eq_nil_iff,
        warning_eq_nil_iff, not_not] at silent
      exact silent.1
    · rw [if_neg silent] at ok
      cases ok
  · rw [if_neg schema] at ok
    cases ok

theorem Sound.admission {spec : CloudTaskSpec} (sound : Sound spec) :
    admission (some spec) spec = .ok spec := by
  have silent : validateUpdate spec spec = [] := by
    simp only [validateUpdate, List.append_eq_nil_iff, warning_eq_nil_iff, sound.rangeWarnings,
      and_true, not_not]
  simp only [Admission.admission, sound.defaulted, sound.schema, if_true, Option.elim_some, silent]

/-! ## Every run of requests -/

theorem stored_cases (specs : Specs) (other : ObjectKey) (spec : CloudTaskSpec) (key : ObjectKey) :
    stored specs other spec key = specs key ∨
      ∃ admitted, admission (specs key) spec = .ok admitted ∧
        stored specs other spec key = some admitted := by
  unfold stored
  cases answer : admission (specs other) spec with
  | error refusal => exact .inl rfl
  | ok admitted =>
      by_cases same : key = other
      · rw [same]
        exact .inr ⟨admitted, answer, Function.update_self _ _ _⟩
      · exact .inl (Function.update_of_ne same _ _)

theorem step_cases (specs : Specs) (request : Request) (key : ObjectKey) :
    step specs request key = specs key ∨
      (∃ spec admitted, admission (specs key) spec = .ok admitted ∧
        step specs request key = some admitted) ∨
      request = .delete key ∧ step specs request key = none := by
  cases request with
  | create other spec =>
      simp only [step]
      split
      · exact .inl rfl
      · exact (stored_cases specs other spec key).imp_right fun ⟨admitted, made⟩ =>
          .inl ⟨spec, admitted, made⟩
  | update other spec =>
      simp only [step]
      split
      · exact (stored_cases specs other spec key).imp_right fun ⟨admitted, made⟩ =>
          .inl ⟨spec, admitted, made⟩
      · exact .inl rfl
  | delete other =>
      by_cases same : key = other
      · subst same
        exact .inr (.inr ⟨rfl, Function.update_self _ _ _⟩)
      · exact .inl (Function.update_of_ne same _ _)

theorem step_sound (specs : Specs) (request : Request)
    (before : ∀ key spec, specs key = some spec → Sound spec) (key : ObjectKey)
    (spec : CloudTaskSpec) (there : step specs request key = some spec) : Sound spec := by
  rcases step_cases specs request key with same | ⟨given, admitted, ok, now⟩ | ⟨_, gone⟩
  · rw [same] at there
    exact before key spec there
  · rw [now] at there
    obtain rfl := Option.some.inj there
    exact (admission_ok ok).1
  · rw [gone] at there
    cases there

theorem after_identity {key : ObjectKey} (requests : List Request)
    (kept : ∀ request ∈ requests, request ≠ .delete key) {specs : Specs} {spec : CloudTaskSpec}
    (there : specs key = some spec) :
    ∃ later, after step specs requests key = some later ∧ later.image = spec.image ∧
      later.tenantID = spec.tenantID := by
  induction requests generalizing specs spec with
  | nil => exact ⟨spec, there, rfl, rfl⟩
  | cons request rest ih =>
      have keptRest := fun other member => kept other (List.mem_cons_of_mem request member)
      rw [after_cons]
      rcases step_cases specs request key with same | ⟨given, admitted, ok, now⟩ | ⟨deleted, _⟩
      · exact ih keptRest (same.trans there)
      · obtain ⟨image, tenantID⟩ := (admission_ok ok).2 spec there
        obtain ⟨later, found, sameImage, sameTenant⟩ := ih keptRest now
        exact ⟨later, found, sameImage.trans image, sameTenant.trans tenantID⟩
      · exact absurd deleted (kept request List.mem_cons_self)

structure Guarded (requests : List Request) : Prop where
  sound : ∀ key spec, after step .empty requests key = some spec → Sound spec
  rewritten : ∀ key spec, after step .empty requests key = some spec →
    admission (some spec) spec = .ok spec
  identity : ∀ earlier later key spec, requests = earlier ++ later →
    (∀ request ∈ later, request ≠ .delete key) → after step .empty earlier key = some spec →
      ∃ now, after step .empty requests key = some now ∧ now.image = spec.image ∧
        now.tenantID = spec.tenantID

/-- Whatever is requested, each stored CloudTask has retries, priority and timeout
within their bounds, the operator can write it back, and image and tenant stay what
they were when it was created. -/
theorem requests_guarded (requests : List Request) : Guarded requests := by
  have sound : ∀ key spec, after step .empty requests key = some spec → Sound spec := by
    have empty : ∀ key spec, Specs.empty key = some spec → Sound spec := by
      intro key spec there
      cases there
    exact after_invariant step_sound empty requests
  refine ⟨sound, fun key spec there => (sound key spec there).admission, ?_⟩
  rintro earlier later key spec rfl kept there
  rw [after_append]
  exact after_identity later kept there

end CloudOS.Orchestrator.Admission
