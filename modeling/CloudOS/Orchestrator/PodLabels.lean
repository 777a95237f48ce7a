import CloudOS.Orchestrator.ReconcileCalls

/-!
# The labels of CloudTask pods

`constructPod` sets the labels that tell which CloudTask, which tenant and which
priority a pod is of, and copies the labels of the spec over them.
-/

set_option autoImplicit false

namespace CloudOS.Orchestrator.PodLabels

open CloudOS.Kubernetes.Objects
open CloudOS.Lib.CallProgram
open CloudOS.Orchestrator.CloudTaskReconcile
open CloudOS.Orchestrator.ReconcileCalls

def systemLabels (cloudTask : CloudTask) : List (String × String) :=
  [("cloudtask-name", cloudTask.key.name), ("tenant-id", cloudTask.spec.tenantID),
    ("priority", toString cloudTask.spec.priority)]

/-- The system labels have the values of the CloudTask, and every other label of
its spec is on the pod as it is. -/
structure Authentic (cloudTask : CloudTask) (pod : Pod) : Prop where
  system : ∀ label ∈ systemLabels cloudTask, pod.labels label.1 = some label.2
  others : ∀ name value, name ∉ (systemLabels cloudTask).map Prod.fst →
    cloudTask.spec.labels name = some value → pod.labels name = some value

/-- The answers of an API server that has the CloudTask: whatever else happens to
it, its name and its spec stay what they are. -/
structure Keeps (cloudTask : CloudTask) (answers : List Call → (call : Call) → Answer call) :
    Prop where
  get : ∀ issued key found, answers issued (.getCloudTask key) = .ok found →
    found.key = cloudTask.key ∧ found.spec = cloudTask.spec
  update : ∀ issued sent stored, answers issued (.updateCloudTask sent) = .ok stored →
    stored.key = sent.key ∧ stored.spec = sent.spec

def Creates (parseQuantity : String → Option ℚ) (cloudTask : CloudTask) (pod : Pod) : Prop :=
  ∃ answers, Keeps cloudTask answers ∧
    .createPod pod ∈ (reconcile parseQuantity cloudTask.key).trace answers []

/-! ## The pod of a reconcile -/

def SameTask (cloudTask other : CloudTask) : Prop :=
  other.key = cloudTask.key ∧ other.spec = cloudTask.spec

def Possible (cloudTask : CloudTask) : (call : Call) → Answer call → Prop
  | .getCloudTask _, answer => ∀ found, answer = .ok found → SameTask cloudTask found
  | .updateCloudTask sent, answer => ∀ stored, answer = .ok stored → SameTask sent stored
  | _, _ => True

def Labelled (cloudTask : CloudTask) : Call → Prop
  | .createPod pod => pod.labels = podLabels cloudTask.key cloudTask.spec
  | _ => True

section Reconcile
variable (cloudTask : CloudTask)

theorem permits_labelled : Permits (Labelled cloudTask) :=
  ⟨fun _ => trivial, fun _ => trivial, trivial⟩

theorem ensureFinalizer_ensures {found : CloudTask} (same : SameTask cloudTask found) :
    (ensureFinalizer found).Ensures (Possible cloudTask) (Labelled cloudTask) fun result =>
      ∀ owned, result = .ok owned → SameTask cloudTask owned := by
  unfold ensureFinalizer
  by_cases present : cloudTaskFinalizerKey ∈ found.finalizers
  · rw [if_pos present]
    intro owned isOwned
    cases isOwned
    exact same
  · rw [if_neg present]
    refine ⟨trivial, ?_⟩
    intro answer kept owned isOwned
    obtain ⟨key, spec⟩ := kept owned isOwned
    exact ⟨key.trans same.1, spec.trans same.2⟩

theorem reconcile_ensures (parseQuantity : String → Option ℚ) (key : ObjectKey) :
    (reconcile parseQuantity key).Ensures (Possible cloudTask) (Labelled cloudTask)
      fun _ => True := by
  refine Prog.Ensures.of_perform trivial ?_
  rintro (err | found) kept
  · by_cases missing : err.reason = .notFound
    · simp only [missing, if_true]
      trivial
    · simp only [missing, if_false]
      trivial
  · by_cases deleting : found.deletionTimestamp.isSome
    · simp only [deleting, if_true]
      exact (reconcileDeletion_calls (fun _ => trivial) (fun _ => trivial)
        (fun _ => trivial) found).ensures
    · simp only [deleting]
      refine (ensureFinalizer_ensures cloudTask (kept found rfl)).bind ?_
      rintro (err | owned) same
      · trivial
      · refine (lookupPod_calls (permits_labelled cloudTask) owned).ensures.bind ?_
        rintro (err | _ | pod) _
        · trivial
        · obtain ⟨isKey, isSpec⟩ := same owned rfl
          refine (reconcileWithoutPod_calls (permits_labelled cloudTask) parseQuantity owned
            ?_).ensures
          show podLabels owned.key owned.spec = podLabels cloudTask.key cloudTask.spec
          rw [isKey, isSpec]
        · exact (reconcileWithPod_calls (permits_labelled cloudTask) owned pod).ensures

end Reconcile

theorem labels_of_creates {parseQuantity : String → Option ℚ} {cloudTask : CloudTask} {pod : Pod}
    (creates : Creates parseQuantity cloudTask pod) :
    pod.labels = podLabels cloudTask.key cloudTask.spec := by
  obtain ⟨answers, keeps, created⟩ := creates
  have possible : ∀ issued call, Possible cloudTask call (answers issued call) := by
    intro issued call
    cases call with
    | getCloudTask key => exact fun found answered => keeps.get issued key found answered
    | updateCloudTask sent => exact fun stored answered => keeps.update issued sent stored answered
    | updateStatus sent => trivial
    | getPod key => trivial
    | createPod pod => trivial
    | deletePod key => trivial
    | now => trivial
  exact (reconcile_ensures cloudTask parseQuantity cloudTask.key).trace possible (by simp) _ created

/-! ## When the labels are authentic -/

theorem podLabels_of_user {key : ObjectKey} {spec : CloudTaskSpec} {name value : String}
    (given : spec.labels name = some value) : podLabels key spec name = some value := by
  simp [podLabels, StringMap.merge, given]

theorem podLabels_of_system {cloudTask : CloudTask} {label : String × String}
    (member : label ∈ systemLabels cloudTask) (unset : cloudTask.spec.labels label.1 = none) :
    podLabels cloudTask.key cloudTask.spec label.1 = some label.2 := by
  simp only [systemLabels, List.mem_cons, List.not_mem_nil, or_false] at member
  rcases member with rfl | rfl | rfl
  · simp [podLabels, StringMap.merge, unset, StringMap.set]
  · simp [podLabels, StringMap.merge, unset, StringMap.set]
  · simp [podLabels, StringMap.merge, unset, StringMap.set]

/-- The labels of a pod that a reconcile creates are authentic exactly when the
labels of the spec say nothing else about them. -/
theorem labels_authentic_iff (parseQuantity : String → Option ℚ) (cloudTask : CloudTask) (pod : Pod)
    (creates : Creates parseQuantity cloudTask pod) :
    Authentic cloudTask pod ↔
      ∀ label ∈ systemLabels cloudTask, ∀ value, cloudTask.spec.labels label.1 = some value →
        value = label.2 := by
  have labels := labels_of_creates creates
  constructor
  · intro authentic label member value given
    have carried := authentic.system label member
    rw [labels, podLabels_of_user given] at carried
    exact Option.some.inj carried
  · intro agree
    constructor
    · intro label member
      rw [labels]
      cases given : cloudTask.spec.labels label.1 with
      | none => exact podLabels_of_system member given
      | some value => rw [podLabels_of_user given, agree label member value given]
    · intro name value _ given
      rw [labels, podLabels_of_user given]

/-! ## A task under another tenant's label -/

def labelledTask (name value : String) : CloudTask where
  key := ⟨"tenant-a", "job"⟩
  uid := 0
  resourceVersion := 0
  deletionTimestamp := none
  finalizers := [cloudTaskFinalizerKey]
  spec := {
    image := "busybox"
    command := []
    args := []
    resources := none
    retries := 0
    timeout := ""
    tenantID := "a"
    priority := 5
    env := []
    volumeMounts := []
    labels := StringMap.empty.set name value
    annotations := .empty }
  status := .zero

/-- A server that has the task and no pods, and refuses nothing. -/
def servedTask (cloudTask : CloudTask) : List Call → (call : Call) → Answer call
  | _, .getCloudTask _ => .ok cloudTask
  | _, .updateCloudTask sent => .ok sent
  | _, .updateStatus sent => .ok sent
  | _, .getPod key => .error (notFoundError "pods" key.name)
  | _, .createPod _ => .ok ()
  | _, .deletePod key => .error (notFoundError "pods" key.name)
  | _, .now => (0 : Nat)

def podOf (cloudTask : CloudTask) : Pod :=
  setControllerReference cloudTask (constructPod (fun _ => none) cloudTask)

theorem labelledTask_creates (name value : String) :
    Creates (fun _ => none) (labelledTask name value) (podOf (labelledTask name value)) := by
  refine ⟨servedTask (labelledTask name value), ⟨?_, ?_⟩, ?_⟩
  · intro issued key found answered
    cases answered
    exact ⟨rfl, rfl⟩
  · intro issued sent stored answered
    cases answered
    exact ⟨rfl, rfl⟩
  · have begins : [.getCloudTask ⟨"tenant-a", "job"⟩, .createPod (podOf (labelledTask name value))] <+:
        (reconcile (fun _ => none) ⟨"tenant-a", "job"⟩).trace
          (servedTask (labelledTask name value)) [] :=
      ⟨[_, _], rfl⟩
    exact begins.subset (by simp)

theorem team_label_authentic :
    Creates (fun _ => none) (labelledTask "team" "x") (podOf (labelledTask "team" "x")) ∧
      Authentic (labelledTask "team" "x") (podOf (labelledTask "team" "x")) := by
  refine ⟨labelledTask_creates "team" "x", ?_⟩
  refine (labels_authentic_iff _ _ _ (labelledTask_creates "team" "x")).mpr ?_
  intro label member value given
  simp only [systemLabels, List.mem_cons, List.not_mem_nil, or_false] at member
  rcases member with rfl | rfl | rfl
  · cases given
  · cases given
  · cases given

/-- The pod of a task of tenant `a` is labelled as one of tenant `b`. -/
theorem tenant_label_forged :
    Creates (fun _ => none) (labelledTask "tenant-id" "b") (podOf (labelledTask "tenant-id" "b")) ∧
      (podOf (labelledTask "tenant-id" "b")).labels "tenant-id" = some "b" ∧
      ¬ Authentic (labelledTask "tenant-id" "b") (podOf (labelledTask "tenant-id" "b")) := by
  refine ⟨labelledTask_creates "tenant-id" "b", rfl, ?_⟩
  intro authentic
  have carried := authentic.system ("tenant-id", "a") (by simp [systemLabels, labelledTask])
  exact absurd carried (by decide)

end CloudOS.Orchestrator.PodLabels
