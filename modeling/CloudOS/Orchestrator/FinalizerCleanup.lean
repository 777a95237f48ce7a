import CloudOS.Orchestrator.PodRecovery
import CloudOS.Orchestrator.ReconcileCalls

/-!
# What the finalizer of a CloudTask cleans up

The deletion path deletes the pod that `Status.PodName` names and then removes
the finalizer.  A pod the status does not name is left behind: one whose
creation was never recorded, or a failed one whose name the retry has cleared.
Whenever a reconcile that reads a task marked for deletion finds such a pod
already deleted or gone, the finalizer is removed only after cleanup.
-/

set_option autoImplicit false

namespace CloudOS.Orchestrator.FinalizerCleanup

open CloudOS.Kubernetes.Objects
open CloudOS.Lib.CallProgram
open CloudOS.Lib.VersionedStore
open CloudOS.Orchestrator.CloudTaskReconcile
open CloudOS.Orchestrator.CloudTaskCluster
open CloudOS.Orchestrator.RetryInvariant
open CloudOS.Orchestrator.RetryAccounting
open CloudOS.Orchestrator.PodRecovery
open CloudOS.Orchestrator.ReconcileCalls

def Cleaned (key : ObjectKey) (w : Cluster) : Prop :=
  ∀ pod, w.pods (podKey key) = some pod → pod.deleting = true

def HasFinalizer (key : ObjectKey) (w : Cluster) : Prop :=
  ∃ entry, w.tasks.cell key = some entry ∧ cloudTaskFinalizerKey ∈ entry.value.finalizers

/-- The finalizer is there before and not after, be it that the task has gone
with it. -/
def RemovesFinalizer (key : ObjectKey) (w w' : Cluster) : Prop :=
  HasFinalizer key w ∧ ¬ HasFinalizer key w'

def CleansUp (key : ObjectKey) (w w' : Cluster) : Prop :=
  RemovesFinalizer key w w' → Cleaned key w'

/-! ## Runs in which the status names what has to be deleted -/

/-- A task marked for deletion that names no pod has none left to delete. -/
def Traceable (key : ObjectKey) (w : Cluster) : Prop :=
  ∀ entry, w.tasks.cell key = some entry → entry.value.deletionTimestamp.isSome →
    entry.value.status.podName = "" → Cleaned key w

/-- The call reads the task, and is answered. -/
def ReadsTask (key : ObjectKey) : (op : Call) → Answer op → Prop
  | .getCloudTask name, .ok _ => name = key
  | _, _ => False

/-- The outcomes of a call; a reconcile reads its task only where it is
traceable. -/
structure TracedOutcome (caller : ObjectKey) (op : Call) (w : Cluster) (answer : Answer op)
    (w' : Cluster) : Prop where
  outcome : Outcome caller op w answer w'
  traced : ReadsTask caller op answer → Traceable caller w

def tracedSystem (parseQuantity : String → Option ℚ) :
    System ObjectKey Cluster Call Answer Exit :=
  { system parseQuantity with outcome := TracedOutcome }

/-! ## Who removes a finalizer -/

section Finalizer
variable {key other : ObjectKey} {w w' : Cluster}

theorem hasFinalizer_of_tasks (has : HasFinalizer key w) (same : w'.tasks = w.tasks) :
    HasFinalizer key w' := by
  obtain ⟨entry, found, member⟩ := has
  exact ⟨entry, by rw [same]; exact found, member⟩

theorem hasFinalizer_put {record : TaskRecord} (has : HasFinalizer key w)
    (tasks : w'.tasks = w.tasks.put other record)
    (new : key = other → cloudTaskFinalizerKey ∈ record.finalizers) : HasFinalizer key w' := by
  obtain ⟨entry, found, member⟩ := has
  by_cases same : key = other
  · refine ⟨⟨w.tasks.next, record⟩, ?_, new same⟩
    rw [tasks, same]
    exact put_cell_self w.tasks other record
  · refine ⟨entry, ?_, member⟩
    rw [tasks, put_cell_of_ne w.tasks record same]
    exact found

theorem hasFinalizer_storeMetadata {record : TaskRecord} (has : HasFinalizer key w)
    (new : key = other → cloudTaskFinalizerKey ∈ record.finalizers) :
    HasFinalizer key (storeMetadata w other record) := by
  unfold storeMetadata
  by_cases last : record.deletionTimestamp.isSome ∧ record.finalizers = []
  · rw [if_pos last]
    have different : key ≠ other := by
      intro same
      have member := new same
      rw [last.2] at member
      cases member
    obtain ⟨entry, found, member⟩ := has
    exact ⟨entry, by rw [erase_cell_of_ne w.tasks different]; exact found, member⟩
  · rw [if_neg last]
    exact hasFinalizer_put has rfl new

theorem environment_hasFinalizer (has : HasFinalizer key w) (moves : Environment w w') :
    HasFinalizer key w' := by
  cases moves with
  | createTask other spec finalizers absent retries =>
      refine hasFinalizer_put has rfl ?_
      intro same
      obtain ⟨entry, found, _⟩ := has
      rw [same, absent] at found
      cases found
  | editSpec other entry spec found sameRetries =>
      refine hasFinalizer_put has rfl ?_
      rintro rfl
      obtain ⟨entry', found', member⟩ := has
      cases Option.some.inj (found'.symm.trans found)
      exact member
  | requestDeletion other entry found =>
      refine hasFinalizer_storeMetadata has ?_
      rintro rfl
      obtain ⟨entry', found', member⟩ := has
      cases Option.some.inj (found'.symm.trans found)
      exact member
  | podMoves name pod status found forward => exact hasFinalizer_of_tasks has rfl
  | podRemoved name => exact hasFinalizer_of_tasks has rfl
  | tick later => exact hasFinalizer_of_tasks has rfl

/-- Only an update that leaves the finalizer out removes it. -/
def KeepsFinalizer : Call → Prop
  | .updateCloudTask task => cloudTaskFinalizerKey ∈ task.finalizers
  | _ => True

theorem outcome_hasFinalizer {caller : ObjectKey} {op : Call} {answer : Answer op}
    (keeps : KeepsFinalizer op) (out : Outcome caller op w answer w')
    (has : HasFinalizer key w) : HasFinalizer key w' := by
  cases op with
  | getCloudTask name =>
      obtain ⟨rfl, _⟩ := outcome_getCloudTask out
      exact has
  | updateCloudTask task =>
      rcases outcome_updateCloudTask out with ⟨rfl, _⟩ | ⟨entry, _, _, rfl, _⟩
      · exact has
      · exact hasFinalizer_storeMetadata has fun _ => keeps
  | updateStatus task =>
      rcases outcome_updateStatus out with ⟨rfl, _⟩ | ⟨entry, found, _, rfl, _⟩
      · exact has
      · refine hasFinalizer_put has (storeStatus_tasks w task.key entry.value task.status) ?_
        rintro rfl
        obtain ⟨entry', found', member⟩ := has
        cases Option.some.inj (found'.symm.trans found)
        exact member
  | getPod name =>
      rcases outcome_getPod out with ⟨rfl, _⟩ | ⟨pod, _, _, rfl⟩
      · exact has
      · exact hasFinalizer_of_tasks has rfl
  | createPod pod =>
      rcases outcome_createPod out with ⟨rfl, _⟩ | ⟨_, rfl⟩
      · exact has
      · exact hasFinalizer_of_tasks has rfl
  | deletePod name =>
      rcases outcome_deletePod out with rfl | ⟨pod, _, rfl⟩
      · exact has
      · exact hasFinalizer_of_tasks has rfl
  | now =>
      cases outcome_now out
      exact has

theorem cleansUp_of_keeps {caller : ObjectKey} {op : Call} {answer : Answer op}
    (out : TracedOutcome caller op w answer w') (keeps : KeepsFinalizer op) :
    CleansUp key w w' :=
  fun removes => absurd (outcome_hasFinalizer keeps out.outcome removes.1) removes.2

end Finalizer

/-! ## Reconciling a task that is not being deleted -/

section Calls

theorem ensureFinalizer_calls (task : CloudTask) :
    (ensureFinalizer task).Calls KeepsFinalizer := by
  unfold ensureFinalizer
  by_cases present : cloudTaskFinalizerKey ∈ task.finalizers
  · rw [if_pos present]
    trivial
  · rw [if_neg present]
    exact ⟨List.mem_append_right _ (List.mem_singleton_self _), fun _ => trivial⟩

theorem permits_keepsFinalizer : Permits KeepsFinalizer :=
  ⟨fun _ => trivial, fun _ => trivial, trivial⟩

end Calls

/-! ## Reconciling a task marked for deletion -/

theorem getPod_notFound {caller name : ObjectKey} {w w' : Cluster}
    {answer : Answer (.getPod name)} (out : Outcome caller (.getPod name) w answer w')
    {err : ApiError} (failed : answer = Except.error err) (missing : err.reason = .notFound) :
    w'.pods name = none := by
  cases out with
  | served =>
      cases there : w.pods name with
      | none =>
          simp only [serve, there]
      | some pod =>
          simp only [serve, there] at failed
          cases failed
  | refused reason _ unavailable =>
      cases unavailable
      cases failed
      cases missing
  | replyLost reason _ unavailable isWrite => cases isWrite

theorem deletePod_ok {caller name : ObjectKey} {w w' : Cluster}
    {answer : Answer (.deletePod name)} (out : Outcome caller (.deletePod name) w answer w')
    (done : answer = Except.ok ()) : ∀ pod, w'.pods name = some pod → pod.deleting = true := by
  cases out with
  | served =>
      cases there : w.pods name with
      | none =>
          simp only [serve, there] at done
          cases done
      | some pod =>
          intro pod' there'
          simp only [serve, there, Function.update_self, Option.some.injEq] at there'
          rw [← there']
  | refused reason _ unavailable =>
      cases unavailable
      cases done
  | replyLost reason _ unavailable isWrite =>
      cases unavailable
      cases done

theorem updateCloudTask_pods {caller : ObjectKey} {task : CloudTask} {w w' : Cluster}
    {answer : Answer (.updateCloudTask task)}
    (out : Outcome caller (.updateCloudTask task) w answer w') : w'.pods = w.pods := by
  rcases outcome_updateCloudTask out with ⟨rfl, _⟩ | ⟨entry, _, _, rfl, _⟩
  · rfl
  · unfold storeMetadata
    split <;> rfl

/-- What a reconcile may assume of the others: they do not undo a cleanup. -/
structure TracedRely (key : ObjectKey) (w w' : Cluster) : Prop where
  rely : Rely key w w'
  cleaned : Cleaned key w → Cleaned key w'

abbrev CleanOutlined {α : Type} (key : ObjectKey) (p : Prog Call Answer α)
    (post : α → Cluster → Prop) (w : Cluster) : Prop :=
  p.Outline (TracedOutcome key) Accounted (TracedRely key) (CleansUp key) post w

theorem deleteExternalResources_cleans (task : CloudTask) (w : Cluster) (snap : Snap task w)
    (traced : task.status.podName = "" → Cleaned task.key w) :
    CleanOutlined task.key (deleteExternalResources task)
      (fun result a => result = none → Cleaned task.key a) w := by
  unfold deleteExternalResources
  by_cases named : task.status.podName = ""
  · rw [if_pos named]
    exact fun _ => traced named
  · rw [if_neg named]
    simp only [podKey_of_named snap named]
    apply Prog.Outline.of_perform (fun _ => True) trivial (fun _ _ _ _ => trivial)
    intro a answer b _ _ out
    refine ⟨cleansUp_of_keeps out trivial, ?_⟩
    cases answer with
    | error err =>
        by_cases missing : err.reason = .notFound
        · simp only [missing, if_true]
          intro _ pod there
          rw [getPod_notFound out.outcome rfl missing] at there
          cases there
        · simp only [missing, if_false]
          exact fun none => nomatch none
    | ok pod =>
        apply Prog.Outline.of_perform (fun _ => True) trivial (fun _ _ _ _ => trivial)
        intro c answer' d _ _ out'
        refine ⟨cleansUp_of_keeps out' trivial, ?_⟩
        cases answer' with
        | error err => exact fun none => nomatch none
        | ok done => exact fun _ => deletePod_ok out'.outcome rfl

theorem reconcileDeletion_cleans (task : CloudTask) (w : Cluster) (snap : Snap task w)
    (traced : task.status.podName = "" → Cleaned task.key w) :
    CleanOutlined task.key (reconcileDeletion task) (fun _ _ => True) w := by
  unfold reconcileDeletion
  by_cases present : cloudTaskFinalizerKey ∈ task.finalizers
  · rw [if_pos present]
    apply Prog.Outline.bind (deleteExternalResources_cleans task w snap traced)
    intro result a cleaned
    cases result with
    | some err => trivial
    | none =>
        apply Prog.Outline.of_perform (Cleaned task.key) (cleaned rfl)
          (fun _ _ still moved => moved.cleaned still)
        intro b answer c still _ out
        refine ⟨?_, ?_⟩
        · intro _
          unfold Cleaned
          rw [updateCloudTask_pods out.outcome]
          exact still
        · cases answer <;> trivial
  · rw [if_neg present]
    trivial

theorem reconcile_cleans (parseQuantity : String → Option ℚ) (key : ObjectKey) (w : Cluster) :
    CleanOutlined key (reconcile parseQuantity key) (fun _ _ => True) w := by
  apply Prog.Outline.of_perform (fun _ => True) trivial (fun _ _ _ _ => trivial)
  intro a answer b _ ok out
  refine ⟨cleansUp_of_keeps out trivial, ?_⟩
  obtain ⟨rfl, read⟩ := outcome_getCloudTask out.outcome
  cases answer with
  | error err =>
      exact Prog.Outline.ite (fun _ => trivial) (fun _ => trivial)
  | ok task =>
      obtain ⟨entry, found, rfl⟩ := read task rfl
      by_cases deleted : (toCloudTask key entry).deletionTimestamp.isSome
      · simp only [deleted, if_true]
        exact reconcileDeletion_cleans (toCloudTask key entry) b (snap_of_cell ok found)
          (out.traced rfl entry found deleted)
      · simp only [deleted]
        refine Prog.Outline.of_calls ?_ fun _ _ _ _ keeps out => cleansUp_of_keeps out keeps
        refine (ensureFinalizer_calls _).bind ?_
        rintro (err | owned)
        · trivial
        · refine (lookupPod_calls permits_keepsFinalizer owned).bind ?_
          rintro (err | _ | pod)
          · trivial
          · exact reconcileWithoutPod_calls permits_keepsFinalizer parseQuantity owned trivial
          · exact reconcileWithPod_calls permits_keepsFinalizer owned pod

/-! ## Every interleaving -/

theorem cleaned_of_pods {key : ObjectKey} {w w' : Cluster}
    (same : w'.pods (podKey key) = w.pods (podKey key)) (cleaned : Cleaned key w) :
    Cleaned key w' := by
  unfold Cleaned
  rw [same]
  exact cleaned

theorem environment_cleaned {key : ObjectKey} {w w' : Cluster} (cleaned : Cleaned key w)
    (moves : Environment w w') : Cleaned key w' := by
  cases moves with
  | createTask other spec finalizers absent retries => exact cleaned
  | editSpec other entry spec found sameRetries => exact cleaned
  | requestDeletion other entry found =>
      refine cleaned_of_pods ?_ cleaned
      unfold storeMetadata
      split <;> rfl
  | podMoves name pod status found forward =>
      intro pod' there
      by_cases same : podKey key = name
      · subst same
        simp only [Function.update_self, Option.some.injEq] at there
        subst there
        exact cleaned pod found
      · simp only [Function.update_of_ne same] at there
        exact cleaned pod' there
  | podRemoved name =>
      intro pod' there
      by_cases same : podKey key = name
      · subst same
        simp at there
      · simp only [Function.update_of_ne same] at there
        exact cleaned pod' there
  | tick later => exact cleaned

def tracedDiscipline (parseQuantity : String → Option ℚ) :
    Discipline (tracedSystem parseQuantity) where
  inv := Accounted
  rely := TracedRely
  guar key w w' := Guarantee key w w' ∧ CleansUp key w w'
  rely_refl key w := ⟨rely_refl key w, id⟩
  rely_trans key a b c first second :=
    ⟨rely_trans key a b c first.rely second.rely,
      fun cleaned => second.cleaned (first.cleaned cleaned)⟩
  guar_rely key other different w w' _ move :=
    ⟨guarantee_rely key other different w w' move.1,
      cleaned_of_pods (move.1.pod _ fun same => different (podKey_injective same).symm)⟩
  environment_rely key _ _ _ moves :=
    ⟨environment_rely key moves, fun cleaned => environment_cleaned cleaned moves⟩
  guar_inv _ _ _ _ move := move.1.accounted
  environment_inv _ _ ok moves := environment_accounted ok moves
  outlined key p w allowed _ := by
    cases allowed
    refine ((reconcile_guaranteed parseQuantity key w).and (reconcile_cleans parseQuantity key w)
      (fun _ _ _ _ out => out.outcome) (fun _ _ moved => moved.rely)).mono
      (fun _ ok => ok) (fun _ _ _ move => move) (fun _ _ _ => trivial)

/-- In every run in which a reconcile reads a task marked for deletion only
where every pod the status does not name has been deleted: a step that removes
the finalizer of a task leaves no pod of it that is not being deleted. -/
theorem finalizer_cleans_up (parseQuantity : String → Option ℚ) (start c c' : Configuration)
    (history : List (Configuration × Event ObjectKey Call Answer))
    (event : Event ObjectKey Call Answer) (initial : Initial start)
    (run : (tracedSystem parseQuantity).Run start history c)
    (step : (tracedSystem parseQuantity).Step c event c') (key : ObjectKey)
    (removes : RemovesFinalizer key c.world c'.world) : Cleaned key c'.world := by
  have sound := (tracedDiscipline parseQuantity).run_sound
    ((tracedDiscipline parseQuantity).sound_of_idle start (initial_accounted start initial)
      initial.idle) run
  obtain ⟨has, hasNot⟩ := removes
  rcases (tracedDiscipline parseQuantity).step_world sound step with same | ⟨tid, move⟩ | moves
  · rw [same] at hasNot
    exact absurd has hasNot
  · by_cases own : tid = key
    · subst own
      exact move.2 ⟨has, hasNot⟩
    · obtain ⟨entry, found, member⟩ := has
      refine absurd ⟨entry, ?_, member⟩ hasNot
      rw [move.1.task key (Ne.symm own)]
      exact found
  · exact absurd (environment_hasFinalizer has moves) hasNot

/-! ### A pod that is named, and one that is not -/

def marked (w : Cluster) : Cluster :=
  match w.tasks.cell flakyKey with
  | none => w
  | some entry => storeMetadata w flakyKey { entry.value with
      deletionTimestamp := some (entry.value.deletionTimestamp.getD w.clock) }

theorem marked_environment {w : Cluster} (there : (w.tasks.cell flakyKey).isSome) :
    Environment w (marked w) := by
  unfold marked
  cases found : w.tasks.cell flakyKey with
  | none =>
      rw [found] at there
      cases there
  | some entry => exact .requestDeletion flakyKey entry found

theorem traceable_of_cell {w : Cluster} {entry : Versioned TaskRecord}
    (found : w.tasks.cell flakyKey = some entry)
    (known : entry.value.deletionTimestamp = none ∨ entry.value.status.podName ≠ "") :
    Traceable flakyKey w := by
  intro entry' found' deleted unnamed
  cases Option.some.inj (found'.symm.trans found)
  rcases known with kept | named
  · rw [kept] at deleted
    cases deleted
  · exact absurd unnamed named

theorem reconciled_traced : ∃ history, (tracedSystem fun _ => none).Run
    ⟨oneTask, fun _ => none⟩ history ⟨reconciled oneTask, fun _ => none⟩ :=
  (tracedSystem fun _ => none).run_served (serve flakyKey) flakyKey
    (reconcile (fun _ => none) flakyKey) rfl ⟨oneTask, fun _ => none⟩
    ⟨⟨.served, fun _ => traceable_of_cell rfl (Or.inl rfl)⟩, ⟨.served, (nomatch ·)⟩,
      ⟨.served, (nomatch ·)⟩, ⟨.served, (nomatch ·)⟩, ⟨.served, (nomatch ·)⟩, trivial⟩ rfl

theorem named_removal :
    ∃ history c event c', (tracedSystem fun _ => none).Run ⟨oneTask, fun _ => none⟩ history c ∧
      (tracedSystem fun _ => none).Step c event c' ∧
      RemovesFinalizer flakyKey c.world c'.world := by
  obtain ⟨history, run⟩ := reconciled_traced
  have toMarked := run.snoc (.environment _ (marked (reconciled oneTask)) (marked_environment rfl))
  have toStart := toMarked.snoc (.start _ flakyKey _ rfl rfl)
  have toRead := toStart.snoc (.call _ flakyKey (.getCloudTask flakyKey) _ _ _ rfl
    ⟨.served, fun _ => traceable_of_cell rfl (Or.inr (by decide))⟩)
  have toFound := toRead.snoc (.call _ flakyKey (.getPod (podKey flakyKey)) _ _ _ rfl
    ⟨.served, (nomatch ·)⟩)
  have toDeleted := toFound.snoc (.call _ flakyKey (.deletePod (podKey flakyKey)) _ _ _ rfl
    ⟨.served, (nomatch ·)⟩)
  refine ⟨_, _, _, _, toDeleted, .call _ flakyKey (.updateCloudTask _) _ _ _ rfl
    ⟨.served, (nomatch ·)⟩, ⟨_, rfl, List.mem_cons_self⟩, ?_⟩
  rintro ⟨entry, found, _⟩
  cases found

theorem named_pod_deleted :
    ∃ history c event c', (tracedSystem fun _ => none).Run ⟨oneTask, fun _ => none⟩ history c ∧
      (tracedSystem fun _ => none).Step c event c' ∧
      RemovesFinalizer flakyKey c.world c'.world ∧ Cleaned flakyKey c'.world := by
  obtain ⟨history, c, event, c', run, step, removes⟩ := named_removal
  exact ⟨history, c, event, c', run, step, removes,
    finalizer_cleans_up (fun _ => none) _ c c' history event oneTask_initial run step flakyKey
      removes⟩

/-- The pod was created and its status update refused, then the task was
deleted: the finalizer goes and the pod stays. -/
theorem unrecorded_pod_left_behind :
    ∃ history c event c' entry,
      (system fun _ => none).Run ⟨oneTask, fun _ => none⟩ history c ∧
      Initial ⟨oneTask, fun _ => none⟩ ∧
      (system fun _ => none).Step c event c' ∧
      c.world.tasks.cell flakyKey = some entry ∧ entry.value.deletionTimestamp.isSome ∧
      RemovesFinalizer flakyKey c.world c'.world ∧
      c'.world.pods (podKey flakyKey) = some firstPod ∧ ¬ Cleaned flakyKey c'.world := by
  obtain ⟨history, run⟩ := unrecorded_run
  have toMarked := run.snoc (.environment _ (marked unrecorded) (marked_environment rfl))
  have toStart := toMarked.snoc (.start _ flakyKey _ rfl rfl)
  have toRead := toStart.snoc (.call _ flakyKey (.getCloudTask flakyKey) _ _ _
    rfl .served)
  refine ⟨_, _, _, _, _, toRead, oneTask_initial, .call _ flakyKey (.updateCloudTask _) _ _ _
    rfl .served, rfl, rfl, ⟨⟨_, rfl, ?_⟩, ?_⟩, rfl, ?_⟩
  · exact List.mem_cons_self
  · rintro ⟨entry, found, _⟩
    cases found
  · intro cleaned
    cases cleaned firstPod rfl

end CloudOS.Orchestrator.FinalizerCleanup
