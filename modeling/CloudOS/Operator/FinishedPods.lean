import CloudOS.Operator.ReconcileEval

/-!
# When a finished pod is reported

`Reconcile` looks at the pod of a TaskJob only after the dependency check has
passed.  Completed TaskJobs may be deleted by users; a TaskJob that is still
running then fails the check, with NotFound, on every further reconcile, and
its pod is not looked at any more.
-/

set_option autoImplicit false

namespace CloudOS.Operator.FinishedPods

open CloudOS.Kubernetes.Objects
open CloudOS.Lib.CallProgram
open CloudOS.Lib.VersionedStore
open CloudOS.Operator.DependencySafety
open CloudOS.Operator.ReconcileEval
open CloudOS.Operator.ReconcileOutline
open CloudOS.Operator.TaskJobReconcile
open CloudOS.Operator.TaskJobCluster

/-- The environment of `TaskJobCluster`, and users who delete TaskJobs that are
completed. -/
inductive DeletingEnvironment (w : Cluster) : Cluster → Prop
  | usual (w' : Cluster) (moves : Environment w w') : DeletingEnvironment w w'
  | deleteCompleted (key : ObjectKey) (entry : Versioned JobRecord)
      (found : w.jobs.cell key = some entry)
      (completed : entry.value.status.phase = .completed) :
      DeletingEnvironment w { w with jobs := w.jobs.erase key }

def deletingSystem (parseQuantity : String → Option ℚ) :
    System ObjectKey Cluster Call Answer Exit :=
  { system parseQuantity with environment := DeletingEnvironment }

/-! ## One pod for each TaskJob -/

/-- Task pods have the name the controller gives them, so there is at most one
for each TaskJob. -/
structure OnePodEach (w : Cluster) : Prop where
  named : ∀ pod ∈ w.pods, ∀ name, pod.labels taskIdLabel = some name →
    pod.key.name = "taskjob-" ++ name
  single : ∀ ns name, (w.pods.filter (labelledFor ns name)).length ≤ 1

theorem labelledFor_iff {ns name : String} {pod : Pod} :
    labelledFor ns name pod = true ↔ IsPodOf pod ⟨ns, name⟩ := by
  simp [labelledFor, IsPodOf]

theorem pods_of_task {w : Cluster} (one : OnePodEach w) {key : ObjectKey} {pod : Pod}
    (member : pod ∈ w.pods) (isPod : IsPodOf pod key) :
    w.pods.filter (labelledFor key.ns key.name) = [pod] := by
  have listed : pod ∈ w.pods.filter (labelledFor key.ns key.name) :=
    List.mem_filter.mpr ⟨member, labelledFor_iff.mpr isPod⟩
  have few := one.single key.ns key.name
  generalize w.pods.filter (labelledFor key.ns key.name) = items at listed few
  match items with
  | [] => cases listed
  | [only] => rw [List.mem_singleton.mp listed]
  | _ :: _ :: _ => simp at few

theorem onePodEach_of_pods_eq {w w' : Cluster} (one : OnePodEach w) (same : w'.pods = w.pods) :
    OnePodEach w' := by
  constructor
  · rw [same]
    exact one.named
  · rw [same]
    exact one.single

theorem onePodEach_kept {w w' : Cluster} (one : OnePodEach w)
    (older : ∀ pod ∈ w'.pods, ∀ name, pod.labels taskIdLabel = some name →
      ∃ earlier ∈ w.pods, earlier.key = pod.key ∧ earlier.labels taskIdLabel = some name)
    (fewer : ∀ ns name, (w'.pods.filter (labelledFor ns name)).length ≤
      (w.pods.filter (labelledFor ns name)).length) : OnePodEach w' := by
  constructor
  · intro pod member name labelled
    obtain ⟨earlier, before, key, label⟩ := older pod member name labelled
    rw [← key]
    exact one.named earlier before name label
  · exact fun ns name => (fewer ns name).trans (one.single ns name)

theorem environment_fewer {w w' : Cluster} (moves : Environment w w') (ns name : String) :
    (w'.pods.filter (labelledFor ns name)).length ≤
      (w.pods.filter (labelledFor ns name)).length := by
  cases moves with
  | createTaskJob key spec absent => exact Nat.le_refl _
  | editSpec key entry spec found sameDeps => exact Nat.le_refl _
  | podMoves before after pod status split forward =>
      have sameLabel : labelledFor ns name { pod with status := status } =
          labelledFor ns name pod := rfl
      rw [split]
      simp only [List.filter_append, List.filter_cons, sameLabel, List.length_append]
      split <;> simp
  | podRemoved before after pod split =>
      have sub : (before ++ after).Sublist w.pods := by
        rw [split]
        exact List.Sublist.append_left (List.sublist_cons_self pod after) before
      exact (sub.filter _).length_le
  | foreignPod pod unlabelled =>
      have notTask : labelledFor ns name { pod with uid := w.nextUid } = false := by
        simp [labelledFor, unlabelled]
      simp [List.filter_append, notTask]
  | tick later => exact Nat.le_refl _

theorem environment_onePodEach {w w' : Cluster} (one : OnePodEach w) (moves : Environment w w') :
    OnePodEach w' := by
  apply onePodEach_kept one
  · intro pod member name labelled
    obtain ⟨earlier, before, key, labels, _⟩ := environment_pods moves member labelled
    exact ⟨earlier, before, key, by rw [labels, labelled]⟩
  · exact environment_fewer moves

theorem addPod_onePodEach {parseQuantity : String → Option ℚ} {tj : TaskJob} {pod : Pod}
    {w : Cluster} (one : OnePodEach w) (built : buildPod parseQuantity tj = some pod)
    (free : ∀ other ∈ w.pods, other.key ≠ pod.key) : OnePodEach (addPod w pod) := by
  obtain ⟨named, label⟩ := buildPod_label built
  constructor
  · intro other member name labelled
    rcases List.mem_append.mp member with old | new
    · exact one.named other old name labelled
    · rw [List.mem_singleton] at new
      subst new
      cases Option.some.inj (labelled.symm.trans label)
      simp [named, podNameOf]
  · intro ns name
    by_cases own : labelledFor ns name pod = true
    · have alone : w.pods.filter (labelledFor ns name) = [] := by
        rw [List.filter_eq_nil_iff]
        intro other member otherOwn
        obtain ⟨otherNs, otherLabel⟩ := labelledFor_iff.mp otherOwn
        obtain ⟨ownNs, ownLabel⟩ := labelledFor_iff.mp own
        cases Option.some.inj (label.symm.trans ownLabel)
        have otherName := one.named other member _ otherLabel
        have sameKey : other.key = pod.key := by
          rw [named] at ownNs ⊢
          cases other with
          | mk otherKey =>
              cases otherKey
              simp_all [podNameOf]
        exact free other member sameKey
      have length := List.length_filter_le (labelledFor ns name)
        [{ pod with uid := w.nextUid, status := .fresh }]
      simpa [addPod, List.filter_append, alone] using length
    · have other : labelledFor ns name { pod with uid := w.nextUid, status := .fresh } = false :=
        Bool.eq_false_iff.mpr own
      simpa [addPod, List.filter_append, other] using one.single ns name

def KeepsOnePodEach (w w' : Cluster) : Prop := OnePodEach w → OnePodEach w'

theorem onePodEach_obligations (parseQuantity : String → Option ℚ) (key : ObjectKey) :
    Obligations Outcome (fun _ => True) (fun _ _ => True) KeepsOnePodEach parseQuantity key
      (fun _ => True) (fun _ _ _ => True) where
  begunKept _ _ _ _ := trivial
  kept _ _ _ _ _ _ := trivial
  taskRead a answer b _ _ out := by
    obtain ⟨rfl, _⟩ := outcome_get out
    exact ⟨id, fun _ _ _ => trivial⟩
  dependencyRead tj dep rest a answer b _ _ out := by
    obtain ⟨rfl, _⟩ := outcome_get out
    exact ⟨id, trivial, fun _ _ _ => trivial⟩
  podsListed tj a answer b _ _ out := by
    obtain ⟨rfl, _⟩ := outcome_list out
    exact ⟨id, fun _ _ => ⟨fun _ => trivial, fun _ _ => trivial⟩⟩
  clockRead tj pod a answer b _ _ out := by
    cases outcome_now out
    exact ⟨id, trivial⟩
  podCreated tj pod a answer b _ _ _ built out := by
    rcases outcome_create out with rfl | ⟨rfl, free⟩
    · exact ⟨id, fun _ => trivial, fun _ _ => trivial⟩
    · exact ⟨fun one => addPod_onePodEach one built free, fun _ => trivial, fun _ _ => trivial⟩
  statusWritten tj progress status a answer b _ _ _ out := by
    rcases outcome_update out with rfl | ⟨entry, found, current, rfl⟩
    · exact id
    · exact fun one => onePodEach_of_pods_eq one rfl

def onePodDiscipline (parseQuantity : String → Option ℚ) :
    Discipline (deletingSystem parseQuantity) where
  inv := OnePodEach
  rely _ _ _ := True
  guar _ := KeepsOnePodEach
  rely_refl _ _ := trivial
  rely_trans _ _ _ _ _ _ := trivial
  guar_rely _ _ _ _ _ _ _ := trivial
  environment_rely _ _ _ _ _ := trivial
  guar_inv _ _ _ one keeps := keeps one
  environment_inv a b one moves := by
    cases moves with
    | usual _ moves => exact environment_onePodEach one moves
    | deleteCompleted key entry found completed => exact onePodEach_of_pods_eq one rfl
  outlined key p w allowed _ := by
    cases allowed
    exact reconcile_outlined_as (onePodEach_obligations parseQuantity key)
      (fun _ _ => trivial) (fun _ _ keeps => keeps) w

theorem unstarted_onePodEach {c : Configuration} (unstarted : Unstarted c) :
    OnePodEach c.world := by
  constructor
  · intro pod member name labelled
    simp [unstarted.noPods pod member] at labelled
  · intro ns name
    have noPods : c.world.pods.filter (labelledFor ns name) = [] := by
      rw [List.filter_eq_nil_iff]
      intro pod member own
      simp [labelledFor, unstarted.noPods pod member] at own
    simp [noPods]

theorem reachable_onePodEach (parseQuantity : String → Option ℚ) {start c : Configuration}
    {history : List (Configuration × Event ObjectKey Call Answer)} (unstarted : Unstarted start)
    (run : (deletingSystem parseQuantity).Run start history c) : OnePodEach c.world := by
  have sound := (onePodDiscipline parseQuantity).sound_of_idle start
    (unstarted_onePodEach unstarted) unstarted.idle
  exact ((onePodDiscipline parseQuantity).run_sound sound run).1

/-! ## The report -/

def Reported (w : Cluster) (key : ObjectKey) (pod : Pod) : Prop :=
  ∃ entry, w.jobs.cell key = some entry ∧
    reportedPhase pod.status.phase = some entry.value.status.phase

theorem reported_terminal {pod : Pod} {phase : TaskPhase}
    (finished : pod.status.phase.terminated = true)
    (reported : reportedPhase pod.status.phase = some phase) : TaskPhase.terminal phase := by
  cases ended : pod.status.phase with
  | succeeded =>
      rw [ended] at reported
      exact Or.inl (Option.some.inj reported).symm
  | failed =>
      rw [ended] at reported
      exact Or.inr (Option.some.inj reported).symm
  | pending => simp [ended, PodPhase.terminated] at finished
  | running => simp [ended, PodPhase.terminated] at finished
  | unknown => simp [ended, PodPhase.terminated] at finished

/-- In every reachable state, one fault-free reconcile of a TaskJob whose pod
has finished reports this exactly when all its dependencies are still there and
completed. -/
theorem finished_pod_reported_iff (parseQuantity : String → Option ℚ)
    (start c : Configuration) (history : List (Configuration × Event ObjectKey Call Answer))
    (unstarted : Unstarted start) (run : (deletingSystem parseQuantity).Run start history c)
    (key : ObjectKey) (entry : Versioned JobRecord)
    (found : c.world.jobs.cell key = some entry)
    (live : ¬ TaskPhase.terminal entry.value.status.phase)
    (pod : Pod) (member : pod ∈ c.world.pods) (isPod : IsPodOf pod key)
    (finished : pod.status.phase.terminated = true) :
    Reported (afterReconcile parseQuantity key c.world) key pod ↔
      ∀ dep ∈ entry.value.spec.dependsOn, CompletedIn c.world key.ns dep := by
  constructor
  · rintro ⟨entry', found', reported⟩
    by_contra waiting
    have final := reported_terminal finished reported
    rcases afterReconcile_waiting parseQuantity found live waiting with
      ⟨same, _⟩ | ⟨status, queued, written⟩
    · rw [same] at found'
      cases Option.some.inj (found'.symm.trans found)
      exact live final
    · rw [written] at found'
      cases Option.some.inj ((put_cell_self _ _ _).symm.trans found')
      have phase : TaskPhase.terminal status.phase := final
      rw [queued] at phase
      rcases phase with impossible | impossible <;> cases impossible
  · intro completed
    have single := pods_of_task (reachable_onePodEach parseQuantity unstarted run) member isPod
    have first : (c.world.pods.filter (labelledFor key.ns key.name)).head? = some pod := by
      rw [single]
      rfl
    have synced : afterReconcile parseQuantity key c.world = _ :=
      congrArg Prod.snd (reconcile_eval_sync parseQuantity found live completed first)
    rcases syncStatus_eval found pod with ⟨unknown, _⟩ | ⟨status, reported, written⟩
    · cases ended : pod.status.phase <;> simp [ended, reportedPhase, PodPhase.terminated]
        at unknown finished
    · rw [written] at synced
      exact ⟨⟨c.world.jobs.next, ⟨entry.value.spec, status⟩⟩, by simp [synced, writeJobStatus],
        reported⟩

/-! ### `b` started after `a`; then `a` is deleted or not -/

theorem bothSucceed {w : Cluster} (same : w.pods = bothStarted.pods) :
    Environment w (podsSucceed w) := by
  obtain ⟨podA, podB, pods, succeeded, phase⟩ : ∃ podA podB, bothStarted.pods = [podA, podB] ∧
      { podA with status := { podA.status with phase := .succeeded } } = podA ∧
      podB.status.phase = .pending := ⟨_, _, rfl, rfl, rfl⟩
  have move := Environment.podMoves [podA] [] podB
    { podB.status with phase := .succeeded } (same.trans pods)
    (by simp [PodPhase.Forward, phase, PodPhase.terminated, PodPhase.rank])
  simpa [podsSucceed, same, pods, succeeded] using move

theorem bothStarted_deleting_run : ∃ history, (deletingSystem fun _ => some 1).Run
    ⟨twoJobs, fun _ => none⟩ history ⟨bothStarted, fun _ => none⟩ := by
  obtain ⟨history, run⟩ := bothStarted_run
  exact ⟨history, run.of_environment fun _ _ => .usual _⟩

theorem twoJobs_unstarted : Unstarted ⟨twoJobs, fun _ => none⟩ :=
  ⟨fun key entry found => by rw [twoJobs_initial.fresh key entry found]; rfl,
    twoJobs_initial.noPods, twoJobs_initial.idle⟩

theorem b_reported :
    Unstarted ⟨twoJobs, fun _ => none⟩ ∧
    (∃ history, (deletingSystem fun _ => some 1).Run ⟨twoJobs, fun _ => none⟩ history
      ⟨podsSucceed bothStarted, fun _ => none⟩) ∧
    ∃ entry pod, (podsSucceed bothStarted).jobs.cell ⟨"default", "b"⟩ = some entry ∧
      ¬ TaskPhase.terminal entry.value.status.phase ∧
      pod ∈ (podsSucceed bothStarted).pods ∧ IsPodOf pod ⟨"default", "b"⟩ ∧
      pod.status.phase.terminated = true ∧
      Reported (afterReconcile (fun _ => some 1) ⟨"default", "b"⟩ (podsSucceed bothStarted))
        ⟨"default", "b"⟩ pod := by
  obtain ⟨history, run⟩ := bothStarted_deleting_run
  have finished := run.snoc (.environment _ _ (.usual _ (bothSucceed rfl)))
  obtain ⟨entry, found, phase, deps⟩ : ∃ entry,
      (podsSucceed bothStarted).jobs.cell ⟨"default", "b"⟩ = some entry ∧
      entry.value.status.phase = .running ∧ entry.value.spec.dependsOn = ["a"] :=
    ⟨_, rfl, rfl, rfl⟩
  obtain ⟨pod, member, isPod, ended⟩ : ∃ pod, pod ∈ (podsSucceed bothStarted).pods ∧
      IsPodOf pod ⟨"default", "b"⟩ ∧ pod.status.phase.terminated = true :=
    ⟨_, List.mem_cons_of_mem _ (List.mem_singleton_self _), ⟨rfl, rfl⟩, rfl⟩
  have live : ¬ TaskPhase.terminal entry.value.status.phase := by
    simp [phase, TaskPhase.terminal]
  have completed : ∀ dep ∈ entry.value.spec.dependsOn,
      CompletedIn (podsSucceed bothStarted) "default" dep := by
    intro dep depMember
    rw [deps, List.mem_singleton] at depMember
    subst depMember
    exact ⟨_, rfl, rfl⟩
  exact ⟨twoJobs_unstarted, ⟨_, finished⟩, entry, pod, found, live, member, isPod, ended,
    (finished_pod_reported_iff (fun _ => some 1) _ _ _ twoJobs_unstarted finished _ entry found
      live pod member isPod ended).mpr completed⟩

/-- `a` has been deleted and the pod of `b` has succeeded. -/
def orphaned : Cluster :=
  podsSucceed { bothStarted with jobs := bothStarted.jobs.erase ⟨"default", "a"⟩ }

/-- A reachable state in which the pod of `b` has succeeded and a reconcile of
`b` leaves it Running. -/
theorem orphaned_not_reported :
    Unstarted ⟨twoJobs, fun _ => none⟩ ∧
    (∃ history, (deletingSystem fun _ => some 1).Run ⟨twoJobs, fun _ => none⟩ history
      ⟨orphaned, fun _ => none⟩) ∧
    (∃ pod ∈ orphaned.pods, IsPodOf pod ⟨"default", "b"⟩ ∧ pod.status.phase = .succeeded) ∧
    (∃ entry, orphaned.jobs.cell ⟨"default", "b"⟩ = some entry ∧
      entry.value.status.phase = .running) ∧
    ∃ entry, (afterReconcile (fun _ => some 1) ⟨"default", "b"⟩ orphaned).jobs.cell
      ⟨"default", "b"⟩ = some entry ∧ entry.value.status.phase = .running := by
  obtain ⟨history, run⟩ := bothStarted_deleting_run
  have deleted := run.snoc (.environment _ _
    (.deleteCompleted (w := bothStarted) ⟨"default", "a"⟩ _ rfl rfl))
  have finished := deleted.snoc (.environment _ _ (.usual _ (bothSucceed rfl)))
  refine ⟨twoJobs_unstarted, ⟨_, finished⟩, ?_, ⟨_, rfl, rfl⟩, ⟨_, rfl, rfl⟩⟩
  exact ⟨_, List.mem_cons_of_mem _ (List.mem_singleton_self _), ⟨rfl, rfl⟩, rfl⟩

end CloudOS.Operator.FinishedPods
