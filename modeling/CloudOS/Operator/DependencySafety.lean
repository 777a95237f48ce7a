import CloudOS.Operator.ReconcileOutline
import CloudOS.Operator.TaskJobCluster

/-!
# A pod is started only after its dependencies completed

`checkDependencies` reads the dependencies one at a time and the pod is created
several calls later.  What makes that safe is that Completed and Failed are
absorbing: a status write goes through only on the object that was read, and
`Reconcile` leaves early when it read a terminal phase.  `Evolves` is this fact
as a relation between clusters; every call of every reconcile and every move of
the environment respects it.
-/

set_option autoImplicit false

namespace CloudOS.Operator.DependencySafety

open CloudOS.Kubernetes.Objects
open CloudOS.Lib.CallProgram
open CloudOS.Lib.VersionedStore
open CloudOS.Operator.ReconcileOutline
open CloudOS.Operator.TaskJobReconcile
open CloudOS.Operator.TaskJobCluster

def CompletedIn (w : Cluster) (ns dep : String) : Prop :=
  ∃ entry, w.jobs.cell ⟨ns, dep⟩ = some entry ∧ entry.value.status.phase = .completed

/-- TaskJobs stay, keep their dependency lists, and keep a terminal phase. -/
def Evolves (w w' : Cluster) : Prop :=
  w.jobs.Advances w'.jobs ∧
    ∀ key entry, w.jobs.cell key = some entry →
      ∃ entry', w'.jobs.cell key = some entry' ∧
        entry'.value.spec.dependsOn = entry.value.spec.dependsOn ∧
        (TaskPhase.terminal entry.value.status.phase →
          entry'.value.status.phase = entry.value.status.phase)

/-- Every pod with a task label belongs to a TaskJob whose dependencies are
all completed. -/
def PodsJustified (w : Cluster) : Prop :=
  ∀ pod ∈ w.pods, ∀ name, pod.labels taskIdLabel = some name →
    ∃ entry, w.jobs.cell ⟨pod.key.ns, name⟩ = some entry ∧
      ∀ dep ∈ entry.value.spec.dependsOn, CompletedIn w pod.key.ns dep

/-! ## The evolution of the job store -/

theorem evolves_refl (w : Cluster) : Evolves w w :=
  ⟨advances_refl w.jobs, fun _ entry found => ⟨entry, found, rfl, fun _ => rfl⟩⟩

theorem evolves_trans (a b c : Cluster) (first : Evolves a b) (second : Evolves b c) :
    Evolves a c := by
  refine ⟨advances_trans first.1 second.1, ?_⟩
  intro key entry found
  obtain ⟨entry', found', deps', phase'⟩ := first.2 key entry found
  obtain ⟨entry'', found'', deps'', phase''⟩ := second.2 key entry' found'
  refine ⟨entry'', found'', deps''.trans deps', ?_⟩
  intro terminal
  have kept := phase' terminal
  rw [← kept] at terminal
  exact (phase'' terminal).trans kept

theorem evolves_of_jobs_eq {w w' : Cluster} (same : w'.jobs = w.jobs) : Evolves w w' := by
  refine ⟨same ▸ advances_refl w.jobs, ?_⟩
  intro key entry found
  exact ⟨entry, same ▸ found, rfl, fun _ => rfl⟩

theorem evolves_put {w : Cluster} {key : ObjectKey} {record : JobRecord}
    (allowed : ∀ entry, w.jobs.cell key = some entry →
      record.spec.dependsOn = entry.value.spec.dependsOn ∧
      (TaskPhase.terminal entry.value.status.phase →
        record.status.phase = entry.value.status.phase)) :
    Evolves w { w with jobs := w.jobs.put key record } := by
  refine ⟨put_advances w.jobs key record, ?_⟩
  intro other entry found
  by_cases same : other = key
  · subst same
    obtain ⟨deps, phase⟩ := allowed entry found
    exact ⟨⟨w.jobs.next, record⟩, by simp, deps, phase⟩
  · exact ⟨entry, by simpa [same] using found, rfl, fun _ => rfl⟩

theorem completedIn_kept {w w' : Cluster} (moved : Evolves w w') {ns dep : String}
    (completed : CompletedIn w ns dep) : CompletedIn w' ns dep := by
  obtain ⟨entry, found, phase⟩ := completed
  obtain ⟨entry', found', _, kept⟩ := moved.2 _ entry found
  exact ⟨entry', found', (kept (Or.inl phase)).trans phase⟩

theorem justification_kept {w w' : Cluster} (moved : Evolves w w') {ns name : String}
    (justified : ∃ entry, w.jobs.cell ⟨ns, name⟩ = some entry ∧
      ∀ dep ∈ entry.value.spec.dependsOn, CompletedIn w ns dep) :
    ∃ entry, w'.jobs.cell ⟨ns, name⟩ = some entry ∧
      ∀ dep ∈ entry.value.spec.dependsOn, CompletedIn w' ns dep := by
  obtain ⟨entry, found, completed⟩ := justified
  obtain ⟨entry', found', deps, _⟩ := moved.2 _ entry found
  refine ⟨entry', found', ?_⟩
  intro dep member
  rw [deps] at member
  exact completedIn_kept moved (completed dep member)

theorem podsJustified_kept {w w' : Cluster} (moved : Evolves w w')
    (justified : PodsJustified w)
    (older : ∀ pod ∈ w'.pods, ∀ name, pod.labels taskIdLabel = some name →
      ∃ earlier ∈ w.pods, earlier.key = pod.key ∧
        earlier.labels taskIdLabel = some name) :
    PodsJustified w' := by
  intro pod member name labelled
  obtain ⟨earlier, before, key, label⟩ := older pod member name labelled
  rw [← key]
  exact justification_kept moved (justified earlier before name label)

theorem podsJustified_of_pods_eq {w w' : Cluster} (moved : Evolves w w')
    (justified : PodsJustified w) (same : w'.pods = w.pods) : PodsJustified w' :=
  podsJustified_kept moved justified fun pod member _ labelled =>
    ⟨pod, same ▸ member, rfl, labelled⟩

/-! ## Users and kubelets -/

theorem environment_evolves {w w' : Cluster} (moves : Environment w w') :
    Evolves w w' := by
  cases moves with
  | createTaskJob key spec absent =>
      exact evolves_put fun entry found => by simp [absent] at found
  | editSpec key entry spec found sameDeps =>
      apply evolves_put
      intro current again
      cases Option.some.inj (again.symm.trans found)
      exact ⟨sameDeps, fun _ => rfl⟩
  | podMoves before after pod status split forward => exact evolves_of_jobs_eq rfl
  | podRemoved before after pod split => exact evolves_of_jobs_eq rfl
  | foreignPod pod unlabelled => exact evolves_of_jobs_eq rfl
  | tick later => exact evolves_of_jobs_eq rfl

theorem environment_justified {w w' : Cluster} (justified : PodsJustified w)
    (moves : Environment w w') : PodsJustified w' := by
  apply podsJustified_kept (environment_evolves moves) justified
  intro pod member name labelled
  obtain ⟨earlier, before, key, labels, _⟩ := environment_pods moves member labelled
  exact ⟨earlier, before, key, by rw [labels, labelled]⟩

/-! ## The reconciler -/

def Guarantee (w w' : Cluster) : Prop :=
  Evolves w w' ∧ (PodsJustified w → PodsJustified w')

theorem guarantee_refl (w : Cluster) : Guarantee w w := ⟨evolves_refl w, id⟩

/-- The TaskJob as `Reconcile` read it: not terminal, and if the store still
shows its version, unchanged. -/
structure Holding (tj : TaskJob) (w : Cluster) : Prop where
  live : ¬ TaskPhase.terminal tj.status.phase
  remembered : w.jobs.Remembers tj.key ⟨tj.resourceVersion, ⟨tj.spec, tj.status⟩⟩
  present : ∃ entry, w.jobs.cell tj.key = some entry ∧
    entry.value.spec.dependsOn = tj.spec.dependsOn

/-- In addition every dependency has been seen completed. -/
structure Ready (tj : TaskJob) (w : Cluster) : Prop extends Holding tj w where
  completed : ∀ dep ∈ tj.spec.dependsOn, CompletedIn w tj.key.ns dep

theorem holding_kept {tj : TaskJob} (w w' : Cluster) (holding : Holding tj w)
    (moved : Evolves w w') : Holding tj w' := by
  refine ⟨holding.live, remembers_kept holding.remembered moved.1, ?_⟩
  obtain ⟨entry, found, deps⟩ := holding.present
  obtain ⟨entry', found', deps', _⟩ := moved.2 _ entry found
  exact ⟨entry', found', deps'.trans deps⟩

theorem ready_kept {tj : TaskJob} (w w' : Cluster) (ready : Ready tj w)
    (moved : Evolves w w') : Ready tj w' :=
  ⟨holding_kept w w' ready.toHolding moved,
    fun dep member => completedIn_kept moved (ready.completed dep member)⟩

abbrev Outlined {α : Type} (p : Prog Call Answer α) (post : α → Cluster → Prop)
    (w : Cluster) : Prop :=
  p.Outline Outcome PodsJustified Evolves Guarantee post w

/-- All that a call of a reconcile can do: nothing, a status write on the
record it read, or a pod for a TaskJob whose dependencies are completed. -/
inductive Move (parseQuantity : String → Option ℚ) (w : Cluster) : Cluster → Prop
  | same : Move parseQuantity w w
  | write (tj : TaskJob) (status : TaskJobStatus) (holding : Holding tj w)
      (current : w.jobs.cell tj.key = some ⟨tj.resourceVersion, ⟨tj.spec, tj.status⟩⟩)
      (completing : status.phase = .completed → Ready tj w) :
      Move parseQuantity w (writeJobStatus w tj.key tj.spec status)
  | add (tj : TaskJob) (pod : Pod) (ready : Ready tj w)
      (built : buildPod parseQuantity tj = some pod) : Move parseQuantity w (addPod w pod)

theorem move_evolves {parseQuantity : String → Option ℚ} {w w' : Cluster}
    (move : Move parseQuantity w w') : Evolves w w' := by
  cases move with
  | same => exact evolves_refl w
  | write tj status holding current completing =>
      apply evolves_put
      intro entry found
      cases Option.some.inj (found.symm.trans current)
      exact ⟨rfl, fun terminal => absurd terminal holding.live⟩
  | add tj pod ready built => exact evolves_of_jobs_eq rfl

theorem buildPod_label {parseQuantity : String → Option ℚ} {tj : TaskJob} {pod : Pod}
    (built : buildPod parseQuantity tj = some pod) :
    pod.key = ⟨tj.key.ns, podNameOf tj⟩ ∧ pod.labels taskIdLabel = some tj.key.name := by
  unfold buildPod at built
  cases cpu : parseQuantity (orDefault tj.spec.cpuRequest "500m") with
  | none => simp [cpu] at built
  | some cpuQuantity =>
      cases memory : parseQuantity (orDefault tj.spec.memoryRequest "256Mi") with
      | none => simp [cpu, memory] at built
      | some memoryQuantity =>
          simp only [cpu, memory] at built
          cases built
          exact ⟨rfl, by simp [StringMap.set, taskIdLabel]⟩

theorem addPod_guarantee {parseQuantity : String → Option ℚ} {tj : TaskJob} {pod : Pod}
    (built : buildPod parseQuantity tj = some pod) (w : Cluster) (ready : Ready tj w) :
    Guarantee w (addPod w pod) := by
  have moved : Evolves w (addPod w pod) := evolves_of_jobs_eq rfl
  refine ⟨moved, ?_⟩
  intro justified other member name labelled
  rcases List.mem_append.mp member with old | new
  · exact justification_kept moved (justified other old name labelled)
  · rw [List.mem_singleton] at new
    subst new
    obtain ⟨named, label⟩ := buildPod_label built
    cases Option.some.inj (labelled.symm.trans label)
    obtain ⟨entry, found, deps⟩ := ready.present
    rw [named]
    refine ⟨entry, found, ?_⟩
    intro dep depMember
    rw [deps] at depMember
    exact completedIn_kept moved (ready.completed dep depMember)

theorem move_guarantee {parseQuantity : String → Option ℚ} {w w' : Cluster}
    (move : Move parseQuantity w w') : Guarantee w w' := by
  have moved := move_evolves move
  cases move with
  | same => exact guarantee_refl w
  | write tj status holding current completing =>
      exact ⟨moved, fun justified => podsJustified_of_pods_eq moved justified rfl⟩
  | add tj pod ready built => exact addPod_guarantee built w ready

/-- The reconcile holds `tj`, and of its dependencies only the `remaining` ones
have not been seen completed. -/
def Seen (tj : TaskJob) (remaining : List String) (w : Cluster) : Prop :=
  Holding tj w ∧ ∀ dep ∈ tj.spec.dependsOn, dep ∈ remaining ∨ CompletedIn w tj.key.ns dep

theorem seen_kept (tj : TaskJob) (remaining : List String) (w w' : Cluster)
    (seen : Seen tj remaining w) (moved : Evolves w w') : Seen tj remaining w' :=
  ⟨holding_kept w w' seen.1 moved,
    fun dep member => (seen.2 dep member).imp_right (completedIn_kept moved)⟩

theorem ready_of_seen {tj : TaskJob} {w : Cluster} (seen : Seen tj [] w) : Ready tj w :=
  ⟨seen.1, fun dep member => (seen.2 dep member).resolve_left (by simp)⟩

theorem seen_next {tj : TaskJob} {dep : String} {rest : List String} {w : Cluster}
    (seen : Seen tj (dep :: rest) w) (completed : CompletedIn w tj.key.ns dep) :
    Seen tj rest w := by
  refine ⟨seen.1, ?_⟩
  intro other member
  rcases seen.2 other member with listed | before
  · rcases List.mem_cons.mp listed with rfl | later
    · exact Or.inr completed
    · exact Or.inl later
  · exact Or.inr before

/-- Once pods are looked at, all dependencies have been seen. -/
def unseen : Progress → List String
  | .checking remaining => remaining
  | .listed _ => []
  | .vacant => []
  | .created _ => []

theorem unseen_of_completing {progress : Progress} {phase : TaskPhase}
    (writes : Writes progress phase) (completing : phase = .completed) :
    unseen progress = [] := by
  cases writes with
  | waiting dep rest => cases completing
  | reported pod phase reports => rfl
  | noImage => rfl
  | notCreated => rfl
  | started => rfl

theorem obligations (parseQuantity : String → Option ℚ) (key : ObjectKey) :
    Obligations Outcome (fun _ => True) Evolves (Move parseQuantity) parseQuantity key
      (fun _ => True) (fun tj progress => Seen tj (unseen progress)) where
  begunKept _ _ _ _ := trivial
  kept tj progress := seen_kept tj (unseen progress)
  taskRead a answer b _ _ out := by
    obtain ⟨rfl, read⟩ := outcome_get out
    refine ⟨.same, ?_⟩
    intro tj ok live
    obtain ⟨entry, found, rfl⟩ := read tj ok
    exact ⟨⟨live, remembers_of_cell b.jobs found, entry, found, rfl⟩,
      fun dep member => Or.inl member⟩
  dependencyRead tj dep rest a answer b seen _ out := by
    obtain ⟨rfl, read⟩ := outcome_get out
    refine ⟨.same, seen, ?_⟩
    intro other ok phase
    obtain ⟨entry, found, rfl⟩ := read other ok
    exact seen_next seen ⟨entry, found, phase⟩
  podsListed tj a answer b seen _ out := by
    obtain ⟨rfl, _⟩ := outcome_list out
    exact ⟨.same, fun _ _ => ⟨fun _ => seen, fun _ _ => seen⟩⟩
  clockRead tj pod a answer b seen _ out := by
    cases outcome_now out
    exact ⟨.same, seen⟩
  podCreated tj pod a answer b seen _ _ built out := by
    have move : Move parseQuantity a b := by
      rcases outcome_create out with rfl | ⟨rfl, _⟩
      · exact .same
      · exact .add tj pod (ready_of_seen seen) built
    have next := seen_kept tj [] a b seen (move_evolves move)
    exact ⟨move, fun _ => next, fun _ _ => next⟩
  statusWritten tj progress status a answer b seen _ writes out := by
    rcases outcome_update out with rfl | ⟨entry, found, current, rfl⟩
    · exact .same
    · -- the version matched, so the record overwritten is the live one that was read
      cases seen.1.remembered.2 entry found current
      refine .write tj status seen.1 found ?_
      intro phase
      rw [unseen_of_completing writes phase] at seen
      exact ready_of_seen seen

theorem reconcile_outlined (parseQuantity : String → Option ℚ) (key : ObjectKey)
    (w : Cluster) : Outlined (reconcile parseQuantity key) (fun _ _ => True) w :=
  reconcile_outlined_as (obligations parseQuantity key) (fun _ _ => trivial)
    (fun _ _ => move_guarantee) w

/-! ## Every interleaving -/

def discipline (parseQuantity : String → Option ℚ) :
    Discipline (system parseQuantity) where
  inv := PodsJustified
  rely _ := Evolves
  guar _ := Guarantee
  rely_refl _ := evolves_refl
  rely_trans _ := evolves_trans
  guar_rely _ _ _ _ _ _ kept := kept.1
  environment_rely _ _ _ _ moves := environment_evolves moves
  guar_inv _ _ _ justified kept := kept.2 justified
  environment_inv _ _ justified moves := environment_justified justified moves
  outlined key p w allowed _ := by
    cases allowed
    exact reconcile_outlined parseQuantity key w

theorem initial_sound (parseQuantity : String → Option ℚ) (c : Configuration)
    (initial : Initial c) : (discipline parseQuantity).Sound c := by
  refine (discipline parseQuantity).sound_of_idle c ?_ initial.idle
  intro pod member name labelled
  simp [initial.noPods pod member] at labelled

/-- Only the controller puts the task label on a pod, so these are the pods it
created for the TaskJob under `key`. -/
def IsPodOf (pod : Pod) (key : ObjectKey) : Prop :=
  pod.key.ns = key.ns ∧ pod.labels taskIdLabel = some key.name

/-- In every state of every interleaving a TaskJob that has a pod has only
completed dependencies, and no terminal phase is ever left. -/
theorem pods_wait_for_dependencies (parseQuantity : String → Option ℚ)
    (start c : Configuration)
    (history : List (Configuration × Event ObjectKey Call Answer))
    (initial : Initial start) (run : (system parseQuantity).Run start history c) :
    (∀ pod ∈ c.world.pods, ∀ key entry, c.world.jobs.cell key = some entry →
      IsPodOf pod key → ∀ dep ∈ entry.value.spec.dependsOn,
        CompletedIn c.world key.ns dep) ∧
    (∀ later c', (system parseQuantity).Run c later c' →
      ∀ key entry, c.world.jobs.cell key = some entry →
        TaskPhase.terminal entry.value.status.phase →
        ∃ entry', c'.world.jobs.cell key = some entry' ∧
          entry'.value.status.phase = entry.value.status.phase) := by
  have sound := (discipline parseQuantity).run_sound
    (initial_sound parseQuantity start initial) run
  constructor
  · rintro pod member key entry found ⟨sameNs, label⟩ dep depMember
    obtain ⟨owner, ownerFound, completed⟩ := sound.1 pod member key.name label
    rw [sameNs] at ownerFound completed
    cases Option.some.inj (ownerFound.symm.trans found)
    exact completed dep depMember
  · intro later c' laterRun key entry found terminal
    have moved : Evolves c.world c'.world :=
      (discipline parseQuantity).run_observed Evolves evolves_refl evolves_trans
        (fun _ _ _ _ kept => kept.1) (fun _ _ _ moves => environment_evolves moves)
        sound laterRun
    obtain ⟨entry', found', _, kept⟩ := moved.2 key entry found
    exact ⟨entry', found', kept terminal⟩

/-! ### A run in which `b` waits for `a`

`a` is reconciled, its pod succeeds, `a` is reconciled again, and then `b` gets
its pod. -/

def plainSpec (dependsOn : List String) : TaskJobSpec :=
  ⟨"busybox", [], [], "medium", "mlfq", "", "", dependsOn, []⟩

def twoJobs : Cluster where
  jobs := (Store.empty.put ⟨"default", "a"⟩ ⟨plainSpec [], .zero⟩).put
    ⟨"default", "b"⟩ ⟨plainSpec ["a"], .zero⟩
  pods := []
  nextUid := 0
  clock := 0

def reconciled (name : String) (w : Cluster) : Cluster :=
  ((reconcile (fun _ => some 1) ⟨"default", name⟩).eval serve w).2

def podsSucceed (w : Cluster) : Cluster :=
  { w with pods := w.pods.map fun pod =>
      { pod with status := { pod.status with phase := .succeeded } } }

def bothStarted : Cluster :=
  reconciled "b" (reconciled "a" (podsSucceed (reconciled "a" twoJobs)))

theorem reconciled_run (name : String) (w : Cluster) :
    ∃ history, (system fun _ => some 1).Run ⟨w, fun _ => none⟩ history
      ⟨reconciled name w, fun _ => none⟩ :=
  (system fun _ => some 1).run_eval serve ⟨"default", name⟩ (fun _ _ => .served)
    (reconcile (fun _ => some 1) ⟨"default", name⟩) rfl ⟨w, fun _ => none⟩ rfl

theorem bothStarted_run : ∃ history, (system fun _ => some 1).Run
    ⟨twoJobs, fun _ => none⟩ history ⟨bothStarted, fun _ => none⟩ := by
  obtain ⟨pod, onePod, phase⟩ : ∃ pod, (reconciled "a" twoJobs).pods = [pod] ∧
      pod.status.phase = .pending := ⟨_, rfl, rfl⟩
  have moved : Environment (reconciled "a" twoJobs) (podsSucceed (reconciled "a" twoJobs)) := by
    have move := Environment.podMoves (w := reconciled "a" twoJobs) [] [] pod
      { pod.status with phase := .succeeded } onePod (by simp [PodPhase.Forward, phase,
        PodPhase.terminated, PodPhase.rank])
    simpa [podsSucceed, onePod] using move
  obtain ⟨first, toFirst⟩ := reconciled_run "a" twoJobs
  obtain ⟨second, toSecond⟩ := reconciled_run "a" (podsSucceed (reconciled "a" twoJobs))
  obtain ⟨third, toThird⟩ :=
    reconciled_run "b" (reconciled "a" (podsSucceed (reconciled "a" twoJobs)))
  exact ⟨_, ((toFirst.snoc (.environment _ _ moved)).trans toSecond).trans toThird⟩

theorem twoJobs_initial : Initial ⟨twoJobs, fun _ => none⟩ := by
  refine ⟨?_, ?_, fun _ => rfl⟩
  · intro key entry found
    rcases cell_of_put found with ⟨rfl, rfl⟩ | ⟨_, first⟩
    · rfl
    · rcases cell_of_put first with ⟨rfl, rfl⟩ | ⟨_, before⟩
      · rfl
      · cases before
  · intro pod member
    simp [twoJobs] at member

theorem b_waited_for_a :
    Initial ⟨twoJobs, fun _ => none⟩ ∧
    (∃ pod ∈ bothStarted.pods, IsPodOf pod ⟨"default", "b"⟩) ∧
    CompletedIn bothStarted "default" "a" := by
  obtain ⟨history, run⟩ := bothStarted_run
  have hasPod : ∃ pod ∈ bothStarted.pods, IsPodOf pod ⟨"default", "b"⟩ :=
    ⟨_, List.mem_cons_of_mem _ (List.mem_singleton_self _), rfl, rfl⟩
  obtain ⟨entry, found, deps⟩ : ∃ entry, bothStarted.jobs.cell ⟨"default", "b"⟩ = some entry ∧
      entry.value.spec.dependsOn = ["a"] := ⟨_, rfl, rfl⟩
  obtain ⟨pod, member, isPod⟩ := hasPod
  have safe := (pods_wait_for_dependencies (fun _ => some 1) _ _ history twoJobs_initial run).1
  exact ⟨twoJobs_initial, ⟨pod, member, isPod⟩,
    safe pod member ⟨"default", "b"⟩ entry found isPod "a" (by simp [deps])⟩

end CloudOS.Operator.DependencySafety
