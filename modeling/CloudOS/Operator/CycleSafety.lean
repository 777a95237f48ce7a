import CloudOS.Operator.DependencySafety

/-!
# TaskJobs on a dependency cycle never start

A status write of Completed is made only by a reconcile that has seen every
dependency Completed.  So the completed TaskJobs are built up from those
without dependencies (`Grounded`), and no cycle can be reached from a TaskJob
that was built up that way.
-/

set_option autoImplicit false

namespace CloudOS.Operator.CycleSafety

open CloudOS.Kubernetes.Objects
open CloudOS.Lib.CallProgram
open CloudOS.Lib.VersionedStore
open CloudOS.Operator.DependencySafety
open CloudOS.Operator.ReconcileOutline
open CloudOS.Operator.TaskJobReconcile
open CloudOS.Operator.TaskJobCluster
open Relation (TransGen ReflTransGen)

/-! ## The dependency graph -/

def DependsOn (w : Cluster) (key dep : ObjectKey) : Prop :=
  ∃ entry, w.jobs.cell key = some entry ∧
    dep.name ∈ entry.value.spec.dependsOn ∧ dep.ns = key.ns

def CycleReachable (w : Cluster) (key : ObjectKey) : Prop :=
  ∃ other, ReflTransGen (DependsOn w) key other ∧ TransGen (DependsOn w) other other

theorem dependsOn_kept {w w' : Cluster} (moved : Evolves w w') {key dep : ObjectKey}
    (depends : DependsOn w key dep) : DependsOn w' key dep := by
  obtain ⟨entry, found, member, sameNs⟩ := depends
  obtain ⟨entry', found', deps, _⟩ := moved.2 key entry found
  exact ⟨entry', found', deps ▸ member, sameNs⟩

theorem cycleReachable_kept {w w' : Cluster} (moved : Evolves w w') {key : ObjectKey}
    (cyclic : CycleReachable w key) : CycleReachable w' key := by
  obtain ⟨other, reached, around⟩ := cyclic
  exact ⟨other, reached.lift id fun _ _ => dependsOn_kept moved,
    around.lift id fun _ _ => dependsOn_kept moved⟩

theorem cycleReachable_step {w : Cluster} {key : ObjectKey} (cyclic : CycleReachable w key) :
    ∃ dep, DependsOn w key dep ∧ CycleReachable w dep := by
  obtain ⟨other, reached, around⟩ := cyclic
  rcases reached.cases_head with rfl | ⟨dep, depends, rest⟩
  · obtain ⟨dep, depends, back⟩ := TransGen.head'_iff.mp around
    exact ⟨dep, depends, key, back, around⟩
  · exact ⟨dep, depends, other, rest, around⟩

/-! ## Completed from the ground up -/

inductive Grounded (w : Cluster) : ObjectKey → Prop
  | completed (key : ObjectKey) (entry : Versioned JobRecord)
      (found : w.jobs.cell key = some entry)
      (phase : entry.value.status.phase = .completed)
      (below : ∀ dep ∈ entry.value.spec.dependsOn, Grounded w ⟨key.ns, dep⟩) : Grounded w key

theorem grounded_kept {w w' : Cluster} (moved : Evolves w w') {key : ObjectKey}
    (grounded : Grounded w key) : Grounded w' key := by
  induction grounded with
  | completed key entry found phase below ih =>
      obtain ⟨entry', found', deps, kept⟩ := moved.2 key entry found
      exact .completed key entry' found' ((kept (Or.inl phase)).trans phase)
        fun dep member => ih dep (deps ▸ member)

/-- A cycle reachable from a grounded TaskJob would be reachable from one of
its dependencies, and so on down to a TaskJob without dependencies. -/
theorem grounded_not_cyclic {w : Cluster} {key : ObjectKey} (grounded : Grounded w key) :
    ¬ CycleReachable w key := by
  induction grounded with
  | completed key entry found phase below ih =>
      intro cyclic
      obtain ⟨⟨ns, name⟩, ⟨current, again, member, sameNs⟩, onwards⟩ := cycleReachable_step cyclic
      cases Option.some.inj (again.symm.trans found)
      cases sameNs
      exact ih name member onwards

def Rooted (w : Cluster) : Prop :=
  ∀ key entry, w.jobs.cell key = some entry → entry.value.status.phase = .completed →
    Grounded w key

theorem rooted_completed {w : Cluster} (rooted : Rooted w) {ns dep : String}
    (completed : CompletedIn w ns dep) : Grounded w ⟨ns, dep⟩ := by
  obtain ⟨entry, found, phase⟩ := completed
  exact rooted _ entry found phase

theorem rooted_kept {w w' : Cluster} (moved : Evolves w w') (rooted : Rooted w)
    (older : ∀ key entry', w'.jobs.cell key = some entry' →
      entry'.value.status.phase = .completed →
        ∃ entry, w.jobs.cell key = some entry ∧ entry.value.status.phase = .completed) :
    Rooted w' := by
  intro key entry' found' phase'
  obtain ⟨entry, found, phase⟩ := older key entry' found' phase'
  exact grounded_kept moved (rooted key entry found phase)

theorem environment_rooted {w w' : Cluster} (rooted : Rooted w) (moves : Environment w w') :
    Rooted w' := by
  apply rooted_kept (environment_evolves moves) rooted
  intro key entry' found' phase'
  rcases environment_status moves found' with new | ⟨entry, found, same⟩
  · rw [new] at phase'
    cases phase'
  · exact ⟨entry, found, by rw [← same, phase']⟩

theorem move_rooted {parseQuantity : String → Option ℚ} {w w' : Cluster} (rooted : Rooted w)
    (move : Move parseQuantity w w') : Rooted w' := by
  have moved := move_evolves move
  cases move with
  | same => exact rooted
  | write tj status holding current completing =>
      intro other entry' found' phase'
      rcases cell_of_put found' with ⟨rfl, rfl⟩ | ⟨_, before⟩
      · -- the reconcile has seen all dependencies of this TaskJob completed
        refine .completed tj.key _ found' phase' ?_
        intro dep member
        exact grounded_kept moved (rooted_completed rooted ((completing phase').completed dep member))
      · exact grounded_kept moved (rooted other entry' before phase')
  | add tj pod ready built =>
      exact rooted_kept moved rooted fun other entry' found' phase' => ⟨entry', found', phase'⟩

/-! ## Every interleaving -/

def rootedDiscipline (parseQuantity : String → Option ℚ) :
    Discipline (system parseQuantity) where
  inv w := PodsJustified w ∧ Rooted w
  rely _ := Evolves
  guar _ := Move parseQuantity
  rely_refl _ := evolves_refl
  rely_trans _ := evolves_trans
  guar_rely _ _ _ _ _ _ move := move_evolves move
  environment_rely _ _ _ _ moves := environment_evolves moves
  guar_inv _ _ _ holds move := ⟨(move_guarantee move).2 holds.1, move_rooted holds.2 move⟩
  environment_inv _ _ holds moves :=
    ⟨environment_justified holds.1 moves, environment_rooted holds.2 moves⟩
  outlined key p w allowed _ := by
    cases allowed
    exact reconcile_outlined_as (obligations parseQuantity key) (fun _ _ => trivial)
      (fun _ _ move => move) w

theorem unstarted_sound (parseQuantity : String → Option ℚ) (c : Configuration)
    (unstarted : Unstarted c) : (rootedDiscipline parseQuantity).Sound c := by
  refine (rootedDiscipline parseQuantity).sound_of_idle c ⟨?_, ?_⟩ unstarted.idle
  · intro pod member name labelled
    simp [unstarted.noPods pod member] at labelled
  · intro key entry found phase
    rw [unstarted.noPhase key entry found] at phase
    cases phase

/-- In every state of every interleaving, a TaskJob from which the dependencies
lead into a cycle has no pod and is not completed. -/
theorem cyclic_tasks_never_start (parseQuantity : String → Option ℚ) (start c : Configuration)
    (history : List (Configuration × Event ObjectKey Call Answer))
    (unstarted : Unstarted start) (run : (system parseQuantity).Run start history c)
    (key : ObjectKey) (cyclic : CycleReachable c.world key) :
    (∀ pod ∈ c.world.pods, ¬ IsPodOf pod key) ∧
    ∀ entry, c.world.jobs.cell key = some entry → entry.value.status.phase ≠ .completed := by
  obtain ⟨⟨justified, rooted⟩, _⟩ := (rootedDiscipline parseQuantity).run_sound
    (unstarted_sound parseQuantity start unstarted) run
  constructor
  · rintro pod member ⟨sameNs, label⟩
    obtain ⟨⟨ns, name⟩, ⟨entry, found, depends, depNs⟩, onwards⟩ := cycleReachable_step cyclic
    cases depNs
    obtain ⟨owner, ownerFound, completed⟩ := justified pod member key.name label
    rw [sameNs] at ownerFound completed
    cases Option.some.inj (ownerFound.symm.trans found)
    exact grounded_not_cyclic (rooted_completed rooted (completed name depends)) onwards
  · intro entry found phase
    exact grounded_not_cyclic (rooted key entry found phase) cyclic

/-! ### Two TaskJobs that wait for each other, and one that waits for both -/

def loop : Cluster where
  jobs := ((Store.empty.put ⟨"default", "a"⟩ ⟨plainSpec ["b"], .zero⟩).put
    ⟨"default", "b"⟩ ⟨plainSpec ["a"], .zero⟩).put
    ⟨"default", "c"⟩ ⟨plainSpec ["a", "b"], .zero⟩
  pods := []
  nextUid := 0
  clock := 0

theorem loop_unstarted : Unstarted ⟨loop, fun _ => none⟩ := by
  refine ⟨?_, ?_, fun _ => rfl⟩
  · intro key entry found
    rcases cell_of_put found with ⟨rfl, rfl⟩ | ⟨_, second⟩
    · rfl
    · rcases cell_of_put second with ⟨rfl, rfl⟩ | ⟨_, first⟩
      · rfl
      · rcases cell_of_put first with ⟨rfl, rfl⟩ | ⟨_, before⟩
        · rfl
        · cases before
  · intro pod member
    simp [loop] at member

theorem loop_cyclic : CycleReachable loop ⟨"default", "c"⟩ := by
  have aOnB : DependsOn loop ⟨"default", "a"⟩ ⟨"default", "b"⟩ := ⟨_, rfl, by decide, rfl⟩
  have bOnA : DependsOn loop ⟨"default", "b"⟩ ⟨"default", "a"⟩ := ⟨_, rfl, by decide, rfl⟩
  have cOnA : DependsOn loop ⟨"default", "c"⟩ ⟨"default", "a"⟩ := ⟨_, rfl, by decide, rfl⟩
  exact ⟨⟨"default", "a"⟩, .single cOnA, .tail (.single aOnB) bOnA⟩

theorem loop_never_starts :
    Unstarted ⟨loop, fun _ => none⟩ ∧
    (∀ pod ∈ (reconciled "c" (reconciled "a" loop)).pods, ¬ IsPodOf pod ⟨"default", "c"⟩) ∧
    ∀ entry, (reconciled "c" (reconciled "a" loop)).jobs.cell ⟨"default", "c"⟩ = some entry →
      entry.value.status.phase ≠ .completed := by
  obtain ⟨first, toFirst⟩ := reconciled_run "a" loop
  obtain ⟨second, toSecond⟩ := reconciled_run "c" (reconciled "a" loop)
  have run := toFirst.trans toSecond
  have moved := (rootedDiscipline fun _ => some 1).run_observed Evolves evolves_refl
    evolves_trans (fun _ _ _ _ move => move_evolves move)
    (fun _ _ _ moves => environment_evolves moves) (unstarted_sound _ _ loop_unstarted) run
  exact ⟨loop_unstarted, cyclic_tasks_never_start (fun _ => some 1) _ _ _ loop_unstarted run
    ⟨"default", "c"⟩ (cycleReachable_kept moved loop_cyclic)⟩

end CloudOS.Operator.CycleSafety
