import CloudOS.Operator.DependencySafety

/-!
# The history of a TaskJob's status

After it created a pod, `Reconcile` records Running; a reconcile that then finds
the pod still Pending records Queued again.  And `syncStatus` records a start
only when it finds the pod Running, so a pod that has succeeded by then leaves a
completed TaskJob without one.  When no list of pods comes that early or that
late, the phase only moves forward and a completed TaskJob has a start no later
than its end, in every interleaving.
-/

set_option autoImplicit false

namespace CloudOS.Operator.StatusHistory

open CloudOS.Kubernetes.Objects
open CloudOS.Lib.CallProgram
open CloudOS.Lib.VersionedStore
open CloudOS.Operator.DependencySafety
open CloudOS.Operator.ReconcileOutline
open CloudOS.Operator.TaskJobReconcile
open CloudOS.Operator.TaskJobCluster

/-- No phase, Queued, Running, and then Completed or Failed. -/
def position : TaskPhase → Nat
  | .unset => 0
  | .queued => 1
  | .running => 2
  | .completed => 3
  | .failed => 3

def MovesForward (before after : TaskPhase) : Prop :=
  before = after ∨ position before < position after

def Timed (status : TaskJobStatus) : Prop :=
  ∃ started ended, status.startTime = some started ∧ status.endTime = some ended ∧ started ≤ ended

/-! ## Lists that come in time -/

/-- The pod listed first is not Pending for a TaskJob recorded Running, and not
Succeeded for one without a recorded start. -/
def InTime (status : TaskJobStatus) (pod : Pod) : Prop :=
  (status.phase = .running → pod.status.phase ≠ .pending) ∧
    (pod.status.phase = .succeeded → status.startTime ≠ none)

def Timely : Call → Cluster → Prop
  | .listPods ns taskId, w => ∀ entry pod, w.jobs.cell ⟨ns, taskId⟩ = some entry →
      (w.pods.filter (labelledFor ns taskId)).head? = some pod → InTime entry.value.status pod
  | _, _ => True

/-- The runs of `system` all of whose lists come in time. -/
def timelySystem (parseQuantity : String → Option ℚ) :
    System ObjectKey Cluster Call Answer Exit :=
  { system parseQuantity with
    outcome := fun _ op w answer w' => Outcome op w answer w' ∧ Timely op w }

/-! ## What every step keeps -/

/-- The times a status may hold now. -/
structure PossibleTimes (clock : Nat) (status : TaskJobStatus) : Prop where
  started : ∀ time, status.startTime = some time → time ≤ clock
  completed : status.phase = .completed → Timed status

theorem PossibleTimes.later {clock clock' : Nat} {status : TaskJobStatus}
    (possible : PossibleTimes clock status) (passed : clock ≤ clock') :
    PossibleTimes clock' status :=
  ⟨fun time isStart => (possible.started time isStart).trans passed, possible.completed⟩

theorem possibleTimes_zero (clock : Nat) : PossibleTimes clock .zero := by
  constructor
  · intro time isStart
    cases isStart
  · intro completed
    cases completed

def AllCompleted (w : Cluster) (ns : String) (deps : List String) : Prop :=
  ∀ dep ∈ deps, CompletedIn w ns dep

theorem allCompleted_kept {w w' : Cluster} (moved : Evolves w w') {ns : String}
    {deps : List String} (completed : AllCompleted w ns deps) : AllCompleted w' ns deps :=
  fun dep member => completedIn_kept moved (completed dep member)

/-- A status holds possible times, and a running TaskJob does not wait for any
other. -/
structure WellFormed (w : Cluster) : Prop where
  times : ∀ key entry, w.jobs.cell key = some entry → PossibleTimes w.clock entry.value.status
  ready : ∀ key entry, w.jobs.cell key = some entry → entry.value.status.phase = .running →
    AllCompleted w key.ns entry.value.spec.dependsOn

structure Progresses (w w' : Cluster) : Prop where
  evolves : Evolves w w'
  passed : w.clock ≤ w'.clock
  forward : ∀ key entry, w.jobs.cell key = some entry →
    ∃ entry', w'.jobs.cell key = some entry' ∧
      MovesForward entry.value.status.phase entry'.value.status.phase

theorem movesForward_refl (phase : TaskPhase) : MovesForward phase phase := Or.inl rfl

theorem movesForward_trans {a b c : TaskPhase} (first : MovesForward a b)
    (second : MovesForward b c) : MovesForward a c := by
  rcases first with rfl | less
  · exact second
  · rcases second with rfl | less'
    · exact Or.inr less
    · exact Or.inr (less.trans less')

theorem progresses_of_jobs_eq {w w' : Cluster} (same : w'.jobs = w.jobs)
    (passed : w.clock ≤ w'.clock) : Progresses w w' :=
  ⟨evolves_of_jobs_eq same, passed,
    fun _ entry found => ⟨entry, same ▸ found, movesForward_refl _⟩⟩

theorem progresses_refl (w : Cluster) : Progresses w w := progresses_of_jobs_eq rfl le_rfl

theorem progresses_trans (a b c : Cluster) (first : Progresses a b) (second : Progresses b c) :
    Progresses a c := by
  refine ⟨evolves_trans a b c first.evolves second.evolves, first.passed.trans second.passed, ?_⟩
  intro key entry found
  obtain ⟨entry', found', forward⟩ := first.forward key entry found
  obtain ⟨entry'', found'', forward'⟩ := second.forward key entry' found'
  exact ⟨entry'', found'', movesForward_trans forward forward'⟩

theorem wellFormed_kept {w w' : Cluster} (moved : Progresses w w') (wellFormed : WellFormed w)
    (records : ∀ key entry', w'.jobs.cell key = some entry' →
      (∃ entry, w.jobs.cell key = some entry ∧ entry'.value.status = entry.value.status ∧
        entry'.value.spec.dependsOn = entry.value.spec.dependsOn) ∨
      PossibleTimes w'.clock entry'.value.status ∧
        (entry'.value.status.phase = .running →
          AllCompleted w' key.ns entry'.value.spec.dependsOn)) :
    WellFormed w' := by
  refine ⟨?_, ?_⟩
  · intro key entry' found'
    rcases records key entry' found' with ⟨entry, found, sameStatus, _⟩ | ⟨possible, _⟩
    · rw [sameStatus]
      exact (wellFormed.times key entry found).later moved.passed
    · exact possible
  · intro key entry' found' running
    rcases records key entry' found' with ⟨entry, found, sameStatus, sameDeps⟩ | ⟨_, ready⟩
    · rw [sameDeps]
      rw [sameStatus] at running
      exact allCompleted_kept moved.evolves (wellFormed.ready key entry found running)
    · exact ready running

/-! ## Users and kubelets -/

theorem environment_progresses {w w' : Cluster} (moves : Environment w w') : Progresses w w' := by
  have evolves := environment_evolves moves
  cases moves with
  | createTaskJob key spec absent =>
      refine ⟨evolves, le_rfl, ?_⟩
      intro other entry found
      have different : other ≠ key := by
        rintro rfl
        rw [absent] at found
        cases found
      exact ⟨entry, by simpa [different] using found, movesForward_refl _⟩
  | editSpec key entry spec found sameDeps =>
      refine ⟨evolves, le_rfl, ?_⟩
      intro other current here
      by_cases same : other = key
      · subst same
        cases Option.some.inj (here.symm.trans found)
        exact ⟨_, put_cell_self _ _ _, movesForward_refl _⟩
      · exact ⟨current, by simpa [same] using here, movesForward_refl _⟩
  | podMoves before after pod status split forward => exact progresses_of_jobs_eq rfl le_rfl
  | podRemoved before after pod split => exact progresses_of_jobs_eq rfl le_rfl
  | foreignPod pod unlabelled => exact progresses_of_jobs_eq rfl le_rfl
  | tick later => exact progresses_of_jobs_eq rfl (Nat.le_add_right _ _)

theorem environment_wellFormed {w w' : Cluster} (wellFormed : WellFormed w)
    (moves : Environment w w') : WellFormed w' := by
  apply wellFormed_kept (environment_progresses moves) wellFormed
  intro key entry' found'
  cases moves with
  | createTaskJob created spec absent =>
      rcases cell_of_put found' with ⟨rfl, rfl⟩ | ⟨_, before⟩
      · exact Or.inr ⟨possibleTimes_zero _, fun running => by cases running⟩
      · exact Or.inl ⟨entry', before, rfl, rfl⟩
  | editSpec edited entry spec found sameDeps =>
      rcases cell_of_put found' with ⟨rfl, rfl⟩ | ⟨_, before⟩
      · exact Or.inl ⟨entry, found, rfl, sameDeps⟩
      · exact Or.inl ⟨entry', before, rfl, rfl⟩
  | podMoves before after pod status split forward => exact Or.inl ⟨entry', found', rfl, rfl⟩
  | podRemoved before after pod split => exact Or.inl ⟨entry', found', rfl, rfl⟩
  | foreignPod pod unlabelled => exact Or.inl ⟨entry', found', rfl, rfl⟩
  | tick later => exact Or.inl ⟨entry', found', rfl, rfl⟩

/-! ## The reconciler -/

def Current (tj : TaskJob) (w : Cluster) : Prop :=
  w.jobs.cell tj.key = some ⟨tj.resourceVersion, ⟨tj.spec, tj.status⟩⟩

/-- All that a call of a reconcile can do: nothing, a step forward on the
record it read, or a pod. -/
inductive Records (w : Cluster) : Cluster → Prop
  | same : Records w w
  | write (tj : TaskJob) (status : TaskJobStatus) (holding : Holding tj w) (current : Current tj w)
      (forward : MovesForward tj.status.phase status.phase)
      (possible : PossibleTimes w.clock status)
      (ready : status.phase = .running → Ready tj w) :
      Records w (writeJobStatus w tj.key tj.spec status)
  | add (pod : Pod) : Records w (addPod w pod)

theorem Records.progresses {w w' : Cluster} (records : Records w w') : Progresses w w' := by
  cases records with
  | same => exact progresses_refl w
  | write tj status holding current forward possible ready =>
      refine ⟨?_, le_rfl, ?_⟩
      · apply evolves_put
        intro entry found
        cases Option.some.inj (found.symm.trans current)
        exact ⟨rfl, fun terminal => absurd terminal holding.live⟩
      · intro key entry found
        by_cases same : key = tj.key
        · subst same
          cases Option.some.inj (found.symm.trans current)
          exact ⟨_, put_cell_self _ _ _, forward⟩
        · exact ⟨entry, by simpa [writeJobStatus, same] using found, movesForward_refl _⟩
  | add pod => exact progresses_of_jobs_eq rfl le_rfl

theorem Records.wellFormed {w w' : Cluster} (records : Records w w') (wellFormed : WellFormed w) :
    WellFormed w' := by
  have moved := records.progresses
  apply wellFormed_kept moved wellFormed
  intro key entry' found'
  cases records with
  | same => exact Or.inl ⟨entry', found', rfl, rfl⟩
  | write tj status holding current forward possible ready =>
      rcases cell_of_put found' with ⟨rfl, rfl⟩ | ⟨_, before⟩
      · exact Or.inr ⟨possible, fun running =>
          allCompleted_kept moved.evolves (ready running).completed⟩
      · exact Or.inl ⟨entry', before, rfl, rfl⟩
  | add pod => exact Or.inl ⟨entry', found', rfl, rfl⟩

/-- What is known of the TaskJob that was read. -/
structure Known (tj : TaskJob) (w : Cluster) : Prop extends Holding tj w where
  possible : PossibleTimes w.clock tj.status
  ready : tj.status.phase = .running → AllCompleted w tj.key.ns tj.spec.dependsOn

theorem known_kept {tj : TaskJob} {w w' : Cluster} (known : Known tj w)
    (moved : Progresses w w') : Known tj w' :=
  ⟨holding_kept w w' known.toHolding moved.evolves, known.possible.later moved.passed,
    fun running => allCompleted_kept moved.evolves (known.ready running)⟩

/-- What each stage adds to it: of the pod that was listed, only if the TaskJob
is still as it was read. -/
def KnownAt (tj : TaskJob) : Stage → Cluster → Prop
  | .checking remaining, w => remaining ⊆ tj.spec.dependsOn ∧ Seen tj remaining w
  | .waiting, _ => tj.status.phase ≠ .running
  | .listed pod, w => Ready tj w ∧ (Current tj w → InTime tj.status pod)
  | .timed pod now, w => Ready tj w ∧ (Current tj w → InTime tj.status pod) ∧ now ≤ w.clock ∧
      ∀ time, tj.status.startTime = some time → time ≤ now
  | .vacant, w => Ready tj w
  | .created _, w => Ready tj w

theorem current_before {tj : TaskJob} {w w' : Cluster} (holding : Holding tj w)
    (moved : Evolves w w') (current : Current tj w') : Current tj w :=
  live_before holding.remembered moved.1 current

theorem knownAt_kept {tj : TaskJob} {stage : Stage} {w w' : Cluster} (known : KnownAt tj stage w)
    (moved : Progresses w w') : KnownAt tj stage w' := by
  have evolves := moved.evolves
  cases stage with
  | checking remaining => exact ⟨known.1, seen_kept tj remaining w w' known.2 evolves⟩
  | waiting => exact known
  | listed pod =>
      exact ⟨ready_kept w w' known.1 evolves, known.2 ∘ current_before known.1.toHolding evolves⟩
  | timed pod now =>
      exact ⟨ready_kept w w' known.1 evolves,
        known.2.1 ∘ current_before known.1.toHolding evolves,
        known.2.2.1.trans moved.passed, known.2.2.2⟩
  | vacant => exact ready_kept w w' known evolves
  | created stored => exact ready_kept w w' known evolves

/-! ### What is written -/

section Written
variable {tj : TaskJob} {w : Cluster} {status : TaskJobStatus}

theorem movesForward_of_live {before after : TaskPhase} (live : ¬ TaskPhase.terminal before)
    (late : after = .running ∨ TaskPhase.terminal after) : MovesForward before after := by
  unfold TaskPhase.terminal at *
  unfold MovesForward
  rcases late with rfl | rfl | rfl <;> cases before <;> simp_all [position]

theorem movesForward_to_queued {before : TaskPhase} (live : ¬ TaskPhase.terminal before)
    (notRunning : before ≠ .running) : MovesForward before .queued := by
  unfold TaskPhase.terminal at live
  unfold MovesForward
  cases before <;> simp_all [position]

def Recordable (tj : TaskJob) (w : Cluster) (status : TaskJobStatus) : Prop :=
  MovesForward tj.status.phase status.phase ∧ PossibleTimes w.clock status ∧
    (status.phase = .running → Ready tj w)

theorem recordable_of (known : Known tj w) (sameStart : status.startTime = tj.status.startTime)
    (forward : MovesForward tj.status.phase status.phase)
    (neither : status.phase ≠ .running ∧ status.phase ≠ .completed) : Recordable tj w status := by
  refine ⟨forward, ⟨?_, fun completed => absurd completed neither.2⟩,
    fun running => absurd running neither.1⟩
  rw [sameStart]
  exact known.possible.started

theorem synced_recordable (known : Known tj w) (ready : Ready tj w) {pod : Pod}
    (inTime : InTime tj.status pod) {now : Nat} (past : now ≤ w.clock)
    (afterStart : ∀ time, tj.status.startTime = some time → time ≤ now)
    (reported : reportedPhase pod.status.phase ≠ none) :
    Recordable tj w (synced now tj.status pod.status.phase) := by
  cases phase : pod.status.phase with
  | running =>
      refine ⟨movesForward_of_live known.live (Or.inl rfl),
        ⟨?_, fun completed => by cases completed⟩, fun _ => ready⟩
      intro time isStart
      cases before : tj.status.startTime with
      | none =>
          simp only [synced, before, Option.getD_none, Option.some.injEq] at isStart
          omega
      | some earlier =>
          simp only [synced, before, Option.getD_some, Option.some.injEq] at isStart
          have := afterStart earlier before
          omega
  | succeeded =>
      refine ⟨movesForward_of_live known.live (Or.inr (Or.inl rfl)),
        ⟨known.possible.started, fun _ => ?_⟩, fun running => by cases running⟩
      obtain ⟨time, isStart⟩ := Option.ne_none_iff_exists'.mp (inTime.2 phase)
      exact ⟨time, now, isStart, rfl, afterStart time isStart⟩
  | failed =>
      exact recordable_of known rfl (movesForward_of_live known.live (Or.inr (Or.inr rfl)))
        (by simp [synced])
  | pending =>
      have notRunning : tj.status.phase ≠ .running := fun running => inTime.1 running phase
      exact recordable_of known rfl (movesForward_to_queued known.live notRunning) (by simp [synced])
  | unknown =>
      rw [phase] at reported
      exact absurd rfl reported

theorem written_recordable {stage : Stage} (known : Known tj w) (here : KnownAt tj stage w)
    (current : Current tj w) (writes : WritesStatus tj stage status) : Recordable tj w status := by
  have started := known.possible.started
  cases writes with
  | waits =>
      exact recordable_of known rfl (movesForward_to_queued known.live here) (by simp [waiting])
  | untimed pod _ reports anyTime =>
      rw [← anyTime w.clock]
      exact synced_recordable known here.1 (here.2 current) le_rfl started (by simp [reports])
  | timed pod now _ reports atTime =>
      obtain ⟨ready, inTime, past, afterStart⟩ := here
      rw [← atTime]
      exact synced_recordable known ready (inTime current) past afterStart (by simp [reports])
  | noImage =>
      exact recordable_of known rfl (movesForward_of_live known.live (Or.inr (Or.inr rfl)))
        (by simp)
  | notCreated err =>
      exact recordable_of known rfl (movesForward_of_live known.live (Or.inr (Or.inr rfl)))
        (by simp)
  | started podName =>
      exact ⟨movesForward_of_live known.live (Or.inl rfl),
        ⟨started, fun completed => by cases completed⟩, fun _ => here⟩

end Written

theorem timely_obligations (parseQuantity : String → Option ℚ) (key : ObjectKey) :
    StageObligations (fun op w answer w' => Outcome op w answer w' ∧ Timely op w) WellFormed
      Progresses Records parseQuantity key (fun _ => True)
      (fun tj stage w => Known tj w ∧ KnownAt tj stage w) where
  begunKept _ _ _ _ := trivial
  kept tj stage a b known moved := ⟨known_kept known.1 moved, knownAt_kept known.2 moved⟩
  taskRead a answer b _ wellFormed out := by
    obtain ⟨rfl, read⟩ := outcome_get out.1
    refine ⟨.same, ?_⟩
    intro tj ok live
    obtain ⟨entry, found, rfl⟩ := read tj ok
    have holding : Holding (toTaskJob key entry) b :=
      ⟨live, remembers_of_cell b.jobs found, entry, found, rfl⟩
    exact ⟨⟨holding, wellFormed.times key entry found, wellFormed.ready key entry found⟩,
      List.Subset.refl _, holding, fun dep member => Or.inl member⟩
  dependencyRead tj dep rest a answer b known _ out := by
    obtain ⟨rfl, read⟩ := outcome_get out.1
    obtain ⟨known, listed, seen⟩ := known
    refine ⟨.same, fun other ok => ?_⟩
    obtain ⟨entry, found, rfl⟩ := read other ok
    refine ⟨fun completed => ⟨known, ?_, seen_next seen ⟨entry, found, completed⟩⟩,
      fun pending => ⟨known, fun running => ?_⟩⟩
    · exact fun other member => listed (List.mem_cons_of_mem dep member)
    · obtain ⟨current, here, completed⟩ := known.ready running dep (listed List.mem_cons_self)
      cases Option.some.inj (here.symm.trans found)
      exact pending completed
  podsListed tj a answer b known _ out := by
    obtain ⟨rfl, read⟩ := outcome_list out.1
    obtain ⟨known, _, seen⟩ := known
    have ready := ready_of_seen seen
    refine ⟨.same, fun items ok => ⟨fun _ => ⟨known, ready⟩, fun pod first => ⟨known, ready, ?_⟩⟩⟩
    intro current
    rw [read items ok] at first
    exact out.2 _ pod current first
  clockRead tj pod a now b known _ out := by
    obtain ⟨known, ready, inTime⟩ := known
    have isTime : now = a.clock := outcome_clock out.1
    cases outcome_now out.1
    rw [isTime]
    exact ⟨.same, known, ready, inTime, le_rfl, known.possible.started⟩
  podCreated tj pod a answer b known _ _ _ out := by
    have move : Records a b := by
      rcases outcome_create out.1 with rfl | ⟨rfl, _⟩
      · exact .same
      · exact .add pod
    have moved := move.progresses
    have next : Known tj b ∧ Ready tj b :=
      ⟨known_kept known.1 moved, ready_kept a b known.2 moved.evolves⟩
    exact ⟨move, fun _ => next, fun _ _ => next⟩
  statusWritten tj stage status a answer b known _ writes out := by
    obtain ⟨known, here⟩ := known
    rcases outcome_update out.1 with rfl | ⟨entry, found, version, rfl⟩
    · exact .same
    · -- the version matched, so the record overwritten is the one that was read
      cases known.remembered.2 entry found version
      obtain ⟨forward, possible, ready⟩ := written_recordable known here found writes
      exact .write tj status known.toHolding found forward possible ready

/-! ## Every interleaving -/

def timelyDiscipline (parseQuantity : String → Option ℚ) :
    Discipline (timelySystem parseQuantity) where
  inv := WellFormed
  rely _ := Progresses
  guar _ := Records
  rely_refl _ := progresses_refl
  rely_trans _ := progresses_trans
  guar_rely _ _ _ _ _ _ records := records.progresses
  environment_rely _ _ _ _ moves := environment_progresses moves
  guar_inv _ _ _ wellFormed records := records.wellFormed wellFormed
  environment_inv _ _ wellFormed moves := environment_wellFormed wellFormed moves
  outlined key p w allowed _ := by
    cases allowed
    exact (reconcile_stages (timely_obligations parseQuantity key) w trivial).mono
      (fun _ holds => holds) (fun _ _ _ records => records) fun _ _ _ => trivial

/-- In every run whose lists of pods come in time, a TaskJob's phase only moves
forward, and a completed TaskJob has a start that is no later than its end. -/
theorem status_moves_forward (parseQuantity : String → Option ℚ) (start c c' : Configuration)
    (history later : List (Configuration × Event ObjectKey Call Answer))
    (initial : Initial start) (run : (timelySystem parseQuantity).Run start history c)
    (further : (timelySystem parseQuantity).Run c later c') :
    ∀ key entry, c.world.jobs.cell key = some entry →
      (entry.value.status.phase = .completed → Timed entry.value.status) ∧
      ∃ entry', c'.world.jobs.cell key = some entry' ∧
        MovesForward entry.value.status.phase entry'.value.status.phase := by
  have wellFormed : WellFormed start.world := by
    refine ⟨fun key entry found => ?_, fun key entry found running => ?_⟩
    · rw [initial.fresh key entry found]
      exact possibleTimes_zero _
    · rw [initial.fresh key entry found] at running
      cases running
  have sound := (timelyDiscipline parseQuantity).run_sound
    ((timelyDiscipline parseQuantity).sound_of_idle start wellFormed initial.idle) run
  have moved : Progresses c.world c'.world :=
    (timelyDiscipline parseQuantity).run_observed Progresses progresses_refl progresses_trans
      (fun _ _ _ _ records => records.progresses) (fun _ _ _ moves => environment_progresses moves)
      sound further
  intro key entry found
  exact ⟨(sound.1.times key entry found).completed, moved.forward key entry found⟩

/-! ### Early and late reconciles of `a` -/

def podsReach (phase : PodPhase) (w : Cluster) : Cluster :=
  { w with pods := w.pods.map fun pod => { pod with status := { pod.status with phase := phase } } }

theorem podsReach_moves {w : Cluster} {pod : Pod} {phase : PodPhase} (onePod : w.pods = [pod])
    (forward : pod.status.phase.Forward phase) : Environment w (podsReach phase w) := by
  have move := Environment.podMoves [] [] pod { pod.status with phase := phase } onePod forward
  simpa [podsReach, onePod] using move

def podRuns : Cluster := podsReach .running (reconciled "a" twoJobs)

/-- `a` has been reconciled meanwhile, and after seven seconds the pod succeeds. -/
def podSucceeds : Cluster :=
  podsReach .succeeded { reconciled "a" podRuns with clock := (reconciled "a" podRuns).clock + 7 }

theorem podRuns_run : ∃ history, (timelySystem fun _ => some 1).Run ⟨twoJobs, fun _ => none⟩ history
    ⟨reconciled "a" podRuns, fun _ => none⟩ := by
  obtain ⟨first, toFirst⟩ := (timelySystem fun _ => some 1).run_served serve ⟨"default", "a"⟩
    (reconcile (fun _ => some 1) ⟨"default", "a"⟩) rfl ⟨twoJobs, fun _ => none⟩
    ⟨⟨.served, trivial⟩, ⟨.served, fun _ _ _ shown => by cases shown⟩,
      ⟨.served, trivial⟩, ⟨.served, trivial⟩, trivial⟩ rfl
  obtain ⟨second, toSecond⟩ := (timelySystem fun _ => some 1).run_served serve ⟨"default", "a"⟩
    (reconcile (fun _ => some 1) ⟨"default", "a"⟩) rfl ⟨podRuns, fun _ => none⟩
    ⟨⟨.served, trivial⟩, ⟨.served, fun _ _ _ shown => by cases shown; exact ⟨nofun, nofun⟩⟩,
      ⟨.served, trivial⟩, ⟨.served, trivial⟩, trivial⟩ rfl
  obtain ⟨pod, onePod, pending⟩ : ∃ pod, (reconciled "a" twoJobs).pods = [pod] ∧
      pod.status.phase = .pending := ⟨_, rfl, rfl⟩
  have runs : Environment (reconciled "a" twoJobs) podRuns :=
    podsReach_moves onePod (by simp [PodPhase.Forward, pending, PodPhase.terminated, PodPhase.rank])
  exact ⟨_, (toFirst.snoc (.environment _ _ runs)).trans toSecond⟩

theorem podSucceeds_run : ∃ history, (timelySystem fun _ => some 1).Run
    ⟨reconciled "a" podRuns, fun _ => none⟩ history
    ⟨reconciled "a" podSucceeds, fun _ => none⟩ := by
  obtain ⟨third, toThird⟩ := (timelySystem fun _ => some 1).run_served serve ⟨"default", "a"⟩
    (reconcile (fun _ => some 1) ⟨"default", "a"⟩) rfl ⟨podSucceeds, fun _ => none⟩
    ⟨⟨.served, trivial⟩, ⟨.served, fun _ _ found shown => by
        cases found
        cases shown
        exact ⟨nofun, nofun⟩⟩,
      ⟨.served, trivial⟩, ⟨.served, trivial⟩, trivial⟩ rfl
  obtain ⟨pod, onePod, running⟩ : ∃ pod, (reconciled "a" podRuns).pods = [pod] ∧
      pod.status.phase = .running := ⟨_, rfl, rfl⟩
  have passes : Environment (reconciled "a" podRuns)
      { reconciled "a" podRuns with clock := (reconciled "a" podRuns).clock + 7 } := .tick 7
  have succeeds : Environment
      { reconciled "a" podRuns with clock := (reconciled "a" podRuns).clock + 7 } podSucceeds :=
    podsReach_moves onePod (by simp [PodPhase.Forward, running, PodPhase.terminated, PodPhase.rank])
  exact ⟨_, ((System.Run.nil.snoc (.environment _ _ passes)).snoc
    (.environment _ _ succeeds)).trans toThird⟩

/-- Reconciled while its pod runs, `a` stays Running and then completes, with
both times. -/
theorem a_moves_forward :
    Initial ⟨twoJobs, fun _ => none⟩ ∧
    (∃ entry, (reconciled "a" podRuns).jobs.cell ⟨"default", "a"⟩ = some entry ∧
      entry.value.status.phase = .running ∧
      ∃ entry', (reconciled "a" podSucceeds).jobs.cell ⟨"default", "a"⟩ = some entry' ∧
        MovesForward .running entry'.value.status.phase) ∧
    ∃ entry, (reconciled "a" podSucceeds).jobs.cell ⟨"default", "a"⟩ = some entry ∧
      entry.value.status.phase = .completed ∧ Timed entry.value.status := by
  obtain ⟨history, run⟩ := podRuns_run
  obtain ⟨later, further⟩ := podSucceeds_run
  obtain ⟨entry, found, running⟩ : ∃ entry,
      (reconciled "a" podRuns).jobs.cell ⟨"default", "a"⟩ = some entry ∧
        entry.value.status.phase = .running := ⟨_, rfl, rfl⟩
  obtain ⟨final, foundFinal, completed⟩ : ∃ entry,
      (reconciled "a" podSucceeds).jobs.cell ⟨"default", "a"⟩ = some entry ∧
        entry.value.status.phase = .completed := ⟨_, rfl, rfl⟩
  have forward := (status_moves_forward (fun _ => some 1) _ _ _ history later twoJobs_initial run
    further _ entry found).2
  have timed := (status_moves_forward (fun _ => some 1) _ _ _ _ [] twoJobs_initial
    (run.trans further) .nil _ final foundFinal).1 completed
  rw [running] at forward
  exact ⟨twoJobs_initial, ⟨entry, found, running, forward⟩, final, foundFinal, completed, timed⟩

def undeletedSystem (parseQuantity : String → Option ℚ) :
    System ObjectKey Cluster Call Answer Exit :=
  { system parseQuantity with
    environment := fun w w' =>
      Environment w w' ∧ ∀ pod ∈ w.pods, ∃ later ∈ w'.pods, pod.Later later }

theorem undeleted_reconciled (w : Cluster) :
    ∃ history, (undeletedSystem fun _ => some 1).Run ⟨w, fun _ => none⟩ history
      ⟨reconciled "a" w, fun _ => none⟩ :=
  (undeletedSystem fun _ => some 1).run_eval serve ⟨"default", "a"⟩ (fun _ _ => .served)
    (reconcile (fun _ => some 1) ⟨"default", "a"⟩) rfl ⟨w, fun _ => none⟩ rfl

/-- Reconciled before its pod runs, `a` goes from Running back to Queued; and
reconciled only after its pod succeeded, it is completed without a start. -/
theorem early_and_late_reconciles :
    Initial ⟨twoJobs, fun _ => none⟩ ∧
    (∃ history, (undeletedSystem fun _ => some 1).Run ⟨twoJobs, fun _ => none⟩ history
      ⟨reconciled "a" twoJobs, fun _ => none⟩) ∧
    (∃ entry, (reconciled "a" twoJobs).jobs.cell ⟨"default", "a"⟩ = some entry ∧
      entry.value.status.phase = .running) ∧
    ((∃ later, (undeletedSystem fun _ => some 1).Run ⟨reconciled "a" twoJobs, fun _ => none⟩ later
        ⟨reconciled "a" (reconciled "a" twoJobs), fun _ => none⟩) ∧
      ∃ entry, (reconciled "a" (reconciled "a" twoJobs)).jobs.cell ⟨"default", "a"⟩ = some entry ∧
        entry.value.status.phase = .queued ∧ ¬ MovesForward .running .queued) ∧
    (∃ later, (undeletedSystem fun _ => some 1).Run ⟨reconciled "a" twoJobs, fun _ => none⟩ later
        ⟨reconciled "a" (podsReach .succeeded (reconciled "a" twoJobs)), fun _ => none⟩) ∧
      ∃ entry, (reconciled "a" (podsReach .succeeded (reconciled "a" twoJobs))).jobs.cell
          ⟨"default", "a"⟩ = some entry ∧
        entry.value.status.phase = .completed ∧ entry.value.status.startTime = none ∧
          ¬ Timed entry.value.status := by
  obtain ⟨pod, onePod, pending⟩ : ∃ pod, (reconciled "a" twoJobs).pods = [pod] ∧
      pod.status.phase = .pending := ⟨_, rfl, rfl⟩
  have forward : pod.status.phase.Forward .succeeded := by
    simp [PodPhase.Forward, pending, PodPhase.terminated, PodPhase.rank]
  have succeeds := podsReach_moves onePod forward
  have kept : ∀ each ∈ (reconciled "a" twoJobs).pods,
      ∃ later ∈ (podsReach .succeeded (reconciled "a" twoJobs)).pods, each.Later later := by
    intro each member
    rw [onePod, List.mem_singleton] at member
    subst member
    exact ⟨_, List.mem_map.mpr ⟨each, by simp [onePod], rfl⟩, rfl, rfl, forward⟩
  have moves : (undeletedSystem fun _ => some 1).environment (reconciled "a" twoJobs)
      (podsReach .succeeded (reconciled "a" twoJobs)) := ⟨succeeds, kept⟩
  obtain ⟨third, toThird⟩ := undeleted_reconciled (podsReach .succeeded (reconciled "a" twoJobs))
  refine ⟨twoJobs_initial, undeleted_reconciled twoJobs, ⟨_, rfl, rfl⟩,
    ⟨undeleted_reconciled (reconciled "a" twoJobs), _, rfl, rfl, by simp [MovesForward, position]⟩,
    ⟨_, (System.Run.nil.snoc (.environment _ _ moves)).trans toThird⟩,
    _, rfl, rfl, rfl, ?_⟩
  rintro ⟨started, _, isStart, _⟩
  cases isStart

end CloudOS.Operator.StatusHistory
