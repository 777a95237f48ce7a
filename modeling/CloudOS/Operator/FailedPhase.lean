import CloudOS.Operator.DependencySafety

/-!
# When Failed means that the pod failed

`Reconcile` writes Failed after any error of `Create`, and it decides on the
pods a list shows.  A `Create` that stored the pod and lost its reply, or a
list that is out of date, therefore leaves a TaskJob Failed whose pod is alive,
and since Failed is terminal nobody looks again.  Without these two faults a
Failed TaskJob has only failed pods, in every interleaving.
-/

set_option autoImplicit false

namespace CloudOS.Operator.FailedPhase

open CloudOS.Kubernetes.Objects
open CloudOS.Lib.CallProgram
open CloudOS.Lib.VersionedStore
open CloudOS.Operator.DependencySafety
open CloudOS.Operator.ReconcileOutline
open CloudOS.Operator.TaskJobReconcile
open CloudOS.Operator.TaskJobCluster

/-! ## Lists that lag behind -/

/-- The cluster, and the pods as they were at earlier moments. -/
structure Lagging where
  now : Cluster
  past : List (List Pod)

def Lagging.moved (w : Lagging) (now : Cluster) : Lagging := ⟨now, w.now.pods :: w.past⟩

/-- The outcomes of `TaskJobCluster`, and lists that show the pods of an
earlier moment. -/
inductive LaggingOutcome : (op : Call) → Lagging → Answer op → Lagging → Prop
  | usual {op : Call} {w : Lagging} {answer : Answer op} {now : Cluster}
      (out : Outcome op w.now answer now) : LaggingOutcome op w answer (w.moved now)
  | stale (ns taskId : String) (w : Lagging) (old : List Pod) (earlier : old ∈ w.past) :
      LaggingOutcome (.listPods ns taskId) w (.ok (old.filter (labelledFor ns taskId))) w

def LaggingEnvironment (w w' : Lagging) : Prop :=
  ∃ now, Environment w.now now ∧ w' = w.moved now

def laggingSystem (parseQuantity : String → Option ℚ) :
    System ObjectKey Lagging Call Answer Exit where
  outcome _ := LaggingOutcome
  program key p := p = reconcile parseQuantity key
  environment := LaggingEnvironment

abbrev LaggingConfiguration := Conf ObjectKey Lagging Call Answer Exit

structure LaggingUnstarted (c : LaggingConfiguration) : Prop where
  noPhase : ∀ key entry, c.world.now.jobs.cell key = some entry →
    entry.value.status.phase = .unset
  noPods : ∀ pod ∈ c.world.now.pods, pod.labels taskIdLabel = none
  noPast : c.world.past = []
  idle : ∀ key, c.running key = none

def Unfailed (phase : PodPhase) : Prop :=
  phase = .pending ∨ phase = .running ∨ phase = .succeeded

/-- No TaskJob with an image is Failed while a pod of it is alive or has
succeeded. -/
def FailedMeansFailed (w : Cluster) : Prop :=
  ∀ key entry, w.jobs.cell key = some entry → entry.value.spec.image ≠ "" →
    entry.value.status.phase = .failed →
      ∀ pod ∈ w.pods, IsPodOf pod key → ¬ Unfailed pod.status.phase

/-! ## Honest answers -/

def AllFailed (key : ObjectKey) (w : Cluster) : Prop :=
  ∀ pod ∈ w.pods, IsPodOf pod key → pod.status.phase = .failed

/-- A list that shows no pod, or a failed one first, does so only when every
pod of the TaskJob has failed; an error of `Create` means that nothing was
stored. -/
def Honest : (op : Call) → Lagging → Answer op → Lagging → Prop
  | .listPods ns taskId, w, answer, _ => ∀ items, answer = Except.ok items →
      (∀ pod, items.head? = some pod → pod.status.phase = .failed) →
        AllFailed ⟨ns, taskId⟩ w.now
  | .createPod _, w, answer, w' => ∀ err, answer = Except.error err → w'.now.pods = w.now.pods
  | _, _, _, _ => True

def honestSystem (parseQuantity : String → Option ℚ) :
    System ObjectKey Lagging Call Answer Exit :=
  { laggingSystem parseQuantity with
    outcome := fun _ op w answer w' => LaggingOutcome op w answer w' ∧ Honest op w answer w' }

/-! ## What the others keep -/

def Unwritten (key : ObjectKey) (w : Cluster) : Prop :=
  ∀ entry, w.jobs.cell key = some entry → entry.value.status.phase ≠ .failed

/-- What a reconcile of `key` relies on: nobody else gives the TaskJob a pod,
brings a failed pod back, or writes Failed. -/
def Undisturbed (key : ObjectKey) (w w' : Cluster) : Prop :=
  (AllFailed key w → AllFailed key w') ∧ (Unwritten key w → Unwritten key w')

theorem undisturbed_refl (key : ObjectKey) (w : Cluster) : Undisturbed key w w := ⟨id, id⟩

theorem undisturbed_trans {key : ObjectKey} {a b c : Cluster} (first : Undisturbed key a b)
    (second : Undisturbed key b c) : Undisturbed key a c :=
  ⟨second.1 ∘ first.1, second.2 ∘ first.2⟩

def FailedClean (w : Cluster) : Prop := ∀ key, Unwritten key w ∨ AllFailed key w

theorem failedClean_kept {w w' : Cluster} (clean : FailedClean w)
    (moved : ∀ key, Undisturbed key w w') : FailedClean w' := by
  intro key
  rcases clean key with unwritten | failed
  · exact Or.inl ((moved key).2 unwritten)
  · exact Or.inr ((moved key).1 failed)

theorem environment_undisturbed {w w' : Cluster} (moves : Environment w w') (key : ObjectKey) :
    Undisturbed key w w' := by
  refine ⟨?_, ?_⟩
  · intro failed pod member isPod
    obtain ⟨earlier, before, sameKey, labels, forward⟩ := environment_pods moves member isPod.2
    have stopped : earlier.status.phase = .failed :=
      failed earlier before ⟨by rw [sameKey]; exact isPod.1, by rw [labels]; exact isPod.2⟩
    exact (forward_of_terminated forward (by rw [stopped]; rfl)).trans stopped
  · intro unwritten entry' found' phase
    rcases environment_status moves found' with new | ⟨entry, found, same⟩
    · rw [new] at phase
      cases phase
    · exact unwritten entry found (by rw [← same, phase])

/-! ## The reconcile of one TaskJob -/

def Guards (key : ObjectKey) (w w' : Lagging) : Prop :=
  (FailedClean w.now → FailedClean w'.now) ∧
    ∀ other, key ≠ other → Undisturbed other w.now w'.now

theorem guards_same {key : ObjectKey} {w w' : Lagging} (same : w'.now = w.now) :
    Guards key w w' := by
  unfold Guards
  rw [same]
  exact ⟨id, fun other _ => undisturbed_refl other w.now⟩

theorem guards_of_own {key : ObjectKey} {w w' : Lagging}
    (own : Unwritten key w'.now ∨ AllFailed key w'.now)
    (others : ∀ other, key ≠ other → Undisturbed other w.now w'.now) : Guards key w w' := by
  refine ⟨?_, others⟩
  intro clean other
  by_cases same : key = other
  · subst same
    exact own
  · exact (clean other).imp (others other same).2 (others other same).1

/-- With no pod listed, with a failed pod listed and after a failed `Create`,
all pods of the TaskJob have failed. -/
def NoLivePod (key : ObjectKey) (w : Cluster) : Progress → Prop
  | .checking _ => True
  | .listed pod => pod.status.phase = .failed → AllFailed key w
  | .vacant => AllFailed key w
  | .created stored => stored = false → AllFailed key w

def Known (key : ObjectKey) (tj : TaskJob) (progress : Progress) (w : Lagging) : Prop :=
  tj.key = key ∧ Unwritten key w.now ∧ NoLivePod key w.now progress

theorem noLivePod_kept {key : ObjectKey} {w w' : Cluster} (moved : Undisturbed key w w')
    (progress : Progress) (known : NoLivePod key w progress) : NoLivePod key w' progress := by
  cases progress with
  | checking remaining => trivial
  | listed pod => exact moved.1 ∘ known
  | vacant => exact moved.1 known
  | created stored => exact moved.1 ∘ known

theorem allFailed_of_writes {key : ObjectKey} {w : Cluster} {progress : Progress}
    {phase : TaskPhase} (known : NoLivePod key w progress) (writes : Writes progress phase)
    (failing : phase = .failed) : AllFailed key w := by
  cases writes with
  | waiting dep rest => cases failing
  | reported pod phase reports =>
      subst failing
      apply known
      cases ended : pod.status.phase <;> simp_all [reportedPhase]
  | noImage => exact known
  | notCreated => exact known rfl
  | started => cases failing

theorem reading_keeps {op : Call} {w w' : Lagging} {answer : Answer op}
    (reads : ∀ {a : Answer op} {now : Cluster}, Outcome op w.now a now → now = w.now)
    (out : LaggingOutcome op w answer w') : w'.now = w.now := by
  cases out with
  | usual out => exact reads out
  | stale ns taskId w old earlier => rfl

theorem addPod_guards {parseQuantity : String → Option ℚ} {tj : TaskJob} {pod : Pod}
    {w w' : Lagging} (unwritten : Unwritten tj.key w.now)
    (built : buildPod parseQuantity tj = some pod) (added : w'.now = addPod w.now pod) :
    Guards tj.key w w' := by
  obtain ⟨named, label⟩ := buildPod_label built
  apply guards_of_own
  · refine Or.inl ?_
    rw [added]
    exact unwritten
  · intro other different
    rw [added]
    refine ⟨?_, id⟩
    intro failed stored member isPod
    rcases List.mem_append.mp member with old | new
    · exact failed stored old isPod
    · rw [List.mem_singleton] at new
      subst new
      refine absurd ?_ different
      have sameNs : tj.key.ns = other.ns := by
        rw [← isPod.1]
        exact (congrArg ObjectKey.ns named).symm
      have sameName : tj.key.name = other.name := Option.some.inj (label.symm.trans isPod.2)
      cases other
      cases key : tj.key
      simp_all

theorem write_guards {key : ObjectKey} {w w' : Lagging} {spec : TaskJobSpec}
    {status : TaskJobStatus} (failing : status.phase = .failed → AllFailed key w.now)
    (written : w'.now = writeJobStatus w.now key spec status) : Guards key w w' := by
  apply guards_of_own
  · by_cases phase : status.phase = .failed
    · refine Or.inr ?_
      rw [written]
      exact failing phase
    · refine Or.inl ?_
      rw [written]
      intro entry found
      cases Option.some.inj ((put_cell_self _ _ _).symm.trans found)
      exact phase
  · intro other different
    rw [written]
    refine ⟨id, ?_⟩
    intro unwritten entry found
    rcases cell_of_put found with ⟨same, _⟩ | ⟨_, before⟩
    · exact absurd same.symm different
    · exact unwritten entry before

theorem known_kept {key : ObjectKey} {tj : TaskJob} {progress : Progress} {w w' : Lagging}
    (known : Known key tj progress w) (moved : Undisturbed key w.now w'.now) :
    Known key tj progress w' :=
  ⟨known.1, moved.2 known.2.1, noLivePod_kept moved progress known.2.2⟩

theorem known_same {key : ObjectKey} {tj : TaskJob} {progress : Progress} {w w' : Lagging}
    (known : Known key tj progress w) (same : w'.now = w.now) : Known key tj progress w' :=
  known_kept known (same ▸ undisturbed_refl key w.now)

theorem lagging_get {key : ObjectKey} {w w' : Lagging} {answer : Answer (.getTaskJob key)}
    (out : LaggingOutcome (.getTaskJob key) w answer w') :
    w'.now = w.now ∧ ∀ tj, answer = Except.ok tj →
      ∃ entry, w.now.jobs.cell key = some entry ∧ tj = toTaskJob key entry := by
  cases out with
  | usual out => exact outcome_get out

theorem honest_obligations (parseQuantity : String → Option ℚ) (key : ObjectKey) :
    Obligations (fun op w answer w' => LaggingOutcome op w answer w' ∧ Honest op w answer w')
      (fun _ => True) (fun w w' => Undisturbed key w.now w'.now) (Guards key) parseQuantity key
      (fun _ => True) (Known key) where
  begunKept _ _ _ _ := trivial
  kept tj progress a b := known_kept
  taskRead a answer b _ _ out := by
    obtain ⟨same, read⟩ := lagging_get out.1
    refine ⟨guards_same same, ?_⟩
    intro tj ok live
    obtain ⟨entry, found, rfl⟩ := read tj ok
    refine known_same ⟨rfl, ?_, trivial⟩ same
    intro current here failed
    cases Option.some.inj (here.symm.trans found)
    exact live (Or.inr failed)
  dependencyRead tj dep rest a answer b known _ out := by
    obtain ⟨same, _⟩ := lagging_get out.1
    have next := known_same known same
    exact ⟨guards_same same, next, fun _ _ _ => ⟨next.1, next.2.1, trivial⟩⟩
  podsListed tj a answer b known _ out := by
    have same := reading_keeps (fun out => (outcome_list out).1) out.1
    obtain ⟨isKey, unwritten, _⟩ := known_same known same
    refine ⟨guards_same same, fun items ok => ?_⟩
    have honest : (∀ pod, items.head? = some pod → pod.status.phase = .failed) →
        AllFailed key b.now := by
      intro failed
      rw [same, ← isKey]
      exact out.2 items ok failed
    refine ⟨fun empty => ⟨isKey, unwritten, honest ?_⟩, fun pod first => ⟨isKey, unwritten, ?_⟩⟩
    · intro pod first
      rw [empty] at first
      cases first
    · intro failed
      apply honest
      intro other again
      cases Option.some.inj (again.symm.trans first)
      exact failed
  clockRead tj pod a answer b known _ out := by
    have same := reading_keeps outcome_now out.1
    exact ⟨guards_same same, known_same known same⟩
  podCreated tj pod a answer b known _ _ built out := by
    obtain ⟨rfl, unwritten, failed⟩ := known
    have stored : b.now = a.now ∨ b.now = addPod a.now pod := by
      cases out.1 with
      | usual created => exact (outcome_create created).imp_right And.left
    have guards : Guards tj.key a b := by
      rcases stored with same | added
      · exact guards_same same
      · exact addPod_guards unwritten built added
    have unwritten' : Unwritten tj.key b.now := by
      rcases stored with same | added
      · rw [same]
        exact unwritten
      · rw [added]
        exact unwritten
    refine ⟨guards, fun _ => ⟨rfl, unwritten', fun impossible => nomatch impossible⟩, ?_⟩
    intro err lost
    refine ⟨rfl, unwritten', fun _ => ?_⟩
    unfold AllFailed
    rw [out.2 err lost]
    exact failed
  statusWritten tj progress status a answer b known _ writes out := by
    obtain ⟨rfl, _, noLive⟩ := known
    cases out.1 with
    | usual updated =>
        rcases outcome_update updated with same | ⟨entry, found, current, written⟩
        · exact guards_same same
        · exact write_guards (allFailed_of_writes noLive writes) written

def honestDiscipline (parseQuantity : String → Option ℚ) :
    Discipline (honestSystem parseQuantity) where
  inv w := FailedClean w.now
  rely key w w' := Undisturbed key w.now w'.now
  guar := Guards
  rely_refl key w := undisturbed_refl key w.now
  rely_trans _ _ _ _ := undisturbed_trans
  guar_rely _ other different _ _ _ guards := guards.2 other different
  environment_rely key w w' _ moves := by
    obtain ⟨now, moved, rfl⟩ := moves
    exact environment_undisturbed moved key
  guar_inv _ _ _ clean guards := guards.1 clean
  environment_inv w w' clean moves := by
    obtain ⟨now, moved, rfl⟩ := moves
    exact failedClean_kept clean (environment_undisturbed moved)
  outlined key p w allowed _ := by
    cases allowed
    exact reconcile_outlined_as (honest_obligations parseQuantity key) (fun _ _ => trivial)
      (fun _ _ guards => guards) w

/-- In every state of every run whose lists and `Create` calls are answered
honestly, a TaskJob that is Failed and has an image has no pod that is
Pending, Running or Succeeded. -/
theorem failed_means_failed (parseQuantity : String → Option ℚ)
    (start c : LaggingConfiguration)
    (history : List (LaggingConfiguration × Event ObjectKey Call Answer))
    (unstarted : LaggingUnstarted start)
    (run : (honestSystem parseQuantity).Run start history c) :
    FailedMeansFailed c.world.now := by
  have clean : FailedClean start.world.now := by
    intro key
    refine Or.inl fun entry found failed => ?_
    rw [unstarted.noPhase key entry found] at failed
    cases failed
  have sound := (honestDiscipline parseQuantity).run_sound
    ((honestDiscipline parseQuantity).sound_of_idle start clean unstarted.idle) run
  intro key entry found _ failed pod member isPod unfailed
  rcases sound.1 key with unwritten | allFailed
  · exact unwritten entry found failed
  · rw [Unfailed, allFailed pod member isPod] at unfailed
    rcases unfailed with impossible | impossible | impossible <;> cases impossible

/-! ### A pod that fails, and a `Create` whose reply is lost -/

def oneJob : Lagging where
  now := ⟨Store.empty.put ⟨"default", "a"⟩ ⟨plainSpec [], .zero⟩, [], 0, 0⟩
  past := []

theorem oneJob_unstarted : LaggingUnstarted ⟨oneJob, fun _ => none⟩ := by
  refine ⟨?_, fun _ => (nomatch ·), rfl, fun _ => rfl⟩
  intro key entry found
  rcases cell_of_put found with ⟨rfl, rfl⟩ | ⟨_, before⟩
  · rfl
  · cases before

def current (op : Call) (w : Lagging) : Answer op × Lagging :=
  ((serve op w.now).1, w.moved (serve op w.now).2)

def reconciledNow (w : Lagging) : Lagging :=
  ((reconcile (fun _ => some 1) ⟨"default", "a"⟩).eval current w).2

def podFailed : Lagging :=
  (reconciledNow oneJob).moved { (reconciledNow oneJob).now with
    pods := (reconciledNow oneJob).now.pods.map fun pod =>
      { pod with status := { pod.status with phase := .failed } } }

theorem podFailed_run : ∃ history, (honestSystem fun _ => some 1).Run ⟨oneJob, fun _ => none⟩
    history ⟨reconciledNow podFailed, fun _ => none⟩ := by
  obtain ⟨first, toFirst⟩ := (honestSystem fun _ => some 1).run_served current ⟨"default", "a"⟩
    (reconcile (fun _ => some 1) ⟨"default", "a"⟩) rfl ⟨oneJob, fun _ => none⟩
    ⟨⟨.usual .served, trivial⟩,
      ⟨.usual .served, fun _ _ _ pod member => by cases member⟩,
      ⟨.usual .served, fun err lost => by cases lost⟩,
      ⟨.usual .served, trivial⟩, trivial⟩ rfl
  obtain ⟨pod, onePod, pending⟩ : ∃ pod, (reconciledNow oneJob).now.pods = [pod] ∧
      pod.status.phase = .pending := ⟨_, rfl, rfl⟩
  have fails : LaggingEnvironment (reconciledNow oneJob) podFailed := by
    refine ⟨_, ?_, rfl⟩
    have move := Environment.podMoves [] [] pod { pod.status with phase := .failed } onePod
      (by simp [PodPhase.Forward, pending, PodPhase.terminated, PodPhase.rank])
    simpa [onePod] using move
  obtain ⟨second, toSecond⟩ := (honestSystem fun _ => some 1).run_served current
    ⟨"default", "a"⟩ (reconcile (fun _ => some 1) ⟨"default", "a"⟩) rfl
    ⟨podFailed, fun _ => none⟩
    ⟨⟨.usual .served, trivial⟩,
      ⟨.usual .served, fun _ _ _ pod member isPod => by
        cases List.mem_singleton.mp member
        rfl⟩,
      ⟨.usual .served, trivial⟩, ⟨.usual .served, trivial⟩, trivial⟩ rfl
  exact ⟨_, (toFirst.snoc (.environment _ _ fails)).trans toSecond⟩

theorem failed_pod_reported :
    LaggingUnstarted ⟨oneJob, fun _ => none⟩ ∧
    (∃ entry, (reconciledNow podFailed).now.jobs.cell ⟨"default", "a"⟩ = some entry ∧
      entry.value.status.phase = .failed) ∧
    FailedMeansFailed (reconciledNow podFailed).now := by
  obtain ⟨history, run⟩ := podFailed_run
  exact ⟨oneJob_unstarted, ⟨_, rfl, rfl⟩,
    failed_means_failed (fun _ => some 1) _ _ history oneJob_unstarted run⟩

/-- `Create` stores the pod and its reply is lost; everything else is served. -/
def lossy : (op : Call) → Lagging → Answer op × Lagging
  | .createPod pod, w => (.error ⟨.unavailable, "timeout"⟩, (current (.createPod pod) w).2)
  | .getTaskJob key, w => current (.getTaskJob key) w
  | .listPods ns taskId, w => current (.listPods ns taskId) w
  | .updateStatus tj, w => current (.updateStatus tj) w
  | .now, w => current .now w

theorem lossy_outcome (op : Call) (w : Lagging) :
    LaggingOutcome op w (lossy op w).1 (lossy op w).2 := by
  cases op with
  | createPod pod => exact .usual (.replyLost "timeout" _ rfl)
  | getTaskJob key => exact .usual .served
  | listPods ns taskId => exact .usual .served
  | updateStatus tj => exact .usual .served
  | now => exact .usual .served

def lostReply : Lagging :=
  ((reconcile (fun _ => some 1) ⟨"default", "a"⟩).eval lossy oneJob).2

/-- A reachable state with a TaskJob that is Failed and whose pod is Pending. -/
theorem lost_reply_fails_live_task :
    LaggingUnstarted ⟨oneJob, fun _ => none⟩ ∧
    (∃ history, (laggingSystem fun _ => some 1).Run ⟨oneJob, fun _ => none⟩ history
      ⟨lostReply, fun _ => none⟩) ∧
    ¬ FailedMeansFailed lostReply.now := by
  refine ⟨oneJob_unstarted, ?_, ?_⟩
  · exact (laggingSystem fun _ => some 1).run_eval lossy ⟨"default", "a"⟩ lossy_outcome
      (reconcile (fun _ => some 1) ⟨"default", "a"⟩) rfl ⟨oneJob, fun _ => none⟩ rfl
  · intro safe
    obtain ⟨entry, found, image, failed⟩ : ∃ entry,
        lostReply.now.jobs.cell ⟨"default", "a"⟩ = some entry ∧
        entry.value.spec.image = "busybox" ∧ entry.value.status.phase = .failed :=
      ⟨_, rfl, rfl, rfl⟩
    obtain ⟨pod, member, isPod, pending⟩ : ∃ pod, pod ∈ lostReply.now.pods ∧
        IsPodOf pod ⟨"default", "a"⟩ ∧ pod.status.phase = .pending :=
      ⟨_, List.mem_singleton_self _, ⟨rfl, rfl⟩, rfl⟩
    exact safe _ entry found (by simp [image]) failed pod member isPod (Or.inl pending)

end CloudOS.Operator.FailedPhase
