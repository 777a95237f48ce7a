import CloudOS.Operator.TaskJobReconcile

/-!
# The reconciler under interference

What a rely/guarantee argument about `Reconcile` has to show at each of its
calls, whatever world the calls act on.  `held tj progress` is what is known
of the world when the reconcile has read `tj` and come as far as `progress`.
`reconcile_stages` walks through the reconciler once; a safety proof then
only says what each kind of call does to its own invariant.  Most proofs look
only at the phases that are written, and use `reconcile_outline`.
-/

set_option autoImplicit false

namespace CloudOS.Operator.ReconcileOutline

open CloudOS.Kubernetes.Objects
open CloudOS.Lib.CallProgram
open CloudOS.Operator.TaskJobReconcile

/-- How far a reconcile has come: dependencies are being read, of which the
`remaining` ones have not been seen Completed; a pod was listed; no pod was
listed; the call that creates the pod has been answered. -/
inductive Progress where
  | checking (remaining : List String)
  | listed (pod : Pod)
  | vacant
  | created (stored : Bool)

/-- The phase `syncStatus` writes for a pod; an `Unknown` pod is left alone. -/
def reportedPhase : PodPhase → Option TaskPhase
  | .running => some .running
  | .succeeded => some .completed
  | .failed => some .failed
  | .pending => some .queued
  | .unknown => none

inductive Writes : Progress → TaskPhase → Prop
  | waiting (dep : String) (rest : List String) : Writes (.checking (dep :: rest)) .queued
  | reported (pod : Pod) (phase : TaskPhase)
      (reports : reportedPhase pod.status.phase = some phase) : Writes (.listed pod) phase
  | noImage : Writes .vacant .failed
  | notCreated : Writes (.created false) .failed
  | started : Writes (.created true) .running

def waiting (status : TaskJobStatus) : TaskJobStatus :=
  { status with phase := .queued, message := "Waiting for dependencies" }

/-- The status `syncStatus` leaves for a pod in this phase. -/
def synced (now : Nat) (status : TaskJobStatus) : PodPhase → TaskJobStatus
  | .running => { status with
      phase := .running, message := "Pod is running"
      startTime := some (status.startTime.getD now) }
  | .succeeded => { status with
      phase := .completed, endTime := some now
      message := "Task completed successfully", exitCode := 0 }
  | .failed => { status with phase := .failed, endTime := some now, message := "Pod failed" }
  | .pending => { status with phase := .queued, message := "Pod pending scheduling" }
  | .unknown => status

/-- `Progress` with a dependency seen that is not Completed, and with the time
that was read for a listed pod. -/
inductive Stage where
  | checking (remaining : List String)
  | waiting
  | listed (pod : Pod)
  | timed (pod : Pod) (now : Nat)
  | vacant
  | created (stored : Bool)

inductive WritesStatus (tj : TaskJob) : Stage → TaskJobStatus → Prop
  | waits : WritesStatus tj .waiting (waiting tj.status)
  | untimed (pod : Pod) (status : TaskJobStatus)
      (reports : reportedPhase pod.status.phase = some status.phase)
      (anyTime : ∀ now, synced now tj.status pod.status.phase = status) :
      WritesStatus tj (.listed pod) status
  | timed (pod : Pod) (now : Nat) (status : TaskJobStatus)
      (reports : reportedPhase pod.status.phase = some status.phase)
      (atTime : synced now tj.status pod.status.phase = status) :
      WritesStatus tj (.timed pod now) status
  | noImage : WritesStatus tj .vacant { tj.status with
      phase := .failed, message := "No image specified" }
  | notCreated (err : ApiError) : WritesStatus tj (.created false) { tj.status with
      phase := .failed, message := "Pod creation failed: " ++ err.message }
  | started (podName : String) : WritesStatus tj (.created true) { tj.status with
      phase := .running, podName := podName }

section
variable {W : Type} (outcome : (op : Call) → W → Answer op → W → Prop) (inv : W → Prop)
  (rely guar : W → W → Prop) (parseQuantity : String → Option ℚ) (key : ObjectKey)

/-- The obligations of a proof that looks at the statuses written; `begun` is
what is known before the first call. -/
structure StageObligations (begun : W → Prop) (held : TaskJob → Stage → W → Prop) : Prop where
  begunKept : ∀ a b, begun a → rely a b → begun b
  kept : ∀ tj stage a b, held tj stage a → rely a b → held tj stage b
  taskRead : ∀ a answer b, begun a → inv a → outcome (.getTaskJob key) a answer b →
    guar a b ∧ ∀ tj, answer = Except.ok tj → ¬ TaskPhase.terminal tj.status.phase →
      held tj (.checking tj.spec.dependsOn) b
  dependencyRead : ∀ tj dep rest a answer b, held tj (.checking (dep :: rest)) a → inv a →
    outcome (.getTaskJob ⟨tj.key.ns, dep⟩) a answer b →
      guar a b ∧ ∀ read, answer = Except.ok read →
        (read.status.phase = .completed → held tj (.checking rest) b) ∧
        (read.status.phase ≠ .completed → held tj .waiting b)
  podsListed : ∀ tj a answer b, held tj (.checking []) a → inv a →
    outcome (.listPods tj.key.ns tj.key.name) a answer b →
      guar a b ∧ ∀ items, answer = Except.ok items →
        (items.head? = none → held tj .vacant b) ∧
        ∀ pod, items.head? = some pod → held tj (.listed pod) b
  clockRead : ∀ tj pod a (now : Nat) b, held tj (.listed pod) a → inv a → outcome .now a now b →
    guar a b ∧ held tj (.timed pod now) b
  podCreated : ∀ tj pod a answer b, held tj .vacant a → inv a → tj.spec.image ≠ "" →
    buildPod parseQuantity tj = some pod → outcome (.createPod pod) a answer b →
      guar a b ∧ (answer = Except.ok () → held tj (.created true) b) ∧
        ∀ err, answer = Except.error err → held tj (.created false) b
  statusWritten : ∀ tj stage status a answer b, held tj stage a → inv a →
    WritesStatus tj stage status →
    outcome (.updateStatus { tj with status := status }) a answer b → guar a b

/-- `begun` is what is known before the first call. -/
structure Obligations (begun : W → Prop) (held : TaskJob → Progress → W → Prop) : Prop where
  begunKept : ∀ a b, begun a → rely a b → begun b
  kept : ∀ tj progress a b, held tj progress a → rely a b → held tj progress b
  taskRead : ∀ a answer b, begun a → inv a → outcome (.getTaskJob key) a answer b →
    guar a b ∧ ∀ tj, answer = Except.ok tj → ¬ TaskPhase.terminal tj.status.phase →
      held tj (.checking tj.spec.dependsOn) b
  dependencyRead : ∀ tj dep rest a answer b, held tj (.checking (dep :: rest)) a → inv a →
    outcome (.getTaskJob ⟨tj.key.ns, dep⟩) a answer b →
      guar a b ∧ held tj (.checking (dep :: rest)) b ∧
        ∀ read, answer = Except.ok read → read.status.phase = .completed →
          held tj (.checking rest) b
  podsListed : ∀ tj a answer b, held tj (.checking []) a → inv a →
    outcome (.listPods tj.key.ns tj.key.name) a answer b →
      guar a b ∧ ∀ items, answer = Except.ok items →
        (items.head? = none → held tj .vacant b) ∧
        ∀ pod, items.head? = some pod → held tj (.listed pod) b
  clockRead : ∀ tj pod a answer b, held tj (.listed pod) a → inv a → outcome .now a answer b →
    guar a b ∧ held tj (.listed pod) b
  podCreated : ∀ tj pod a answer b, held tj .vacant a → inv a → tj.spec.image ≠ "" →
    buildPod parseQuantity tj = some pod → outcome (.createPod pod) a answer b →
      guar a b ∧ (answer = Except.ok () → held tj (.created true) b) ∧
        ∀ err, answer = Except.error err → held tj (.created false) b
  statusWritten : ∀ tj progress status a answer b, held tj progress a → inv a →
    Writes progress status.phase →
    outcome (.updateStatus { tj with status := status }) a answer b → guar a b

end

section
variable {W : Type} {outcome : (op : Call) → W → Answer op → W → Prop} {inv : W → Prop}
  {rely guar : W → W → Prop} {parseQuantity : String → Option ℚ} {key : ObjectKey}
  {begun : W → Prop} {held : TaskJob → Progress → W → Prop}

/-- The only panic is that of `buildPod`, in a reconcile that found no pod. -/
def PanicsOnlyBuilding (parseQuantity : String → Option ℚ)
    (held : TaskJob → Progress → W → Prop) (exit : Exit) (w : W) : Prop :=
  exit = .panicked →
    ∃ tj, held tj .vacant w ∧ tj.spec.image ≠ "" ∧ buildPod parseQuantity tj = none

/-! ## The walk through the reconciler -/

section Stages
variable {heldAt : TaskJob → Stage → W → Prop}

def PanicsOnlyVacant (parseQuantity : String → Option ℚ)
    (heldAt : TaskJob → Stage → W → Prop) (exit : Exit) (w : W) : Prop :=
  exit = .panicked →
    ∃ tj, heldAt tj .vacant w ∧ tj.spec.image ≠ "" ∧ buildPod parseQuantity tj = none

variable (o : StageObligations outcome inv rely guar parseQuantity key begun heldAt)
include o

theorem writeStatus_outline (tj : TaskJob) (stage : Stage) (status : TaskJobStatus)
    (exit : Exit) (returns : exit ≠ .panicked) (w : W) (holds : heldAt tj stage w)
    (writes : WritesStatus tj stage status) :
    (writeStatus tj status exit).Outline outcome inv rely guar
      (PanicsOnlyVacant parseQuantity heldAt) w := by
  apply Prog.Outline.of_perform (heldAt tj stage) holds (o.kept tj stage)
  intro a answer b stillHeld invariant out
  refine ⟨o.statusWritten tj stage status a answer b stillHeld invariant writes out, ?_⟩
  cases answer with
  | error err => exact (nomatch ·)
  | ok stored => exact fun panicked => absurd panicked returns

theorem startPod_outline (tj : TaskJob) (w : W) (holds : heldAt tj .vacant w) :
    (startPod parseQuantity tj).Outline outcome inv rely guar
      (PanicsOnlyVacant parseQuantity heldAt) w := by
  unfold startPod
  by_cases noImage : tj.spec.image = ""
  · rw [if_pos noImage]
    exact writeStatus_outline o tj .vacant _ _ (by nofun) w holds .noImage
  · rw [if_neg noImage]
    cases built : buildPod parseQuantity tj with
    | none => exact fun _ => ⟨tj, holds, noImage, built⟩
    | some pod =>
        apply Prog.Outline.of_perform (heldAt tj .vacant) holds (o.kept tj .vacant)
        intro a answer b stillHeld invariant out
        obtain ⟨kept, stored, lost⟩ :=
          o.podCreated tj pod a answer b stillHeld invariant noImage built out
        refine ⟨kept, ?_⟩
        cases answer with
        | error err =>
            exact writeStatus_outline o tj _ _ _ (by nofun) b (lost err rfl) (.notCreated err)
        | ok done =>
            exact writeStatus_outline o tj _ _ _ (by nofun) b (stored rfl) (.started pod.key.name)

theorem timedWrite_outline (tj : TaskJob) (pod : Pod) (status : Nat → TaskJobStatus)
    (exit : Exit) (returns : exit ≠ .panicked) (w : W) (holds : heldAt tj (.listed pod) w)
    (reports : ∀ now, reportedPhase pod.status.phase = some (status now).phase)
    (atTime : ∀ now, synced now tj.status pod.status.phase = status now) :
    (timeNow >>= fun now => writeStatus tj (status now) exit).Outline
      outcome inv rely guar (PanicsOnlyVacant parseQuantity heldAt) w := by
  apply Prog.Outline.of_perform (heldAt tj (.listed pod)) holds (o.kept tj (.listed pod))
  intro a now b stillHeld invariant out
  obtain ⟨kept, next⟩ := o.clockRead tj pod a now b stillHeld invariant out
  exact ⟨kept, writeStatus_outline o tj _ (status now) exit returns b next
    (.timed pod now _ (reports now) (atTime now))⟩

theorem syncStatus_outline (tj : TaskJob) (pod : Pod) (w : W)
    (holds : heldAt tj (.listed pod) w) :
    (syncStatus tj pod).Outline outcome inv rely guar
      (PanicsOnlyVacant parseQuantity heldAt) w := by
  unfold syncStatus
  cases phase : pod.status.phase with
  | running =>
      cases started : tj.status.startTime with
      | none =>
          exact timedWrite_outline o tj pod _ _ (by nofun) w holds (fun _ => by rw [phase]; rfl)
            fun _ => by rw [phase, synced, started]; rfl
      | some time =>
          exact writeStatus_outline o tj _ _ _ (by nofun) w holds
            (.untimed pod _ (by rw [phase]; rfl) fun _ => by rw [phase, synced, started]; rfl)
  | succeeded =>
      exact timedWrite_outline o tj pod _ _ (by nofun) w holds (fun _ => by rw [phase]; rfl)
        fun _ => by rw [phase]; rfl
  | failed =>
      exact timedWrite_outline o tj pod _ _ (by nofun) w holds (fun _ => by rw [phase]; rfl)
        fun _ => by rw [phase]; rfl
  | pending =>
      exact writeStatus_outline o tj _ _ _ (by nofun) w holds
        (.untimed pod _ (by rw [phase]; rfl) fun _ => by rw [phase]; rfl)
  | unknown => exact (nomatch ·)

/-- The loop stops at a dependency that is not Completed, or has seen all of
them Completed. -/
theorem checkDependencies_outline (tj : TaskJob) (deps : List String) (w : W)
    (holds : heldAt tj (.checking deps) w) :
    (checkDependencies tj.key.ns deps).Outline outcome inv rely guar
      (fun result a => (result = .ok true → heldAt tj (.checking []) a) ∧
        (result = .ok false → heldAt tj .waiting a)) w := by
  induction deps generalizing w with
  | nil => exact ⟨fun _ => holds, (nomatch ·)⟩
  | cons dep rest ih =>
      apply Prog.Outline.of_perform (heldAt tj (.checking (dep :: rest))) holds
        (o.kept tj (.checking (dep :: rest)))
      intro a answer b stillHeld invariant out
      obtain ⟨kept, seen⟩ := o.dependencyRead tj dep rest a answer b stillHeld invariant out
      refine ⟨kept, ?_⟩
      cases answer with
      | error err => exact ⟨(nomatch ·), (nomatch ·)⟩
      | ok read =>
          obtain ⟨completed, stopped⟩ := seen read rfl
          by_cases phase : read.status.phase = .completed
          · simpa [phase] using ih b (completed phase)
          · simp only [ne_eq, phase, not_false_eq_true, if_true]
            exact ⟨(nomatch ·), fun _ => stopped phase⟩

theorem findPod_outline (tj : TaskJob) (w : W) (holds : heldAt tj (.checking []) w) :
    (findPod tj).Outline outcome inv rely guar
      (fun result a => (result = .ok none → heldAt tj .vacant a) ∧
        ∀ pod, result = .ok (some pod) → heldAt tj (.listed pod) a) w := by
  apply Prog.Outline.of_perform (heldAt tj (.checking [])) holds (o.kept tj (.checking []))
  intro a answer b stillHeld invariant out
  obtain ⟨kept, listed⟩ := o.podsListed tj a answer b stillHeld invariant out
  refine ⟨kept, ?_⟩
  cases answer with
  | error err => exact ⟨(nomatch ·), fun _ => (nomatch ·)⟩
  | ok items =>
      obtain ⟨empty, first⟩ := listed items rfl
      exact ⟨fun same => empty (Except.ok.inj same), fun pod same => first pod (Except.ok.inj same)⟩

theorem reconcile_stages (w : W) (start : begun w) :
    (reconcile parseQuantity key).Outline outcome inv rely guar
      (PanicsOnlyVacant parseQuantity heldAt) w := by
  apply Prog.Outline.of_perform begun start o.begunKept
  intro a answer b before invariant out
  obtain ⟨kept, read⟩ := o.taskRead a answer b before invariant out
  refine ⟨kept, ?_⟩
  cases answer with
  | error err =>
      by_cases missing : err.reason = .notFound
      · simp only [missing, if_true]
        exact (nomatch ·)
      · simp only [missing, if_false]
        exact (nomatch ·)
  | ok taskJob =>
      by_cases terminal : taskJob.status.phase = .completed ∨ taskJob.status.phase = .failed
      · simp only [terminal, if_true]
        exact (nomatch ·)
      · simp only [terminal, if_false]
        refine Prog.Outline.bind
          (checkDependencies_outline o taskJob _ b (read taskJob rfl terminal)) ?_
        rintro (err | _ | _) c ⟨allSeen, stopped⟩
        · exact (nomatch ·)
        · exact writeStatus_outline o taskJob _ _ _ (by nofun) c (stopped rfl) .waits
        · refine Prog.Outline.bind (findPod_outline o taskJob c (allSeen rfl)) ?_
          rintro (err | _ | existingPod) d ⟨empty, first⟩
          · exact (nomatch ·)
          · exact startPod_outline o taskJob d (empty rfl)
          · exact syncStatus_outline o taskJob existingPod d (first existingPod rfl)

end Stages

/-! ## Proofs that look at phases only -/

/-- What a proof that forgets the times and the dependency that was not
Completed knows in a stage. -/
def atStage (held : TaskJob → Progress → W → Prop) (tj : TaskJob) : Stage → W → Prop
  | .checking remaining, w => held tj (.checking remaining) w
  | .waiting, w => ∃ dep rest, held tj (.checking (dep :: rest)) w
  | .listed pod, w => held tj (.listed pod) w
  | .timed pod _, w => held tj (.listed pod) w
  | .vacant, w => held tj .vacant w
  | .created stored, w => held tj (.created stored) w

theorem writes_of_stage {tj : TaskJob} {stage : Stage} {status : TaskJobStatus} {w : W}
    (holds : atStage held tj stage w) (writes : WritesStatus tj stage status) :
    ∃ progress, held tj progress w ∧ Writes progress status.phase := by
  cases writes with
  | waits =>
      obtain ⟨dep, rest, checking⟩ := holds
      exact ⟨_, checking, .waiting dep rest⟩
  | untimed pod _ reports anyTime => exact ⟨_, holds, .reported pod _ reports⟩
  | timed pod now _ reports atTime => exact ⟨_, holds, .reported pod _ reports⟩
  | noImage => exact ⟨_, holds, .noImage⟩
  | notCreated err => exact ⟨_, holds, .notCreated⟩
  | started podName => exact ⟨_, holds, .started⟩

theorem Obligations.staged
    (o : Obligations outcome inv rely guar parseQuantity key begun held) :
    StageObligations outcome inv rely guar parseQuantity key begun (atStage held) where
  begunKept := o.begunKept
  kept tj stage a b holds moved := by
    cases stage with
    | checking remaining => exact o.kept tj _ a b holds moved
    | waiting =>
        obtain ⟨dep, rest, checking⟩ := holds
        exact ⟨dep, rest, o.kept tj _ a b checking moved⟩
    | listed pod => exact o.kept tj _ a b holds moved
    | timed pod now => exact o.kept tj _ a b holds moved
    | vacant => exact o.kept tj _ a b holds moved
    | created stored => exact o.kept tj _ a b holds moved
  taskRead := o.taskRead
  dependencyRead tj dep rest a answer b holds invariant out := by
    obtain ⟨kept, same, seen⟩ := o.dependencyRead tj dep rest a answer b holds invariant out
    exact ⟨kept, fun read ok => ⟨seen read ok, fun _ => ⟨dep, rest, same⟩⟩⟩
  podsListed := o.podsListed
  clockRead := o.clockRead
  podCreated := o.podCreated
  statusWritten tj stage status a answer b holds invariant writes out := by
    obtain ⟨progress, known, writesPhase⟩ := writes_of_stage holds writes
    exact o.statusWritten tj progress status a answer b known invariant writesPhase out

theorem reconcile_outline (o : Obligations outcome inv rely guar parseQuantity key begun held)
    (w : W) (start : begun w) :
    (reconcile parseQuantity key).Outline outcome inv rely guar
      (PanicsOnlyBuilding parseQuantity held) w :=
  reconcile_stages o.staged w start

end

/-- The rule for disciplines, which know nothing before the first call and ask
nothing of the exit. -/
theorem reconcile_outlined_as {W : Type} {outcome : (op : Call) → W → Answer op → W → Prop}
    {inv inv' : W → Prop} {rely guar guar' : W → W → Prop} {parseQuantity : String → Option ℚ}
    {key : ObjectKey} {held : TaskJob → Progress → W → Prop}
    (o : Obligations outcome inv rely guar parseQuantity key (fun _ => True) held)
    (stronger : ∀ a, inv' a → inv a) (weaker : ∀ a b, guar a b → guar' a b) (w : W) :
    (reconcile parseQuantity key).Outline outcome inv' rely guar' (fun _ _ => True) w :=
  (reconcile_outline o w trivial).mono stronger (fun a b _ move => weaker a b move)
    fun _ _ _ => trivial

end CloudOS.Operator.ReconcileOutline
