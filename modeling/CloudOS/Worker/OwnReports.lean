import CloudOS.Operator.AdmittedJobs
import CloudOS.Worker.Runner

/-!
# Which TaskJob a worker reports as

The worker takes the id it reports under from its environment.  `buildPod` puts
the operator's variables first and those of the TaskJob after them, and of a
variable that is there more than once a container gets the last.
-/

set_option autoImplicit false

namespace CloudOS.Worker.OwnReports

open CloudOS.Kubernetes.Objects
open CloudOS.Lib.CallProgram
open CloudOS.Operator.AdmittedJobs
open CloudOS.Operator.TaskJobReconcile (TaskJob TaskJobStatus buildEnv buildPod)
open CloudOS.Worker.Runner

/-- The value of the last occurrence of a variable, as it is written there. -/
def lastValue (env : List EnvVar) (name : String) : Option String :=
  (env.reverse.find? fun var => var.name = name).map EnvVar.value

/-- The container's own variables go before those of its image. -/
def environ (container : Container) (image : String → Option String) (name : String) :
    Option String :=
  (lastValue container.env name).or (image name)

/-- One run of the worker: the variables of its image, how many lines it reads
and how its calls turn out. -/
structure Run where
  image : String → Option String
  lines : Nat
  answers : List Call → (call : Call) → Answer call

def Run.calls (run : Run) (container : Container) : List Call :=
  (main run.lines (environ container run.image)).run.trace run.answers []

structure Run.RedisAnswers (run : Run) : Prop where
  connect : ∀ issued url, run.answers issued (.connect url) = .ok ()
  rpush : ∀ issued key entry, run.answers issued (.rpush key entry) = .ok ()
  set : ∀ issued key data, run.answers issued (.set key data) = .ok ()
  publish : ∀ issued channel data, run.answers issued (.publish channel data) = .ok ()

/-- What the workers of the pod write is written under the name, and when Redis
answers a log and a status are. -/
structure ReportsOnlyAs (name : String) (pod : Pod) : Prop where
  only : ∀ container ∈ pod.spec.containers, ∀ (run : Run), ∀ call ∈ run.calls container,
    call.Under name
  written : ∀ container ∈ pod.spec.containers, ∀ (run : Run), run.RedisAnswers →
    (∃ entry, .rpush (logKey name) entry ∈ run.calls container) ∧
      ∃ data, .set (statusKey name) data ∈ run.calls container

/-! ## The environment of the pod -/

theorem lastValue_append (first second : List EnvVar) (name : String) :
    lastValue (first ++ second) name = (lastValue second name).or (lastValue first name) := by
  unfold lastValue
  rw [List.reverse_append, List.find?_append, Option.map_or]

theorem lastValue_buildEnv (tj : TaskJob) :
    lastValue (buildEnv tj) "CLOUDOS_TASK_ID" =
      some ((lastValue tj.spec.env "CLOUDOS_TASK_ID").getD tj.key.name) := by
  have operators : lastValue
      [⟨"CLOUDOS_TASK_ID", tj.key.name⟩, ⟨"CLOUDOS_NAMESPACE", tj.key.ns⟩,
        ⟨"CLOUDOS_PRIORITY", tj.spec.priority⟩, ⟨"CLOUDOS_ALGORITHM", tj.spec.algorithm⟩,
        ⟨"REDIS_URL", "redis://redis-svc:6379"⟩] "CLOUDOS_TASK_ID" = some tj.key.name := by
    simp [lastValue]
  rw [buildEnv, lastValue_append, operators]
  cases lastValue tj.spec.env "CLOUDOS_TASK_ID" <;> rfl

theorem taskIdOf_built {tj : TaskJob} {container : Container} (env : container.env = buildEnv tj)
    (image : String → Option String) :
    taskIdOf (environ container image) =
      (lastValue tj.spec.env "CLOUDOS_TASK_ID").getD tj.key.name := by
  rw [taskIdOf, environ, env, lastValue_buildEnv]
  rfl

theorem buildPod_containers {parseQuantity : String → Option ℚ} {tj : TaskJob} {pod : Pod}
    (built : buildPod parseQuantity tj = some pod) :
    ∃ container, pod.spec.containers = [container] ∧ container.env = buildEnv tj := by
  unfold buildPod at built
  obtain ⟨cpu, _, built⟩ := Option.bind_eq_some_iff.mp built
  obtain ⟨memory, _, built⟩ := Option.bind_eq_some_iff.mp built
  cases built
  exact ⟨_, rfl, rfl⟩

/-! ## The first reports -/

theorem eval_bind_ok {α β S : Type} {handle : (call : Call) → S → Answer call × S} {x : Action α}
    {f : α → Action β} {before later : S} {value : α}
    (first : x.run.eval handle before = (.ok value, later)) :
    (x >>= f).run.eval handle before = (f value).run.eval handle later := by
  show (x.run >>= ExceptT.bindCont f).eval handle before = _
  rw [eval_bind, first]
  rfl

section Reports
variable {run : Run} (answering : run.RedisAnswers)
include answering

/-- The shape that `log` and `setStatus` share: the object is stamped, written and
published. -/
theorem stamped_eval {write : Data → Action Unit} {call : Data → Call}
    (writes : ∀ data calls, (write data).run.eval (record run.answers) calls =
      (.ok (), calls ++ [call data])) (object : ℚ → Data) (issued : List Call) :
    ∃ timestamp, (time >>= fun timestamp => write (object timestamp) >>= fun _ =>
          publish "cloudos:events" (object timestamp)).run.eval (record run.answers) issued =
        (.ok (), issued ++ [.time] ++ [call (object timestamp)] ++
          [.publish "cloudos:events" (object timestamp)]) := by
  have timed : time.run.eval (record run.answers) issued =
      (.ok (run.answers issued .time), issued ++ [.time]) := rfl
  refine ⟨run.answers issued .time, (eval_bind_ok timed).trans ((eval_bind_ok (writes _ _)).trans ?_)⟩
  exact congrArg (·, _) (answering.publish _ _ _)

theorem log_eval (taskId message : String) (issued : List Call) :
    ∃ timestamp, (log taskId message).run.eval (record run.answers) issued =
      (.ok (), issued ++ [.time] ++ [.rpush (logKey taskId) (.log taskId timestamp message)] ++
        [.publish "cloudos:events" (.log taskId timestamp message)]) := by
  have writes : ∀ entry calls, (rpush (logKey taskId) entry).run.eval (record run.answers) calls =
      (.ok (), calls ++ [.rpush (logKey taskId) entry]) :=
    fun entry calls => congrArg (·, _) (answering.rpush calls (logKey taskId) entry)
  exact stamped_eval answering writes (fun timestamp => .log taskId timestamp message) issued

theorem setStatus_eval (taskId : String) (status : Status) (exitCode : Option Int)
    (issued : List Call) :
    ∃ timestamp, (setStatus taskId status exitCode).run.eval (record run.answers) issued =
      (.ok (), issued ++ [.time] ++
        [.set (statusKey taskId) (.status taskId status timestamp exitCode)] ++
        [.publish "cloudos:events" (.status taskId status timestamp exitCode)]) := by
  have writes : ∀ data calls, (set (statusKey taskId) data).run.eval (record run.answers) calls =
      (.ok (), calls ++ [.set (statusKey taskId) data]) :=
    fun data calls => congrArg (·, _) (answering.set calls (statusKey taskId) data)
  exact stamped_eval answering writes
    (fun timestamp => .status taskId status timestamp exitCode) issued

theorem main_reports (environ : String → Option String) :
    (∃ entry, .rpush (logKey (taskIdOf environ)) entry ∈
        (main run.lines environ).run.trace run.answers []) ∧
      ∃ data, .set (statusKey (taskIdOf environ)) data ∈
        (main run.lines environ).run.trace run.answers [] := by
  let url := (environ "REDIS_URL").getD "redis://redis-svc:6379"
  have connected : (connect url).run.eval (record run.answers) [] = (.ok (), [.connect url]) :=
    congrArg (·, _) (answering.connect _ _)
  obtain ⟨start, logs⟩ := log_eval answering (taskIdOf environ)
    ("Starting task: " ++ commandOf environ) [.connect url]
  obtain ⟨running, states⟩ := setStatus_eval answering (taskIdOf environ) .running none _
  have begins : (main run.lines environ).run.trace run.answers [] =
      (guarded run.lines (taskIdOf environ) (commandOf environ)).run.trace run.answers _ :=
    congrArg Prod.snd ((eval_bind_ok connected).trans
      ((eval_bind_ok logs).trans (eval_bind_ok states)))
  rw [begins]
  have continued := Prog.trace_prefix run.answers
    (guarded run.lines (taskIdOf environ) (commandOf environ)).run
  exact ⟨⟨.log (taskIdOf environ) start ("Starting task: " ++ commandOf environ),
      (continued _).subset (by simp)⟩,
    ⟨.status (taskIdOf environ) .running running none, (continued _).subset (by simp)⟩⟩

end Reports

/-! ## Every pod -/

/-- A run in which the clock stands still, the command has no output and
succeeds, and Redis answers. -/
def quietRun : Run where
  image := fun _ => none
  lines := 1
  answers := fun _ call =>
    match call with
    | .connect _ => .ok ()
    | .time => (0 : ℚ)
    | .rpush _ _ => .ok ()
    | .set _ _ => .ok ()
    | .publish _ _ => .ok ()
    | .popen _ => .ok ()
    | .readline => .ok none
    | .wait => .ok 0

theorem quietRun_answers : quietRun.RedisAnswers :=
  ⟨fun _ _ => rfl, fun _ _ _ => rfl, fun _ _ _ => rfl, fun _ _ _ => rfl⟩

/-- The worker of a TaskJob's pod reports under the name of the TaskJob and no
other exactly when the last `CLOUDOS_TASK_ID` among the variables of the spec, if
there is one, is that name. -/
theorem reports_only_as_own_iff (parseQuantity : String → Option ℚ) (tj : TaskJob) (pod : Pod)
    (built : buildPod parseQuantity tj = some pod) :
    ReportsOnlyAs tj.key.name pod ↔
      ∀ value ∈ lastValue tj.spec.env "CLOUDOS_TASK_ID", value = tj.key.name := by
  obtain ⟨container, only_one, env⟩ := buildPod_containers built
  have mine : container ∈ pod.spec.containers := by simp [only_one]
  constructor
  · intro reports value chosen
    have id := taskIdOf_built env quietRun.image
    rw [chosen, Option.getD_some] at id
    obtain ⟨⟨entry, pushed⟩, _⟩ := main_reports quietRun_answers (environ container quietRun.image)
    -- the entry under the worker's id is also one under the TaskJob's name
    have ownKey := (reports.only container mine quietRun _ pushed).1
    rw [id] at ownKey
    exact String.append_right_inj _ |>.mp ownKey
  · intro own
    have id : ∀ run : Run, taskIdOf (environ container run.image) = tj.key.name := by
      intro run
      rw [taskIdOf_built env]
      cases chosen : lastValue tj.spec.env "CLOUDOS_TASK_ID" with
      | none => rfl
      | some value => exact own value chosen
    constructor
    · intro other member run call called
      rw [only_one, List.mem_singleton] at member
      subst member
      have calls : (main run.lines (environ other run.image)).run.Ensures (fun _ _ => True)
          (Call.Under (taskIdOf (environ other run.image))) fun _ => True :=
        (main_under run.lines (environ other run.image)).ensures
      have under := calls.trace (fun _ _ => trivial) (by simp) call called
      rwa [id run] at under
    · intro other member run answering
      rw [only_one, List.mem_singleton] at member
      subst member
      have reports := main_reports answering (environ other run.image)
      rwa [id run] at reports

/-- A TaskJob as it is admitted, with a `CLOUDOS_TASK_ID` of its own. -/
def namedSpec (value : String) : AdmittedSpec :=
  ⟨some [("image", .text "worker"), ("name", .text "job"),
      ("env", .records [[("name", "CLOUDOS_TASK_ID"), ("value", value)]])],
    fun object same => by cases same; rfl⟩

def namedJob (value : String) : TaskJob :=
  ⟨⟨"default", "job"⟩, 1, (namedSpec value).toSpec, TaskJobStatus.zero⟩

theorem own_id_reports_as_own :
    ∃ pod, buildPod (fun _ => some 1) (namedJob "job") = some pod ∧ ReportsOnlyAs "job" pod := by
  refine ⟨_, rfl, ?_⟩
  refine (reports_only_as_own_iff (fun _ => some 1) (namedJob "job") _ rfl).mpr ?_
  intro value chosen
  cases chosen
  rfl

/-- The status of another task is set to completed. -/
theorem other_id_reports_as_other :
    ∃ pod, buildPod (fun _ => some 1) (namedJob "other") = some pod ∧
      (∃ container ∈ pod.spec.containers,
        .set "cloudos:status:other" (.status "other" .completed 0 (some 0)) ∈
          quietRun.calls container) ∧
      ¬ ReportsOnlyAs "job" pod := by
  refine ⟨_, rfl, ⟨_, List.mem_cons_self, by decide⟩, ?_⟩
  intro reports
  have completed := reports.only _ List.mem_cons_self quietRun
    (.set "cloudos:status:other" (.status "other" .completed 0 (some 0))) (by decide)
  exact absurd completed.1 (by decide)

end CloudOS.Worker.OwnReports
