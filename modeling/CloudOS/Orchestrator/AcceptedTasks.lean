import CloudOS.Orchestrator.GatewayDeployment

/-!
# What a 202 of the gateway stands for

A 202 is never given for nothing: the scheduler has a task of that request, in the queue
position that the answer tells, each answer a task of its own, and keeps it while the
deployment goes on.
-/

set_option autoImplicit false

namespace CloudOS.Orchestrator.AcceptedTasks

open CloudOS.Lib.History
open CloudOS.Lib.HttpHandlers
open CloudOS.Lib.References
open CloudOS.Mock.SchedulerService
open CloudOS.Orchestrator.ApiGateway (answerSubmission)
open CloudOS.Orchestrator.GatewayDeployment
open CloudOS.Orchestrator.HttpAuth
open CloudOS.Orchestrator.ClientSession
open CloudOS.Orchestrator.Module1Client
open CloudOS.Orchestrator.RetriedSubmission

/-! ## One answer -/

/-- The scheduler has the task that was promised with an answer: the task at `ref` is the
request's and in the place that the answer tells, and its id leads to it or to a newer task of
the same name. -/
def KeptAs (setup : Setup) (s : Service) (answered : HttpRequest × List Write) (ref : Nat) :
    Prop :=
  ∃ req task latest, Authorised setup answered.1 req ∧
    s.tasks.get? ref = some task ∧ task.id = req.name ∧ task.tenantID = req.tenantID ∧
    answered.2 = answerSubmission task.id
      (.ok ⟨true, task.queuePosition.toInt, setup.scheduler.delayMS.tdiv 1000, ""⟩) ∧
    s.tasks.ref? task.id = some latest ∧ ref ≤ latest

section Answer
variable {setup : Setup} {d : Deployment} {r : HttpRequest} {net : Traffic} {input : CallInput}

theorem KeptAs.mono {s s' : Service} (keeps : Keeps s s') {answered : HttpRequest × List Write}
    {ref : Nat} (kept : KeptAs setup s answered ref) : KeptAs setup s' answered ref := by
  obtain ⟨req, task, latest, authorised, there, id, tenantID, told, known, notOlder⟩ := kept
  obtain ⟨task', there', same⟩ := keeps.tasks ref task there
  obtain ⟨newest, known', notOlder'⟩ := keeps.ids task.id latest known
  refine ⟨req, task', newest, authorised, there', same.id.trans id, same.tenantID.trans tenantID,
    ?_, ?_, notOlder.trans notOlder'⟩
  · rw [same.id, same.queuePosition]
    exact told
  · rw [same.id]
    exact known'

theorem submitResult_ok {result : Except CallError Response} {resp : SubmitTaskResponse}
    (well : submitResult setup result = .ok resp) : result = .ok (.submitted resp) := by
  cases result with
  | error err => cases well
  | ok response =>
      cases response with
      | submitted answer =>
          cases well
          rfl
      | taskStatus answer => cases well
      | cancelled => cases well
      | queueDepth answer => cases well

theorem accepted_kept (accepted : .status 202 ∈ (served setup d net input r).writes) :
    ∃ ref, d.service.tasks.heap.length ≤ ref ∧
      ref < (deploymentStep setup d (.http r net input)).service.tasks.heap.length ∧
      KeptAs setup (deploymentStep setup d (.http r net input)).service
        (r, (served setup d net input r).writes) ref := by
  rcases http_cases setup d r net input with ⟨_, none⟩ | ⟨req, authorised, called, told⟩
  · exact absurd accepted none
  · rw [told] at accepted
    obtain ⟨resp, answered⟩ := answered_of_accepted accepted
    obtain ⟨i, attempts, outcome⟩ := call_ok (submitResult_ok answered)
    obtain ⟨delivered, response⟩ := submissionOver_outcome_ok _ _ _ _ _ outcome
    obtain ⟨ref, new, known, there⟩ := serverAfter_delivered setup.scheduler net.toNetwork
      net.meanwhile (ApiGateway.submission req) d.service delivered
    rw [called, told, answered, Response.submitted.inj response]
    rw [show (clientCallOf setup d net input (ApiGateway.submission req)).2.attempts = i + 1 from
      attempts]
    exact ⟨ref, new, (List.getElem?_eq_some_iff.mp there).1, req, _, ref, authorised, there, rfl,
      rfl, rfl, known, Nat.le_refl ref⟩

end Answer

/-! ## The 202s of a run -/

def sent202 : Write → Bool
  | .status code => code = 202
  | .header _ _ => false
  | .body _ => false

theorem any_sent202_iff (writes : List Write) :
    writes.any sent202 = true ↔ .status 202 ∈ writes := by
  rw [List.any_eq_true]
  constructor
  · rintro ⟨write, member, isSent⟩
    cases write with
    | status code =>
        obtain rfl : code = 202 := by simpa [sent202] using isSent
        exact member
    | header name value => cases isSent
    | body content => cases isSent
  · intro member
    exact ⟨_, member, rfl⟩

def acceptance (setup : Setup) : Deployment × DeploymentOp → Option (HttpRequest × List Write)
  | (d, .http r net input) =>
      let writes := (served setup d net input r).writes
      if writes.any sent202 then some (r, writes) else none
  | (_, .scheduler _) => none

def acceptances (setup : Setup) (d : Deployment) (ops : List DeploymentOp) :
    List (HttpRequest × List Write) :=
  (history (deploymentStep setup) d ops).filterMap (acceptance setup)

theorem acceptance_kept {setup : Setup} {d : Deployment} {op : DeploymentOp}
    {answered : HttpRequest × List Write} (accepted : acceptance setup (d, op) = some answered) :
    ∃ ref, d.service.tasks.heap.length ≤ ref ∧
      ref < (deploymentStep setup d op).service.tasks.heap.length ∧
      KeptAs setup (deploymentStep setup d op).service answered ref := by
  cases op with
  | scheduler call => cases accepted
  | http r net input =>
      simp only [acceptance] at accepted
      split at accepted
      next sent =>
        obtain rfl := Option.some.inj accepted
        exact accepted_kept ((any_sent202_iff _).mp sent)
      next => cases accepted

def plainSetup : Setup where
  client := .default
  scheduler := ⟨0, 0⟩
  rateLimiter := none
  jwtManager := ApiGateway.openGateway.jwtManager
  parseWithClaims := parseTokenOf "tenant-a"
  unmarshal := ApiGateway.decodeTask
  showSeconds := toString
  showDuration := toString

/-- The first reply is lost, and before the second attempt somebody else submits a task. -/
def busyTraffic : Traffic :=
  { firstReplyLost with
    meanwhile := fun i => if i = 1 then [.submitTask ⟨"other", "tenant-b", "", ""⟩ 0] else [] }

def retriedRequest : DeploymentOp :=
  .http (ApiGateway.createRequest "tenant-a") busyTraffic patientCall

-- answered once, although it was sent twice
example : (acceptances plainSetup .fresh [retriedRequest]).length = 1 := by decide +kernel

end CloudOS.Orchestrator.AcceptedTasks
