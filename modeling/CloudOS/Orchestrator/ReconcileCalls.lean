import CloudOS.Orchestrator.CloudTaskReconcile

/-!
# The calls of the CloudTask reconciler

Which calls the parts of `Reconcile` come to issue, whatever is answered.
-/

set_option autoImplicit false

namespace CloudOS.Orchestrator.ReconcileCalls

open CloudOS.Kubernetes.Objects
open CloudOS.Lib.CallProgram
open CloudOS.Orchestrator.CloudTaskReconcile

/-- The calls that look after a task: they read, and write its status. -/
structure Permits (allowed : Call → Prop) : Prop where
  getPod : ∀ key, allowed (.getPod key)
  updateStatus : ∀ cloudTask, allowed (.updateStatus cloudTask)
  now : allowed .now

section Parts
variable {allowed : Call → Prop} (permits : Permits allowed)
include permits

theorem lookupPod_calls (task : CloudTask) : (lookupPod task).Calls allowed := by
  unfold lookupPod
  apply Prog.Calls.ite
  · trivial
  · apply Prog.Calls.of_perform (permits.getPod _)
    rintro (err | pod)
    · exact Prog.Calls.ite trivial trivial
    · trivial

theorem actOnPhase_calls (task : CloudTask) : (actOnPhase task).Calls allowed := by
  unfold actOnPhase
  cases task.status.phase with
  | unset => trivial
  | pending => trivial
  | running => trivial
  | completed => trivial
  | failed =>
      apply Prog.Calls.ite
      · apply Prog.Calls.of_perform (permits.updateStatus _)
        rintro (err | written) <;> trivial
      · trivial

theorem updateStatusFromPod_calls (task : CloudTask) (pod : Pod) :
    (updateStatusFromPod task pod).Calls allowed := by
  apply Prog.Calls.of_perform permits.now
  intro now
  cases observedStatus task.status pod.status now with
  | none => trivial
  | some status => exact Prog.Calls.of_perform permits.now fun _ => trivial

theorem reconcileWithPod_calls (task : CloudTask) (pod : Pod) :
    (reconcileWithPod task pod).Calls allowed := by
  refine (updateStatusFromPod_calls permits task pod).bind ?_
  rintro ⟨current, _ | _⟩
  · exact actOnPhase_calls permits current
  · apply Prog.Calls.of_perform (permits.updateStatus _)
    rintro (err | written)
    · trivial
    · exact actOnPhase_calls permits written

theorem reconcileWithoutPod_calls (parseQuantity : String → Option ℚ) (task : CloudTask)
    (create : allowed
      (.createPod (setControllerReference task (constructPod parseQuantity task)))) :
    (reconcileWithoutPod parseQuantity task).Calls allowed := by
  unfold reconcileWithoutPod
  apply Prog.Calls.ite
  · apply Prog.Calls.of_perform create
    rintro (err | created)
    · trivial
    · apply Prog.Calls.of_perform permits.now
      intro now
      apply Prog.Calls.of_perform (permits.updateStatus _)
      rintro (err | written) <;> trivial
  · trivial

end Parts

theorem reconcileDeletion_calls {allowed : Call → Prop} (getPod : ∀ key, allowed (.getPod key))
    (deletePod : ∀ key, allowed (.deletePod key))
    (update : ∀ cloudTask, allowed (.updateCloudTask cloudTask)) (task : CloudTask) :
    (reconcileDeletion task).Calls allowed := by
  have external : (deleteExternalResources task).Calls allowed := by
    unfold deleteExternalResources
    apply Prog.Calls.ite
    · trivial
    · apply Prog.Calls.of_perform (getPod _)
      rintro (err | pod)
      · exact Prog.Calls.ite trivial trivial
      · apply Prog.Calls.of_perform (deletePod _)
        rintro (err | done) <;> trivial
  unfold reconcileDeletion
  apply Prog.Calls.ite
  · refine external.bind ?_
    rintro (_ | err)
    · apply Prog.Calls.of_perform (update _)
      rintro (err | done) <;> trivial
    · trivial
  · trivial

end CloudOS.Orchestrator.ReconcileCalls
