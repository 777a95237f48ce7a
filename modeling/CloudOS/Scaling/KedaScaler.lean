import Mathlib.Logic.Function.Basic

/-!
# The queue-depth publisher of the KEDA scaler

`module2-orchestrator/pkg/scaling/keda_scaler.go`: `StartQueueDepthPublisher`,
`Stop`, `Close` and the `publishLoop` goroutines.  Nothing is locked, so a call
is cut at each of its accesses to `isRunning` and `stopCh`, any number of
callers may be under way, and the loops run in between.  The tick, the callback
and what it publishes do not touch either field; a loop stays in its callback
for as long as it likes.  The pause at the end of `Stop`, the Redis client that
`Close` closes and the log lines are left out.

`stopIssued` and `stale` are history variables: whether a `Stop` has found the
publisher running, by itself or from `Close`, and whether that had happened
already when a loop was spawned, which is when its `Start` returns.
-/

set_option autoImplicit false

namespace CloudOS.Scaling.KedaScaler

/-- `stopClosed` says that `stopCh` has been closed; the channel is made once,
with the scaler. -/
structure KEDAScaler where
  isRunning : Bool
  stopClosed : Bool
  deriving DecidableEq, Repr

def newKEDAScaler : KEDAScaler := ⟨false, false⟩

inductive LoopPhase where
  | waiting
  | inCallback
  | leaving
  | exited
  deriving DecidableEq, Repr

/-- One `publishLoop` goroutine; contexts are numbered. -/
structure PublishLoop where
  ctx : Nat
  phase : LoopPhase
  stale : Bool
  deriving DecidableEq, Repr

/-- Where a caller stands: between two calls, or in front of the next access. -/
inductive Caller where
  | returned (err : Option String)
  | startChecked (ctx : Nat)
  | startMarked (ctx : Nat)
  | stopping
  | stopChecked
  | panicked
  deriving DecidableEq, Repr

structure System where
  scaler : KEDAScaler
  callers : Nat → Caller
  loops : List PublishLoop
  cancelled : Nat → Bool
  stopIssued : Bool

inductive Event where
  | callStart (caller ctx : Nat) (hasFunc : Bool)
  | callStop (caller : Nat)
  | callClose (caller : Nat)
  | advance (caller : Nat)
  | cancel (ctx : Nat)
  | tick (loop : Nat)
  | callbackReturns (loop : Nat)
  | receiveStop (loop : Nat)
  | receiveDone (loop : Nat)
  | exit (loop : Nat)

def System.moveCaller (s : System) (caller : Nat) (position : Caller) :
    System :=
  { s with callers := Function.update s.callers caller position }

/-- The two guards of `StartQueueDepthPublisher`. -/
def startQueueDepthPublisher (s : System) (caller ctx : Nat) (hasFunc : Bool) : System :=
  if s.scaler.isRunning then
    s.moveCaller caller (.returned (some "queue depth publisher is already running"))
  else if !hasFunc then
    s.moveCaller caller (.returned (some "getQueueDepthFunc cannot be nil"))
  else s.moveCaller caller (.startChecked ctx)

/-- The guard of `Stop`; `notRunning` is what the caller gets when it fails. -/
def stop (s : System) (caller : Nat) (notRunning : Option String) : System :=
  if s.scaler.isRunning then { s.moveCaller caller .stopChecked with stopIssued := true }
  else s.moveCaller caller (.returned notRunning)

/-- `close(ks.stopCh)`, which panics on a closed channel. -/
def closeStopCh (s : System) (caller : Nat) : System :=
  if s.scaler.stopClosed then s.moveCaller caller .panicked
  else { s.moveCaller caller (.returned none) with scaler := { s.scaler with stopClosed := true } }

/-- The next access of a call under way. -/
def advance (s : System) (caller : Nat) : System :=
  match s.callers caller with
  | .returned _ => s
  | .panicked => s
  | .startChecked ctx =>
      { s.moveCaller caller (.startMarked ctx) with scaler := { s.scaler with isRunning := true } }
  | .startMarked ctx =>
      { s.moveCaller caller (.returned none) with
        loops := s.loops ++ [⟨ctx, .waiting, s.stopIssued⟩] }
  | .stopping => stop s caller none
  | .stopChecked => closeStopCh s caller

/-- Loop `i` goes from one phase to another, if it is in the first. -/
def moveLoop (s : System) (i : Nat) (source target : LoopPhase) : System :=
  match s.loops[i]? with
  | some loop =>
      if loop.phase = source then
        { s with loops := s.loops.set i { loop with phase := target } }
      else s
  | none => s

/-- A call begins only when the caller's last one has returned. -/
def whenReturned (s : System) (caller : Nat) (begun : System) : System :=
  match s.callers caller with
  | .returned _ => begun
  | _ => s

/-- A step that is not possible changes nothing. -/
def step (s : System) : Event → System
  | .callStart caller ctx hasFunc =>
      whenReturned s caller (startQueueDepthPublisher s caller ctx hasFunc)
  | .callStop caller =>
      whenReturned s caller (stop s caller (some "queue depth publisher is not running"))
  | .callClose caller =>
      whenReturned s caller
        (if s.scaler.isRunning then s.moveCaller caller .stopping
        else s.moveCaller caller (.returned none))
  | .advance caller => advance s caller
  | .cancel ctx => { s with cancelled := Function.update s.cancelled ctx true }
  | .tick i => moveLoop s i .waiting .inCallback
  | .callbackReturns i => moveLoop s i .inCallback .waiting
  | .receiveStop i => if s.scaler.stopClosed then moveLoop s i .waiting .leaving else s
  | .receiveDone i =>
      match s.loops[i]? with
      | some loop => if s.cancelled loop.ctx then moveLoop s i .waiting .leaving else s
      | none => s
  | .exit i =>
      match s.loops[i]? with
      | some loop =>
          if loop.phase = .leaving then
            let left := moveLoop s i .leaving .exited
            { left with scaler := { left.scaler with isRunning := false } }
          else s
      | none => s

structure Fresh (s : System) : Prop where
  scaler : s.scaler = newKEDAScaler
  idle : ∀ caller, s.callers caller = .returned none
  noLoops : s.loops = []
  unissued : s.stopIssued = false

/-! ## What a step may do -/

theorem whenReturned_cases (s : System) (caller : Nat) (begun : System) :
    whenReturned s caller begun = s ∨ whenReturned s caller begun = begun := by
  unfold whenReturned
  split
  · exact Or.inr rfl
  · exact Or.inl rfl

theorem moveLoop_cases (s : System) (i : Nat) (source target : LoopPhase) :
    moveLoop s i source target = s ∨ ∃ loop, s.loops[i]? = some loop ∧ loop.phase = source ∧
      moveLoop s i source target =
        { s with loops := s.loops.set i { loop with phase := target } } := by
  unfold moveLoop
  cases found : s.loops[i]? with
  | none => exact Or.inl rfl
  | some loop =>
      by_cases at_source : loop.phase = source
      · exact Or.inr ⟨loop, rfl, at_source, if_pos at_source⟩
      · exact Or.inl (if_neg at_source)

theorem moveCaller_callers {s : System} {caller other : Nat} {position at_other : Caller}
    (stands : (s.moveCaller caller position).callers other = at_other) :
    (other = caller ∧ position = at_other) ∨ (other ≠ caller ∧ s.callers other = at_other) := by
  by_cases same : other = caller
  · subst same
    simp only [System.moveCaller, Function.update_self] at stands
    exact Or.inl ⟨rfl, stands⟩
  · simp only [System.moveCaller, Function.update_of_ne same] at stands
    exact Or.inr ⟨same, stands⟩

end CloudOS.Scaling.KedaScaler
