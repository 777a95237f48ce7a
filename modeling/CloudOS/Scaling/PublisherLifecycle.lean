import CloudOS.Lib.History
import CloudOS.Scaling.KedaScaler

/-!
# Starting and stopping the queue-depth publisher

`stopCh` is made once, so it can be closed once and a loop started after that
finds it closed.  Through one cycle of start and stop everything is in order:
if after the first `Stop` that finds the publisher running no further `Stop`
does so and no `Start` spawns its loop, the channel is closed at most once and
a loop leaves only when it was stopped after its start or cancelled.
-/

set_option autoImplicit false

namespace CloudOS.Scaling.PublisherLifecycle

open CloudOS.Lib.History
open CloudOS.Scaling.KedaScaler

def Left (loop : PublishLoop) : Prop := loop.phase = .leaving ∨ loop.phase = .exited

/-- No close of a closed channel, and no loop that left without a cancellation
of its context or a `Stop` after its start. -/
structure Orderly (s : System) : Prop where
  noPanic : ∀ caller, s.callers caller ≠ .panicked
  noEarlyExit : ∀ loop ∈ s.loops, Left loop →
    s.cancelled loop.ctx = true ∨ (loop.stale = false ∧ s.stopIssued = true)

def aboutToSpawn : Caller → Bool
  | .startMarked _ => true
  | _ => false

/-- A second cycle: once a `Stop` has found the publisher running, another one
does so, or a `Start` spawns its loop, whenever it was called. -/
def secondCycle (s : System) : Event → Bool
  | .callStop _ => s.stopIssued && s.scaler.isRunning
  | .advance caller =>
      s.stopIssued &&
        (s.scaler.isRunning && s.callers caller == .stopping || aboutToSpawn (s.callers caller))
  | _ => false

/-! ## The invariant of one cycle -/

structure OneCycle (s : System) : Prop extends Orderly s where
  unissued : s.stopIssued = false →
    s.scaler.stopClosed = false ∧ ∀ caller, s.callers caller ≠ .stopChecked
  unclosed : ∀ caller, s.callers caller = .stopChecked → s.scaler.stopClosed = false
  single : ∀ caller other, s.callers caller = .stopChecked → s.callers other = .stopChecked →
    caller = other
  inTime : ∀ loop ∈ s.loops, loop.stale = false

theorem fresh_oneCycle {s : System} (fresh : Fresh s) : OneCycle s where
  noPanic caller := by simp [fresh.idle caller]
  noEarlyExit loop member := by simp [fresh.noLoops] at member
  unissued _ := ⟨by rw [fresh.scaler]; rfl, fun caller => by simp [fresh.idle caller]⟩
  unclosed caller at_stop := by simp [fresh.idle caller] at at_stop
  single caller other at_stop := by simp [fresh.idle caller] at at_stop
  inTime loop member := by simp [fresh.noLoops] at member

section Steps
variable {s : System}

theorem oneCycle_isRunning (cycle : OneCycle s) (isRunning : Bool) :
    OneCycle { s with scaler := { s.scaler with isRunning := isRunning } } :=
  ⟨⟨cycle.noPanic, cycle.noEarlyExit⟩, cycle.unissued, cycle.unclosed, cycle.single,
    cycle.inTime⟩

/-- Positions of a caller that promise nothing to the others. -/
def Plain : Caller → Prop
  | .returned _ => True
  | .startChecked _ => True
  | .startMarked _ => True
  | .stopping => True
  | .stopChecked => False
  | .panicked => False

theorem oneCycle_moveCaller (cycle : OneCycle s) (caller : Nat) {position : Caller}
    (plain : Plain position) : OneCycle (s.moveCaller caller position) := by
  refine ⟨⟨?_, cycle.noEarlyExit⟩, ?_, ?_, ?_, cycle.inTime⟩
  · intro other stands
    rcases moveCaller_callers stands with ⟨_, rfl⟩ | ⟨_, before⟩
    · exact plain
    · exact cycle.noPanic other before
  · intro unissued
    refine ⟨(cycle.unissued unissued).1, ?_⟩
    intro other stands
    rcases moveCaller_callers stands with ⟨_, rfl⟩ | ⟨_, before⟩
    · exact plain
    · exact (cycle.unissued unissued).2 other before
  · intro other stands
    rcases moveCaller_callers stands with ⟨_, rfl⟩ | ⟨_, before⟩
    · exact plain.elim
    · exact cycle.unclosed other before
  · intro first second atFirst atSecond
    rcases moveCaller_callers atFirst with ⟨_, rfl⟩ | ⟨_, before⟩
    · exact plain.elim
    · rcases moveCaller_callers atSecond with ⟨_, rfl⟩ | ⟨_, before'⟩
      · exact plain.elim
      · exact cycle.single first second before before'

theorem oneCycle_start (cycle : OneCycle s) (caller ctx : Nat) (hasFunc : Bool) :
    OneCycle (startQueueDepthPublisher s caller ctx hasFunc) := by
  unfold startQueueDepthPublisher
  split_ifs <;> exact oneCycle_moveCaller cycle caller trivial

theorem oneCycle_stopChecked (cycle : OneCycle s) (caller : Nat) (first : s.stopIssued = false) :
    OneCycle { s.moveCaller caller .stopChecked with stopIssued := true } := by
  obtain ⟨unclosed, nobody⟩ := cycle.unissued first
  refine ⟨⟨?_, ?_⟩, (nomatch ·), fun _ _ => unclosed, ?_, cycle.inTime⟩
  · intro other stands
    rcases moveCaller_callers stands with ⟨_, impossible⟩ | ⟨_, before⟩
    · cases impossible
    · exact cycle.noPanic other before
  · intro loop member left
    exact Or.inr ⟨cycle.inTime loop member, rfl⟩
  · intro one two atOne atTwo
    rcases moveCaller_callers atOne with ⟨rfl, _⟩ | ⟨_, before⟩
    · rcases moveCaller_callers atTwo with ⟨rfl, _⟩ | ⟨_, before⟩
      · rfl
      · exact absurd before (nobody two)
    · exact absurd before (nobody one)

theorem oneCycle_stop (cycle : OneCycle s) (caller : Nat) (notRunning : Option String)
    (first : (s.stopIssued && s.scaler.isRunning) = false) :
    OneCycle (stop s caller notRunning) := by
  unfold stop
  by_cases running : s.scaler.isRunning
  · rw [if_pos running]
    have unissued : s.stopIssued = false := by simpa [running] using first
    exact oneCycle_stopChecked cycle caller unissued
  · rw [if_neg running]
    exact oneCycle_moveCaller cycle caller trivial

/-- The one `Stop` that found the publisher running finds the channel open, and nobody
else is about to close it. -/
theorem oneCycle_closeStopCh (cycle : OneCycle s) {caller : Nat}
    (at_stop : s.callers caller = .stopChecked) : OneCycle (closeStopCh s caller) := by
  have unclosed := cycle.unclosed caller at_stop
  have issued : s.stopIssued = true := by
    by_contra unissued
    exact (cycle.unissued (by simpa using unissued)).2 caller at_stop
  have returned := @oneCycle_moveCaller s cycle caller (.returned none) trivial
  have nobody : ∀ other, (s.moveCaller caller (.returned none)).callers other ≠ .stopChecked := by
    intro other stands
    rcases moveCaller_callers stands with ⟨_, impossible⟩ | ⟨different, before⟩
    · cases impossible
    · exact different (cycle.single other caller before at_stop)
  unfold closeStopCh
  rw [if_neg (by simp [unclosed])]
  refine ⟨⟨returned.noPanic, returned.noEarlyExit⟩, ?_, ?_, returned.single, returned.inTime⟩
  · intro unissued
    have contrary : s.stopIssued = false := unissued
    rw [issued] at contrary
    cases contrary
  · intro other stands
    exact absurd stands (nobody other)

theorem oneCycle_spawn (cycle : OneCycle s) (ctx : Nat) :
    OneCycle { s with loops := s.loops ++ [⟨ctx, .waiting, false⟩] } := by
  refine ⟨⟨cycle.noPanic, ?_⟩, cycle.unissued, cycle.unclosed, cycle.single, ?_⟩
  · intro loop member left
    rcases List.mem_append.mp member with old | new
    · exact cycle.noEarlyExit loop old left
    · obtain rfl := List.mem_singleton.mp new
      rcases left with impossible | impossible <;> cases impossible
  · intro loop member
    rcases List.mem_append.mp member with old | new
    · exact cycle.inTime loop old
    · obtain rfl := List.mem_singleton.mp new
      rfl

theorem oneCycle_advance (cycle : OneCycle s) (caller : Nat)
    (first : secondCycle s (.advance caller) = false) : OneCycle (advance s caller) := by
  unfold advance
  cases stands : s.callers caller with
  | returned err => exact cycle
  | panicked => exact cycle
  | startChecked ctx =>
      exact oneCycle_isRunning
        (@oneCycle_moveCaller s cycle caller (.startMarked ctx) trivial) true
  | startMarked ctx =>
      have unissued : s.stopIssued = false := by
        simpa [secondCycle, stands, aboutToSpawn] using first
      rw [unissued]
      exact oneCycle_spawn (@oneCycle_moveCaller s cycle caller (.returned none) trivial) ctx
  | stopping =>
      exact oneCycle_stop cycle caller none
        (by simpa [secondCycle, stands, aboutToSpawn] using first)
  | stopChecked => exact oneCycle_closeStopCh cycle stands

theorem oneCycle_moveLoop (cycle : OneCycle s) (i : Nat) {source target : LoopPhase}
    (reason : ∀ loop, s.loops[i]? = some loop → loop.phase = source →
      Left { loop with phase := target } →
      s.cancelled loop.ctx = true ∨ (loop.stale = false ∧ s.stopIssued = true)) :
    OneCycle (moveLoop s i source target) := by
  rcases moveLoop_cases s i source target with same | ⟨loop, found, at_source, moved⟩
  · rw [same]
    exact cycle
  · have old := List.mem_of_getElem? found
    rw [moved]
    refine ⟨⟨cycle.noPanic, ?_⟩, cycle.unissued, cycle.unclosed, cycle.single, ?_⟩
    · intro other member left
      rcases List.mem_or_eq_of_mem_set member with unmoved | rfl
      · exact cycle.noEarlyExit other unmoved left
      · exact reason loop found at_source left
    · intro other member
      rcases List.mem_or_eq_of_mem_set member with unmoved | rfl
      · exact cycle.inTime other unmoved
      · exact cycle.inTime loop old

theorem oneCycle_cancel (cycle : OneCycle s) (ctx : Nat) :
    OneCycle { s with cancelled := Function.update s.cancelled ctx true } := by
  refine ⟨⟨cycle.noPanic, ?_⟩, cycle.unissued, cycle.unclosed, cycle.single, cycle.inTime⟩
  intro loop member left
  rcases cycle.noEarlyExit loop member left with before | stopped
  · refine Or.inl ?_
    by_cases same : loop.ctx = ctx
    · rw [same]
      exact Function.update_self _ _ _
    · show Function.update s.cancelled ctx true loop.ctx = true
      rw [Function.update_of_ne same]
      exact before
  · exact Or.inr stopped

theorem issued_of_closed (cycle : OneCycle s) (closed : s.scaler.stopClosed = true) :
    s.stopIssued = true := by
  by_contra unissued
  have unclosed := (cycle.unissued (by simpa using unissued)).1
  rw [closed] at unclosed
  cases unclosed

theorem oneCycle_call (cycle : OneCycle s) (caller : Nat) {begun : System}
    (ofBegun : OneCycle begun) : OneCycle (whenReturned s caller begun) := by
  rcases whenReturned_cases s caller begun with same | same
  · rw [same]
    exact cycle
  · rw [same]
    exact ofBegun

theorem oneCycle_step (event : Event) (cycle : OneCycle s)
    (first : secondCycle s event = false) : OneCycle (step s event) := by
  cases event with
  | callStart caller ctx hasFunc =>
      exact oneCycle_call cycle caller (oneCycle_start cycle caller ctx hasFunc)
  | callStop caller => exact oneCycle_call cycle caller (oneCycle_stop cycle caller _ first)
  | callClose caller =>
      apply oneCycle_call cycle caller
      split_ifs <;> exact oneCycle_moveCaller cycle caller trivial
  | advance caller => exact oneCycle_advance cycle caller first
  | cancel ctx => exact oneCycle_cancel cycle ctx
  | tick i =>
      refine oneCycle_moveLoop cycle i ?_
      rintro loop _ _ (impossible | impossible) <;> cases impossible
  | callbackReturns i =>
      refine oneCycle_moveLoop cycle i ?_
      rintro loop _ _ (impossible | impossible) <;> cases impossible
  | receiveStop i =>
      by_cases closed : s.scaler.stopClosed
      · simp only [step, closed, if_true]
        refine oneCycle_moveLoop cycle i ?_
        intro loop found _ _
        exact Or.inr ⟨cycle.inTime loop (List.mem_of_getElem? found), issued_of_closed cycle closed⟩
      · simp only [step, closed]
        exact cycle
  | receiveDone i =>
      cases found : s.loops[i]? with
      | none => simpa only [step, found] using cycle
      | some loop =>
          by_cases cancelled : s.cancelled loop.ctx
          · simp only [step, found, cancelled, if_true]
            refine oneCycle_moveLoop cycle i ?_
            intro loop' found' _ _
            cases Option.some.inj (found'.symm.trans found)
            exact Or.inl cancelled
          · simp only [step, found, cancelled]
            exact cycle
  | exit i =>
      cases found : s.loops[i]? with
      | none => simpa only [step, found] using cycle
      | some loop =>
          by_cases leaving : loop.phase = .leaving
          · simp only [step, found, leaving, if_true]
            have moved : OneCycle (moveLoop s i .leaving .exited) := by
              refine oneCycle_moveLoop cycle i ?_
              intro loop' found' leaving' _
              exact cycle.noEarlyExit loop' (List.mem_of_getElem? found') (Or.inl leaving')
            exact oneCycle_isRunning moved false
          · simp only [step, found, leaving, if_false]
            exact cycle

end Steps

/-! ## Every interleaving -/

/-- In every run of a new scaler in which no second cycle begins, `stopCh` is
closed at most once and no loop leaves before it is stopped or cancelled. -/
theorem publisher_orderly (start : System) (events : List Event) (fresh : Fresh start)
    (oneCycle : ∀ entry ∈ history step start events, secondCycle entry.1 entry.2 = false) :
    Orderly (after step start events) := by
  have cycle : OneCycle (after step start events) :=
    after_invariant_allowed (fun _ event cycle first => oneCycle_step event cycle first)
      (fresh_oneCycle fresh) oneCycle
  exact cycle.toOrderly

theorem not_orderly_of_stale {s : System} {loop : PublishLoop} (member : loop ∈ s.loops)
    (left : Left loop) (stale : loop.stale = true) (uncancelled : s.cancelled loop.ctx = false) :
    ¬ Orderly s := by
  intro orderly
  rcases orderly.noEarlyExit loop member left with cancelled | ⟨inTime, _⟩
  · rw [uncancelled] at cancelled
    cases cancelled
  · rw [stale] at inTime
    cases inTime

/-! ### One cycle, a second `Stop` and a second `Start` -/

def newSystem : System := ⟨newKEDAScaler, fun _ => .returned none, [], fun _ => false, false⟩

theorem newSystem_fresh : Fresh newSystem := ⟨rfl, fun _ => rfl, rfl, rfl⟩

def started (ctx : Nat) : List Event := [.callStart 0 ctx true, .advance 0, .advance 0]

def stopped : List Event := [.callStop 0, .advance 0]

/-- Two callers start at the same time, and one of them stops both loops. -/
def overlappingStarts : List Event :=
  [.callStart 0 0 true, .callStart 1 1 true, .advance 0, .advance 1, .advance 0, .tick 0,
    .advance 1] ++ stopped ++
    [.callbackReturns 0, .receiveStop 0, .exit 0, .callStop 1, .receiveStop 1, .exit 1, .callClose 0]

theorem one_cycle_orderly :
    (after step newSystem overlappingStarts).loops = [⟨0, .exited, false⟩, ⟨1, .exited, false⟩] ∧
      Orderly (after step newSystem overlappingStarts) :=
  ⟨by decide, publisher_orderly newSystem _ newSystem_fresh (by decide)⟩

/-- A `Start` that finds the publisher not running and is overtaken by a whole
cycle of another caller. -/
def overtakenStart : List Event :=
  .callStart 1 1 true :: started 0 ++ stopped ++ [.receiveStop 0, .exit 0, .advance 1, .advance 1]

/-- A second `Stop` while the loop is still in its callback panics; a second
`Start` after a complete stop returns nil and its loop ends at once, and so does
one that is overtaken. -/
theorem second_cycle_fails :
    Fresh newSystem ∧
    (after step newSystem (started 0 ++ [.tick 0] ++ stopped ++ stopped)).callers 0 = .panicked ∧
    ((after step newSystem (started 0 ++ stopped ++ [.receiveStop 0, .exit 0] ++
        started 1)).callers 0 = .returned none ∧
      ¬ Orderly (after step newSystem (started 0 ++ stopped ++ [.receiveStop 0, .exit 0] ++
        started 1 ++ [.receiveStop 1, .exit 1]))) ∧
    ((after step newSystem overtakenStart).callers 1 = .returned none ∧
      ¬ Orderly (after step newSystem (overtakenStart ++ [.receiveStop 1, .exit 1]))) := by
  refine ⟨newSystem_fresh, by decide, ⟨by decide, ?_⟩, by decide, ?_⟩
  · exact not_orderly_of_stale (by decide : ⟨1, .exited, true⟩ ∈ _) (Or.inr rfl) rfl (by decide)
  · exact not_orderly_of_stale (by decide : ⟨1, .exited, true⟩ ∈ _) (Or.inr rfl) rfl (by decide)

end CloudOS.Scaling.PublisherLifecycle
