import CloudOS.Lib.Slices

/-!
# Local subscribers of the Redis publisher

`module2-orchestrator/pkg/pubsub/redis_pubsub.go`.  `Subscribe`, `Unsubscribe`
and `Close` hold the lock for their whole body and are one step each.
`publish` takes the lock twice, for the closed flag and for the header of the
subscriber slice, and delivers without it; it is cut into these steps and one
step for each iteration of the delivery loop.

`Chan` are the Go channels, compared by identity, and a cell of a backing array
that holds none is the nil channel.  Consumers drain the channels on their own,
so that at each moment any of them may be full.  Log lines, the Redis
connection and its replacement by `SetAddress` are left out: what
`json.Marshal` and the Redis client answer is part of the step.
-/

set_option autoImplicit false

namespace CloudOS.PubSub.LocalSubscribers

open CloudOS.Lib.Slices

/-- `mu` protects both fields. -/
structure RedisPubSub (Chan : Type) where
  closed : Bool
  subscribers : SliceMap String (Option Chan)

variable {Chan : Type}

def subscribe (growth : Nat → Nat) (r : RedisPubSub Chan) (channel : String) (ch : Chan) :
    RedisPubSub Chan :=
  { r with subscribers := r.subscribers.push growth channel (some ch) }

/-- The first entry that is `ch` is removed in place. -/
def unsubscribe [DecidableEq Chan] (r : RedisPubSub Chan) (channel : String) (ch : Chan) :
    RedisPubSub Chan :=
  let subs := r.subscribers.list channel
  if some ch ∈ subs then
    { r with subscribers := r.subscribers.eraseAt channel (subs.idxOf (some ch)) }
  else r

def close (r : RedisPubSub Chan) : RedisPubSub Chan := { r with closed := true }

/-! ## `publish` -/

inductive Publisher where
  | entered
  | opened
  | sent
  | delivering (subs : Slice) (index : Nat)
  | returned (err : Option String)
  deriving DecidableEq, Repr

inductive SendResult where
  | ok
  | marshal (err : String)
  | redis (err : String)

def SendResult.error (channel : String) : SendResult → Option String
  | .ok => none
  | .marshal err => some ("failed to marshal event: " ++ err)
  | .redis err => some ("failed to publish to " ++ channel ++ ": " ++ err)

/-- The cases of the `select` in the delivery loop. -/
inductive Branch where
  | put
  | done
  | drop
  deriving DecidableEq, Repr

/-- The publisher, its surroundings and, as a history variable, the channels
the message was put into. -/
structure System (Chan : Type) where
  pubsub : RedisPubSub Chan
  full : Chan → Bool
  ctxErr : Option String
  publisher : Publisher
  received : List Chan

inductive Event (Chan : Type) where
  | subscribe (channel : String) (ch : Chan)
  | unsubscribe (channel : String) (ch : Chan)
  | close
  | buffers (full : Chan → Bool)
  | cancel (err : String)
  | checkClosed
  | send (result : SendResult)
  | readSubscribers
  | deliver (branch : Branch)
  | leaveLoop

/-- The cell the iteration reads, through the header it took before. -/
def currentCell (s : System Chan) (subs : Slice) (index : Nat) : Option Chan :=
  ((cells s.pubsub.subscribers.heap subs.array)[index]?).join

/-- A nil channel is never ready. -/
def blocked (s : System Chan) : Option Chan → Bool
  | none => true
  | some ch => s.full ch

/-- One iteration by the given case, which must be ready; `default` is taken
only when no other case is. -/
def deliver (s : System Chan) (subs : Slice) (index : Nat) : Branch → System Chan
  | .put =>
      match currentCell s subs index with
      | none => s
      | some ch =>
          if s.full ch then s
          else { s with
            publisher := .delivering subs (index + 1), received := s.received ++ [ch] }
  | .done =>
      match s.ctxErr with
      | none => s
      | some err => { s with publisher := .returned (some err) }
  | .drop =>
      if blocked s (currentCell s subs index) ∧ s.ctxErr = none then
        { s with publisher := .delivering subs (index + 1) }
      else s

theorem deliver_cases (s : System Chan) (subs : Slice) (index : Nat) (branch : Branch) :
    deliver s subs index branch = s ∨
    (∃ err, deliver s subs index branch = { s with publisher := .returned (some err) }) ∨
    (∃ ch, currentCell s subs index = some ch ∧ deliver s subs index branch =
      { s with publisher := .delivering subs (index + 1), received := s.received ++ [ch] }) ∨
    (blocked s (currentCell s subs index) = true ∧ deliver s subs index branch =
      { s with publisher := .delivering subs (index + 1) }) := by
  cases branch with
  | put =>
      cases cell : currentCell s subs index with
      | none => exact Or.inl (by simp [deliver, cell])
      | some ch =>
          by_cases full : s.full ch
          · exact Or.inl (by simp [deliver, cell, full])
          · exact Or.inr (Or.inr (Or.inl ⟨ch, rfl, by simp [deliver, cell, full]⟩))
  | done =>
      cases cancelled : s.ctxErr with
      | none => exact Or.inl (by simp [deliver, cancelled])
      | some err => exact Or.inr (Or.inl ⟨err, by simp [deliver, cancelled]⟩)
  | drop =>
      by_cases nothing : blocked s (currentCell s subs index) ∧ s.ctxErr = none
      · exact Or.inr (Or.inr (Or.inr ⟨nothing.1, if_pos nothing⟩))
      · exact Or.inl (if_neg nothing)

/-- One step of anybody while `publish` is called for `channel`; a step that is
not possible changes nothing. -/
def step [DecidableEq Chan] (growth : Nat → Nat) (channel : String) (s : System Chan) :
    Event Chan → System Chan
  | .subscribe name ch => { s with pubsub := subscribe growth s.pubsub name ch }
  | .unsubscribe name ch => { s with pubsub := unsubscribe s.pubsub name ch }
  | .close => { s with pubsub := close s.pubsub }
  | .buffers full => { s with full := full }
  | .cancel err => { s with ctxErr := some (s.ctxErr.getD err) }
  | .checkClosed =>
      match s.publisher with
      | .entered =>
          if s.pubsub.closed then
            { s with publisher := .returned (some "pubsub client is closed") }
          else { s with publisher := .opened }
      | _ => s
  | .send result =>
      match s.publisher with
      | .opened =>
          match result.error channel with
          | some err => { s with publisher := .returned (some err) }
          | none => { s with publisher := .sent }
      | _ => s
  | .readSubscribers =>
      match s.publisher with
      | .sent =>
          -- a missing key yields the nil slice
          { s with publisher :=
            .delivering ((s.pubsub.subscribers.slices channel).getD ⟨0, 0⟩) 0 }
      | _ => s
  | .deliver branch =>
      match s.publisher with
      | .delivering subs index => if index < subs.len then deliver s subs index branch else s
      | _ => s
  | .leaveLoop =>
      match s.publisher with
      | .delivering subs index =>
          if index < subs.len then s else { s with publisher := .returned none }
      | _ => s

/-! ### Steps of `publish` that are not possible yet or any more -/

section Impossible
variable [DecidableEq Chan] (growth : Nat → Nat) (channel : String) {s : System Chan}

theorem step_checkClosed_other (other : s.publisher ≠ .entered) :
    step growth channel s .checkClosed = s := by
  simp only [step]

theorem step_send_other (result : SendResult) (other : s.publisher ≠ .opened) :
    step growth channel s (.send result) = s := by
  simp only [step]

theorem step_readSubscribers_other (other : s.publisher ≠ .sent) :
    step growth channel s .readSubscribers = s := by
  simp only [step]

variable (other : ¬ ∃ subs index, s.publisher = .delivering subs index)
include other

theorem step_deliver_other (branch : Branch) :
    step growth channel s (.deliver branch) = s := by
  simp only [step]
  split
  · exact absurd ⟨_, _, ‹_›⟩ other
  · rfl

theorem step_leaveLoop_other : step growth channel s .leaveLoop = s := by
  simp only [step]
  split
  · exact absurd ⟨_, _, ‹_›⟩ other
  · rfl

end Impossible

end CloudOS.PubSub.LocalSubscribers
