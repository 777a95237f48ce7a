import Mathlib.Data.List.Basic

/-!
# Buffered channels

A channel of Go as its receivers see it: a buffer of some capacity, the number of receivers
that wait, and, as a history variable, the messages that were taken.  A send that does not
block, a `select` with `default`, gives the message to a receiver that waits, or puts it into
the buffer, or passes over a full channel.
-/

set_option autoImplicit false

namespace CloudOS.Lib.Channels

structure Channel (Msg : Type) where
  capacity : Nat
  buffer : List Msg
  waiting : Nat
  taken : List Msg
  bounded : buffer.length ≤ capacity
  /-- Nobody waits for a message that is there. -/
  idle : 0 < waiting → buffer = []

namespace Channel
variable {Msg : Type}

def make (capacity : Nat) : Channel Msg := ⟨capacity, [], 0, [], Nat.zero_le _, fun _ => rfl⟩

def full (c : Channel Msg) : Bool := c.waiting == 0 && c.capacity ≤ c.buffer.length

/-- What got into the channel, in order. -/
def accepted (c : Channel Msg) : List Msg := c.taken ++ c.buffer

def offer (c : Channel Msg) (message : Msg) : Channel Msg :=
  if waits : 0 < c.waiting then
    { c with
      waiting := c.waiting - 1
      taken := c.taken ++ [message]
      idle := fun _ => c.idle waits }
  else if room : c.buffer.length < c.capacity then
    { c with
      buffer := c.buffer ++ [message]
      bounded := by
        rw [List.length_append]
        exact room
      idle := fun waits' => absurd waits' waits }
  else c

/-- What a receiver does: it takes a message or starts to wait, or it waits no longer. -/
inductive Act where
  | receive
  | leave
  deriving DecidableEq, Repr

def receive (c : Channel Msg) : Channel Msg :=
  match found : c.buffer with
  | [] => { c with waiting := c.waiting + 1, idle := fun _ => found }
  | message :: rest =>
      { c with
        buffer := rest
        taken := c.taken ++ [message]
        bounded := by
          have bounded := c.bounded
          rw [found, List.length_cons] at bounded
          omega
        idle := fun waits => by
          have idle := c.idle waits
          rw [found] at idle
          cases idle }

def leave (c : Channel Msg) : Channel Msg :=
  { c with waiting := c.waiting - 1, idle := fun waits => c.idle (by omega) }

def perform (c : Channel Msg) : Act → Channel Msg
  | .receive => c.receive
  | .leave => c.leave

theorem accepted_offer (c : Channel Msg) (message : Msg) :
    (c.offer message).accepted = if c.full then c.accepted else c.accepted ++ [message] := by
  unfold offer
  by_cases waits : 0 < c.waiting
  · have open_ : c.full = false := by
      simp only [full, Bool.and_eq_false_iff, beq_eq_false_iff_ne]
      exact .inl (Nat.ne_of_gt waits)
    simp [waits, open_, accepted, c.idle waits]
  · by_cases room : c.buffer.length < c.capacity
    · have open_ : c.full = false := by
        simp only [full, Bool.and_eq_false_iff, decide_eq_false_iff_not]
        exact .inr (Nat.not_le.mpr room)
      simp [waits, room, open_, accepted]
    · have closed : c.full = true := by
        simp only [full, Bool.and_eq_true, beq_iff_eq, decide_eq_true_eq]
        omega
      simp [waits, room, closed]

theorem accepted_perform (c : Channel Msg) (act : Act) : (c.perform act).accepted = c.accepted := by
  cases act with
  | receive =>
      simp only [perform, receive, accepted]
      split
      next found => simp [found]
      next message rest found => simp [found]
  | leave => rfl

/-! ## One channel of many -/

variable {Chan : Type} [DecidableEq Chan]

def after (ch : Chan) (acts : List (Chan × Act)) (c : Channel Msg) : Channel Msg :=
  acts.foldl (fun c act => if act.1 = ch then c.perform act.2 else c) c

theorem after_append (ch : Chan) (first second : List (Chan × Act)) (c : Channel Msg) :
    c.after ch (first ++ second) = (c.after ch first).after ch second := by
  simp [after]

theorem accepted_after (ch : Chan) (acts : List (Chan × Act)) (c : Channel Msg) :
    (c.after ch acts).accepted = c.accepted := by
  induction acts generalizing c with
  | nil => rfl
  | cons act rest ih =>
      refine (ih _).trans ?_
      show (if act.1 = ch then c.perform act.2 else c).accepted = c.accepted
      by_cases own : act.1 = ch
      · rw [if_pos own, accepted_perform]
      · rw [if_neg own]

end Channel

end CloudOS.Lib.Channels
