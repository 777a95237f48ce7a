import CloudOS.Gateway.RateLimit

/-!
# Reads of the token bucket

`remaining` and `reset_in` refill the bucket and move its mark, as `consume`
does.  They change nothing that a later call could see: refilling up to one
time and then up to a later one is refilling up to the later one, the cap at
the capacity included.
-/

set_option autoImplicit false

namespace CloudOS.Gateway.BucketReads

open CloudOS.Lib.History
open CloudOS.Gateway.RateLimit

/-- A call with the number of tokens that `consume` is asked for. -/
structure Operation extends Call where
  tokens : Int
  deriving DecidableEq

def Operation.isConsume (op : Operation) : Bool := op.method = .consume

section Definitions
variable (round2 : ℚ → ℚ)

def step (b : TokenBucket) (op : Operation) : TokenBucket :=
  if op.isConsume then (b.consume op.tokens op.now).2 else RateLimit.step round2 b op.toCall

def consumeResult (b : TokenBucket) (op : Operation) : Option Bool :=
  if op.isConsume then some (b.consume op.tokens op.now).1 else none

def consumeResults (b : TokenBucket) (ops : List Operation) : List Bool :=
  observed consumeResult Operation.isConsume (step round2) b ops

end Definitions

/-! ## Refilling in parts -/

section Refill
variable {b b' : TokenBucket} {t now : ℚ}

/-- What is earned up to `t` and after it is what is earned altogether; where
the first refill is capped, so is the second. -/
theorem refill_refill (rate : 0 ≤ b.refillRate) (later : t ≤ now) :
    (b.refill t).refill now = b.refill now := by
  have earned : 0 ≤ (now - t) * b.refillRate := mul_nonneg (sub_nonneg.mpr later) rate
  have parts : b.tokens + (t - b.lastRefill) * b.refillRate + (now - t) * b.refillRate =
      b.tokens + (now - b.lastRefill) * b.refillRate := by
    ring
  have capped : min b.capacity (min b.capacity (b.tokens + (t - b.lastRefill) * b.refillRate) +
      (now - t) * b.refillRate) =
        min b.capacity (b.tokens + (now - b.lastRefill) * b.refillRate) := by
    rw [← parts, ← min_add_add_right, ← min_assoc, min_eq_left (le_add_of_nonneg_right earned)]
  unfold TokenBucket.refill
  simp only [capped]

/-- From its own mark on, the first bucket is what the second one is. -/
structure SameFrom (b b' : TokenBucket) : Prop where
  rate : 0 ≤ b.refillRate
  same : ∀ now, b.lastRefill ≤ now → b.refill now = b'.refill now

theorem SameFrom.refl (rate : 0 ≤ b.refillRate) : SameFrom b b := ⟨rate, fun _ _ => rfl⟩

theorem SameFrom.read (sameFrom : SameFrom b b') (later : b.lastRefill ≤ now) :
    SameFrom (b.refill now) b' := by
  constructor
  · exact sameFrom.rate
  · intro u after
    have reaches : now ≤ u := after
    rw [refill_refill sameFrom.rate reaches]
    exact sameFrom.same u (later.trans reaches)

theorem SameFrom.consume (sameFrom : SameFrom b b') (later : b.lastRefill ≤ now) (tokens : Int) :
    b.consume tokens now = b'.consume tokens now ∧ 0 ≤ (b.consume tokens now).2.refillRate := by
  unfold TokenBucket.consume
  rw [sameFrom.same now later]
  have rate : 0 ≤ (b'.refill now).refillRate := by
    rw [← sameFrom.same now later]
    exact sameFrom.rate
  constructor
  · rfl
  · split
    · exact rate
    · exact rate

end Refill

/-! ## Runs with and without reads -/

section Runs
variable (round2 : ℚ → ℚ)

theorem step_read {op : Operation} (isRead : op.isConsume = false) (b : TokenBucket) :
    step round2 b op = b.refill op.now := by
  obtain ⟨⟨method, now⟩, tokens⟩ := op
  cases method with
  | consume => cases isRead
  | remaining => rfl
  | resetIn => rfl

theorem step_lastRefill (b : TokenBucket) (op : Operation) :
    (step round2 b op).lastRefill = op.now := by
  cases isConsume : op.isConsume with
  | true =>
      simp only [step, isConsume, if_true, TokenBucket.consume]
      split
      · rfl
      · rfl
  | false =>
      rw [step_read round2 isConsume]
      rfl

theorem history_later {b : TokenBucket} {ops : List Operation}
    (clock : Monotonic b.lastRefill (ops.map Operation.toCall)) :
    ∀ entry ∈ history (step round2) b ops, entry.1.lastRefill ≤ entry.2.now := by
  induction ops generalizing b with
  | nil => simp [history]
  | cons op rest ih =>
      unfold Monotonic at clock ih
      simp only [List.map_cons, List.pairwise_cons] at clock ih
      simp only [history, List.forall_mem_cons]
      constructor
      · exact clock.1 op.now List.mem_cons_self
      · apply ih
        rw [step_lastRefill]
        exact clock.2

theorem consumeResults_filter {b : TokenBucket} (rate : 0 ≤ b.refillRate) {ops : List Operation}
    (clock : Monotonic b.lastRefill (ops.map Operation.toCall)) :
    consumeResults round2 b ops = consumeResults round2 b (ops.filter Operation.isConsume) := by
  have own_step : ∀ b b' op, op.isConsume = true → b.lastRefill ≤ op.now → SameFrom b b' →
      consumeResult b op = consumeResult b' op ∧
        SameFrom (step round2 b op) (step round2 b' op) := by
    intro b b' op isConsume later sameFrom
    obtain ⟨same, rate⟩ := sameFrom.consume later op.tokens
    simp only [consumeResult, step, isConsume, if_true]
    rw [← same]
    exact ⟨rfl, .refl rate⟩
  have read_step : ∀ b b' op, op.isConsume = false → b.lastRefill ≤ op.now → SameFrom b b' →
      SameFrom (step round2 b op) b' := by
    intro b b' op isRead later sameFrom
    rw [step_read round2 isRead]
    exact sameFrom.read later
  unfold consumeResults
  exact @observed_filter_given TokenBucket Operation (step round2) Bool consumeResult
    Operation.isConsume SameFrom (fun entry => entry.1.lastRefill ≤ entry.2.now)
    own_step read_step b b (.refl rate) ops (history_later round2 clock)

/-- Two sequences with the same calls of `consume`, whatever reads each has in
between, get the same results from a new bucket. -/
theorem reads_transparent (capacity start : ℚ) {refillRate : ℚ} (rate : 0 < refillRate)
    {ops others : List Operation} (clock : Monotonic start (ops.map Operation.toCall))
    (clock' : Monotonic start (others.map Operation.toCall))
    (sameConsumes : ops.filter Operation.isConsume = others.filter Operation.isConsume) :
    consumeResults round2 (.new capacity refillRate start) ops =
      consumeResults round2 (.new capacity refillRate start) others := by
  have bucketRate : 0 ≤ (TokenBucket.new capacity refillRate start).refillRate := rate.le
  rw [consumeResults_filter round2 bucketRate clock, sameConsumes,
    ← consumeResults_filter round2 bucketRate clock']

end Runs

/-- Two tokens at the start and two more a second: with three of the first four
calls of `consume` the bucket is empty, and the last one asks for too much. -/
def withoutReads : List Operation :=
  [⟨⟨.consume, 0⟩, 1⟩, ⟨⟨.consume, 0⟩, 1⟩, ⟨⟨.consume, 0⟩, 1⟩, ⟨⟨.consume, 1 / 2⟩, 1⟩,
    ⟨⟨.consume, 1⟩, 2⟩]

def withReads : List Operation :=
  [⟨⟨.remaining, 0⟩, 0⟩, ⟨⟨.consume, 0⟩, 1⟩, ⟨⟨.consume, 0⟩, 1⟩, ⟨⟨.resetIn, 0⟩, 0⟩,
    ⟨⟨.consume, 0⟩, 1⟩, ⟨⟨.remaining, 1 / 4⟩, 0⟩, ⟨⟨.resetIn, 1 / 3⟩, 0⟩, ⟨⟨.consume, 1 / 2⟩, 1⟩,
    ⟨⟨.remaining, 3 / 4⟩, 0⟩, ⟨⟨.consume, 1⟩, 2⟩, ⟨⟨.remaining, 7⟩, 0⟩]

theorem withReads_transparent :
    consumeResults id (.new 2 2 0) withoutReads = [true, true, false, true, false] ∧
      consumeResults id (.new 2 2 0) withReads =
        consumeResults id (.new 2 2 0) withoutReads := by
  have clock : Monotonic 0 (withReads.map Operation.toCall) := by
    unfold Monotonic
    decide +kernel
  have clock' : Monotonic 0 (withoutReads.map Operation.toCall) := by
    unfold Monotonic
    decide +kernel
  have sameConsumes : withReads.filter Operation.isConsume =
      withoutReads.filter Operation.isConsume := by
    decide +kernel
  have results : consumeResults id (.new 2 2 0) withoutReads = [true, true, false, true, false] := by
    decide +kernel
  exact ⟨results, @reads_transparent id 2 0 2 (by norm_num) withReads withoutReads clock clock'
    sameConsumes⟩

end CloudOS.Gateway.BucketReads
