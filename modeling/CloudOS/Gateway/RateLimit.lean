import CloudOS.Lib.History
import CloudOS.Lib.Rounding
import Mathlib.Algebra.Order.Field.Rat
import Mathlib.Tactic.Ring

/-!
# The token bucket of the gateway

`gateway/rate_limit.py`, class `TokenBucket`, over exact rationals.  Each
method reads the monotonic clock once, in `_refill`; the reading is the
argument `now`.  Rounding to two decimals is the parameter `round2`.

For an interval of time, a run of the bucket has three phases: before the
interval nothing is counted, inside it the requests admitted so far and the
tokens left are paid for by the capacity and the time spent inside, and
afterwards the count stands still.
-/

set_option autoImplicit false

namespace CloudOS.Gateway.RateLimit

open CloudOS.Lib.History
open CloudOS.Lib.Rounding

structure TokenBucket where
  capacity : ℚ
  refillRate : ℚ
  tokens : ℚ
  lastRefill : ℚ
  deriving DecidableEq

def TokenBucket.new (capacity refillRate now : ℚ) : TokenBucket :=
  ⟨capacity, refillRate, capacity, now⟩

def TokenBucket.refill (b : TokenBucket) (now : ℚ) : TokenBucket :=
  { b with
    tokens := min b.capacity (b.tokens + (now - b.lastRefill) * b.refillRate)
    lastRefill := now }

def TokenBucket.consume (b : TokenBucket) (tokens : Int) (now : ℚ) : Bool × TokenBucket :=
  if tokens ≤ (b.refill now).tokens then
    (true, { b.refill now with tokens := (b.refill now).tokens - tokens })
  else (false, b.refill now)

def TokenBucket.remaining (b : TokenBucket) (now : ℚ) : Int × TokenBucket :=
  (truncate (b.refill now).tokens, b.refill now)

def TokenBucket.resetIn (round2 : ℚ → ℚ) (b : TokenBucket) (now : ℚ) : ℚ × TokenBucket :=
  (if (b.refill now).capacity - (b.refill now).tokens ≤ 0 then 0
    else round2 (((b.refill now).capacity - (b.refill now).tokens) / (b.refill now).refillRate),
    b.refill now)

/-! ## Runs -/

inductive Method where
  | consume
  | remaining
  | resetIn
  deriving DecidableEq, Repr

structure Call where
  method : Method
  now : ℚ
  deriving DecidableEq

/-- The bucket after a call; `consume` is called with one token. -/
def step (round2 : ℚ → ℚ) (b : TokenBucket) (call : Call) : TokenBucket :=
  match call.method with
  | .consume => (b.consume 1 call.now).2
  | .remaining => (b.remaining call.now).2
  | .resetIn => (b.resetIn round2 call.now).2

def admitted (entry : TokenBucket × Call) : Bool :=
  match entry.2.method with
  | .consume => (entry.1.consume 1 entry.2.now).1
  | _ => false

/-- The call is admitted, at a time within the interval. -/
def countsWithin (s T : ℚ) (entry : TokenBucket × Call) : Bool :=
  admitted entry && decide (s ≤ entry.2.now ∧ entry.2.now ≤ s + T)

def admittedWithin (s T : ℚ) (entries : List (TokenBucket × Call)) : Nat :=
  entries.countP (countsWithin s T)

def Monotonic (start : ℚ) (calls : List Call) : Prop :=
  (start :: calls.map Call.now).Pairwise (· ≤ ·)

/-! ## One call -/

structure Sound (b : TokenBucket) : Prop where
  rate_pos : 0 < b.refillRate
  tokens_nonneg : 0 ≤ b.tokens
  tokens_le : b.tokens ≤ b.capacity

theorem consume_eq (b : TokenBucket) (now : ℚ) :
    (b.consume 1 now).2 =
      { b.refill now with
        tokens := (b.refill now).tokens - if (b.consume 1 now).1 then 1 else 0 } := by
  unfold TokenBucket.consume
  by_cases enough : 1 ≤ (b.refill now).tokens
  · simp [enough]
  · simp [enough]

/-- What the calls have in common: refill, and take a token if admitted. -/
theorem step_eq (round2 : ℚ → ℚ) (b : TokenBucket) (call : Call) :
    step round2 b call =
      { b.refill call.now with
        tokens := (b.refill call.now).tokens - if admitted (b, call) then 1 else 0 } := by
  obtain ⟨method, now⟩ := call
  cases method with
  | consume => exact consume_eq b now
  | remaining => simp [step, admitted, TokenBucket.remaining]
  | resetIn => simp [step, admitted, TokenBucket.resetIn]

section Fields
variable (round2 : ℚ → ℚ) (b : TokenBucket) (call : Call)

@[simp] theorem step_capacity : (step round2 b call).capacity = b.capacity := by
  rw [step_eq]
  rfl

@[simp] theorem step_refillRate : (step round2 b call).refillRate = b.refillRate := by
  rw [step_eq]
  rfl

@[simp] theorem step_lastRefill : (step round2 b call).lastRefill = call.now := by
  rw [step_eq]
  rfl

theorem step_tokens :
    (step round2 b call).tokens =
      (b.refill call.now).tokens - if admitted (b, call) then 1 else 0 := by
  rw [step_eq]

end Fields

theorem one_le_of_admitted {b : TokenBucket} {call : Call} (isAdmitted : admitted (b, call) = true) :
    1 ≤ (b.refill call.now).tokens := by
  obtain ⟨method, now⟩ := call
  cases method with
  | consume =>
      simp only [admitted, TokenBucket.consume] at isAdmitted
      by_contra few
      rw [if_neg (by exact_mod_cast few)] at isAdmitted
      cases isAdmitted
  | remaining => simp [admitted] at isAdmitted
  | resetIn => simp [admitted] at isAdmitted

section Step
variable {round2 : ℚ → ℚ} {b : TokenBucket} {call : Call}

theorem refill_tokens_le_capacity (now : ℚ) : (b.refill now).tokens ≤ b.capacity :=
  min_le_left _ _

theorem refill_tokens_le_earned (now : ℚ) :
    (b.refill now).tokens ≤ b.tokens + (now - b.lastRefill) * b.refillRate :=
  min_le_right _ _

theorem refill_tokens_nonneg (sound : Sound b) (later : b.lastRefill ≤ call.now) :
    0 ≤ (b.refill call.now).tokens := by
  apply le_min
  · exact sound.tokens_nonneg.trans sound.tokens_le
  · have earned : 0 ≤ (call.now - b.lastRefill) * b.refillRate :=
      mul_nonneg (sub_nonneg.mpr later) sound.rate_pos.le
    linarith [sound.tokens_nonneg]

theorem step_sound (sound : Sound b) (later : b.lastRefill ≤ call.now) :
    Sound (step round2 b call) := by
  have nonneg := refill_tokens_nonneg sound later
  have le := refill_tokens_le_capacity (b := b) call.now
  constructor
  · rw [step_refillRate]
    exact sound.rate_pos
  · rw [step_tokens]
    split
    · rename_i isAdmitted
      linarith [one_le_of_admitted isAdmitted]
    · linarith
  · rw [step_tokens, step_capacity]
    split <;> linarith

end Step

/-! ## The admitted requests of an interval -/

/-- How the count stands to the bucket, in each of the three phases. -/
inductive Paid (s T : ℚ) (b : TokenBucket) (count : Nat) : Prop
  | before (early : b.lastRefill < s) (none : count = 0)
  | inside (from_ : s ≤ b.lastRefill) (until_ : b.lastRefill ≤ s + T)
      (paid : count + b.tokens ≤ b.capacity + b.refillRate * (b.lastRefill - s))
  | past (late : s + T < b.lastRefill) (paid : count ≤ b.capacity + b.refillRate * T)

section Interval
variable {round2 : ℚ → ℚ} {b : TokenBucket} {call : Call} {s T : ℚ} {count : Nat}

theorem Paid.bound (nonneg : 0 ≤ T) (sound : Sound b) (paid : Paid s T b count) :
    (count : ℚ) ≤ b.capacity + b.refillRate * T := by
  have capacity : 0 ≤ b.capacity := sound.tokens_nonneg.trans sound.tokens_le
  cases paid with
  | before early none =>
      have earned : 0 ≤ b.refillRate * T := mul_nonneg sound.rate_pos.le nonneg
      rw [none, Nat.cast_zero]
      linarith
  | inside from_ until_ paid =>
      have inTime : b.refillRate * (b.lastRefill - s) ≤ b.refillRate * T :=
        mul_le_mul_of_nonneg_left (by linarith) sound.rate_pos.le
      linarith [sound.tokens_nonneg]
  | past late paid => exact paid

theorem admittedWithin_snoc (s T : ℚ) (entries : List (TokenBucket × Call))
    (entry : TokenBucket × Call) :
    admittedWithin s T (entries ++ [entry]) =
      admittedWithin s T entries + if countsWithin s T entry then 1 else 0 := by
  simp [admittedWithin, List.countP_append, List.countP_cons]

theorem countsWithin_eq (inside : s ≤ call.now ∧ call.now ≤ s + T) :
    countsWithin s T (b, call) = admitted (b, call) := by
  simp [countsWithin, inside]

theorem not_countsWithin (outside : ¬ (s ≤ call.now ∧ call.now ≤ s + T)) :
    countsWithin s T (b, call) = false := by
  simp only [countsWithin, outside, decide_false, Bool.and_false]

/-- Each call pays for itself: an admitted one with a token, and the tokens
earned since the last call with the time between. -/
theorem Paid.step (nonneg : 0 ≤ T) (sound : Sound b) (later : b.lastRefill ≤ call.now)
    (paid : Paid s T b count) :
    Paid s T (step round2 b call) (count + if countsWithin s T (b, call) then 1 else 0) := by
  have full := refill_tokens_le_capacity (b := b) call.now
  have earned := refill_tokens_le_earned (b := b) call.now
  rcases lt_or_ge call.now s with early | started
  · rw [not_countsWithin fun inside => absurd inside.1 (not_le.mpr early)]
    cases paid with
    | before _ none => exact .before (by simpa using early) (by simpa using none)
    | inside from_ _ _ => linarith
    | past late _ => linarith
  rcases le_or_gt call.now (s + T) with inTime | late
  · rw [countsWithin_eq ⟨started, inTime⟩]
    -- the token an admitted call takes is what it adds to the count
    have balance : ((count + if admitted (b, call) = true then 1 else 0 : Nat) : ℚ) +
        (CloudOS.Gateway.RateLimit.step round2 b call).tokens =
          count + (b.refill call.now).tokens := by
      rw [step_tokens]
      split <;> push_cast <;> ring
    apply Paid.inside
    · rwa [step_lastRefill]
    · rwa [step_lastRefill]
    · rw [balance, step_capacity, step_refillRate, step_lastRefill]
      cases paid with
      | before _ none =>
          have spent : 0 ≤ b.refillRate * (call.now - s) :=
            mul_nonneg sound.rate_pos.le (sub_nonneg.mpr started)
          rw [none, Nat.cast_zero]
          linarith
      | inside _ _ paid =>
          have split : b.refillRate * (call.now - s) =
              b.refillRate * (b.lastRefill - s) + (call.now - b.lastRefill) * b.refillRate := by
            ring
          linarith
      | past late _ => linarith
  · rw [not_countsWithin fun inside => absurd inside.2 (not_le.mpr late)]
    apply Paid.past
    · rwa [step_lastRefill]
    · rw [step_capacity, step_refillRate]
      simpa using paid.bound nonneg sound

end Interval

/-! ## Whole runs -/

section Runs
variable (round2 : ℚ → ℚ) (capacity refillRate start : ℚ)

theorem new_sound (enough : 1 ≤ capacity) (rate : 0 < refillRate) :
    Sound (TokenBucket.new capacity refillRate start) :=
  ⟨rate, zero_le_one.trans enough, le_refl capacity⟩

theorem new_paid (s T : ℚ) (nonneg : 0 ≤ T) (enough : 1 ≤ capacity) (rate : 0 < refillRate) :
    Paid s T (TokenBucket.new capacity refillRate start) 0 := by
  rcases lt_or_ge start s with early | started
  · exact .before early rfl
  rcases le_or_gt start (s + T) with inTime | late
  · refine Paid.inside started inTime ?_
    have spent : 0 ≤ refillRate * (start - s) :=
      mul_nonneg rate.le (sub_nonneg.mpr started)
    simp only [TokenBucket.new, Nat.cast_zero]
    linarith
  · refine Paid.past late ?_
    have earned : 0 ≤ refillRate * T := mul_nonneg rate.le nonneg
    simp only [TokenBucket.new, Nat.cast_zero]
    linarith

theorem Monotonic.of_snoc {calls : List Call} {call : Call}
    (clock : Monotonic start (calls ++ [call])) :
    Monotonic start calls ∧ ∀ now ∈ start :: calls.map Call.now, now ≤ call.now := by
  unfold Monotonic at clock ⊢
  rw [List.map_append, ← List.cons_append, List.pairwise_append] at clock
  obtain ⟨before, _, across⟩ := clock
  exact ⟨before, fun now member => across now member call.now (by simp)⟩

theorem run_limits (calls : List Call) :
    (after (step round2) (.new capacity refillRate start) calls).capacity = capacity ∧
      (after (step round2) (.new capacity refillRate start) calls).refillRate = refillRate := by
  induction calls using List.reverseRecOn with
  | nil => exact ⟨rfl, rfl⟩
  | append_singleton calls call ih =>
      rw [after_snoc, step_capacity, step_refillRate]
      exact ih

theorem run_lastRefill (calls : List Call) :
    (after (step round2) (.new capacity refillRate start) calls).lastRefill ∈
      start :: calls.map Call.now := by
  induction calls using List.reverseRecOn with
  | nil => exact List.mem_cons_self
  | append_singleton calls call _ =>
      rw [after_snoc, step_lastRefill]
      simp

variable {capacity refillRate start} (enough : 1 ≤ capacity) (rate : 0 < refillRate)
include enough rate

theorem run_sound {calls : List Call} (clock : Monotonic start calls) :
    Sound (after (step round2) (.new capacity refillRate start) calls) := by
  induction calls using List.reverseRecOn with
  | nil => exact new_sound capacity refillRate start enough rate
  | append_singleton calls call ih =>
      obtain ⟨before, later⟩ := clock.of_snoc
      rw [after_snoc]
      exact step_sound (ih before) (later _ (run_lastRefill round2 capacity refillRate start calls))

theorem run_paid {s T : ℚ} (nonneg : 0 ≤ T) {calls : List Call} (clock : Monotonic start calls) :
    Paid s T (after (step round2) (.new capacity refillRate start) calls)
      (admittedWithin s T (history (step round2) (.new capacity refillRate start) calls)) := by
  induction calls using List.reverseRecOn with
  | nil => exact new_paid capacity refillRate start s T nonneg enough rate
  | append_singleton calls call ih =>
      obtain ⟨before, later⟩ := clock.of_snoc
      rw [after_snoc, history_snoc, admittedWithin_snoc]
      exact (ih before).step nonneg (run_sound round2 enough rate before)
        (later _ (run_lastRefill round2 capacity refillRate start calls))

/-- The bucket never holds less than nothing or more than its capacity, and
no interval of time sees more admitted requests than the capacity and what is
earned in it. -/
theorem admitted_within_bound {calls : List Call} (clock : Monotonic start calls) :
    (0 ≤ (after (step round2) (.new capacity refillRate start) calls).tokens ∧
      (after (step round2) (.new capacity refillRate start) calls).tokens ≤ capacity) ∧
    ∀ s T, 0 ≤ T →
      (admittedWithin s T (history (step round2) (.new capacity refillRate start) calls) : ℚ) ≤
        capacity + refillRate * T := by
  have sound := run_sound round2 enough rate clock
  obtain ⟨sameCapacity, sameRate⟩ := run_limits round2 capacity refillRate start calls
  constructor
  · have upper := sound.tokens_le
    rw [sameCapacity] at upper
    exact ⟨sound.tokens_nonneg, upper⟩
  · intro s T nonneg
    have bound := (run_paid round2 enough rate nonneg clock (s := s)).bound nonneg sound
    rw [sameCapacity, sameRate] at bound
    exact bound

end Runs

/-- Two requests a second: a burst with a refusal, a read, one more request,
and another read. -/
def burst : List Call :=
  [⟨.consume, 0⟩, ⟨.consume, 0⟩, ⟨.consume, 0⟩, ⟨.remaining, 1 / 4⟩, ⟨.consume, 1 / 2⟩,
    ⟨.resetIn, 3 / 4⟩]

theorem burst_bound :
    Monotonic 0 burst ∧
      admittedWithin 0 (1 / 2) (history (step id) (.new 2 2 0) burst) = 3 ∧
      ((0 ≤ (after (step id) (.new 2 2 0) burst).tokens ∧
          (after (step id) (.new 2 2 0) burst).tokens ≤ 2) ∧
        ∀ s T, 0 ≤ T →
          (admittedWithin s T (history (step id) (.new 2 2 0) burst) : ℚ) ≤ 2 + 2 * T) := by
  have clock : Monotonic 0 burst := by
    unfold Monotonic
    decide +kernel
  exact ⟨clock, by decide +kernel, admitted_within_bound id (by norm_num) (by norm_num) clock⟩

end CloudOS.Gateway.RateLimit
