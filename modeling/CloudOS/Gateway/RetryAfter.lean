import CloudOS.Gateway.RateLimit
import CloudOS.Lib.Rounding
import CloudOS.Lib.Separators

/-!
# Buckets of clients, and when to come back

`gateway/rate_limit.py`, class `RateLimiter` and `rate_limit_dependency`, and
`GET /rate-limits` of `gateway/main.py`, the two routes by which a client
reaches its bucket.  Neither awaits anything between its clock readings, so a
request is one step; it reads the clock when it makes a bucket, and once in
each method of the bucket.  The limits of the roles are a parameter, as are
the formats of floats.  Log lines are left out.

A rejected client is told to come back after `int(reset_in) + 1` seconds.  The
second that is added makes up for what rounding and `int` take away.
-/

set_option autoImplicit false

namespace CloudOS.Gateway.RetryAfter

open CloudOS.Lib.History
open CloudOS.Lib.Rounding
open CloudOS.Lib.Separators
open CloudOS.Gateway.RateLimit

/-- `ROLE_LIMITS`, in requests per minute. -/
def roleLimits : List (String × Int) := [("admin", 200), ("user", 60), ("readonly", 10)]

def limitOf (limits : List (String × Int)) (role : String) : Int := (limits.lookup role).getD 10

theorem one_le_limitOf (role : String) : 1 ≤ limitOf roleLimits role := by
  unfold limitOf roleLimits
  simp only [List.lookup_cons, List.lookup_nil]
  split
  · decide
  · split
    · decide
    · split <;> decide

/-- How Python prints a float: `str`, and the format `.1f`. -/
structure FloatFormat where
  str : ℚ → String
  fixed1 : ℚ → String

structure User where
  username : String
  role : String
  deriving DecidableEq, Repr

/-- What the clock shows when a bucket is made, and in each of the methods. -/
structure Readings where
  created : ℚ
  consumed : ℚ
  remaining : ℚ
  reset : ℚ

/-- A new bucket is made only for a client that has none. -/
abbrev Buckets := String → Option TokenBucket

structure HTTPException where
  statusCode : Nat
  detail : String
  headers : List (String × String)

/-- What the dependency leaves in `request.state`. -/
structure RateLimitState where
  remaining : Int
  reset : ℚ
  limit : Int

/-- The answer to `GET /rate-limits`. -/
structure RateLimitInfo where
  username : String
  role : String
  limitPerMin : Int
  remaining : Int
  resetInSecs : ℚ

/-- The two ways to a bucket. -/
inductive Route where
  | limited
  | rateLimits
  deriving DecidableEq, Repr

structure Request where
  route : Route
  user : User
  clock : Readings

section Definitions
variable (limits : List (String × Int)) (format : FloatFormat) (round2 : ℚ → ℚ)

def makeBucket (role : String) (now : ℚ) : TokenBucket :=
  .new (limitOf limits role) (limitOf limits role / 60) now

def getBucket (buckets : Buckets) (user : User) (now : ℚ) : TokenBucket :=
  (buckets user.username).getD (makeBucket limits user.role now)

/-- Whether the request is allowed, what remains, and when the bucket is full
again. -/
def check (buckets : Buckets) (user : User) (clock : Readings) : (Bool × Int × ℚ) × Buckets :=
  let bucket := getBucket limits buckets user clock.created
  let (allowed, bucket) := bucket.consume 1 clock.consumed
  let (remaining, bucket) := bucket.remaining clock.remaining
  let (resetIn, bucket) := bucket.resetIn round2 clock.reset
  ((allowed, remaining, resetIn), Function.update buckets user.username (some bucket))

def tooManyRequests (limit remaining : Int) (resetIn : ℚ) : HTTPException where
  statusCode := 429
  detail := s!"Rate limit exceeded. Your limit: {limit} req/min. " ++
    s!"Retry after {format.fixed1 resetIn}s."
  headers :=
    [("X-RateLimit-Limit", toString limit), ("X-RateLimit-Remaining", toString remaining),
      ("X-RateLimit-Reset", format.str resetIn), ("Retry-After", toString (truncate resetIn + 1))]

/-- What becomes of the request, from the answer of `check`. -/
def enforce (limit : Int) : Bool × Int × ℚ → Except HTTPException RateLimitState
  | (false, remaining, resetIn) => .error (tooManyRequests format limit remaining resetIn)
  | (true, remaining, resetIn) => .ok ⟨remaining, resetIn, limit⟩

def rateLimitDependency (buckets : Buckets) (user : User) (clock : Readings) :
    Except HTTPException RateLimitState × Buckets :=
  (enforce format (limitOf limits user.role) (check limits round2 buckets user clock).1,
    (check limits round2 buckets user clock).2)

def getRateLimits (buckets : Buckets) (user : User) (clock : Readings) : RateLimitInfo × Buckets :=
  let bucket := getBucket limits buckets user clock.created
  let (remaining, bucket) := bucket.remaining clock.remaining
  let (resetIn, bucket) := bucket.resetIn round2 clock.reset
  (⟨user.username, user.role, limitOf limits user.role, remaining, resetIn⟩,
    Function.update buckets user.username (some bucket))

def step (buckets : Buckets) (request : Request) : Buckets :=
  match request.route with
  | .limited => (rateLimitDependency limits format round2 buckets request.user request.clock).2
  | .rateLimits => (getRateLimits limits round2 buckets request.user request.clock).2

end Definitions

def noBuckets : Buckets := fun _ => none

/-! ## Waiting until the bucket is full -/

/-- The bucket of a client: its capacity is a limit, earned in a minute. -/
structure Sized (b : TokenBucket) : Prop where
  capacity : 1 ≤ b.capacity
  rate : b.refillRate = b.capacity / 60

section Full
variable {round2 : ℚ → ℚ} {b : TokenBucket} {now later : ℚ}

theorem Sized.rate_pos (sized : Sized b) : 0 < b.refillRate := by
  rw [sized.rate]
  linarith [sized.capacity]

variable (rounds : RoundsToParts 100 round2)
include rounds

theorem resetIn_nonneg (sized : Sized b) : 0 ≤ (b.resetIn round2 now).1 := by
  simp only [TokenBucket.resetIn]
  split_ifs with full
  · exact le_refl 0
  · exact rounds.nonneg (by norm_num) (div_pos (not_le.mp full) sized.rate_pos).le

theorem full_after_resetIn (sized : Sized b)
    (waited : now + (truncate (b.resetIn round2 now).1 + 1) ≤ later) :
    ((b.resetIn round2 now).2.refill later).tokens = b.capacity := by
  have rate : 0 < b.refillRate := sized.rate_pos
  rw [truncate_eq_floor (resetIn_nonneg rounds sized)] at waited
  show min b.capacity ((b.refill now).tokens + (later - now) * b.refillRate) = b.capacity
  apply min_eq_left
  simp only [TokenBucket.resetIn] at waited
  split_ifs at waited with full
  · have already : b.capacity - (b.refill now).tokens ≤ 0 := full
    have passed : 0 ≤ (later - now) * b.refillRate := by
      apply mul_nonneg _ rate.le
      rw [Int.floor_zero, Int.cast_zero] at waited
      linarith
    linarith
  · have enough := rounds.le_floor_add_one (by norm_num)
      ((b.capacity - (b.refill now).tokens) / b.refillRate)
    have passed : (b.capacity - (b.refill now).tokens) / b.refillRate ≤ later - now :=
      enough.trans (le_sub_iff_add_le'.mpr waited)
    have earned := (div_le_iff₀ rate).mp passed
    linarith

end Full

/-! ## One request -/

section Requests
variable (limits : List (String × Int)) (format : FloatFormat) (round2 : ℚ → ℚ)
  (buckets : Buckets)

def bucketRead (request : Request) : TokenBucket :=
  let bucket := getBucket limits buckets request.user request.clock.created
  match request.route with
  | .limited =>
      ((bucket.consume 1 request.clock.consumed).2.remaining request.clock.remaining).2
  | .rateLimits => (bucket.remaining request.clock.remaining).2

theorem step_eq (request : Request) :
    step limits format round2 buckets request =
      Function.update buckets request.user.username
        (some ((bucketRead limits buckets request).resetIn round2 request.clock.reset).2) := by
  unfold step bucketRead
  cases request.route with
  | limited => rfl
  | rateLimits => rfl

theorem rateLimitDependency_error {user : User} {clock : Readings} {exception : HTTPException}
    (rejected : (rateLimitDependency limits format round2 buckets user clock).1 =
      .error exception) :
    exception.headers.lookup "Retry-After" = some (toString
      (truncate ((bucketRead limits buckets ⟨.limited, user, clock⟩).resetIn round2 clock.reset).1
        + 1)) := by
  simp only [rateLimitDependency, check] at rejected
  cases allowed : ((getBucket limits buckets user clock.created).consume 1 clock.consumed).1 with
  | true =>
      rw [allowed] at rejected
      cases rejected
  | false =>
      rw [allowed] at rejected
      cases rejected
      rfl

theorem rateLimitDependency_ok {user : User} {clock : Readings}
    (enough : 1 ≤ ((getBucket limits buckets user clock.created).refill clock.consumed).tokens) :
    ∃ state, (rateLimitDependency limits format round2 buckets user clock).1 = .ok state := by
  have allowed : ((getBucket limits buckets user clock.created).consume 1 clock.consumed).1 =
      true := by
    unfold TokenBucket.consume
    rw [if_pos (by exact_mod_cast enough)]
  simp only [rateLimitDependency, check, allowed]
  exact ⟨_, rfl⟩

theorem sized_consume {b : TokenBucket} (sized : Sized b) (tokens : Int) (now : ℚ) :
    Sized (b.consume tokens now).2 := by
  unfold TokenBucket.consume
  split
  · exact ⟨sized.capacity, sized.rate⟩
  · exact ⟨sized.capacity, sized.rate⟩

variable {limits buckets}

def AllSized (buckets : Buckets) : Prop := ∀ client b, buckets client = some b → Sized b

theorem getBucket_sized (positive : ∀ role, 1 ≤ limitOf limits role) (sized : AllSized buckets)
    (user : User) (now : ℚ) : Sized (getBucket limits buckets user now) := by
  unfold getBucket
  cases found : buckets user.username with
  | none =>
      have limit : (1 : ℚ) ≤ limitOf limits user.role := by exact_mod_cast positive user.role
      exact ⟨limit, rfl⟩
  | some b => exact sized user.username b found

theorem bucketRead_sized (positive : ∀ role, 1 ≤ limitOf limits role) (sized : AllSized buckets)
    (request : Request) : Sized (bucketRead limits buckets request) := by
  have found := getBucket_sized positive sized request.user request.clock.created
  unfold bucketRead
  cases request.route with
  | limited =>
      have consumed := sized_consume found 1 request.clock.consumed
      exact ⟨consumed.capacity, consumed.rate⟩
  | rateLimits => exact ⟨found.capacity, found.rate⟩

theorem step_sized (positive : ∀ role, 1 ≤ limitOf limits role) (sized : AllSized buckets)
    (request : Request) : AllSized (step limits format round2 buckets request) := by
  intro client b found
  rw [step_eq] at found
  by_cases own : client = request.user.username
  · rw [own, Function.update_self, Option.some.injEq] at found
    have read := bucketRead_sized positive sized request
    rw [← found]
    exact ⟨read.capacity, read.rate⟩
  · rw [Function.update_of_ne own] at found
    exact sized client b found

theorem after_others {client : String} {requests : List Request}
    (others : ∀ request ∈ requests, request.user.username ≠ client) :
    after (step limits format round2) buckets requests client = buckets client := by
  induction requests generalizing buckets with
  | nil => rfl
  | cons request rest ih =>
      have apart := others request List.mem_cons_self
      rw [after_cons, ih fun other member => others other (List.mem_cons_of_mem request member),
        step_eq, Function.update_of_ne (Ne.symm apart)]

end Requests

/-! ## Coming back -/

/-- A client that was rejected and comes back, for the first time, after the
seconds it was told finds its bucket full and is let in. -/
theorem retry_after_sufficient (limits : List (String × Int)) (format : FloatFormat)
    {round2 : ℚ → ℚ} (rounds : RoundsToParts 100 round2)
    (positive : ∀ role, 1 ≤ limitOf limits role)
    {earlier between : List Request} {user again : User} {clock clock' : Readings}
    {exception : HTTPException} {seconds : Int}
    (rejected : (rateLimitDependency limits format round2
      (after (step limits format round2) noBuckets earlier) user clock).1 = .error exception)
    (told : exception.headers.lookup "Retry-After" = some (toString seconds))
    (others : ∀ request ∈ between, request.user.username ≠ user.username)
    (sameClient : again.username = user.username)
    (waited : clock.reset + seconds ≤ clock'.consumed) :
    ∃ bucket,
      after (step limits format round2) noBuckets
          (earlier ++ ⟨.limited, user, clock⟩ :: between) user.username = some bucket ∧
        (bucket.refill clock'.consumed).tokens = bucket.capacity ∧
        ∃ state, (rateLimitDependency limits format round2
          (after (step limits format round2) noBuckets
            (earlier ++ ⟨.limited, user, clock⟩ :: between)) again clock').1 = .ok state := by
  have start : AllSized noBuckets := fun client b found => by cases found
  have sized_step : ∀ buckets request, AllSized buckets →
      AllSized (step limits format round2 buckets request) :=
    fun _ request sized => step_sized format round2 positive sized request
  have sized := after_invariant sized_step start earlier
  have read := bucketRead_sized positive sized ⟨.limited, user, clock⟩
  have header := rateLimitDependency_error limits format round2 _ rejected
  have same := intToString_injective (Option.some.inj (told.symm.trans header))
  -- the other clients do not touch the bucket
  have kept : after (step limits format round2) noBuckets
      (earlier ++ ⟨.limited, user, clock⟩ :: between) user.username =
        some ((bucketRead limits (after (step limits format round2) noBuckets earlier)
          ⟨.limited, user, clock⟩).resetIn round2 clock.reset).2 := by
    rw [after_append, after_cons, after_others format round2 others, step_eq,
      Function.update_self]
  have full := @full_after_resetIn _ _ clock.reset clock'.consumed rounds read (by
    rw [same] at waited
    exact_mod_cast waited)
  refine ⟨_, kept, full, rateLimitDependency_ok limits format round2 _ ?_⟩
  rw [getBucket, sameClient, kept, Option.getD_some, full]
  exact read.capacity

def monitor : User := ⟨"mia", "readonly"⟩

def operator : User := ⟨"root", "admin"⟩

def requestAt (user : User) (now : ℚ) : Request := ⟨.limited, user, ⟨now, now, now, now⟩⟩

def plainFormat : FloatFormat := ⟨fun _ => "", fun _ => ""⟩

/-- Ten requests at once and one more: it is rejected, and the client told to
come back after 61 seconds. -/
theorem monitor_comes_back :
    (rateLimitDependency roleLimits plainFormat (halfUp 100)
        (after (step roleLimits plainFormat (halfUp 100)) noBuckets
          (List.replicate 10 (requestAt monitor 0))) monitor ⟨0, 0, 0, 0⟩).1 =
      .error (tooManyRequests plainFormat 10 0 60) ∧
    (tooManyRequests plainFormat 10 0 60).headers.lookup "Retry-After" = some (toString (61 : Int)) ∧
    ∃ bucket,
      after (step roleLimits plainFormat (halfUp 100)) noBuckets
          (List.replicate 10 (requestAt monitor 0) ++
            requestAt monitor 0 :: [requestAt operator 30]) monitor.username = some bucket ∧
        (bucket.refill 61).tokens = bucket.capacity ∧
        ∃ state, (rateLimitDependency roleLimits plainFormat (halfUp 100)
          (after (step roleLimits plainFormat (halfUp 100)) noBuckets
            (List.replicate 10 (requestAt monitor 0) ++
              requestAt monitor 0 :: [requestAt operator 30])) monitor
            ⟨61, 61, 61, 61⟩).1 = .ok state := by
  have checked : (check roleLimits (halfUp 100)
      (after (step roleLimits plainFormat (halfUp 100)) noBuckets
        (List.replicate 10 (requestAt monitor 0))) monitor ⟨0, 0, 0, 0⟩).1 = (false, 0, 60) := by
    decide +kernel
  have rejected : (rateLimitDependency roleLimits plainFormat (halfUp 100)
      (after (step roleLimits plainFormat (halfUp 100)) noBuckets
        (List.replicate 10 (requestAt monitor 0))) monitor ⟨0, 0, 0, 0⟩).1 =
          .error (tooManyRequests plainFormat 10 0 60) := by
    unfold rateLimitDependency
    rw [checked]
    rfl
  have told : (tooManyRequests plainFormat 10 0 60).headers.lookup "Retry-After" =
      some (toString (61 : Int)) := by
    decide +kernel
  have others : ∀ request ∈ [requestAt operator 30],
      request.user.username ≠ monitor.username := by
    simp [requestAt, operator, monitor]
  have back := @retry_after_sufficient roleLimits plainFormat (halfUp 100)
    (halfUp_rounds (by norm_num)) one_le_limitOf (List.replicate 10 (requestAt monitor 0))
    [requestAt operator 30] monitor monitor ⟨0, 0, 0, 0⟩ ⟨61, 61, 61, 61⟩
    (tooManyRequests plainFormat 10 0 60) 61 rejected told others rfl (by norm_num)
  exact ⟨rejected, told, back⟩

end CloudOS.Gateway.RetryAfter
