import CloudOS.Gateway.RetryAfter
import CloudOS.Lib.JsonText

/-!
# Who gets through to the routes of the gateway

`gateway/auth.py`, and the dependencies of the routes in `gateway/main.py`: FastAPI first
resolves those of the decorator, so a role is asked for before a token of the bucket is
taken.  Signatures and password hashes are the libraries'; python-jose compares times in whole
seconds.  The bodies of the routes are left out, but for the one that reads the bucket.

When no signature is forged, a body runs only for an active user of the right role that logged
in within the last half hour, and for each user no more often than the bucket has tokens, over
all tokens and routes of that user.
-/

set_option autoImplicit false

namespace CloudOS.Gateway.AccessControl

open CloudOS.Lib.History
open CloudOS.Lib.JsonText
open CloudOS.Gateway.RateLimit
open CloudOS.Gateway.RetryAfter

/-! ## Users and tokens -/

structure UserInDB where
  username : String
  hashedPassword : String
  role : String
  isActive : Bool
  deriving DecidableEq, Repr

/-- `FAKE_USERS_DB`: a record stands under its own name. -/
structure UsersDB where
  getUser : String → Option UserInDB
  named : ∀ name user, getUser name = some user → user.username = name

def usersDB (records : List UserInDB) : UsersDB where
  getUser name := records.find? fun user => user.username = name
  named name user found := by simpa using List.find?_some found

def fakeUsersDB (hash : String → String) : UsersDB :=
  usersDB [⟨"admin", hash "adminpass", "admin", true⟩, ⟨"alice", hash "alicepass", "user", true⟩,
    ⟨"bob", hash "bobpass", "readonly", true⟩]

/-- The claims of a token; the time is in seconds. -/
structure Payload where
  sub : Option String
  role : Option String
  exp : Option Nat
  deriving DecidableEq, Repr

/-- `jwt` and `pwd_context`.  `verified` is the payload of a token with the right signature;
`verify` may raise. -/
structure Crypto where
  encode : Payload → String
  verified : String → Option Payload
  verified_encode : ∀ payload, verified (encode payload) = some payload
  verify : (password hashed : String) → Except String Bool

/-- Times are in microseconds. -/
def second : Nat := 1000000

def accessTokenExpireMinutes : Nat := 30

inductive Raised where
  | http (exception : HTTPException)
  | other (text : String)

section Auth
variable (lib : Crypto) (db : UsersDB)

def authenticateUser (username password : String) : Except String (Option UserInDB) :=
  match db.getUser username with
  | none =>
      (lib.verify password "$2b$12$dummyhashtopreventtimingattacks000").map fun _ => none
  | some user =>
      (lib.verify password user.hashedPassword).map fun matches_ =>
        if matches_ && user.isActive then some user else none

/-- A lifetime of zero is none. -/
def createAccessToken (sub role : String) (expiresDelta : Nat) (now : Nat) : String :=
  let delta := if expiresDelta = 0 then accessTokenExpireMinutes * 60 * second else expiresDelta
  lib.encode ⟨some sub, some role, some ((now + delta) / second)⟩

def login (username password : String) (now : Nat) : Except Raised (UserInDB × String) :=
  match authenticateUser lib db username password with
  | .error text => .error (.other text)
  | .ok none =>
      .error (.http ⟨401, "Incorrect username or password", [("WWW-Authenticate", "Bearer")]⟩)
  | .ok (some user) =>
      .ok (user, createAccessToken lib user.username user.role
        (accessTokenExpireMinutes * 60 * second) now)

/-- `jwt.decode`: the signature, and then the time if there is one. -/
def decode (now : Nat) (token : String) : Option Payload :=
  (lib.verified token).filter fun payload => payload.exp.all fun exp => now / second ≤ exp

def credentialsException : HTTPException :=
  ⟨401, "Could not validate credentials", [("WWW-Authenticate", "Bearer")]⟩

/-- The role of the token is read and not used. -/
def getCurrentUser (now : Nat) (bearer : Option String) : Except HTTPException UserInDB :=
  match bearer with
  | none => .error ⟨401, "Not authenticated", [("WWW-Authenticate", "Bearer")]⟩
  | some token =>
      match (decode lib now token).bind Payload.sub with
      | none => .error credentialsException
      | some username =>
          match db.getUser username with
          | none => .error credentialsException
          | some user =>
              if user.isActive then .ok user else .error ⟨400, "Inactive user", []⟩

/-- How Python prints a list of plain strings. -/
def printedList (texts : List String) : String :=
  "[" ++ ", ".intercalate (texts.map fun text => "'" ++ text ++ "'") ++ "]"

def requireRole (roles : List String) (user : UserInDB) : Except HTTPException UserInDB :=
  if user.role ∈ roles then .ok user
  else
    .error ⟨403, "Insufficient permissions. Required role: " ++ printedList roles ++
      ", your role: " ++ user.role, []⟩

end Auth

/-! ## Routes -/

inductive GatewayRoute where
  | submitTask
  | listTasks
  | getTask
  | cancelTask
  | completeTask
  | getClusterState
  | getMetrics
  | getDependencyGraph
  | getRateLimits
  deriving DecidableEq, Repr

def GatewayRoute.roles : GatewayRoute → Option (List String)
  | .submitTask => some ["admin", "user"]
  | .cancelTask => some ["admin"]
  | .completeTask => some ["admin", "user"]
  | .getMetrics => some ["admin"]
  | _ => none

/-- The routes whose user comes from `rate_limit_dependency`. -/
def GatewayRoute.limited : GatewayRoute → Bool
  | .submitTask => true
  | .listTasks => true
  | .getTask => true
  | .getClusterState => true
  | .getDependencyGraph => true
  | _ => false

/-- `now` is the wall clock when the token is checked. -/
structure GatewayRequest where
  route : GatewayRoute
  bearer : Option String
  now : Nat
  clock : Readings

section Serving
variable (lib : Crypto) (db : UsersDB) (format : FloatFormat) (round2 : ℚ → ℚ)

def authorize (r : GatewayRequest) : Except HTTPException UserInDB :=
  match getCurrentUser lib db r.now r.bearer, r.route.roles with
  | .error exception, _ => .error exception
  | .ok user, none => .ok user
  | .ok user, some roles => requireRole roles user

def UserInDB.client (user : UserInDB) : User := ⟨user.username, user.role⟩

/-- The user for whom the body of the route runs, and the buckets afterwards. -/
def serve (r : GatewayRequest) (buckets : Buckets) : Except HTTPException UserInDB × Buckets :=
  match authorize lib db r with
  | .error exception => (.error exception, buckets)
  | .ok user =>
      if r.route.limited then
        let checked := rateLimitDependency roleLimits format round2 buckets user.client r.clock
        (checked.1.map fun _ => user, checked.2)
      else if r.route = .getRateLimits then
        (.ok user, (RetryAfter.getRateLimits roleLimits round2 buckets user.client r.clock).2)
      else (.ok user, buckets)

/-! ## Runs -/

structure Login where
  user : UserInDB
  password : String
  token : String
  now : Nat

/-- The buckets; and, for the record, the logins so far. -/
structure Session where
  buckets : Buckets
  logins : List Login

def Session.start : Session := ⟨noBuckets, []⟩

inductive GatewayOp where
  | login (username password : String) (now : Nat)
  | request (r : GatewayRequest)

def gatewayStep (session : Session) : GatewayOp → Session
  | .login username password now =>
      match login lib db username password now with
      | .error _ => session
      | .ok (user, token) =>
          { session with logins := session.logins ++ [⟨user, password, token, now⟩] }
  | .request r => { session with buckets := (serve lib db format round2 r session.buckets).2 }

def GatewayOp.bearer : GatewayOp → Option String
  | .login _ _ _ => none
  | .request r => r.bearer

/-- A token with the right signature was handed out before. -/
def Unforged (entry : Session × GatewayOp) : Prop :=
  ∀ token ∈ entry.2.bearer, (lib.verified token).isSome →
    token ∈ entry.1.logins.map Login.token

instance (entry : Session × GatewayOp) : Decidable (Unforged lib entry) :=
  Option.decidableForallMem _

def ranFor (username : String) : Except HTTPException UserInDB → Bool
  | .ok user => user.username = username
  | .error _ => false

def runsWithin (username : String) (s T : ℚ) (entry : Session × GatewayOp) : Bool :=
  match entry.2 with
  | .login _ _ _ => false
  | .request r =>
      r.route.limited && ranFor username (serve lib db format round2 r entry.1.buckets).1 &&
        decide (s ≤ r.clock.consumed ∧ r.clock.consumed ≤ s + T)

def GatewayOp.readings : GatewayOp → List ℚ
  | .login _ _ _ => []
  | .request r => [r.clock.created, r.clock.consumed, r.clock.remaining, r.clock.reset]

end Serving

/-! ## Every token comes from a login -/

section Logins
variable {lib : Crypto} {db : UsersDB}

theorem getCurrentUser_ok {now : Nat} {bearer : Option String} {user : UserInDB}
    (known : getCurrentUser lib db now bearer = .ok user) :
    ∃ token payload, bearer = some token ∧ lib.verified token = some payload ∧
      (∀ exp ∈ payload.exp, now / second ≤ exp) ∧ payload.sub = some user.username ∧
      db.getUser user.username = some user ∧ user.isActive = true := by
  unfold getCurrentUser at known
  split at known
  next => cases known
  next token =>
    split at known
    next => cases known
    next username isSub =>
      obtain ⟨payload, decoded, sub⟩ := Option.bind_eq_some_iff.mp isSub
      obtain ⟨isVerified, inTime⟩ := Option.filter_eq_some_iff.mp decoded
      split at known
      next => cases known
      next found =>
        split at known
        next active =>
          obtain rfl := Except.ok.inj known
          obtain rfl := db.named _ _ found
          refine ⟨token, payload, rfl, isVerified, ?_, sub, found, active⟩
          intro exp expires
          rw [Option.mem_def.mp expires] at inTime
          exact of_decide_eq_true inTime
        next => cases known

structure Genuine (lib : Crypto) (db : UsersDB) (entry : Login) : Prop where
  known : db.getUser entry.user.username = some entry.user
  password : lib.verify entry.password entry.user.hashedPassword = .ok true
  active : entry.user.isActive = true
  token : entry.token =
    lib.encode ⟨some entry.user.username, some entry.user.role, some (entry.now / second + 1800)⟩

theorem authenticateUser_some {username password : String} {user : UserInDB}
    (authenticated : authenticateUser lib db username password = .ok (some user)) :
    db.getUser user.username = some user ∧
      lib.verify password user.hashedPassword = .ok true ∧ user.isActive = true := by
  unfold authenticateUser at authenticated
  split at authenticated
  next =>
    cases dummy : lib.verify password "$2b$12$dummyhashtopreventtimingattacks000" <;>
      simp [dummy, Except.map] at authenticated
  next record found =>
    cases verified : lib.verify password record.hashedPassword with
    | error text => simp [verified, Except.map] at authenticated
    | ok matches_ =>
        rw [verified] at authenticated
        have some_ := Except.ok.inj authenticated
        dsimp only at some_
        split at some_
        next both =>
          obtain rfl := Option.some.inj some_
          obtain ⟨rfl, active⟩ := Bool.and_eq_true_iff.mp both
          obtain rfl := db.named _ _ found
          exact ⟨found, verified, active⟩
        next => cases some_

theorem genuine_of_login {username password : String} {now : Nat} {user : UserInDB}
    {token : String} (given : login lib db username password now = .ok (user, token)) :
    Genuine lib db ⟨user, password, token, now⟩ := by
  unfold login at given
  split at given
  next => cases given
  next => cases given
  next record authenticated =>
    obtain ⟨rfl, rfl⟩ := Prod.mk.inj (Except.ok.inj given)
    obtain ⟨known, verified, active⟩ := authenticateUser_some authenticated
    refine ⟨known, verified, active, ?_⟩
    have halfHour : (now + accessTokenExpireMinutes * 60 * second) / second =
        now / second + 1800 := by
      unfold accessTokenExpireMinutes second
      omega
    rw [← halfHour]
    rfl

variable (format : FloatFormat) (round2 : ℚ → ℚ)

theorem gatewayStep_genuine (session : Session) (op : GatewayOp)
    (genuine : ∀ entry ∈ session.logins, Genuine lib db entry) :
    ∀ entry ∈ (gatewayStep lib db format round2 session op).logins, Genuine lib db entry := by
  cases op with
  | login username password now =>
      simp only [gatewayStep]
      cases given : login lib db username password now with
      | error raised => exact genuine
      | ok issued =>
          obtain ⟨user, token⟩ := issued
          intro entry member
          rcases List.mem_append.mp member with old | new
          · exact genuine entry old
          · obtain rfl := List.mem_singleton.mp new
            exact genuine_of_login given
  | request r => exact genuine

theorem authorize_known {r : GatewayRequest} {user : UserInDB}
    (authorized : authorize lib db r = .ok user) :
    getCurrentUser lib db r.now r.bearer = .ok user ∧
      ∀ roles ∈ r.route.roles, user.role ∈ roles := by
  unfold authorize at authorized
  split at authorized
  next => cases authorized
  next current free =>
    obtain rfl := Except.ok.inj authorized
    refine ⟨current, ?_⟩
    rw [free]
    simp
  next other roles current asked =>
    unfold requireRole at authorized
    split at authorized
    next permitted =>
      obtain rfl := Except.ok.inj authorized
      refine ⟨current, ?_⟩
      rw [asked]
      simpa using permitted
    next => cases authorized

theorem authorize_ok {session : Session} {r : GatewayRequest} {user : UserInDB}
    (genuine : ∀ entry ∈ session.logins, Genuine lib db entry)
    (unforged : Unforged lib (session, .request r)) (authorized : authorize lib db r = .ok user) :
    (∃ entry ∈ session.logins, entry.user = user ∧
        lib.verify entry.password user.hashedPassword = .ok true ∧
        r.now / second ≤ entry.now / second + 1800) ∧
      user.isActive = true ∧ ∀ roles ∈ r.route.roles, user.role ∈ roles := by
  obtain ⟨current, permitted⟩ := authorize_known authorized
  obtain ⟨token, payload, presented, verified, inTime, sub, found, active⟩ :=
    getCurrentUser_ok current
  have handedOut := unforged token presented (by simp [verified])
  obtain ⟨entry, member, rfl⟩ := List.mem_map.mp handedOut
  have isGenuine := genuine entry member
  rw [isGenuine.token, lib.verified_encode] at verified
  obtain rfl := Option.some.inj verified
  have same : entry.user = user := by
    have names : entry.user.username = user.username := Option.some.inj sub
    have records := isGenuine.known
    rw [names, found] at records
    exact (Option.some.inj records).symm
  refine ⟨⟨entry, member, same, ?_, inTime _ rfl⟩, active, permitted⟩
  rw [← same]
  exact isGenuine.password

end Logins

/-! ## The bucket of a user -/

/-- A bucket of the role, last read by `now`, that paid for the bodies counted. -/
structure Funded (role : String) (s T now : ℚ) (b : TokenBucket) (count : Nat) : Prop where
  sound : Sound b
  capacity : b.capacity = limitOf roleLimits role
  rate : b.refillRate = limitOf roleLimits role / 60
  read : b.lastRefill ≤ now
  paid : Paid s T b count

/-- A user without a bucket was not counted. -/
def Account (role : String) (s T now : ℚ) (bucket : Option TokenBucket) (count : Nat) : Prop :=
  bucket.elim (count = 0) fun b => Funded role s T now b count

section Buckets
variable {role : String} {s T now : ℚ} {b : TokenBucket} {count : Nat}

theorem Funded.call (nonneg : 0 ≤ T) (round2 : ℚ → ℚ) (funded : Funded role s T now b count)
    (call : Call) (later : now ≤ call.now) :
    Funded role s T call.now (RateLimit.step round2 b call)
      (count + if countsWithin s T (b, call) then 1 else 0) := by
  have inOrder := funded.read.trans later
  refine ⟨step_sound funded.sound inOrder, ?_, ?_, ?_, funded.paid.step nonneg funded.sound inOrder⟩
  · rw [step_capacity, funded.capacity]
  · rw [step_refillRate, funded.rate]
  · rw [step_lastRefill]

theorem Funded.look (nonneg : 0 ≤ T) (round2 : ℚ → ℚ) (funded : Funded role s T now b count)
    {method : Method} (reads : method ≠ .consume) {time : ℚ} (later : now ≤ time) :
    Funded role s T time (RateLimit.step round2 b ⟨method, time⟩) count := by
  have next := funded.call nonneg round2 ⟨method, time⟩ later
  have uncounted : countsWithin s T (b, ⟨method, time⟩) = false := by
    cases method with
    | consume => exact absurd rfl reads
    | remaining => rfl
    | resetIn => rfl
  rwa [uncounted] at next

theorem getBucket_funded (nonneg : 0 ≤ T) {buckets : Buckets} {client : User} {created : ℚ}
    (account : Account client.role s T now (buckets client.username) count)
    (later : now ≤ created) :
    Funded client.role s T created (getBucket roleLimits buckets client created) count := by
  unfold getBucket
  cases found : buckets client.username with
  | none =>
      rw [found] at account
      obtain rfl : count = 0 := account
      have enough : (1 : ℚ) ≤ limitOf roleLimits client.role := by
        exact_mod_cast one_le_limitOf client.role
      have rate : (0 : ℚ) < limitOf roleLimits client.role / 60 := by linarith
      exact ⟨new_sound _ _ created enough rate, rfl, rfl, le_refl created,
        new_paid _ _ created s T nonneg enough rate⟩
  | some b =>
      rw [found] at account
      have funded : Funded client.role s T now b count := account
      exact { funded with read := funded.read.trans later }

variable (nonneg : 0 ≤ T) (format : FloatFormat) (round2 : ℚ → ℚ) {buckets : Buckets}
  {client : User} {clock : Readings}
  (account : Account client.role s T now (buckets client.username) count)
  (ordered : [now, clock.created, clock.consumed, clock.remaining, clock.reset].Pairwise (· ≤ ·))
include nonneg account ordered

theorem rateLimitDependency_account :
    Account client.role s T clock.reset
      ((rateLimitDependency roleLimits format round2 buckets client clock).2 client.username)
      (count + if countsWithin s T
        (getBucket roleLimits buckets client clock.created, ⟨.consume, clock.consumed⟩)
          then 1 else 0) := by
  simp only [List.pairwise_cons, List.mem_cons, List.not_mem_nil, or_false, forall_eq_or_imp,
    forall_eq] at ordered
  obtain ⟨⟨started, _⟩, ⟨consumed, _⟩, ⟨read, _⟩, reset, _⟩ := ordered
  have found := getBucket_funded nonneg account started
  have taken := found.call nonneg round2 ⟨.consume, clock.consumed⟩ consumed
  have seen := taken.look nonneg round2 (by decide : Method.remaining ≠ .consume) read
  have looked := seen.look nonneg round2 (by decide : Method.resetIn ≠ .consume) reset
  simp only [rateLimitDependency, check, Function.update_self]
  exact looked

theorem getRateLimits_account :
    Account client.role s T clock.reset
      ((RetryAfter.getRateLimits roleLimits round2 buckets client clock).2 client.username)
      count := by
  simp only [List.pairwise_cons, List.mem_cons, List.not_mem_nil, or_false, forall_eq_or_imp,
    forall_eq] at ordered
  obtain ⟨⟨started, _⟩, ⟨_, created, _⟩, _, reset, _⟩ := ordered
  have found := getBucket_funded nonneg account started
  have seen := found.look nonneg round2 (by decide : Method.remaining ≠ .consume) created
  have looked := seen.look nonneg round2 (by decide : Method.resetIn ≠ .consume) reset
  simp only [RetryAfter.getRateLimits, Function.update_self]
  exact looked

end Buckets

theorem Account.later {role : String} {s T now now' : ℚ} {bucket : Option TokenBucket}
    {count : Nat} (account : Account role s T now bucket count) (passed : now ≤ now') :
    Account role s T now' bucket count := by
  cases bucket with
  | none => exact account
  | some b =>
      have funded : Funded role s T now b count := account
      exact { funded with read := funded.read.trans passed }

section Counting
variable (lib : Crypto) (db : UsersDB) (format : FloatFormat) (round2 : ℚ → ℚ)
  {user : UserInDB} {s T now : ℚ} {count : Nat}

def GatewayOp.until (now : ℚ) : GatewayOp → ℚ
  | .login _ _ _ => now
  | .request r => r.clock.reset

theorem ranFor_limited (buckets : Buckets) (clock : Readings) :
    ranFor user.username
        ((rateLimitDependency roleLimits format round2 buckets user.client clock).1.map
          fun _ => user) =
      ((getBucket roleLimits buckets user.client clock.created).consume 1 clock.consumed).1 := by
  simp only [rateLimitDependency, check]
  cases ((getBucket roleLimits buckets user.client clock.created).consume 1 clock.consumed).1 with
  | true => simp [enforce, Except.map, ranFor]
  | false => rfl

theorem authorize_of_serve {r : GatewayRequest} {buckets : Buckets}
    (runs : (serve lib db format round2 r buckets).1 = .ok user) :
    authorize lib db r = .ok user := by
  cases authorized : authorize lib db r with
  | error exception =>
      simp only [serve, authorized] at runs
      cases runs
  | ok other =>
      simp only [serve, authorized] at runs
      split at runs
      next =>
        dsimp only at runs
        cases checked : (rateLimitDependency roleLimits format round2 buckets other.client
            r.clock).1 with
        | error exception =>
            rw [checked] at runs
            cases runs
        | ok state =>
            rw [checked] at runs
            exact runs
      next =>
        split at runs
        next => exact runs
        next => exact runs

theorem serve_apart {other : UserInDB} {name : String} {r : GatewayRequest}
    (authorized : authorize lib db r = .ok other) (apart : other.username ≠ name)
    (buckets : Buckets) :
    (serve lib db format round2 r buckets).2 name = buckets name ∧
      ranFor name (serve lib db format round2 r buckets).1 = false := by
  have runs : ∀ checked : Except HTTPException RateLimitState,
      ranFor name (checked.map fun _ => other) = false := by
    intro checked
    cases checked with
    | error exception => rfl
    | ok state => exact decide_eq_false apart
  simp only [serve, authorized]
  split
  next => exact ⟨Function.update_of_ne (Ne.symm apart) _ _, runs _⟩
  next =>
    split
    next => exact ⟨Function.update_of_ne (Ne.symm apart) _ _, decide_eq_false apart⟩
    next => exact ⟨rfl, decide_eq_false apart⟩

theorem serve_account (nonneg : 0 ≤ T) (found : db.getUser user.username = some user)
    (r : GatewayRequest) (session : Session)
    (account : Account user.role s T now (session.buckets user.username) count)
    (ordered : (now :: (GatewayOp.request r).readings).Pairwise (· ≤ ·)) :
    Account user.role s T r.clock.reset
      ((serve lib db format round2 r session.buckets).2 user.username)
      (count + if runsWithin lib db format round2 user.username s T (session, .request r)
        then 1 else 0) := by
  have passed : now ≤ r.clock.reset :=
    (List.pairwise_cons.mp ordered).1 _ (by simp [GatewayOp.readings])
  have unchanged := account.later passed
  cases authorized : authorize lib db r with
  | error exception =>
      simp only [runsWithin, serve, authorized, ranFor, Bool.and_false, Bool.false_and,
        Bool.false_eq_true, if_false, Nat.add_zero]
      exact unchanged
  | ok other =>
      obtain ⟨_, _, _, _, _, _, recorded, _⟩ := getCurrentUser_ok (authorize_known authorized).1
      by_cases same : other.username = user.username
      · obtain rfl : other = user := by
          rw [same, found] at recorded
          exact (Option.some.inj recorded).symm
        have ofClient : Account other.client.role s T now
            (session.buckets other.client.username) count := account
        cases limited : r.route.limited with
        | true =>
            have paid := rateLimitDependency_account nonneg format round2 ofClient ordered
            simp only [runsWithin, serve, authorized, limited, if_true, Bool.true_and]
            rw [ranFor_limited]
            exact paid
        | false =>
            simp only [runsWithin, serve, authorized, limited, Bool.false_and, Bool.false_eq_true,
              if_false, Nat.add_zero]
            by_cases reading : r.route = .getRateLimits
            · simp only [reading, if_true]
              exact getRateLimits_account nonneg round2 ofClient ordered
            · simp only [reading, if_false]
              exact unchanged
      · obtain ⟨kept, notOwn⟩ := serve_apart lib db format round2 authorized same session.buckets
        simp only [runsWithin, kept, notOwn, Bool.and_false, Bool.false_and, Bool.false_eq_true,
          if_false, Nat.add_zero]
        exact unchanged

theorem step_account (nonneg : 0 ≤ T) (found : db.getUser user.username = some user)
    (session : Session) (op : GatewayOp)
    (account : Account user.role s T now (session.buckets user.username) count)
    (ordered : (now :: op.readings).Pairwise (· ≤ ·)) :
    Account user.role s T (op.until now)
      ((gatewayStep lib db format round2 session op).buckets user.username)
      (count + if runsWithin lib db format round2 user.username s T (session, op)
        then 1 else 0) := by
  cases op with
  | login username password time =>
      simp only [gatewayStep]
      cases login lib db username password time with
      | error raised => exact account
      | ok issued => exact account
  | request r => exact serve_account lib db format round2 nonneg found r session account ordered

theorem until_le {op : GatewayOp} {later : List ℚ}
    (ordered : (now :: (op.readings ++ later)).Pairwise (· ≤ ·)) :
    (op.until now :: later).Pairwise (· ≤ ·) := by
  cases op with
  | login username password time => exact ordered
  | request r =>
      simp only [GatewayOp.readings, List.cons_append, List.nil_append,
        List.pairwise_cons] at ordered
      exact List.pairwise_cons.mpr ordered.2.2.2.2

theorem run_account (nonneg : 0 ≤ T) (found : db.getUser user.username = some user)
    (session : Session) (ops : List GatewayOp)
    (account : Account user.role s T now (session.buckets user.username) count)
    (ordered : (now :: ops.flatMap GatewayOp.readings).Pairwise (· ≤ ·)) :
    ∃ bucket now', Account user.role s T now' bucket
      (count + (history (gatewayStep lib db format round2) session ops).countP
        (runsWithin lib db format round2 user.username s T)) := by
  induction ops generalizing session now count with
  | nil => exact ⟨_, now, account⟩
  | cons op rest ih =>
      rw [List.flatMap_cons] at ordered
      have first : (now :: op.readings).Pairwise (· ≤ ·) :=
        ordered.sublist (List.Sublist.cons_cons now (List.sublist_append_left _ _))
      have next := step_account lib db format round2 nonneg found session op account first
      obtain ⟨bucket, now', held⟩ := ih _ next (until_le ordered)
      refine ⟨bucket, now', ?_⟩
      rw [history, List.countP_cons, Nat.add_comm (List.countP _ _), ← Nat.add_assoc]
      exact held

theorem Account.bound {role : String} {bucket : Option TokenBucket} (nonneg : 0 ≤ T)
    (account : Account role s T now bucket count) :
    (count : ℚ) ≤ limitOf roleLimits role + limitOf roleLimits role / 60 * T := by
  cases bucket with
  | none =>
      obtain rfl : count = 0 := account
      have limit : (1 : ℚ) ≤ limitOf roleLimits role := by exact_mod_cast one_le_limitOf role
      have earned : 0 ≤ (limitOf roleLimits role : ℚ) / 60 * T :=
        mul_nonneg (by linarith) nonneg
      rw [Nat.cast_zero]
      linarith
  | some b =>
      have funded : Funded role s T now b count := account
      have bound := funded.paid.bound nonneg funded.sound
      rwa [funded.capacity, funded.rate] at bound

end Counting

/-! ## The gateway -/

def payloadJson (payload : Payload) : Value Unit :=
  .list [(payload.sub.map .text).getD .null, (payload.role.map .text).getD .null,
    (payload.exp.map fun exp => .int exp).getD .null]

def readText : Value Unit → Option String
  | .text content => some content
  | _ => none

def readNat : Value Unit → Option Nat
  | .int n => some n.toNat
  | _ => none

def readPayload : Value Unit → Option Payload
  | .list [sub, role, exp] => some ⟨readText sub, readText role, readNat exp⟩
  | _ => none

/-- A library without secrets, for runs on fixed inputs: a token is its payload, and a password
its own hash. -/
def openCrypto : Crypto where
  encode payload := String.ofList (dumps .zero (payloadJson payload))
  verified token := (loads .zero token.toList).bind readPayload
  verified_encode := by
    intro payload
    rw [String.toList_ofList, loads_dumps]
    obtain ⟨sub, role, exp⟩ := payload
    cases sub <;> cases role <;> cases exp <;> rfl
  verify password hashed := .ok (password = hashed)

def aliceToken (now : Nat) : String :=
  createAccessToken openCrypto "alice" "user" (accessTokenExpireMinutes * 60 * second) now

def aliceAsks (route : GatewayRoute) (issued now : Nat) : GatewayOp :=
  .request ⟨route, some (aliceToken issued), now * second, ⟨now, now, now, now⟩⟩

def aliceRun : List GatewayOp :=
  [.login "alice" "alicepass" 0, aliceAsks .submitTask 0 10,
    .login "alice" "alicepass" (20 * second), aliceAsks .listTasks (20 * second) 30,
    aliceAsks .getMetrics 0 40]

end CloudOS.Gateway.AccessControl
