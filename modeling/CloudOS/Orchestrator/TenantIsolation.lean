import CloudOS.Orchestrator.RateLimiting

/-!
# The limiter between tenants

All counters share one key space.  The keys of two tenants never coincide, so
`Allow` touches only the counters of its own tenant, whatever the ids.
`ResetTenantLimit` deletes by a glob pattern that has the id in the middle, and
such a pattern may match keys of others: an id may hold a colon or a character
that means something in a pattern.
-/

set_option autoImplicit false

namespace CloudOS.Orchestrator.TenantIsolation

open CloudOS.Lib.ExpiringCounters
open CloudOS.Lib.Glob
open CloudOS.Lib.History
open CloudOS.Lib.Separators
open CloudOS.Orchestrator.RateLimiting

inductive Call where
  | allow (tenantID : String) (env : AllowEnv)
  | resetTenantLimit (tenantID : String) (env : ResetEnv)

def Call.tenantID : Call → String
  | .allow tenantID _ => tenantID
  | .resetTenantLimit tenantID _ => tenantID

section Definitions
variable (rl : RateLimiter)

def step (redis : Counters String) : Call → Counters String
  | .allow tenantID env => (allow rl tenantID env redis).2
  | .resetTenantLimit tenantID env => (resetTenantLimit tenantID env redis).2

def decision (redis : Counters String) : Call → Option Decision
  | .allow tenantID env => some (allow rl tenantID env redis).1
  | .resetTenantLimit _ _ => none

def isOf (tenantID : String) (call : Call) : Bool := decide (call.tenantID = tenantID)

def decisionsFor (redis : Counters String) (tenantID : String) (calls : List Call) :
    List Decision :=
  observed (decision rl) (isOf tenantID) (step rl) redis calls

end Definitions

def OwnKey (tenantID key : String) : Prop := ∃ scope n, key = windowKey scope tenantID n

/-- A reset for another tenant has a pattern that matches no counter that
Redis holds for this one. -/
def Spares (tenantID : String) (entry : Counters String × Call) : Prop :=
  match entry.2 with
  | .allow _ _ => True
  | .resetTenantLimit other env =>
      other ≠ tenantID → ∀ key, OwnKey tenantID key → (live env.now entry.1 key).isSome = true →
        globMatches (resetPattern other) key = false

def Agree (tenantID : String) (redis redis' : Counters String) : Prop :=
  ∀ key, OwnKey tenantID key → redis key = redis' key

/-! ## One call -/

section Calls
variable {rl : RateLimiter} {tenantID : String} {redis redis' : Counters String}

theorem commands_own (tenantID : String) (now : Nat) :
    ∀ command ∈ commands tenantID now, OwnKey tenantID command.key := by
  intro command member
  obtain ⟨scope, isKey⟩ := commands_keyAt member
  exact ⟨scope, _, isKey⟩

theorem OwnKey.unique {other key : String} (own : OwnKey tenantID key) (others : OwnKey other key) :
    tenantID = other := by
  obtain ⟨scope, n, rfl⟩ := own
  obtain ⟨scope', n', same⟩ := others
  exact (windowKey_inj same).2.1

theorem allow_sends (rl : RateLimiter) (tenantID : String) (env : AllowEnv) :
    ∃ sent, (∀ command ∈ sent, command ∈ commands tenantID env.now) ∧
      ∃ answer : List Nat → Decision, ∀ redis, allow rl tenantID env redis =
        (answer (pipeline env.now sent redis).1, (pipeline env.now sent redis).2) := by
  by_cases empty : tenantID = ""
  · refine ⟨[], fun _ member => absurd member List.not_mem_nil,
      fun _ => ⟨false, 0, some .emptyTenant⟩, fun redis => ?_⟩
    rw [allow, if_pos empty]
    rfl
  · cases failing : env.failure with
    | some failure =>
        refine ⟨(commands tenantID env.now).take failure.applied,
          fun _ member => List.mem_of_mem_take member,
          fun _ => ⟨false, 0, some (.redis failure.text)⟩, fun redis => ?_⟩
        simp only [allow, if_neg empty, failing]
    | none =>
        refine ⟨commands tenantID env.now, fun _ member => member,
          fun results =>
            if results.getD 0 0 > rl.perMinuteLimit then ⟨false, untilNext .minute env, none⟩
            else if results.getD 1 0 > rl.perHourLimit then ⟨false, untilNext .hour env, none⟩
            else ⟨true, 0, none⟩, fun redis => ?_⟩
        simp only [allow, if_neg empty, failing]
        split_ifs <;> rfl

theorem allow_agree (env : AllowEnv) (agree : Agree tenantID redis redis') :
    (allow rl tenantID env redis).1 = (allow rl tenantID env redis').1 ∧
      Agree tenantID (allow rl tenantID env redis).2 (allow rl tenantID env redis').2 := by
  obtain ⟨sent, within, answer, sends⟩ := allow_sends rl tenantID env
  have own : ∀ command ∈ sent, OwnKey tenantID command.key :=
    fun command member => commands_own tenantID env.now command (within command member)
  obtain ⟨results, stores⟩ := pipeline_congr env.now own agree
  rw [sends, sends]
  exact ⟨congrArg answer results, stores⟩

theorem reset_agree (env : ResetEnv) (agree : Agree tenantID redis redis') :
    Agree tenantID (resetTenantLimit tenantID env redis).2
      (resetTenantLimit tenantID env redis').2 := by
  obtain ⟨selected, _, deletes⟩ := resetTenantLimit_store tenantID env
  intro key own
  rw [deletes, deletes]
  exact delete_congr (agree key own) env.now selected

theorem allow_frame {other key : String} (different : other ≠ tenantID) (env : AllowEnv)
    (own : OwnKey tenantID key) : (allow rl other env redis).2 key = redis key := by
  obtain ⟨sent, within, answer, sends⟩ := allow_sends rl other env
  have elsewhere : ∀ command ∈ sent, command.key ≠ key := by
    rintro command member rfl
    exact different (own.unique (commands_own other env.now command (within command member))).symm
  rw [sends]
  exact pipeline_frame env.now elsewhere redis

theorem reset_frame {other key : String} {env : ResetEnv}
    (spared : (live env.now redis key).isSome = true →
      globMatches (resetPattern other) key = false) :
    (resetTenantLimit other env redis).2 key = redis key := by
  obtain ⟨selected, onlyMatching, deletes⟩ := resetTenantLimit_store other env
  rw [deletes]
  exact delete_of_not_selected fun present => onlyMatching key (spared present)

end Calls

/-- Over any run, a tenant gets the decisions it would get alone, as long as
no reset of another tenant matches a counter that Redis holds for it. -/
theorem decisions_isolated (rl : RateLimiter) (redis : Counters String) (tenantID : String)
    (calls : List Call)
    (spared : ∀ entry ∈ history (step rl) redis calls, Spares tenantID entry) :
    decisionsFor rl redis tenantID calls =
      decisionsFor rl redis tenantID (calls.filter (isOf tenantID)) := by
  have own_step : ∀ redis redis' call, isOf tenantID call = true → Agree tenantID redis redis' →
      decision rl redis call = decision rl redis' call ∧
        Agree tenantID (step rl redis call) (step rl redis' call) := by
    intro redis redis' call isOwn agree
    cases call with
    | allow caller env =>
        obtain rfl : caller = tenantID := of_decide_eq_true isOwn
        obtain ⟨same, agree'⟩ := allow_agree env agree
        exact ⟨congrArg some same, agree'⟩
    | resetTenantLimit caller env =>
        obtain rfl : caller = tenantID := of_decide_eq_true isOwn
        exact ⟨rfl, reset_agree env agree⟩
  have other_step : ∀ redis redis' call, isOf tenantID call = false →
      Spares tenantID (redis, call) → Agree tenantID redis redis' →
        Agree tenantID (step rl redis call) redis' := by
    intro redis redis' call isOther spares agree key own
    cases call with
    | allow caller env =>
        have different : caller ≠ tenantID := of_decide_eq_false isOther
        exact (allow_frame different env own).trans (agree key own)
    | resetTenantLimit caller env =>
        have different : caller ≠ tenantID := of_decide_eq_false isOther
        exact (reset_frame (spares different key own)).trans (agree key own)
  exact observed_filter own_step other_step (fun _ _ => rfl) calls spared

/-! ## Ids without special characters -/

/-- No colon, and nothing that means something in a pattern. -/
def PlainId (tenantID : String) : Prop := ∀ c ∈ tenantID.toList, Plain c ∧ c ≠ ':'

theorem forall_mem_of_all {p : Char → Prop} [DecidablePred p] {chars : List Char}
    (checked : chars.all (fun c => decide (p c)) = true) : ∀ c ∈ chars, p c := by
  intro c member
  exact of_decide_eq_true (List.all_eq_true.mp checked c member)

section PlainIds
variable {tenantID other : String}

theorem resetPattern_toList (tenantID : String) :
    (resetPattern tenantID).toList =
      "ratelimit:".toList ++ '*' :: ((':' :: tenantID.toList ++ [':']) ++ ['*']) := by
  have start : "ratelimit:*:".toList = "ratelimit:".toList ++ ['*', ':'] := by decide
  have stop : ":*".toList = [':', '*'] := by decide
  change ("ratelimit:*:" ++ tenantID ++ ":*").toList = _
  simp [start, stop]

theorem resetPattern_tokens (plain : PlainId tenantID) :
    tokens .between (resetPattern tenantID).toList =
      "ratelimit:".toList.map Token.literal ++
        .star :: ((':' :: tenantID.toList ++ [':']).map Token.literal ++ [.star]) := by
  have colon : Plain ':' := by decide
  have start : ∀ c ∈ "ratelimit:".toList, Plain c := forall_mem_of_all (by decide)
  have middle : ∀ c ∈ ':' :: tenantID.toList ++ [':'], Plain c := by
    intro c member
    simp only [List.cons_append, List.mem_cons, List.mem_append, List.not_mem_nil, or_false]
      at member
    rcases member with rfl | member | rfl
    · exact colon
    · exact (plain c member).1
    · exact colon
  rw [resetPattern_toList, tokens_plain start, tokens_star, tokens_plain middle, tokens_star]
  rfl

theorem resetPattern_matches {key : String} (plain : PlainId tenantID)
    (matched : globMatches (resetPattern tenantID) key = true) :
    ∃ before behind, key.toList =
      "ratelimit:".toList ++ (before ++ ':' :: (tenantID.toList ++ ':' :: behind)) := by
  unfold globMatches at matched
  rw [resetPattern_tokens plain, globMatch_literals] at matched
  obtain ⟨rest, start, afterStart⟩ := matched
  obtain ⟨before, rest', rfl, afterStar⟩ := (globMatch_star rest).mp afterStart
  obtain ⟨behind, rfl, _⟩ := (globMatch_literals _ _).mp afterStar
  exact ⟨before, behind, by simpa using start⟩

theorem plain_reset_spares (plainOther : PlainId other) (plain : PlainId tenantID)
    (different : other ≠ tenantID) {key : String} (own : OwnKey tenantID key) :
    globMatches (resetPattern other) key = false := by
  rw [Bool.eq_false_iff]
  intro matched
  obtain ⟨before, behind, found⟩ := resetPattern_matches plainOther matched
  obtain ⟨scope, n, rfl⟩ := own
  rw [windowKey_toList, List.append_cancel_left_eq] at found
  have noColon : ':' ∉ scope.text.toList := by cases scope <;> decide
  have noColonOwn : ':' ∉ tenantID.toList := fun member => (plain ':' member).2 rfl
  have noColonOther : ':' ∉ other.toList := fun member => (plainOther ':' member).2 rfl
  have noColonNumber : ':' ∉ (toString n).toList := notMem_digits (by decide) n
  -- the key has two colons left, and the pattern accounts for both
  have colons := congrArg (List.count ':') found
  simp only [List.count_append, List.count_cons_self, List.count_eq_zero_of_not_mem noColon,
    List.count_eq_zero_of_not_mem noColonOwn, List.count_eq_zero_of_not_mem noColonOther,
    List.count_eq_zero_of_not_mem noColonNumber] at colons
  have noColonBefore : ':' ∉ before := List.count_eq_zero.mp (by omega)
  obtain ⟨_, rest⟩ := append_cons_inj_first noColon noColonBefore found
  obtain ⟨same, _⟩ := append_cons_inj_first noColonOwn noColonOther rest
  exact different (String.toList_injective same.symm)

end PlainIds

/-- One call a minute; the other tenant is reset in between. -/
def plainRun : List Call :=
  [.allow "a" ⟨0, 0, none⟩, .resetTenantLimit "b" ⟨second, none⟩,
    .allow "a" ⟨2 * second, 2 * second, none⟩]

theorem plainRun_isolated :
    decisionsFor ⟨1, 1000⟩ (fun _ => none) "a" plainRun =
        decisionsFor ⟨1, 1000⟩ (fun _ => none) "a" (plainRun.filter (isOf "a")) ∧
      decisionsFor ⟨1, 1000⟩ (fun _ => none) "a" plainRun =
        [⟨true, 0, none⟩, ⟨false, 58 * second, none⟩] := by
  have plainA : PlainId "a" := forall_mem_of_all (by decide)
  have plainB : PlainId "b" := forall_mem_of_all (by decide)
  have spared : ∀ entry ∈ history (step ⟨1, 1000⟩) (fun _ => none) plainRun, Spares "a" entry := by
    simp only [plainRun, history, List.forall_mem_cons]
    refine ⟨trivial, ?_, trivial, fun _ impossible => by cases impossible⟩
    intro different key own _
    exact plain_reset_spares plainB plainA different own
  exact ⟨decisions_isolated ⟨1, 1000⟩ (fun _ => none) "a" plainRun spared, by decide +kernel⟩

/-- The reset of tenant "a" also deletes the counters of tenant "x:a". -/
def colonRun : List Call :=
  [.allow "x:a" ⟨0, 0, none⟩, .resetTenantLimit "a" ⟨second, none⟩,
    .allow "x:a" ⟨2 * second, 2 * second, none⟩]

theorem reset_reaches_other_tenant :
    decisionsFor ⟨1, 1000⟩ (fun _ => none) "x:a" colonRun =
        [⟨true, 0, none⟩, ⟨true, 0, none⟩] ∧
      decisionsFor ⟨1, 1000⟩ (fun _ => none) "x:a" (colonRun.filter (isOf "x:a")) =
        [⟨true, 0, none⟩, ⟨false, 58 * second, none⟩] := by
  decide +kernel

end CloudOS.Orchestrator.TenantIsolation
