import Mathlib.Logic.Function.Basic

/-!
# Counters that expire

The part of a Redis server that counting needs: keys with a count and possibly
a deadline, after which the key is as good as gone.  `INCR` starts at zero for
a missing key and keeps the deadline of a present one; `EXPIRE` sets the
deadline of a present key.
-/

set_option autoImplicit false

namespace CloudOS.Lib.ExpiringCounters

structure Counter where
  count : Nat
  deadline : Option Nat
  deriving DecidableEq, Repr

def Counter.alive (now : Nat) (counter : Counter) : Bool :=
  counter.deadline.all fun deadline => decide (now < deadline)

variable {K : Type}

abbrev Counters (K : Type) := K → Option Counter

def live (now : Nat) (store : Counters K) (key : K) : Option Counter :=
  (store key).filter (Counter.alive now)

def count (now : Nat) (store : Counters K) (key : K) : Nat :=
  ((live now store key).map Counter.count).getD 0

inductive Command (K : Type) where
  | incr (key : K)
  | expire (key : K) (ttl : Nat)

def Command.key : Command K → K
  | .incr key => key
  | .expire key _ => key

def delete (now : Nat) (selected : K → Bool) (store : Counters K) : Counters K :=
  fun key => if selected key && (live now store key).isSome then none else store key

theorem delete_congr {store other : Counters K} {key : K} (same : store key = other key) (now : Nat)
    (selected : K → Bool) : delete now selected store key = delete now selected other key := by
  unfold delete live
  rw [same]

theorem delete_of_not_selected {now : Nat} {store : Counters K} {key : K} {selected : K → Bool}
    (spared : (live now store key).isSome = true → selected key = false) :
    delete now selected store key = store key := by
  unfold delete
  cases present : (live now store key).isSome with
  | true => simp [spared present]
  | false => simp

variable [DecidableEq K]

/-- The number a command answers with, and the store after it. -/
def exec (now : Nat) (store : Counters K) : Command K → Nat × Counters K
  | .incr key =>
      (count now store key + 1,
        Function.update store key
          (some ⟨count now store key + 1, (live now store key).bind Counter.deadline⟩))
  | .expire key ttl =>
      match live now store key with
      | none => (0, store)
      | some counter =>
          (1, Function.update store key (some { counter with deadline := some (now + ttl) }))

def pipeline (now : Nat) : List (Command K) → Counters K → List Nat × Counters K
  | [], store => ([], store)
  | command :: rest, store =>
      ((exec now store command).1 :: (pipeline now rest (exec now store command).2).1,
        (pipeline now rest (exec now store command).2).2)

/-! ## What commands leave alone -/

section Frame
variable {store other : Counters K} {key : K}

theorem exec_frame (now : Nat) (store : Counters K) (command : Command K)
    (elsewhere : command.key ≠ key) : (exec now store command).2 key = store key := by
  cases command with
  | incr target => exact Function.update_of_ne (Ne.symm elsewhere) _ _
  | expire target ttl =>
      simp only [exec]
      split
      · rfl
      · exact Function.update_of_ne (Ne.symm elsewhere) _ _

theorem pipeline_frame (now : Nat) {commands : List (Command K)}
    (elsewhere : ∀ command ∈ commands, command.key ≠ key) (store : Counters K) :
    (pipeline now commands store).2 key = store key := by
  induction commands generalizing store with
  | nil => rfl
  | cons command rest ih =>
      have first := exec_frame now store command (elsewhere command List.mem_cons_self)
      have later := ih (fun other member => elsewhere other (List.mem_cons_of_mem command member))
        (exec now store command).2
      exact later.trans first

theorem exec_congr (now : Nat) {command : Command K} (same : store command.key = other command.key) :
    (exec now store command).1 = (exec now other command).1 ∧
      ∀ key, store key = other key →
        (exec now store command).2 key = (exec now other command).2 key := by
  have seen : live now store command.key = live now other command.key := by
    simp only [live, same]
  cases command with
  | incr target =>
      have counted : count now store target = count now other target := by
        simp only [Command.key] at seen
        simp only [count, seen]
      simp only [Command.key] at seen
      simp only [exec, counted, seen, true_and]
      intro key agree
      by_cases own : key = target
      · simp [own]
      · simp [own, agree]
  | expire target ttl =>
      simp only [Command.key] at seen
      simp only [exec, seen]
      cases live now other target with
      | none => exact ⟨rfl, fun _ agree => agree⟩
      | some counter =>
          constructor
          · rfl
          · intro key agree
            by_cases own : key = target
            · simp [own]
            · simp [own, agree]

theorem pipeline_congr (now : Nat) {commands : List (Command K)} {owned : K → Prop}
    (own : ∀ command ∈ commands, owned command.key) (same : ∀ key, owned key → store key = other key) :
    (pipeline now commands store).1 = (pipeline now commands other).1 ∧
      ∀ key, owned key →
        (pipeline now commands store).2 key = (pipeline now commands other).2 key := by
  induction commands generalizing store other with
  | nil => exact ⟨rfl, same⟩
  | cons command rest ih =>
      obtain ⟨answer, agree⟩ :=
        exec_congr now (same command.key (own command List.mem_cons_self))
      have laterOwn : ∀ later ∈ rest, owned later.key :=
        fun later member => own later (List.mem_cons_of_mem command member)
      obtain ⟨answers, agrees⟩ :=
        ih laterOwn fun key isOwn => agree key (same key isOwn)
      exact ⟨by simp only [pipeline, answer, answers], agrees⟩

theorem pipeline_filter (now : Nat) (commands : List (Command K)) (same : store key = other key) :
    (pipeline now commands store).2 key =
      (pipeline now (commands.filter fun command => command.key = key) other).2 key := by
  induction commands generalizing store other with
  | nil => exact same
  | cons command rest ih =>
      by_cases own : command.key = key
      · have agree : store command.key = other command.key := by rw [own, same]
        rw [List.filter_cons_of_pos (by simpa using own)]
        exact ih ((exec_congr now agree).2 key same)
      · rw [List.filter_cons_of_neg (by simpa using own)]
        exact ih ((exec_frame now store command own).trans same)

end Frame

/-! ## What commands keep -/

section Kept
variable {now : Nat} {store : Counters K}

theorem pipeline_invariant {inv : Counters K → Prop} {commands : List (Command K)}
    (kept : ∀ command ∈ commands, ∀ store, inv store → inv (exec now store command).2)
    (holds : inv store) : inv (pipeline now commands store).2 := by
  induction commands generalizing store with
  | nil => exact holds
  | cons command rest ih =>
      have first := kept command List.mem_cons_self store holds
      exact ih (fun other member => kept other (List.mem_cons_of_mem command member)) first

/-- The count a key was left with, expired or not. -/
def stored (store : Counters K) (key : K) : Nat := ((store key).map Counter.count).getD 0

theorem exec_incr_stored (now : Nat) (store : Counters K) (key : K) :
    stored (exec now store (.incr key)).2 key = count now store key + 1 := by
  simp [stored, exec]

omit [DecidableEq K] in
theorem count_eq_stored {key : K} (alive : live now store key = store key) :
    count now store key = stored store key := by
  simp only [count, stored, alive]

/-- What an increment leaves is alive: a new key has no deadline, and an expired
one has lost it. -/
theorem live_exec_incr (now : Nat) (store : Counters K) (key : K) :
    live now (exec now store (.incr key)).2 key =
      some ⟨count now store key + 1, (live now store key).bind Counter.deadline⟩ := by
  apply Option.filter_eq_some_iff.mpr
  refine ⟨Function.update_self key _ store, ?_⟩
  cases present : live now store key with
  | none => rfl
  | some counter => exact (Option.filter_eq_some_iff.mp present).2

theorem exec_expire_apply {key : K} {counter : Counter} (present : live now store key = some counter)
    (ttl : Nat) :
    (exec now store (.expire key ttl)).2 key = some { counter with deadline := some (now + ttl) } := by
  simp [exec, present]

/-- Time to live is given, not taken. -/
def Command.leavesAlive : Command K → Prop
  | .incr _ => True
  | .expire _ ttl => 0 < ttl

def increments (key : K) : Command K → Bool
  | .incr target => target = key
  | .expire _ _ => false

theorem exec_stored {key : K} {command : Command K} (alive : live now store key = store key)
    (leaves : command.leavesAlive) :
    live now (exec now store command).2 key = (exec now store command).2 key ∧
      stored (exec now store command).2 key =
        stored store key + if increments key command then 1 else 0 := by
  by_cases own : command.key = key
  · subst own
    cases command with
    | incr target =>
        constructor
        · exact (live_exec_incr now store target).trans (Function.update_self target _ store).symm
        · rw [← count_eq_stored alive]
          simp [Command.key, exec_incr_stored, increments]
    | expire target ttl =>
        have later : 0 < ttl := leaves
        have found : live now store target = store target := alive
        simp only [Command.key, exec, found, increments]
        cases present : store target with
        | none => simp [live, stored, present]
        | some counter => simp [live, stored, present, Counter.alive, later]
  · have other : increments key command = false := by
      cases command with
      | incr target => exact decide_eq_false own
      | expire target ttl => rfl
    have kept := exec_frame now store command own
    simp only [live, stored, kept, other]
    exact ⟨alive, rfl⟩

theorem pipeline_stored {key : K} {commands : List (Command K)}
    (alive : live now store key = store key)
    (leaves : ∀ command ∈ commands, command.leavesAlive) :
    stored (pipeline now commands store).2 key =
      stored store key + commands.countP (increments key) := by
  induction commands generalizing store with
  | nil => rfl
  | cons command rest ih =>
      rw [List.forall_mem_cons] at leaves
      obtain ⟨aliveAfter, one⟩ := exec_stored alive leaves.1
      rw [pipeline, ih aliveAfter leaves.2, one, List.countP_cons]
      omega

end Kept

end CloudOS.Lib.ExpiringCounters
