import CloudOS.Lib.History
import Mathlib.Data.Finset.Card
import Mathlib.Logic.Function.Basic
import Mathlib.Logic.Relation

/-!
# Tasks with dependencies, worked off in rounds

A round visits tasks one after another, in any order.  A visited task that has
not been started starts if all its dependencies are settled and succeeded;
whatever has been started ends at the end of the round, and is settled by the
next visit.  Over an acyclic finite set, two rounds for each task are enough,
and a task waits for ever exactly when something it needs fails.
-/

set_option autoImplicit false

namespace CloudOS.Lib.StagedRounds

open CloudOS.Lib.History
open Relation (TransGen)

/-- `fresh` is a task that has never been visited. -/
inductive Stage where
  | fresh
  | waiting
  | started
  | ended
  | settled
  deriving DecidableEq, Repr

def Stage.level : Stage → Nat
  | .fresh => 0
  | .waiting => 1
  | .started => 2
  | .ended => 3
  | .settled => 4

theorem settled_of_level {stage : Stage} (high : 4 ≤ stage.level) : stage = .settled := by
  cases stage with
  | settled => rfl
  | fresh => simp [Stage.level] at high
  | waiting => simp [Stage.level] at high
  | started => simp [Stage.level] at high
  | ended => simp [Stage.level] at high

section Rounds
variable {T : Type} [DecidableEq T] (deps : T → List T) (succeeds : T → Bool)

def Needs (t d : T) : Prop := d ∈ deps t

def Ready (σ : T → Stage) (t : T) : Prop := ∀ d ∈ deps t, σ d = .settled ∧ succeeds d = true

instance readyDecidable (σ : T → Stage) (t : T) : Decidable (Ready deps succeeds σ t) :=
  inferInstanceAs (Decidable (∀ d ∈ deps t, σ d = .settled ∧ succeeds d = true))

def advance (σ : T → Stage) (t : T) : Stage :=
  match σ t with
  | .fresh => if Ready deps succeeds σ t then .started else .waiting
  | .waiting => if Ready deps succeeds σ t then .started else .waiting
  | .started => .started
  | .ended => .settled
  | .settled => .settled

def visit (σ : T → Stage) (t : T) : T → Stage :=
  Function.update σ t (advance deps succeeds σ t)

def finish (σ : T → Stage) : T → Stage := fun t =>
  if σ t = .started then .ended else σ t

def round (σ : T → Stage) (order : List T) : T → Stage :=
  finish (after (visit deps succeeds) σ order)

/-- What has been started had all its dependencies settled and succeeded. -/
def Sound (σ : T → Stage) : Prop := ∀ t, 2 ≤ (σ t).level → Ready deps succeeds σ t

end Rounds

/-! ## Stages only go up -/

section Progress
variable {T : Type} {deps : T → List T} {succeeds : T → Bool}

def Later (σ σ' : T → Stage) : Prop := ∀ t, (σ t).level ≤ (σ' t).level

theorem later_refl (σ : T → Stage) : Later σ σ := fun _ => Nat.le_refl _

theorem later_trans {a b c : T → Stage} (first : Later a b) (second : Later b c) : Later a c :=
  fun t => Nat.le_trans (first t) (second t)

theorem ready_kept {σ σ' : T → Stage} (later : Later σ σ') {t : T}
    (ready : Ready deps succeeds σ t) : Ready deps succeeds σ' t := by
  intro d member
  obtain ⟨settled, success⟩ := ready d member
  have high := later d
  rw [settled] at high
  exact ⟨settled_of_level high, success⟩

theorem finish_later (σ : T → Stage) : Later σ (finish σ) := by
  intro t
  unfold finish
  split
  · rename_i started
    simp [started, Stage.level]
  · exact Nat.le_refl _

theorem finish_level {σ : T → Stage} {t : T} (high : 2 ≤ (σ t).level) :
    3 ≤ (finish σ t).level := by
  unfold finish
  cases stage : σ t with
  | started => simp [Stage.level]
  | ended => simp [Stage.level]
  | settled => simp [Stage.level]
  | fresh => simp [stage, Stage.level] at high
  | waiting => simp [stage, Stage.level] at high

theorem finish_level_low {σ : T → Stage} {t : T} (high : 2 ≤ (finish σ t).level) :
    2 ≤ (σ t).level := by
  unfold finish at high
  split at high
  · rename_i started
    simp [started, Stage.level]
  · exact high

variable (deps succeeds) in
theorem advance_later (σ : T → Stage) (t : T) :
    (σ t).level ≤ (advance deps succeeds σ t).level := by
  unfold advance
  cases σ t with
  | fresh => exact Nat.zero_le _
  | waiting => simp only; split <;> simp [Stage.level]
  | started => exact Nat.le_refl _
  | ended => simp [Stage.level]
  | settled => exact Nat.le_refl _

variable (deps succeeds) in
theorem advance_level (σ : T → Stage) (t : T) : 1 ≤ (advance deps succeeds σ t).level := by
  unfold advance
  cases σ t with
  | fresh => simp only; split <;> simp [Stage.level]
  | waiting => simp only; split <;> simp [Stage.level]
  | started => simp [Stage.level]
  | ended => simp [Stage.level]
  | settled => simp [Stage.level]

theorem advance_ready {σ : T → Stage} {t : T} (ready : Ready deps succeeds σ t) :
    2 ≤ (advance deps succeeds σ t).level := by
  unfold advance
  cases σ t with
  | fresh => simp [ready, Stage.level]
  | waiting => simp [ready, Stage.level]
  | started => simp [Stage.level]
  | ended => simp [Stage.level]
  | settled => simp [Stage.level]

variable (deps succeeds) in
theorem advance_ended {σ : T → Stage} {t : T} (high : 3 ≤ (σ t).level) :
    4 ≤ (advance deps succeeds σ t).level := by
  unfold advance
  cases stage : σ t with
  | ended => simp [Stage.level]
  | settled => simp [Stage.level]
  | fresh => simp [stage, Stage.level] at high
  | waiting => simp [stage, Stage.level] at high
  | started => simp [stage, Stage.level] at high

variable [DecidableEq T]

variable (deps succeeds) in
theorem visit_later (σ : T → Stage) (t : T) : Later σ (visit deps succeeds σ t) := by
  intro u
  by_cases same : u = t
  · subst same
    simpa [visit] using advance_later deps succeeds σ u
  · simp [visit, same]

variable (deps succeeds) in
theorem visits_later (σ : T → Stage) (order : List T) :
    Later σ (after (visit deps succeeds) σ order) :=
  after_invariant (fun σ' t later => later_trans later (visit_later deps succeeds σ' t))
    (later_refl σ) order

variable (deps succeeds) in
theorem round_later (σ : T → Stage) (order : List T) : Later σ (round deps succeeds σ order) :=
  later_trans (visits_later deps succeeds σ order) (finish_later _)

variable (deps succeeds) in
theorem rounds_later (σ : T → Stage) (orders : List (List T)) :
    Later σ (after (round deps succeeds) σ orders) :=
  after_invariant (fun σ' order later => later_trans later (round_later deps succeeds σ' order))
    (later_refl σ) orders

variable (deps succeeds) in
theorem visited (σ : T → Stage) {order : List T} {t : T} (member : t ∈ order) :
    ∃ σ', Later σ σ' ∧ (advance deps succeeds σ' t).level ≤
      (after (visit deps succeeds) σ order t).level := by
  obtain ⟨before, rest, rfl⟩ := List.append_of_mem member
  refine ⟨after (visit deps succeeds) σ before, visits_later deps succeeds σ before, ?_⟩
  rw [after_append, after_cons]
  have onwards := visits_later deps succeeds
    (visit deps succeeds (after (visit deps succeeds) σ before) t) rest t
  simpa [visit] using onwards

variable (deps succeeds) in
theorem round_visited (σ : T → Stage) {order : List T} {t : T} (member : t ∈ order) :
    1 ≤ (round deps succeeds σ order t).level := by
  obtain ⟨σ', _, reached⟩ := visited deps succeeds σ member
  exact Nat.le_trans (advance_level deps succeeds σ' t) (Nat.le_trans reached (finish_later _ t))

theorem round_ready {σ : T → Stage} {order : List T} {t : T} (member : t ∈ order)
    (ready : Ready deps succeeds σ t) : 3 ≤ (round deps succeeds σ order t).level := by
  obtain ⟨σ', later, reached⟩ := visited deps succeeds σ member
  exact finish_level (Nat.le_trans (advance_ready (ready_kept later ready)) reached)

variable (deps succeeds) in
theorem round_ended {σ : T → Stage} {order : List T} {t : T} (member : t ∈ order)
    (high : 3 ≤ (σ t).level) : round deps succeeds σ order t = .settled := by
  obtain ⟨σ', later, reached⟩ := visited deps succeeds σ member
  have settled := advance_ended deps succeeds (Nat.le_trans high (later t))
  exact settled_of_level (Nat.le_trans (Nat.le_trans settled reached) (finish_later _ t))

/-! ## Only ready tasks are started -/

theorem visit_sound {σ : T → Stage} (sound : Sound deps succeeds σ) (t : T) :
    Sound deps succeeds (visit deps succeeds σ t) := by
  intro u high
  apply ready_kept (visit_later deps succeeds σ t)
  by_cases same : u = t
  · subst same
    by_cases before : 2 ≤ (σ u).level
    · exact sound u before
    · -- only a ready task goes up from a low level
      by_contra notReady
      have low : (advance deps succeeds σ u).level = 1 := by
        unfold advance
        cases stage : σ u <;> simp_all [Stage.level]
      simp [visit, low] at high
  · simp only [visit, Function.update_of_ne same] at high
    exact sound u high

theorem round_sound {σ : T → Stage} (sound : Sound deps succeeds σ) (order : List T) :
    Sound deps succeeds (round deps succeeds σ order) := by
  have kept : ∀ (σ' : T → Stage) (t : T), Sound deps succeeds σ' →
      Sound deps succeeds (visit deps succeeds σ' t) := fun σ' t holds => visit_sound holds t
  have visited := after_invariant kept sound order
  intro t high
  exact ready_kept (finish_later _) (visited t (finish_level_low high))

theorem rounds_sound {σ : T → Stage} (sound : Sound deps succeeds σ) (orders : List (List T)) :
    Sound deps succeeds (after (round deps succeeds) σ orders) := by
  have kept : ∀ (σ' : T → Stage) (order : List T), Sound deps succeeds σ' →
      Sound deps succeeds (round deps succeeds σ' order) :=
    fun σ' order holds => round_sound holds order
  exact after_invariant kept sound orders

omit [DecidableEq T] in
theorem needs_succeed {σ : T → Stage} (sound : Sound deps succeeds σ) {t u : T}
    (high : 2 ≤ (σ t).level) (needs : TransGen (Needs deps) t u) :
    σ u = .settled ∧ succeeds u = true := by
  induction needs with
  | single member => exact sound t high _ member
  | @tail middle last _ member ih =>
      have settled : 2 ≤ (σ middle).level := by
        rw [ih.1]
        decide
      exact sound middle settled last member

/-! ## Enough rounds -/

theorem settled_after {S : Finset T} {depth : T → Nat}
    (closed : ∀ t ∈ S, ∀ d ∈ deps t, d ∈ S) (falls : ∀ t ∈ S, ∀ d ∈ deps t, depth d < depth t)
    {orders : List (List T)} (complete : ∀ order ∈ orders, ∀ t ∈ S, t ∈ order)
    {σ : T → Stage} {t : T} (inS : t ∈ S)
    (success : ∀ u, TransGen (Needs deps) t u → succeeds u = true)
    (enough : 2 * (depth t + 1) ≤ orders.length) :
    after (round deps succeeds) σ orders t = .settled := by
  induction level : depth t using Nat.strong_induction_on generalizing t orders with
  | _ n ih =>
      rw [level] at enough
      obtain ⟨first, start, finish, rest, rfl, length⟩ : ∃ first start finish rest,
          orders = first ++ start :: finish :: rest ∧ first.length = 2 * n := by
        match tail : orders.drop (2 * n) with
        | [] =>
            have short := congrArg List.length tail
            simp only [List.length_drop, List.length_nil] at short
            omega
        | [_] =>
            have short := congrArg List.length tail
            simp only [List.length_drop, List.length_singleton] at short
            omega
        | start :: finish :: rest =>
            refine ⟨orders.take (2 * n), start, finish, rest, ?_, ?_⟩
            · rw [← tail, List.take_append_drop]
            · rw [List.length_take]
              omega
      have ready : Ready deps succeeds (after (round deps succeeds) σ first) t := by
        intro d member
        have lower := falls t inS d member
        rw [level] at lower
        refine ⟨?_, success d (.single member)⟩
        exact ih (depth d) lower (fun order early => complete order (by simp [early]))
          (closed t inS d member) (fun u needs => success u (.head member needs))
          (by omega) rfl
      have started := round_ready (complete start (by simp) t inS) ready
      have settled := round_ended deps succeeds (complete finish (by simp) t inS) started
      rw [after_append, after_cons, after_cons]
      have stays := rounds_later deps succeeds
        (round deps succeeds (round deps succeeds (after (round deps succeeds) σ first) start)
          finish) rest t
      rw [settled] at stays
      exact settled_of_level stays

section Depth
open Classical

noncomputable def depth (deps : T → List T) (S : Finset T) (t : T) : Nat :=
  (S.filter fun u => TransGen (Needs deps) t u).card

variable {S : Finset T} (acyclic : ∀ t ∈ S, ¬ TransGen (Needs deps) t t)
include acyclic

omit [DecidableEq T] in
theorem depth_falls (closed : ∀ t ∈ S, ∀ d ∈ deps t, d ∈ S) (t : T) (inS : t ∈ S) (d : T)
    (member : d ∈ deps t) : depth deps S d < depth deps S t := by
  apply Finset.card_lt_card
  rw [Finset.ssubset_iff_of_subset]
  · refine ⟨d, Finset.mem_filter.mpr ⟨closed t inS d member, .single member⟩, ?_⟩
    intro again
    exact acyclic d (closed t inS d member) (Finset.mem_filter.mp again).2
  · intro u below
    obtain ⟨inU, needs⟩ := Finset.mem_filter.mp below
    exact Finset.mem_filter.mpr ⟨inU, .head member needs⟩

omit [DecidableEq T] in
theorem depth_lt_card (t : T) (inS : t ∈ S) : depth deps S t < S.card := by
  apply Finset.card_lt_card
  rw [Finset.ssubset_iff_of_subset (Finset.filter_subset _ S)]
  refine ⟨t, inS, ?_⟩
  intro again
  exact acyclic t inS (Finset.mem_filter.mp again).2

end Depth

variable (succeeds) in
theorem settled_or_waiting {S : Finset T} (closed : ∀ t ∈ S, ∀ d ∈ deps t, d ∈ S)
    (acyclic : ∀ t ∈ S, ¬ TransGen (Needs deps) t t) {orders : List (List T)}
    (complete : ∀ order ∈ orders, ∀ t ∈ S, t ∈ order) (enough : 2 * S.card ≤ orders.length)
    {t : T} (inS : t ∈ S) :
    ((∀ u, TransGen (Needs deps) t u → succeeds u = true) →
      after (round deps succeeds) (fun _ => .fresh) orders t = .settled) ∧
    ((∃ u, TransGen (Needs deps) t u ∧ succeeds u = false) →
      after (round deps succeeds) (fun _ => .fresh) orders t = .waiting) := by
  constructor
  · intro success
    have small := depth_lt_card acyclic t inS
    exact settled_after closed (depth_falls acyclic closed) complete inS success (by omega)
  · rintro ⟨u, needs, fails⟩
    have sound : Sound deps succeeds (after (round deps succeeds) (fun _ => .fresh) orders) :=
      rounds_sound (fun _ high => by simp [Stage.level] at high) orders
    have low : ¬ 2 ≤ (after (round deps succeeds) (fun _ => .fresh) orders t).level := by
      intro high
      have success := (needs_succeed sound high needs).2
      rw [fails] at success
      cases success
    -- there is at least one round, and it visits the task
    have seen : 1 ≤ (after (round deps succeeds) (fun _ => .fresh) orders t).level := by
      have nonempty : 0 < S.card := Finset.card_pos.mpr ⟨t, inS⟩
      match orders with
      | [] =>
          rw [List.length_nil] at enough
          omega
      | order :: rest =>
          have first := round_visited deps succeeds (fun _ => .fresh)
            (complete order (by simp) t inS)
          exact Nat.le_trans first (rounds_later deps succeeds _ rest t)
    cases stage : after (round deps succeeds) (fun _ => .fresh) orders t <;>
      simp_all [Stage.level]

end Progress

end CloudOS.Lib.StagedRounds
