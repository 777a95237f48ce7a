import Mathlib.Data.List.Basic
import Mathlib.Order.Lattice

/-!
# Limits on attempts in nested classes

Attempts fall into inner classes, and these into outer ones.  An attempt is
admitted when both of its classes have had fewer attempts than their limits;
whether an attempt is admitted or not, it counts.  So the attempts that come
too often for an inner class use up the limit of the outer one.

The first attempts of an outer class, up to its limit, decide everything: of
these an inner class has as many admitted as its limit allows, and of the later
ones none is.
-/

set_option autoImplicit false

namespace CloudOS.Lib.NestedLimits

variable {A I O : Type} [DecidableEq I] [DecidableEq O]

section Definitions
variable (inner : A → I) (outer : A → O) (perInner perOuter : Nat)

def attemptsIn {C : Type} [DecidableEq C] (classOf : A → C) (c : C) (attempts : List A) : Nat :=
  attempts.countP fun a => classOf a = c

def HasRoom (attempts : List A) (a : A) : Prop :=
  attemptsIn inner (inner a) attempts < perInner ∧ attemptsIn outer (outer a) attempts < perOuter

/-- The second list is what was admitted of the first. -/
inductive Limited : List A → List A → Prop
  | nil : Limited [] []
  | accept {attempts admitted : List A} {a : A} (before : Limited attempts admitted)
      (room : HasRoom inner outer perInner perOuter attempts a) :
      Limited (attempts ++ [a]) (admitted ++ [a])
  | deny {attempts admitted : List A} {a : A} (before : Limited attempts admitted)
      (full : ¬ HasRoom inner outer perInner perOuter attempts a) :
      Limited (attempts ++ [a]) admitted

/-- The attempts of an outer class up to its limit. -/
def firsts (o : O) (attempts : List A) : List A :=
  (attempts.filter fun a => outer a = o).take perOuter

end Definitions

section Counting
variable {C : Type} [DecidableEq C] {classOf : A → C} {c : C}

@[simp] theorem attemptsIn_snoc_self (attempts : List A) (a : A) :
    attemptsIn classOf (classOf a) (attempts ++ [a]) = attemptsIn classOf (classOf a) attempts + 1 := by
  simp [attemptsIn]

theorem attemptsIn_snoc_of_ne {a : A} (other : classOf a ≠ c) (attempts : List A) :
    attemptsIn classOf c (attempts ++ [a]) = attemptsIn classOf c attempts := by
  simp [attemptsIn, other]

end Counting

section Firsts
variable {inner : A → I} {outer : A → O} {perInner perOuter : Nat} {o : O} {attempts : List A}
  {a : A}

theorem length_filter_outer (o : O) (attempts : List A) :
    (attempts.filter fun a => outer a = o).length = attemptsIn outer o attempts :=
  List.countP_eq_length_filter.symm

theorem length_firsts (o : O) (attempts : List A) :
    (firsts outer perOuter o attempts).length = min perOuter (attemptsIn outer o attempts) := by
  rw [firsts, List.length_take, length_filter_outer]

theorem firsts_of_room (room : attemptsIn outer o attempts < perOuter) :
    firsts outer perOuter o attempts = attempts.filter fun a => outer a = o := by
  apply List.take_of_length_le
  rw [length_filter_outer]
  exact room.le

theorem firsts_snoc_cases (outer : A → O) (perOuter : Nat) (o : O) (attempts : List A) (a : A) :
    (outer a = o ∧ attemptsIn outer o attempts < perOuter ∧
        firsts outer perOuter o (attempts ++ [a]) = firsts outer perOuter o attempts ++ [a]) ∨
      ((outer a = o → perOuter ≤ attemptsIn outer o attempts) ∧
        firsts outer perOuter o (attempts ++ [a]) = firsts outer perOuter o attempts) := by
  by_cases isOuter : outer a = o
  · have snoc : (attempts ++ [a]).filter (fun b => outer b = o) =
        attempts.filter (fun b => outer b = o) ++ [a] := by
      simp [isOuter]
    by_cases room : attemptsIn outer o attempts < perOuter
    · refine .inl ⟨isOuter, room, ?_⟩
      rw [firsts_of_room room, firsts, snoc]
      apply List.take_of_length_le
      rw [List.length_append, length_filter_outer, List.length_singleton]
      exact room
    · refine .inr ⟨fun _ => not_lt.mp room, ?_⟩
      rw [firsts, snoc]
      apply List.take_append_of_le_length
      rw [length_filter_outer]
      exact not_lt.mp room
  · refine .inr ⟨fun isOuter' => absurd isOuter' isOuter, ?_⟩
    simp [firsts, isOuter]

theorem firsts_snoc_of_room (room : attemptsIn outer (outer a) attempts < perOuter) :
    firsts outer perOuter (outer a) (attempts ++ [a]) =
      firsts outer perOuter (outer a) attempts ++ [a] := by
  rcases firsts_snoc_cases outer perOuter (outer a) attempts a with ⟨_, _, snoc⟩ | ⟨full, _⟩
  · exact snoc
  · exact absurd (full rfl) (not_le.mpr room)

theorem attemptsIn_firsts (nested : ∀ b, inner b = inner a → outer b = outer a)
    (room : attemptsIn outer (outer a) attempts < perOuter) :
    attemptsIn inner (inner a) (firsts outer perOuter (outer a) attempts) =
      attemptsIn inner (inner a) attempts := by
  rw [firsts_of_room room, attemptsIn, List.countP_filter]
  apply List.countP_congr
  intro b _
  simp only [Bool.and_eq_true, decide_eq_true_eq, and_iff_left_iff_imp]
  exact nested b

end Firsts

section Limited
variable {inner : A → I} {outer : A → O} {perInner perOuter : Nat}
  (nested : ∀ a b, inner a = inner b → outer a = outer b) {attempts admitted : List A}
include nested

theorem perInner_le_of_full {a : A} (full : ¬ HasRoom inner outer perInner perOuter attempts a)
    (room : attemptsIn outer (outer a) attempts < perOuter) :
    perInner ≤ attemptsIn inner (inner a) (firsts outer perOuter (outer a) attempts) := by
  rw [attemptsIn_firsts (fun b => nested b a) room]
  by_contra few
  exact full ⟨not_le.mp few, room⟩

theorem Limited.inner_admitted (limited : Limited inner outer perInner perOuter attempts admitted)
    (c : A) :
    attemptsIn inner (inner c) admitted =
      min perInner (attemptsIn inner (inner c) (firsts outer perOuter (outer c) attempts)) := by
  induction limited with
  | nil => simp [attemptsIn, firsts]
  | @accept attempts admitted a _ room ih =>
      by_cases same : inner a = inner c
      · have counted := attemptsIn_firsts (fun b => nested b a) room.2
        have few := room.1
        rw [← same, ← nested a c same] at ih ⊢
        rw [firsts_snoc_of_room room.2, attemptsIn_snoc_self, attemptsIn_snoc_self, ih, counted]
        omega
      · rw [attemptsIn_snoc_of_ne same, ih]
        rcases firsts_snoc_cases outer perOuter (outer c) attempts a with ⟨_, _, snoc⟩ | ⟨_, snoc⟩
        · rw [snoc, attemptsIn_snoc_of_ne same]
        · rw [snoc]
  | @deny attempts admitted a _ full ih =>
      rw [ih]
      rcases firsts_snoc_cases outer perOuter (outer c) attempts a with ⟨isOuter, room, snoc⟩ | ⟨_, snoc⟩
      · rw [snoc]
        by_cases same : inner a = inner c
        · rw [← isOuter] at room ⊢
          have many := perInner_le_of_full nested full room
          rw [← same, attemptsIn_snoc_self]
          omega
        · rw [attemptsIn_snoc_of_ne same]
      · rw [snoc]

theorem Limited.outer_admitted (limited : Limited inner outer perInner perOuter attempts admitted)
    (o : O) :
    attemptsIn outer o admitted ≤ (firsts outer perOuter o attempts).length ∧
      (attemptsIn outer o admitted = (firsts outer perOuter o attempts).length ↔
        ∀ i, attemptsIn inner i (firsts outer perOuter o attempts) ≤ perInner) := by
  induction limited with
  | nil => simp [attemptsIn, firsts]
  | @accept attempts admitted a _ room ih =>
      by_cases isOuter : outer a = o
      · subst isOuter
        have counted := attemptsIn_firsts (fun b => nested b a) room.2
        have few := room.1
        rw [← counted] at few
        rw [firsts_snoc_of_room room.2, attemptsIn_snoc_self, List.length_append,
          List.length_singleton]
        refine ⟨by omega, ?_⟩
        rw [Nat.add_right_cancel_iff, ih.2]
        constructor
        · intro all i
          by_cases same : inner a = i
          · rw [← same, attemptsIn_snoc_self]
            exact few
          · rw [attemptsIn_snoc_of_ne same]
            exact all i
        · intro all i
          refine le_trans ?_ (all i)
          exact List.Sublist.countP_le (List.sublist_append_left _ _)
      · rw [attemptsIn_snoc_of_ne isOuter]
        rcases firsts_snoc_cases outer perOuter o attempts a with ⟨isOuter', _, _⟩ | ⟨_, snoc⟩
        · exact absurd isOuter' isOuter
        · rw [snoc]
          exact ih
  | @deny attempts admitted a _ full ih =>
      rcases firsts_snoc_cases outer perOuter o attempts a with ⟨isOuter, room, snoc⟩ | ⟨_, snoc⟩
      · subst isOuter
        have many := perInner_le_of_full nested full room
        rw [snoc, List.length_append, List.length_singleton]
        refine ⟨by omega, iff_of_false (by omega) ?_⟩
        intro all
        have bound := all (inner a)
        rw [attemptsIn_snoc_self] at bound
        omega
      · rw [snoc]
        exact ih

/-- A denied attempt finds a limit's worth of admitted ones in one of its
classes exactly when the outer class has room, or the inner class had a limit's
worth of the first attempts, or no inner class had more than that of them. -/
theorem Limited.denied_iff (limited : Limited inner outer perInner perOuter attempts admitted)
    (a : A) :
    (¬ HasRoom inner outer perInner perOuter attempts a →
        perInner ≤ attemptsIn inner (inner a) admitted ∨
          perOuter ≤ attemptsIn outer (outer a) admitted) ↔
      attemptsIn outer (outer a) attempts < perOuter ∨
        perInner ≤ attemptsIn inner (inner a) (firsts outer perOuter (outer a) attempts) ∨
        ∀ i, attemptsIn inner i (firsts outer perOuter (outer a) attempts) ≤ perInner := by
  have ofInner := limited.inner_admitted nested a
  obtain ⟨atMost, all⟩ := limited.outer_admitted nested (outer a)
  by_cases room : attemptsIn outer (outer a) attempts < perOuter
  · refine iff_of_true ?_ (.inl room)
    intro full
    have many := perInner_le_of_full nested full room
    left
    omega
  · have full : ¬ HasRoom inner outer perInner perOuter attempts a := fun has => room has.2
    have length := @length_firsts _ _ _ outer perOuter (outer a) attempts
    have exact_limit : (firsts outer perOuter (outer a) attempts).length = perOuter := by omega
    rw [← all, exact_limit]
    rw [exact_limit] at atMost
    simp only [full, not_false_eq_true, true_imp_iff, room, false_or]
    constructor
    · rintro (many | many)
      · left
        omega
      · right
        omega
    · rintro (many | many)
      · left
        omega
      · right
        omega

end Limited

end CloudOS.Lib.NestedLimits
