import Mathlib.Data.Multiset.Basic
import Mathlib.Logic.Relation

/-!
# Passes that stop at the first task that does not fit

Tasks wait to be placed, and a configuration says what is still free.  A pass
takes one waiting task after another, in any order, places it and goes on, or
puts it back and stops.  It never leaves a task that would have fitted exactly
when no placements lead to a mixed state, where one waiting task fits and
another does not.
-/

set_option autoImplicit false

namespace CloudOS.Lib.GreedyPasses

variable {T C : Type} (place : C → T → C → Prop)

def Fits (c : C) (t : T) : Prop := ∃ c', place c t c'

inductive Placed : Multiset T × C → Multiset T × C → Prop
  | one {t : T} {waiting : Multiset T} {c c' : C} (here : place c t c') :
      Placed (t ::ₘ waiting, c) (waiting, c')

def Reaches : Multiset T × C → Multiset T × C → Prop := Relation.ReflTransGen (Placed place)

inductive Pass : Multiset T → C → Multiset T → C → Prop
  | empty (c : C) : Pass 0 c 0 c
  | placed {t : T} {waiting left : Multiset T} {c c' c'' : C} (here : place c t c')
      (rest : Pass waiting c' left c'') : Pass (t ::ₘ waiting) c left c''
  | stopped {t : T} {waiting : Multiset T} {c : C} (full : ¬ Fits place c t) :
      Pass (t ::ₘ waiting) c (t ::ₘ waiting) c

def NoneFits (waiting : Multiset T) (c : C) : Prop := ∀ t ∈ waiting, ¬ Fits place c t

/-- Wherever one waiting task does not fit, none does. -/
def NeverMixed (waiting : Multiset T) (c : C) : Prop :=
  ∀ left c', Reaches place (waiting, c) (left, c') → (∃ t ∈ left, ¬ Fits place c' t) →
    NoneFits place left c'

variable {place}

theorem Pass.of_reaches {start reached : Multiset T × C} (reaches : Reaches place start reached)
    {left : Multiset T} {c : C} (pass : Pass place reached.1 reached.2 left c) :
    Pass place start.1 start.2 left c := by
  induction reaches using Relation.ReflTransGen.head_induction_on with
  | refl => exact pass
  | head first _ ih =>
      cases first with
      | one here => exact .placed here ih

theorem NeverMixed.after {t : T} {waiting : Multiset T} {c c' : C}
    (never : NeverMixed place (t ::ₘ waiting) c) (here : place c t c') :
    NeverMixed place waiting c' :=
  fun left c'' reaches => never left c'' (.head (.one here) reaches)

theorem Pass.noneFits {waiting left : Multiset T} {c c' : C} (pass : Pass place waiting c left c')
    (never : NeverMixed place waiting c) : NoneFits place left c' := by
  induction pass with
  | empty c => exact fun t member => absurd member (Multiset.notMem_zero t)
  | placed here _ ih => exact ih (never.after here)
  | stopped full => exact never _ _ .refl ⟨_, Multiset.mem_cons_self _ _, full⟩

theorem passes_noneFit_iff (waiting : Multiset T) (c : C) :
    (∀ left c', Pass place waiting c left c' → NoneFits place left c') ↔
      NeverMixed place waiting c := by
  constructor
  · intro all left c' reaches misfit
    obtain ⟨t, member, full⟩ := misfit
    obtain ⟨others, isLeft⟩ := Multiset.exists_cons_of_mem member
    subst isLeft
    exact all _ _ (Pass.of_reaches reaches (.stopped full))
  · intro never left c' pass
    exact pass.noneFits never

theorem Reaches.subset {start reached : Multiset T × C} (reaches : Reaches place start reached) :
    reached.1 ⊆ start.1 := by
  induction reaches with
  | refl => exact Multiset.Subset.refl _
  | tail _ last ih =>
      cases last with
      | one here => exact fun t member => ih (Multiset.mem_cons_of_mem member)

theorem neverMixed_of_alike {waiting : Multiset T}
    (alike : ∀ c, ∀ t ∈ waiting, ∀ u ∈ waiting, Fits place c t → Fits place c u) (c : C) :
    NeverMixed place waiting c := by
  rintro left c' reaches ⟨t, member, full⟩ u other fits
  exact full (alike c' u (reaches.subset other) t (reaches.subset member) fits)

end CloudOS.Lib.GreedyPasses
