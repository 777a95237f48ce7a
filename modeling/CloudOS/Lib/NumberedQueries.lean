import Mathlib.Data.List.Basic

/-!
# Queries with numbered placeholders

A `WHERE` clause that a program puts together piece by piece: each condition refers to its
argument by a number, and the arguments are kept in a list beside the text.  `C` is what a
condition compares, `A` an argument and `R` a row.

The draft that results from such pieces is the numbering of the pairs that were added
(`numbered`), and it means what the pairs mean, whatever arguments follow later.
-/

set_option autoImplicit false

namespace CloudOS.Lib.NumberedQueries

variable {C A R : Type}

/-- `comparison $placeholder` -/
structure Condition (C : Type) where
  comparison : C
  placeholder : Nat
  deriving DecidableEq, Repr

structure Draft (C A : Type) where
  conditions : List (Condition C)
  args : List A
  argIdx : Nat
  deriving DecidableEq, Repr

/-- `query += "AND … $argIdx"; args = append(args, arg); argIdx++` -/
def Draft.and (draft : Draft C A) (comparison : C) (arg : A) : Draft C A :=
  { conditions := draft.conditions ++ [⟨comparison, draft.argIdx⟩]
    args := draft.args ++ [arg]
    argIdx := draft.argIdx + 1 }

def Draft.andGiven (draft : Draft C A) (comparison : C) (arg : Option A) : Draft C A :=
  arg.elim draft (draft.and comparison)

/-- The argument of `$placeholder`; there is no `$0`. -/
def bound (args : List A) (placeholder : Nat) : Option A :=
  if placeholder = 0 then none else args[placeholder - 1]?

section Meaning
variable (meaning : C → A → Option (R → Bool))

/-- A condition has no meaning when its argument is missing or of the wrong kind. -/
def Condition.test (args : List A) (condition : Condition C) : Option (R → Bool) :=
  (bound args condition.placeholder).bind (meaning condition.comparison)

/-- The `WHERE` clause: it is refused as a whole when one of its conditions is. -/
def clause (args : List A) (conditions : List (Condition C)) : Option (R → Bool) :=
  (conditions.mapM (Condition.test meaning args)).map fun tests row => tests.all (· row)

end Meaning

/-! ## What a draft means -/

def numbered (pairs : List (C × A)) : Draft C A :=
  { conditions := pairs.zipIdx.map fun entry => ⟨entry.1.1, entry.2 + 1⟩
    args := pairs.map Prod.snd
    argIdx := pairs.length + 1 }

def given (comparison : C) (arg : Option A) : List (C × A) :=
  arg.toList.map fun value => (comparison, value)

theorem numbered_and (pairs : List (C × A)) (comparison : C) (arg : A) :
    (numbered pairs).and comparison arg = numbered (pairs ++ [(comparison, arg)]) := by
  simp [numbered, Draft.and, List.zipIdx_append]

theorem numbered_andGiven (pairs : List (C × A)) (comparison : C) (arg : Option A) :
    (numbered pairs).andGiven comparison arg = numbered (pairs ++ given comparison arg) := by
  cases arg with
  | none => simp [Draft.andGiven, given]
  | some value => exact numbered_and pairs comparison value

theorem placeholders_numbered (pairs : List (C × A)) :
    (numbered pairs).conditions.map Condition.placeholder = List.range' 1 pairs.length := by
  rw [numbered, List.map_map, ← List.zipIdx_map_snd 1 pairs, List.zipIdx_succ]
  simp [Function.comp_def]

section Meaning
variable (meaning : C → A → Option (R → Bool))

theorem mapM_test_numbered (first pairs : List (C × A)) (more : List A) :
    ((pairs.zipIdx first.length).map fun entry => (⟨entry.1.1, entry.2 + 1⟩ : Condition C)).mapM
        (Condition.test meaning ((first ++ pairs).map Prod.snd ++ more)) =
      pairs.mapM fun pair => meaning pair.1 pair.2 := by
  induction pairs generalizing first with
  | nil => rfl
  | cons pair rest ih =>
      have own : Condition.test meaning ((first ++ pair :: rest).map Prod.snd ++ more)
          ⟨pair.1, first.length + 1⟩ = meaning pair.1 pair.2 := by
        simp [Condition.test, bound]
      have later := ih (first ++ [pair])
      rw [List.length_append, List.length_singleton, List.append_assoc, List.singleton_append]
        at later
      rw [List.zipIdx_cons, List.map_cons, List.mapM_cons, own, later, List.mapM_cons]

theorem mapM_meaning (pairs : List (C × A)) :
    (pairs.mapM fun pair => meaning pair.1 pair.2) =
      if pairs.all fun pair => (meaning pair.1 pair.2).isSome then
        some (pairs.map fun pair => (meaning pair.1 pair.2).getD fun _ => false)
      else none := by
  induction pairs with
  | nil => rfl
  | cons pair rest ih =>
      rw [List.mapM_cons, ih, List.all_cons, List.map_cons]
      cases meaning pair.1 pair.2 with
      | none => rfl
      | some test =>
          simp only [Option.isSome_some, Bool.true_and, Option.getD_some]
          split <;> rfl

theorem clause_numbered (pairs : List (C × A)) (more : List A) :
    clause meaning ((numbered pairs).args ++ more) (numbered pairs).conditions =
      if pairs.all fun pair => (meaning pair.1 pair.2).isSome then
        some fun row => pairs.all fun pair => (meaning pair.1 pair.2).any (· row)
      else none := by
  have tests := mapM_test_numbered meaning [] pairs more
  rw [mapM_meaning] at tests
  rw [clause, numbered]
  simp only [List.nil_append, List.length_nil] at tests
  rw [tests]
  split
  next =>
      simp only [Option.map_some, List.all_map, Option.some.injEq]
      funext row
      congr 1
      funext pair
      rw [Function.comp_apply]
      cases meaning pair.1 pair.2 <;> rfl
  next => rfl

end Meaning

end CloudOS.Lib.NumberedQueries
