import Mathlib.Data.List.Basic

/-!
# Texts with separators

A text that is put together with a separator can be taken apart again at the
first or at the last separator, when the part on that side has none.  Decimal
numbers contain no separators, and are read back uniquely.
-/

set_option autoImplicit false

namespace CloudOS.Lib.Separators

theorem append_cons_inj_first {α : Type} {sep : α} {a a' r r' : List α} (first : sep ∉ a)
    (first' : sep ∉ a') (same : a ++ sep :: r = a' ++ sep :: r') : a = a' ∧ r = r' := by
  induction a generalizing a' with
  | nil =>
      cases a' with
      | nil => exact ⟨rfl, (List.cons.inj same).2⟩
      | cons c a' =>
          have head : sep = c := (List.cons.inj same).1
          simp [head] at first'
  | cons c a ih =>
      cases a' with
      | nil =>
          have head : c = sep := (List.cons.inj same).1
          simp [head] at first
      | cons c' a' =>
          obtain ⟨rfl, rest⟩ := List.cons.inj same
          obtain ⟨rfl, tails⟩ := ih (fun member => first (List.mem_cons_of_mem c member))
            (fun member => first' (List.mem_cons_of_mem c member)) rest
          exact ⟨rfl, tails⟩

theorem append_cons_inj_last {α : Type} {sep : α} {a a' r r' : List α} (last : sep ∉ r)
    (last' : sep ∉ r') (same : a ++ sep :: r = a' ++ sep :: r') : a = a' ∧ r = r' := by
  have reversed : r.reverse ++ sep :: a.reverse = r'.reverse ++ sep :: a'.reverse := by
    simpa using congrArg List.reverse same
  obtain ⟨tails, heads⟩ := append_cons_inj_first (by simpa using last) (by simpa using last') reversed
  exact ⟨List.reverse_injective heads, List.reverse_injective tails⟩

theorem notMem_digits {c : Char} (other : c.isDigit = false) (n : Nat) :
    c ∉ (toString n).toList := by
  intro member
  rw [Nat.toString_eq_repr, Nat.toList_repr] at member
  have digit := Nat.isDigit_of_mem_toDigits (by decide) (by decide) member
  rw [other] at digit
  cases digit

theorem toString_injective {n m : Nat} (same : (toString n).toList = (toString m).toList) :
    n = m := by
  rw [Nat.toString_eq_repr, Nat.toString_eq_repr, Nat.toList_repr, Nat.toList_repr] at same
  rw [← Nat.ofDigitChars_ten_toDigits (n := n), same, Nat.ofDigitChars_ten_toDigits]

theorem intToString_injective {i j : Int} (same : toString i = toString j) : i = j := by
  have lists := congrArg String.toList same
  have sign : ∀ n : Nat, (toString (Int.negSucc n)).toList = '-' :: (toString (n + 1)).toList :=
    fun n => String.toList_append
  have noSign : ∀ n : Nat, '-' ∉ (toString n).toList := notMem_digits (by decide)
  cases i with
  | ofNat n =>
      cases j with
      | ofNat m => exact congrArg Int.ofNat (toString_injective lists)
      | negSucc m =>
          rw [sign] at lists
          exact absurd (lists ▸ List.mem_cons_self) (noSign n)
  | negSucc n =>
      cases j with
      | ofNat m =>
          rw [sign] at lists
          exact absurd (lists ▸ List.mem_cons_self) (noSign m)
      | negSucc m =>
          rw [sign, sign, List.cons.injEq] at lists
          have next : n + 1 = m + 1 := toString_injective lists.2
          exact congrArg Int.negSucc (Nat.succ.inj next)

end CloudOS.Lib.Separators
