import CloudOS.Lib.History
import Mathlib.Logic.Function.Basic

/-!
# Operations on one part of a store

A store has a value under each key.  An operation is local to a key when what it
answers and what it leaves under the key depend on nothing but the value there,
and when every other value stays.  Operations put together from local ones are
local, and a party whose operations are local to its own key sees nothing of the
operations of others.
-/

set_option autoImplicit false

namespace CloudOS.Lib.LocalOps

open CloudOS.Lib.History

section Rules
variable {K : Type} {V : K → Type} {α β : Type} {k : K}

structure Local (k : K) (op : ((k : K) → V k) → α × ((k : K) → V k)) : Prop where
  reads : ∀ {s s' : (k : K) → V k}, s k = s' k →
    (op s).1 = (op s').1 ∧ (op s).2 k = (op s').2 k
  writes : ∀ (s : (k : K) → V k) {other : K}, other ≠ k → (op s).2 other = s other

theorem Local.answer (k : K) (a : α) : Local k (fun s : (k : K) → V k => (a, s)) :=
  ⟨fun same => ⟨rfl, same⟩, fun _ _ _ => rfl⟩

theorem Local.set [DecidableEq K] (k : K) (a : α) (v : V k) :
    Local k (fun s : (k : K) → V k => (a, Function.update s k v)) := by
  constructor
  · intro s s' _
    simp
  · intro s other apart
    exact Function.update_of_ne apart v s

theorem Local.look {f : ((k : K) → V k) → α}
    (only : ∀ {s s' : (k : K) → V k}, s k = s' k → f s = f s') : Local k (fun s => (f s, s)) :=
  ⟨fun same => ⟨only same, same⟩, fun _ _ _ => rfl⟩

theorem Local.map {op : ((k : K) → V k) → α × ((k : K) → V k)} (isLocal : Local k op)
    (f : α → β) : Local k (fun s => (f (op s).1, (op s).2)) := by
  constructor
  · intro s s' same
    obtain ⟨answers, left⟩ := isLocal.reads same
    exact ⟨congrArg f answers, left⟩
  · intro s other apart
    exact isLocal.writes s apart

theorem Local.read {get : ((k : K) → V k) → β} {next : β → ((k : K) → V k) → α × ((k : K) → V k)}
    (only : ∀ {s s' : (k : K) → V k}, s k = s' k → get s = get s')
    (rest : ∀ s, Local k (next (get s))) : Local k (fun s => next (get s) s) := by
  constructor
  · intro s s' same
    rw [← only same]
    exact (rest s).reads same
  · intro s other apart
    exact (rest s).writes s apart

end Rules

/-! ## Runs -/

section Runs
variable {K : Type} [DecidableEq K] {V : K → Type} {A O : Type}
  {run : A → ((k : K) → V k) → O × ((k : K) → V k)} {key : A → Option K}

theorem observed_own (isLocal : ∀ op k, key op = some k → Local k (run op))
    (idle : ∀ op s, key op = none → (run op s).2 = s) (k : K) (s : (k : K) → V k)
    (ops : List A) :
    observed (fun s op => some (run op s).1) (fun op => decide (key op = some k))
        (fun s op => (run op s).2) s ops =
      observed (fun s op => some (run op s).1) (fun op => decide (key op = some k))
        (fun s op => (run op s).2) s (ops.filter fun op => decide (key op = some k)) := by
  have own_step : ∀ (s s' : (k : K) → V k) op, decide (key op = some k) = true → s k = s' k →
      some (run op s).1 = some (run op s').1 ∧ (run op s).2 k = (run op s').2 k := by
    intro s s' op own same
    obtain ⟨answers, left⟩ := (isLocal op k (of_decide_eq_true own)).reads same
    exact ⟨congrArg some answers, left⟩
  have other_step : ∀ (s s' : (k : K) → V k) op, decide (key op = some k) = false → True →
      s k = s' k → (run op s).2 k = s' k := by
    intro s s' op foreign _ same
    have apart := of_decide_eq_false foreign
    cases at_ : key op with
    | none => rw [idle op s at_, same]
    | some other =>
        have differs : k ≠ other := by
          rintro rfl
          exact apart at_
        rw [(isLocal op other at_).writes s differs, same]
  exact @observed_filter _ _ _ _ _ _ (fun s s' => s k = s' k) (fun _ => True) own_step other_step
    s s rfl ops (fun _ _ => trivial)

end Runs

end CloudOS.Lib.LocalOps
