import Mathlib.Algebra.BigOperators.Group.List.Basic
import Mathlib.Data.List.Basic

/-!
# Dictionaries

A dictionary is the list of its entries in the order in which their keys were
added.  Besides reading and writing there is `sumWhere`, the sum of the values
under the keys that satisfy a condition, and the rule for adding to one value.
-/

set_option autoImplicit false

namespace CloudOS.Lib.Dicts

variable {K V : Type} [DecidableEq K]

/-- A key that is there keeps its place. -/
def setEntry (key : K) (value : V) : List (K × V) → List (K × V)
  | [] => [(key, value)]
  | entry :: rest =>
      if entry.1 = key then (key, value) :: rest else entry :: setEntry key value rest

theorem mem_keys_setEntry {key other : K} {value : V} {entries : List (K × V)}
    (member : other ∈ (setEntry key value entries).map Prod.fst) :
    other = key ∨ other ∈ entries.map Prod.fst := by
  induction entries with
  | nil => exact Or.inl (by simpa [setEntry] using member)
  | cons entry rest ih =>
      unfold setEntry at member
      split at member
      · rcases List.mem_cons.mp member with same | later
        · exact Or.inl same
        · exact Or.inr (List.mem_cons_of_mem _ later)
      · rcases List.mem_cons.mp member with same | later
        · exact Or.inr (same ▸ List.mem_cons_self)
        · rcases ih later with isKey | old
          · exact Or.inl isKey
          · exact Or.inr (List.mem_cons_of_mem _ old)

theorem nodup_setEntry (key : K) (value : V) {entries : List (K × V)}
    (distinct : (entries.map Prod.fst).Nodup) :
    ((setEntry key value entries).map Prod.fst).Nodup := by
  induction entries with
  | nil => simp [setEntry]
  | cons entry rest ih =>
      rw [List.map_cons, List.nodup_cons] at distinct
      unfold setEntry
      split
      next same =>
          rw [List.map_cons, List.nodup_cons, ← same]
          exact distinct
      next other =>
          rw [List.map_cons, List.nodup_cons]
          refine ⟨?_, ih distinct.2⟩
          intro member
          rcases mem_keys_setEntry member with isKey | old
          · exact other isKey
          · exact distinct.1 old

structure Dict (K V : Type) where
  entries : List (K × V)
  distinct : (entries.map Prod.fst).Nodup

namespace Dict

omit [DecidableEq K] in
def empty : Dict K V := ⟨[], List.nodup_nil⟩

def set (d : Dict K V) (key : K) (value : V) : Dict K V :=
  ⟨setEntry key value d.entries, nodup_setEntry key value d.distinct⟩

def get? (d : Dict K V) (key : K) : Option V :=
  (d.entries.find? fun entry => entry.1 = key).map Prod.snd

def getD (d : Dict K V) (key : K) (default : V) : V := (d.get? key).getD default

omit [DecidableEq K] in
def sumWhere [AddMonoid V] (p : K → Bool) (d : Dict K V) : V :=
  ((d.entries.filter fun entry => p entry.1).map Prod.snd).sum

theorem get?_set (d : Dict K V) (key : K) (value : V) (other : K) :
    (d.set key value).get? other = if other = key then some value else d.get? other := by
  obtain ⟨entries, distinct⟩ := d
  show ((setEntry key value entries).find? _).map Prod.snd =
    if other = key then some value else (entries.find? _).map Prod.snd
  clear distinct
  induction entries with
  | nil => by_cases same : other = key <;> simp [setEntry, same, eq_comm]
  | cons entry rest ih =>
      obtain ⟨first, held⟩ := entry
      unfold setEntry
      by_cases here : first = key
      · by_cases same : other = key
        · simp [here, same]
        · simp [here, same, Ne.symm same]
      · by_cases found : first = other
        · have different : other ≠ key := found ▸ here
          simp [found, different]
        · simpa [here, found] using ih

theorem getD_set_self (d : Dict K V) (key : K) (value default : V) :
    (d.set key value).getD key default = value := by
  rw [getD, get?_set, if_pos rfl]
  rfl

theorem getD_set_of_ne (d : Dict K V) {key other : K} (different : other ≠ key)
    (value default : V) : (d.set key value).getD other default = d.getD other default := by
  rw [getD, get?_set, if_neg different]
  rfl

theorem sumWhere_add [AddCommMonoid V] (p : K → Bool) (d : Dict K V) (key : K) (amount : V) :
    (d.set key (d.getD key 0 + amount)).sumWhere p =
      d.sumWhere p + if p key then amount else 0 := by
  obtain ⟨entries, distinct⟩ := d
  show (((setEntry key
      (((entries.find? fun entry => entry.1 = key).map Prod.snd).getD 0 + amount) entries).filter
        fun entry => p entry.1).map Prod.snd).sum =
    ((entries.filter fun entry => p entry.1).map Prod.snd).sum + if p key then amount else 0
  clear distinct
  induction entries with
  | nil => by_cases counts : p key <;> simp [setEntry, counts]
  | cons entry rest ih =>
      obtain ⟨first, held⟩ := entry
      by_cases here : first = key
      · subst here
        by_cases counts : p first
        · simp [setEntry, counts, add_right_comm]
        · simp [setEntry, counts]
      · by_cases counts : p first
        · simp [setEntry, here, counts, ih, add_assoc]
        · simp [setEntry, here, counts, ih]

end Dict

end CloudOS.Lib.Dicts
