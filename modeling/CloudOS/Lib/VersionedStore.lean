import Mathlib.Logic.Function.Basic

/-!
# A store with optimistic concurrency

Each cell carries the version at which it was last written, and every write
takes a version the store has never used.  A reader that later finds the
version it read therefore finds the value it read: `Remembers` is that
knowledge, and `remembers_kept` says that no activity of others destroys it.
-/

set_option autoImplicit false

namespace CloudOS.Lib.VersionedStore

structure Versioned (V : Type) where
  version : Nat
  value : V

/-- `next` is above every version in use, so it is fresh. -/
structure Store (K V : Type) where
  cell : K → Option (Versioned V)
  next : Nat
  version_lt : ∀ key entry, cell key = some entry → entry.version < next

variable {K V : Type}

def Store.empty : Store K V := ⟨fun _ => none, 0, by simp⟩

/-! ## How a store moves on -/

/-- Every cell is as it was, or gone, or written with a version that was still
unused. -/
def Store.Advances (s s' : Store K V) : Prop :=
  s.next ≤ s'.next ∧
    ∀ key, s'.cell key = s.cell key ∨
      ∀ entry, s'.cell key = some entry → s.next ≤ entry.version

theorem advances_refl (s : Store K V) : s.Advances s :=
  ⟨Nat.le_refl _, fun _ => Or.inl rfl⟩

theorem advances_trans {a b c : Store K V} (first : a.Advances b)
    (second : b.Advances c) : a.Advances c := by
  refine ⟨Nat.le_trans first.1 second.1, ?_⟩
  intro key
  rcases second.2 key with same | fresh
  · rw [same]
    exact first.2 key
  · exact Or.inr fun entry found => Nat.le_trans first.1 (fresh entry found)

/-! ## What a reader may rely on -/

/-- The version of `entry` has been handed out, and a cell that still shows it
still holds `entry`. -/
def Store.Remembers (s : Store K V) (key : K) (entry : Versioned V) : Prop :=
  entry.version < s.next ∧
    ∀ current, s.cell key = some current → current.version = entry.version →
      current = entry

theorem remembers_of_cell (s : Store K V) {key : K} {entry : Versioned V}
    (found : s.cell key = some entry) : s.Remembers key entry := by
  refine ⟨s.version_lt key entry found, ?_⟩
  intro current again _
  exact Option.some.inj (again.symm.trans found)

theorem remembers_kept {s s' : Store K V} {key : K} {entry : Versioned V}
    (known : s.Remembers key entry) (moved : s.Advances s') :
    s'.Remembers key entry := by
  refine ⟨Nat.lt_of_lt_of_le known.1 moved.1, ?_⟩
  intro current found same
  rcases moved.2 key with unchanged | fresh
  · rw [unchanged] at found
    exact known.2 current found same
  · have late := fresh current found
    have early := known.1
    omega

/-- A version that has left its cell never comes back. -/
theorem live_before {s s' : Store K V} {key : K} {entry : Versioned V}
    (known : s.Remembers key entry) (moved : s.Advances s')
    (live : s'.cell key = some entry) : s.cell key = some entry := by
  rcases moved.2 key with unchanged | fresh
  · rw [← unchanged]
    exact live
  · have late := fresh entry live
    have early := known.1
    omega

/-! ## Writes -/

section Writes
variable [DecidableEq K]

def Store.put (s : Store K V) (key : K) (value : V) : Store K V where
  cell := Function.update s.cell key (some ⟨s.next, value⟩)
  next := s.next + 1
  version_lt := by
    intro other entry found
    by_cases same : other = key
    · subst same
      simp only [Function.update_self, Option.some.injEq] at found
      subst found
      exact Nat.lt_succ_self s.next
    · rw [Function.update_of_ne same] at found
      exact Nat.lt_succ_of_lt (s.version_lt other entry found)

def Store.erase (s : Store K V) (key : K) : Store K V where
  cell := Function.update s.cell key none
  next := s.next
  version_lt := by
    intro other entry found
    by_cases same : other = key
    · subst same
      simp at found
    · rw [Function.update_of_ne same] at found
      exact s.version_lt other entry found

@[simp] theorem put_cell_self (s : Store K V) (key : K) (value : V) :
    (s.put key value).cell key = some ⟨s.next, value⟩ := by
  simp [Store.put]

@[simp] theorem put_cell_of_ne (s : Store K V) {key other : K} (value : V)
    (different : other ≠ key) : (s.put key value).cell other = s.cell other := by
  simp [Store.put, different]

@[simp] theorem erase_cell_self (s : Store K V) (key : K) :
    (s.erase key).cell key = none := by
  simp [Store.erase]

@[simp] theorem erase_cell_of_ne (s : Store K V) {key other : K}
    (different : other ≠ key) : (s.erase key).cell other = s.cell other := by
  simp [Store.erase, different]

theorem cell_of_put {s : Store K V} {key other : K} {value : V} {entry : Versioned V}
    (found : (s.put key value).cell other = some entry) :
    (other = key ∧ entry = ⟨s.next, value⟩) ∨ (other ≠ key ∧ s.cell other = some entry) := by
  by_cases same : other = key
  · subst same
    rw [put_cell_self, Option.some.injEq] at found
    exact Or.inl ⟨rfl, found.symm⟩
  · rw [put_cell_of_ne s value same] at found
    exact Or.inr ⟨same, found⟩

theorem cell_of_erase {s : Store K V} {key other : K} {entry : Versioned V}
    (found : (s.erase key).cell other = some entry) :
    other ≠ key ∧ s.cell other = some entry := by
  by_cases same : other = key
  · subst same
    simp at found
  · rw [erase_cell_of_ne s same] at found
    exact ⟨same, found⟩

theorem put_advances (s : Store K V) (key : K) (value : V) :
    s.Advances (s.put key value) := by
  refine ⟨Nat.le_succ s.next, ?_⟩
  intro other
  by_cases same : other = key
  · subst same
    apply Or.inr
    intro entry found
    simp only [put_cell_self, Option.some.injEq] at found
    subst found
    exact Nat.le_refl _
  · exact Or.inl (put_cell_of_ne s value same)

theorem erase_advances (s : Store K V) (key : K) : s.Advances (s.erase key) := by
  refine ⟨Nat.le_refl _, ?_⟩
  intro other
  by_cases same : other = key
  · subst same
    exact Or.inr fun entry found => by simp at found
  · exact Or.inl (erase_cell_of_ne s same)

end Writes

end CloudOS.Lib.VersionedStore
