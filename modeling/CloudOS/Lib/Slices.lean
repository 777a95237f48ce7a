import Mathlib.Data.List.Basic
import Mathlib.Logic.Function.Basic

/-!
# Slices over shared backing arrays

A slice is a header, the backing array and a length; every slice here starts at
the array's first cell.  `append` writes behind the length while the array has
room and moves to a new array otherwise.  `removeAt` is
`append(s[:i], s[i+1:]...)`: it shifts the rest to the left within the array and
leaves the last cell as it is.  A header taken earlier on the same array sees
both, which the `_cells` lemmas describe.

`SliceMap` is a `map[K][]T` whose slices share no array.
-/

set_option autoImplicit false

namespace CloudOS.Lib.Slices

structure Slice where
  array : Nat
  len : Nat
  deriving DecidableEq, Repr

abbrev Heap (α : Type) := List (List α)

variable {α : Type}

def cells (heap : Heap α) (array : Nat) : List α := heap.getD array []

def contents (heap : Heap α) (s : Slice) : List α := (cells heap s.array).take s.len

structure Slice.Valid (heap : Heap α) (s : Slice) : Prop where
  allocated : s.array < heap.length
  within : s.len ≤ (cells heap s.array).length

/-- `make([]T, 0)` -/
def make (heap : Heap α) : Heap α × Slice := (heap ++ [[]], ⟨heap.length, 0⟩)

/-- `growth` is the capacity a full array of the given length is moved to. -/
def append [Inhabited α] (growth : Nat → Nat) (heap : Heap α) (s : Slice) (x : α) :
    Heap α × Slice :=
  if s.len < (cells heap s.array).length then
    (heap.set s.array ((cells heap s.array).set s.len x), ⟨s.array, s.len + 1⟩)
  else
    (heap ++ [contents heap s ++ x :: List.replicate (growth s.len - (s.len + 1)) default],
      ⟨heap.length, s.len + 1⟩)

/-- Cell `i` is overwritten by the cells up to `len`, each moved one to the left. -/
def shiftLeft (xs : List α) (i len : Nat) : List α :=
  xs.take i ++ (xs.take len).drop (i + 1) ++ xs.drop (len - 1)

def removeAt (heap : Heap α) (s : Slice) (i : Nat) : Heap α × Slice :=
  (heap.set s.array (shiftLeft (cells heap s.array) i s.len), ⟨s.array, s.len - 1⟩)

/-! ## Reading after writing -/

section Heap
variable {heap : Heap α} {array other : Nat} {xs : List α}

theorem cells_set_self (allocated : array < heap.length) :
    cells (heap.set array xs) array = xs := by
  simp [cells, List.getD_eq_getElem?_getD, allocated]

theorem cells_set_of_ne (different : other ≠ array) :
    cells (heap.set array xs) other = cells heap other := by
  simp [cells, List.getD_eq_getElem?_getD, List.getElem?_set_ne (Ne.symm different)]

theorem cells_snoc_of_lt (allocated : other < heap.length) :
    cells (heap ++ [xs]) other = cells heap other := by
  simp [cells, List.getD_eq_getElem?_getD, List.getElem?_append_left allocated]

theorem cells_snoc_self : cells (heap ++ [xs]) heap.length = xs := by
  simp [cells, List.getD_eq_getElem?_getD]

end Heap

section Shift
variable {xs : List α} {i len : Nat}

theorem shiftLeft_length (inside : i < len) (within : len ≤ xs.length) :
    (shiftLeft xs i len).length = xs.length := by
  simp only [shiftLeft, List.length_append, List.length_take, List.length_drop]
  omega

theorem shiftLeft_getElem? (inside : i < len) (within : len ≤ xs.length) (j : Nat) :
    (shiftLeft xs i len)[j]? = if i ≤ j ∧ j + 1 < len then xs[j + 1]? else xs[j]? := by
  have front : (xs.take i).length = i := by
    rw [List.length_take]
    omega
  have moved : ((xs.take len).drop (i + 1)).length = len - (i + 1) := by
    rw [List.length_drop, List.length_take]
    omega
  unfold shiftLeft
  rw [List.append_assoc, List.getElem?_append, front]
  by_cases before : j < i
  · rw [if_pos before, if_neg (by omega), List.getElem?_take_of_lt before]
  · rw [if_neg before, List.getElem?_append, moved]
    by_cases shifted : j + 1 < len
    · rw [if_pos (by omega), if_pos ⟨by omega, shifted⟩, List.getElem?_drop,
        show i + 1 + (j - i) = j + 1 by omega, List.getElem?_take_of_lt shifted]
    · rw [if_neg (by omega), if_neg (by omega), List.getElem?_drop,
        show len - 1 + (j - i - (len - (i + 1))) = j by omega]

theorem take_shiftLeft (inside : i < len) (within : len ≤ xs.length) :
    (shiftLeft xs i len).take (len - 1) = (xs.take len).eraseIdx i := by
  apply List.ext_getElem?
  intro j
  rw [List.getElem?_eraseIdx, List.getElem?_take, List.getElem?_take, List.getElem?_take,
    shiftLeft_getElem? inside within]
  by_cases before : j < i
  · rw [if_pos (by omega), if_neg (by omega), if_pos before, if_pos (by omega)]
  · by_cases shifted : j + 1 < len
    · rw [if_pos (by omega), if_pos ⟨by omega, shifted⟩, if_neg before, if_pos shifted]
    · rw [if_neg (by omega), if_neg before, if_neg shifted]

end Shift

/-! ## The operations on one slice -/

section Operations
variable {heap : Heap α} {s : Slice}

theorem contents_length (valid : s.Valid heap) : (contents heap s).length = s.len := by
  rw [contents, List.length_take]
  exact Nat.min_eq_left valid.within

theorem contents_getElem? {j : Nat} (inside : j < s.len) :
    (contents heap s)[j]? = (cells heap s.array)[j]? :=
  List.getElem?_take_of_lt inside

variable [Inhabited α] (growth : Nat → Nat) (x : α)

theorem append_cases :
    (s.len < (cells heap s.array).length ∧ append growth heap s x =
      (heap.set s.array ((cells heap s.array).set s.len x), ⟨s.array, s.len + 1⟩)) ∨
    ((cells heap s.array).length ≤ s.len ∧ append growth heap s x =
      (heap ++ [contents heap s ++ x :: List.replicate (growth s.len - (s.len + 1)) default],
        ⟨heap.length, s.len + 1⟩)) := by
  unfold append
  by_cases room : s.len < (cells heap s.array).length
  · exact Or.inl ⟨room, if_pos room⟩
  · exact Or.inr ⟨Nat.le_of_not_lt room, if_neg room⟩

theorem append_length_le : heap.length ≤ (append growth heap s x).1.length := by
  rcases append_cases growth x with ⟨_, is⟩ | ⟨_, is⟩
  · rw [is]
    simp
  · rw [is]
    simp

theorem append_array : (append growth heap s x).2.array = s.array ∨
    (append growth heap s x).2.array = heap.length := by
  rcases append_cases growth x with ⟨_, is⟩ | ⟨_, is⟩
  · rw [is]
    exact Or.inl rfl
  · rw [is]
    exact Or.inr rfl

theorem append_valid (valid : s.Valid heap) :
    (append growth heap s x).2.Valid (append growth heap s x).1 := by
  rcases append_cases growth x with ⟨room, is⟩ | ⟨_, is⟩
  · rw [is]
    refine ⟨by simpa using valid.allocated, ?_⟩
    show s.len + 1 ≤ (cells (heap.set s.array _) s.array).length
    rw [cells_set_self valid.allocated, List.length_set]
    exact room
  · rw [is]
    refine ⟨by simp, ?_⟩
    show s.len + 1 ≤ (cells (heap ++ [_]) heap.length).length
    rw [cells_snoc_self, List.length_append, contents_length valid, List.length_cons]
    omega

theorem append_contents (valid : s.Valid heap) :
    contents (append growth heap s x).1 (append growth heap s x).2 = contents heap s ++ [x] := by
  rcases append_cases growth x with ⟨room, is⟩ | ⟨full, is⟩
  · rw [is]
    show (cells (heap.set s.array _) s.array).take (s.len + 1) = _
    rw [cells_set_self valid.allocated, List.take_add_one, List.getElem?_set_self room,
      List.take_set_of_le (Nat.le_refl _)]
    rfl
  · rw [is]
    show (cells (heap ++ [_]) heap.length).take (s.len + 1) = _
    rw [cells_snoc_self, List.take_append, contents_length valid,
      List.take_of_length_le (by rw [contents_length valid]; omega)]
    simp

theorem append_cells (valid : s.Valid heap) {array : Nat} (allocated : array < heap.length) :
    cells (append growth heap s x).1 array =
      if array = s.array then (cells heap array).set s.len x else cells heap array := by
  rcases append_cases growth x with ⟨_, is⟩ | ⟨full, is⟩
  · rw [is]
    by_cases same : array = s.array
    · rw [if_pos same, same]
      exact cells_set_self valid.allocated
    · rw [if_neg same]
      exact cells_set_of_ne same
  · rw [is]
    show cells (heap ++ [_]) array = _
    rw [cells_snoc_of_lt allocated]
    by_cases same : array = s.array
    · rw [if_pos same, same, List.set_eq_of_length_le full]
    · rw [if_neg same]

theorem append_others {s' : Slice} (valid : s.Valid heap) (valid' : s'.Valid heap)
    (different : s'.array ≠ s.array) :
    s'.Valid (append growth heap s x).1 ∧ s'.array ≠ (append growth heap s x).2.array := by
  have allocated := valid'.allocated
  refine ⟨⟨Nat.lt_of_lt_of_le allocated (append_length_le growth x), ?_⟩, ?_⟩
  · rw [append_cells growth x valid allocated, if_neg different]
    exact valid'.within
  · rcases append_array growth x with same | fresh
    · rw [same]
      exact different
    · rw [fresh]
      omega

end Operations

section Removal
variable {heap : Heap α} {s : Slice} {i : Nat}

theorem removeAt_cells_self (valid : s.Valid heap) :
    cells (removeAt heap s i).1 s.array = shiftLeft (cells heap s.array) i s.len :=
  cells_set_self valid.allocated

theorem removeAt_cells_of_ne {array : Nat} (different : array ≠ s.array) :
    cells (removeAt heap s i).1 array = cells heap array :=
  cells_set_of_ne different

theorem removeAt_valid (valid : s.Valid heap) (inside : i < s.len) :
    (removeAt heap s i).2.Valid (removeAt heap s i).1 := by
  refine ⟨by simpa [removeAt] using valid.allocated, ?_⟩
  show s.len - 1 ≤ (cells (removeAt heap s i).1 s.array).length
  rw [removeAt_cells_self valid, shiftLeft_length inside valid.within]
  have within := valid.within
  omega

theorem removeAt_contents (valid : s.Valid heap) (inside : i < s.len) :
    contents (removeAt heap s i).1 (removeAt heap s i).2 = (contents heap s).eraseIdx i := by
  show (cells (removeAt heap s i).1 s.array).take (s.len - 1) = _
  rw [removeAt_cells_self valid]
  exact take_shiftLeft inside valid.within

theorem removeAt_others {s' : Slice} (valid' : s'.Valid heap) (different : s'.array ≠ s.array) :
    s'.Valid (removeAt heap s i).1 ∧ s'.array ≠ (removeAt heap s i).2.array := by
  refine ⟨⟨by simpa [removeAt] using valid'.allocated, ?_⟩, different⟩
  rw [removeAt_cells_of_ne different]
  exact valid'.within

end Removal

/-! ## A map of slices -/

structure SliceMap (K α : Type) where
  heap : Heap α
  slices : K → Option Slice
  valid : ∀ key s, slices key = some s → s.Valid heap
  apart : ∀ key key' s s', slices key = some s → slices key' = some s' →
    s.array = s'.array → key = key'

namespace SliceMap
variable {K : Type}

def empty : SliceMap K α := ⟨[], fun _ => none, by simp, by simp⟩

/-- A key without slice has the nil slice. -/
def list (m : SliceMap K α) (key : K) : List α :=
  match m.slices key with
  | none => []
  | some s => contents m.heap s

theorem list_of_some {m : SliceMap K α} {key : K} {s : Slice} (at_key : m.slices key = some s) :
    m.list key = contents m.heap s := by
  simp [list, at_key]

theorem slices_of_mem [BEq α] [LawfulBEq α] {m : SliceMap K α} {key : K} {x : α}
    (member : x ∈ m.list key) :
    ∃ s, m.slices key = some s ∧ (m.list key).idxOf x < s.len := by
  cases at_key : m.slices key with
  | none => simp [list, at_key] at member
  | some s =>
      have bound := List.idxOf_lt_length_iff.mpr member
      rw [list_of_some at_key, contents_length (m.valid key s at_key)] at bound
      rw [list_of_some at_key]
      exact ⟨s, rfl, bound⟩

variable [DecidableEq K]

def write (m : SliceMap K α) (key : K) (heap : Heap α) (s : Slice) (valid : s.Valid heap)
    (others : ∀ other s', other ≠ key → m.slices other = some s' →
      s'.Valid heap ∧ s'.array ≠ s.array) : SliceMap K α where
  heap := heap
  slices := Function.update m.slices key (some s)
  valid := by
    intro other s' at_other
    by_cases same : other = key
    · subst same
      rw [Function.update_self, Option.some.injEq] at at_other
      subst at_other
      exact valid
    · rw [Function.update_of_ne same] at at_other
      exact (others other s' same at_other).1
  apart := by
    intro first second s₁ s₂ at_first at_second equal
    by_cases isFirst : first = key
    · by_cases isSecond : second = key
      · rw [isFirst, isSecond]
      · rw [isFirst, Function.update_self, Option.some.injEq] at at_first
        rw [Function.update_of_ne isSecond] at at_second
        rw [← at_first] at equal
        exact absurd equal.symm (others second s₂ isSecond at_second).2
    · rw [Function.update_of_ne isFirst] at at_first
      by_cases isSecond : second = key
      · rw [isSecond, Function.update_self, Option.some.injEq] at at_second
        rw [← at_second] at equal
        exact absurd equal (others first s₁ isFirst at_first).2
      · rw [Function.update_of_ne isSecond] at at_second
        exact m.apart first second s₁ s₂ at_first at_second equal

/-! ### Appending -/

/-- The slice to append to: a nil slice is made first. -/
def header (m : SliceMap K α) (key : K) : Heap α × Slice :=
  match m.slices key with
  | some s => (m.heap, s)
  | none => make m.heap

omit [DecidableEq K] in
theorem header_valid (m : SliceMap K α) (key : K) : (m.header key).2.Valid (m.header key).1 := by
  unfold header
  cases at_key : m.slices key with
  | some s => exact m.valid key s at_key
  | none => exact ⟨by simp [make], Nat.zero_le _⟩

omit [DecidableEq K] in
theorem header_length_le (m : SliceMap K α) (key : K) :
    m.heap.length ≤ (m.header key).1.length := by
  unfold header
  cases m.slices key with
  | some s => exact Nat.le_refl _
  | none => simp [make]

omit [DecidableEq K] in
theorem header_cells (m : SliceMap K α) (key : K) {array : Nat}
    (allocated : array < m.heap.length) :
    cells (m.header key).1 array = cells m.heap array := by
  unfold header
  cases m.slices key with
  | some s => rfl
  | none => exact cells_snoc_of_lt allocated

omit [DecidableEq K] in
theorem header_others (m : SliceMap K α) {key other : K} (different : other ≠ key) {s : Slice}
    (at_other : m.slices other = some s) :
    s.Valid (m.header key).1 ∧ s.array ≠ (m.header key).2.array := by
  have valid := m.valid other s at_other
  refine ⟨⟨Nat.lt_of_lt_of_le valid.allocated (m.header_length_le key), ?_⟩, ?_⟩
  · rw [m.header_cells key valid.allocated]
    exact valid.within
  · unfold header
    cases at_key : m.slices key with
    | some s' => exact fun same => different (m.apart other key s s' at_other at_key same)
    | none => exact Nat.ne_of_lt valid.allocated

section Push
variable [Inhabited α] (growth : Nat → Nat)

/-- `m[key] = append(m[key], x)` -/
def push (m : SliceMap K α) (key : K) (x : α) : SliceMap K α :=
  m.write key (append growth (m.header key).1 (m.header key).2 x).1
    (append growth (m.header key).1 (m.header key).2 x).2
    (append_valid growth x (m.header_valid key))
    (fun _ _ different at_other =>
      append_others growth x (m.header_valid key) (m.header_others different at_other).1
        (m.header_others different at_other).2)

variable (m : SliceMap K α) {key : K} (x : α)

theorem push_length_le : m.heap.length ≤ (m.push growth key x).heap.length :=
  Nat.le_trans (m.header_length_le key) (append_length_le growth x)

theorem push_slices_of_ne {other : K} (different : other ≠ key) :
    (m.push growth key x).slices other = m.slices other :=
  Function.update_of_ne different _ _

theorem push_slices_self : ∃ s', (m.push growth key x).slices key = some s' ∧
    (m.heap.length ≤ s'.array ∨ ∃ s, m.slices key = some s ∧ s' = ⟨s.array, s.len + 1⟩) := by
  refine ⟨_, Function.update_self _ _ _, ?_⟩
  unfold header
  cases at_key : m.slices key with
  | some s =>
      rcases @append_cases α m.heap s _ growth x with ⟨_, is⟩ | ⟨_, is⟩
      · rw [is]
        exact Or.inr ⟨s, rfl, rfl⟩
      · rw [is]
        exact Or.inl (Nat.le_refl _)
  | none =>
      rcases append_array growth x with same | fresh
      · rw [same]
        exact Or.inl (Nat.le_refl _)
      · rw [fresh]
        simp [make]

theorem push_cells_self {s : Slice} (at_key : m.slices key = some s) :
    cells (m.push growth key x).heap s.array = (cells m.heap s.array).set s.len x := by
  have is : m.header key = (m.heap, s) := by simp [header, at_key]
  have valid := m.valid key s at_key
  show cells (append growth (m.header key).1 (m.header key).2 x).1 s.array = _
  rw [is, append_cells growth x valid valid.allocated, if_pos rfl]

theorem push_cells_of_ne {array : Nat} (allocated : array < m.heap.length)
    (elsewhere : ∀ s, m.slices key = some s → array ≠ s.array) :
    cells (m.push growth key x).heap array = cells m.heap array := by
  have different : array ≠ (m.header key).2.array := by
    unfold header
    cases at_key : m.slices key with
    | some s => exact elsewhere s at_key
    | none => exact Nat.ne_of_lt allocated
  show cells (append growth (m.header key).1 (m.header key).2 x).1 array = _
  rw [append_cells growth x (m.header_valid key)
    (Nat.lt_of_lt_of_le allocated (m.header_length_le key)), if_neg different,
    m.header_cells key allocated]

theorem push_list_self : (m.push growth key x).list key = m.list key ++ [x] := by
  have at_key : (m.push growth key x).slices key =
      some (append growth (m.header key).1 (m.header key).2 x).2 := Function.update_self _ _ _
  rw [list_of_some at_key]
  refine (append_contents growth x (m.header_valid key)).trans ?_
  unfold header list
  cases m.slices key with
  | some s => rfl
  | none => simp [make, contents]

theorem push_list_of_ne {other : K} (different : other ≠ key) :
    (m.push growth key x).list other = m.list other := by
  unfold list
  rw [m.push_slices_of_ne growth x different]
  cases at_other : m.slices other with
  | none => rfl
  | some s =>
      have elsewhere : ∀ s', m.slices key = some s' → s.array ≠ s'.array :=
        fun s' at_key same => different (m.apart other key s s' at_other at_key same)
      simp only [contents]
      rw [m.push_cells_of_ne growth x (m.valid other s at_other).allocated elsewhere]

end Push

/-! ### Removing -/

/-- `m[key] = append(m[key][:i], m[key][i+1:]...)` for an `i` inside the slice. -/
def eraseAt (m : SliceMap K α) (key : K) (i : Nat) : SliceMap K α :=
  match at_key : m.slices key with
  | none => m
  | some s =>
      if inside : i < s.len then
        m.write key (removeAt m.heap s i).1 (removeAt m.heap s i).2
          (removeAt_valid (m.valid key s at_key) inside)
          (fun other s' different at_other =>
            removeAt_others (m.valid other s' at_other)
              fun same => different (m.apart other key s' s at_other at_key same))
      else m

section Erase
variable (m : SliceMap K α) {key : K} {i : Nat} {s : Slice}

theorem eraseAt_inside (at_key : m.slices key = some s) (inside : i < s.len) :
    (m.eraseAt key i).heap = (removeAt m.heap s i).1 ∧
      (m.eraseAt key i).slices = Function.update m.slices key (some ⟨s.array, s.len - 1⟩) := by
  unfold eraseAt
  split
  case h_1 absent =>
      rw [absent] at at_key
      cases at_key
  case h_2 s' found =>
      cases Option.some.inj (found.symm.trans at_key)
      rw [dif_pos inside]
      exact ⟨rfl, rfl⟩

theorem eraseAt_list_self (at_key : m.slices key = some s) (inside : i < s.len) :
    (m.eraseAt key i).list key = (m.list key).eraseIdx i := by
  obtain ⟨heap, slices⟩ := m.eraseAt_inside at_key inside
  have at_key' : (m.eraseAt key i).slices key = some ⟨s.array, s.len - 1⟩ := by
    rw [slices]
    exact Function.update_self _ _ _
  rw [list_of_some at_key', list_of_some at_key, heap]
  exact removeAt_contents (m.valid key s at_key) inside

theorem eraseAt_list_of_ne (at_key : m.slices key = some s) (inside : i < s.len) {other : K}
    (different : other ≠ key) : (m.eraseAt key i).list other = m.list other := by
  obtain ⟨heap, slices⟩ := m.eraseAt_inside at_key inside
  unfold list
  rw [slices, Function.update_of_ne different, heap]
  cases at_other : m.slices other with
  | none => rfl
  | some s' =>
      have elsewhere : s'.array ≠ s.array :=
        fun same => different (m.apart other key s' s at_other at_key same)
      simp only [contents]
      rw [removeAt_cells_of_ne elsewhere]

end Erase

end SliceMap

end CloudOS.Lib.Slices
