import Mathlib.Data.List.Nodup

/-!
# A map to references

Objects live in a heap and are never moved; a map has at most one reference
under a key, and no reference under two.  An object that was replaced in the map
stays in the heap, where whoever holds its reference may still write to it.
`count` is the number of entries of the map whose object satisfies a test, and
the two counting rules say how it moves.
-/

set_option autoImplicit false

namespace CloudOS.Lib.References

structure RefStore (K V : Type) where
  heap : List V
  entries : List (K × Nat)
  keys : (entries.map Prod.fst).Nodup
  refs : (entries.map Prod.snd).Nodup
  bound : ∀ entry ∈ entries, entry.2 < heap.length

namespace RefStore

variable {K V : Type}

def empty : RefStore K V := ⟨[], [], .nil, .nil, fun _ member => absurd member List.not_mem_nil⟩

def get? (s : RefStore K V) (ref : Nat) : Option V := s.heap[ref]?

def satisfies (s : RefStore K V) (test : V → Bool) (ref : Nat) : Bool := (s.get? ref).any test

def count (s : RefStore K V) (test : V → Bool) : Nat :=
  s.entries.countP fun entry => s.satisfies test entry.2

def Named (s : RefStore K V) (ref : Nat) : Prop := ref ∈ s.entries.map Prod.snd

instance (s : RefStore K V) (ref : Nat) : Decidable (s.Named ref) :=
  inferInstanceAs (Decidable (_ ∈ _))

section Alloc
variable [DecidableEq K]

def ref? (s : RefStore K V) (key : K) : Option Nat := s.entries.lookup key

theorem mem_entries_of_ref? {s : RefStore K V} {key : K} {ref : Nat}
    (found : s.ref? key = some ref) : (key, ref) ∈ s.entries := by
  obtain ⟨before, after, split, _⟩ := List.lookup_eq_some_iff.mp found
  rw [split]
  simp

theorem named_of_ref? {s : RefStore K V} {key : K} {ref : Nat} (found : s.ref? key = some ref) :
    s.Named ref :=
  List.mem_map_of_mem (mem_entries_of_ref? found)

/-- A new object, under a key that may be in use. -/
def alloc (s : RefStore K V) (key : K) (v : V) : RefStore K V where
  heap := s.heap ++ [v]
  entries := (key, s.heap.length) :: s.entries.filter fun entry => entry.1 ≠ key
  keys := by
    rw [List.map_cons, List.nodup_cons]
    constructor
    · intro member
      obtain ⟨entry, kept, same⟩ := List.mem_map.mp member
      have other := (List.mem_filter.mp kept).2
      simp [same] at other
    · exact s.keys.sublist (List.filter_sublist.map Prod.fst)
  refs := by
    rw [List.map_cons, List.nodup_cons]
    constructor
    · intro member
      obtain ⟨entry, kept, same⟩ := List.mem_map.mp member
      have below := s.bound entry (List.mem_filter.mp kept).1
      omega
    · exact s.refs.sublist (List.filter_sublist.map Prod.snd)
  bound := by
    intro entry member
    rw [List.length_append, List.length_singleton]
    rcases List.mem_cons.mp member with rfl | kept
    · exact Nat.lt_succ_self _
    · exact Nat.lt_succ_of_lt (s.bound entry (List.mem_filter.mp kept).1)

end Alloc

def write (s : RefStore K V) (ref : Nat) (v : V) : RefStore K V :=
  { s with
    heap := s.heap.set ref v
    bound := by
      intro entry member
      rw [List.length_set]
      exact s.bound entry member }

theorem get?_write (s : RefStore K V) {ref : Nat} {old : V} (there : s.get? ref = some old) (v : V)
    (other : Nat) : (s.write ref v).get? other = if other = ref then some v else s.get? other := by
  have below : ref < s.heap.length := (List.getElem?_eq_some_iff.mp there).1
  unfold get? write
  rw [List.getElem?_set]
  by_cases same : other = ref
  · rw [if_pos same.symm, if_pos below, if_pos same]
  · rw [if_neg (Ne.symm same), if_neg same]

theorem get?_alloc [DecidableEq K] (s : RefStore K V) (key : K) (v : V) {ref : Nat} {old : V}
    (there : s.get? ref = some old) : (s.alloc key v).get? ref = some old := by
  have below : ref < s.heap.length := (List.getElem?_eq_some_iff.mp there).1
  unfold get? alloc
  rw [List.getElem?_append_left below]
  exact there

theorem get?_alloc_cases [DecidableEq K] {s : RefStore K V} {key : K} {v found : V} {ref : Nat}
    (there : (s.alloc key v).get? ref = some found) : s.get? ref = some found ∨ found = v := by
  by_cases below : ref < s.heap.length
  · left
    rwa [get?, alloc, List.getElem?_append_left below] at there
  · right
    rw [get?, alloc, List.getElem?_append_right (Nat.le_of_not_lt below)] at there
    exact List.mem_singleton.mp (List.mem_of_getElem? there)

/-! ## A map in insertion order -/

section Put
variable [DecidableEq K]

/-- The reference goes under the key; a key that is there keeps its place. -/
def setEntry (key : K) (ref : Nat) (entries : List (K × Nat)) : List (K × Nat) :=
  if key ∈ entries.map Prod.fst then
    entries.map fun entry => if entry.1 = key then (key, ref) else entry
  else entries ++ [(key, ref)]

theorem setEntry_keys_nodup {entries : List (K × Nat)} (keys : (entries.map Prod.fst).Nodup)
    (key : K) (ref : Nat) : ((setEntry key ref entries).map Prod.fst).Nodup := by
  unfold setEntry
  split
  · have same : (entries.map fun entry => if entry.1 = key then (key, ref) else entry).map
        Prod.fst = entries.map Prod.fst := by
      rw [List.map_map]
      apply List.map_congr_left
      intro entry _
      by_cases here : entry.1 = key
      · simp [here]
      · simp [here]
    rw [same]
    exact keys
  · rename_i absent
    rw [List.map_append]
    exact keys.append (List.nodup_singleton key) (List.disjoint_singleton.mpr absent)

theorem setEntry_refs_nodup {entries : List (K × Nat)} (keys : (entries.map Prod.fst).Nodup)
    (refs : (entries.map Prod.snd).Nodup) (key : K) {ref : Nat}
    (fresh : ref ∉ entries.map Prod.snd) : ((setEntry key ref entries).map Prod.snd).Nodup := by
  unfold setEntry
  split
  · have apart := (List.pairwise_map.mp keys).and (List.pairwise_map.mp refs)
    rw [List.map_map]
    apply List.pairwise_map.mpr
    apply apart.imp_of_mem
    intro first second firstIn secondIn different
    have firstOld : first.2 ≠ ref := fun same => fresh (same ▸ List.mem_map_of_mem firstIn)
    have secondOld : second.2 ≠ ref := fun same => fresh (same ▸ List.mem_map_of_mem secondIn)
    by_cases atFirst : first.1 = key
    · have notSecond : second.1 ≠ key := fun same => different.1 (atFirst.trans same.symm)
      simpa [atFirst, notSecond] using Ne.symm secondOld
    · by_cases atSecond : second.1 = key
      · simpa [atFirst, atSecond] using firstOld
      · simpa [atFirst, atSecond] using different.2
  · rw [List.map_append]
    exact refs.append (List.nodup_singleton ref) (List.disjoint_singleton.mpr fresh)

theorem mem_setEntry {entries : List (K × Nat)} {key : K} {ref : Nat} {entry : K × Nat}
    (member : entry ∈ setEntry key ref entries) : entry ∈ entries ∨ entry = (key, ref) := by
  unfold setEntry at member
  split at member
  · obtain ⟨old, listed, rfl⟩ := List.mem_map.mp member
    split
    · exact Or.inr rfl
    · exact Or.inl listed
  · simpa using member

theorem lookup_cons_of_ne {other first : K} (apart : other ≠ first) (ref : Nat)
    (rest : List (K × Nat)) : ((first, ref) :: rest).lookup other = rest.lookup other := by
  have unlike : (other == first) = false := by simpa using apart
  rw [List.lookup_cons, unlike]

theorem lookup_replaced_of_ne {key other : K} (apart : other ≠ key) (ref : Nat)
    (entries : List (K × Nat)) :
    (entries.map fun entry => if entry.1 = key then (key, ref) else entry).lookup other =
      entries.lookup other := by
  induction entries with
  | nil => rfl
  | cons entry rest ih =>
      obtain ⟨first, old⟩ := entry
      rw [List.map_cons]
      by_cases here : first = key
      · subst here
        rw [if_pos rfl, lookup_cons_of_ne apart, lookup_cons_of_ne apart, ih]
      · rw [if_neg here, List.lookup_cons, List.lookup_cons, ih]

theorem lookup_replaced_self {key : K} (ref : Nat) {entries : List (K × Nat)}
    (present : key ∈ entries.map Prod.fst) :
    (entries.map fun entry => if entry.1 = key then (key, ref) else entry).lookup key =
      some ref := by
  induction entries with
  | nil => simp at present
  | cons entry rest ih =>
      obtain ⟨first, old⟩ := entry
      rw [List.map_cons]
      by_cases here : first = key
      · subst here
        rw [if_pos rfl, List.lookup_cons_self]
      · have later : key ∈ rest.map Prod.fst := by simpa [Ne.symm here] using present
        rw [if_neg here, lookup_cons_of_ne (Ne.symm here), ih later]

theorem lookup_setEntry (key : K) (ref : Nat) (entries : List (K × Nat)) (other : K) :
    (setEntry key ref entries).lookup other =
      if other = key then some ref else entries.lookup other := by
  unfold setEntry
  by_cases present : key ∈ entries.map Prod.fst
  · rw [if_pos present]
    by_cases asked : other = key
    · rw [if_pos asked, asked, lookup_replaced_self ref present]
    · rw [if_neg asked, lookup_replaced_of_ne asked]
  · rw [if_neg present, List.lookup_append]
    by_cases asked : other = key
    · have missing : entries.lookup key = none := by
        rw [List.lookup_eq_none_iff]
        intro entry member
        have apart : key ≠ entry.1 := fun same => present (same ▸ List.mem_map_of_mem member)
        simpa using apart
      rw [if_pos asked, asked, missing, List.lookup_cons_self, Option.none_or]
    · rw [if_neg asked, lookup_cons_of_ne asked, List.lookup_nil, Option.or_none]

/-- A new object under a key, as in a dictionary that remembers the order in
which its keys came. -/
def put (s : RefStore K V) (key : K) (v : V) : RefStore K V where
  heap := s.heap ++ [v]
  entries := setEntry key s.heap.length s.entries
  keys := setEntry_keys_nodup s.keys key s.heap.length
  refs := by
    apply setEntry_refs_nodup s.keys s.refs
    intro member
    obtain ⟨entry, listed, same⟩ := List.mem_map.mp member
    have below := s.bound entry listed
    omega
  bound := by
    intro entry member
    rw [List.length_append, List.length_singleton]
    rcases mem_setEntry member with old | rfl
    · exact Nat.lt_succ_of_lt (s.bound entry old)
    · exact Nat.lt_succ_self _

theorem ref?_put (s : RefStore K V) (key : K) (v : V) (other : K) :
    (s.put key v).ref? other = if other = key then some s.heap.length else s.ref? other :=
  lookup_setEntry key s.heap.length s.entries other

theorem lookup_forgotten_of_ne {key other : K} (apart : other ≠ key) (entries : List (K × Nat)) :
    (entries.filter fun entry => entry.1 ≠ key).lookup other = entries.lookup other := by
  induction entries with
  | nil => rfl
  | cons entry rest ih =>
      obtain ⟨first, ref⟩ := entry
      by_cases here : first = key
      · rw [List.filter_cons_of_neg (by simpa using here), ih, here, lookup_cons_of_ne apart]
      · rw [List.filter_cons_of_pos (by simpa using here), List.lookup_cons, List.lookup_cons, ih]

theorem ref?_alloc (s : RefStore K V) (key : K) (v : V) (other : K) :
    (s.alloc key v).ref? other = if other = key then some s.heap.length else s.ref? other := by
  unfold ref? alloc
  by_cases asked : other = key
  · rw [if_pos asked, asked, List.lookup_cons_self]
  · rw [if_neg asked, lookup_cons_of_ne asked, lookup_forgotten_of_ne asked]

theorem get?_put (s : RefStore K V) (key : K) (v : V) (ref : Nat) :
    (s.put key v).get? ref = if ref = s.heap.length then some v else s.get? ref := by
  unfold get? put
  by_cases new : ref = s.heap.length
  · simp [new]
  · rw [if_neg new, List.getElem?_append]
    split
    · rfl
    · rw [List.getElem?_eq_none (by simp; omega), List.getElem?_eq_none (by omega)]

theorem ref?_lt {s : RefStore K V} {key : K} {ref : Nat} (found : s.ref? key = some ref) :
    ref < s.heap.length := by
  obtain ⟨entry, listed, rfl⟩ := List.mem_map.mp (named_of_ref? found)
  exact s.bound entry listed

theorem put_keeps_iff (s : RefStore K V) (key : K) (v : V) :
    (∀ other ref, s.ref? other = some ref → (s.put key v).ref? other = some ref) ↔
      s.ref? key = none := by
  constructor
  · intro kept
    cases found : s.ref? key with
    | none => rfl
    | some ref =>
        have same := kept key ref found
        rw [ref?_put, if_pos rfl, Option.some.injEq] at same
        have below := ref?_lt found
        omega
  · intro free other ref found
    have apart : other ≠ key := by
      rintro rfl
      rw [free] at found
      cases found
    rw [ref?_put, if_neg apart]
    exact found

def find? (s : RefStore K V) (key : K) : Option (Nat × V) :=
  (s.ref? key).bind fun ref => (s.get? ref).map fun v => (ref, v)

theorem find?_eq_some_iff {s : RefStore K V} {key : K} {ref : Nat} {v : V} :
    s.find? key = some (ref, v) ↔ s.ref? key = some ref ∧ s.get? ref = some v := by
  simp [find?, Option.bind_eq_some_iff]

end Put

def modify (s : RefStore K V) (ref : Nat) (f : V → V) : RefStore K V :=
  { s with
    heap := s.heap.modify ref f
    bound := by
      intro entry member
      rw [List.length_modify]
      exact s.bound entry member }

theorem get?_modify (s : RefStore K V) (ref : Nat) (f : V → V) (other : Nat) :
    (s.modify ref f).get? other = if other = ref then (s.get? other).map f else s.get? other := by
  unfold get? modify
  rw [List.getElem?_modify]
  by_cases same : other = ref
  · simp [same]
  · simp [same, Ne.symm same]

/-! ## Counting -/

theorem satisfies_of_get? {s : RefStore K V} {ref : Nat} {v : V} (there : s.get? ref = some v)
    (test : V → Bool) : s.satisfies test ref = test v := by
  rw [satisfies, there, Option.any_some]

theorem countP_write (test before : Nat → Bool) {ref : Nat} {entries : List (K × Nat)}
    (distinct : (entries.map Prod.snd).Nodup) (elsewhere : ∀ other ≠ ref, test other = before other) :
    entries.countP (fun entry => test entry.2) +
        (if ref ∈ entries.map Prod.snd ∧ before ref = true then 1 else 0) =
      entries.countP (fun entry => before entry.2) +
        if ref ∈ entries.map Prod.snd ∧ test ref = true then 1 else 0 := by
  induction entries with
  | nil => simp
  | cons entry rest ih =>
      rw [List.map_cons, List.nodup_cons] at distinct
      have tail := ih distinct.2
      simp only [List.countP_cons, List.map_cons, List.mem_cons]
      by_cases here : ref = entry.2
      · -- the reference stands here and nowhere in the rest
        have once : ref ∉ rest.map Prod.snd := by
          rw [here]
          exact distinct.1
        simp only [once, false_and, if_false, Nat.add_zero] at tail
        simp only [here, true_or, true_and, tail]
        omega
      · have same := elsewhere entry.2 (Ne.symm here)
        simp only [here, false_or, same]
        omega

theorem count_write (s : RefStore K V) {ref : Nat} {old : V} (there : s.get? ref = some old)
    (v : V) (test : V → Bool) :
    (s.write ref v).count test + (if s.Named ref ∧ test old = true then 1 else 0) =
      s.count test + if s.Named ref ∧ test v = true then 1 else 0 := by
  have elsewhere : ∀ other ≠ ref, (s.write ref v).satisfies test other = s.satisfies test other := by
    intro other apart
    rw [satisfies, get?_write s there, if_neg apart, satisfies]
  have after : (s.write ref v).satisfies test ref = test v := by
    rw [satisfies, get?_write s there, if_pos rfl, Option.any_some]
  have moved := countP_write ((s.write ref v).satisfies test) (s.satisfies test) s.refs elsewhere
  rw [after, satisfies_of_get? there] at moved
  exact moved

theorem countP_forget [DecidableEq K] (test : Nat → Bool) (key : K) {entries : List (K × Nat)}
    (distinct : (entries.map Prod.fst).Nodup) :
    (entries.filter fun entry => entry.1 ≠ key).countP (fun entry => test entry.2) +
        (if (entries.lookup key).any test = true then 1 else 0) =
      entries.countP fun entry => test entry.2 := by
  induction entries with
  | nil => simp
  | cons entry rest ih =>
      rw [List.map_cons, List.nodup_cons] at distinct
      have tail := ih distinct.2
      obtain ⟨first, ref⟩ := entry
      rw [List.countP_cons, ← tail]
      by_cases same : first = key
      · subst same
        have others : rest.lookup first = none := by
          rw [List.lookup_eq_none_iff]
          intro entry member
          have apart : first ≠ entry.1 := by
            intro equal
            have among : entry.1 ∈ rest.map Prod.fst := List.mem_map_of_mem member
            exact distinct.1 (equal ▸ among)
          simpa using apart
        simp [others]
      · have apart : (key == first) = false := by simpa using Ne.symm same
        rw [List.filter_cons_of_pos (by simpa using same), List.countP_cons, List.lookup_cons, apart]
        simp only
        omega

theorem count_alloc [DecidableEq K] (s : RefStore K V) (key : K) (v : V) (test : V → Bool) :
    (s.alloc key v).count test +
        (if (s.ref? key).any (s.satisfies test) = true then 1 else 0) =
      s.count test + if test v = true then 1 else 0 := by
  have here : (s.alloc key v).satisfies test s.heap.length = test v := by
    simp [satisfies, get?, alloc]
  have kept : ∀ entry ∈ s.entries.filter (fun entry => entry.1 ≠ key),
      ((s.alloc key v).satisfies test entry.2 = true ↔ s.satisfies test entry.2 = true) := by
    intro entry member
    have below := s.bound entry (List.mem_filter.mp member).1
    simp [satisfies, get?, alloc, List.getElem?_append_left below]
  have forgotten := countP_forget (s.satisfies test) key s.keys
  have counted : (s.alloc key v).count test =
      (s.entries.filter fun entry => entry.1 ≠ key).countP (fun entry => s.satisfies test entry.2) +
        if test v = true then 1 else 0 := by
    rw [← List.countP_congr kept, ← here]
    exact List.countP_cons
  rw [counted]
  unfold ref? count
  omega

end RefStore

end CloudOS.Lib.References
