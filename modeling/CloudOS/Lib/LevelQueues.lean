import CloudOS.Lib.Heapq

/-!
# Heaps in levels

A queue of several heaps, one for each level; the next item is the root of the
first heap that has one.  When every item stands in the heap of its own level,
that root is least by level and then by the order of the heaps.
-/

set_option autoImplicit false

namespace CloudOS.Lib.LevelQueues

open CloudOS.Lib.Heapq

variable {α : Type} (lt : α → α → Bool) (level : α → Int)

def takeFirst : List (List α) → Option (α × List (List α))
  | [] => none
  | heap :: rest =>
      match heappop lt heap with
      | some (item, heap') => some (item, heap' :: rest)
      | none => (takeFirst rest).map fun (item, rest') => (item, heap :: rest')

/-- Each of the queues, counted from `base`, is a heap of items of its level. -/
structure Leveled (base : Int) (queues : List (List α)) : Prop where
  heaps : ∀ heap ∈ queues, IsHeap lt heap
  placed : ∀ (i : Nat) (heap : List α), queues[i]? = some heap →
    ∀ item ∈ heap, level item = base + i

section Lemmas
variable {lt level} {base : Int} {heap : List α} {queues queues' rest : List (List α)} {item : α}

theorem takeFirst_cons (taken : takeFirst lt (heap :: rest) = some (item, queues')) :
    (∃ heap', heappop lt heap = some (item, heap') ∧ queues' = heap' :: rest) ∨
      heap = [] ∧ ∃ rest', takeFirst lt rest = some (item, rest') ∧ queues' = [] :: rest' := by
  unfold takeFirst at taken
  cases popped : heappop lt heap with
  | some first =>
      rw [popped] at taken
      cases taken
      exact .inl ⟨_, rfl, rfl⟩
  | none =>
      obtain rfl := heappop_eq_none_iff.mp popped
      simp only [popped, Option.map_eq_some_iff] at taken
      obtain ⟨⟨item', rest'⟩, found, same⟩ := taken
      cases same
      exact .inr ⟨rfl, rest', found, rfl⟩

theorem takeFirst_eq_none_iff : takeFirst lt queues = none ↔ queues.flatten = [] := by
  induction queues with
  | nil => simp [takeFirst]
  | cons heap rest ih =>
      unfold takeFirst
      cases popped : heappop lt heap with
      | some first =>
          have filled : heap ≠ [] := by
            rintro rfl
            cases popped
          simp [filled]
      | none => simp [heappop_eq_none_iff.mp popped, ih]

theorem takeFirst_length (taken : takeFirst lt queues = some (item, queues')) :
    queues'.length = queues.length := by
  induction queues generalizing queues' with
  | nil => cases taken
  | cons heap rest ih =>
      rcases takeFirst_cons taken with ⟨heap', _, rfl⟩ | ⟨_, rest', found, rfl⟩
      · rfl
      · exact congrArg (· + 1) (ih found)

theorem takeFirst_perm (taken : takeFirst lt queues = some (item, queues')) :
    queues.flatten.Perm (item :: queues'.flatten) := by
  induction queues generalizing queues' with
  | nil => cases taken
  | cons heap rest ih =>
      rcases takeFirst_cons taken with ⟨heap', popped, rfl⟩ | ⟨rfl, rest', found, rfl⟩
      · exact (heappop_perm lt popped).append_right rest.flatten
      · simpa using ih found

theorem flatten_modify_perm {f : List α → List α} (adds : ∀ heap, (f heap).Perm (item :: heap))
    {i : Nat} (inside : i < queues.length) :
    (queues.modify i f).flatten.Perm (item :: queues.flatten) := by
  induction queues generalizing i with
  | nil => cases inside
  | cons heap rest ih =>
      cases i with
      | zero => exact (adds heap).append_right rest.flatten
      | succ i =>
          have inside' : i < rest.length := by simpa using inside
          calc
            (heap ++ (rest.modify i f).flatten).Perm (heap ++ item :: rest.flatten) :=
              (ih inside').append_left heap
            _ |>.Perm (item :: (heap ++ rest.flatten)) := List.perm_middle

theorem leveled_cons :
    Leveled lt level base (heap :: rest) ↔
      IsHeap lt heap ∧ (∀ item ∈ heap, level item = base) ∧ Leveled lt level (base + 1) rest := by
  constructor
  · intro leveled
    refine ⟨leveled.heaps heap List.mem_cons_self, ?_, ?_, ?_⟩
    · intro item member
      simpa using leveled.placed 0 heap rfl item member
    · exact fun other member => leveled.heaps other (List.mem_cons_of_mem heap member)
    · intro i other found item member
      have placed := leveled.placed (i + 1) other found item member
      push_cast at placed
      omega
  · rintro ⟨isHeap, first, others⟩
    constructor
    · intro other member
      rcases List.mem_cons.mp member with rfl | later
      · exact isHeap
      · exact others.heaps other later
    · intro i other found item member
      cases i with
      | zero =>
          cases found
          simpa using first item member
      | succ i =>
          have placed := others.placed i other found item member
          push_cast
          omega

theorem leveled_empty (n : Nat) : Leveled lt level base (List.replicate n []) := by
  constructor
  · intro heap member i _ a b stands
    rw [(List.mem_replicate.mp member).2] at stands
    cases stands
  · intro i heap found item member
    have empty := List.mem_replicate.mp (List.mem_of_getElem? found)
    rw [empty.2] at member
    cases member

theorem Leveled.base_le (leveled : Leveled lt level base queues) :
    ∀ item ∈ queues.flatten, base ≤ level item := by
  intro item member
  obtain ⟨heap, listed, within⟩ := List.mem_flatten.mp member
  obtain ⟨i, found⟩ := List.mem_iff_getElem?.mp listed
  rw [leveled.placed i heap found item within]
  omega

theorem Leveled.takeFirst (order : WeakOrder lt) (leveled : Leveled lt level base queues)
    (taken : takeFirst lt queues = some (item, queues')) :
    Leveled lt level base queues' ∧
      ∀ other ∈ queues.flatten,
        level item < level other ∨ level item = level other ∧ lt other item = false := by
  induction queues generalizing base queues' with
  | nil => cases taken
  | cons heap rest ih =>
      obtain ⟨isHeap, placed, later⟩ := leveled_cons.mp leveled
      rcases takeFirst_cons taken with ⟨heap', popped, rfl⟩ | ⟨rfl, rest', found, rfl⟩
      · obtain ⟨isHeap', least⟩ := heappop_isHeap order isHeap popped
        have perm := heappop_perm lt popped
        have here : level item = base := placed item (perm.mem_iff.mpr List.mem_cons_self)
        constructor
        · refine leveled_cons.mpr ⟨isHeap', ?_, later⟩
          exact fun other member =>
            placed other (perm.mem_iff.mpr (List.mem_cons_of_mem item member))
        · intro other member
          rw [List.flatten_cons, List.mem_append] at member
          rcases member with same | beyond
          · exact Or.inr ⟨here.trans (placed other same).symm, least other same⟩
          · have further := later.base_le other beyond
            exact Or.inl (by omega)
      · obtain ⟨later', least⟩ := ih later found
        exact ⟨leveled_cons.mpr ⟨isHeap, placed, later'⟩, by simpa using least⟩

theorem Leveled.push (order : WeakOrder lt) (leveled : Leveled lt level base queues) {i : Nat}
    (own : level item = base + i) :
    Leveled lt level base (queues.modify i fun heap => heappush lt heap item) := by
  induction queues generalizing base i with
  | nil => simpa using leveled
  | cons heap rest ih =>
      obtain ⟨isHeap, placed, later⟩ := leveled_cons.mp leveled
      cases i with
      | zero =>
          refine leveled_cons.mpr ⟨heappush_isHeap order isHeap item, ?_, later⟩
          intro other member
          rcases List.mem_cons.mp ((heappush_perm lt heap item).mem_iff.mp member) with rfl | old
          · simpa using own
          · exact placed other old
      | succ i =>
          refine leveled_cons.mpr ⟨isHeap, placed, ih later ?_⟩
          rw [own]
          push_cast
          omega

theorem Leveled.congr {lt' : α → α → Bool} {level' : α → Int}
    (leveled : Leveled lt level base queues)
    (sameLt : ∀ a ∈ queues.flatten, ∀ b ∈ queues.flatten, lt' a b = lt a b)
    (sameLevel : ∀ a ∈ queues.flatten, level' a = level a) : Leveled lt' level' base queues := by
  constructor
  · intro heap listed i inner a b standsA standsB
    have held : ∀ item ∈ heap, item ∈ queues.flatten :=
      fun item member => List.mem_flatten.mpr ⟨heap, listed, member⟩
    rw [sameLt b (held b (List.mem_of_getElem? standsB)) a (held a (List.mem_of_getElem? standsA))]
    exact leveled.heaps heap listed i inner a b standsA standsB
  · intro i heap found item member
    rw [sameLevel item (List.mem_flatten.mpr ⟨heap, List.mem_of_getElem? found, member⟩)]
    exact leveled.placed i heap found item member

end Lemmas

end CloudOS.Lib.LevelQueues
