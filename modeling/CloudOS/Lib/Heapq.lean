import Mathlib.Data.List.Perm.Basic

/-!
# Binary heaps in a list

The algorithms of Python's `heapq`: an item is added at the end and sifted
towards the root; the root is taken out by moving the last item into its place,
down to a leaf and back up.  Whatever the order `lt` is, both keep the items;
when it is a strict weak order they keep the heap, and the root is least.
-/

set_option autoImplicit false

namespace CloudOS.Lib.Heapq

variable {α : Type} (lt : α → α → Bool)

/-- `_siftdown`: move `newitem` from `pos` towards the root.  The position
decreases, so it is also enough fuel. -/
def siftdown (newitem : α) : Nat → Nat → List α → List α
  | 0, pos, heap => heap.set pos newitem
  | fuel + 1, pos, heap =>
      if pos = 0 then heap.set pos newitem
      else
        match heap[(pos - 1) / 2]? with
        | none => heap.set pos newitem
        | some parent =>
            if lt newitem parent then siftdown newitem fuel ((pos - 1) / 2) (heap.set pos parent)
            else heap.set pos newitem

/-- The smaller child of `pos`, the right one if neither is smaller. -/
def smallerChild (heap : List α) (pos : Nat) : Option (Nat × α) :=
  match heap[2 * pos + 1]?, heap[2 * pos + 2]? with
  | none, _ => none
  | some left, none => some (2 * pos + 1, left)
  | some left, some right =>
      if lt left right then some (2 * pos + 1, left) else some (2 * pos + 2, right)

/-- The loop of `_siftup`: bubble up the smaller child until a leaf is free. -/
def bubble : Nat → Nat → List α → Nat × List α
  | 0, pos, heap => (pos, heap)
  | fuel + 1, pos, heap =>
      match smallerChild lt heap pos with
      | none => (pos, heap)
      | some (child, item) => bubble fuel child (heap.set pos item)

def siftup (newitem : α) (heap : List α) : List α :=
  let (pos, moved) := bubble lt heap.length 0 heap
  siftdown lt newitem pos pos moved

def heappush (heap : List α) (item : α) : List α :=
  siftdown lt item heap.length heap.length (heap ++ [item])

/-- `none` is the IndexError of an empty heap. -/
def heappop : List α → Option (α × List α)
  | [] => none
  | first :: rest =>
      match (first :: rest).getLast?, (first :: rest).dropLast with
      | some last, [] => some (last, [])
      | some last, root :: others => some (root, siftup lt last (root :: others))
      | none, _ => none

/-! ## Items are kept -/

theorem set_set_perm_of_getElem {heap : List α} {i j : Nat} {moved item : α} (ne : i ≠ j)
    (inside : i < heap.length) (found : heap[j]? = some moved) :
    ((heap.set i moved).set j item).Perm (heap.set i item) := by
  obtain ⟨inside', value⟩ := List.getElem?_eq_some_iff.mp found
  have hole : i < (heap.set i item).length := by simpa using inside
  have source : j < (heap.set i item).length := by simpa using inside'
  have swapped := List.set_set_perm hole source
  simpa [List.getElem_set_of_ne ne, value] using swapped

theorem siftdown_perm (newitem : α) (fuel pos : Nat) (heap : List α)
    (inside : pos < heap.length) :
    (siftdown lt newitem fuel pos heap).Perm (heap.set pos newitem) := by
  induction fuel generalizing pos heap with
  | zero => exact List.Perm.refl _
  | succ fuel ih =>
      unfold siftdown
      by_cases root : pos = 0
      · rw [if_pos root]
      · rw [if_neg root]
        have above : (pos - 1) / 2 < pos := by omega
        cases found : heap[(pos - 1) / 2]? with
        | none => exact List.Perm.refl _
        | some parent =>
            simp only
            split
            · have inside' : (pos - 1) / 2 < (heap.set pos parent).length := by
                rw [List.length_set]
                omega
              have ne : pos ≠ (pos - 1) / 2 := by omega
              exact (ih _ _ inside').trans (set_set_perm_of_getElem ne inside found)
            · exact List.Perm.refl _

theorem smallerChild_spec {heap : List α} {pos child : Nat} {item : α}
    (found : smallerChild lt heap pos = some (child, item)) :
    pos < child ∧ heap[child]? = some item := by
  unfold smallerChild at found
  split at found
  · cases found
  · rename_i left hasLeft noRight
    cases found
    exact ⟨by omega, hasLeft⟩
  · rename_i left right hasLeft hasRight
    split at found
    · cases found
      exact ⟨by omega, hasLeft⟩
    · cases found
      exact ⟨by omega, hasRight⟩

theorem bubble_perm (item : α) (fuel pos : Nat) (heap : List α) (inside : pos < heap.length) :
    (bubble lt fuel pos heap).1 < (bubble lt fuel pos heap).2.length ∧
      ((bubble lt fuel pos heap).2.set (bubble lt fuel pos heap).1 item).Perm
        (heap.set pos item) := by
  induction fuel generalizing pos heap with
  | zero => exact ⟨inside, List.Perm.refl _⟩
  | succ fuel ih =>
      unfold bubble
      cases found : smallerChild lt heap pos with
      | none => exact ⟨inside, List.Perm.refl _⟩
      | some smaller =>
          obtain ⟨child, moved⟩ := smaller
          obtain ⟨below, stands⟩ := smallerChild_spec lt found
          have inside' : child < (heap.set pos moved).length := by
            rw [List.length_set]
            exact (List.getElem?_eq_some_iff.mp stands).1
          obtain ⟨within, kept⟩ := ih child (heap.set pos moved) inside'
          exact ⟨within, kept.trans
            (set_set_perm_of_getElem (Nat.ne_of_lt below) inside stands)⟩

theorem siftup_perm (newitem : α) (heap : List α) (inside : 0 < heap.length) :
    (siftup lt newitem heap).Perm (heap.set 0 newitem) := by
  obtain ⟨within, kept⟩ := bubble_perm lt newitem heap.length 0 heap inside
  exact (siftdown_perm lt newitem _ _ _ within).trans kept

theorem heappush_perm (heap : List α) (item : α) :
    (heappush lt heap item).Perm (item :: heap) := by
  have pushed := siftdown_perm lt item heap.length heap.length (heap ++ [item]) (by simp)
  have same : (heap ++ [item]).set heap.length item = heap ++ [item] := by simp
  rw [same] at pushed
  exact pushed.trans (List.perm_append_singleton item heap)

theorem heappop_some {heap rest : List α} {item : α}
    (popped : heappop lt heap = some (item, rest)) :
    (heap = [item] ∧ rest = []) ∨
      ∃ tail final, heap = item :: (tail ++ [final]) ∧
        rest = siftup lt final (item :: tail) := by
  cases heap with
  | nil => cases popped
  | cons first others =>
      have last := List.dropLast_append_getLast (List.cons_ne_nil first others)
      simp only [heappop, List.getLast?_eq_getLast_of_ne_nil (List.cons_ne_nil first others)]
        at popped
      generalize (first :: others).getLast (List.cons_ne_nil first others) = final at *
      cases init : (first :: others).dropLast with
      | nil =>
          rw [init] at popped last
          cases popped
          exact Or.inl ⟨last.symm, rfl⟩
      | cons root tail =>
          rw [init] at popped last
          cases popped
          exact Or.inr ⟨tail, final, last.symm, rfl⟩

theorem heappop_perm {heap rest : List α} {item : α}
    (popped : heappop lt heap = some (item, rest)) : heap.Perm (item :: rest) := by
  rcases heappop_some lt popped with ⟨rfl, rfl⟩ | ⟨tail, final, rfl, rfl⟩
  · exact List.Perm.refl _
  · have sifted : (siftup lt final (item :: tail)).Perm (final :: tail) :=
      siftup_perm lt final (item :: tail) (Nat.succ_pos _)
    calc
      (item :: (tail ++ [final])).Perm (item :: final :: tail) :=
        (List.perm_append_singleton final tail).cons item
      _ |>.Perm (item :: siftup lt final (item :: tail)) := sifted.symm.cons item

/-! ## Items behind a map -/

section Map
variable {β : Type} (f : β → α)

theorem siftdown_map (newitem : β) (fuel pos : Nat) (heap : List β) :
    (siftdown (fun a b => lt (f a) (f b)) newitem fuel pos heap).map f =
      siftdown lt (f newitem) fuel pos (heap.map f) := by
  induction fuel generalizing pos heap with
  | zero => simp [siftdown]
  | succ fuel ih =>
      unfold siftdown
      by_cases root : pos = 0
      · simp [root]
      · rw [if_neg root, if_neg root, List.getElem?_map]
        cases heap[(pos - 1) / 2]? with
        | none => simp
        | some above =>
            simp only [Option.map_some]
            split
            · rw [ih, List.map_set]
            · rw [List.map_set]

theorem smallerChild_map (heap : List β) (pos : Nat) :
    smallerChild lt (heap.map f) pos =
      (smallerChild (fun a b => lt (f a) (f b)) heap pos).map fun found => (found.1, f found.2) := by
  unfold smallerChild
  rw [List.getElem?_map, List.getElem?_map]
  cases heap[2 * pos + 1]? with
  | none => rfl
  | some left =>
      cases heap[2 * pos + 2]? with
      | none => rfl
      | some right =>
          simp only [Option.map_some]
          split <;> rfl

theorem bubble_map (fuel pos : Nat) (heap : List β) :
    bubble lt fuel pos (heap.map f) =
      ((bubble (fun a b => lt (f a) (f b)) fuel pos heap).1,
        (bubble (fun a b => lt (f a) (f b)) fuel pos heap).2.map f) := by
  induction fuel generalizing pos heap with
  | zero => rfl
  | succ fuel ih =>
      unfold bubble
      rw [smallerChild_map]
      cases smallerChild (fun a b => lt (f a) (f b)) heap pos with
      | none => rfl
      | some found =>
          simp only [Option.map_some]
          rw [← List.map_set, ih]

theorem heappush_map (heap : List β) (item : β) :
    (heappush (fun a b => lt (f a) (f b)) heap item).map f =
      heappush lt (heap.map f) (f item) := by
  unfold heappush
  rw [siftdown_map, List.map_append, List.length_map]
  rfl

theorem heappop_map (heap : List β) :
    heappop lt (heap.map f) =
      (heappop (fun a b => lt (f a) (f b)) heap).map fun found => (f found.1, found.2.map f) := by
  cases heap with
  | nil => rfl
  | cons first rest =>
      have ends : ((first :: rest).map f).getLast? = (first :: rest).getLast?.map f :=
        List.getLast?_map
      have begins : ((first :: rest).map f).dropLast = (first :: rest).dropLast.map f :=
        (List.map_dropLast ..).symm
      simp only [List.map_cons] at ends begins
      simp only [heappop, List.map_cons, ends, begins]
      cases (first :: rest).getLast? with
      | none => rfl
      | some last =>
          cases (first :: rest).dropLast with
          | nil => rfl
          | cons root others =>
              simp only [Option.map_some, List.map_cons, siftup, siftdown_map]
              rw [← List.map_cons, List.length_map, bubble_map]

end Map

/-! ## The heap order -/

/-- Items that neither comes before the other are level, and level items
compare alike. -/
structure WeakOrder : Prop where
  asymm : ∀ {a b : α}, lt a b = true → lt b a = false
  trans : ∀ {a b c : α}, lt b a = false → lt c b = false → lt c a = false

def parent (i : Nat) : Nat := (i - 1) / 2

def InOrder (heap : List α) (i j : Nat) : Prop :=
  ∀ a b, heap[i]? = some a → heap[j]? = some b → lt b a = false

def IsHeap (heap : List α) : Prop := ∀ i, 0 < i → InOrder lt heap (parent i) i

/-- Every pair off the hole is in order, and the hole's children do not come
before its parent. -/
structure Hole (heap : List α) (pos : Nat) : Prop where
  others : ∀ i, 0 < i → i ≠ pos → parent i ≠ pos → InOrder lt heap (parent i) i
  across : 0 < pos → ∀ i, 0 < i → parent i = pos → InOrder lt heap (parent pos) i

section Order
variable {lt} {heap : List α} {pos : Nat}

theorem WeakOrder.irrefl (order : WeakOrder lt) (a : α) : lt a a = false := by
  cases self : lt a a with
  | false => rfl
  | true => exact self.symm.trans (order.asymm self)

theorem parent_lt {i : Nat} (inner : 0 < i) : parent i < i := by
  unfold parent
  omega

theorem inOrder_set_of_ne {i j : Nat} {item : α} (apartI : i ≠ pos) (apartJ : j ≠ pos) :
    InOrder lt (heap.set pos item) i j ↔ InOrder lt heap i j := by
  unfold InOrder
  rw [List.getElem?_set_ne (Ne.symm apartI), List.getElem?_set_ne (Ne.symm apartJ)]

theorem inOrder_set_left {j : Nat} {item : α} (inside : pos < heap.length) (apart : j ≠ pos) :
    InOrder lt (heap.set pos item) pos j ↔ ∀ b, heap[j]? = some b → lt b item = false := by
  unfold InOrder
  rw [List.getElem?_set_self inside, List.getElem?_set_ne (Ne.symm apart)]
  simp only [Option.some.injEq]
  constructor
  · intro all b stands
    exact all item b rfl stands
  · rintro all a b rfl stands
    exact all b stands

theorem inOrder_set_right {i : Nat} {item : α} (inside : pos < heap.length) (apart : i ≠ pos) :
    InOrder lt (heap.set pos item) i pos ↔ ∀ a, heap[i]? = some a → lt item a = false := by
  unfold InOrder
  rw [List.getElem?_set_self inside, List.getElem?_set_ne (Ne.symm apart)]
  simp

theorem IsHeap.hole (isHeap : IsHeap lt heap) : Hole lt heap 0 where
  others i inner _ _ := isHeap i inner
  across impossible := absurd impossible (Nat.lt_irrefl 0)

theorem Hole.fill (hole : Hole lt heap pos) (inside : pos < heap.length) {item : α}
    (below : ∀ i, 0 < i → parent i = pos → ∀ b, heap[i]? = some b → lt b item = false)
    (above : 0 < pos → ∀ a, heap[parent pos]? = some a → lt item a = false) :
    IsHeap lt (heap.set pos item) := by
  intro i inner
  have upwards := parent_lt inner
  by_cases here : i = pos
  · subst here
    exact (inOrder_set_right inside (Nat.ne_of_lt upwards)).mpr (above inner)
  · by_cases child : parent i = pos
    · rw [child]
      exact (inOrder_set_left inside here).mpr (below i inner child)
    · exact (inOrder_set_of_ne child here).mpr (hole.others i inner here child)

theorem Hole.up (order : WeakOrder lt) (hole : Hole lt heap pos) (inside : pos < heap.length)
    (inner : 0 < pos) {item : α} (found : heap[parent pos]? = some item) :
    Hole lt (heap.set pos item) (parent pos) where
  others i innerI apart apartParent := by
    by_cases here : i = pos
    · exact absurd (congrArg parent here) apartParent
    · by_cases child : parent i = pos
      · rw [child]
        refine (inOrder_set_left inside here).mpr ?_
        intro b stands
        exact hole.across inner i innerI child item b found stands
      · exact (inOrder_set_of_ne child here).mpr (hole.others i innerI here child)
  across innerParent i innerI child := by
    have upwards := parent_lt inner
    have further := parent_lt innerParent
    have aboveParent := hole.others (parent pos) innerParent (by omega) (by omega)
    by_cases here : i = pos
    · subst here
      refine (inOrder_set_right inside (by omega)).mpr ?_
      intro a stands
      exact aboveParent a item stands found
    · refine (inOrder_set_of_ne (by omega) here).mpr ?_
      intro a b standsA standsB
      have sibling := hole.others i innerI here (by omega)
      rw [child] at sibling
      exact order.trans (aboveParent a item standsA found) (sibling item b found standsB)

theorem smallerChild_least (order : WeakOrder lt) {child : Nat} {item : α}
    (found : smallerChild lt heap pos = some (child, item)) :
    0 < child ∧ parent child = pos ∧
      ∀ i, 0 < i → parent i = pos → ∀ b, heap[i]? = some b → lt b item = false := by
  have least : ∀ item, (∀ b, heap[2 * pos + 1]? = some b → lt b item = false) →
      (∀ b, heap[2 * pos + 2]? = some b → lt b item = false) →
      ∀ i, 0 < i → parent i = pos → ∀ b, heap[i]? = some b → lt b item = false := by
    intro item left right i inner child b stands
    have place : i = 2 * pos + 1 ∨ i = 2 * pos + 2 := by
      unfold parent at child
      omega
    rcases place with rfl | rfl
    · exact left b stands
    · exact right b stands
  have parents : parent (2 * pos + 1) = pos ∧ parent (2 * pos + 2) = pos := by
    unfold parent
    omega
  unfold smallerChild at found
  split at found
  · cases found
  · rename_i left hasLeft noRight
    cases found
    refine ⟨by omega, parents.1, least item ?_ ?_⟩
    · intro b stands
      cases hasLeft.symm.trans stands
      exact order.irrefl item
    · intro b stands
      cases noRight.symm.trans stands
  · rename_i left right hasLeft hasRight
    split at found
    · rename_i smaller
      cases found
      refine ⟨by omega, parents.1, least item ?_ ?_⟩
      · intro b stands
        cases hasLeft.symm.trans stands
        exact order.irrefl item
      · intro b stands
        cases hasRight.symm.trans stands
        exact order.asymm smaller
    · rename_i notSmaller
      cases found
      refine ⟨by omega, parents.2, least item ?_ ?_⟩
      · intro b stands
        cases hasLeft.symm.trans stands
        simpa using notSmaller
      · intro b stands
        cases hasRight.symm.trans stands
        exact order.irrefl item

theorem Hole.down (order : WeakOrder lt) (hole : Hole lt heap pos) (inside : pos < heap.length)
    {child : Nat} {item : α} (found : smallerChild lt heap pos = some (child, item)) :
    Hole lt (heap.set pos item) child := by
  obtain ⟨inner, isChild, least⟩ := smallerChild_least order found
  obtain ⟨below, stands⟩ := smallerChild_spec lt found
  constructor
  · intro i innerI apart apartParent
    have upwards := parent_lt innerI
    by_cases here : i = pos
    · subst here
      refine (inOrder_set_right inside (by omega)).mpr ?_
      intro a standsA
      exact hole.across innerI child inner isChild a item standsA stands
    · by_cases sibling : parent i = pos
      · rw [sibling]
        exact (inOrder_set_left inside here).mpr (least i innerI sibling)
      · exact (inOrder_set_of_ne sibling here).mpr (hole.others i innerI here sibling)
  · intro _ i innerI grandchild
    have upwards := parent_lt innerI
    rw [isChild]
    refine (inOrder_set_left inside (by omega)).mpr ?_
    intro b standsB
    have inOrder := hole.others i innerI (by omega) (by omega)
    rw [grandchild] at inOrder
    exact inOrder item b stands standsB

theorem siftdown_isHeap (order : WeakOrder lt) {newitem : α} {fuel : Nat}
    (enough : pos ≤ fuel) (inside : pos < heap.length) (hole : Hole lt heap pos)
    (below : ∀ i, 0 < i → parent i = pos → ∀ b, heap[i]? = some b → lt b newitem = false) :
    IsHeap lt (siftdown lt newitem fuel pos heap) := by
  induction fuel generalizing pos heap with
  | zero =>
      obtain rfl : pos = 0 := by omega
      exact hole.fill inside below fun impossible => absurd impossible (Nat.lt_irrefl 0)
  | succ fuel ih =>
      unfold siftdown
      by_cases root : pos = 0
      · rw [if_pos root]
        exact hole.fill inside below fun inner => absurd root (Nat.ne_of_gt inner)
      · rw [if_neg root]
        have inner : 0 < pos := Nat.pos_of_ne_zero root
        have upwards := parent_lt inner
        have present : parent pos < heap.length := by omega
        have found : heap[parent pos]? = some heap[parent pos] := List.getElem?_eq_getElem present
        generalize heap[parent pos] = above at found
        have sameParent : heap[(pos - 1) / 2]? = some above := found
        rw [sameParent]
        simp only
        cases smaller : lt newitem above with
        | false =>
            simp only [Bool.false_eq_true, if_false]
            apply hole.fill inside below
            intro _ a stands
            rw [found] at stands
            cases stands
            exact smaller
        | true =>
            simp only [if_true]
            have inside' : parent pos < (heap.set pos above).length := by
              rw [List.length_set]
              exact present
            apply ih (by unfold parent; omega) inside' (hole.up order inside inner found)
            intro i innerI child b stands
            -- the children of the new hole are the old hole and its sibling
            by_cases here : i = pos
            · rw [here, List.getElem?_set_self inside] at stands
              cases stands
              exact order.asymm smaller
            · rw [List.getElem?_set_ne (Ne.symm here)] at stands
              have sibling := hole.others i innerI here (by unfold parent at *; omega)
              have later := sibling above b (child ▸ found) stands
              exact order.trans (order.asymm smaller) later

theorem bubble_hole (order : WeakOrder lt) {fuel : Nat} (enough : heap.length ≤ pos + fuel)
    (inside : pos < heap.length) (hole : Hole lt heap pos) :
    Hole lt (bubble lt fuel pos heap).2 (bubble lt fuel pos heap).1 ∧
      smallerChild lt (bubble lt fuel pos heap).2 (bubble lt fuel pos heap).1 = none := by
  induction fuel generalizing pos heap with
  | zero => omega
  | succ fuel ih =>
      unfold bubble
      cases found : smallerChild lt heap pos with
      | none => exact ⟨hole, found⟩
      | some smaller =>
          obtain ⟨child, item⟩ := smaller
          obtain ⟨below, stands⟩ := smallerChild_spec lt found
          have there : child < heap.length := (List.getElem?_eq_some_iff.mp stands).1
          apply ih
          · rw [List.length_set]
            omega
          · rw [List.length_set]
            exact there
          · exact hole.down order inside found

theorem smallerChild_none {i : Nat} (leaf : smallerChild lt heap pos = none) (inner : 0 < i)
    (child : parent i = pos) : heap[i]? = none := by
  have noLeft : heap[2 * pos + 1]? = none := by
    unfold smallerChild at leaf
    cases left : heap[2 * pos + 1]? with
    | none => rfl
    | some item =>
        rw [left] at leaf
        cases right : heap[2 * pos + 2]? with
        | none => simp [right] at leaf
        | some other =>
            simp only [right] at leaf
            split at leaf <;> cases leaf
  rw [List.getElem?_eq_none_iff] at noLeft ⊢
  unfold parent at child
  omega

theorem siftup_isHeap (order : WeakOrder lt) {newitem : α} (inside : 0 < heap.length)
    (hole : Hole lt heap 0) : IsHeap lt (siftup lt newitem heap) := by
  have enough : heap.length ≤ 0 + heap.length := by omega
  obtain ⟨ends, leaf⟩ := bubble_hole order enough inside hole
  obtain ⟨within, _⟩ := bubble_perm lt newitem heap.length 0 heap inside
  apply siftdown_isHeap order (Nat.le_refl _) within ends
  intro i inner child b stands
  rw [smallerChild_none leaf inner child] at stands
  cases stands

theorem heappush_isHeap (order : WeakOrder lt) (isHeap : IsHeap lt heap) (item : α) :
    IsHeap lt (heappush lt heap item) := by
  have outside : ∀ i, heap.length < i → (heap ++ [item])[i]? = none := by
    intro i beyond
    rw [List.getElem?_eq_none_iff, List.length_append, List.length_singleton]
    omega
  have children : ∀ i, 0 < i → parent i = heap.length → (heap ++ [item])[i]? = none := by
    intro i inner child
    have upwards := parent_lt inner
    exact outside i (by omega)
  apply siftdown_isHeap order (Nat.le_refl _) (by simp)
  · constructor
    · intro i inner apart _ a b standsA standsB
      have within : i < heap.length := by
        by_contra beyond
        rw [outside i (by omega)] at standsB
        cases standsB
      have upwards := parent_lt inner
      rw [List.getElem?_append_left within] at standsB
      rw [List.getElem?_append_left (by omega)] at standsA
      exact isHeap i inner a b standsA standsB
    · intro _ i inner child a b _ stands
      rw [children i inner child] at stands
      cases stands
  · intro i inner child b stands
    rw [children i inner child] at stands
    cases stands

theorem IsHeap.root_least (order : WeakOrder lt) (isHeap : IsHeap lt heap) {root : α}
    (first : heap[0]? = some root) (i : Nat) :
    ∀ item, heap[i]? = some item → lt item root = false := by
  induction i using Nat.strongRecOn with
  | ind i ih =>
      intro item stands
      by_cases top : i = 0
      · rw [top, first] at stands
        cases stands
        exact order.irrefl _
      · have inner : 0 < i := Nat.pos_of_ne_zero top
        have upwards := parent_lt inner
        have inside : i < heap.length := (List.getElem?_eq_some_iff.mp stands).1
        have found : heap[parent i]? = some heap[parent i] :=
          List.getElem?_eq_getElem (by omega)
        exact order.trans (ih (parent i) upwards _ found) (isHeap i inner _ item found stands)

theorem heappop_eq_none_iff : heappop lt heap = none ↔ heap = [] := by
  cases heap with
  | nil => simp [heappop]
  | cons first rest =>
      simp only [heappop, List.getLast?_eq_getLast_of_ne_nil (List.cons_ne_nil first rest)]
      cases (first :: rest).dropLast <;> simp

theorem heappop_isHeap (order : WeakOrder lt) (isHeap : IsHeap lt heap) {item : α}
    {rest : List α} (popped : heappop lt heap = some (item, rest)) :
    IsHeap lt rest ∧ ∀ other ∈ heap, lt other item = false := by
  have least : heap[0]? = some item → ∀ other ∈ heap, lt other item = false := by
    intro root other member
    obtain ⟨i, stands⟩ := List.mem_iff_getElem?.mp member
    exact isHeap.root_least order root i other stands
  rcases heappop_some lt popped with ⟨rfl, rfl⟩ | ⟨tail, final, rfl, rfl⟩
  · exact ⟨fun i _ a b standsA => by simp at standsA, least rfl⟩
  · refine ⟨?_, least rfl⟩
    refine siftup_isHeap order (List.length_pos_of_ne_nil (List.cons_ne_nil item tail)) ?_
    apply IsHeap.hole
    intro i inner a b standsA standsB
    have grown : ∀ (j : Nat) (x : α), (item :: tail)[j]? = some x →
        (item :: (tail ++ [final]))[j]? = some x := by
      intro j x stands
      have inside : j < (item :: tail).length := (List.getElem?_eq_some_iff.mp stands).1
      rw [← List.cons_append, List.getElem?_append_left inside]
      exact stands
    exact isHeap i inner a b (grown _ a standsA) (grown i b standsB)

end Order

end CloudOS.Lib.Heapq
