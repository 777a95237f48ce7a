import Mathlib.Data.List.Sort

/-!
# Pages of a sorted list

`ORDER BY key DESC LIMIT limit OFFSET offset`: the rows are arranged by falling keys,
those with equal keys in any order, and a page is cut out of the arrangement.

A reader who asks for page after page sees a list that may have grown meanwhile.  When it
grows at the front only, an element can move to a later page but never to an earlier one,
so the pages up to the first short one show every element of the first list.
-/

set_option autoImplicit false

namespace CloudOS.Lib.Pages

variable {R K V : Type} [LinearOrder K]

def page (offset limit : Nat) (rows : List R) : List R := (rows.drop offset).take limit

/-- `ORDER BY key DESC` -/
structure Arranges (key : R → K) (rows arranged : List R) : Prop where
  perm : arranged.Perm rows
  falling : arranged.Pairwise fun a b => key b ≤ key a

def Ascending (key : R → K) (rows : List R) : Prop := rows.Pairwise fun a b => key a < key b

theorem Ascending.filter {key : R → K} {rows : List R} (ascending : Ascending key rows)
    (keep : R → Bool) : Ascending key (rows.filter keep) :=
  List.Pairwise.filter keep ascending

theorem Ascending.eq_of_key_eq {key : R → K} {rows : List R} (ascending : Ascending key rows)
    {a b : R} (first : a ∈ rows) (second : b ∈ rows) (same : key a = key b) : a = b := by
  induction rows with
  | nil => exact absurd first List.not_mem_nil
  | cons head tail ih =>
      obtain ⟨below, ascending⟩ := List.pairwise_cons.mp ascending
      rcases List.mem_cons.mp first with rfl | inTail
      · rcases List.mem_cons.mp second with rfl | inTail
        · rfl
        · exact absurd same (below b inTail).ne
      · rcases List.mem_cons.mp second with rfl | alsoInTail
        · exact absurd same (below a inTail).ne'
        · exact ih ascending inTail alsoInTail

theorem Arranges.eq_reverse {key : R → K} {rows arranged : List R}
    (arranges : Arranges key rows arranged) (ascending : Ascending key rows) :
    arranged = rows.reverse := by
  have backwards : rows.reverse.Pairwise fun a b => key b ≤ key a :=
    List.pairwise_reverse.mpr (List.Pairwise.imp le_of_lt ascending)
  refine List.Perm.eq_of_pairwise ?_ arranges.falling backwards
    (arranges.perm.trans (List.reverse_perm rows).symm)
  intro a b first second below above
  exact ascending.eq_of_key_eq (arranges.perm.mem_iff.mp first) (List.mem_reverse.mp second)
    (le_antisymm above below)

theorem arranges_insertionSort (key : R → K) (rows : List R) :
    Arranges key rows (rows.insertionSort fun a b => key b ≤ key a) := by
  have total : Std.Total fun a b : R => key b ≤ key a := ⟨fun a b => le_total (key b) (key a)⟩
  have transitive : IsTrans R fun a b => key b ≤ key a := ⟨fun a b c first second => second.trans first⟩
  exact ⟨List.perm_insertionSort _ rows, List.pairwise_insertionSort _ rows⟩

/-! ## Page after page -/

theorem mem_page {rows : List R} {x : R} {index offset limit : Nat}
    (stands : rows[index]? = some x) (lower : offset ≤ index) (upper : index < offset + limit) :
    x ∈ page offset limit rows := by
  apply List.mem_of_getElem? (i := index - offset)
  rw [page, List.getElem?_take_of_lt (by omega), List.getElem?_drop, Nat.add_sub_cancel' lower,
    stands]

theorem length_page (offset limit : Nat) (rows : List R) :
    (page offset limit rows).length = min limit (rows.length - offset) := by
  rw [page, List.length_take, List.length_drop]

theorem map_page (view : R → V) (offset limit : Nat) (rows : List R) :
    (page offset limit rows).map view = page offset limit (rows.map view) := by
  rw [page, page, List.map_take, List.map_drop]

theorem later_place {before grown : List R} (grows : before <:+ grown) {x : R} {index : Nat}
    (stands : before[index]? = some x) :
    ∃ later, index ≤ later ∧ grown[later]? = some x := by
  obtain ⟨front, rfl⟩ := grows
  exact ⟨front.length + index, Nat.le_add_left _ _, by
    rw [List.getElem?_append_right (Nat.le_add_right _ _), Nat.add_sub_cancel_left, stands]⟩

section Growing
variable {views : Nat → List R} (grows : ∀ k, views k <:+ views (k + 1)) (limit : Nat) {x : R}

include grows in
/-- After `k` pages an element was on one of them or still stands behind them. -/
theorem shown_or_ahead (member : x ∈ views 0) (k : Nat) :
    (∃ j < k, x ∈ page (j * limit) limit (views j)) ∨
      ∃ index, k * limit ≤ index ∧ (views k)[index]? = some x := by
  induction k with
  | zero =>
      obtain ⟨index, stands⟩ := List.getElem?_of_mem member
      exact .inr ⟨index, by omega, stands⟩
  | succ k ih =>
      rcases ih with ⟨j, earlier, shown⟩ | ⟨index, ahead, stands⟩
      · exact .inl ⟨j, Nat.lt_succ_of_lt earlier, shown⟩
      · by_cases here : index < k * limit + limit
        · exact .inl ⟨k, Nat.lt_succ_self k, mem_page stands ahead here⟩
        · obtain ⟨later, moved, stands⟩ := later_place (grows k) stands
          exact .inr ⟨later, by rw [Nat.succ_mul]; omega, stands⟩

include grows in
theorem shown_by_short_page (member : x ∈ views 0) {n : Nat}
    (short : (page (n * limit) limit (views n)).length < limit) :
    ∃ k ≤ n, x ∈ page (k * limit) limit (views k) := by
  rcases shown_or_ahead grows limit member n with ⟨j, earlier, shown⟩ | ⟨index, ahead, stands⟩
  · exact ⟨j, earlier.le, shown⟩
  · rw [length_page] at short
    have inside : index < (views n).length := (List.getElem?_eq_some_iff.mp stands).1
    exact ⟨n, le_rfl, mem_page stands ahead (by omega)⟩

end Growing

end CloudOS.Lib.Pages
