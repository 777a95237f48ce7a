import Mathlib.Data.List.Basic

/-!
# Tables of a relational database

A table is the list of its rows, oldest first.  An `UPDATE` writes to every row its
`WHERE` clause selects, or, when one of the new rows breaks a constraint, to none.
-/

set_option autoImplicit false

namespace CloudOS.Lib.Tables

variable {R V : Type} (selected : R → Bool) (set : R → R) (valid : R → Bool)

def updateRow (row : R) : R := if selected row then set row else row

/-- Every selected row may be written. -/
def updatable (rows : List R) : Bool := rows.all fun row => !selected row || valid (set row)

def update (rows : List R) : Option (List R × Nat) :=
  if updatable selected set valid rows then
    some (rows.map (updateRow selected set), rows.countP selected)
  else none

variable {selected set valid}

theorem updatable_iff {rows : List R} :
    updatable selected set valid rows = true ↔
      ∀ row ∈ rows, selected row = true → valid (set row) = true := by
  rw [updatable, List.all_eq_true]
  simp only [Bool.or_eq_true, Bool.not_eq_true', ← Bool.not_eq_true, ← imp_iff_not_or]

theorem updateRow_of_selected {row : R} (isSelected : selected row = true) :
    updateRow selected set row = set row := by
  rw [updateRow, if_pos isSelected]

theorem updateRow_of_not_selected {row : R} (spared : selected row = false) :
    updateRow selected set row = row := by
  rw [updateRow, if_neg (by simp [spared])]

theorem filter_map_updateRow {keep : R → Bool} (kept : ∀ row, keep (set row) = keep row)
    (rows : List R) :
    (rows.map (updateRow selected set)).filter keep =
      (rows.filter keep).map (updateRow selected set) := by
  rw [List.filter_map]
  congr 1
  apply List.filter_congr
  intro row _
  rw [Function.comp_apply, updateRow]
  split
  next => exact kept row
  next => rfl

theorem map_view_updateRow_iff {view : R → V}
    (shows : ∀ row, selected row = true → view (set row) ≠ view row) (rows : List R) :
    (rows.map (updateRow selected set)).map view = rows.map view ↔
      ∀ row ∈ rows, selected row = false := by
  rw [List.map_map, List.map_inj_left]
  constructor
  · intro same row member
    have unchanged := same row member
    cases isSelected : selected row with
    | false => rfl
    | true =>
        rw [Function.comp_apply, updateRow_of_selected isSelected] at unchanged
        exact absurd unchanged (shows row isSelected)
  · intro none row member
    rw [Function.comp_apply, updateRow_of_not_selected (none row member)]

variable (selected set) in
def updateIf (takes : Bool) (rows : List R) : List R :=
  if takes then rows.map (updateRow selected set) else rows

theorem map_view_updateIf_iff {view : R → V}
    (shows : ∀ row, selected row = true → view (set row) ≠ view row) (first second : Bool)
    (rows : List R) :
    (updateIf selected set first rows).map view = (updateIf selected set second rows).map view ↔
      ∀ row ∈ rows, selected row = true → first = second := by
  have unseen := map_view_updateRow_iff shows rows
  cases first <;> cases second
  · simp
  · rw [eq_comm]
    simpa [updateIf] using unseen
  · simpa [updateIf] using unseen
  · simp

/-! ## Rows under distinct keys -/

section Keyed
variable {K : Type} {key : R → K}

theorem map_key_filterMap_sublist {edit : R → Option R}
    (keeps : ∀ row left, edit row = some left → key left = key row) (rows : List R) :
    ((rows.filterMap edit).map key).Sublist (rows.map key) := by
  induction rows with
  | nil => exact .slnil
  | cons row rest ih =>
      cases kept : edit row with
      | none =>
          rw [List.filterMap_cons_none kept, List.map_cons]
          exact ih.cons _
      | some left =>
          rw [List.filterMap_cons_some kept, List.map_cons, List.map_cons, keeps row left kept]
          exact ih.cons_cons _

variable [DecidableEq K]

variable (key) in
def editRow (k : K) (edit : R → Option R) (row : R) : Option R :=
  if key row = k then edit row else some row

theorem editRow_view {k : K} {edit : R → Option R} {view : R → V}
    (keeps : ∀ row left, edit row = some left → view left = view row) {row left : R}
    (edited : editRow key k edit row = some left) : view left = view row := by
  unfold editRow at edited
  split at edited
  next => exact keeps row left edited
  next => rw [Option.some.inj edited]

theorem find?_filterMap_editRow {edit : R → Option R}
    (keeps : ∀ row left, edit row = some left → key left = key row) {rows : List R}
    (distinct : (rows.map key).Nodup) (k other : K) :
    (rows.filterMap (editRow key k edit)).find? (fun row => key row = other) =
      if other = k then (rows.find? fun row => key row = k).bind edit
      else rows.find? fun row => key row = other := by
  induction rows with
  | nil => simp
  | cons row rest ih =>
      rw [List.map_cons, List.nodup_cons] at distinct
      specialize ih distinct.2
      by_cases here : key row = k
      · -- no later row has this key
        have last : (rest.find? fun row => key row = k) = none := by
          rw [List.find?_eq_none]
          intro later member same
          refine distinct.1 (List.mem_map.mpr ⟨later, member, ?_⟩)
          exact (of_decide_eq_true same).trans here.symm
        rw [last] at ih
        cases edited : edit row with
        | none =>
            rw [List.filterMap_cons_none (by rw [editRow, if_pos here, edited]), ih]
            by_cases same : other = k
            · simp [same, here, edited]
            · have apart : key row ≠ other := fun found => same (found.symm.trans here)
              simp [same, apart]
        | some left =>
            have there : key left = k := (keeps row left edited).trans here
            rw [List.filterMap_cons_some (by rw [editRow, if_pos here, edited])]
            by_cases same : other = k
            · simp [same, here, there, edited]
            · have apart : k ≠ other := Ne.symm same
              rw [if_neg same] at ih
              simp [same, here, there, apart, ih]
      · rw [List.filterMap_cons_some (by rw [editRow, if_neg here])]
        by_cases found : key row = other
        · have apart : other ≠ k := fun same => here (found.trans same)
          simp [found, apart]
        · simp [found, here, ih]

end Keyed

end CloudOS.Lib.Tables
