import CloudOS.Lib.Digraph
import Mathlib.Data.List.Perm.Basic

/-!
# Topological orders of a finite directed graph

In a topological order no vertex stands behind one that it leads to.  Taking out, again
and again, a vertex that leads to none of the rest gives one backwards, and in a graph
without a cycle there always is such a vertex.
-/

set_option autoImplicit false

namespace CloudOS.Lib.TopologicalOrder

open CloudOS.Lib.Digraph

variable {V : Type}

structure IsTopological (edges : List (V × V)) (vertices order : List V) : Prop where
  perm : order.Perm vertices
  forwards : order.Pairwise fun a b => (b, a) ∉ edges

section Sorting
variable [DecidableEq V] (edges : List (V × V))

def sink (vertices : List V) : Option V :=
  vertices.find? fun v => vertices.all fun w => !edges.contains (v, w)

def sinksFirst : Nat → List V → List V
  | 0, _ => []
  | fuel + 1, vertices =>
      (sink edges vertices).elim [] fun v => v :: sinksFirst fuel (vertices.erase v)

def topologicalSort (vertices : List V) : List V :=
  (sinksFirst edges vertices.length vertices).reverse

variable {edges}

theorem sink_spec {vertices : List V} {v : V} (found : sink edges vertices = some v) :
    v ∈ vertices ∧ ∀ w ∈ vertices, (v, w) ∉ edges := by
  have stuck := List.find?_some found
  refine ⟨List.mem_of_find?_eq_some found, ?_⟩
  intro w among
  have apart := List.all_eq_true.mp stuck w among
  simpa using apart

theorem sink_isSome (acyclic : ¬ HasCycle edges) {vertices : List V} (inhabited : vertices ≠ []) :
    ∃ v, sink edges vertices = some v := by
  obtain ⟨v, member, stuck⟩ := exists_sink acyclic inhabited
  rw [← Option.isSome_iff_exists, sink, List.find?_isSome]
  refine ⟨v, member, ?_⟩
  rw [List.all_eq_true]
  intro w among
  have apart : (v, w) ∉ edges := fun linked => stuck w among (Relation.TransGen.single linked)
  simpa using apart

theorem sinksFirst_spec (acyclic : ¬ HasCycle edges) (fuel : Nat) (vertices : List V)
    (enough : vertices.length = fuel) :
    (sinksFirst edges fuel vertices).Perm vertices ∧
      (sinksFirst edges fuel vertices).Pairwise fun a b => (a, b) ∉ edges := by
  induction fuel generalizing vertices with
  | zero =>
      obtain rfl := List.length_eq_zero_iff.mp enough
      exact ⟨.refl _, List.Pairwise.nil⟩
  | succ fuel ih =>
      have inhabited : vertices ≠ [] := by
        rintro rfl
        cases enough
      obtain ⟨v, found⟩ := sink_isSome acyclic inhabited
      obtain ⟨member, stuck⟩ := sink_spec found
      have shorter : (vertices.erase v).length = fuel := by
        rw [List.length_erase_of_mem member, enough, Nat.add_sub_cancel]
      obtain ⟨perm, backwards⟩ := ih (vertices.erase v) shorter
      rw [sinksFirst, found, Option.elim_some]
      refine ⟨(perm.cons v).trans (List.perm_cons_erase member).symm, ?_⟩
      refine List.pairwise_cons.mpr ⟨?_, backwards⟩
      intro w later
      exact stuck w (List.mem_of_mem_erase (perm.mem_iff.mp later))

theorem isTopological_topologicalSort (acyclic : ¬ HasCycle edges) (vertices : List V) :
    IsTopological edges vertices (topologicalSort edges vertices) := by
  obtain ⟨perm, backwards⟩ := sinksFirst_spec acyclic vertices.length vertices rfl
  exact ⟨(List.reverse_perm _).trans perm, List.pairwise_reverse.mpr backwards⟩

end Sorting

theorem IsTopological.mem_later {edges : List (V × V)} {vertices order : List V}
    (sorted : IsTopological edges vertices order) (acyclic : ¬ HasCycle edges) {before later : List V}
    {v w : V} (split : order = before ++ v :: later) (linked : (v, w) ∈ edges)
    (member : w ∈ vertices) : w ∈ later := by
  have listed : w ∈ before ++ v :: later := split ▸ sorted.perm.mem_iff.mpr member
  rcases List.mem_append.mp listed with earlier | rest
  · have forwards := sorted.forwards
    rw [split, List.pairwise_append] at forwards
    exact absurd linked (forwards.2.2 w earlier v List.mem_cons_self)
  · rcases List.mem_cons.mp rest with rfl | behind
    · exact absurd ⟨w, Relation.TransGen.single linked⟩ acyclic
    · exact behind

end CloudOS.Lib.TopologicalOrder
