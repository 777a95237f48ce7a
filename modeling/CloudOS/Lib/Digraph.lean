import Mathlib.Logic.Relation

/-!
# Cycles of a finite directed graph

A graph is its list of edges.  `findCycle` looks for a walk from a vertex back
to itself, with Warshall's recursion: the inner vertices of the walks it looks
at are taken from a list of pivots that grows by one at each level.
-/

set_option autoImplicit false

namespace CloudOS.Lib.Digraph

variable {V : Type}

def Linked (edges : List (V × V)) (a b : V) : Prop := (a, b) ∈ edges

/-- Some vertex leads back to itself. -/
def HasCycle (edges : List (V × V)) : Prop := ∃ v, Relation.TransGen (Linked edges) v v

theorem HasCycle.mono {edges more : List (V × V)} (sub : edges ⊆ more)
    (cyclic : HasCycle edges) : HasCycle more := by
  obtain ⟨v, around⟩ := cyclic
  have kept : ∀ a b, Linked edges a b → Linked more a b := fun _ _ linked => sub linked
  exact ⟨v, around.lift id kept⟩

theorem exists_sink {edges : List (V × V)} (acyclic : ¬ HasCycle edges) {vertices : List V}
    (inhabited : vertices ≠ []) :
    ∃ v ∈ vertices, ∀ w ∈ vertices, ¬ Relation.TransGen (Linked edges) v w := by
  induction vertices with
  | nil => exact absurd rfl inhabited
  | cons first rest ih =>
      have noReturn : ¬ Relation.TransGen (Linked edges) first first :=
        fun around => acyclic ⟨first, around⟩
      cases rest with
      | nil => exact ⟨first, List.mem_cons_self, by simpa using noReturn⟩
      | cons second others =>
          obtain ⟨sink, member, stuck⟩ := ih (List.cons_ne_nil second others)
          by_cases leads : Relation.TransGen (Linked edges) sink first
          · -- what the old sink leads to is a sink of the whole list
            refine ⟨first, List.mem_cons_self, ?_⟩
            intro w among
            rcases List.mem_cons.mp among with rfl | later
            · exact noReturn
            · exact fun onwards => stuck w later (leads.trans onwards)
          · refine ⟨sink, List.mem_cons_of_mem first member, ?_⟩
            intro w among
            rcases List.mem_cons.mp among with rfl | later
            · exact leads
            · exact stuck w later

theorem not_hasCycle_of_rank {edges : List (V × V)} (rank : V → Nat)
    (down : ∀ a b, (a, b) ∈ edges → rank b < rank a) : ¬ HasCycle edges := by
  rintro ⟨v, around⟩
  have lower : ∀ w, Relation.TransGen (Linked edges) v w → rank w < rank v := by
    intro w reached
    induction reached with
    | single linked => exact down _ _ linked
    | tail _ linked ih => exact Nat.lt_trans (down _ _ linked) ih
  exact Nat.lt_irrefl _ (lower v around)

section Search
variable [DecidableEq V] (edges : List (V × V))

/-- A walk from `a` to `b` with all its inner vertices among the pivots. -/
def walk : List V → V → V → Option (List (V × V))
  | [], a, b => if (a, b) ∈ edges then some [(a, b)] else none
  | pivot :: rest, a, b =>
      (walk rest a b).or
        ((walk rest a pivot).bind fun first => (walk rest pivot b).map fun second => first ++ second)

def findCycle (vertices : List V) : Option (List (V × V)) :=
  vertices.findSome? fun v => walk edges vertices v v

variable {edges}

theorem walk_cons_isSome (pivot : V) (rest : List V) (a b : V) :
    (walk edges (pivot :: rest) a b).isSome = true ↔
      (walk edges rest a b).isSome = true ∨
        (walk edges rest a pivot).isSome = true ∧ (walk edges rest pivot b).isSome = true := by
  simp only [walk, Option.isSome_or, Bool.or_eq_true]
  cases walk edges rest a pivot <;> simp

theorem walk_of_edge {a b : V} (linked : Linked edges a b) (pivots : List V) :
    (walk edges pivots a b).isSome = true := by
  induction pivots with
  | nil =>
      have member : (a, b) ∈ edges := linked
      simp [walk, member]
  | cons pivot rest ih => exact (walk_cons_isSome pivot rest a b).mpr (Or.inl ih)

theorem walk_trans {pivots : List V} {a m b : V} (pivotal : m ∈ pivots)
    (first : (walk edges pivots a m).isSome = true)
    (second : (walk edges pivots m b).isSome = true) :
    (walk edges pivots a b).isSome = true := by
  induction pivots generalizing a m b with
  | nil => simp at pivotal
  | cons pivot rest ih =>
      rw [walk_cons_isSome] at first second ⊢
      rcases List.mem_cons.mp pivotal with rfl | later
      · have toPivot : (walk edges rest a m).isSome = true := first.elim id And.left
        have fromPivot : (walk edges rest m b).isSome = true := second.elim id And.right
        exact Or.inr ⟨toPivot, fromPivot⟩
      · rcases first with first | ⟨toPivot, back⟩
        · rcases second with second | ⟨there, fromPivot⟩
          · exact Or.inl (ih later first second)
          · exact Or.inr ⟨ih later first there, fromPivot⟩
        · rcases second with second | ⟨_, fromPivot⟩
          · exact Or.inr ⟨toPivot, ih later back second⟩
          · exact Or.inr ⟨toPivot, fromPivot⟩

theorem walk_sound {pivots : List V} {a b : V} (found : (walk edges pivots a b).isSome = true) :
    Relation.TransGen (Linked edges) a b := by
  induction pivots generalizing a b with
  | nil =>
      have member : (a, b) ∈ edges := by simpa [walk] using found
      exact Relation.TransGen.single member
  | cons pivot rest ih =>
      rcases (walk_cons_isSome pivot rest a b).mp found with direct | ⟨first, second⟩
      · exact ih direct
      · exact (ih first).trans (ih second)

theorem walk_complete {vertices : List V} (starts : ∀ edge ∈ edges, edge.1 ∈ vertices) {a b : V}
    (leads : Relation.TransGen (Linked edges) a b) :
    (walk edges vertices a b).isSome = true := by
  induction leads with
  | single linked => exact walk_of_edge linked vertices
  | tail _ linked ih => exact walk_trans (starts _ linked) ih (walk_of_edge linked vertices)

theorem findCycle_isSome_iff {vertices : List V} (starts : ∀ edge ∈ edges, edge.1 ∈ vertices) :
    (findCycle edges vertices).isSome = true ↔ HasCycle edges := by
  unfold findCycle HasCycle
  rw [List.findSome?_isSome_iff]
  constructor
  · rintro ⟨v, _, found⟩
    exact ⟨v, walk_sound found⟩
  · rintro ⟨v, around⟩
    obtain ⟨w, linked, _⟩ := Relation.TransGen.head'_iff.mp around
    exact ⟨v, starts _ linked, walk_complete starts around⟩

end Search

end CloudOS.Lib.Digraph
