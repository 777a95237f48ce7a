import Mathlib.Computability.RegularExpressions

/-!
# Patterns over characters

The notations of pattern languages over Mathlib's regular expressions: sets of
characters, `+`, `?` and bounded repetition.  `fullMatch` is a pattern anchored
at both ends.  The lemmas say what a pattern matches in terms of the text.
-/

set_option autoImplicit false

namespace CloudOS.Lib.Patterns

open RegularExpression

abbrev Pattern : Type := RegularExpression Char

def oneOf (chars : List Char) : Pattern := chars.foldr (fun c rest => char c + rest) 0

def oneOrMore (p : Pattern) : Pattern := p * p.star

def optional (p : Pattern) : Pattern := 1 + p

def atMost : Nat → Pattern → Pattern
  | 0, _ => 1
  | n + 1, p => 1 + p * atMost n p

def fullMatch (p : Pattern) (text : String) : Bool := p.rmatch text.toList

theorem oneOf_rmatch_iff (chars text : List Char) :
    (oneOf chars).rmatch text = true ↔ ∃ c ∈ chars, text = [c] := by
  induction chars with
  | nil =>
      have nothing : oneOf [] = 0 := rfl
      simp [nothing, zero_rmatch]
  | cons first rest ih =>
      have more : oneOf (first :: rest) = char first + oneOf rest := rfl
      rw [more, add_rmatch_iff, char_rmatch_iff, ih]
      simp

theorem star_oneOf_rmatch_iff (chars text : List Char) :
    (oneOf chars).star.rmatch text = true ↔ ∀ c ∈ text, c ∈ chars := by
  rw [star_rmatch_iff]
  simp only [oneOf_rmatch_iff]
  constructor
  · rintro ⟨pieces, rfl, each⟩ c member
    obtain ⟨piece, listed, inside⟩ := List.mem_flatten.mp member
    obtain ⟨_, d, allowed, rfl⟩ := each piece listed
    obtain rfl : c = d := by simpa using inside
    exact allowed
  · intro allowed
    refine ⟨text.map fun c => [c], ?_, ?_⟩
    · induction text with
      | nil => rfl
      | cons c rest ih =>
          have restAllowed : ∀ d ∈ rest, d ∈ chars :=
            fun d member => allowed d (List.mem_cons_of_mem c member)
          rw [List.map_cons, List.flatten_cons, ← ih restAllowed, List.singleton_append]
    · intro piece listed
      obtain ⟨c, member, rfl⟩ := List.mem_map.mp listed
      exact ⟨List.cons_ne_nil c [], c, allowed c member, rfl⟩

theorem oneOrMore_oneOf_rmatch_iff (chars text : List Char) :
    (oneOrMore (oneOf chars)).rmatch text = true ↔ text ≠ [] ∧ ∀ c ∈ text, c ∈ chars := by
  rw [oneOrMore, mul_rmatch_iff]
  simp only [oneOf_rmatch_iff, star_oneOf_rmatch_iff]
  constructor
  · rintro ⟨_, rest, rfl, ⟨c, allowed, rfl⟩, others⟩
    refine ⟨List.cons_ne_nil c rest, ?_⟩
    intro d member
    rcases List.mem_cons.mp member with rfl | later
    · exact allowed
    · exact others d later
  · rintro ⟨nonempty, allowed⟩
    cases text with
    | nil => exact absurd rfl nonempty
    | cons c rest =>
        refine ⟨[c], rest, rfl, ⟨c, allowed c List.mem_cons_self, rfl⟩, ?_⟩
        exact fun d member => allowed d (List.mem_cons_of_mem c member)

theorem optional_rmatch_iff (p : Pattern) (text : List Char) :
    (optional p).rmatch text = true ↔ text = [] ∨ p.rmatch text = true := by
  rw [optional, add_rmatch_iff, one_rmatch_iff]

end CloudOS.Lib.Patterns
