import Mathlib.Data.List.Infix

/-!
# Glob patterns

The patterns of Redis: `*` for any text, `?` for any character, a set in
brackets for one character, and a backslash before a character that is meant
as it is.  A pattern is read into tokens first; a set that is not closed ends
with the pattern.
-/

set_option autoImplicit false

namespace CloudOS.Lib.Glob

inductive Token where
  | star
  | any
  | set (negated : Bool) (ranges : List (Char × Char))
  | literal (c : Char)
  deriving DecidableEq, Repr

/-- Where the reader of a pattern is: between tokens, after a backslash, just
after an opening bracket, or within a set with the ranges read so far, there
also after a backslash, after a character that may begin a range, or after the
dash of a range. -/
inductive Mode where
  | between
  | escaped
  | opened
  | within (negated : Bool) (ranges : List (Char × Char))
  | withinEscaped (negated : Bool) (ranges : List (Char × Char))
  | pending (negated : Bool) (ranges : List (Char × Char)) (first : Char)
  | dashed (negated : Bool) (ranges : List (Char × Char)) (first : Char)

def advanceWithin (negated : Bool) (ranges : List (Char × Char)) (c : Char) : List Token × Mode :=
  if c = ']' then ([.set negated ranges], .between)
  else if c = '\\' then ([], .withinEscaped negated ranges)
  else ([], .pending negated ranges c)

/-- The tokens that a character completes, and where the reader is then. -/
def advance (mode : Mode) (c : Char) : List Token × Mode :=
  match mode with
  | .between =>
      if c = '*' then ([.star], .between)
      else if c = '?' then ([.any], .between)
      else if c = '[' then ([], .opened)
      else if c = '\\' then ([], .escaped)
      else ([.literal c], .between)
  | .escaped => ([.literal c], .between)
  | .opened => if c = '^' then ([], .within true []) else advanceWithin false [] c
  | .within negated ranges => advanceWithin negated ranges c
  | .withinEscaped negated ranges => ([], .within negated ((c, c) :: ranges))
  | .pending negated ranges first =>
      if c = '-' then ([], .dashed negated ranges first)
      else advanceWithin negated ((first, first) :: ranges) c
  | .dashed negated ranges first => ([], .within negated ((first, c) :: ranges))

def finish : Mode → List Token
  | .between => []
  | .escaped => [.literal '\\']
  | .opened => [.set false []]
  | .within negated ranges => [.set negated ranges]
  | .withinEscaped negated ranges => [.set negated (('\\', '\\') :: ranges)]
  | .pending negated ranges first => [.set negated ((first, first) :: ranges)]
  | .dashed negated ranges first => [.set negated (('-', '-') :: (first, first) :: ranges)]

def tokens (mode : Mode) : List Char → List Token
  | [] => finish mode
  | c :: rest => (advance mode c).1 ++ tokens (advance mode c).2 rest

/-- The ends of a range may stand in either order. -/
def inRange (c : Char) (range : Char × Char) : Bool :=
  (range.1 ≤ c ∧ c ≤ range.2) ∨ (range.2 ≤ c ∧ c ≤ range.1)

def globMatch : List Token → List Char → Bool
  | [], text => text.isEmpty
  | .star :: pattern, text => text.tails.any (globMatch pattern)
  | .any :: pattern, text =>
      match text with
      | [] => false
      | _ :: text => globMatch pattern text
  | .set negated ranges :: pattern, text =>
      match text with
      | [] => false
      | c :: text => (ranges.any (inRange c) != negated) && globMatch pattern text
  | .literal d :: pattern, text =>
      match text with
      | [] => false
      | c :: text => decide (c = d) && globMatch pattern text

def globMatches (pattern text : String) : Bool :=
  globMatch (tokens .between pattern.toList) text.toList

/-! ## Patterns read back -/

def Plain (c : Char) : Prop := c ≠ '*' ∧ c ≠ '?' ∧ c ≠ '[' ∧ c ≠ '\\'

instance (c : Char) : Decidable (Plain c) :=
  inferInstanceAs (Decidable (c ≠ '*' ∧ c ≠ '?' ∧ c ≠ '[' ∧ c ≠ '\\'))

theorem advance_plain {c : Char} (plain : Plain c) :
    advance .between c = ([.literal c], .between) := by
  obtain ⟨noStar, noAny, noSet, noEscape⟩ := plain
  simp only [advance, if_neg noStar, if_neg noAny, if_neg noSet, if_neg noEscape]

theorem tokens_plain {text : List Char} (plain : ∀ c ∈ text, Plain c) (rest : List Char) :
    tokens .between (text ++ rest) = text.map Token.literal ++ tokens .between rest := by
  induction text with
  | nil => rfl
  | cons c text ih =>
      have others : ∀ d ∈ text, Plain d := fun d member => plain d (List.mem_cons_of_mem c member)
      simp [tokens, advance_plain (plain c List.mem_cons_self), ih others]

theorem tokens_star (rest : List Char) :
    tokens .between ('*' :: rest) = .star :: tokens .between rest := by
  simp [tokens, advance]

theorem globMatch_literals {pattern : List Token} (literals text : List Char) :
    globMatch (literals.map Token.literal ++ pattern) text = true ↔
      ∃ rest, text = literals ++ rest ∧ globMatch pattern rest = true := by
  induction literals generalizing text with
  | nil => simp
  | cons d literals ih =>
      cases text with
      | nil => simp [globMatch]
      | cons c text =>
          simp only [List.map_cons, List.cons_append, globMatch, Bool.and_eq_true,
            decide_eq_true_eq, ih, List.cons.injEq]
          constructor
          · rintro ⟨rfl, rest, rfl, matched⟩
            exact ⟨rest, ⟨rfl, rfl⟩, matched⟩
          · rintro ⟨rest, ⟨rfl, rfl⟩, matched⟩
            exact ⟨rfl, rest, rfl, matched⟩

theorem globMatch_star {pattern : List Token} (text : List Char) :
    globMatch (.star :: pattern) text = true ↔
      ∃ skipped rest, text = skipped ++ rest ∧ globMatch pattern rest = true := by
  simp only [globMatch, List.any_eq_true, List.mem_tails]
  constructor
  · rintro ⟨rest, ⟨skipped, rfl⟩, matched⟩
    exact ⟨skipped, rest, rfl, matched⟩
  · rintro ⟨skipped, rest, rfl, matched⟩
    exact ⟨rest, ⟨skipped, rfl⟩, matched⟩

end CloudOS.Lib.Glob
