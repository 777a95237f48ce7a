import Mathlib.Data.List.Basic
import Mathlib.Data.List.TakeWhile

/-!
# The numbers of JSON

A number is a sign, digits without a leading zero, and optionally a fraction and
an exponent.  It is read as far as it goes, so that a text is read as a number
with the rest left over when the rest does not continue it.  Decimal integers are
numbers and are read back.
-/

set_option autoImplicit false

namespace CloudOS.Lib.JsonNumbers

structure NumberText where
  text : List Char
  whole : Bool
  deriving DecidableEq

def digitsOf (text : List Char) : List Char := text.takeWhile Char.isDigit

def afterDigits (text : List Char) : List Char := text.dropWhile Char.isDigit

def scanSign : List Char → List Char × List Char
  | [] => ([], [])
  | c :: rest => if c = '-' then ([c], rest) else ([], c :: rest)

/-- No digit may follow a leading zero. -/
def scanWhole : List Char → Option (List Char × List Char)
  | [] => none
  | c :: rest =>
      if c = '0' then some ([c], rest)
      else if c.isDigit then some (c :: digitsOf rest, afterDigits rest)
      else none

def scanFraction : List Char → List Char × List Char
  | [] => ([], [])
  | c :: rest =>
      if c = '.' ∧ digitsOf rest ≠ [] then (c :: digitsOf rest, afterDigits rest)
      else ([], c :: rest)

def scanExponentSign : List Char → List Char × List Char
  | [] => ([], [])
  | c :: rest => if c = '+' ∨ c = '-' then ([c], rest) else ([], c :: rest)

def scanExponent : List Char → List Char × List Char
  | [] => ([], [])
  | c :: rest =>
      let sign := scanExponentSign rest
      if (c = 'e' ∨ c = 'E') ∧ digitsOf sign.2 ≠ [] then
        (c :: sign.1 ++ digitsOf sign.2, afterDigits sign.2)
      else ([], c :: rest)

def scanNumber (text : List Char) : Option (NumberText × List Char) :=
  let sign := scanSign text
  (scanWhole sign.2).map fun whole =>
    let fraction := scanFraction whole.2
    let exponent := scanExponent fraction.2
    (⟨sign.1 ++ whole.1 ++ fraction.1 ++ exponent.1, fraction.1.isEmpty && exponent.1.isEmpty⟩,
      exponent.2)

def readInt (text : List Char) : Int :=
  let sign := scanSign text
  let size : Int := Nat.ofDigitChars 10 sign.2 0
  if sign.1 = [] then size else -size

/-! ## Numbers are read up to their end -/

def numberChar (c : Char) : Bool :=
  c.isDigit || c = '.' || c = 'e' || c = 'E' || c = '+' || c = '-'

/-- The text does not go on with a part of a number. -/
def Ends (rest : List Char) : Prop := ∀ c ∈ rest.head?, numberChar c = false

theorem ends_nil : Ends [] := by
  intro c member
  cases member

theorem ends_cons {c : Char} (other : numberChar c = false) (rest : List Char) : Ends (c :: rest) := by
  intro d member
  obtain rfl := Option.some.inj member
  exact other

section Numbers
variable {rest : List Char}

theorem Ends.digits (ends : Ends rest) : digitsOf rest = [] ∧ afterDigits rest = rest := by
  cases rest with
  | nil => exact ⟨rfl, rfl⟩
  | cons c rest =>
      have other := ends c rfl
      simp only [numberChar, Bool.or_eq_false_iff] at other
      simp [digitsOf, afterDigits, other.1.1.1.1.1]

theorem digits_append (ends : Ends rest) (text : List Char) :
    digitsOf (text ++ rest) = digitsOf text ∧ afterDigits (text ++ rest) = afterDigits text ++ rest := by
  induction text with
  | nil => exact ends.digits
  | cons c text ih =>
      simp only [digitsOf, afterDigits, List.cons_append] at ih ⊢
      cases digit : c.isDigit with
      | false => simp [digit]
      | true => simp [digit, ih]

theorem scanSign_append {text : List Char} (nonempty : text ≠ []) :
    scanSign (text ++ rest) = ((scanSign text).1, (scanSign text).2 ++ rest) := by
  cases text with
  | nil => exact absurd rfl nonempty
  | cons c text =>
      simp only [List.cons_append, scanSign]
      split <;> rfl

theorem scanWhole_append (ends : Ends rest) {text : List Char} {whole : List Char × List Char}
    (read : scanWhole text = some whole) :
    scanWhole (text ++ rest) = some (whole.1, whole.2 ++ rest) := by
  cases text with
  | nil => cases read
  | cons c text =>
      obtain ⟨same, left_⟩ := digits_append ends text
      simp only [List.cons_append, scanWhole, same, left_] at read ⊢
      split_ifs at read ⊢ <;> obtain rfl := Option.some.inj read <;> rfl

theorem scanFraction_append (ends : Ends rest) (text : List Char) :
    scanFraction (text ++ rest) = ((scanFraction text).1, (scanFraction text).2 ++ rest) := by
  cases text with
  | nil =>
      cases rest with
      | nil => rfl
      | cons c rest =>
          have other := ends c rfl
          have noPoint : c ≠ '.' := by
            rintro rfl
            cases other
          simp [scanFraction, noPoint]
  | cons c text =>
      obtain ⟨same, left_⟩ := digits_append ends text
      simp only [List.cons_append, scanFraction, same, left_]
      split <;> rfl

theorem scanExponentSign_append (ends : Ends rest) (text : List Char) :
    scanExponentSign (text ++ rest) =
      ((scanExponentSign text).1, (scanExponentSign text).2 ++ rest) := by
  cases text with
  | nil =>
      cases rest with
      | nil => rfl
      | cons c rest =>
          have other := ends c rfl
          have noSign : ¬(c = '+' ∨ c = '-') := by
            rintro (rfl | rfl) <;> cases other
          simp [scanExponentSign, noSign]
  | cons c text =>
      simp only [List.cons_append, scanExponentSign]
      split <;> rfl

theorem scanExponent_append (ends : Ends rest) (text : List Char) :
    scanExponent (text ++ rest) = ((scanExponent text).1, (scanExponent text).2 ++ rest) := by
  cases text with
  | nil =>
      cases rest with
      | nil => rfl
      | cons c rest =>
          have other := ends c rfl
          have noExponent : ¬(c = 'e' ∨ c = 'E') := by
            rintro (rfl | rfl) <;> cases other
          simp [scanExponent, noExponent]
  | cons c text =>
      simp only [List.cons_append, scanExponent, scanExponentSign_append ends text,
        digits_append ends]
      split <;> rfl

theorem scanNumber_append (ends : Ends rest) {text left : List Char} {number : NumberText}
    (read : scanNumber text = some (number, left)) :
    scanNumber (text ++ rest) = some (number, left ++ rest) := by
  have nonempty : text ≠ [] := by
    rintro rfl
    cases read
  simp only [scanNumber] at read ⊢
  obtain ⟨whole, found, same⟩ := Option.map_eq_some_iff.mp read
  rw [scanSign_append nonempty, scanWhole_append ends found, Option.map_some]
  simp only [scanFraction_append ends, scanExponent_append ends]
  obtain ⟨rfl, rfl⟩ := Prod.mk.inj same
  rfl

theorem scanNumber_head {c : Char} {text : List Char} {found : NumberText × List Char}
    (read : scanNumber (c :: text) = some found) : c = '-' ∨ c.isDigit = true := by
  by_cases sign : c = '-'
  · exact .inl sign
  · right
    simp only [scanNumber, scanSign, sign, if_false] at read
    obtain ⟨whole, here, _⟩ := Option.map_eq_some_iff.mp read
    rw [scanWhole] at here
    split_ifs at here with zero digit
    · rw [zero]
      rfl
    · exact digit

theorem ne_of_scanNumber {c d : Char} {text : List Char} {found : NumberText × List Char}
    (read : scanNumber (c :: text) = some found) (notSign : d ≠ '-') (notDigit : d.isDigit = false) :
    c ≠ d := by
  rintro rfl
  rcases scanNumber_head read with sign | digit
  · exact notSign sign
  · rw [notDigit] at digit
    cases digit

end Numbers

/-! ## Integers -/

theorem toDigits_head (n : Nat) :
    Nat.toDigits 10 n = ['0'] ∨ ∃ c digits, Nat.toDigits 10 n = c :: digits ∧ c ≠ '0' := by
  induction n using Nat.strongRecOn with
  | ind n ih =>
      rw [Nat.toDigits_eq_if (by decide)]
      by_cases small : n < 10
      · rw [if_pos small]
        have one : ∀ n < 10, Nat.digitChar n = '0' ∨ Nat.digitChar n ≠ '0' ∧ n ≠ 0 := by decide
        rcases one n small with zero | ⟨other, _⟩
        · exact .inl (by rw [zero])
        · exact .inr ⟨_, [], rfl, other⟩
      · rw [if_neg small]
        right
        rcases ih (n / 10) (by omega) with zero | ⟨c, digits, same, other⟩
        · have value := Nat.ofDigitChars_ten_toDigits (n := n / 10)
          rw [zero] at value
          have none_ : n / 10 = 0 := value.symm
          omega
        · exact ⟨c, digits ++ [(n % 10).digitChar], by rw [same]; rfl, other⟩

theorem scanWhole_toDigits (n : Nat) :
    scanWhole (Nat.toDigits 10 n) = some (Nat.toDigits 10 n, []) := by
  rcases toDigits_head n with zero | ⟨c, digits, same, other⟩
  · rw [zero]
    rfl
  · have allDigits : ∀ d ∈ c :: digits, d.isDigit = true := by
      intro d member
      rw [← same] at member
      exact Nat.isDigit_of_mem_toDigits (by decide) (by decide) member
    have first := allDigits c List.mem_cons_self
    have others : ∀ d ∈ digits, d.isDigit = true :=
      fun d member => allDigits d (List.mem_cons_of_mem _ member)
    rw [same, scanWhole, if_neg other, if_pos first, digitsOf, afterDigits,
      List.takeWhile_eq_self_iff.mpr others, List.dropWhile_eq_nil_iff.mpr others]

theorem scanSign_toDigits (n : Nat) :
    scanSign (Nat.toDigits 10 n) = ([], Nat.toDigits 10 n) := by
  cases digits : Nat.toDigits 10 n with
  | nil => rfl
  | cons c rest =>
      have noSign : c ≠ '-' := by
        rintro rfl
        have digit : Char.isDigit '-' = true :=
          Nat.isDigit_of_mem_toDigits (by decide) (by decide) (digits ▸ List.mem_cons_self)
        cases digit
      rw [scanSign, if_neg noSign]

theorem toList_toString (n : Int) :
    (toString n).toList = Nat.toDigits 10 n.natAbs ∧ 0 ≤ n ∨
      (toString n).toList = '-' :: Nat.toDigits 10 n.natAbs ∧ n < 0 := by
  cases n with
  | ofNat n => exact .inl ⟨Nat.toList_repr, Int.natCast_nonneg n⟩
  | negSucc n =>
      right
      refine ⟨?_, Int.negSucc_lt_zero n⟩
      have sign : (toString (Int.negSucc n)).toList = '-' :: (n + 1).repr.toList :=
        String.toList_append
      rw [sign, Nat.toList_repr]
      rfl

theorem scanNumber_toString (n : Int) :
    scanNumber (toString n).toList = some (⟨(toString n).toList, true⟩, []) := by
  rcases toList_toString n with ⟨text, _⟩ | ⟨text, _⟩
  · rw [text, scanNumber, scanSign_toDigits]
    simp [scanWhole_toDigits, scanFraction, scanExponent]
  · rw [text, scanNumber]
    simp [scanSign, scanWhole_toDigits, scanFraction, scanExponent]

theorem readInt_toString (n : Int) : readInt (toString n).toList = n := by
  rcases toList_toString n with ⟨text, sign⟩ | ⟨text, sign⟩
  · rw [text, readInt, scanSign_toDigits]
    simp only [if_true, Nat.ofDigitChars_ten_toDigits]
    omega
  · rw [text, readInt]
    simp only [scanSign, if_true, List.cons_ne_nil, if_false, Nat.ofDigitChars_ten_toDigits]
    omega

end CloudOS.Lib.JsonNumbers
