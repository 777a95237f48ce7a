import Mathlib.Data.List.Basic

/-!
# The strings of JSON

A string is written between quotes, with everything outside printable ASCII as
escapes: the short ones, or the hexadecimal code units of UTF-16.  It is read one
character at a time up to the closing quote; a control character, an unknown
escape and a surrogate without its partner are errors.

What is written is read back.
-/

set_option autoImplicit false

namespace CloudOS.Lib.JsonStrings

/-! ## Escapes -/

def letterOf (c : Char) : Option Char :=
  if c = '"' then some '"'
  else if c = '\\' then some '\\'
  else if c = '\n' then some 'n'
  else if c = '\r' then some 'r'
  else if c = '\t' then some 't'
  else if c = '\x0c' then some 'f'
  else if c = '\x08' then some 'b'
  else none

def shortEscape (letter : Char) : Option Char :=
  if letter = '"' then some '"'
  else if letter = '\\' then some '\\'
  else if letter = '/' then some '/'
  else if letter = 'b' then some '\x08'
  else if letter = 'f' then some '\x0c'
  else if letter = 'n' then some '\n'
  else if letter = 'r' then some '\r'
  else if letter = 't' then some '\t'
  else none

def hexValue (c : Char) : Option Nat :=
  if 48 ≤ c.toNat ∧ c.toNat ≤ 57 then some (c.toNat - 48)
  else if 97 ≤ c.toNat ∧ c.toNat ≤ 102 then some (c.toNat - 87)
  else if 65 ≤ c.toNat ∧ c.toNat ≤ 70 then some (c.toNat - 55)
  else none

def hex4 (unit : Nat) : List Char :=
  [Nat.digitChar (unit / 4096), Nat.digitChar (unit / 256 % 16), Nat.digitChar (unit / 16 % 16),
    Nat.digitChar (unit % 16)]

def scanUnit : List Char → Option (Nat × List Char)
  | a :: b :: c :: d :: rest => do
      let a ← hexValue a
      let b ← hexValue b
      let c ← hexValue c
      let d ← hexValue d
      return (4096 * a + 256 * b + 16 * c + d, rest)
  | _ => none

def quoteChar (c : Char) : List Char :=
  match letterOf c with
  | some letter => ['\\', letter]
  | none =>
      if 0x20 ≤ c.toNat ∧ c.toNat ≤ 0x7e then [c]
      else if c.toNat < 0x10000 then '\\' :: 'u' :: hex4 c.toNat
      else
        '\\' :: 'u' :: hex4 (0xD800 + (c.toNat - 0x10000) / 1024) ++
          '\\' :: 'u' :: hex4 (0xDC00 + (c.toNat - 0x10000) % 1024)

def quoted (text : List Char) : List Char := '"' :: text.flatMap quoteChar ++ ['"']

/-! ## Reading -/

def scanLow : List Char → Option (Nat × List Char)
  | slash :: u :: rest => if slash = '\\' ∧ u = 'u' then scanUnit rest else none
  | _ => none

def pairOf (high low : Nat) : Option Char :=
  if 0xDC00 ≤ low ∧ low < 0xE000 then
    some (Char.ofNat (0x10000 + (high - 0xD800) * 1024 + (low - 0xDC00)))
  else none

/-- The character of a code unit, for a high surrogate together with the low one. -/
def codePoint (unit : Nat) (rest : List Char) : Option (Char × List Char) :=
  if unit < 0xD800 ∨ 0xE000 ≤ unit then some (Char.ofNat unit, rest)
  else if unit < 0xDC00 then
    (scanLow rest).bind fun low => (pairOf unit low.1).map fun c => (c, low.2)
  else none

def scanEscape : List Char → Option (Char × List Char)
  | [] => none
  | letter :: rest =>
      if letter = 'u' then (scanUnit rest).bind fun found => codePoint found.1 found.2
      else (shortEscape letter).map fun c => (c, rest)

def scanChar : List Char → Option (Option Char × List Char)
  | [] => none
  | c :: rest =>
      if c = '"' then some (none, rest)
      else if c = '\\' then (scanEscape rest).map fun found => (some found.1, found.2)
      else if c.toNat < 0x20 then none
      else some (some c, rest)

def scanString : Nat → List Char → Option (List Char × List Char)
  | 0, _ => none
  | fuel + 1, text =>
      match scanChar text with
      | none => none
      | some (none, rest) => some ([], rest)
      | some (some c, rest) => (scanString fuel rest).map fun found => (c :: found.1, found.2)

/-! ## What is written is read back -/

theorem hexValue_digitChar : ∀ digit < 16, hexValue (Nat.digitChar digit) = some digit := by
  decide

theorem scanUnit_hex4 {unit : Nat} (small : unit < 0x10000) (rest : List Char) :
    scanUnit (hex4 unit ++ rest) = some (unit, rest) := by
  have first := hexValue_digitChar (unit / 4096) (by omega)
  have second := hexValue_digitChar (unit / 256 % 16) (by omega)
  have third := hexValue_digitChar (unit / 16 % 16) (by omega)
  have fourth := hexValue_digitChar (unit % 16) (by omega)
  have whole : 4096 * (unit / 4096) + 256 * (unit / 256 % 16) + 16 * (unit / 16 % 16) + unit % 16
      = unit := by omega
  simp only [hex4, List.cons_append, List.nil_append, scanUnit, first, second, third, fourth,
    Option.bind_eq_bind, Option.bind_some, whole, Option.pure_def]

theorem shortEscape_letterOf {c letter : Char} (short : letterOf c = some letter) :
    letter ≠ 'u' ∧ shortEscape letter = some c := by
  unfold letterOf at short
  split_ifs at short <;> subst_vars <;> obtain rfl := Option.some.inj short <;> decide

theorem not_special_of_letterOf {c : Char} (none_ : letterOf c = none) : c ≠ '"' ∧ c ≠ '\\' := by
  constructor
  · rintro rfl
    revert none_
    decide
  · rintro rfl
    revert none_
    decide

theorem toNat_valid (c : Char) :
    c.toNat < 0x110000 ∧ (c.toNat < 0xD800 ∨ 0xE000 ≤ c.toNat) := by
  have valid : c.toNat < 0xD800 ∨ 0xDFFF < c.toNat ∧ c.toNat < 0x110000 := c.valid
  omega

theorem codePoint_of_char (c : Char) (rest : List Char) :
    codePoint c.toNat rest = some (c, rest) := by
  rw [codePoint, if_pos (toNat_valid c).2, Char.ofNat_toNat]

theorem codePoint_of_pair {high low : Nat} (isHigh : 0xD800 ≤ high ∧ high < 0xDC00)
    (isLow : 0xDC00 ≤ low ∧ low < 0xE000) (rest : List Char) :
    codePoint high ('\\' :: 'u' :: (hex4 low ++ rest)) =
      (pairOf high low).map fun c => (c, rest) := by
  have surrogate : ¬(high < 0xD800 ∨ 0xE000 ≤ high) := by omega
  have unit : low < 0x10000 := by omega
  have read : scanLow ('\\' :: 'u' :: (hex4 low ++ rest)) = some (low, rest) := by
    rw [scanLow, if_pos ⟨rfl, rfl⟩, scanUnit_hex4 unit]
  rw [codePoint, if_neg surrogate, if_pos isHigh.2, read, Option.bind_some]

theorem pairOf_split {c : Char} {high low : Nat} (highIs : 0xD800 + (c.toNat - 0x10000) / 1024 = high)
    (lowIs : 0xDC00 + (c.toNat - 0x10000) % 1024 = low) (large : 0x10000 ≤ c.toNat) :
    pairOf high low = some c := by
  have isLow : 0xDC00 ≤ low ∧ low < 0xE000 := by omega
  have back : 0x10000 + (high - 0xD800) * 1024 + (low - 0xDC00) = c.toNat := by omega
  rw [pairOf, if_pos isLow, back, Char.ofNat_toNat]

theorem scanChar_unit {text after rest : List Char} {unit : Nat} {c : Char}
    (read : scanUnit text = some (unit, after)) (stands : codePoint unit after = some (c, rest)) :
    scanChar ('\\' :: 'u' :: text) = some (some c, rest) := by
  have escape : scanEscape ('u' :: text) = some (c, rest) := by
    rw [scanEscape, if_pos rfl, read, Option.bind_some, stands]
  rw [scanChar, if_neg (by decide), if_pos rfl, escape, Option.map_some]

theorem scanChar_quoteChar (c : Char) (rest : List Char) :
    scanChar (quoteChar c ++ rest) = some (some c, rest) := by
  unfold quoteChar
  cases short : letterOf c with
  | some letter =>
      obtain ⟨notUnit, back⟩ := shortEscape_letterOf short
      simp [scanChar, scanEscape, notUnit, back]
  | none =>
      obtain ⟨notQuote, notSlash⟩ := not_special_of_letterOf short
      by_cases printable : 0x20 ≤ c.toNat ∧ c.toNat ≤ 0x7e
      · simp [printable, scanChar, notQuote, notSlash, Nat.not_lt.mpr printable.1]
      · by_cases small : c.toNat < 0x10000
        · simp only [if_neg printable, if_pos small, List.cons_append]
          exact scanChar_unit (scanUnit_hex4 small rest) (codePoint_of_char c rest)
        · have bound := (toNat_valid c).1
          simp only [if_neg printable, if_neg small, List.cons_append, List.append_assoc]
          generalize highIs : 0xD800 + (c.toNat - 0x10000) / 1024 = high
          generalize lowIs : 0xDC00 + (c.toNat - 0x10000) % 1024 = low
          have isHigh : 0xD800 ≤ high ∧ high < 0xDC00 := by omega
          have isLow : 0xDC00 ≤ low ∧ low < 0xE000 := by omega
          have unit : high < 0x10000 := by omega
          have pair := codePoint_of_pair isHigh isLow rest
          rw [pairOf_split highIs lowIs (Nat.not_lt.mp small)] at pair
          exact scanChar_unit (scanUnit_hex4 unit _) pair

theorem scanString_quoted {text : List Char} {fuel : Nat} (enough : text.length < fuel)
    (rest : List Char) :
    scanString fuel (text.flatMap quoteChar ++ '"' :: rest) = some (text, rest) := by
  induction text generalizing fuel with
  | nil =>
      cases fuel with
      | zero => cases enough
      | succ fuel => rfl
  | cons c text ih =>
      cases fuel with
      | zero => cases enough
      | succ fuel =>
          have here := scanChar_quoteChar c (text.flatMap quoteChar ++ '"' :: rest)
          have others := ih (Nat.lt_of_succ_lt_succ enough)
          simp only [List.flatMap_cons, List.append_assoc, scanString, here, others,
            Option.map_some]

theorem quoteChar_ne_nil (c : Char) : quoteChar c ≠ [] := by
  intro empty
  have read := scanChar_quoteChar c []
  rw [empty] at read
  cases read

theorem length_le_flatMap_quoteChar (text : List Char) :
    text.length ≤ (text.flatMap quoteChar).length := by
  induction text with
  | nil => exact Nat.le_refl _
  | cons c text ih =>
      have one := List.length_pos_of_ne_nil (quoteChar_ne_nil c)
      simp only [List.flatMap_cons, List.length_append, List.length_cons]
      omega

end CloudOS.Lib.JsonStrings
