import CloudOS.Lib.JsonNumbers
import CloudOS.Lib.JsonStrings

/-!
# JSON texts

Values, the text `dumps` writes for them, and a reader `loads`, as in the `json`
module of Python.  Numbers without fraction and exponent are integers, the others
floating point numbers; their format is a parameter that has to be able to read
what it writes.  Infinities and NaN are left out.  An object is the list of its
entries in the order of the text, so that of equal keys the last one counts.

`loads` gives back every value from the text that `dumps` writes for it.
-/

set_option autoImplicit false

namespace CloudOS.Lib.JsonText

open CloudOS.Lib.JsonNumbers
open CloudOS.Lib.JsonStrings

/-- How floating point numbers are written and read. -/
structure Floats (F : Type) where
  repr : F → List Char
  read : List Char → F
  repr_number : ∀ x, scanNumber (repr x) = some (⟨repr x, false⟩, [])
  read_repr : ∀ x, read (repr x) = x

def Floats.zero : Floats Unit where
  repr _ := "0.0".toList
  read _ := ()
  repr_number _ := by decide
  read_repr _ := rfl

/-! ## Values -/

inductive Value (F : Type) where
  | null
  | bool (b : Bool)
  | int (n : Int)
  | float (x : F)
  | text (content : String)
  | list (items : List (Value F))
  | dict (entries : List (String × Value F))

section Format
variable {F : Type} (floats : Floats F)

mutual
def dumps : Value F → List Char
  | .null => ['n', 'u', 'l', 'l']
  | .bool true => ['t', 'r', 'u', 'e']
  | .bool false => ['f', 'a', 'l', 's', 'e']
  | .int n => (toString n).toList
  | .float x => floats.repr x
  | .text content => quoted content.toList
  | .list [] => ['[', ']']
  | .list (item :: items) => '[' :: dumps item ++ dumpsItems items
  | .dict [] => ['\x7b', '\x7d']
  | .dict ((key, value) :: entries) =>
      '\x7b' :: quoted key.toList ++ ':' :: ' ' :: dumps value ++ dumpsEntries entries

def dumpsItems : List (Value F) → List Char
  | [] => [']']
  | item :: items => ',' :: ' ' :: dumps item ++ dumpsItems items

def dumpsEntries : List (String × Value F) → List Char
  | [] => ['\x7d']
  | (key, value) :: entries =>
      ',' :: ' ' :: quoted key.toList ++ ':' :: ' ' :: dumps value ++ dumpsEntries entries
end

/-! ## The reader -/

def isSpace (c : Char) : Bool := c = ' ' || c = '\t' || c = '\n' || c = '\r'

def skip (text : List Char) : List Char := text.dropWhile isSpace

def next (text : List Char) : Option (Char × List Char) :=
  match skip text with
  | [] => none
  | c :: rest => some (c, rest)

def scanText : List Char → Option (List Char × List Char)
  | [] => none
  | c :: rest => if c = '"' then scanString rest.length rest else none

def scanKey (text : List Char) : Option (List Char × List Char) :=
  (scanText text).bind fun key =>
    (next key.2).bind fun colon => if colon.1 = ':' then some (key.1, skip colon.2) else none

def scanLiteral : List Char → Option (Value F × List Char)
  | 'n' :: 'u' :: 'l' :: 'l' :: rest => some (.null, rest)
  | 't' :: 'r' :: 'u' :: 'e' :: rest => some (.bool true, rest)
  | 'f' :: 'a' :: 'l' :: 's' :: 'e' :: rest => some (.bool false, rest)
  | _ => none

def Floats.numberValue (number : NumberText) : Value F :=
  if number.whole then .int (readInt number.text) else .float (floats.read number.text)

def scanScalar (text : List Char) : Option (Value F × List Char) :=
  match scanText text with
  | some found => some (.text (String.ofList found.1), found.2)
  | none =>
      match scanLiteral text with
      | some found => some found
      | none => (scanNumber text).map fun found => (floats.numberValue found.1, found.2)

mutual
def scanValue : Nat → List Char → Option (Value F × List Char)
  | 0, _ => none
  | fuel + 1, text =>
      match text with
      | [] => none
      | c :: rest =>
          if c = '[' then
            (next rest).bind fun first =>
              if first.1 = ']' then some (.list [], first.2)
              else (scanItems fuel (skip rest)).map fun found => (.list found.1, found.2)
          else if c = '\x7b' then
            (next rest).bind fun first =>
              if first.1 = '\x7d' then some (.dict [], first.2)
              else (scanEntries fuel (skip rest)).map fun found => (.dict found.1, found.2)
          else scanScalar floats (c :: rest)

def scanItems : Nat → List Char → Option (List (Value F) × List Char)
  | 0, _ => none
  | fuel + 1, text =>
      (scanValue fuel text).bind fun item =>
        (next item.2).bind fun after =>
          if after.1 = ']' then some ([item.1], after.2)
          else if after.1 = ',' then
            (scanItems fuel (skip after.2)).map fun more => (item.1 :: more.1, more.2)
          else none

def scanEntries : Nat → List Char → Option (List (String × Value F) × List Char)
  | 0, _ => none
  | fuel + 1, text =>
      (scanKey text).bind fun key =>
        (scanValue fuel key.2).bind fun value =>
          (next value.2).bind fun after =>
            if after.1 = '\x7d' then some ([(String.ofList key.1, value.1)], after.2)
            else if after.1 = ',' then
              (scanEntries fuel (skip after.2)).map fun more =>
                ((String.ofList key.1, value.1) :: more.1, more.2)
            else none
end

def loads (text : List Char) : Option (Value F) :=
  (scanValue floats (text.length + 1) (skip text)).bind fun found =>
    if skip found.2 = [] then some found.1 else none

end Format

def Value.get? {F : Type} (key : String) : Value F → Option (Value F)
  | .dict entries => entries.reverse.lookup key
  | _ => none

/-! ## What is written is read back -/

section RoundTrip
variable {F : Type} (floats : Floats F)

theorem scanText_quoted (text rest : List Char) :
    scanText (quoted text ++ rest) = some (text, rest) := by
  have long := length_le_flatMap_quoteChar text
  have shape : quoted text ++ rest = '"' :: (text.flatMap quoteChar ++ '"' :: rest) := by
    simp [quoted]
  rw [shape, scanText, if_pos rfl]
  exact scanString_quoted (by rw [List.length_append, List.length_cons]; omega) rest

theorem skip_of_head {c : Char} (solid : isSpace c = false) (rest : List Char) :
    skip (c :: rest) = c :: rest := by
  simp [skip, solid]

theorem next_of_head {c : Char} (solid : isSpace c = false) (rest : List Char) :
    next (c :: rest) = some (c, rest) := by
  rw [next, skip_of_head solid]

theorem scanKey_quoted {text rest : List Char} (solid : skip rest = rest) :
    scanKey (quoted text ++ ':' :: ' ' :: rest) = some (text, rest) := by
  have space : skip (' ' :: rest) = rest := solid
  rw [scanKey, scanText_quoted, Option.bind_some, next_of_head rfl, Option.bind_some, if_pos rfl,
    space]

theorem scanScalar_number {text left : List Char} {number : NumberText}
    (read : scanNumber text = some (number, left)) :
    scanScalar floats text = some (floats.numberValue number, left) := by
  cases text with
  | nil => cases read
  | cons c text =>
      have other : ∀ d, d ≠ '-' → d.isDigit = false → c ≠ d := fun d => ne_of_scanNumber read
      have noText : scanText (c :: text) = none := by
        rw [scanText, if_neg (other '"' (by decide) rfl)]
      have noLiteral : scanLiteral (F := F) (c :: text) = none := by
        unfold scanLiteral
        split
        · next same => exact absurd (List.cons.inj same).1 (other 'n' (by decide) rfl)
        · next same => exact absurd (List.cons.inj same).1 (other 't' (by decide) rfl)
        · next same => exact absurd (List.cons.inj same).1 (other 'f' (by decide) rfl)
        · rfl
      simp only [scanScalar, noText, noLiteral, read, Option.map_some]

theorem dumps_head (value : Value F) :
    ∃ c rest, dumps floats value = c :: rest ∧ isSpace c = false ∧ c ≠ ']' := by
  have ofNumber : ∀ {text : List Char} {number : NumberText},
      scanNumber text = some (number, []) →
        ∃ c rest, text = c :: rest ∧ isSpace c = false ∧ c ≠ ']' := by
    intro text number read
    cases text with
    | nil => cases read
    | cons c rest =>
        have other : ∀ d, d ≠ '-' → d.isDigit = false → c ≠ d := fun d => ne_of_scanNumber read
        refine ⟨c, rest, rfl, ?_, other ']' (by decide) rfl⟩
        simp [isSpace, other ' ' (by decide) rfl, other '\t' (by decide) rfl,
          other '\n' (by decide) rfl, other '\r' (by decide) rfl]
  cases value with
  | null => exact ⟨'n', _, rfl, rfl, by decide⟩
  | bool b =>
      cases b with
      | true => exact ⟨'t', _, rfl, rfl, by decide⟩
      | false => exact ⟨'f', _, rfl, rfl, by decide⟩
  | int n => exact ofNumber (scanNumber_toString n)
  | float x => exact ofNumber (floats.repr_number x)
  | text content => exact ⟨'"', _, rfl, rfl, by decide⟩
  | list items =>
      cases items with
      | nil => exact ⟨'[', _, rfl, rfl, by decide⟩
      | cons item items => exact ⟨'[', _, rfl, rfl, by decide⟩
  | dict entries =>
      cases entries with
      | nil => exact ⟨'\x7b', _, rfl, rfl, by decide⟩
      | cons entry entries => exact ⟨'\x7b', _, rfl, rfl, by decide⟩

theorem skip_dumps (value : Value F) (rest : List Char) :
    skip (dumps floats value ++ rest) = dumps floats value ++ rest := by
  obtain ⟨c, more, shape, solid, _⟩ := dumps_head floats value
  rw [shape, List.cons_append, skip_of_head solid]

theorem dumps_length_pos (value : Value F) : 0 < (dumps floats value).length := by
  obtain ⟨c, rest, shape, _⟩ := dumps_head floats value
  rw [shape]
  exact Nat.succ_pos _

/-! ### One value after the other -/

theorem ends_dumpsItems (items : List (Value F)) (rest : List Char) :
    Ends (dumpsItems floats items ++ rest) := by
  cases items with
  | nil => exact ends_cons rfl _
  | cons item items => exact ends_cons rfl _

theorem ends_dumpsEntries (entries : List (String × Value F)) (rest : List Char) :
    Ends (dumpsEntries floats entries ++ rest) := by
  cases entries with
  | nil => exact ends_cons rfl _
  | cons entry entries => exact ends_cons rfl _

theorem scanValue_scalar {fuel : Nat} {c : Char} {text : List Char} (noList : c ≠ '[')
    (noDict : c ≠ '\x7b') :
    scanValue floats (fuel + 1) (c :: text) = scanScalar floats (c :: text) := by
  rw [scanValue, if_neg noList, if_neg noDict]

theorem scanValue_number (fuel : Nat) {text rest : List Char} {number : NumberText}
    (read : scanNumber text = some (number, [])) (ends : Ends rest) :
    scanValue floats (fuel + 1) (text ++ rest) = some (floats.numberValue number, rest) := by
  have whole := scanNumber_append ends read
  rw [List.nil_append] at whole
  rw [← scanScalar_number floats whole]
  cases text with
  | nil => cases read
  | cons c text =>
      exact scanValue_scalar floats (ne_of_scanNumber read (by decide) rfl)
        (ne_of_scanNumber read (by decide) rfl)

section Steps
variable {floats} {fuel : Nat} {text after rest : List Char}

theorem scanItems_last {item : Value F}
    (read : scanValue floats fuel text = some (item, ']' :: rest)) :
    scanItems floats (fuel + 1) text = some ([item], rest) := by
  rw [scanItems, read]
  rfl

theorem scanItems_more {item : Value F} {items : List (Value F)}
    (read : scanValue floats fuel text = some (item, ',' :: after))
    (later : scanItems floats fuel (skip after) = some (items, rest)) :
    scanItems floats (fuel + 1) text = some (item :: items, rest) := by
  have goes : scanItems floats (fuel + 1) text =
      (scanItems floats fuel (skip after)).map fun more => (item :: more.1, more.2) := by
    rw [scanItems, read]
    rfl
  rw [goes, later, Option.map_some]

theorem scanEntries_last {key : List Char} {value : Value F} (named : scanKey text = some (key, after))
    (read : scanValue floats fuel after = some (value, '\x7d' :: rest)) :
    scanEntries floats (fuel + 1) text = some ([(String.ofList key, value)], rest) := by
  rw [scanEntries, named, Option.bind_some, read]
  rfl

theorem scanEntries_more {key behind : List Char} {value : Value F}
    {entries : List (String × Value F)} (named : scanKey text = some (key, after))
    (read : scanValue floats fuel after = some (value, ',' :: behind))
    (later : scanEntries floats fuel (skip behind) = some (entries, rest)) :
    scanEntries floats (fuel + 1) text = some ((String.ofList key, value) :: entries, rest) := by
  have goes : scanEntries floats (fuel + 1) text =
      (scanEntries floats fuel (skip behind)).map fun more =>
        ((String.ofList key, value) :: more.1, more.2) := by
    rw [scanEntries, named, Option.bind_some, read]
    rfl
  rw [goes, later, Option.map_some]

theorem scanValue_dict {entries : List (String × Value F)}
    (read : scanEntries floats fuel ('"' :: text) = some (entries, rest)) :
    scanValue floats (fuel + 1) ('\x7b' :: '"' :: text) = some (.dict entries, rest) := by
  have goes : scanValue floats (fuel + 1) ('\x7b' :: '"' :: text) =
      (scanEntries floats fuel ('"' :: text)).map fun found => (.dict found.1, found.2) := rfl
  rw [goes, read, Option.map_some]

end Steps

/-- With `fuel` steps, every value with a text of no more characters is read back. -/
def ReadsValues (fuel : Nat) : Prop := ∀ (value : Value F) (rest : List Char),
  (dumps floats value).length ≤ fuel → Ends rest →
    scanValue floats fuel (dumps floats value ++ rest) = some (value, rest)

def ReadsItems (fuel : Nat) : Prop := ∀ (item : Value F) (items : List (Value F))
  (rest : List Char), (dumps floats item).length + (dumpsItems floats items).length ≤ fuel →
    scanItems floats fuel (dumps floats item ++ (dumpsItems floats items ++ rest)) =
      some (item :: items, rest)

def ReadsEntries (fuel : Nat) : Prop := ∀ (key : String) (value : Value F)
  (entries : List (String × Value F)) (rest : List Char),
    (dumps floats value).length + (dumpsEntries floats entries).length ≤ fuel →
      scanEntries floats fuel (quoted key.toList ++
          ':' :: ' ' :: (dumps floats value ++ (dumpsEntries floats entries ++ rest))) =
        some ((key, value) :: entries, rest)

variable {floats} {fuel : Nat}

theorem readsValues_succ (items : ReadsItems floats fuel) (entries : ReadsEntries floats fuel) :
    ReadsValues floats (fuel + 1) := by
  intro value rest enough ends
  cases value with
  | null => rfl
  | bool b => cases b <;> rfl
  | int n =>
      have read := scanValue_number floats fuel (scanNumber_toString n) ends
      rwa [Floats.numberValue, if_pos rfl, readInt_toString] at read
  | float x =>
      have read := scanValue_number floats fuel (floats.repr_number x) ends
      rwa [Floats.numberValue, if_neg Bool.false_ne_true, floats.read_repr] at read
  | text content =>
      have shape : quoted content.toList ++ rest =
          '"' :: (content.toList.flatMap quoteChar ++ ['"'] ++ rest) := rfl
      have read := scanText_quoted content.toList rest
      rw [shape] at read
      rw [dumps, shape, scanValue_scalar floats (by decide) (by decide), scanScalar, read]
      simp only [String.ofList_toList]
  | list content =>
      cases content with
      | nil => rfl
      | cons item others =>
          obtain ⟨c, more, shape, solid, notEnd⟩ := dumps_head floats item
          have begins : next (dumps floats item ++ (dumpsItems floats others ++ rest)) =
              some (c, more ++ (dumpsItems floats others ++ rest)) := by
            rw [shape, List.cons_append, next_of_head solid]
          simp only [dumps, List.length_append, List.length_cons] at enough
          have read := items item others rest (by omega)
          rw [dumps, List.append_assoc, List.cons_append, scanValue, if_pos rfl, begins,
            Option.bind_some, if_neg notEnd, skip_dumps, read, Option.map_some]
  | dict content =>
      cases content with
      | nil => rfl
      | cons entry others =>
          obtain ⟨key, value⟩ := entry
          simp only [dumps, List.length_append, List.length_cons] at enough
          have read := entries key value others rest (by omega)
          simp only [quoted, List.cons_append, List.append_assoc] at read
          simp only [dumps, quoted, List.cons_append, List.append_assoc]
          exact scanValue_dict read

theorem readsItems_succ (values : ReadsValues floats fuel) (items : ReadsItems floats fuel) :
    ReadsItems floats (fuel + 1) := by
  intro item others rest enough
  have here : (dumps floats item).length ≤ fuel := by
    have behind : 0 < (dumpsItems floats others).length := by cases others <;> exact Nat.succ_pos _
    omega
  have read := values item _ here (ends_dumpsItems floats others rest)
  cases others with
  | nil => exact scanItems_last read
  | cons second others =>
      simp only [dumpsItems, List.length_append, List.length_cons] at enough
      have later := items second others rest (by omega)
      have shape : dumpsItems floats (second :: others) ++ rest =
          ',' :: ' ' :: (dumps floats second ++ (dumpsItems floats others ++ rest)) := by
        rw [dumpsItems, List.append_assoc]
        rfl
      rw [shape] at read ⊢
      refine scanItems_more read ?_
      rw [← later]
      exact congrArg _ (skip_dumps floats second _)

theorem readsEntries_succ (values : ReadsValues floats fuel) (entries : ReadsEntries floats fuel) :
    ReadsEntries floats (fuel + 1) := by
  intro key value others rest enough
  have here : (dumps floats value).length ≤ fuel := by
    have behind : 0 < (dumpsEntries floats others).length := by
      cases others <;> exact Nat.succ_pos _
    omega
  have named : scanKey (quoted key.toList ++
      ':' :: ' ' :: (dumps floats value ++ (dumpsEntries floats others ++ rest))) =
        some (key.toList, dumps floats value ++ (dumpsEntries floats others ++ rest)) :=
    scanKey_quoted (skip_dumps floats value _)
  have read := values value _ here (ends_dumpsEntries floats others rest)
  cases others with
  | nil =>
      have done := scanEntries_last named read
      rwa [String.ofList_toList] at done
  | cons second others =>
      obtain ⟨key', value'⟩ := second
      simp only [dumpsEntries, List.length_append, List.length_cons] at enough
      have later := entries key' value' others rest (by omega)
      have shape : dumpsEntries floats ((key', value') :: others) ++ rest =
          ',' :: ' ' :: (quoted key'.toList ++
            ':' :: ' ' :: (dumps floats value' ++ (dumpsEntries floats others ++ rest))) := by
        simp [dumpsEntries]
      have goes := scanEntries_more named
        (read.trans (congrArg (fun left => some (value, left)) shape)) later
      rwa [String.ofList_toList] at goes

theorem reads_all (fuel : Nat) :
    ReadsValues floats fuel ∧ ReadsItems floats fuel ∧ ReadsEntries floats fuel := by
  induction fuel with
  | zero =>
      have nonempty := @dumps_length_pos F floats
      refine ⟨?_, ?_, ?_⟩
      · intro value rest enough
        exact absurd enough (Nat.not_le.mpr (nonempty value))
      · intro item items rest enough
        exact absurd enough (Nat.not_le.mpr (Nat.add_pos_left (nonempty item) _))
      · intro key value entries rest enough
        exact absurd enough (Nat.not_le.mpr (Nat.add_pos_left (nonempty value) _))
  | succ fuel ih =>
      obtain ⟨values, items, entries⟩ := ih
      exact ⟨readsValues_succ items entries, readsItems_succ values items,
        readsEntries_succ values entries⟩

theorem loads_dumps (value : Value F) : loads floats (dumps floats value) = some value := by
  have read := (@reads_all F floats ((dumps floats value).length + 1)).1 value [] (Nat.le_succ _)
    ends_nil
  have solid := skip_dumps floats value []
  rw [List.append_nil] at read solid
  rw [loads, solid, read]
  rfl

theorem mapM_loads_dumps (values : List (Value F)) :
    (values.map (dumps floats)).mapM (loads floats) = some values := by
  induction values with
  | nil => rfl
  | cons value rest ih =>
      rw [List.map_cons, List.mapM_cons, loads_dumps, ih]
      rfl

end RoundTrip

end CloudOS.Lib.JsonText
