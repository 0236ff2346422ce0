import Mathlib.Algebra.Group.Nat.Defs
import Mathlib.Data.List.Basic

/-!
# Numbers in hexadecimal fields

A field is a number in lower-case hexadecimal digits, filled up with zeros from
the left to a width; a number that needs more digits makes the field longer.
`readHex` reads a field of any width back.
-/

namespace KosCeExtra

/-- `setw(width) << setfill('0') << hex << number` -/
def hexField (width number : Nat) : List Char :=
  List.replicate (width - (Nat.toDigits 16 number).length) '0' ++
    Nat.toDigits 16 number

def hexValue (char : Char) : Option Nat :=
  if '0' ≤ char ∧ char ≤ '9' then some (char.toNat - '0'.toNat)
  else if 'a' ≤ char ∧ char ≤ 'f' then some (char.toNat - 'a'.toNat + 10)
  else none

/-- Read digits behind the ones that make `number`. -/
def readHexFrom (number : Nat) : List Char → Option Nat
  | [] => some number
  | char :: rest => (hexValue char).bind fun digit =>
      readHexFrom (16 * number + digit) rest

def readHex (text : List Char) : Option Nat :=
  readHexFrom 0 text

theorem hexValue_digitChar {digit : Nat} (small : digit < 16) :
    hexValue digit.digitChar = some digit := by
  revert digit
  decide

theorem readHexFrom_append (number : Nat) (first second : List Char) :
    readHexFrom number (first ++ second) =
      (readHexFrom number first).bind fun read => readHexFrom read second := by
  induction first generalizing number with
  | nil => rfl
  | cons char first induction =>
      rw [List.cons_append, readHexFrom, readHexFrom]
      cases hexValue char with
      | none => rfl
      | some digit => exact induction _

theorem readHexFrom_zeros (count : Nat) :
    readHexFrom 0 (List.replicate count '0') = some 0 := by
  induction count with
  | zero => rfl
  | succ count induction =>
      rw [List.replicate_succ, readHexFrom]
      exact induction

theorem readHexFrom_toDigits (number : Nat) :
    readHexFrom 0 (Nat.toDigits 16 number) = some number := by
  induction number using Nat.strongRecOn with
  | ind number induction =>
      rw [Nat.toDigits_eq_if (by omega)]
      by_cases small : number < 16
      · rw [if_pos small, readHexFrom, hexValue_digitChar small]
        simp [readHexFrom]
      · rw [if_neg small]
        have rest : number % 16 < 16 := Nat.mod_lt _ (by omega)
        rw [readHexFrom_append, induction (number / 16) (by omega),
          Option.bind_some, readHexFrom, hexValue_digitChar rest,
          Option.bind_some, readHexFrom, Nat.div_add_mod]

/-- A field reads back as its number. -/
theorem readHex_hexField (width number : Nat) :
    readHex (hexField width number) = some number := by
  rw [readHex, hexField, readHexFrom_append, readHexFrom_zeros,
    Option.bind_some, readHexFrom_toDigits]

theorem hexField_length {width number : Nat} (positive : 0 < width)
    (fits : number < 16 ^ width) : (hexField width number).length = width := by
  have short := (Nat.length_toDigits_le_iff (by omega) positive).mpr fits
  rw [hexField, List.length_append, List.length_replicate]
  omega

/-- Only digits can be read. -/
theorem isSome_hexValue_of_read {number value : Nat} {text : List Char}
    (read : readHexFrom number text = some value) :
    ∀ char ∈ text, (hexValue char).isSome = true := by
  induction text generalizing number with
  | nil =>
      intro char impossible
      cases impossible
  | cons first rest induction =>
      rw [readHexFrom] at read
      obtain ⟨digit, here, later⟩ := Option.bind_eq_some_iff.mp read
      intro char member
      rcases List.mem_cons.mp member with rfl | behind
      · rw [here]
        rfl
      · exact induction later char behind

/-- So a field holds nothing else. -/
theorem not_mem_hexField {char : Char} (strange : hexValue char = none)
    (width number : Nat) : char ∉ hexField width number := by
  intro member
  have digit := isSome_hexValue_of_read (readHex_hexField width number) char member
  rw [strange] at digit
  cases digit

end KosCeExtra
