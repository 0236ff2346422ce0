import Mathlib.Data.List.Basic
import Mathlib.Data.Nat.Bitwise

/-!
# Bit streams, least significant bit first

Fixed-width words are written to a stream of bits, lowest bit first, and a
stream is cut into octets the same way.  Unused bits of the last octet are
zero.  `packOctets_concat` says what writing one further bit does to the
octets, and `unpackOctets_packOctets` that the octets determine the stream.
-/

namespace KosCeExtra

namespace BitStream

/-- The `width` low bits of a number, lowest first. -/
def wordBits (width value : Nat) : List Bool :=
  (List.range width).map value.testBit

/-- The number written in the first `width` bits; missing bits read as zero. -/
def wordOf (width : Nat) (bits : List Bool) : Nat :=
  Nat.ofBits fun index : Fin width => bits.getD index false

/-- The octet at position `index` of a stream. -/
def octetAt (bits : List Bool) (index : Nat) : UInt8 :=
  UInt8.ofNat (wordOf 8 (bits.drop (8 * index)))

/-- The first `count` octets of a stream. -/
def packOctets (count : Nat) (bits : List Bool) : List UInt8 :=
  (List.range count).map (octetAt bits)

def unpackOctets (octets : List UInt8) : List Bool :=
  octets.flatMap fun octet => wordBits 8 octet.toNat

/-- Read `count` words of the given width from the front of a stream. -/
def readWords (width : Nat) : Nat → List Bool → Option (List Nat × List Bool)
  | 0, bits => some ([], bits)
  | count + 1, bits =>
      if bits.length < width then
        none
      else
        (readWords width count (bits.drop width)).map fun (words, rest) =>
          (wordOf width (bits.take width) :: words, rest)

@[simp] theorem wordBits_length (width value : Nat) :
    (wordBits width value).length = width := by
  simp [wordBits]

theorem testBit_wordOf (width : Nat) (bits : List Bool) (index : Nat) :
    (wordOf width bits).testBit index =
      (decide (index < width) && bits.getD index false) := by
  by_cases inside : index < width
  · simp [wordOf, inside]
  · simp [wordOf, Nat.testBit_ofBits, inside]

theorem wordOf_wordBits (width value : Nat) :
    wordOf width (wordBits width value) = value % 2 ^ width := by
  apply Nat.eq_of_testBit_eq
  intro index
  rw [testBit_wordOf, Nat.testBit_mod_two_pow]
  by_cases inside : index < width
  · simp [inside, wordBits]
  · simp [inside]

theorem testBit_octetAt (bits : List Bool) (index offset : Nat) :
    (octetAt bits index).toNat.testBit offset =
      (decide (offset < 8) && bits.getD (8 * index + offset) false) := by
  have small : wordOf 8 (bits.drop (8 * index)) < 2 ^ 8 :=
    Nat.ofBits_lt_two_pow _
  rw [octetAt, UInt8.toNat_ofNat_of_lt' small, testBit_wordOf]
  simp

theorem octet_ext {left right : UInt8}
    (same : ∀ offset, offset < 8 →
      left.toNat.testBit offset = right.toNat.testBit offset) :
    left = right := by
  apply UInt8.toNat_inj.mp
  apply Nat.eq_of_testBit_eq
  intro offset
  by_cases inside : offset < 8
  · exact same offset inside
  · have bound : 2 ^ 8 ≤ 2 ^ offset := Nat.pow_le_pow_right (by omega) (by omega)
    rw [Nat.testBit_lt_two_pow (lt_of_lt_of_le left.toNat_lt bound),
      Nat.testBit_lt_two_pow (lt_of_lt_of_le right.toNat_lt bound)]

@[simp] theorem packOctets_length (count : Nat) (bits : List Bool) :
    (packOctets count bits).length = count := by
  simp [packOctets]

/-- The empty stream packs into zero octets. -/
theorem packOctets_nil (count : Nat) :
    packOctets count [] = List.replicate count 0 := by
  apply List.ext_getElem
  · simp
  · intro index _ _
    have zero : octetAt [] index = 0 := by
      apply octet_ext
      intro offset _
      rw [testBit_octetAt]
      simp
    simp [packOctets, zero]

private theorem testBit_bitInPlace :
    ∀ (bit : Bool) (position offset : Fin 8),
      (bit.toNat.toUInt8 <<< position.val.toUInt8).toNat.testBit offset.val =
        (bit && decide (offset.val = position.val)) := by
  decide

private theorem getD_concat (bits : List Bool) (bit : Bool) (index : Nat) :
    (bits ++ [bit]).getD index false =
      (bits.getD index false || (bit && decide (index = bits.length))) := by
  rcases Nat.lt_trichotomy index bits.length with before | rfl | after
  · have different : index ≠ bits.length := by omega
    simp [List.getD, List.getElem?_append_left before, different]
  · simp [List.getD]
  · have different : index ≠ bits.length := by omega
    have beyond : (bits ++ [bit]).length ≤ index := by
      rw [List.length_append]
      exact after
    rw [List.getD_eq_default _ _ beyond,
      List.getD_eq_default _ _ (Nat.le_of_lt after)]
    simp [different]

/-- Writing one further bit changes only the octet that holds its position,
where it is set by a disjunction. -/
theorem packOctets_concat (count : Nat) (bits : List Bool) (bit : Bool) :
    packOctets count (bits ++ [bit]) =
      (packOctets count bits).set (bits.length / 8)
        (octetAt bits (bits.length / 8) |||
          (bit.toNat.toUInt8 <<< (bits.length % 8).toUInt8)) := by
  apply List.ext_getElem
  · simp
  · intro index inside _
    have bound : index < count := by simpa using inside
    rw [List.getElem_set]
    by_cases here : bits.length / 8 = index
    · subst here
      simp only [packOctets, List.getElem_map, List.getElem_range, if_pos]
      apply octet_ext
      intro offset small
      have inPlace := testBit_bitInPlace bit
        ⟨bits.length % 8, Nat.mod_lt _ (by omega)⟩ ⟨offset, small⟩
      rw [UInt8.toNat_or, Nat.testBit_or, testBit_octetAt, testBit_octetAt,
        inPlace, getD_concat]
      have position : 8 * (bits.length / 8) + offset = bits.length ↔
          offset = bits.length % 8 := by omega
      simp [small, position]
    · simp only [packOctets, List.getElem_map, List.getElem_range, if_neg here]
      apply octet_ext
      intro offset small
      rw [testBit_octetAt, testBit_octetAt, getD_concat]
      have elsewhere : 8 * index + offset ≠ bits.length := by omega
      simp [elsewhere]

private theorem unpackOctets_getElem? (octets : List UInt8) (index : Nat) :
    (unpackOctets octets)[index]? =
      (octets[index / 8]?).map fun octet => octet.toNat.testBit (index % 8) := by
  induction octets generalizing index with
  | nil => simp [unpackOctets]
  | cons octet octets induction =>
      rw [unpackOctets, List.flatMap_cons, ← unpackOctets]
      by_cases first : index < 8
      · have quotient : index / 8 = 0 := by omega
        have remainder : index % 8 = index := by omega
        rw [List.getElem?_append_left (by simpa using first)]
        simp [wordBits, first, quotient, remainder]
      · have quotient : index / 8 = (index - 8) / 8 + 1 := by omega
        have remainder : index % 8 = (index - 8) % 8 := by omega
        rw [List.getElem?_append_right (by simpa using first)]
        simp [induction, quotient, remainder]

/-- The octets of a stream hold its bits followed by zero padding. -/
theorem unpackOctets_packOctets (count : Nat) (bits : List Bool)
    (room : bits.length ≤ 8 * count) :
    unpackOctets (packOctets count bits) =
      bits ++ List.replicate (8 * count - bits.length) false := by
  apply List.ext_getElem?
  intro index
  rw [unpackOctets_getElem?]
  by_cases inside : index < 8 * count
  · have quotient : index / 8 < count := by omega
    have remainder : index % 8 < 8 := Nat.mod_lt _ (by omega)
    have position : 8 * (index / 8) + index % 8 = index := by omega
    have packed : (packOctets count bits)[index / 8]? =
        some (octetAt bits (index / 8)) := by
      simp [packOctets, quotient]
    rw [packed, Option.map_some, testBit_octetAt, position]
    rcases Nat.lt_or_ge index bits.length with before | after
    · rw [List.getElem?_append_left before]
      simp [before, remainder]
    · rw [List.getElem?_append_right after]
      have padding : index - bits.length < 8 * count - bits.length := by omega
      simp [List.getD, List.getElem?_eq_none_iff.mpr after, padding]
  · have outside : ¬ index / 8 < count := by omega
    have beyond : (bits ++
        List.replicate (8 * count - bits.length) false).length ≤ index := by
      simp
      omega
    rw [List.getElem?_eq_none_iff.mpr beyond]
    simp [packOctets, outside]

/-- Words written one after the other are read back to their width, with
whatever follows. -/
theorem readWords_flatMap (width : Nat) (words : List Nat)
    (rest : List Bool) :
    readWords width words.length (words.flatMap (wordBits width) ++ rest) =
      some (words.map (· % 2 ^ width), rest) := by
  induction words with
  | nil => simp [readWords]
  | cons word words induction =>
      simp [readWords, induction, wordOf_wordBits]

end BitStream

end KosCeExtra
