import KosCeExtra.Library.BitStream
import KosCeExtra.Sms.AsciiToPdu

/-!
# The octets of an SMS-SUBMIT message

`submitPdu` lists the octets of a message as one value: service centre
address, flags, destination address, coding and packed text.  The theorems
below say what the number fields and the user data part of `AsciiToPDU` do to
a buffer that is split at the current pointer.
-/

namespace KosCeExtra.Sms

open BitStream

/-! ## Messages and their octets -/

def isDigit (c : UInt8) : Bool :=
  !(c < 0x30 || c > 0x39)

/-- The digits of a number, without its leading `+`. -/
def CString.digits (number : CString) : List UInt8 :=
  number.skipPlus.bytes

/-- Octets that hold the digits of a number, two in each. -/
def numberOctets (number : CString) : Nat :=
  (number.digits.length + 1) / 2

/-- The numbers `AsciiToPDU` can encode. -/
structure NumberOk (number : CString) : Prop where
  short : numberOctets number ≤ pduNumLenMax
  decimal : ∀ c ∈ number.digits, isDigit c = true

instance (number : CString) : Decidable (NumberOk number) :=
  decidable_of_iff
    (numberOctets number ≤ pduNumLenMax ∧ number.digits.all isDigit = true)
    ⟨fun ⟨short, decimal⟩ => ⟨short, List.all_eq_true.mp decimal⟩,
      fun ⟨short, decimal⟩ => ⟨short, List.all_eq_true.mpr decimal⟩⟩

/-- Swapped nibbles, with the filler above a last odd digit. -/
def semiOctets : List UInt8 → List UInt8
  | [] => []
  | [c] => [lowNibble (c - 0x30)]
  | c :: d :: digits =>
      withHighNibble (lowNibble (c - 0x30)) (d - 0x30) :: semiOctets digits

def numberField (firstOctet : Nat → Nat → UInt8) (number : CString) :
    List UInt8 :=
  firstOctet number.digits.length (numberOctets number) ::
    pduNumInternational :: semiOctets number.digits

def scaField : Option CString → List UInt8
  | some smsc => numberField scaLen smsc
  | none => [0]

def SmscOk (smsc : Option CString) : Prop :=
  ∀ number, smsc = some number → NumberOk number

def textOctets (text : CString) : Nat :=
  (text.strlen * 7 + 7) / 8

def textBits (text : List UInt8) : List Bool :=
  text.flatMap fun c => wordBits 7 c.toNat

def packSeptets (text : CString) : List UInt8 :=
  packOctets (textOctets text) (textBits text.bytes)

/-- Everything up to the coding scheme. -/
def submitHeader (smsc : Option CString) (dest : CString) : List UInt8 :=
  scaField smsc ++
    (pduFlagsMtiSmsSubmit :: 0x00 :: numberField daDigitCount dest) ++
    [0x00, pduDcsAscii7]

def submitPdu (smsc : Option CString) (dest text : CString) : List UInt8 :=
  submitHeader smsc dest ++ text.strlen.toUInt8 :: packSeptets text

@[simp] theorem semiOctets_length (digits : List UInt8) :
    (semiOctets digits).length = (digits.length + 1) / 2 := by
  induction digits using semiOctets.induct with
  | case1 => simp [semiOctets]
  | case2 c => simp [semiOctets]
  | case3 c d digits induction =>
      simp only [semiOctets, List.length_cons, induction]
      omega

@[simp] theorem numberField_length (firstOctet : Nat → Nat → UInt8)
    (number : CString) :
    (numberField firstOctet number).length = 2 + numberOctets number := by
  simp [numberField, numberOctets]
  omega

@[simp] theorem packSeptets_length (text : CString) :
    (packSeptets text).length = textOctets text := by
  simp [packSeptets]

@[simp] theorem textBits_length (text : List UInt8) :
    (textBits text).length = 7 * text.length := by
  simp [textBits, List.length_flatMap, Nat.mul_comm]

theorem textBits_fit (text : CString) :
    (textBits text.bytes).length ≤ 8 * textOctets text := by
  simp only [textBits_length, textOctets, CString.strlen]
  omega

/-! ## Number fields -/

/-- A digit at an even position starts an octet. -/
private theorem numberToNibblesFrom_low {dst k : Nat} {written : List UInt8}
    (place : written.length = dst + k) {c : UInt8}
    (digit : isDigit c = true) (old : UInt8) (rest digits : List UInt8) :
    numberToNibblesFrom dst (2 * k) (c :: digits) (written ++ old :: rest) =
      numberToNibblesFrom dst (2 * k + 1) digits
        (written ++ lowNibble (c - 0x30) :: rest) := by
  have range : (c < 0x30 || c > 0x39) = false := by
    simpa [isDigit] using digit
  have half : 2 * k / 2 = k := by omega
  have even : 2 * k % 2 = 0 := by omega
  rw [numberToNibblesFrom, if_neg (by simp [range])]
  simp only [even, half]
  rw [if_neg (by omega), Checked.run_bind_ok (Checked.store_at place _ _ _),
    ← List.append_cons]

/-- The digit behind it completes the octet. -/
private theorem numberToNibblesFrom_high {dst k : Nat} {written : List UInt8}
    (place : written.length = dst + k) {d : UInt8}
    (digit : isDigit d = true) (low : UInt8) (rest digits : List UInt8) :
    numberToNibblesFrom dst (2 * k + 1) (d :: digits) (written ++ low :: rest) =
      numberToNibblesFrom dst (2 * (k + 1)) digits
        ((written ++ [withHighNibble low (d - 0x30)]) ++ rest) := by
  have range : (d < 0x30 || d > 0x39) = false := by
    simpa [isDigit] using digit
  have half : (2 * k + 1) / 2 = k := by omega
  have odd : (2 * k + 1) % 2 = 1 := by omega
  rw [numberToNibblesFrom, if_neg (by simp [range])]
  simp only [odd, half, if_pos]
  rw [Checked.run_bind_ok (Checked.load_at place _ _),
    Checked.run_bind_ok (Checked.store_at place _ _ _)]
  rfl

private theorem numberToNibblesFrom_nondigit {dst i : Nat} {c : UInt8}
    (bad : isDigit c = false) (digits buffer : List UInt8) :
    numberToNibblesFrom dst i (c :: digits) buffer = .ok (-1, buffer) := by
  have range : (c < 0x30 || c > 0x39) = true := by
    rw [isDigit, Bool.not_eq_false'] at bad
    exact bad
  rw [numberToNibblesFrom, if_pos range]
  rfl

/-- With room for all octets, the loop writes the digits of a number. -/
theorem numberToNibblesFrom_digits (dst k : Nat)
    (written rest data : List UInt8) (place : written.length = dst + k)
    (room : (data.length + 1) / 2 ≤ rest.length)
    (decimal : ∀ c ∈ data, isDigit c = true) :
    numberToNibblesFrom dst (2 * k) data (written ++ rest) =
      .ok (((k + (data.length + 1) / 2 : Nat) : Int),
        written ++ semiOctets data ++ rest.drop ((data.length + 1) / 2)) := by
  induction data using semiOctets.induct generalizing k written rest with
  | case1 =>
      have half : (2 * k + 1) / 2 = k := by omega
      simp [numberToNibblesFrom, semiOctets, half]
  | case2 c =>
      cases rest with
      | nil => simp at room
      | cons old rest =>
          have half : (2 * k + 1 + 1) / 2 = k + 1 := by omega
          rw [numberToNibblesFrom_low place (decimal c List.mem_cons_self)]
          simp [numberToNibblesFrom, semiOctets, half]
  | case3 c d digits induction =>
      have octets : ((c :: d :: digits).length + 1) / 2 =
          (digits.length + 1) / 2 + 1 := by
        simp only [List.length_cons]
        omega
      rw [octets] at room ⊢
      cases rest with
      | nil => simp at room
      | cons old rest =>
          obtain ⟨cDigit, dDigit, restDecimal⟩ :
              isDigit c = true ∧ isDigit d = true ∧
                ∀ e ∈ digits, isDigit e = true := by
            simpa using decimal
          have count : k + 1 + (digits.length + 1) / 2 =
              k + ((digits.length + 1) / 2 + 1) := by omega
          rw [numberToNibblesFrom_low place cDigit,
            numberToNibblesFrom_high place dDigit,
            induction (k + 1) _ rest _ (Nat.le_of_succ_le_succ room)
              restDecimal, count]
          · simp [semiOctets]
          · rw [List.length_append, place]
            rfl

/-- It stops with `-1` at the first character that is no digit. -/
theorem numberToNibblesFrom_stops (dst k : Nat)
    (written rest data : List UInt8) (place : written.length = dst + k)
    (room : (data.length + 1) / 2 ≤ rest.length)
    (bad : ∃ c ∈ data, isDigit c = false) :
    ∃ changed, numberToNibblesFrom dst (2 * k) data (written ++ rest) =
      .ok (-1, changed) := by
  induction data using semiOctets.induct generalizing k written rest with
  | case1 => simp at bad
  | case2 c =>
      have nondigit : isDigit c = false := by simpa using bad
      exact ⟨_, numberToNibblesFrom_nondigit nondigit _ _⟩
  | case3 c d digits induction =>
      cases rest with
      | nil =>
          simp only [List.length_cons, List.length_nil] at room
          omega
      | cons old rest =>
          cases cDigit : isDigit c with
          | false => exact ⟨_, numberToNibblesFrom_nondigit cDigit _ _⟩
          | true =>
              rw [numberToNibblesFrom_low place cDigit]
              cases dDigit : isDigit d with
              | false => exact ⟨_, numberToNibblesFrom_nondigit dDigit _ _⟩
              | true =>
                  rw [numberToNibblesFrom_high place dDigit]
                  apply induction
                  · rw [List.length_append, place]
                    rfl
                  · simp only [List.length_cons] at room
                    omega
                  · simpa [cDigit, dDigit] using bad

section PutNumber

variable (firstOctet : Nat → Nat → UInt8) {number : CString}
  {pdu len buflen : Nat}

/-- A number with too many digits is refused before anything is written. -/
theorem putNumber_long (long : pduNumLenMax < numberOctets number)
    (buffer : List UInt8) :
    putNumber firstOctet number pdu len buflen buffer =
      .ok (.returned (-1), buffer) := by
  have test : (number.skipPlus.strlen + 1) / 2 > pduNumLenMax := long
  simp [putNumber, test]

/-- The first octet is stored before the length check. -/
theorem putNumber_end (short : numberOctets number ≤ pduNumLenMax)
    (written : List UInt8) :
    putNumber firstOctet number written.length len buflen written =
      .error (.store written.length) := by
  have test : ¬ (number.skipPlus.strlen + 1) / 2 > pduNumLenMax :=
    Nat.not_lt.mpr short
  simp only [putNumber, if_neg test]
  exact Checked.run_bind_error (Checked.store_end written _)

private theorem putNumber_overlong (short : numberOctets number ≤ pduNumLenMax)
    (beyond : buflen < len + (2 + numberOctets number))
    (written : List UInt8) (old : UInt8) (rest : List UInt8) :
    ∃ changed, putNumber firstOctet number written.length len buflen
      (written ++ old :: rest) = .ok (.returned (-1), changed) := by
  have test : ¬ (number.skipPlus.strlen + 1) / 2 > pduNumLenMax :=
    Nat.not_lt.mpr short
  have overTest : buflen < len + (2 + (number.skipPlus.strlen + 1) / 2) := beyond
  refine ⟨written ++ firstOctet number.skipPlus.strlen
    ((number.skipPlus.strlen + 1) / 2) :: rest, ?_⟩
  simp only [putNumber, if_neg test, if_pos overTest]
  exact Checked.run_bind_ok (Checked.store_append written old _ rest)

variable (written rest : List UInt8)

private theorem putNumber_fits (short : numberOctets number ≤ pduNumLenMax)
    (under : len + (2 + numberOctets number) ≤ buflen)
    (room : 2 + numberOctets number ≤ rest.length) :
    ∃ tail, (number.digits.length + 1) / 2 ≤ tail.length ∧
      tail.drop (numberOctets number) = rest.drop (2 + numberOctets number) ∧
      putNumber firstOctet number written.length len buflen (written ++ rest) =
        ((numberToNibblesFrom (written.length + 2) (2 * 0) number.digits >>=
          fun ret =>
            if ret < 0 then pure (.returned ret)
            else pure (.next (written.length + 2 + numberOctets number)
              (len + (2 + numberOctets number)))) : Checked UInt8 Progress)
          ((written ++ [firstOctet number.digits.length (numberOctets number),
            pduNumInternational]) ++ tail) := by
  have test : ¬ (number.skipPlus.strlen + 1) / 2 > pduNumLenMax :=
    Nat.not_lt.mpr short
  have underTest : ¬ buflen < len + (2 + (number.skipPlus.strlen + 1) / 2) :=
    Nat.not_lt.mpr under
  obtain _ | ⟨first, _ | ⟨second, tail⟩⟩ := rest
  · simp at room
  · simp only [List.length_cons, List.length_nil] at room
    omega
  · have tailRoom : (number.digits.length + 1) / 2 ≤ tail.length := by
      simp only [numberOctets, List.length_cons] at room
      omega
    refine ⟨tail, tailRoom, by simp [Nat.add_comm 2], ?_⟩
    simp only [putNumber, if_neg test, if_neg underTest]
    have typePlace : (written ++
        [firstOctet number.skipPlus.strlen
          ((number.skipPlus.strlen + 1) / 2)]).length = written.length + 1 := by
      simp
    rw [Checked.run_bind_ok (Checked.store_at rfl first _ _),
      Checked.run_bind_ok (Checked.store_at typePlace second _ _)]
    simp [numberToNibbles, CString.strlen, CString.digits, numberOctets]

theorem putNumber_decimal (ok : NumberOk number)
    (under : len + (2 + numberOctets number) ≤ buflen)
    (room : 2 + numberOctets number ≤ rest.length) :
    putNumber firstOctet number written.length len buflen (written ++ rest) =
      .ok (.next (written.length + (2 + numberOctets number))
          (len + (2 + numberOctets number)),
        written ++ numberField firstOctet number ++
          rest.drop (2 + numberOctets number)) := by
  obtain ⟨tail, tailRoom, dropped, run⟩ :=
    putNumber_fits firstOctet written rest ok.short under room
  have digits := numberToNibblesFrom_digits (written.length + 2) 0
    (written ++ [firstOctet number.digits.length (numberOctets number),
      pduNumInternational]) tail number.digits (by simp) tailRoom ok.decimal
  have nonneg : ¬ (((0 + (number.digits.length + 1) / 2 : Nat) : Int) < 0) := by
    omega
  rw [run, Checked.run_bind_ok digits, if_neg nonneg]
  simpa [numberField, numberOctets, Nat.add_assoc] using dropped

private theorem putNumber_nondecimal (short : numberOctets number ≤ pduNumLenMax)
    (bad : ¬ NumberOk number)
    (under : len + (2 + numberOctets number) ≤ buflen)
    (room : 2 + numberOctets number ≤ rest.length) :
    ∃ changed,
      putNumber firstOctet number written.length len buflen (written ++ rest) =
        .ok (.returned (-1), changed) := by
  have badDigit : ∃ c ∈ number.digits, isDigit c = false := by
    by_contra none
    push Not at none
    exact bad ⟨short, by simpa using none⟩
  obtain ⟨tail, tailRoom, _, run⟩ :=
    putNumber_fits firstOctet written rest short under room
  obtain ⟨changed, stopped⟩ := numberToNibblesFrom_stops (written.length + 2) 0
    (written ++ [firstOctet number.digits.length (numberOctets number),
      pduNumInternational]) tail number.digits (by simp) tailRoom badDigit
  refine ⟨changed, ?_⟩
  rw [run, Checked.run_bind_ok stopped, if_pos (by decide)]
  rfl

/-- Whatever is wrong with a number, it is refused, as long as there is a cell
for the first octet. -/
theorem putNumber_refuses
    (bad : ¬ (NumberOk number ∧ len + (2 + numberOctets number) ≤ buflen))
    (first : numberOctets number ≤ pduNumLenMax → 0 < rest.length)
    (contract : buflen ≤ len + rest.length) :
    ∃ changed,
      putNumber firstOctet number written.length len buflen (written ++ rest) =
        .ok (.returned (-1), changed) := by
  by_cases short : numberOctets number ≤ pduNumLenMax
  · by_cases under : len + (2 + numberOctets number) ≤ buflen
    · apply putNumber_nondecimal firstOctet written rest short
      · intro ok
        exact bad ⟨ok, under⟩
      · exact under
      · omega
    · obtain ⟨old, tail, rfl⟩ := List.exists_cons_of_length_pos (first short)
      exact putNumber_overlong firstOctet short (Nat.not_le.mp under) written
        old tail
  · exact ⟨_, putNumber_long firstOctet (Nat.not_le.mp short) _⟩

end PutNumber

/-! ## User data -/

private theorem bitMask_toNat :
    ∀ j : Fin 8, ((1 : UInt8) <<< j.val.toUInt8).toNat = 2 ^ j.val := by
  decide

private theorem bitSet_eq_testBit (c : UInt8) {j : Nat} (small : j < 8) :
    ((c &&& (1 <<< j.toUInt8)) != 0) = c.toNat.testBit j := by
  have masked : (c &&& (1 <<< j.toUInt8)).toNat =
      (c.toNat.testBit j).toNat * 2 ^ j := by
    rw [UInt8.toNat_and, bitMask_toNat ⟨j, small⟩, Nat.and_two_pow]
  have zero : c &&& (1 <<< j.toUInt8) = 0 ↔ c.toNat.testBit j = false := by
    rw [← UInt8.toNat_inj, masked]
    cases c.toNat.testBit j <;> simp
  cases bit : c.toNat.testBit j with
  | false => simpa [bit] using zero
  | true => simpa [bit] using zero

private theorem orBit_packOctets (front back : List UInt8) (count : Nat)
    (bits : List Bool) (room : bits.length < 8 * count) (c : UInt8) {j : Nat}
    (small : j < 8) :
    orBit front.length bits.length c j
        (front ++ packOctets count bits ++ back) =
      .ok ((), front ++ packOctets count (bits ++ [c.toNat.testBit j]) ++
        back) := by
  have index : bits.length / 8 < (packOctets count bits).length := by
    simp only [packOctets_length]
    omega
  have inside : front.length + bits.length / 8 <
      (front ++ packOctets count bits ++ back).length := by
    simp only [List.length_append]
    omega
  have loaded : Checked.load (front.length + bits.length / 8)
      (front ++ packOctets count bits ++ back) =
      .ok (octetAt bits (bits.length / 8),
        front ++ packOctets count bits ++ back) := by
    simp only [Checked.load, dif_pos inside, List.get_eq_getElem]
    rw [List.getElem_append_left (by simpa using index)]
    simp [packOctets]
  rw [orBit, Checked.run_bind_ok loaded, bitSet_eq_testBit c small]
  simp only [Checked.store, if_pos inside]
  rw [List.append_assoc, List.set_append_right _ _ (by omega),
    Nat.add_sub_cancel_left, List.set_append_left _ _ index,
    packOctets_concat, ← List.append_assoc]

private theorem packCharacter_packOctets (front back : List UInt8) (count : Nat)
    (c : UInt8) (js : List Nat) (small : ∀ j ∈ js, j < 8)
    (bits : List Bool) (room : bits.length + js.length ≤ 8 * count) :
    packCharacter front.length c bits.length js
        (front ++ packOctets count bits ++ back) =
      .ok ((), front ++
        packOctets count (bits ++ js.map c.toNat.testBit) ++ back) := by
  induction js generalizing bits with
  | nil => simp [packCharacter]
  | cons j js induction =>
      have jSmall : j < 8 := small j (by simp)
      have bitRoom : bits.length < 8 * count := by
        simp only [List.length_cons] at room
        omega
      rw [packCharacter, Checked.run_bind_ok
        (orBit_packOctets front back count bits bitRoom c jSmall)]
      have later := induction (fun other member => small other (by simp [member]))
        (bits ++ [c.toNat.testBit j]) (by simp at room ⊢; omega)
      simpa using later

/-- The loop over the characters appends their septets to the bits packed so
far. -/
theorem packText_packOctets (front back : List UInt8) (count : Nat)
    (text : List UInt8) (bits : List Bool)
    (room : bits.length + 7 * text.length ≤ 8 * count) :
    packText front.length bits.length text
        (front ++ packOctets count bits ++ back) =
      .ok ((), front ++ packOctets count (bits ++ textBits text) ++ back) := by
  induction text generalizing bits with
  | nil => simp [packText, textBits]
  | cons c text induction =>
      have septet : packCharacter front.length c bits.length (List.range 7)
          (front ++ packOctets count bits ++ back) =
          .ok ((), front ++
            packOctets count (bits ++ wordBits 7 c.toNat) ++ back) := by
        apply packCharacter_packOctets
        · intro j member
          have := List.mem_range.mp member
          omega
        · simp only [List.length_range, List.length_cons] at room ⊢
          omega
      rw [packText, Checked.run_bind_ok septet]
      have later := induction (bits ++ wordBits 7 c.toNat) (by
        simp only [List.length_append, wordBits_length, List.length_cons]
          at room ⊢
        omega)
      simpa [textBits] using later

/-- The coding octets and the text of a message with room for all of it. -/
theorem putUserData_fits (text : CString) (front rest : List UInt8)
    (len buflen : Nat) (short : text.strlen ≤ pduAscii7MaxDataLen)
    (under : len + 3 + textOctets text ≤ buflen)
    (room : 3 + textOctets text ≤ rest.length) :
    putUserData text front.length len buflen (front ++ rest) =
      .ok (((len + 3 + textOctets text : Nat) : Int),
        front ++ [0x00, pduDcsAscii7] ++
          text.strlen.toUInt8 :: packSeptets text ++
          rest.drop (3 + textOctets text)) := by
  have noWrap : wrapSize (text.strlen * 7 + 7) / 8 = textOctets text := by
    have bound : text.strlen * 7 + 7 < 2 ^ 64 := by
      simp only [pduAscii7MaxDataLen] at short
      omega
    rw [wrapSize, Nat.mod_eq_of_lt bound, textOctets]
  obtain _ | ⟨first, _ | ⟨second, _ | ⟨third, tail⟩⟩⟩ := rest
  · simp at room
  · simp only [List.length_cons, List.length_nil] at room
    omega
  · simp only [List.length_cons, List.length_nil] at room
    omega
  · have tailRoom : textOctets text ≤ tail.length := by
      simp only [List.length_cons] at room
      omega
    have test : ¬ ((len + 2 + textOctets text + 1 > buflen ||
        text.strlen > pduAscii7MaxDataLen) = true) := by
      simp only [Bool.or_eq_true, decide_eq_true_eq]
      omega
    have dcsPlace : (front ++ [0x00]).length = front.length + 1 := by simp
    have udlPlace : (front ++ [0x00] ++ [pduDcsAscii7]).length =
        front.length + 2 := by simp
    let start := front ++ [0x00, pduDcsAscii7] ++ [text.strlen.toUInt8]
    have startPlace : start.length = front.length + 2 + 1 := by simp [start]
    have cleared : Checked.fill (front.length + 2 + 1) 0 (textOctets text)
        (start ++ tail) =
        .ok ((), start ++ packOctets (textOctets text) [] ++
          tail.drop (textOctets text)) := by
      rw [packOctets_nil, ← startPlace]
      exact Checked.fill_append start 0 tail _ tailRoom
    have packed := packText_packOctets start (tail.drop (textOctets text))
      (textOctets text) text.bytes [] (by
        simpa using textBits_fit text)
    rw [startPlace, List.length_nil] at packed
    simp only [putUserData]
    rw [Checked.run_bind_ok (Checked.store_at rfl first _ _),
      Checked.run_bind_ok (Checked.store_at dcsPlace second _ _), noWrap,
      if_neg test, Checked.run_bind_ok (Checked.store_at udlPlace third _ _)]
    rw [show front ++ [0x00] ++ [pduDcsAscii7] ++ [text.strlen.toUInt8] ++
        tail = start ++ tail by simp [start],
      Checked.run_bind_ok cleared, Checked.run_bind_ok packed]
    have total : len + 2 + (1 + textOctets text) =
        len + 3 + textOctets text := by omega
    have dropped : tail.drop (textOctets text) =
        (first :: second :: third :: tail).drop (3 + textOctets text) := by
      rw [Nat.add_comm 3]
      simp
    simp [start, packSeptets, total, dropped]

/-- A text that is too long, or for which the buffer has no room, is refused
after the coding octets are stored. -/
theorem putUserData_refuses (text : CString) (front rest : List UInt8)
    (len buflen : Nat)
    (refused : pduAscii7MaxDataLen < text.strlen ∨
      buflen < len + 3 + textOctets text)
    (room : 2 ≤ rest.length) :
    ∃ changed, putUserData text front.length len buflen (front ++ rest) =
      .ok (-1, changed) := by
  obtain _ | ⟨first, _ | ⟨second, tail⟩⟩ := rest
  · simp at room
  · simp at room
  · have test : (len + 2 + wrapSize (text.strlen * 7 + 7) / 8 + 1 > buflen ||
        text.strlen > pduAscii7MaxDataLen) = true := by
      simp only [Bool.or_eq_true, decide_eq_true_eq]
      by_cases long : pduAscii7MaxDataLen < text.strlen
      · exact Or.inr long
      · left
        have bound : text.strlen * 7 + 7 < 2 ^ 64 := by
          simp only [pduAscii7MaxDataLen] at long
          omega
        have beyond := refused.resolve_left long
        rw [wrapSize, Nat.mod_eq_of_lt bound]
        simp only [textOctets] at beyond
        omega
    have dcsPlace : (front ++ [0x00]).length = front.length + 1 := by simp
    refine ⟨front ++ [0x00] ++ [pduDcsAscii7] ++ tail, ?_⟩
    simp only [putUserData]
    rw [Checked.run_bind_ok (Checked.store_at rfl first _ _),
      Checked.run_bind_ok (Checked.store_at dcsPlace second _ _), if_pos test]
    rfl

theorem putUserData_faults (text : CString) (front rest : List UInt8)
    (len buflen : Nat) (full : rest.length < 2) :
    ∃ fault, putUserData text front.length len buflen (front ++ rest) =
      .error fault := by
  rw [putUserData]
  exact Checked.stores_fault front rest 0x00 pduDcsAscii7 (fun _ => _) full

end KosCeExtra.Sms
