import KosCeExtra.Sms.EncoderOutcomes

/-!
# Reading an SMS-SUBMIT message back

`decodeSubmit` is a reference decoder for the message format, written from the
format and not from the encoder.  It checks every fixed octet, the nibble
filler of odd digit counts and that the spare bits after the last septet are
zero, and returns the octets it did not consume.  A message written by
`AsciiToPDU` decodes to the numbers and the text it was made from.
-/

namespace KosCeExtra.Sms

open BitStream

/-- The contents of an SMS-SUBMIT message: characters of the service centre
number, when there is one, of the destination number and of the text. -/
structure SmsSubmit where
  smsc : Option (List UInt8)
  dest : List UInt8
  text : List UInt8
  deriving DecidableEq, Repr

def decodeNibble (nibble : UInt8) : Option UInt8 :=
  if nibble ≤ 9 then some (0x30 + nibble) else none

/-- Digits of a number, low nibble first.  The filler `0xf` is allowed above
the last digit only. -/
def decodeDigits : List UInt8 → Option (List UInt8)
  | [] => some []
  | octet :: octets =>
      if octet >>> 4 = 0x0f ∧ octets = [] then
        (decodeNibble (octet &&& 0x0f)).map fun digit => [digit]
      else do
        let low ← decodeNibble (octet &&& 0x0f)
        let high ← decodeNibble (octet >>> 4)
        let digits ← decodeDigits octets
        some (low :: high :: digits)

/-- A number of `count` octets behind its type octet. -/
def decodeNumber (count : Nat) :
    List UInt8 → Option (List UInt8 × List UInt8)
  | 0x91 :: input =>
      if input.length < count then
        none
      else
        (decodeDigits (input.take count)).map fun digits =>
          (digits, input.drop count)
  | _ => none

/-- The length octet counts the type octet and the octets of the number. -/
def decodeSca : List UInt8 → Option (Option (List UInt8) × List UInt8)
  | [] => none
  | length :: input =>
      if length = 0 then
        some (none, input)
      else
        (decodeNumber (length.toNat - 1) input).map fun (digits, rest) =>
          (some digits, rest)

def decodeFlags : List UInt8 → Option (List UInt8)
  | 0x01 :: 0x00 :: input => some input
  | _ => none

/-- The length octet counts digits, so it also decides about the filler. -/
def decodeDa : List UInt8 → Option (List UInt8 × List UInt8)
  | [] => none
  | count :: input =>
      (decodeNumber ((count.toNat + 1) / 2) input).bind fun (digits, rest) =>
        if digits.length = count.toNat then some (digits, rest) else none

def decodeCoding : List UInt8 → Option (List UInt8)
  | 0x00 :: 0x00 :: input => some input
  | _ => none

def decodeUserData : List UInt8 → Option (List UInt8 × List UInt8)
  | [] => none
  | length :: input =>
      let octets := (length.toNat * 7 + 7) / 8
      if input.length < octets then
        none
      else do
        let (septets, spare) ←
          readWords 7 length.toNat (unpackOctets (input.take octets))
        if spare.all (· == false) then
          some (septets.map Nat.toUInt8, input.drop octets)
        else
          none

def decodeSubmit (input : List UInt8) : Option (SmsSubmit × List UInt8) := do
  let (smsc, input) ← decodeSca input
  let input ← decodeFlags input
  let (dest, input) ← decodeDa input
  let input ← decodeCoding input
  let (text, input) ← decodeUserData input
  some (⟨smsc, dest, text⟩, input)

/-! ## Numbers -/

/-- A digit is one of ten characters. -/
private theorem digit_cases {c : UInt8} (digit : isDigit c = true) :
    ∃ value : Fin 10, c = 0x30 + value.val.toUInt8 := by
  have range : (0x30 : UInt8) ≤ c ∧ c ≤ 0x39 := by
    simpa [isDigit] using digit
  have lower : 0x30 ≤ c.toNat := by simpa using UInt8.le_iff_toNat_le.mp range.1
  have upper : c.toNat ≤ 0x39 := by simpa using UInt8.le_iff_toNat_le.mp range.2
  refine ⟨⟨c.toNat - 0x30, by omega⟩, ?_⟩
  apply UInt8.toNat_inj.mp
  simp
  omega

private theorem decodeNibble_single :
    ∀ value : Fin 10,
      lowNibble ((0x30 + value.val.toUInt8) - 0x30) >>> 4 = 0x0f ∧
        decodeNibble (lowNibble ((0x30 + value.val.toUInt8) - 0x30) &&& 0x0f) =
          some (0x30 + value.val.toUInt8) := by
  decide

private theorem decodeNibble_pair :
    ∀ first second : Fin 10,
      let octet := withHighNibble
        (lowNibble ((0x30 + first.val.toUInt8) - 0x30))
        ((0x30 + second.val.toUInt8) - 0x30)
      octet >>> 4 ≠ 0x0f ∧
        decodeNibble (octet &&& 0x0f) = some (0x30 + first.val.toUInt8) ∧
        decodeNibble (octet >>> 4) = some (0x30 + second.val.toUInt8) := by
  decide

private theorem decodeDigits_semiOctets (digits : List UInt8)
    (decimal : ∀ c ∈ digits, isDigit c = true) :
    decodeDigits (semiOctets digits) = some digits := by
  induction digits using semiOctets.induct with
  | case1 => simp [semiOctets, decodeDigits]
  | case2 c =>
      obtain ⟨value, rfl⟩ := digit_cases (decimal c (by simp))
      obtain ⟨filler, low⟩ := decodeNibble_single value
      rw [semiOctets, decodeDigits, if_pos ⟨filler, rfl⟩, low]
      rfl
  | case3 c d digits induction =>
      obtain ⟨first, rfl⟩ := digit_cases (decimal c (by simp))
      obtain ⟨second, rfl⟩ := digit_cases (decimal d (by simp))
      obtain ⟨noFiller, low, high⟩ := decodeNibble_pair first second
      have later := induction fun other member =>
        decimal other (by simp [member])
      rw [semiOctets, decodeDigits, if_neg (fun filler => noFiller filler.1),
        low, high, later]
      rfl

theorem decodeNumber_field {number : CString} (ok : NumberOk number)
    (rest : List UInt8) :
    decodeNumber (numberOctets number)
        (pduNumInternational :: semiOctets number.digits ++ rest) =
      some (number.digits, rest) := by
  have digits := decodeDigits_semiOctets number.digits ok.decimal
  have length : (semiOctets number.digits).length = numberOctets number := by
    simp [numberOctets]
  have enough : ¬ (semiOctets number.digits ++ rest).length <
      numberOctets number := by
    simp [← length]
  simp only [pduNumInternational, List.cons_append, decodeNumber, if_neg enough]
  rw [List.take_left' length, List.drop_left' length, digits]
  rfl

private theorem decodeSca_scaField {smsc : Option CString} (ok : SmscOk smsc)
    (rest : List UInt8) :
    decodeSca (scaField smsc ++ rest) =
      some (smsc.map CString.digits, rest) := by
  cases smsc with
  | none => simp [scaField, decodeSca]
  | some number =>
      have numberOk := ok number rfl
      have short := numberOk.short
      simp only [pduNumLenMax] at short
      have length : (scaLen number.digits.length (numberOctets number)).toNat =
          1 + numberOctets number := by
        simp [scaLen]
        omega
      have nonzero : scaLen number.digits.length (numberOctets number) ≠ 0 := by
        intro zero
        rw [zero] at length
        simp at length
        omega
      have count : 1 + numberOctets number - 1 = numberOctets number := by omega
      rw [scaField, numberField, List.cons_append, decodeSca, if_neg nonzero,
        length, count, decodeNumber_field numberOk]
      rfl

private theorem decodeDa_field {dest : CString} (ok : NumberOk dest)
    (rest : List UInt8) :
    decodeDa (numberField daDigitCount dest ++ rest) =
      some (dest.digits, rest) := by
  have short := ok.short
  simp only [pduNumLenMax, numberOctets] at short
  have count : (daDigitCount dest.digits.length (numberOctets dest)).toNat =
      dest.digits.length := by
    simp [daDigitCount]
    omega
  rw [numberField, List.cons_append, decodeDa, count]
  change ((decodeNumber (numberOctets dest) _).bind _) = _
  rw [decodeNumber_field ok]
  simp

/-! ## Text -/

/-- What is left of a character in the message: its low seven bits. -/
def septet (c : UInt8) : UInt8 :=
  (c.toNat % 2 ^ 7).toUInt8

theorem septet_of_ascii {c : UInt8} (ascii : c < 0x80) : septet c = c := by
  have small : c.toNat < 2 ^ 7 := by simpa using UInt8.lt_iff_toNat_lt.mp ascii
  rw [septet, Nat.mod_eq_of_lt small]
  simp

private theorem decodeUserData_packSeptets {text : CString}
    (short : text.strlen ≤ pduAscii7MaxDataLen) (rest : List UInt8) :
    decodeUserData (text.strlen.toUInt8 :: packSeptets text ++ rest) =
      some (text.bytes.map septet, rest) := by
  simp only [pduAscii7MaxDataLen] at short
  have length : text.strlen.toUInt8.toNat = text.strlen := by
    simp
    omega
  have octets : (packSeptets text).length = textOctets text :=
    packSeptets_length text
  have enough : ¬ (packSeptets text ++ rest).length < textOctets text := by
    simp
  have unpacked : unpackOctets (packSeptets text) =
      textBits text.bytes ++
        List.replicate (8 * textOctets text - (textBits text.bytes).length)
          false :=
    unpackOctets_packOctets _ _ (textBits_fit text)
  have septets : readWords 7 text.strlen (unpackOctets (packSeptets text)) =
      some (text.bytes.map fun c => c.toNat % 2 ^ 7,
        List.replicate (8 * textOctets text - (textBits text.bytes).length)
          false) := by
    have read := readWords_flatMap 7 (text.bytes.map UInt8.toNat)
      (List.replicate (8 * textOctets text - (textBits text.bytes).length)
        false)
    rw [unpacked]
    simpa [textBits, List.flatMap_map, CString.strlen,
      Function.comp_def] using read
  rw [List.cons_append, decodeUserData, length]
  change (if (packSeptets text ++ rest).length < textOctets text then none
    else _) = _
  rw [if_neg enough]
  change ((readWords 7 text.strlen (unpackOctets
    ((packSeptets text ++ rest).take (textOctets text)))).bind _) = _
  rw [List.take_left' octets, septets, Option.bind_some]
  have dropped : (packSeptets text ++ rest).drop (textOctets text) = rest :=
    List.drop_left' octets
  simp only [textOctets] at dropped
  simp [dropped, Function.comp_def, septet]

/-! ## Messages -/

private theorem decodeSubmit_submitPdu {smsc : Option CString} {dest text : CString}
    {buflen : Nat} (encodable : Encodable smsc dest text buflen)
    (rest : List UInt8) :
    decodeSubmit (submitPdu smsc dest text ++ rest) =
      some (⟨smsc.map CString.digits, dest.digits, text.bytes.map septet⟩,
        rest) := by
  have sca := decodeSca_scaField encodable.smscOk
    (0x01 :: 0x00 :: (numberField daDigitCount dest ++
      (0x00 :: 0x00 :: (text.strlen.toUInt8 :: packSeptets text ++ rest))))
  have da := decodeDa_field encodable.destOk
    (0x00 :: 0x00 :: (text.strlen.toUInt8 :: packSeptets text ++ rest))
  have userData := decodeUserData_packSeptets encodable.short rest
  have split : submitPdu smsc dest text ++ rest =
      scaField smsc ++ (0x01 :: 0x00 :: (numberField daDigitCount dest ++
        (0x00 :: 0x00 :: (text.strlen.toUInt8 :: packSeptets text ++
          rest)))) := by
    simp [submitPdu, submitHeader, pduFlagsMtiSmsSubmit, pduDcsAscii7]
  rw [split, decodeSubmit, sca]
  simp only [Option.bind_eq_bind, Option.bind_some, decodeFlags, da,
    decodeCoding, userData]

/-- A message that was returned is read back, followed by the rest of the
buffer. -/
theorem decodeSubmit_returned {smsc : Option CString} {dest text : CString}
    {buffer : List UInt8} {buflen : Nat} (contract : buflen ≤ buffer.length)
    {n : Int} {out : List UInt8}
    (returned : asciiToPdu smsc (some dest) (some text) (some buffer) buflen =
      .ok (n, out))
    (nonneg : 0 ≤ n) :
    ∃ message rest, out = message ++ rest ∧ n = (message.length : Int) ∧
      ∀ more, decodeSubmit (message ++ more) =
        some (⟨smsc.map CString.digits, dest.digits, text.bytes.map septet⟩,
          more) := by
  obtain ⟨number, message, destEq, textEq, -, encodable, rfl, rfl⟩ :=
    asciiToPdu_returns_some contract returned nonneg
  cases destEq
  cases textEq
  exact ⟨_, _, rfl, rfl, decodeSubmit_submitPdu encodable⟩

/-- Whenever `AsciiToPDU` returns a length `n`, the reference decoder consumes
exactly the first `n` octets of the buffer and yields the digits of both
numbers, without their `+`, and the text. -/
theorem asciiToPdu_roundTrip (smsc : Option CString) (dest text : CString)
    (buffer : List UInt8) (buflen : Nat) (contract : buflen ≤ buffer.length)
    (ascii : ∀ c ∈ text.bytes, c < 0x80) (n : Int) (out : List UInt8)
    (returned : asciiToPdu smsc (some dest) (some text) (some buffer) buflen =
      .ok (n, out))
    (nonneg : 0 ≤ n) :
    n.toNat ≤ out.length ∧
      decodeSubmit out =
        some (⟨smsc.map CString.digits, dest.digits, text.bytes⟩,
          out.drop n.toNat) := by
  obtain ⟨message, rest, rfl, rfl, decoded⟩ :=
    decodeSubmit_returned contract returned nonneg
  have unmasked : text.bytes.map septet = text.bytes := by
    rw [List.map_congr_left fun c member => septet_of_ascii (ascii c member)]
    exact List.map_id' _
  rw [Int.toNat_natCast, List.drop_left' rfl, decoded, unmasked]
  exact ⟨by simp, rfl⟩

/-- `+79000000000`, the sample number of the client. -/
def sampleDest : CString where
  bytes := [0x2b, 0x37, 0x39, 0x30, 0x30, 0x30, 0x30, 0x30, 0x30, 0x30, 0x30,
    0x30]
  noNul := by simp
  fits := by decide

/-- `Hello from KasperskyOS!`, the text the client sends. -/
def sampleText : CString where
  bytes := [0x48, 0x65, 0x6c, 0x6c, 0x6f, 0x20, 0x66, 0x72, 0x6f, 0x6d, 0x20,
    0x4b, 0x61, 0x73, 0x70, 0x65, 0x72, 0x73, 0x6b, 0x79, 0x4f, 0x53, 0x21]
  noNul := by simp
  fits := by decide

/-- The octets of `expected_output`. -/
def sampleOctets : List UInt8 :=
  [0x00, 0x01, 0x00, 0x0b, 0x91, 0x97, 0x00, 0x00, 0x00, 0x00, 0xf0, 0x00, 0x00,
    0x17, 0xc8, 0x32, 0x9b, 0xfd, 0x06, 0x99, 0xe5, 0xef, 0x36, 0x68, 0x19, 0x9e,
    0xc3, 0xcb, 0xf2, 0xf9, 0x3a, 0xff, 0x9c, 0x86, 0x00]

theorem asciiToPdu_roundTrip_sample :
    asciiToPdu none (some sampleDest) (some sampleText)
        (some (List.replicate 35 0)) 35 = .ok (35, sampleOctets) ∧
      decodeSubmit sampleOctets =
        some (⟨none, sampleDest.digits, sampleText.bytes⟩, []) := by
  have encoded : asciiToPdu none (some sampleDest) (some sampleText)
      (some (List.replicate 35 0)) 35 = .ok (35, sampleOctets) := by
    decide +kernel
  have ascii : ∀ c ∈ sampleText.bytes, c < 0x80 := by
    simp [sampleText]
  refine ⟨encoded, ?_⟩
  simpa [sampleOctets] using (asciiToPdu_roundTrip none sampleDest sampleText
    (List.replicate 35 0) 35 (by decide) ascii 35 sampleOctets encoded
    (by decide)).2

end KosCeExtra.Sms
