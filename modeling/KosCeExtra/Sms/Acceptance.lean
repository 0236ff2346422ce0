import KosCeExtra.Sms.StoreBounds

/-!
# Which messages `AsciiToPDU` accepts

The five places at which the encoder gives up compare a running count with
`buflen`.  `Accepted` says on the arguments alone what is left when none of
them does, and `totalOctets` how long the message is then.
-/

namespace KosCeExtra.Sms

/-- A number of at most twelve digits, and nothing else, behind its `+`. -/
structure IsNumber (number : CString) : Prop where
  decimal : ∀ c ∈ number.digits, isDigit c = true
  short : number.digits.length ≤ 12

/-- The octets of a message: service centre, flags and message reference,
destination, protocol identifier and coding scheme, text length, and text. -/
def totalOctets (smsc : Option CString) (dest text : CString) : Nat :=
  scaOctets smsc + 2 + (2 + (dest.digits.length + 1) / 2) + 2 + 1 +
    (7 * text.strlen + 7) / 8

structure Accepted (smsc : Option CString) (dest text : CString)
    (buflen : Nat) : Prop where
  large : 9 ≤ buflen
  smscOk : ∀ centre, smsc = some centre → IsNumber centre
  destOk : IsNumber dest
  short : text.strlen ≤ 160
  fits : totalOctets smsc dest text ≤ buflen

variable {smsc : Option CString} {dest text : CString} {buflen : Nat}

/-- Twelve digits are what fits into six octets. -/
theorem numberOk_iff (number : CString) : NumberOk number ↔ IsNumber number := by
  constructor
  · rintro ⟨short, decimal⟩
    refine ⟨decimal, ?_⟩
    simp only [numberOctets, pduNumLenMax] at short
    omega
  · rintro ⟨decimal, short⟩
    refine ⟨?_, decimal⟩
    simp only [numberOctets, pduNumLenMax]
    omega

theorem submitPdu_length_eq (smsc : Option CString) (dest text : CString) :
    (submitPdu smsc dest text).length = totalOctets smsc dest text := by
  rw [submitPdu_length, scaField_length]
  simp only [totalOctets, numberOctets, textOctets]
  omega

theorem accepted_iff :
    Accepted smsc dest text buflen ↔
      pduLenMin ≤ buflen ∧ Encodable smsc dest text buflen := by
  constructor
  · rintro ⟨large, smscOk, destOk, short, fits⟩
    refine ⟨large, ?_, (numberOk_iff dest).mpr destOk, short, ?_⟩
    · intro centre same
      exact (numberOk_iff centre).mpr (smscOk centre same)
    · rw [submitPdu_length_eq]
      exact fits
  · rintro ⟨large, smscOk, destOk, short, under⟩
    refine ⟨large, ?_, (numberOk_iff dest).mp destOk, short, ?_⟩
    · intro centre same
      exact (numberOk_iff centre).mp (smscOk centre same)
    · rw [← submitPdu_length_eq]
      exact under

private theorem asciiToPdu_of_accepted (accepted : Accepted smsc dest text buflen)
    {buffer : List UInt8} (contract : buflen ≤ buffer.length) :
    ∃ out, asciiToPdu smsc (some dest) (some text) (some buffer) buflen =
      .ok ((totalOctets smsc dest text : Int), out) := by
  obtain ⟨large, encodable⟩ := accepted_iff.mp accepted
  rw [asciiToPdu_encodable large encodable contract, submitPdu_length_eq]
  exact ⟨_, rfl⟩

/-- `AsciiToPDU` returns a non-negative number exactly for the messages it can
encode, and the number is the length of the message. -/
theorem asciiToPdu_accepts_iff (smsc dest text : Option CString)
    (pdu : Option (List UInt8)) (buflen : Nat)
    (contract : ∀ buffer, pdu = some buffer → buflen ≤ buffer.length) :
    ((∃ n out, asciiToPdu smsc dest text pdu buflen = .ok (n, out) ∧ 0 ≤ n) ↔
      ∃ number message buffer, dest = some number ∧ text = some message ∧
        pdu = some buffer ∧ Accepted smsc number message buflen) ∧
    ∀ n out, asciiToPdu smsc dest text pdu buflen = .ok (n, out) → 0 ≤ n →
      ∀ number message, dest = some number → text = some message →
        n = (totalOctets smsc number message : Int) := by
  have sound : ∀ n out, asciiToPdu smsc dest text pdu buflen = .ok (n, out) →
      0 ≤ n → ∃ number message buffer, dest = some number ∧
        text = some message ∧ pdu = some buffer ∧
        Accepted smsc number message buflen ∧
        n = (totalOctets smsc number message : Int) := by
    intro n out returned nonneg
    obtain ⟨number, message, buffer, rfl, rfl, rfl, large, encodable, rfl, -⟩ :=
      asciiToPdu_returns contract returned nonneg
    refine ⟨number, message, buffer, rfl, rfl, rfl, ?_, ?_⟩
    · exact accepted_iff.mpr ⟨large, encodable⟩
    · rw [submitPdu_length_eq]
  constructor
  · constructor
    · rintro ⟨n, out, returned, nonneg⟩
      obtain ⟨number, message, buffer, destEq, textEq, pduEq, accepted, -⟩ :=
        sound n out returned nonneg
      exact ⟨number, message, buffer, destEq, textEq, pduEq, accepted⟩
    · rintro ⟨number, message, buffer, rfl, rfl, rfl, accepted⟩
      obtain ⟨out, returned⟩ :=
        asciiToPdu_of_accepted accepted (contract buffer rfl)
      exact ⟨_, out, returned, Int.natCast_nonneg _⟩
  · intro n out returned nonneg number message destEq textEq
    obtain ⟨_, _, _, sameDest, sameText, -, -, total⟩ :=
      sound n out returned nonneg
    rw [destEq] at sameDest
    rw [textEq] at sameText
    cases sameDest
    cases sameText
    exact total

/-- A digit to a number of one digit, without a service centre, takes ten
octets. -/
theorem asciiToPdu_accepts_sample :
    ∃ n out, asciiToPdu none (some oneDigit) (some oneDigit)
        (some (List.replicate 10 0)) 10 = .ok (n, out) ∧ 0 ≤ n := by
  have number : IsNumber oneDigit := ⟨List.all_eq_true.mp rfl, by decide⟩
  refine (asciiToPdu_accepts_iff none (some oneDigit) (some oneDigit)
    (some (List.replicate 10 0)) 10 ?_).1.mpr ?_
  · intro buffer same
    cases same
    decide
  · refine ⟨oneDigit, oneDigit, _, rfl, rfl, rfl, by decide, ?_, number,
      by decide, by decide⟩
    intro centre impossible
    cases impossible

end KosCeExtra.Sms
