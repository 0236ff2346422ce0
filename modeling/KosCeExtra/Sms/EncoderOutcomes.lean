import KosCeExtra.Sms.PduEncoding

/-!
# What a call of `AsciiToPDU` can do

Given at least `buflen` octets, a call with non-null arguments does one of
three things: it writes an encodable message and returns its length, it stores
outside its buffer, or it returns `-1`.  `Encodable` and `Overruns` say on the
arguments alone which of them happens.
-/

namespace KosCeExtra.Sms

/-- The messages for which a buffer of `buflen` octets is large enough. -/
structure Encodable (smsc : Option CString) (dest text : CString)
    (buflen : Nat) : Prop where
  smscOk : SmscOk smsc
  destOk : NumberOk dest
  short : text.strlen ≤ pduAscii7MaxDataLen
  under : (submitPdu smsc dest text).length ≤ buflen

/-- The calls that store outside a buffer of `size` octets.  Some stores come
before the check against `buflen` that covers them: flags and message
reference, then the digit count of the destination, then protocol identifier
and coding scheme. -/
def Overruns (smsc : Option CString) (dest : CString) (size buflen : Nat) :
    Prop :=
  let start := (scaField smsc).length
  SmscOk smsc ∧
    (size < start + 2 ∨
      numberOctets dest ≤ pduNumLenMax ∧
        (size < start + 3 ∨
          NumberOk dest ∧ start + 4 + numberOctets dest ≤ buflen ∧
            size < start + 6 + numberOctets dest))

@[simp] theorem submitHeader_length (smsc : Option CString) (dest : CString) :
    (submitHeader smsc dest).length =
      (scaField smsc).length + 6 + numberOctets dest := by
  simp [submitHeader]
  omega

@[simp] theorem submitPdu_length (smsc : Option CString) (dest text : CString) :
    (submitPdu smsc dest text).length =
      (scaField smsc).length + 7 + numberOctets dest + textOctets text := by
  simp [submitPdu]
  omega

private theorem putSca_ok {smsc : Option CString} {buflen : Nat}
    (ok : SmscOk smsc) (large : pduLenMin ≤ buflen) {buffer : List UInt8}
    (contract : buflen ≤ buffer.length) :
    putSca smsc buflen buffer =
      .ok (.next (scaField smsc).length (scaField smsc).length,
        scaField smsc ++ buffer.drop (scaField smsc).length) := by
  simp only [pduLenMin] at large
  cases smsc with
  | none =>
      cases buffer with
      | nil => simp at contract; omega
      | cons old rest =>
          have stored : Checked.store 0 0 (old :: rest) =
              .ok ((), 0 :: rest) := Checked.store_append [] old 0 rest
          rw [putSca, Checked.run_bind_ok stored]
          simp [scaField]
  | some number =>
      have numberOk := ok number rfl
      have short := numberOk.short
      simp only [pduNumLenMax] at short
      have under : 0 + (2 + numberOctets number) ≤ buflen := by omega
      have run := putNumber_decimal scaLen [] buffer numberOk under (by omega)
      simpa [putSca, scaField] using run

private theorem putSca_refuses {smsc : Option CString} {buflen : Nat}
    (bad : ¬ SmscOk smsc) (large : pduLenMin ≤ buflen) {buffer : List UInt8}
    (contract : buflen ≤ buffer.length) :
    ∃ changed, putSca smsc buflen buffer = .ok (.returned (-1), changed) := by
  simp only [pduLenMin] at large
  cases smsc with
  | none => exact absurd (fun _ impossible => by cases impossible) bad
  | some number =>
      have numberBad : ¬ NumberOk number := by
        intro ok
        apply bad
        intro other equality
        cases equality
        exact ok
      apply putNumber_refuses scaLen [] buffer
      · exact fun ok => numberBad ok.1
      · intro _
        omega
      · omega

private theorem putDestination_faults (dest : CString) (front rest : List UInt8)
    (len buflen : Nat) (full : rest.length < 2) :
    ∃ fault, putDestination dest front.length len buflen (front ++ rest) =
      .error fault := by
  rw [putDestination]
  exact Checked.stores_fault front rest pduFlagsMtiSmsSubmit 0x00 (fun _ => _) full

private theorem putDestination_header (dest : CString) (front rest : List UInt8)
    (len buflen : Nat) (room : 2 ≤ rest.length) :
    putDestination dest front.length len buflen (front ++ rest) =
      putNumber daDigitCount dest
        (front ++ [pduFlagsMtiSmsSubmit, 0x00]).length (len + 2) buflen
        ((front ++ [pduFlagsMtiSmsSubmit, 0x00]) ++ rest.drop 2) := by
  obtain _ | ⟨first, _ | ⟨second, tail⟩⟩ := rest
  · simp at room
  · simp at room
  · have place : (front ++ [pduFlagsMtiSmsSubmit]).length =
        front.length + 1 := by simp
    rw [putDestination, Checked.run_bind_ok (Checked.store_at rfl first _ _),
      Checked.run_bind_ok (Checked.store_at place second _ _)]
    simp

section EncodePdu

variable {smsc : Option CString} {dest text : CString} {buflen : Nat}
  {buffer : List UInt8}

/-- What is left to do once the destination has been handled. -/
private def afterDestination (text : CString) (buflen : Nat) :
    Progress → Checked UInt8 Int
  | .returned code => pure code
  | .next pdu len => putUserData text pdu len buflen

/-- The buffer in front of the destination number. -/
private def destinationFront (smsc : Option CString) : List UInt8 :=
  scaField smsc ++ [pduFlagsMtiSmsSubmit, 0x00]

private theorem encodePdu_sca (ok : SmscOk smsc) (large : pduLenMin ≤ buflen)
    (contract : buflen ≤ buffer.length) :
    encodePdu smsc dest text buflen buffer =
      (putDestination dest (scaField smsc).length (scaField smsc).length
          buflen >>= afterDestination text buflen)
        (scaField smsc ++ buffer.drop (scaField smsc).length) := by
  rw [encodePdu, Checked.run_bind_ok (putSca_ok ok large contract)]
  rfl

private theorem encodePdu_header (ok : SmscOk smsc)
    (large : pduLenMin ≤ buflen) (contract : buflen ≤ buffer.length)
    (room : (scaField smsc).length + 2 ≤ buffer.length) :
    encodePdu smsc dest text buflen buffer =
      (putNumber daDigitCount dest (destinationFront smsc).length
          ((scaField smsc).length + 2) buflen >>= afterDestination text buflen)
        (destinationFront smsc ++ buffer.drop ((scaField smsc).length + 2)) := by
  have header := putDestination_header dest (scaField smsc)
    (buffer.drop (scaField smsc).length) (scaField smsc).length buflen (by
      simp only [List.length_drop]
      omega)
  rw [encodePdu_sca ok large contract, Checked.run_bind, header,
    List.drop_drop, ← Checked.run_bind]
  rfl

/-- The buffer in front of the coding octets, with the destination in it. -/
private theorem encodePdu_destination (ok : SmscOk smsc)
    (destOk : NumberOk dest) (large : pduLenMin ≤ buflen)
    (contract : buflen ≤ buffer.length)
    (under : (scaField smsc).length + 4 + numberOctets dest ≤ buflen) :
    encodePdu smsc dest text buflen buffer =
      putUserData text
        (destinationFront smsc ++ numberField daDigitCount dest).length
        ((scaField smsc).length + 4 + numberOctets dest) buflen
        ((destinationFront smsc ++ numberField daDigitCount dest) ++
          buffer.drop ((scaField smsc).length + 4 + numberOctets dest)) := by
  have numberUnder : (scaField smsc).length + 2 + (2 + numberOctets dest) ≤
      buflen := by omega
  have written := putNumber_decimal daDigitCount (destinationFront smsc)
    (buffer.drop ((scaField smsc).length + 2)) destOk numberUnder (by
      simp only [List.length_drop]
      omega)
  have count : (scaField smsc).length + 2 + (2 + numberOctets dest) =
      (scaField smsc).length + 4 + numberOctets dest := by omega
  rw [encodePdu_header ok large contract (by omega),
    Checked.run_bind_ok written, List.drop_drop, count]
  simp [afterDestination]

/-- An encodable message is written as `submitPdu`, whose length is returned;
the rest of the buffer keeps its contents. -/
theorem encodePdu_encodable (encodable : Encodable smsc dest text buflen)
    (large : pduLenMin ≤ buflen) (contract : buflen ≤ buffer.length) :
    encodePdu smsc dest text buflen buffer =
      .ok (((submitPdu smsc dest text).length : Int),
        submitPdu smsc dest text ++
          buffer.drop (submitPdu smsc dest text).length) := by
  have under := encodable.under
  rw [submitPdu_length] at under
  have userData := putUserData_fits text
    (destinationFront smsc ++ numberField daDigitCount dest)
    (buffer.drop ((scaField smsc).length + 4 + numberOctets dest))
    ((scaField smsc).length + 4 + numberOctets dest) buflen encodable.short
    (by omega) (by
      simp only [List.length_drop]
      omega)
  have total : (scaField smsc).length + 4 + numberOctets dest + 3 +
      textOctets text = (submitPdu smsc dest text).length := by
    rw [submitPdu_length]
    omega
  have dropped : (scaField smsc).length + 4 + numberOctets dest +
      (3 + textOctets text) = (submitPdu smsc dest text).length := by
    rw [submitPdu_length]
    omega
  rw [encodePdu_destination encodable.smscOk encodable.destOk large contract
    (by omega), userData, List.drop_drop, total, dropped]
  simp [submitPdu, submitHeader, destinationFront]

/-- A call that overruns its buffer faults. -/
theorem encodePdu_overruns (text : CString)
    (overruns : Overruns smsc dest buffer.length buflen)
    (large : pduLenMin ≤ buflen) (contract : buflen ≤ buffer.length) :
    ∃ fault, encodePdu smsc dest text buflen buffer = .error fault := by
  obtain ⟨ok, cases⟩ := overruns
  by_cases early : buffer.length < (scaField smsc).length + 2
  · obtain ⟨fault, faulted⟩ := putDestination_faults dest (scaField smsc)
      (buffer.drop (scaField smsc).length) (scaField smsc).length buflen (by
        simp only [List.length_drop]
        omega)
    refine ⟨fault, ?_⟩
    rw [encodePdu_sca ok large contract]
    exact Checked.run_bind_error faulted
  · obtain ⟨short, digitCount | ⟨destOk, under, late⟩⟩ :=
      cases.resolve_left early
    · have exhausted : buffer.drop ((scaField smsc).length + 2) = [] := by
        apply List.drop_eq_nil_of_le
        omega
      refine ⟨.store (destinationFront smsc).length, ?_⟩
      rw [encodePdu_header ok large contract (by omega), exhausted,
        List.append_nil]
      exact Checked.run_bind_error
        (putNumber_end daDigitCount short (destinationFront smsc))
    · rw [encodePdu_destination ok destOk large contract under]
      apply putUserData_faults
      simp only [List.length_drop]
      omega

/-- A destination that is no number, or that leaves no room, is refused. -/
private theorem encodePdu_refuses_destination (ok : SmscOk smsc)
    (bad : ¬ (NumberOk dest ∧
      (scaField smsc).length + 4 + numberOctets dest ≤ buflen))
    (inside : ¬ Overruns smsc dest buffer.length buflen)
    (large : pduLenMin ≤ buflen) (contract : buflen ≤ buffer.length) :
    ∃ changed, encodePdu smsc dest text buflen buffer =
      .ok (-1, changed) := by
  have header : (scaField smsc).length + 2 ≤ buffer.length := by
    by_contra early
    exact inside ⟨ok, Or.inl (Nat.not_le.mp early)⟩
  have tail : (buffer.drop ((scaField smsc).length + 2)).length =
      buffer.length - ((scaField smsc).length + 2) := List.length_drop
  have numberBad : ¬ (NumberOk dest ∧
      (scaField smsc).length + 2 + (2 + numberOctets dest) ≤ buflen) := by
    rintro ⟨destOk, under⟩
    exact bad ⟨destOk, by omega⟩
  have first : numberOctets dest ≤ pduNumLenMax →
      0 < (buffer.drop ((scaField smsc).length + 2)).length := by
    intro short
    by_contra early
    exact inside ⟨ok, Or.inr ⟨short, Or.inl (by omega)⟩⟩
  obtain ⟨changed, stopped⟩ := putNumber_refuses daDigitCount
    (destinationFront smsc) _ numberBad first (by omega)
  refine ⟨changed, ?_⟩
  rw [encodePdu_header ok large contract header, Checked.run_bind_ok stopped]
  rfl

/-- Every other call returns `-1`. -/
theorem encodePdu_refuses (bad : ¬ Encodable smsc dest text buflen)
    (inside : ¬ Overruns smsc dest buffer.length buflen)
    (large : pduLenMin ≤ buflen) (contract : buflen ≤ buffer.length) :
    ∃ changed, encodePdu smsc dest text buflen buffer =
      .ok (-1, changed) := by
  by_cases ok : SmscOk smsc
  · by_cases fine : NumberOk dest ∧
        (scaField smsc).length + 4 + numberOctets dest ≤ buflen
    · obtain ⟨destOk, under⟩ := fine
      have coding : (scaField smsc).length + 6 + numberOctets dest ≤
          buffer.length := by
        by_contra late
        exact inside ⟨ok, Or.inr ⟨destOk.short, Or.inr ⟨destOk, under,
          Nat.not_le.mp late⟩⟩⟩
      rw [encodePdu_destination ok destOk large contract under]
      apply putUserData_refuses
      · by_contra fits
        push Not at fits
        apply bad
        refine ⟨ok, destOk, fits.1, ?_⟩
        rw [submitPdu_length]
        omega
      · simp only [List.length_drop]
        omega
    · exact encodePdu_refuses_destination ok fine inside large contract
  · obtain ⟨changed, stopped⟩ := putSca_refuses ok large contract
    refine ⟨changed, ?_⟩
    rw [encodePdu, Checked.run_bind_ok stopped]
    rfl

end EncodePdu

/-- The call writes an encodable message over the front of the buffer. -/
theorem asciiToPdu_encodable {smsc : Option CString} {dest text : CString}
    {buflen : Nat} {buffer : List UInt8} (large : pduLenMin ≤ buflen)
    (encodable : Encodable smsc dest text buflen)
    (contract : buflen ≤ buffer.length) :
    asciiToPdu smsc (some dest) (some text) (some buffer) buflen =
      .ok (((submitPdu smsc dest text).length : Int),
        submitPdu smsc dest text ++
          buffer.drop (submitPdu smsc dest text).length) := by
  rw [asciiToPdu, if_neg (Nat.not_lt.mpr large),
    encodePdu_encodable encodable large contract]

/-- A call that returns a length has written an encodable message. -/
theorem asciiToPdu_returns {smsc dest text : Option CString}
    {pdu : Option (List UInt8)} {buflen : Nat} {n : Int} {out : List UInt8}
    (contract : ∀ buffer, pdu = some buffer → buflen ≤ buffer.length)
    (returned : asciiToPdu smsc dest text pdu buflen = .ok (n, out))
    (nonneg : 0 ≤ n) :
    ∃ number message buffer,
      dest = some number ∧ text = some message ∧ pdu = some buffer ∧
      pduLenMin ≤ buflen ∧ Encodable smsc number message buflen ∧
      n = ((submitPdu smsc number message).length : Int) ∧
      out = submitPdu smsc number message ++
        buffer.drop (submitPdu smsc number message).length := by
  obtain _ | number := dest <;> obtain _ | message := text <;>
    obtain _ | buffer := pdu
  case some.some.some =>
    have enough := contract buffer rfl
    simp only [asciiToPdu] at returned
    by_cases small : buflen < pduLenMin
    · rw [if_pos small] at returned
      cases returned
      omega
    · rw [if_neg small] at returned
      have large := Nat.not_lt.mp small
      refine ⟨number, message, buffer, rfl, rfl, rfl, ?_⟩
      by_cases encodable : Encodable smsc number message buflen
      · rw [encodePdu_encodable encodable large enough] at returned
        cases returned
        exact ⟨large, encodable, rfl, rfl⟩
      · exfalso
        by_cases overruns : Overruns smsc number buffer.length buflen
        · obtain ⟨fault, faulted⟩ :=
            encodePdu_overruns message overruns large enough
          rw [faulted] at returned
          cases returned
        · obtain ⟨changed, refused⟩ :=
            encodePdu_refuses encodable overruns large enough
          rw [refused] at returned
          cases returned
          omega
  all_goals
    simp only [asciiToPdu] at returned
    cases returned
    omega

/-- The same for a buffer that is there. -/
theorem asciiToPdu_returns_some {smsc dest text : Option CString}
    {buffer : List UInt8} {buflen : Nat} {n : Int} {out : List UInt8}
    (contract : buflen ≤ buffer.length)
    (returned : asciiToPdu smsc dest text (some buffer) buflen = .ok (n, out))
    (nonneg : 0 ≤ n) :
    ∃ number message, dest = some number ∧ text = some message ∧
      pduLenMin ≤ buflen ∧ Encodable smsc number message buflen ∧
      n = ((submitPdu smsc number message).length : Int) ∧
      out = submitPdu smsc number message ++
        buffer.drop (submitPdu smsc number message).length := by
  have enough : ∀ cells, some buffer = some cells → buflen ≤ cells.length := by
    intro cells same
    cases same
    exact contract
  obtain ⟨number, message, cells, destEq, textEq, same, written⟩ :=
    asciiToPdu_returns enough returned nonneg
  cases same
  exact ⟨number, message, destEq, textEq, written⟩

end KosCeExtra.Sms
