import KosCeExtra.Sms.EncoderOutcomes

/-!
# Stores of `AsciiToPDU` and the size of its buffer

The check against `PDU_LEN_MIN` covers the shortest message only.  Flags and
message reference, the digit count of the destination, and protocol identifier
with coding scheme are each stored before `buflen` is compared with a count
that includes them.  `StoresFit` says on the arguments when this is harmless.

The digits of a number and the characters of the text are put together in the
buffer, in octets that the same call has stored before.  So what a call returns
does not depend on what the buffer held.
-/

namespace KosCeExtra.Sms

/-- Octets of the service centre address, its length octet included. -/
def scaOctets : Option CString → Nat
  | none => 1
  | some smsc => 2 + numberOctets smsc

/-- The conditions under which every store lies below `buflen`.  Nothing is
stored when an argument is null or `buflen` is below the minimum, and a bad
service centre number stops the encoder in time.  Otherwise there has to be
room for flags and message reference; unless the destination is too long, for
its digit count; and, once the whole destination fits and is decimal, for the
two octets after it. -/
def StoresFit (smsc dest text : Option CString) (buflen : Nat) : Prop :=
  ∀ number message, dest = some number → text = some message →
    pduLenMin ≤ buflen → SmscOk smsc →
    scaOctets smsc + 2 ≤ buflen ∧
      (numberOctets number ≤ pduNumLenMax →
        scaOctets smsc + 3 ≤ buflen ∧
          (NumberOk number →
            scaOctets smsc + 4 + numberOctets number ≤ buflen →
            scaOctets smsc + 6 + numberOctets number ≤ buflen))

theorem scaField_length (smsc : Option CString) :
    (scaField smsc).length = scaOctets smsc := by
  cases smsc with
  | none => rfl
  | some number => simp [scaField, scaOctets]

private theorem storesFit_iff_not_overruns {smsc : Option CString}
    {number message : CString} {buflen : Nat} (large : pduLenMin ≤ buflen) :
    StoresFit smsc (some number) (some message) buflen ↔
      ¬ Overruns smsc number buflen buflen := by
  simp only [Overruns, scaField_length]
  constructor
  · rintro fits ⟨ok, early | ⟨short, digitCount | ⟨decimal, under, late⟩⟩⟩
    · have room := (fits number message rfl rfl large ok).1
      omega
    · have room := ((fits number message rfl rfl large ok).2 short).1
      omega
    · have room :=
        ((fits number message rfl rfl large ok).2 short).2 decimal under
      omega
  · intro inside number message destEq textEq _ ok
    cases destEq
    refine ⟨?_, fun short => ⟨?_, fun decimal under => ?_⟩⟩
    · by_contra early
      exact inside ⟨ok, Or.inl (Nat.not_le.mp early)⟩
    · by_contra early
      exact inside ⟨ok, Or.inr ⟨short, Or.inl (Nat.not_le.mp early)⟩⟩
    · by_contra late
      exact inside ⟨ok, Or.inr ⟨short, Or.inr ⟨decimal, under,
        Nat.not_le.mp late⟩⟩⟩

/-- On a buffer of exactly `buflen` octets, no path of `AsciiToPDU` stores
outside the buffer if and only if `StoresFit` holds. -/
theorem asciiToPdu_inBounds_iff (smsc dest text : Option CString)
    (buffer : List UInt8) :
    (∀ fault, asciiToPdu smsc dest text (some buffer) buffer.length ≠
        .error fault) ↔
      StoresFit smsc dest text buffer.length := by
  cases dest with
  | none =>
      refine iff_of_true (fun fault => by simp [asciiToPdu]) ?_
      intro number message impossible
      cases impossible
  | some number =>
      cases text with
      | none =>
          refine iff_of_true (fun fault => by simp [asciiToPdu]) ?_
          intro number message _ impossible
          cases impossible
      | some message =>
          by_cases large : pduLenMin ≤ buffer.length
          · have run : asciiToPdu smsc (some number) (some message)
                (some buffer) buffer.length =
                encodePdu smsc number message buffer.length buffer := by
              simp [asciiToPdu, Nat.not_lt.mpr large]
            rw [storesFit_iff_not_overruns large, run]
            constructor
            · intro inBounds overruns
              obtain ⟨fault, faulted⟩ :=
                encodePdu_overruns message overruns large le_rfl
              exact inBounds fault faulted
            · intro inside fault faulted
              by_cases encodable :
                  Encodable smsc number message buffer.length
              · rw [encodePdu_encodable encodable large le_rfl] at faulted
                cases faulted
              · obtain ⟨changed, refused⟩ :=
                  encodePdu_refuses encodable inside large le_rfl
                rw [refused] at faulted
                cases faulted
          · refine iff_of_true (fun fault => ?_) ?_
            · simp [asciiToPdu, Nat.not_le.mp large]
            · intro _ _ _ _ enough
              exact absurd enough large

/-- A service centre number of twelve digits. -/
def twelveDigits : CString where
  bytes := [0x31, 0x32, 0x33, 0x34, 0x35, 0x36, 0x37, 0x38, 0x39, 0x30, 0x31,
    0x32]
  noNul := by simp
  fits := by decide

def oneDigit : CString where
  bytes := [0x31]
  noNul := by simp
  fits := by decide

/-- With a service centre of twelve digits and nine octets, which pass the
check against `PDU_LEN_MIN`, the message reference is stored at index nine. -/
theorem asciiToPdu_stores_at_buflen :
    asciiToPdu (some twelveDigits) (some oneDigit) (some oneDigit)
      (some (List.replicate 9 0)) 9 = .error (.store 9) := by
  decide

/-- If `AsciiToPDU` returns `n` with one buffer, it returns `n` with every other
one, leaves the same first `n` octets there, and changes none behind them. -/
theorem asciiToPdu_forgets_buffer (smsc dest text : Option CString)
    (buflen : Nat) (first second : List UInt8)
    (firstRoom : buflen ≤ first.length) (secondRoom : buflen ≤ second.length)
    (n : Int) (out : List UInt8)
    (returned : asciiToPdu smsc dest text (some first) buflen = .ok (n, out))
    (nonneg : 0 ≤ n) :
    ∃ other, asciiToPdu smsc dest text (some second) buflen = .ok (n, other) ∧
      n ≤ out.length ∧ n ≤ other.length ∧
      (∀ index : Nat, index < n → out[index]? = other[index]?) ∧
      ∀ index : Nat, n ≤ index →
        out[index]? = first[index]? ∧ other[index]? = second[index]? := by
  obtain ⟨number, message, rfl, rfl, large, encodable, rfl, rfl⟩ :=
    asciiToPdu_returns_some firstRoom returned nonneg
  refine ⟨_, asciiToPdu_encodable large encodable secondRoom, ?_, ?_, ?_, ?_⟩
  · rw [List.length_append]
    exact Int.ofNat_le.mpr (Nat.le_add_right _ _)
  · rw [List.length_append]
    exact Int.ofNat_le.mpr (Nat.le_add_right _ _)
  · intro index before
    have inside : index < (submitPdu smsc number message).length :=
      Int.ofNat_lt.mp before
    rw [List.getElem?_append_left inside, List.getElem?_append_left inside]
  · intro index behind
    have outside : (submitPdu smsc number message).length ≤ index :=
      Int.ofNat_le.mp behind
    rw [List.getElem?_append_right outside, List.getElem?_append_right outside,
      List.getElem?_drop, List.getElem?_drop, Nat.add_sub_cancel' outside]
    exact ⟨rfl, rfl⟩

/-- A digit to a number of one digit, in a buffer of zeros and in one of ones. -/
theorem asciiToPdu_forgets_sample :
    ∃ out other, asciiToPdu none (some oneDigit) (some oneDigit)
        (some (List.replicate 12 0)) 12 = .ok (10, out) ∧
      asciiToPdu none (some oneDigit) (some oneDigit)
        (some (List.replicate 12 0xff)) 12 = .ok (10, other) ∧
      ∀ index : Nat, (index : Int) < 10 → out[index]? = other[index]? := by
  have encoded : asciiToPdu none (some oneDigit) (some oneDigit)
      (some (List.replicate 12 0)) 12 =
      .ok (10, [0, 1, 0, 1, 0x91, 0xf1, 0, 0, 1, 0x31, 0, 0]) := by
    decide +kernel
  obtain ⟨other, same, -, -, agree, -⟩ := asciiToPdu_forgets_buffer none
    (some oneDigit) (some oneDigit) 12 (List.replicate 12 0)
    (List.replicate 12 0xff) (by decide) (by decide) 10 _ encoded (by decide)
  exact ⟨_, other, encoded, same, agree⟩

end KosCeExtra.Sms
