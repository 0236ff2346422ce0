import Mathlib.Algebra.Group.Nat.Defs
import KosCeExtra.Library.CheckedBuffer

/-!
# The SMS-SUBMIT encoder of the `mbim_sms` client

A transcription of `NumberToNibbles` and `AsciiToPDU` from
`examples/cellular/mbim_sms/client/src/main.c`.  The output buffer is a
bounds-checked buffer, and the pointer `pdu` that walks through it is the
index of the next store.  The pointer and the byte count `len` are kept apart,
as in the source, since the length checks read only the count.
-/

namespace KosCeExtra.Sms

/-- A C string: its characters up to the terminating NUL.  The string and its
terminator are one object, so the length is below `SIZE_MAX`. -/
structure CString where
  bytes : List UInt8
  noNul : ∀ byte ∈ bytes, byte ≠ 0
  fits : bytes.length + 1 < 2 ^ 64

namespace CString

def strlen (string : CString) : Nat :=
  string.bytes.length

/-- `if (string[0] == '+') string++`; an empty string has its NUL there. -/
def skipPlus (string : CString) : CString :=
  match string with
  | ⟨0x2b :: bytes, noNul, fits⟩ =>
      ⟨bytes, fun byte member => noNul byte (List.mem_cons_of_mem _ member),
        Nat.lt_trans (Nat.lt_succ_self _) fits⟩
  | other => other

end CString

/-- Sizes are computed in a 64-bit `size_t`. -/
def wrapSize (size : Nat) : Nat :=
  size % 2 ^ 64

def pduNumInternational : UInt8 := 0x91
def pduLenMin : Nat := 9
def pduNumLenMax : Nat := 6
def pduFlagsMtiSmsSubmit : UInt8 := 0b01
def pduDcsAscii7 : UInt8 := 0x00
def pduAscii7MaxDataLen : Nat := 160

/-- `0xf0 | c`: a digit with the filler above it. -/
def lowNibble (c : UInt8) : UInt8 :=
  0xf0 ||| c

/-- `(old & 0x0f) | ((c << 4) & 0xf0)`: the filler replaced by a digit. -/
def withHighNibble (old c : UInt8) : UInt8 :=
  (old &&& 0x0f) ||| ((c <<< (4 : UInt8)) &&& 0xf0)

/-- The loop of `NumberToNibbles` with `i` characters behind it. -/
def numberToNibblesFrom (dst : Nat) : Nat → List UInt8 → Checked UInt8 Int
  | i, [] => pure (((i + 1) / 2 : Nat) : Int)
  | i, c :: data =>
      if c < 0x30 || c > 0x39 then
        pure (-1)
      else do
        let c := c - 0x30
        if i % 2 = 1 then
          let old ← Checked.load (dst + i / 2)
          Checked.store (dst + i / 2) (withHighNibble old c)
        else
          Checked.store (dst + i / 2) (lowNibble c)
        numberToNibblesFrom dst (i + 1) data

def numberToNibbles (data : CString) (numlen dst : Nat) : Checked UInt8 Int :=
  numberToNibblesFrom dst 0 (data.bytes.take numlen)

/-- How a part of `AsciiToPDU` ends: with a `return`, or at the next part with
the current pointer and count. -/
inductive Progress where
  | returned (code : Int)
  | next (pdu len : Nat)
  deriving DecidableEq, Repr

/-- The number fields `SCA` and `DA`.  They differ in their first octet, which
is computed from the number of digits and of octets. -/
def putNumber (firstOctet : Nat → Nat → UInt8) (number : CString)
    (pdu len buflen : Nat) : Checked UInt8 Progress :=
  let number := number.skipPlus
  let numlen := number.strlen
  let numbytes := (numlen + 1) / 2
  if numbytes > pduNumLenMax then
    pure (.returned (-1))
  else do
    Checked.store pdu (firstOctet numlen numbytes)
    let len := len + (2 + numbytes)
    if buflen < len then
      pure (.returned (-1))
    else do
      Checked.store (pdu + 1) pduNumInternational
      let ret ← numberToNibbles number numlen (pdu + 2)
      if ret < 0 then
        pure (.returned ret)
      else
        pure (.next (pdu + 2 + numbytes) len)

/-- `SCA.len` counts the octets after it. -/
def scaLen (_numlen numbytes : Nat) : UInt8 :=
  1 + numbytes.toUInt8

/-- `DA.digitCount` counts digits. -/
def daDigitCount (numlen _numbytes : Nat) : UInt8 :=
  numlen.toUInt8

def putSca (smsc : Option CString) (buflen : Nat) : Checked UInt8 Progress :=
  match smsc with
  | some smsc => putNumber scaLen smsc 0 0 buflen
  | none => do
      Checked.store 0 0
      pure (.next 1 1)

/-- Flags and message reference, then the destination address. -/
def putDestination (dest : CString) (pdu len buflen : Nat) :
    Checked UInt8 Progress := do
  Checked.store pdu pduFlagsMtiSmsSubmit
  Checked.store (pdu + 1) 0x00
  putNumber daDigitCount dest (pdu + 2) (len + 2) buflen

/-- `pdu[bitnum / 8] |= !!(c & (1 << j)) << (bitnum % 8)` -/
def orBit (pdu bitnum : Nat) (c : UInt8) (j : Nat) : Checked UInt8 Unit := do
  let old : UInt8 ← Checked.load (pdu + bitnum / 8)
  let bit := (c &&& (1 <<< j.toUInt8)) != 0
  Checked.store (pdu + bitnum / 8)
    (old ||| (bit.toNat.toUInt8 <<< (bitnum % 8).toUInt8))

/-- The inner loop over the bits `js` of one character. -/
def packCharacter (pdu : Nat) (c : UInt8) : Nat → List Nat → Checked UInt8 Unit
  | _, [] => pure ()
  | bitnum, j :: js => do
      orBit pdu bitnum c j
      packCharacter pdu c (bitnum + 1) js

/-- The loop over the characters. -/
def packText (pdu : Nat) : Nat → List UInt8 → Checked UInt8 Unit
  | _, [] => pure ()
  | bitnum, c :: text => do
      packCharacter pdu c bitnum (List.range 7)
      packText pdu (bitnum + 7) text

/-- Protocol identifier, coding scheme and user data. -/
def putUserData (text : CString) (pdu len buflen : Nat) : Checked UInt8 Int := do
  Checked.store pdu 0x00
  Checked.store (pdu + 1) pduDcsAscii7
  let pdu := pdu + 2
  let len := len + 2
  let textLen := text.strlen
  let textBytes := wrapSize (textLen * 7 + 7) / 8
  if len + textBytes + 1 > buflen || textLen > pduAscii7MaxDataLen then
    pure (-1)
  else do
    Checked.store pdu textLen.toUInt8
    Checked.fill (pdu + 1) 0 textBytes
    packText (pdu + 1) 0 text.bytes
    pure ((len + (1 + textBytes) : Nat) : Int)

/-- The part of `AsciiToPDU` behind its argument check. -/
def encodePdu (smsc : Option CString) (dest text : CString) (buflen : Nat) :
    Checked UInt8 Int := do
  match ← putSca smsc buflen with
  | .returned code => pure code
  | .next pdu len =>
      match ← putDestination dest pdu len buflen with
      | .returned code => pure code
      | .next pdu len => putUserData text pdu len buflen

/-- `AsciiToPDU`; `none` is a null pointer.  The result is the returned `int`
with the contents of the buffer, or the access that left the buffer. -/
def asciiToPdu (smsc dest text : Option CString) (pdu : Option (List UInt8))
    (buflen : Nat) : Except Fault (Int × List UInt8) :=
  match dest, text, pdu with
  | some dest, some text, some buffer =>
      if buflen < pduLenMin then
        .ok (-1, buffer)
      else
        encodePdu smsc dest text buflen buffer
  | _, _, _ => .ok (-1, pdu.getD [])

end KosCeExtra.Sms
