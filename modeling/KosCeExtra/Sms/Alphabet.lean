import KosCeExtra.Sms.RoundTrip

/-!
# What the receiver of a message reads

The coding scheme octet `0x00` announces the GSM 03.38 default alphabet of
seven bits, with its escape to the extension table.  `readText` reads a
message by that alphabet.  `AsciiToPDU` copies the low seven bits of every
character, so the receiver gets the text only where both alphabets agree.
-/

namespace KosCeExtra.Sms

/-- The GSM 03.38 default alphabet; where it is silent here it agrees with
ASCII.  The escape is shown as a space by those that do not know it. -/
def gsmChar (code : UInt8) : Char :=
  match code.toNat with
  | 0x00 => '@' | 0x01 => '£' | 0x02 => '$' | 0x03 => '¥'
  | 0x04 => 'è' | 0x05 => 'é' | 0x06 => 'ù' | 0x07 => 'ì'
  | 0x08 => 'ò' | 0x09 => 'Ç' | 0x0b => 'Ø' | 0x0c => 'ø'
  | 0x0e => 'Å' | 0x0f => 'å' | 0x10 => 'Δ' | 0x11 => '_'
  | 0x12 => 'Φ' | 0x13 => 'Γ' | 0x14 => 'Λ' | 0x15 => 'Ω'
  | 0x16 => 'Π' | 0x17 => 'Ψ' | 0x18 => 'Σ' | 0x19 => 'Θ'
  | 0x1a => 'Ξ' | 0x1b => ' ' | 0x1c => 'Æ' | 0x1d => 'æ'
  | 0x1e => 'ß' | 0x1f => 'É' | 0x24 => '¤' | 0x40 => '¡'
  | 0x5b => 'Ä' | 0x5c => 'Ö' | 0x5d => 'Ñ' | 0x5e => 'Ü'
  | 0x5f => '§' | 0x60 => '¿' | 0x7b => 'ä' | 0x7c => 'ö'
  | 0x7d => 'ñ' | 0x7e => 'ü' | 0x7f => 'à'
  | other => Char.ofNat other

/-- The extension table, behind an escape; a code without an entry is shown
as in the default alphabet. -/
def gsmExtension (code : UInt8) : Char :=
  match code.toNat with
  | 0x0a => '\x0c' | 0x14 => '^' | 0x28 => '{' | 0x29 => '}'
  | 0x2f => '\\' | 0x3c => '[' | 0x3d => '~' | 0x3e => ']'
  | 0x40 => '|' | 0x65 => '€'
  | _ => gsmChar code

def readGsm : List UInt8 → List Char
  | [] => []
  | [code] => [gsmChar code]
  | code :: next :: codes =>
      if code = 0x1b then
        gsmExtension next :: readGsm codes
      else
        gsmChar code :: readGsm (next :: codes)

/-- The text a receiver reads from the octets of a message. -/
def readText (pdu : List UInt8) : Option (List Char) :=
  (decodeSubmit pdu).map fun (message, _) => readGsm message.text

def asciiChar (c : UInt8) : Option Char :=
  if c < 0x80 then some (Char.ofNat c.toNat) else none

/-- The characters of an ASCII text; other bytes are no text. -/
def asciiText (bytes : List UInt8) : Option (List Char) :=
  bytes.mapM asciiChar

/-- The codes that stand for the same character in ASCII and in the default
alphabet: line feed, carriage return, and what is printed, except for `$`,
`@`, the brackets, backslash, circumflex, underscore, grave accent, braces,
bar and tilde. -/
def Shared (c : UInt8) : Prop :=
  c = 0x0a ∨ c = 0x0d ∨ (0x20 ≤ c ∧ c ≤ 0x5a ∧ c ≠ 0x24 ∧ c ≠ 0x40) ∨
    (0x61 ≤ c ∧ c ≤ 0x7a)

instance (c : UInt8) : Decidable (Shared c) :=
  inferInstanceAs (Decidable (_ ∨ _))

private theorem codes_agree :
    ∀ code : Fin 256, UInt8.ofFin code < 0x80 → UInt8.ofFin code ≠ 0x1b →
      (gsmChar (septet (UInt8.ofFin code)) =
          Char.ofNat (UInt8.ofFin code).toNat ↔ Shared (UInt8.ofFin code)) := by
  decide +kernel

private theorem codes_not_escape :
    ∀ code : Fin 256, gsmExtension (UInt8.ofFin code) ≠ Char.ofNat 0x1b := by
  decide +kernel

private theorem gsmChar_eq_iff {c : UInt8} (ascii : c < 0x80) (plain : c ≠ 0x1b) :
    gsmChar (septet c) = Char.ofNat c.toNat ↔ Shared c :=
  codes_agree c.toFin ascii plain

private theorem gsmExtension_ne (c : UInt8) : gsmExtension c ≠ Char.ofNat 0x1b :=
  codes_not_escape c.toFin

theorem Shared.ascii {c : UInt8} (shared : Shared c) : c < 0x80 := by
  rcases shared with rfl | rfl | ⟨-, upper, -⟩ | ⟨-, upper⟩
  · decide
  · decide
  · exact UInt8.lt_of_le_of_lt upper (by decide)
  · exact UInt8.lt_of_le_of_lt upper (by decide)

private theorem asciiText_cons_eq_some {c : UInt8} {bytes : List UInt8}
    {char : Char} {chars : List Char} :
    asciiText (c :: bytes) = some (char :: chars) ↔
      asciiChar c = some char ∧ asciiText bytes = some chars := by
  unfold asciiText
  rw [List.mapM_cons]
  cases asciiChar c with
  | none => simp
  | some first =>
      cases List.mapM asciiChar bytes with
      | none => simp
      | some rest => simp

private theorem asciiChar_eq_some {c : UInt8} {char : Char} :
    asciiChar c = some char ↔ c < 0x80 ∧ Char.ofNat c.toNat = char := by
  unfold asciiChar
  split
  next ascii => simp [ascii]
  next high => simp [high]

private theorem readGsm_plain {code : UInt8} (plain : code ≠ 0x1b)
    (codes : List UInt8) :
    readGsm (code :: codes) = gsmChar code :: readGsm codes := by
  cases codes with
  | nil => rfl
  | cons next codes => rw [readGsm, if_neg plain]

/-- The escape itself is never read. -/
theorem readGsm_escape (codes : List UInt8) :
    ∃ char chars, readGsm (0x1b :: codes) = char :: chars ∧
      char ≠ Char.ofNat 0x1b := by
  cases codes with
  | nil => exact ⟨gsmChar 0x1b, [], rfl, by decide⟩
  | cons next codes =>
      refine ⟨gsmExtension next, readGsm codes, ?_, gsmExtension_ne next⟩
      rw [readGsm, if_pos rfl]

/-- A text is read as it was written if and only if both alphabets have all
its characters at the same place. -/
theorem asciiText_eq_readGsm_iff (bytes : List UInt8) :
    asciiText bytes = some (readGsm (bytes.map septet)) ↔
      ∀ c ∈ bytes, Shared c := by
  induction bytes with
  | nil =>
      constructor
      · intro _ c member
        cases member
      · intro _
        rfl
  | cons c bytes induction =>
      rw [List.forall_mem_cons, List.map_cons]
      by_cases escape : septet c = 0x1b
      · obtain ⟨char, chars, read, other⟩ := readGsm_escape (bytes.map septet)
        rw [escape, read, asciiText_cons_eq_some, asciiChar_eq_some]
        constructor
        · rintro ⟨⟨ascii, same⟩, -⟩
          rw [septet_of_ascii ascii] at escape
          subst escape
          exact absurd same.symm other
        · rintro ⟨shared, -⟩
          rw [septet_of_ascii shared.ascii] at escape
          subst escape
          exact absurd shared (by decide)
      · rw [readGsm_plain escape, asciiText_cons_eq_some, asciiChar_eq_some,
          induction]
        have plain : c ≠ 0x1b := by
          rintro rfl
          exact escape (by decide)
        constructor
        · rintro ⟨⟨ascii, same⟩, rest⟩
          exact ⟨(gsmChar_eq_iff ascii plain).mp same.symm, rest⟩
        · rintro ⟨shared, rest⟩
          have same := (gsmChar_eq_iff shared.ascii plain).mpr shared
          exact ⟨⟨shared.ascii, same.symm⟩, rest⟩

/-- The receiver of an encoded message reads the given text if and only if
the text has only characters at which the two alphabets agree. -/
theorem asciiToPdu_readable_iff (smsc : Option CString) (dest text : CString)
    (buffer : List UInt8) (buflen : Nat) (contract : buflen ≤ buffer.length)
    (n : Int) (out : List UInt8)
    (returned : asciiToPdu smsc (some dest) (some text) (some buffer) buflen =
      .ok (n, out))
    (nonneg : 0 ≤ n) :
    (∃ chars, asciiText text.bytes = some chars ∧
        readText (out.take n.toNat) = some chars) ↔
      ∀ c ∈ text.bytes, Shared c := by
  obtain ⟨message, rest, rfl, rfl, decoded⟩ :=
    decodeSubmit_returned contract returned nonneg
  have read : readText ((message ++ rest).take (message.length : Int).toNat) =
      some (readGsm (text.bytes.map septet)) := by
    have alone := decoded []
    rw [List.append_nil] at alone
    rw [Int.toNat_natCast, List.take_left' rfl, readText, alone]
    rfl
  rw [read, ← asciiText_eq_readGsm_iff]
  constructor
  · rintro ⟨chars, given, same⟩
    rw [given, same]
  · intro same
    exact ⟨_, same, rfl⟩

theorem asciiToPdu_readable_sample :
    readText (sampleOctets.take 35) = some "Hello from KasperskyOS!".toList := by
  have encoded : asciiToPdu none (some sampleDest) (some sampleText)
      (some (List.replicate 35 0)) 35 = .ok (35, sampleOctets) := by
    decide +kernel
  have shared : ∀ c ∈ sampleText.bytes, Shared c := by
    simp [sampleText]
    decide
  obtain ⟨chars, given, read⟩ := (asciiToPdu_readable_iff none sampleDest
    sampleText (List.replicate 35 0) 35 (by decide) 35 sampleOctets encoded
    (by decide)).mpr shared
  have chars_eq : asciiText sampleText.bytes =
      some "Hello from KasperskyOS!".toList := by
    decide
  rw [chars_eq] at given
  cases given
  exact read

/-- An `@` on its own. -/
def atSign : CString where
  bytes := [0x40]
  noNul := by simp
  fits := by decide

def atSignOctets : List UInt8 :=
  [0x00, 0x01, 0x00, 0x0b, 0x91, 0x97, 0x00, 0x00, 0x00, 0x00, 0xf0, 0x00, 0x00,
    0x01, 0x40]

/-- The receiver of `@` reads an inverted exclamation mark. -/
theorem asciiToPdu_atSign :
    asciiToPdu none (some sampleDest) (some atSign)
        (some (List.replicate 15 0)) 15 = .ok (15, atSignOctets) ∧
      asciiText atSign.bytes = some ['@'] ∧
      readText (atSignOctets.take 15) = some ['¡'] := by
  refine ⟨?_, rfl, ?_⟩
  · decide +kernel
  · decide +kernel

end KosCeExtra.Sms
