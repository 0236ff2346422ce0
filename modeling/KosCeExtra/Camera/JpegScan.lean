import Mathlib.Algebra.Group.Nat.Defs
import KosCeExtra.Camera.JpegSize

/-!
# Where `GetJpegSize` looks for markers

`MarkerAt` describes the indices at which the outer loop looks for a marker,
and `ScanEnd` where the inner loop leaves entropy-coded data, for buffers of
any contents.  `getJpegSize_eq_ok_iff` says that the function returns the end
of the `EOI` byte at the first such index which has one.

From there, every access is inside the buffer, so is the frame that
`SaveMJPEG` writes, and the byte in front of the `EOI` is known: the outer
loop does not remember whether it came past a `0xff`.
-/

namespace KosCeExtra.Camera

/-! ## The inner loop -/

/-- A byte of entropy-coded data that starts no marker. -/
def Passes (jpeg : List UInt8) (i : Nat) : Prop :=
  ∃ byte, jpeg[i]? = some byte ∧
    (byte ≠ jpegPadding ∨
      ∃ next, jpeg[i + 1]? = some next ∧ (next = jpegFF ∨ isRst next))

/-- A `0xff` that starts a marker. -/
def Stops (jpeg : List UInt8) (i : Nat) : Prop :=
  jpeg[i]? = some jpegPadding ∧
    ∃ next, jpeg[i + 1]? = some next ∧ ¬ (next = jpegFF ∨ isRst next)

/-- Entropy-coded data from `i` on ends at `next`: behind the `0xff` of a
marker, or cut off in front of the last byte. -/
inductive ScanEnd (jpeg : List UInt8) (size : Nat) : Nat → Nat → Prop where
  | pass {i next : Nat} : i < size - 1 → Passes jpeg i →
      ScanEnd jpeg size (i + 1) next → ScanEnd jpeg size i next
  | marker {i : Nat} : i < size - 1 → Stops jpeg i → ScanEnd jpeg size i (i + 1)
  | cut {i : Nat} : ¬ i < size - 1 → ScanEnd jpeg size i i

variable {jpeg : List UInt8} {size : Nat}

theorem byteAt_eq_ok_iff {i : Nat} {byte : UInt8} :
    byteAt jpeg i = .ok byte ↔ jpeg[i]? = some byte := by
  unfold byteAt
  cases jpeg[i]? with
  | none => simp
  | some other => simp

theorem skipEntropy_of_scanEnd {i next : Nat}
    (ends : ScanEnd jpeg size i next) : skipEntropy jpeg size i = .ok next := by
  induction ends with
  | pass inside passes _ induction =>
      obtain ⟨byte, read, plain | ⟨following, readNext, stuffed⟩⟩ := passes
      · rw [skipEntropy, if_pos inside, byteAt_eq_ok_iff.mpr read]
        simp only [if_pos plain]
        exact induction
      · by_cases plain : byte ≠ jpegPadding
        · rw [skipEntropy, if_pos inside, byteAt_eq_ok_iff.mpr read]
          simp only [if_pos plain]
          exact induction
        · rw [skipEntropy, if_pos inside, byteAt_eq_ok_iff.mpr read]
          simp only [if_neg plain, byteAt_eq_ok_iff.mpr readNext,
            if_pos stuffed]
          exact induction
  | marker inside stops =>
      obtain ⟨read, following, readNext, notStuffed⟩ := stops
      rw [skipEntropy, if_pos inside, byteAt_eq_ok_iff.mpr read]
      simp only [ne_eq, not_true_eq_false, if_false,
        byteAt_eq_ok_iff.mpr readNext, if_neg notStuffed]
  | cut outside => rw [skipEntropy, if_neg outside]

theorem scanEnd_of_skipEntropy {i next : Nat}
    (skipped : skipEntropy jpeg size i = .ok next) :
    ScanEnd jpeg size i next := by
  induction i using skipEntropy.induct jpeg size with
  | case1 i inside fault read => simp [skipEntropy, inside, read] at skipped
  | case2 i inside byte read plain induction =>
      rw [skipEntropy, if_pos inside, read] at skipped
      simp only [if_pos plain] at skipped
      apply ScanEnd.pass inside
      · exact ⟨byte, byteAt_eq_ok_iff.mp read, .inl plain⟩
      · exact induction skipped
  | case3 i inside byte read marker fault readNext =>
      rw [skipEntropy, if_pos inside, read] at skipped
      simp [if_neg marker, readNext] at skipped
  | case4 i inside byte read marker following readNext stuffed induction =>
      rw [skipEntropy, if_pos inside, read] at skipped
      simp only [if_neg marker, readNext, if_pos stuffed] at skipped
      apply ScanEnd.pass inside
      · exact ⟨byte, byteAt_eq_ok_iff.mp read,
          .inr ⟨following, byteAt_eq_ok_iff.mp readNext, stuffed⟩⟩
      · exact induction skipped
  | case5 i inside byte read marker following readNext notStuffed =>
      rw [skipEntropy, if_pos inside, read] at skipped
      simp only [if_neg marker, readNext, if_neg notStuffed] at skipped
      cases skipped
      have padding : byte = jpegPadding := not_not.mp marker
      subst padding
      apply ScanEnd.marker inside
      exact ⟨byteAt_eq_ok_iff.mp read, following,
        byteAt_eq_ok_iff.mp readNext, notStuffed⟩
  | case6 i outside =>
      rw [skipEntropy, if_neg outside] at skipped
      cases skipped
      exact .cut outside

/-- Inside the buffer every byte either passes or stops the scan. -/
theorem exists_scanEnd (fits : size ≤ jpeg.length) (i : Nat) :
    ∃ next, ScanEnd jpeg size i next := by
  induction left : size - i generalizing i with
  | zero => exact ⟨i, .cut (by omega)⟩
  | succ left induction =>
      by_cases inside : i < size - 1
      · have read : jpeg[i]? = some jpeg[i] := by simp
        have readNext : jpeg[i + 1]? = some jpeg[i + 1] := by simp
        obtain ⟨next, rest⟩ := induction (i + 1) (by omega)
        by_cases plain : jpeg[i] ≠ jpegPadding
        · exact ⟨next, .pass inside ⟨_, read, .inl plain⟩ rest⟩
        by_cases stuffed : jpeg[i + 1] = jpegFF ∨ isRst jpeg[i + 1]
        · exact ⟨next, .pass inside ⟨_, read, .inr ⟨_, readNext, stuffed⟩⟩ rest⟩
        · rw [not_not.mp plain] at read
          exact ⟨i + 1, .marker inside ⟨read, _, readNext, stuffed⟩⟩
      · exact ⟨i, .cut inside⟩

/-- The scan ends behind a `0xff`, or at the last byte. -/
theorem ScanEnd.ended {i next : Nat} (ends : ScanEnd jpeg size i next) :
    (0 < next ∧ jpeg[next - 1]? = some jpegPadding) ∨ size ≤ next + 1 := by
  induction ends with
  | pass _ _ _ induction => exact induction
  | marker _ stops => exact .inl ⟨Nat.succ_pos _, stops.1⟩
  | cut outside => exact .inr (by omega)

theorem ScanEnd.le {i next : Nat} (ends : ScanEnd jpeg size i next) :
    i ≤ next ∧ (next ≤ i ∨ next < size) := by
  induction ends with
  | pass inside _ _ induction => omega
  | marker inside _ => omega
  | cut _ => exact ⟨Nat.le_refl _, .inl (Nat.le_refl _)⟩

/-! ## The outer loop -/

/-- The indices at which the outer loop looks for a marker. -/
inductive MarkerAt (jpeg : List UInt8) (size : Nat) : Nat → Prop where
  | start : MarkerAt jpeg size 0
  | bare {i : Nat} {byte : UInt8} : MarkerAt jpeg size i → i < size →
      jpeg[i]? = some byte → markerKind byte = .bare →
      MarkerAt jpeg size (i + 1)
  | scan {i next : Nat} {byte : UInt8} : MarkerAt jpeg size i → i < size →
      jpeg[i]? = some byte → markerKind byte = .scan →
      ScanEnd jpeg size (i + 1) next → MarkerAt jpeg size next
  | segment {i : Nat} {byte high low : UInt8} : MarkerAt jpeg size i →
      i + 3 < size → jpeg[i]? = some byte → markerKind byte = .segment →
      jpeg[i + 1]? = some high → jpeg[i + 2]? = some low →
      MarkerAt jpeg size (i + 1 + (high.toNat * 256 + low.toNat))

section Steps

variable {i : Nat} {byte : UInt8}

theorem getJpegSizeFrom_bare (inside : i < size) (read : jpeg[i]? = some byte)
    (kind : markerKind byte = .bare) :
    getJpegSizeFrom jpeg size i = getJpegSizeFrom jpeg size (i + 1) := by
  rw [getJpegSizeFrom, if_pos inside, byteAt_eq_ok_iff.mpr read]
  simp only [kind]

theorem getJpegSizeFrom_scan {next : Nat} (inside : i < size)
    (read : jpeg[i]? = some byte) (kind : markerKind byte = .scan)
    (ends : ScanEnd jpeg size (i + 1) next) :
    getJpegSizeFrom jpeg size i = getJpegSizeFrom jpeg size next := by
  have skipped := skipEntropy_of_scanEnd ends
  rw [getJpegSizeFrom, if_pos inside, byteAt_eq_ok_iff.mpr read]
  simp only [kind]
  split
  next fault failed =>
    rw [skipped] at failed
    cases failed
  next other reached =>
    rw [skipped] at reached
    cases reached
    rfl

theorem getJpegSizeFrom_short (inside : i < size) (last : size ≤ i + 3)
    (read : jpeg[i]? = some byte) (kind : markerKind byte = .segment) :
    getJpegSizeFrom jpeg size i = .ok 0 := by
  rw [getJpegSizeFrom, if_pos inside, byteAt_eq_ok_iff.mpr read]
  simp only [kind]
  rw [if_pos last]

theorem be16At_eq {high low : UInt8} (first : jpeg[i]? = some high)
    (second : jpeg[i + 1]? = some low) :
    be16At jpeg i = .ok (high.toNat * 256 + low.toNat) := by
  rw [be16At, byteAt_eq_ok_iff.mpr first, byteAt_eq_ok_iff.mpr second]
  rfl

theorem getJpegSizeFrom_segment {high low : UInt8} (inside : i + 3 < size)
    (read : jpeg[i]? = some byte) (kind : markerKind byte = .segment)
    (first : jpeg[i + 1]? = some high) (second : jpeg[i + 2]? = some low) :
    getJpegSizeFrom jpeg size i =
      getJpegSizeFrom jpeg size (i + 1 + (high.toNat * 256 + low.toNat)) := by
  have room : ¬ i + 1 + 2 ≥ size := by omega
  rw [getJpegSizeFrom, if_pos (by omega), byteAt_eq_ok_iff.mpr read]
  simp only [kind]
  rw [if_neg room, be16At_eq first second]

theorem getJpegSizeFrom_endOfImage (inside : i < size)
    (read : jpeg[i]? = some byte) (kind : markerKind byte = .endOfImage) :
    getJpegSizeFrom jpeg size i = .ok (i + 1) := by
  rw [getJpegSizeFrom, if_pos inside, byteAt_eq_ok_iff.mpr read]
  simp only [kind]

theorem getJpegSizeFrom_end (outside : ¬ i < size) :
    getJpegSizeFrom jpeg size i = .ok 0 := by
  rw [getJpegSizeFrom, if_neg outside]

end Steps

theorem markerKind_endOfImage_iff {byte : UInt8} :
    markerKind byte = .endOfImage ↔ byte = jpegEOI := by
  constructor
  · intro kind
    unfold markerKind at kind
    split at kind
    · cases kind
    split at kind
    · cases kind
    split at kind
    · assumption
    · cases kind
  · rintro rfl
    decide

/-- The loop returns what it returns from any index it comes to. -/
theorem MarkerAt.getJpegSize_eq {i : Nat} (reached : MarkerAt jpeg size i) :
    getJpegSize jpeg size = getJpegSizeFrom jpeg size i := by
  induction reached with
  | start => rfl
  | bare _ inside read kind induction =>
      exact induction.trans (getJpegSizeFrom_bare inside read kind)
  | scan _ inside read kind ends induction =>
      exact induction.trans (getJpegSizeFrom_scan inside read kind ends)
  | segment _ inside read kind first second induction =>
      exact induction.trans
        (getJpegSizeFrom_segment inside read kind first second)

theorem be16At_eq_ok {i length : Nat} (loaded : be16At jpeg i = .ok length) :
    ∃ high low, jpeg[i]? = some high ∧ jpeg[i + 1]? = some low ∧
      length = high.toNat * 256 + low.toNat := by
  unfold be16At at loaded
  cases first : byteAt jpeg i with
  | error fault =>
      rw [first] at loaded
      cases loaded
  | ok high =>
      cases second : byteAt jpeg (i + 1) with
      | error fault =>
          rw [first, second] at loaded
          cases loaded
      | ok low =>
          rw [first, second] at loaded
          cases loaded
          exact ⟨high, low, byteAt_eq_ok_iff.mp first,
            byteAt_eq_ok_iff.mp second, rfl⟩

/-- A loop that returns has come to an `EOI`, or gives up. -/
theorem MarkerAt.ends {i n : Nat} (reached : MarkerAt jpeg size i)
    (returned : getJpegSizeFrom jpeg size i = .ok n) :
    n = 0 ∨ ∃ last, MarkerAt jpeg size last ∧ last < size ∧
      jpeg[last]? = some jpegEOI ∧ n = last + 1 := by
  induction i using getJpegSizeFrom.induct jpeg size with
  | case1 i inside fault read =>
      rw [getJpegSizeFrom, if_pos inside, read] at returned
      cases returned
  | case2 i inside byte read kind induction =>
      have known := byteAt_eq_ok_iff.mp read
      rw [getJpegSizeFrom_bare inside known kind] at returned
      exact induction (.bare reached inside known kind) returned
  | case3 i inside byte read kind fault skipped =>
      rw [getJpegSizeFrom, if_pos inside, read] at returned
      simp only [kind] at returned
      split at returned
      · cases returned
      · simp_all
  | case4 i inside byte read kind next skipped _ induction =>
      have known := byteAt_eq_ok_iff.mp read
      have ends := scanEnd_of_skipEntropy skipped
      rw [getJpegSizeFrom_scan inside known kind ends] at returned
      exact induction (.scan reached inside known kind ends) returned
  | case5 i inside byte read kind last =>
      rw [getJpegSizeFrom_short inside last (byteAt_eq_ok_iff.mp read)
        kind] at returned
      cases returned
      exact .inl rfl
  | case6 i inside byte read kind room fault loaded =>
      rw [getJpegSizeFrom, if_pos inside, read] at returned
      simp only [kind, if_neg room, loaded] at returned
      cases returned
  | case7 i inside byte read kind room length loaded induction =>
      have known := byteAt_eq_ok_iff.mp read
      obtain ⟨high, low, first, second, rfl⟩ := be16At_eq_ok loaded
      have enough : i + 3 < size := by omega
      rw [getJpegSizeFrom_segment enough known kind first second] at returned
      exact induction (.segment reached enough known kind first second) returned
  | case8 i inside byte read kind =>
      have known := byteAt_eq_ok_iff.mp read
      rw [getJpegSizeFrom_endOfImage inside known kind] at returned
      cases returned
      rw [markerKind_endOfImage_iff.mp kind] at known
      exact .inr ⟨i, reached, inside, known, rfl⟩
  | case9 i outside =>
      rw [getJpegSizeFrom_end outside] at returned
      cases returned
      exact .inl rfl

/-- The size of a frame is where the first `EOI` that is met as a marker
ends. -/
theorem getJpegSize_eq_ok_iff {n : Nat} (positive : 0 < n) :
    getJpegSize jpeg size = .ok n ↔
      ∃ last, MarkerAt jpeg size last ∧ last < size ∧
        jpeg[last]? = some jpegEOI ∧ n = last + 1 := by
  constructor
  · intro returned
    rcases MarkerAt.start.ends returned with none | found
    · omega
    · exact found
  · rintro ⟨last, reached, inside, read, rfl⟩
    rw [reached.getJpegSize_eq]
    exact getJpegSizeFrom_endOfImage inside read
      (markerKind_endOfImage_iff.mpr rfl)

/-! ## Inside the buffer -/

/-- The loop reads nothing outside a buffer of at least `size` bytes. -/
theorem getJpegSizeFrom_total (fits : size ≤ jpeg.length) (i : Nat) :
    ∃ n, getJpegSizeFrom jpeg size i = .ok n := by
  induction i using getJpegSizeFrom.induct jpeg size with
  | case1 i inside fault read =>
      have known : byteAt jpeg i = .ok jpeg[i] :=
        byteAt_eq_ok_iff.mpr (by simp)
      rw [known] at read
      cases read
  | case2 i inside byte read kind induction =>
      rw [getJpegSizeFrom_bare inside (byteAt_eq_ok_iff.mp read) kind]
      exact induction
  | case3 i inside byte read kind fault skipped =>
      obtain ⟨next, ends⟩ := exists_scanEnd fits (i + 1)
      rw [skipEntropy_of_scanEnd ends] at skipped
      cases skipped
  | case4 i inside byte read kind next skipped _ induction =>
      rw [getJpegSizeFrom_scan inside (byteAt_eq_ok_iff.mp read) kind
        (scanEnd_of_skipEntropy skipped)]
      exact induction
  | case5 i inside byte read kind last =>
      exact ⟨0, getJpegSizeFrom_short inside last (byteAt_eq_ok_iff.mp read)
        kind⟩
  | case6 i inside byte read kind room fault loaded =>
      have first : jpeg[i + 1]? = some jpeg[i + 1] := by simp
      have second : jpeg[i + 1 + 1]? = some jpeg[i + 1 + 1] := by simp
      rw [be16At_eq first second] at loaded
      cases loaded
  | case7 i inside byte read kind room length loaded induction =>
      obtain ⟨high, low, first, second, rfl⟩ := be16At_eq_ok loaded
      rw [getJpegSizeFrom_segment (by omega) (byteAt_eq_ok_iff.mp read) kind
        first second]
      exact induction
  | case8 i inside byte read kind =>
      exact ⟨i + 1, getJpegSizeFrom_endOfImage inside
        (byteAt_eq_ok_iff.mp read) kind⟩
  | case9 i outside => exact ⟨0, getJpegSizeFrom_end outside⟩

/-- A 16-bit length takes the index at most so far beyond the end, so that it
does not wrap around. -/
theorem MarkerAt.lt {i : Nat} (reached : MarkerAt jpeg size i) :
    i < size + 0x10000 := by
  induction reached with
  | start => omega
  | bare _ inside _ _ _ => omega
  | scan _ inside _ _ ends _ =>
      have bounds := ends.le
      omega
  | @segment i byte high low _ inside _ _ _ _ _ =>
      have highSmall := high.toNat_lt
      have lowSmall := low.toNat_lt
      omega

/-- A frame inside the buffer is handed to `fwrite` as it is. -/
theorem saveMJPEG_writes {n : Nat} (sized : getJpegSize jpeg size = .ok n)
    (within : n ≤ jpeg.length) (file : OutputFile) :
    ∃ rc frame, saveMJPEG file jpeg size = .ok (rc, frame) ∧
      frame <+: jpeg := by
  have taken : bytesUpTo jpeg n = .ok (jpeg.take n) := if_pos within
  have run : saveMJPEG file jpeg size =
      if n = 0 ∨ file.opens = false then .ok (.rcFail, [])
      else .ok (if file.written ≠ n then .rcFail else .rcOk, jpeg.take n) := by
    rw [saveMJPEG, sized]
    change (if _ then _ else bytesUpTo jpeg n >>= _) = _
    rw [taken]
    rfl
  rw [run]
  split
  · exact ⟨_, _, rfl, List.nil_prefix⟩
  · exact ⟨_, _, rfl, List.take_prefix n jpeg⟩

/-- Whatever a frame buffer holds, no byte outside it is read, the index does
not wrap around, a size comes back, and `SaveMJPEG` writes a part of the
buffer. -/
theorem getJpegSize_inside (file : OutputFile) (jpeg : List UInt8)
    (small : jpeg.length < 2 ^ 32) :
    (∀ i, MarkerAt jpeg jpeg.length i → i + 3 < 2 ^ 64) ∧
      (∃ n, getJpegSize jpeg jpeg.length = .ok n ∧ n ≤ jpeg.length) ∧
      ∃ rc frame, saveMJPEG file jpeg jpeg.length = .ok (rc, frame) ∧
        frame <+: jpeg := by
  have noWrap : ∀ i, MarkerAt jpeg jpeg.length i → i + 3 < 2 ^ 64 := by
    intro i reached
    have bound := reached.lt
    omega
  obtain ⟨n, returned⟩ := getJpegSizeFrom_total (Nat.le_refl jpeg.length) 0
  have size : getJpegSize jpeg jpeg.length = .ok n := returned
  have within : n ≤ jpeg.length := by
    rcases MarkerAt.start.ends returned with rfl | ⟨last, -, inside, -, rfl⟩
    · exact Nat.zero_le _
    · exact inside
  exact ⟨noWrap, ⟨n, size, within⟩, saveMJPEG_writes size within file⟩

theorem getJpegSize_inside_truncated :
    ∃ n, getJpegSize [0xff, 0xd8, 0xff, 0xe0, 0xff] 5 = .ok n ∧ n ≤ 5 :=
  (getJpegSize_inside ⟨true, 0⟩ [0xff, 0xd8, 0xff, 0xe0, 0xff]
    (by simp)).2.1

/-! ## In front of the end marker -/

/-- The outer loop comes to an index without having passed a `0xff` right in
front of it: at the start of the buffer, behind a marker without payload,
behind a segment, or where the end of the buffer cuts off a scan. -/
inductive Unprefixed (jpeg : List UInt8) (size : Nat) : Nat → Prop where
  | start : Unprefixed jpeg size 0
  | bare {i : Nat} {byte : UInt8} : MarkerAt jpeg size i → i < size →
      jpeg[i]? = some byte → byte = jpegSOI ∨ byte = jpegTEM ∨ isRst byte →
      Unprefixed jpeg size (i + 1)
  | scan {i next : Nat} {byte : UInt8} : MarkerAt jpeg size i → i < size →
      jpeg[i]? = some byte → markerKind byte = .scan →
      ScanEnd jpeg size (i + 1) next → size ≤ next + 1 →
      jpeg[next - 1]? ≠ some jpegPadding → Unprefixed jpeg size next
  | segment {i : Nat} {byte high low : UInt8} : MarkerAt jpeg size i →
      i + 3 < size → jpeg[i]? = some byte → markerKind byte = .segment →
      jpeg[i + 1]? = some high → jpeg[i + 2]? = some low →
      jpeg[i + (high.toNat * 256 + low.toNat)]? ≠ some jpegPadding →
      Unprefixed jpeg size (i + 1 + (high.toNat * 256 + low.toNat))

theorem markerKind_bare_iff {byte : UInt8} :
    markerKind byte = .bare ↔ byte = jpegPadding ∨
      (byte = jpegSOI ∨ byte = jpegTEM ∨ isRst byte) := by
  constructor
  · intro kind
    unfold markerKind at kind
    split at kind
    · assumption
    split at kind
    · cases kind
    split at kind
    · cases kind
    · cases kind
  · intro bare
    exact if_pos bare

/-- Every arrival of the outer loop is behind a `0xff` or one of these. -/
theorem MarkerAt.padding_or_unprefixed {i : Nat}
    (reached : MarkerAt jpeg size i) :
    (0 < i ∧ jpeg[i - 1]? = some jpegPadding) ∨ Unprefixed jpeg size i := by
  cases reached with
  | start => exact .inr .start
  | bare before inside read kind =>
      rcases markerKind_bare_iff.mp kind with rfl | other
      · exact .inl ⟨Nat.succ_pos _, read⟩
      · exact .inr (.bare before inside read other)
  | scan before inside read kind ends =>
      rcases ends.ended with behind | cutOff
      · exact .inl behind
      · by_cases padding : jpeg[i - 1]? = some jpegPadding
        · have later := ends.le
          exact .inl ⟨by omega, padding⟩
        · exact .inr (.scan before inside read kind ends cutOff padding)
  | @segment i byte high low before inside read kind first second =>
      have previous : i + 1 + (high.toNat * 256 + low.toNat) - 1 =
          i + (high.toNat * 256 + low.toNat) := by omega
      rw [previous]
      by_cases padding :
          jpeg[i + (high.toNat * 256 + low.toNat)]? = some jpegPadding
      · exact .inl ⟨by omega, padding⟩
      · exact .inr (.segment before inside read kind first second padding)

private theorem Unprefixed.markerAt {i : Nat} (bad : Unprefixed jpeg size i) :
    MarkerAt jpeg size i := by
  cases bad with
  | start => exact .start
  | bare before inside read other =>
      exact .bare before inside read (markerKind_bare_iff.mpr (.inr other))
  | scan before inside read kind ends => exact .scan before inside read kind ends
  | segment before inside read kind first second =>
      exact .segment before inside read kind first second

private theorem Unprefixed.not_padding {i : Nat} (bad : Unprefixed jpeg size i)
    (positive : 0 < i) : jpeg[i - 1]? ≠ some jpegPadding := by
  cases bad with
  | start => exact absurd positive (Nat.lt_irrefl 0)
  | @bare i byte _ _ read other =>
      intro padding
      rw [Nat.add_sub_cancel, read] at padding
      cases padding
      revert other
      decide
  | scan _ _ _ _ _ _ different => exact different
  | @segment i byte high low _ _ _ _ _ _ different =>
      have previous : i + 1 + (high.toNat * 256 + low.toNat) - 1 =
          i + (high.toNat * 256 + low.toNat) := by omega
      rw [previous]
      exact different

/-- The frame that is reported ends with an end marker exactly if the outer
loop does not come to an `EOI` byte that lacks its `0xff`. -/
theorem getJpegSize_sound_iff (jpeg : List UInt8) (size : Nat) :
    (∀ n, getJpegSize jpeg size = .ok n → 0 < n →
      2 ≤ n ∧ jpeg[n - 2]? = some jpegPadding ∧
        jpeg[n - 1]? = some jpegEOI) ↔
      ¬ ∃ i, i < size ∧ jpeg[i]? = some jpegEOI ∧ Unprefixed jpeg size i := by
  constructor
  · rintro sound ⟨i, inside, read, bad⟩
    have returned : getJpegSize jpeg size = .ok (i + 1) :=
      (getJpegSize_eq_ok_iff (Nat.succ_pos i)).mpr
        ⟨i, bad.markerAt, inside, read, rfl⟩
    obtain ⟨long, padding, -⟩ := sound (i + 1) returned (Nat.succ_pos i)
    have positive : 0 < i := by omega
    exact bad.not_padding positive padding
  · intro clean n returned positive
    obtain ⟨last, reached, inside, read, rfl⟩ :=
      (getJpegSize_eq_ok_iff positive).mp returned
    rcases reached.padding_or_unprefixed with ⟨later, padding⟩ | bad
    · exact ⟨by omega, padding, read⟩
    · exact absurd ⟨last, inside, read, bad⟩ clean

/-- A partial frame whose last byte, of entropy-coded data, is `0xd9`. -/
def partialFrame : List UInt8 :=
  [0xff, 0xd8, 0xff, 0xda, 0x01, 0xd9]

theorem getJpegSize_partialFrame :
    getJpegSize partialFrame 6 = .ok 6 ∧
      partialFrame[6 - 2]? ≠ some jpegPadding := by
  have scan : MarkerAt partialFrame 6 3 :=
    .bare (.bare (.bare .start (by decide) rfl rfl) (by decide) rfl rfl)
      (by decide) rfl rfl
  have ends : ScanEnd partialFrame 6 4 5 :=
    .pass (by decide) ⟨0x01, rfl, .inl (by decide)⟩ (.cut (by decide))
  constructor
  · apply (getJpegSize_eq_ok_iff (by decide)).mpr
    exact ⟨5, .scan scan (by decide) rfl rfl ends, by decide, rfl, rfl⟩
  · decide

end KosCeExtra.Camera
