import KosCeExtra.Rabbitmq.DumpRows

/-!
# Reading a dump back

A printed row gives the bytes at its offset, and a line of dots stands for copies
of the last row that was printed, up to the next offset.  Reading gives the
message back when the rows left out are repetitions.  The dump compares a row
with less than the row before it, so it leaves out other rows than that:
`dump_faithful_iff` says for which messages this makes no difference.
-/

namespace KosCeExtra.Rabbitmq

/-- Skip the separator where it belongs, with so many bytes still to come. -/
def skipMiddle (remaining : Nat) (text : Text) : Text :=
  if remaining = 8 then
    match text with
    | ' ' :: ':' :: rest => rest
    | other => other
  else text

/-- Read bytes until the filling, or until the row is full. -/
def readBytes : Nat → Text → Option (List UInt8)
  | 0, _ => some []
  | remaining + 1, text =>
      match skipMiddle (remaining + 1) text with
      | high :: low :: rest =>
          if high = ' ' then some []
          else (readHex [high, low]).bind fun byte =>
            (readBytes remaining rest).map fun bytes => byte.toUInt8 :: bytes
      | _ => some []

/-- The offset of a row with its bytes. -/
def readRow (line : Text) : Option (Nat × List UInt8) :=
  (readHex (line.take 8)).bind fun offset =>
    (readBytes 16 (line.drop 8)).map fun bytes => (offset, bytes)

/-- What has been read: the message so far, the last row, and whether dots have
come after it. -/
structure Reading where
  message : List UInt8
  last : List UInt8
  dots : Bool
  deriving DecidableEq, Repr

/-- Copies of a row of sixteen bytes, for a gap. -/
def copies (row : List UInt8) (gap : Nat) : List UInt8 :=
  (List.replicate (gap / 16) row).flatten

/-- The message up to the row that comes next. -/
def Reading.filledTo (reading : Reading) (offset : Nat) : List UInt8 :=
  if reading.dots then
    reading.message ++ copies reading.last (offset - reading.message.length)
  else reading.message

def readLine (reading : Reading) (line : Text) : Option Reading :=
  if line = dotsLine then some { reading with dots := true }
  else (readRow line).bind fun row =>
    if (reading.filledTo row.1).length = row.1 then
      some ⟨reading.filledTo row.1 ++ row.2, row.2, false⟩
    else none

def readDump (lines : List Text) : Option (List UInt8) :=
  (lines.foldlM readLine ⟨[], [], false⟩).map Reading.message

theorem skipMiddle_middle {i : Nat} (inRow : i ≤ 16) (text : Text) :
    skipMiddle (16 - i) (middle i ++ text) = text := by
  by_cases half : i = 8
  · subst half
    rfl
  · have other : 16 - i ≠ 8 := by omega
    unfold skipMiddle
    rw [if_neg other, middle, if_neg half, List.nil_append]

/-- A byte is a pair of digits, and no space. -/
theorem hexField_byte (byte : UInt8) :
    ∃ high low, hexField 2 byte.toNat = [high, low] ∧ high ≠ ' ' ∧
      readHex [high, low] = some byte.toNat := by
  have two := hexField_length (by omega : 0 < 2) byte.toNat_lt
  obtain ⟨high, low, same⟩ := List.length_eq_two.mp two
  refine ⟨high, low, same, ?_, ?_⟩
  · rintro rfl
    apply not_mem_hexField (rfl : hexValue ' ' = none) 2 byte.toNat
    rw [same]
    exact List.mem_cons_self
  · rw [← same]
    exact readHex_hexField 2 byte.toNat

private theorem readBytes_rowBytes {i : Nat} {chs : List UInt8}
    (inRow : i + chs.length ≤ 16) {rest : Text}
    (stops : readBytes (16 - (i + chs.length)) rest = some []) :
    readBytes (16 - i) (rowBytes i chs ++ rest) = some chs := by
  induction chs generalizing i with
  | nil => exact stops
  | cons ch chs induction =>
      rw [List.length_cons] at inRow stops
      obtain ⟨high, low, digits, visible, value⟩ := hexField_byte ch
      have places : 16 - i = 16 - (i + 1) + 1 := by omega
      have skipped := skipMiddle_middle (by omega : i ≤ 16)
        (hexField 2 ch.toNat ++ (rowBytes (i + 1) chs ++ rest))
      have later := induction (i := i + 1) (by omega)
        (by rw [Nat.add_right_comm, Nat.add_assoc]; exact stops)
      rw [places] at skipped ⊢
      rw [rowBytes, List.append_assoc, List.append_assoc, readBytes, skipped,
        digits, List.cons_append, List.cons_append, List.nil_append]
      simp only
      rw [if_neg visible, value, Option.bind_some, later, Option.map_some,
        Nat.toUInt8_eq, UInt8.ofNat_toNat]

/-- What comes behind the bytes of a row is not read as a byte. -/
theorem readBytes_filling {count : Nat} (inRow : count ≤ 16) (rest : Text) :
    readBytes (16 - count) (rowFilling count (16 - count) ++ rest) =
      some [] := by
  cases missing : 16 - count with
  | zero => rfl
  | succ more =>
      have skipped := skipMiddle_middle inRow
        ("   ".toList ++ (rowFilling (count + 1) more ++ rest))
      rw [missing] at skipped
      rw [rowFilling, List.append_assoc, List.append_assoc, readBytes, skipped]
      rfl

private theorem readBytes_row {chs : List UInt8} (inRow : chs.length ≤ 16)
    (rest : Text) :
    readBytes 16 (rowBytes 0 chs ++
      (rowFilling chs.length (16 - chs.length) ++ rest)) = some chs := by
  have fits : 0 + chs.length ≤ 16 := by omega
  apply readBytes_rowBytes fits
  rw [Nat.zero_add]
  exact readBytes_filling inRow rest

/-- A printed row reads back as its offset and its bytes. -/
theorem readRow_dumpRow {offset : Nat} (small : offset < 2 ^ 32)
    {chs : List UInt8} (inRow : chs.length ≤ 16) :
    readRow (dumpRow offset chs) = some (offset, chs) := by
  have eight : (hexField 8 offset).length = 8 :=
    hexField_length (by omega) (by simpa using small)
  rw [readRow, dumpRow, List.take_left' eight, List.drop_left' eight,
    readHex_hexField, Option.bind_some]
  cases chs with
  | nil => rfl
  | cons ch chs =>
      have filled : (ch :: chs).length > 0 := Nat.succ_pos _
      rw [if_pos filled, List.append_assoc, List.append_assoc]
      rw [readBytes_row inRow, Option.map_some]

theorem dumpRow_ne_dotsLine {offset : Nat} (small : offset < 2 ^ 32)
    (chs : List UInt8) : dumpRow offset chs ≠ dotsLine := by
  intro same
  have eight : (hexField 8 offset).length = 8 :=
    hexField_length (by omega) (by simpa using small)
  have field : hexField 8 offset = dotsLine.take 8 := by
    rw [← same, dumpRow, List.take_left' eight]
  apply not_mem_hexField (rfl : hexValue ' ' = none) 8 offset
  rw [field]
  decide

theorem dumpRow_injective {first second : Nat} {left right : List UInt8}
    (firstSmall : first < 2 ^ 32) (secondSmall : second < 2 ^ 32)
    (leftRow : left.length ≤ 16) (rightRow : right.length ≤ 16)
    (same : dumpRow first left = dumpRow second right) :
    first = second ∧ left = right := by
  have read := readRow_dumpRow firstSmall leftRow
  rw [same, readRow_dumpRow secondSmall rightRow] at read
  cases read
  exact ⟨rfl, rfl⟩

/-- A reading stands for the first `k` rows: its message, with copies of its
last row where dots have come. -/
structure Covers (buf : List UInt8) (k : Nat) (reading : Reading) : Prop where
  dots : reading.dots = (shownRows buf k).2
  copied : ∃ count, buf.take (16 * k) =
      reading.message ++ (List.replicate count reading.last).flatten ∧
    (reading.dots = false → count = 0)
  last : 0 < k → reading.last = rowAt buf (k - 1)

private theorem take_succ_row (buf : List UInt8) (k : Nat) :
    buf.take (16 * (k + 1)) = buf.take (16 * k) ++ rowAt buf k := by
  rw [rowAt, ← List.take_add, Nat.mul_succ]

/-- The gap behind the message is filled with the copies that the dots stand
for. -/
theorem Covers.filledTo {buf : List UInt8} {k : Nat} {reading : Reading}
    (covers : Covers buf k reading) (complete : 16 * k ≤ buf.length) :
    reading.filledTo (16 * k) = buf.take (16 * k) := by
  obtain ⟨count, split, none⟩ := covers.copied
  have total : (buf.take (16 * k)).length = 16 * k := by
    rw [List.length_take]
    omega
  rw [Reading.filledTo]
  cases dots : reading.dots with
  | false =>
      rw [split, none dots]
      simp
  | true =>
      -- dots have come, so there is a row before them
      have positive : 0 < k := by
        rcases Nat.eq_zero_or_pos k with rfl | positive
        · rw [covers.dots] at dots
          cases dots
        · exact positive
      have full : reading.last.length = 16 := by
        rw [covers.last positive]
        exact rowAt_length (by omega)
      have gap : (16 * k - reading.message.length) / 16 = count := by
        rw [← total, split, List.length_append, List.length_flatten,
          List.map_replicate, List.sum_replicate_nat, full, Nat.add_sub_cancel_left]
        simp
      rw [if_pos rfl, copies, gap, ← split]

theorem readLine_dumpRow {buf : List UInt8} {k : Nat} {reading : Reading}
    (covers : Covers buf k reading) (complete : 16 * k ≤ buf.length)
    (small : buf.length < 2 ^ 32) {chs : List UInt8} (inRow : chs.length ≤ 16) :
    readLine reading (dumpRow (16 * k) chs) =
      some ⟨buf.take (16 * k) ++ chs, chs, false⟩ := by
  have offsetSmall : 16 * k < 2 ^ 32 := by omega
  have total : (buf.take (16 * k)).length = 16 * k := by
    rw [List.length_take]
    omega
  rw [readLine, if_neg (dumpRow_ne_dotsLine offsetSmall chs),
    readRow_dumpRow offsetSmall inRow, Option.bind_some,
    covers.filledTo complete, if_pos total]

/-- The complete rows that the loop leaves out are repetitions. -/
def OmitsRepetitions (buf : List UInt8) : Prop :=
  ∀ k, k < completeRows buf → oldRow buf k = rowAt buf k →
    0 < k ∧ rowAt buf k = rowAt buf (k - 1)

private theorem read_shownRows {buf : List UInt8} (omits : OmitsRepetitions buf)
    (small : buf.length < 2 ^ 32) {k : Nat} (upTo : k ≤ completeRows buf) :
    ∃ reading,
      (shownRows buf k).1.foldlM readLine ⟨[], [], false⟩ = some reading ∧
        Covers buf k reading := by
  induction k with
  | zero =>
      refine ⟨⟨[], [], false⟩, rfl, rfl, ⟨0, rfl, fun _ => rfl⟩, ?_⟩
      intro impossible
      cases impossible
  | succ k induction =>
      obtain ⟨reading, read, covers⟩ := induction (by omega)
      have complete : 16 * (k + 1) ≤ buf.length := by
        simp only [completeRows] at upTo
        omega
      rw [shownRows]
      by_cases same : oldRow buf k = rowAt buf k
      · obtain ⟨positive, repeated⟩ := omits k upTo same
        have last : reading.last = rowAt buf k := by
          rw [covers.last positive, repeated]
        obtain ⟨count, split, -⟩ := covers.copied
        refine ⟨{ reading with dots := true }, ?_, ?_, ⟨count + 1, ?_, ?_⟩, ?_⟩
        · rw [if_pos same]
          cases dots : (shownRows buf k).2 with
          | false =>
              rw [if_pos rfl, List.foldlM_append, read]
              rfl
          | true =>
              have marked := covers.dots.trans dots
              rw [if_neg (Bool.true_eq_false.mp ·), read, ← marked]
        · rw [shownRows, if_pos same]
        · rw [take_succ_row, split, List.append_assoc, List.replicate_succ',
            List.flatten_append, last]
          simp
        · intro impossible
          cases impossible
        · intro _
          exact last
      · rw [if_neg same]
        refine ⟨⟨buf.take (16 * k) ++ rowAt buf k, rowAt buf k, false⟩, ?_, ?_,
          ⟨0, ?_, ?_⟩, ?_⟩
        · have line := readLine_dumpRow covers (by omega) small
            (Nat.le_of_eq (rowAt_length complete))
          rw [List.foldlM_append, read, Option.bind_eq_bind, Option.bind_some,
            List.foldlM_cons, line]
          rfl
        · rw [shownRows, if_neg same]
        · rw [take_succ_row]
          simp
        · intro _
          rfl
        · intro _
          rfl

theorem completeRows_le (buf : List UInt8) :
    16 * completeRows buf ≤ buf.length := by
  rw [completeRows]
  omega

theorem nil_inRow : ([] : List UInt8).length ≤ 16 :=
  Nat.zero_le 16

/-- The line with the length of the message adds nothing to it. -/
theorem readLine_length {buf last : List UInt8} (small : buf.length < 2 ^ 32) :
    readLine ⟨buf, last, false⟩ (dumpRow buf.length []) =
      some ⟨buf, [], false⟩ := by
  rw [readLine, if_neg (dumpRow_ne_dotsLine small []),
    readRow_dumpRow small nil_inRow, Option.bind_some]
  simp [Reading.filledTo]

theorem read_amqpDump {buf : List UInt8} (omits : OmitsRepetitions buf)
    (small : buf.length < 2 ^ 32) : readDump (amqpDump buf) = some buf := by
  obtain ⟨reading, read, covers⟩ :=
    read_shownRows omits small (Nat.le_refl (completeRows buf))
  have line := readLine_dumpRow covers (completeRows_le buf) small
    (rowAt_length_le buf (completeRows buf))
  have whole : buf.take (16 * completeRows buf) ++
      rowAt buf (completeRows buf) = buf := by
    rw [rowAt_completeRows, List.take_append_drop]
  rw [whole] at line
  rw [readDump, amqpDump_eq, List.foldlM_append, List.foldlM_append, read]
  simp only [Option.bind_eq_bind, Option.bind_some, List.foldlM_cons, line,
    List.foldlM_nil, Option.pure_def]
  by_cases empty : buf = []
  · rw [if_pos empty]
    rfl
  · rw [if_neg empty]
    simp [readLine_length small]

/-- A complete row is among the lines if and only if it differs from what it is
compared with. -/
theorem mem_shownRows {buf : List UInt8} (small : buf.length < 2 ^ 32)
    {j k : Nat} (complete : 16 * j ≤ buf.length) (inside : 16 * k ≤ buf.length) :
    dumpRow (16 * k) (rowAt buf k) ∈ (shownRows buf j).1 ↔
      k < j ∧ oldRow buf k ≠ rowAt buf k := by
  have rowSmall : 16 * k < 2 ^ 32 := by omega
  induction j with
  | zero => simp [shownRows]
  | succ j induction =>
      have earlier : dumpRow (16 * k) (rowAt buf k) ∈ (shownRows buf j).1 ↔
          k < j ∧ oldRow buf k ≠ rowAt buf k := induction (by omega)
      rw [shownRows]
      by_cases same : oldRow buf j = rowAt buf j
      · have fewer : k < j + 1 ∧ oldRow buf k ≠ rowAt buf k ↔
            k < j ∧ oldRow buf k ≠ rowAt buf k := by
          constructor
          · rintro ⟨before, other⟩
            refine ⟨Nat.lt_of_le_of_ne (Nat.lt_succ_iff.mp before) ?_, other⟩
            rintro rfl
            exact other same
          · rintro ⟨before, other⟩
            exact ⟨Nat.lt_succ_of_lt before, other⟩
        rw [if_pos same, fewer, ← earlier]
        simp only
        split
        · rw [List.mem_append, List.mem_singleton]
          constructor
          · rintro (before | dots)
            · exact before
            · exact absurd dots (dumpRow_ne_dotsLine rowSmall _)
          · exact .inl
        · rfl
      · rw [if_neg same, List.mem_append, List.mem_singleton, earlier]
        constructor
        · rintro (⟨before, other⟩ | printed)
          · exact ⟨Nat.lt_succ_of_lt before, other⟩
          · obtain ⟨offset, -⟩ := dumpRow_injective rowSmall (by omega)
              (rowAt_length_le buf k) (rowAt_length_le buf j) printed
            obtain rfl : k = j := by omega
            exact ⟨Nat.lt_succ_self k, same⟩
        · rintro ⟨before, other⟩
          rcases Nat.lt_succ_iff_lt_or_eq.mp before with earlierRow | rfl
          · exact .inl ⟨earlierRow, other⟩
          · exact .inr rfl

theorem mem_amqpDump {buf : List UInt8} (small : buf.length < 2 ^ 32) {k : Nat}
    (upTo : k ≤ completeRows buf) :
    dumpRow (16 * k) (rowAt buf k) ∈ amqpDump buf ↔
      k = completeRows buf ∨ oldRow buf k ≠ rowAt buf k := by
  have complete := completeRows_le buf
  rw [amqpDump_eq, List.mem_append, List.mem_append, List.mem_singleton,
    mem_shownRows small complete (by omega)]
  constructor
  · rintro ((⟨-, other⟩ | printed) | length)
    · exact .inr other
    · left
      obtain ⟨offset, -⟩ := dumpRow_injective (by omega) (by omega)
        (rowAt_length_le buf k) (rowAt_length_le buf _) printed
      omega
    · exfalso
      by_cases empty : buf = []
      · rw [if_pos empty] at length
        cases length
      · -- a row has bytes, and the line with the length has none
        rw [if_neg empty, List.mem_singleton] at length
        obtain ⟨offset, -⟩ := dumpRow_injective (by omega) small
          (rowAt_length_le buf k) nil_inRow length
        have positive := List.length_pos_iff.mpr empty
        simp only [completeRows] at upTo
        omega
  · rintro (rfl | other)
    · exact .inl (.inr rfl)
    · rcases Nat.lt_or_eq_of_le upTo with before | rfl
      · exact .inl (.inl ⟨before, other⟩)
      · exact .inl (.inr rfl)

/-- The first and the last row are printed, a complete row in between is left
out if and only if it equals the row before it, and the dump reads back as the
message. -/
structure Faithful (buf : List UInt8) : Prop where
  first : dumpRow 0 (rowAt buf 0) ∈ amqpDump buf
  last : dumpRow (16 * completeRows buf) (rowAt buf (completeRows buf)) ∈
    amqpDump buf
  between : ∀ k, 0 < k → k < completeRows buf →
    (dumpRow (16 * k) (rowAt buf k) ∉ amqpDump buf ↔
      rowAt buf k = rowAt buf (k - 1))
  readsBack : readDump (amqpDump buf) = some buf

/-- A row of zeros behind its first byte. -/
def ZerosBehind (row : List UInt8) : Prop :=
  row.drop 1 = List.replicate 15 0

/-- The messages for which it makes no difference that only the first byte of a
row is kept: the first of several rows is not all zeros, complete rows repeat
only if they have zeros behind their first byte, and a row of this kind does not
come behind one with the same first byte that is not. -/
structure KeepsEnough (buf : List UInt8) : Prop where
  first : 0 < completeRows buf → rowAt buf 0 ≠ List.replicate 16 0
  repeats : ∀ k, 0 < k → k < completeRows buf →
    rowAt buf k = rowAt buf (k - 1) → ZerosBehind (rowAt buf k)
  others : ∀ k, 0 < k → k < completeRows buf → ZerosBehind (rowAt buf k) →
    (rowAt buf k).take 1 = (rowAt buf (k - 1)).take 1 →
      ZerosBehind (rowAt buf (k - 1))

/-- A row is left out if it has the first byte of the row before it and zeros
behind it. -/
theorem oldRow_eq_rowAt_iff {buf : List UInt8} {k : Nat} (positive : 0 < k)
    (complete : 16 * k ≤ buf.length) :
    oldRow buf k = rowAt buf k ↔
      (rowAt buf k).take 1 = (rowAt buf (k - 1)).take 1 ∧
        ZerosBehind (rowAt buf k) := by
  obtain ⟨before, rfl⟩ := Nat.exists_eq_succ_of_ne_zero (by omega : k ≠ 0)
  have full := rowAt_length complete
  have single : ((rowAt buf before).take 1).length = 1 := by
    rw [List.length_take, full]
    rfl
  rw [oldRow, Nat.succ_sub_one]
  constructor
  · intro same
    rw [← same]
    constructor
    · exact List.take_left' single
    · exact List.drop_left' single
  · rintro ⟨firstByte, zeros⟩
    rw [← firstByte, ← zeros, List.take_append_drop]

theorem left_out_iff {buf : List UInt8} (small : buf.length < 2 ^ 32) {k : Nat}
    (positive : 0 < k) (before : k < completeRows buf) :
    dumpRow (16 * k) (rowAt buf k) ∉ amqpDump buf ↔
      (rowAt buf k).take 1 = (rowAt buf (k - 1)).take 1 ∧
        ZerosBehind (rowAt buf k) := by
  have complete := completeRows_le buf
  rw [mem_amqpDump small (Nat.le_of_lt before),
    ← oldRow_eq_rowAt_iff positive (by omega)]
  constructor
  · intro out
    by_contra other
    exact out (.inr other)
  · rintro same (lastRow | other)
    · omega
    · exact other same

private theorem row_eq_iff (left right : List UInt8) :
    left = right ↔ left.take 1 = right.take 1 ∧ left.drop 1 = right.drop 1 := by
  constructor
  · rintro rfl
    exact ⟨rfl, rfl⟩
  · rintro ⟨firstByte, rest⟩
    rw [← List.take_append_drop 1 left, firstByte, rest,
      List.take_append_drop]

/-- A dump is faithful exactly for the messages that the kept byte of a row is
enough for. -/
theorem dump_faithful_iff (buf : List UInt8) (small : buf.length < 2 ^ 32) :
    Faithful buf ↔ KeepsEnough buf := by
  constructor
  · rintro ⟨first, -, between, -⟩
    constructor
    · intro several zeros
      rcases (mem_amqpDump small (Nat.zero_le _)).mp first with only | other
      · omega
      · exact other zeros.symm
    · intro k positive before equal
      have out := (between k positive before).mpr equal
      exact ((left_out_iff small positive before).mp out).2
    · intro k positive before zeros firstByte
      have out := (left_out_iff small positive before).mpr ⟨firstByte, zeros⟩
      rw [← (between k positive before).mp out]
      exact zeros
  · rintro ⟨first, repeats, others⟩
    have elided : ∀ k, 0 < k → k < completeRows buf →
        ((rowAt buf k).take 1 = (rowAt buf (k - 1)).take 1 ∧
            ZerosBehind (rowAt buf k) ↔ rowAt buf k = rowAt buf (k - 1)) := by
      intro k positive before
      constructor
      · rintro ⟨firstByte, zeros⟩
        have zerosBefore := others k positive before zeros firstByte
        exact (row_eq_iff _ _).mpr ⟨firstByte, zeros.trans zerosBefore.symm⟩
      · intro equal
        exact ⟨((row_eq_iff _ _).mp equal).1, repeats k positive before equal⟩
    constructor
    · apply (mem_amqpDump small (Nat.zero_le _)).mpr
      rcases Nat.eq_zero_or_pos (completeRows buf) with only | several
      · exact .inl only.symm
      · exact .inr fun zeros => first several zeros.symm
    · exact (mem_amqpDump small (Nat.le_refl _)).mpr (.inl rfl)
    · intro k positive before
      rw [left_out_iff small positive before]
      exact elided k positive before
    · apply read_amqpDump _ small
      intro k before same
      have complete := completeRows_le buf
      rcases Nat.eq_zero_or_pos k with rfl | positive
      · exact absurd same.symm (first before)
      · refine ⟨positive, (elided k positive before).mp ?_⟩
        exact (oldRow_eq_rowAt_iff positive (by omega)).mp same

/-- Two rows of a one and zeros, and a byte behind them. -/
def repeatedMessage : List UInt8 :=
  1 :: List.replicate 15 0 ++ 1 :: List.replicate 15 0 ++ [7]

theorem dump_faithful_repeated : Faithful repeatedMessage := by
  apply (dump_faithful_iff repeatedMessage (by decide)).mpr
  have rows : completeRows repeatedMessage = 2 := by decide
  constructor
  · intro _
    decide
  · intro k positive before _
    rw [rows] at before
    obtain rfl : k = 1 := by omega
    unfold ZerosBehind
    decide
  · intro k positive before _ _
    rw [rows] at before
    obtain rfl : k = 1 := by omega
    unfold ZerosBehind
    decide

/-- Two different rows with the same first byte, and a byte behind them. -/
def differentMessage : List UInt8 :=
  1 :: 2 :: List.replicate 14 0 ++ 1 :: List.replicate 15 0 ++ [7]

/-- The second row is left out. -/
theorem dump_unfaithful : ¬ Faithful differentMessage := by
  intro faithful
  have rows : completeRows differentMessage = 2 := by decide
  have second : 1 < completeRows differentMessage := by omega
  have small : differentMessage.length < 2 ^ 32 := by decide
  have out := (left_out_iff small Nat.one_pos second).mpr
    ⟨by decide, by unfold ZerosBehind; decide⟩
  have equal := (faithful.between 1 Nat.one_pos second).mp out
  revert equal
  decide

end KosCeExtra.Rabbitmq
