import KosCeExtra.Camera.JpegSize

/-!
# Frames and where `GetJpegSize` ends them

`IsFrame` is the grammar of a frame: a start marker, items and an end marker.
The loops are followed along a buffer split into the bytes behind the index
and the bytes still to come, in marker mode (`markersAt`) and in entropy mode
(`entropyAt`).

A frame may be cut into items in more than one way, since a restart marker
behind a scan also reads as entropy-coded data.  Both modes are therefore
followed to the end of the frame by one induction over its items.
-/

namespace KosCeExtra.Camera

/-! ## The grammar -/

/-- Entropy-coded data: every `0xff` is followed by a stuffed zero or by a
restart marker. -/
inductive IsEntropy : List UInt8 → Prop where
  | nil : IsEntropy []
  | plain {byte : UInt8} {data : List UInt8} :
      byte ≠ 0xff → IsEntropy data → IsEntropy (byte :: data)
  | stuffed {next : UInt8} {data : List UInt8} :
      (next = 0x00 ∨ 0xd0 ≤ next ∧ next ≤ 0xd7) →
      IsEntropy data → IsEntropy (0xff :: next :: data)

/-- Markers without a payload: `TEM`, the restart markers and `SOI`. -/
def IsBareMarker (marker : UInt8) : Prop :=
  marker = 0x01 ∨ 0xd0 ≤ marker ∧ marker ≤ 0xd8

/-- Markers with a length and a payload. -/
def IsSegmentMarker (marker : UInt8) : Prop :=
  ¬ IsBareMarker marker ∧ marker ≠ 0x00 ∧ marker ≠ 0xff ∧ marker ≠ 0xd9 ∧
    marker ≠ 0xda

/-- The bytes of an item behind its fill bytes. -/
inductive IsItemBody : List UInt8 → Prop where
  | bare {marker : UInt8} : IsBareMarker marker → IsItemBody [marker]
  | scan {header data : List UInt8} :
      (∀ byte ∈ header, byte ≠ 0xff) → IsEntropy data →
      IsItemBody (0xda :: (header ++ data))
  | segment {marker high low : UInt8} {payload : List UInt8} :
      IsSegmentMarker marker →
      payload.length + 2 = high.toNat * 256 + low.toNat →
      IsItemBody (marker :: high :: low :: payload)

/-- An item: one or more `0xff` and a body. -/
def IsItem (item : List UInt8) : Prop :=
  ∃ fill body, IsItemBody body ∧
    item = List.replicate (fill + 1) 0xff ++ body

/-- A frame: `SOI`, any items, and one or more `0xff` before `EOI`. -/
def IsFrame (frame : List UInt8) : Prop :=
  ∃ (items : List (List UInt8)) (fill : Nat), (∀ item ∈ items, IsItem item) ∧
    frame = [0xff, 0xd8] ++ items.flatten ++
      (List.replicate (fill + 1) 0xff ++ [0xd9])

/-! ## Steps of the two loops -/

/-- Marker mode with the bytes `rest` to come. -/
def markersAt (done rest : List UInt8) : Except Fault Nat :=
  getJpegSizeFrom (done ++ rest) (done ++ rest).length done.length

/-- Entropy mode with the bytes `rest` to come, then marker mode. -/
def entropyAt (done rest : List UInt8) : Except Fault Nat :=
  match skipEntropy (done ++ rest) (done ++ rest).length done.length with
  | .error fault => .error fault
  | .ok next => getJpegSizeFrom (done ++ rest) (done ++ rest).length next

theorem isRst_iff (byte : UInt8) :
    isRst byte = true ↔ 0xd0 ≤ byte ∧ byte ≤ 0xd7 := by
  rw [isRst, Bool.and_eq_true, decide_eq_true_iff, decide_eq_true_iff]
  rfl

private theorem byteAt_split (done rest : List UInt8) (byte : UInt8) :
    byteAt (done ++ byte :: rest) done.length = .ok byte := by
  simp [byteAt]

private theorem byteAt_split_succ (done rest : List UInt8)
    (byte next : UInt8) :
    byteAt (done ++ byte :: next :: rest) (done.length + 1) = .ok next := by
  simp [byteAt]

theorem markersAt_bare {byte : UInt8} (kind : markerKind byte = .bare)
    (done rest : List UInt8) :
    markersAt done (byte :: rest) = markersAt (done ++ [byte]) rest := by
  have inside : done.length < (done ++ byte :: rest).length := by simp
  rw [markersAt, getJpegSizeFrom, if_pos inside, byteAt_split]
  simp [kind, markersAt]

private theorem markersAt_endOfImage (done rest : List UInt8) :
    markersAt done (0xd9 :: rest) = .ok (done.length + 1) := by
  have inside : done.length < (done ++ 0xd9 :: rest).length := by simp
  have kind : markerKind 0xd9 = .endOfImage := by decide
  rw [markersAt, getJpegSizeFrom, if_pos inside, byteAt_split]
  simp [kind]

private theorem markersAt_scan (done rest : List UInt8) :
    markersAt done (0xda :: rest) = entropyAt (done ++ [0xda]) rest := by
  have inside : done.length < (done ++ 0xda :: rest).length := by simp
  have kind : markerKind 0xda = .scan := by decide
  rw [markersAt, getJpegSizeFrom, if_pos inside, byteAt_split]
  simp only [kind, entropyAt, List.append_assoc, List.singleton_append,
    List.length_append, List.length_singleton]
  split <;> simp_all

private theorem markersAt_segment {marker high low : UInt8} {payload : List UInt8}
    (kind : markerKind marker = .segment)
    (length : payload.length + 2 = high.toNat * 256 + low.toNat)
    (done : List UInt8) {rest : List UInt8} (more : rest ≠ []) :
    markersAt done (marker :: high :: low :: payload ++ rest) =
      markersAt (done ++ marker :: high :: low :: payload) rest := by
  have restLength : 0 < rest.length := List.length_pos_iff.mpr more
  have inside : done.length <
      (done ++ (marker :: high :: low :: payload ++ rest)).length := by simp
  have room : ¬ done.length + 1 + 2 ≥
      (done ++ (marker :: high :: low :: payload ++ rest)).length := by
    simp only [List.length_append, List.length_cons]
    omega
  have loaded : be16At (done ++ (marker :: high :: low :: payload ++ rest))
      (done.length + 1) = .ok (payload.length + 2) := by
    have first : byteAt (done ++ (marker :: high :: low :: payload ++ rest))
        (done.length + 1) = .ok high := by simp [byteAt]
    have second : byteAt (done ++ (marker :: high :: low :: payload ++ rest))
        (done.length + 1 + 1) = .ok low := by
      have offset : done.length + 1 + 1 - done.length = 2 := by omega
      rw [byteAt, List.getElem?_append_right (by omega), offset]
      rfl
    rw [be16At, first, length]
    simp only [second, bind, Except.bind, pure, Except.pure]
  have index : done.length + 1 + (payload.length + 2) =
      (done ++ marker :: high :: low :: payload).length := by
    simp only [List.length_append, List.length_cons]
    omega
  rw [markersAt, getJpegSizeFrom, if_pos inside]
  simp only [List.cons_append] at room loaded ⊢
  rw [byteAt_split]
  simp only [kind, if_neg room, loaded, index]
  simp [markersAt]

theorem entropyAt_plain {byte : UInt8} (plain : byte ≠ 0xff)
    (done : List UInt8) {rest : List UInt8} (more : rest ≠ []) :
    entropyAt done (byte :: rest) = entropyAt (done ++ [byte]) rest := by
  have restLength : 0 < rest.length := List.length_pos_iff.mpr more
  have inside : done.length < (done ++ byte :: rest).length - 1 := by
    simp only [List.length_append, List.length_cons]
    omega
  have notPadding : byte ≠ jpegPadding := plain
  rw [entropyAt, skipEntropy, if_pos inside, byteAt_split]
  simp [notPadding, entropyAt]

theorem entropyAt_stuffed {next : UInt8}
    (stuffed : next = 0x00 ∨ 0xd0 ≤ next ∧ next ≤ 0xd7)
    (done : List UInt8) {rest : List UInt8} (more : rest ≠ []) :
    entropyAt done (0xff :: next :: rest) =
      entropyAt (done ++ [0xff, next]) rest := by
  have inside : done.length < (done ++ 0xff :: next :: rest).length - 1 := by
    simp only [List.length_append, List.length_cons]
    omega
  have skipped : next = jpegFF ∨ isRst next := by
    rwa [isRst_iff]
  have plain : next ≠ 0xff := by
    rintro rfl
    revert stuffed
    decide
  have first : entropyAt done (0xff :: next :: rest) =
      entropyAt (done ++ [0xff]) (next :: rest) := by
    rw [entropyAt, skipEntropy, if_pos inside, byteAt_split,
      byteAt_split_succ]
    simp [jpegPadding, skipped, entropyAt]
  rw [first, entropyAt_plain plain _ more]
  simp

/-- A `0xff` that starts a marker ends entropy mode.  Marker mode skips it, so
it may also be read there. -/
theorem entropyAt_marker {next : UInt8}
    (marker : ¬ (next = 0x00 ∨ 0xd0 ≤ next ∧ next ≤ 0xd7))
    (done rest : List UInt8) :
    entropyAt done (0xff :: next :: rest) =
      markersAt done (0xff :: next :: rest) := by
  have inside : done.length < (done ++ 0xff :: next :: rest).length - 1 := by
    simp only [List.length_append, List.length_cons]
    omega
  have stops : ¬ (next = jpegFF ∨ isRst next) := by
    rwa [isRst_iff]
  rw [markersAt_bare (by decide), entropyAt, skipEntropy, if_pos inside,
    byteAt_split, byteAt_split_succ]
  simp [jpegPadding, stops, markersAt]

/-! ## Whole frames -/

private theorem markerKind_bare {marker : UInt8} (bare : IsBareMarker marker) :
    markerKind marker = .bare := by
  have listed : marker = jpegPadding ∨ marker = jpegSOI ∨ marker = jpegTEM ∨
      isRst marker = true := by
    rw [isRst_iff]
    rcases bare with tem | ⟨lower, upper⟩
    · exact Or.inr (Or.inr (Or.inl tem))
    · by_cases soi : marker = 0xd8
      · exact Or.inr (Or.inl soi)
      · refine Or.inr (Or.inr (Or.inr ⟨lower, ?_⟩))
        have different : marker.toNat ≠ 0xd8 := fun same =>
          soi (UInt8.toNat_inj.mp same)
        have bound : marker.toNat ≤ 0xd8 := UInt8.le_iff_toNat_le.mp upper
        apply UInt8.le_iff_toNat_le.mpr
        change marker.toNat ≤ 0xd7
        omega
  simp [markerKind, listed]

private theorem markerKind_segment {marker : UInt8}
    (segment : IsSegmentMarker marker) :
    markerKind marker = .segment := by
  obtain ⟨notBare, _, notPadding, notEnd, notScan⟩ := segment
  have unlisted : ¬ (marker = jpegPadding ∨ marker = jpegSOI ∨
      marker = jpegTEM ∨ isRst marker = true) := by
    rw [isRst_iff]
    rintro (padding | soi | tem | ⟨lower, upper⟩)
    · exact notPadding padding
    · subst soi
      exact notBare (Or.inr (by decide))
    · exact notBare (Or.inl tem)
    · exact notBare (Or.inr ⟨lower, UInt8.le_trans upper (by decide)⟩)
  have notSos : marker ≠ jpegSOS := notScan
  have notEoi : marker ≠ jpegEOI := notEnd
  simp [markerKind, unlisted, notSos, notEoi]

private theorem markersAt_fill (count : Nat) (done rest : List UInt8) :
    markersAt done (List.replicate count 0xff ++ rest) =
      markersAt (done ++ List.replicate count 0xff) rest := by
  induction count generalizing done with
  | zero => simp
  | succ count induction =>
      rw [List.replicate_succ, List.cons_append, markersAt_bare (by decide),
        induction]
      simp

private theorem entropyAt_header {header : List UInt8}
    (plain : ∀ byte ∈ header, byte ≠ 0xff) (done : List UInt8)
    {rest : List UInt8} (more : rest ≠ []) :
    entropyAt done (header ++ rest) = entropyAt (done ++ header) rest := by
  induction header generalizing done with
  | nil => simp
  | cons byte header induction =>
      have later := induction
        (fun other member => plain other (by simp [member])) (done ++ [byte])
      rw [List.cons_append, entropyAt_plain (plain byte (by simp)) _
        (by simp [more]), later]
      simp

private theorem entropyAt_data {data : List UInt8} (entropy : IsEntropy data)
    (done : List UInt8) {rest : List UInt8} (more : rest ≠ []) :
    entropyAt done (data ++ rest) = entropyAt (done ++ data) rest := by
  induction entropy generalizing done with
  | nil => simp
  | @plain byte data notMarker _ induction =>
      rw [List.cons_append, entropyAt_plain notMarker _ (by simp [more]),
        induction]
      simp
  | @stuffed next data isStuffed _ induction =>
      rw [List.cons_append, List.cons_append,
        entropyAt_stuffed isStuffed _ (by simp [more]), induction]
      simp

/-- Fill bytes and a marker end entropy mode, unless a single fill byte stands
before a restart marker. -/
theorem entropyAt_fill {fill : Nat} {marker : UInt8}
    (ends : fill ≠ 0 ∨
      ¬ (marker = 0x00 ∨ 0xd0 ≤ marker ∧ marker ≤ 0xd7))
    (done rest : List UInt8) :
    entropyAt done (List.replicate (fill + 1) 0xff ++ marker :: rest) =
      markersAt done (List.replicate (fill + 1) 0xff ++ marker :: rest) := by
  cases fill with
  | zero => exact entropyAt_marker (ends.resolve_left (by simp)) done rest
  | succ fill =>
      have padding : ¬ ((0xff : UInt8) = 0x00 ∨
          (0xd0 : UInt8) ≤ 0xff ∧ (0xff : UInt8) ≤ 0xd7) := by decide
      exact entropyAt_marker padding done
        (List.replicate fill 0xff ++ marker :: rest)

/-- What is left of a frame behind some of its items. -/
def frameTail (items : List (List UInt8)) (fill : Nat) : List UInt8 :=
  items.flatten ++ (List.replicate (fill + 1) 0xff ++ [0xd9])

private theorem frameTail_cons (item : List UInt8) (items : List (List UInt8))
    (fill : Nat) :
    frameTail (item :: items) fill = item ++ frameTail items fill := by
  simp [frameTail]

private theorem markersAt_body {body rest : List UInt8} {size : Nat}
    (isBody : IsItemBody body) (more : rest ≠ [])
    (markers : ∀ done, markersAt done rest = .ok (done.length + size))
    (entropy : ∀ done, entropyAt done rest = .ok (done.length + size))
    (done : List UInt8) :
    markersAt done (body ++ rest) = .ok (done.length + (body.length + size)) := by
  cases isBody with
  | @bare marker isBare =>
      rw [List.singleton_append, markersAt_bare (markerKind_bare isBare),
        markers]
      simp only [List.length_append, List.length_singleton]
      congr 1
      omega
  | @scan header data plain isEntropy =>
      rw [List.cons_append, markersAt_scan, List.append_assoc,
        entropyAt_header plain _ (by simp [more]),
        entropyAt_data isEntropy _ more, entropy]
      simp only [List.length_append, List.length_cons, List.length_nil]
      congr 1
      omega
  | @segment marker high low payload isSegment length =>
      rw [markersAt_segment (markerKind_segment isSegment) length _ more,
        markers]
      simp only [List.length_append, List.length_cons]
      congr 1
      omega

/-- A body either starts with a byte that ends entropy mode, or it is a single
restart marker. -/
private theorem itemBody_start {body : List UInt8} (isBody : IsItemBody body) :
    ∃ marker tail, body = marker :: tail ∧
      (¬ (marker = 0x00 ∨ 0xd0 ≤ marker ∧ marker ≤ 0xd7) ∨
        tail = [] ∧ (marker = 0x00 ∨ 0xd0 ≤ marker ∧ marker ≤ 0xd7)) := by
  cases isBody with
  | @bare marker isBare =>
      refine ⟨marker, [], rfl, ?_⟩
      by_cases stuffed : marker = 0x00 ∨ 0xd0 ≤ marker ∧ marker ≤ 0xd7
      · exact Or.inr ⟨rfl, stuffed⟩
      · exact Or.inl stuffed
  | scan _ _ => exact ⟨0xda, _, rfl, Or.inl (by decide)⟩
  | @segment marker high low payload isSegment _ =>
      refine ⟨marker, _, rfl, Or.inl ?_⟩
      obtain ⟨notBare, notZero, _⟩ := isSegment
      rintro (zero | ⟨lower, upper⟩)
      · exact notZero zero
      · exact notBare (Or.inr ⟨lower, UInt8.le_trans upper (by decide)⟩)

/-- Both modes find the end of a frame, whatever follows it. -/
theorem frameTail_run (items : List (List UInt8))
    (isItems : ∀ item ∈ items, IsItem item) (fill : Nat)
    (trailing : List UInt8) :
    (∀ done, markersAt done (frameTail items fill ++ trailing) =
        .ok (done.length + (frameTail items fill).length)) ∧
      ∀ done, entropyAt done (frameTail items fill ++ trailing) =
        .ok (done.length + (frameTail items fill).length) := by
  induction items with
  | nil =>
      have split : frameTail [] fill ++ trailing =
          List.replicate (fill + 1) 0xff ++ 0xd9 :: trailing := by
        simp [frameTail]
      have markers : ∀ done, markersAt done (frameTail [] fill ++ trailing) =
          .ok (done.length + (frameTail [] fill).length) := by
        intro done
        rw [split, markersAt_fill, markersAt_endOfImage]
        simp [frameTail, Nat.add_assoc]
      refine ⟨markers, ?_⟩
      intro done
      rw [← markers done, split]
      exact entropyAt_fill (Or.inr (by decide)) done trailing
  | cons item items induction =>
      obtain ⟨itemFill, body, isBody, rfl⟩ := isItems item (by simp)
      obtain ⟨markers, entropy⟩ := induction
        fun other member => isItems other (by simp [member])
      have more : frameTail items fill ++ trailing ≠ [] := by
        simp [frameTail]
      rw [frameTail_cons]
      have wholeMarkers : ∀ done,
          markersAt done (List.replicate (itemFill + 1) 0xff ++ body ++
              frameTail items fill ++ trailing) =
            .ok (done.length + (List.replicate (itemFill + 1) 0xff ++ body ++
              frameTail items fill).length) := by
        intro done
        rw [List.append_assoc, List.append_assoc, markersAt_fill,
          markersAt_body isBody more markers entropy]
        simp only [List.length_append]
        congr 1
        omega
      refine ⟨wholeMarkers, ?_⟩
      intro done
      obtain ⟨marker, tail, rfl, start⟩ := itemBody_start isBody
      by_cases ends : itemFill ≠ 0 ∨
          ¬ (marker = 0x00 ∨ 0xd0 ≤ marker ∧ marker ≤ 0xd7)
      · rw [← wholeMarkers done]
        have same := entropyAt_fill ends done
          (tail ++ (frameTail items fill ++ trailing))
        simpa using same
      · push Not at ends
        obtain ⟨noFill, stuffed⟩ := ends
        obtain ⟨rfl, _⟩ := start.resolve_left (fun other => other stuffed)
        subst noFill
        have skipped := entropyAt_stuffed stuffed done more
        rw [entropy] at skipped
        simp only [Nat.zero_add, List.replicate_one, List.cons_append,
          List.nil_append] at skipped ⊢
        rw [skipped]
        simp only [List.length_append, List.length_cons, List.length_nil]
        congr 1
        omega

/-- `GetJpegSize` returns the length of the frame at the start of its buffer,
whatever bytes follow the frame. -/
theorem getJpegSize_frame (frame trailing : List UInt8)
    (isFrame : IsFrame frame) :
    getJpegSize (frame ++ trailing) (frame.length + trailing.length) =
      .ok frame.length := by
  obtain ⟨items, fill, isItems, rfl⟩ := isFrame
  have run := (frameTail_run items isItems fill trailing).1 [0xff, 0xd8]
  have start : markersAt [] (0xff :: 0xd8 ::
      (frameTail items fill ++ trailing)) =
      markersAt [0xff, 0xd8] (frameTail items fill ++ trailing) := by
    rw [markersAt_bare (by decide), markersAt_bare (by decide)]
    rfl
  rw [← start] at run
  rw [getJpegSize, ← List.length_append]
  simp only [frameTail, markersAt, List.nil_append, List.length_nil,
    List.append_assoc, List.cons_append] at run ⊢
  rw [run]
  simp only [List.length_append, List.length_cons, List.length_nil]
  congr 1
  omega

/-- A frame with fill bytes, a segment whose payload looks like an end marker,
a scan with a stuffed zero and a restart marker, and bytes after its end. -/
theorem getJpegSize_frame_sample :
    getJpegSize ([0xff, 0xd8, 0xff, 0xff, 0xe0, 0x00, 0x04, 0xff, 0xd9, 0xff,
      0xda, 0x01, 0x02, 0xff, 0x00, 0xff, 0xd0, 0x07, 0xff, 0xd9] ++
      [0xff, 0xd9]) (20 + 2) = .ok 20 := by
  refine getJpegSize_frame [0xff, 0xd8, 0xff, 0xff, 0xe0, 0x00, 0x04, 0xff,
    0xd9, 0xff, 0xda, 0x01, 0x02, 0xff, 0x00, 0xff, 0xd0, 0x07, 0xff, 0xd9]
    [0xff, 0xd9] ⟨[[0xff, 0xff, 0xe0, 0x00, 0x04, 0xff, 0xd9],
      [0xff, 0xda, 0x01, 0x02, 0xff, 0x00, 0xff, 0xd0, 0x07]], 0, ?_, rfl⟩
  have application : IsItem [0xff, 0xff, 0xe0, 0x00, 0x04, 0xff, 0xd9] := by
    refine ⟨1, [0xe0, 0x00, 0x04, 0xff, 0xd9], .segment ?_ (by decide), rfl⟩
    unfold IsSegmentMarker IsBareMarker
    decide
  have scan : IsItem [0xff, 0xda, 0x01, 0x02, 0xff, 0x00, 0xff, 0xd0, 0x07] :=
    ⟨0, [0xda, 0x01, 0x02, 0xff, 0x00, 0xff, 0xd0, 0x07],
      @IsItemBody.scan [0x01, 0x02] [0xff, 0x00, 0xff, 0xd0, 0x07] (by simp)
        (.stuffed (by decide) (.stuffed (by decide)
          (.plain (by decide) .nil))), rfl⟩
  intro item member
  rcases List.mem_cons.mp member with rfl | member
  · exact application
  rcases List.mem_cons.mp member with rfl | member
  · exact scan
  cases member

end KosCeExtra.Camera
