import KosCeExtra.Camera.ProfileFrameRate
import KosCeExtra.Camera.Snapshots

/-!
# The sizes of YUYV snapshots

The frame has two bytes for each pixel and the image three, and the conversion takes
two pixels at a time.  Its assertions hold when the number of pixels, a product in 32
bits, is even and the image is not too large for 32 bits; the conversion then reads
every byte of the frame and writes every byte of the image.  A profile with an odd
number of pixels can be selected as well.
-/

namespace KosCeExtra.Camera

open Dialogue Traced

/-- `ConfigureCamera` selects the profile from some list of profiles. -/
def CanSelect (height : Nat) (pFmt : CameraPixelFormat) (info : CameraInfo) :
    Prop :=
  ∃ (enumeration : Enumeration) (world : World Call Reply) (attempts : Nat)
    (index : UInt32),
    enumeration.ReportedBy world ∧
    enumeration.profiles.length < attempts ∧
    enumeration.profiles[index.toNat]? = some info ∧
    ⟨.cameraSelectProfile index, .rcOk⟩ ∈
      ((configureCamera height pFmt attempts).run world []).2

private theorem admissible_of_canSelect {height : Nat} {pFmt : CameraPixelFormat}
    {info : CameraInfo} (selectable : CanSelect height pFmt info) :
    Admissible height pFmt info := by
  obtain ⟨enumeration, world, attempts, index, reported, enough, found,
    selected⟩ := selectable
  obtain ⟨best, isBest⟩ := isBestProfile_of_selected reported enough selected
  rw [isBest.here] at found
  cases found
  exact isBest.admissible

/-- A camera with nothing but the profile. -/
def onlyProfile (info : CameraInfo) : Enumeration :=
  { slowFirst with
    profiles := [info]
    indexed := Nat.lt_trans (Nat.lt_succ_self 1) slowFirst.indexed }

theorem canSelect_of_admissible {height : Nat} {pFmt : CameraPixelFormat}
    {info : CameraInfo} (admissible : Admissible height pFmt info) :
    CanSelect height pFmt info := by
  let camera := (onlyProfile info).camera unsetInfo
  have reply : camera 0 (.cameraEnumProfiles Scan.start.i) = (.rcOk, info) := rfl
  have kept := Scan.consider_taller admissible
    (show Scan.start.bestHeight < info.resY.toNat from admissible.2.1)
  have ran : (configureCamera height pFmt 2).run camera [] =
      (some .rcOk, enumerated camera 0 2 ++
        [⟨.cameraSelectProfile 0, .rcOk⟩]) := by
    rw [configureCamera, run_bind, run_scanProfiles_rcOk reply, kept]
    rfl
  refine ⟨onlyProfile info, camera, 2, 0,
    (onlyProfile info).reportedBy_camera unsetInfo, Nat.lt_succ_self 1, rfl, ?_⟩
  rw [ran]
  exact List.mem_append_right _ List.mem_cons_self

/-- What the assertions of the conversion say. -/
def Asserted (yuyvSize rgbSize : Nat) : Prop :=
  yuyvSize % 4 = 0 ∧ rgbSize % 3 = 0 ∧ yuyvSize / 4 * 2 = rgbSize / 3

/-- The accesses for a pair of pixels, in the order of the loop body. -/
def pairAccesses (i : Nat) : List Access :=
  [.load (4 * i), .load (4 * i + 2), .load (4 * i + 1), .load (4 * i + 3)] ++
    ([.store (3 * (i * 2)), .store (3 * (i * 2) + 1), .store (3 * (i * 2) + 2)] ++
      [.store (3 * (i * 2 + 1)), .store (3 * (i * 2 + 1) + 1),
        .store (3 * (i * 2 + 1) + 2)])

section Conversion

variable {yuyv rgb : List UInt8}

private theorem loadByte_inside {index : Nat} (inside : index < yuyv.length) :
    Returns (loadByte yuyv index) [.load index] fun _ => True := by
  rw [loadByte, List.getElem?_eq_getElem inside]
  exact returns_call _ trivial

private theorem storeByte_inside {index : Nat} (inside : index < rgb.length)
    (byte : UInt8) :
    Returns (storeByte rgb index byte) [.store index]
      fun next => next.length = rgb.length := by
  rw [storeByte, if_pos inside]
  exact returns_call _ List.length_set

private theorem storePixel_inside {pixel : Nat} (inside : 3 * pixel + 2 < rgb.length)
    (y u v : Float) :
    Returns (storePixel rgb pixel y u v)
      ([.store (3 * pixel)] ++
        ([.store (3 * pixel + 1)] ++ [.store (3 * pixel + 2)]))
      fun next => next.length = rgb.length := by
  apply (storeByte_inside (by omega) _).bind
  intro red sameRed
  apply (storeByte_inside (by omega) _).bind
  intro green sameGreen
  have same : green.length = rgb.length := sameGreen.trans sameRed
  rw [← same] at inside ⊢
  exact storeByte_inside inside _

private theorem convertPair_inside {i : Nat} (loads : 4 * i + 3 < yuyv.length)
    (stores : 3 * (i * 2 + 1) + 2 < rgb.length) :
    Returns (convertPair yuyv rgb i) (pairAccesses i)
      fun next => next.length = rgb.length := by
  apply (loadByte_inside (by omega)).bind
  intro y1 _
  apply (loadByte_inside (by omega)).bind
  intro y2 _
  apply (loadByte_inside (by omega)).bind
  intro u _
  apply (loadByte_inside loads).bind
  intro v _
  apply (storePixel_inside (by omega) _ _ _).bind
  intro first same
  rw [← same] at stores ⊢
  exact storePixel_inside stores _ _ _

/-- The loop makes the accesses of its pairs, all of them inside. -/
theorem convertPairs_inside {count i : Nat}
    (loads : 4 * (i + count) ≤ yuyv.length)
    (stores : 6 * (i + count) ≤ rgb.length) :
    Returns (convertPairs yuyv count i rgb)
      ((List.range' i count).flatMap pairAccesses)
      fun next => next.length = rgb.length := by
  induction count generalizing i rgb with
  | zero => exact returns_pure rfl
  | succ count induction =>
      rw [List.range'_succ, List.flatMap_cons]
      apply (convertPair_inside (by omega) (by omega)).bind
      intro next same
      rw [← same]
      apply induction
      · omega
      · omega

private theorem load_mem_pairs {count index : Nat} :
    .load index ∈ (List.range' 0 count).flatMap pairAccesses ↔
      index < 4 * count := by
  rw [List.mem_flatMap]
  constructor
  · intro made
    obtain ⟨i, member, access⟩ := made
    have inside := (List.mem_range'_1.mp member).2
    simp only [pairAccesses, List.mem_append, List.mem_cons, Access.load.injEq,
      reduceCtorEq, List.not_mem_nil, or_false] at access
    omega
  · intro inside
    refine ⟨index / 4, List.mem_range'_1.mpr (by omega), ?_⟩
    simp only [pairAccesses, List.mem_append, List.mem_cons, Access.load.injEq,
      reduceCtorEq, List.not_mem_nil, or_false]
    omega

private theorem store_mem_pairs {count index : Nat} :
    .store index ∈ (List.range' 0 count).flatMap pairAccesses ↔
      index < 6 * count := by
  rw [List.mem_flatMap]
  constructor
  · intro made
    obtain ⟨i, member, access⟩ := made
    have inside := (List.mem_range'_1.mp member).2
    simp only [pairAccesses, List.mem_append, List.mem_cons, Access.store.injEq,
      reduceCtorEq, List.not_mem_nil, or_false, false_or] at access
    omega
  · intro inside
    refine ⟨index / 6, List.mem_range'_1.mpr (by omega), ?_⟩
    simp only [pairAccesses, List.mem_append, List.mem_cons, Access.store.injEq,
      reduceCtorEq, List.not_mem_nil, or_false, false_or]
    omega

theorem check_holds {assertion : Assertion} {condition : Prop}
    [Decidable condition] (holds : condition) :
    Returns (check assertion condition) [] fun _ => True := by
  rw [check, if_pos holds]
  exact returns_pure trivial

private theorem check_result_ok {assertion : Assertion} {condition : Prop}
    [Decidable condition] {value : Unit}
    (passed : (check assertion condition).result = .ok value) : condition := by
  by_contra fails
  rw [check, if_neg fails] at passed
  cases passed

/-- With the assertions, the accesses are exactly those to the two buffers. -/
theorem yuyvToRGB_of_asserted {yuyvSize rgbSize : Nat}
    (asserted : Asserted yuyvSize rgbSize) (loads : yuyv.length = yuyvSize)
    (stores : rgb.length = rgbSize) :
    Returns (yuyvToRGB yuyv yuyvSize rgb rgbSize)
      ((List.range' 0 (yuyvSize / 4)).flatMap pairAccesses)
      fun _ => True := by
  obtain ⟨quads, triples, pixels⟩ := asserted
  apply (check_holds quads).bind
  intro _ _
  apply (check_holds triples).bind
  intro _ _
  apply (check_holds pixels).bind
  intro _ _
  have converted := convertPairs_inside
    (show 4 * (0 + yuyvSize / 4) ≤ yuyv.length by omega)
    (show 6 * (0 + yuyvSize / 4) ≤ rgb.length by omega)
  obtain ⟨calls, image, result, -⟩ := converted
  exact ⟨calls, image, result, trivial⟩

private theorem asserted_of_yuyvToRGB {yuyvSize rgbSize : Nat} {image : List UInt8}
    (returned : (yuyvToRGB yuyv yuyvSize rgb rgbSize).result = .ok image) :
    Asserted yuyvSize rgbSize := by
  obtain ⟨_, quads, rest⟩ := bind_result_ok.mp returned
  obtain ⟨_, triples, rest⟩ := bind_result_ok.mp rest
  obtain ⟨_, pixels, -⟩ := bind_result_ok.mp rest
  exact ⟨check_result_ok quads, check_result_ok triples,
    check_result_ok pixels⟩

end Conversion

/-- No assertion fails and no access is outside, and the accesses cover the frame
and the image. -/
structure ConvertsExactly {α : Type} (info : CameraInfo) (program : Program α) :
    Prop where
  returns : ∃ value, program.result = .ok value
  loads : ∀ index, .load index ∈ program.calls ↔
    index < (dataSize info).toNat
  stores : ∀ index, .store index ∈ program.calls ↔
    index < (rgbSize info).toNat

section Snapshot

variable {info : CameraInfo} {turn : Turn}

private theorem length_data : (turn.data info).length = (dataSize info).toNat := by
  rw [Turn.data, List.length_map, List.length_range]

/-- With the assertions, a snapshot is saved. -/
theorem snapshot_of_asserted (format : info.pFmt = .yuyv) (bpp : info.bpp = 2)
    (read : turn.code = .rcOk) (opened : turn.file.opens = true)
    (asserted : Asserted (dataSize info).toNat (rgbSize info).toNat) :
    Returns (snapshot info turn)
      ((List.range' 0 ((dataSize info).toNat / 4)).flatMap pairAccesses)
      fun _ => True := by
  have saved : Returns (snapshot info turn)
      ([] ++ ((List.range' 0 ((dataSize info).toNat / 4)).flatMap pairAccesses ++
        [])) fun _ => True := by
    rw [snapshot, if_neg (not_not.mpr read), format]
    apply (check_holds bpp).bind
    intro _ _
    rw [if_neg (ne_false_of_eq_true opened)]
    apply (yuyvToRGB_of_asserted asserted length_data
      List.length_replicate).bind
    intro image _
    exact returns_pure trivial
  rwa [List.nil_append, List.append_nil] at saved

private theorem asserted_of_snapshot (format : info.pFmt = .yuyv)
    (read : turn.code = .rcOk) (opened : turn.file.opens = true)
    {saved : Retcode × List UInt8}
    (returned : (snapshot info turn).result = .ok saved) :
    Asserted (dataSize info).toNat (rgbSize info).toNat := by
  rw [snapshot, if_neg (not_not.mpr read), format] at returned
  obtain ⟨_, -, rest⟩ := bind_result_ok.mp returned
  rw [if_neg (ne_false_of_eq_true opened)] at rest
  obtain ⟨image, converted, -⟩ := bind_result_ok.mp rest
  exact asserted_of_yuyvToRGB converted

private theorem snapshot_exact_iff (format : info.pFmt = .yuyv) (bpp : info.bpp = 2)
    (read : turn.code = .rcOk) (opened : turn.file.opens = true) :
    ConvertsExactly info (snapshot info turn) ↔
      Asserted (dataSize info).toNat (rgbSize info).toNat := by
  constructor
  · intro converts
    obtain ⟨_, returned⟩ := converts.returns
    exact asserted_of_snapshot format read opened returned
  · intro asserted
    obtain ⟨calls, saved, result, -⟩ :=
      snapshot_of_asserted format bpp read opened asserted
    obtain ⟨quads, triples, pixels⟩ := asserted
    refine ⟨⟨saved, result⟩, ?_, ?_⟩
    · intro index
      rw [calls, load_mem_pairs]
      omega
    · intro index
      rw [calls, store_mem_pairs]
      omega

end Snapshot

/-- The number of pixels, as a product in 32 bits. -/
def pixels (info : CameraInfo) : Nat :=
  (info.resX * info.resY).toNat

private theorem dataSize_eq {info : CameraInfo} (bpp : info.bpp = 2) :
    (dataSize info).toNat = pixels info * 2 % UInt32.size := by
  have two : max info.bpp 1 = 2 := by
    rw [bpp]
    decide
  rw [dataSize, two, UInt32.toNat_mul]
  rfl

private theorem rgbSize_eq (info : CameraInfo) :
    (rgbSize info).toNat = pixels info * 3 % UInt32.size := by
  rw [rgbSize, UInt32.toNat_mul]
  rfl

/-- A product by three that is in threes behind a wrap-around did not wrap around,
where the modulus is one more than a multiple of three. -/
theorem lt_of_triples {count third : Nat} (small : count < 3 * third + 1)
    (triples : count * 3 % (3 * third + 1) % 3 = 0) :
    count * 3 < 3 * third + 1 := by
  have split := Nat.div_add_mod (count * 3) (3 * third + 1)
  have below := Nat.mod_lt (count * 3) (Nat.succ_pos (3 * third))
  have wraps : count * 3 / (3 * third + 1) < 3 := by
    apply Nat.div_lt_of_lt_mul
    omega
  generalize count * 3 / (3 * third + 1) = turns at split wraps
  generalize count * 3 % (3 * third + 1) = size at split triples below
  -- each number of turns adds a remainder of its own
  match turns, wraps with
  | 0, _ => omega
  | 1, _ => omega
  | 2, _ => omega

private theorem asserted_wrapped_iff {count : Nat} (small : count < UInt32.size) :
    Asserted (count * 2 % UInt32.size) (count * 3 % UInt32.size) ↔
      count % 2 = 0 ∧ count * 3 < UInt32.size := by
  have word : UInt32.size = 3 * 1431655765 + 1 := rfl
  constructor
  · intro asserted
    obtain ⟨quads, triples, -⟩ := asserted
    rw [Nat.mod_mod_of_dvd _ (show 4 ∣ UInt32.size by decide)] at quads
    rw [word] at small triples ⊢
    refine ⟨?_, lt_of_triples small triples⟩
    omega
  · intro fits
    obtain ⟨even, small⟩ := fits
    have smaller : count * 2 < UInt32.size :=
      Nat.lt_of_le_of_lt (Nat.mul_le_mul_left count (Nat.le_succ 2)) small
    rw [Asserted, Nat.mod_eq_of_lt small, Nat.mod_eq_of_lt smaller]
    omega

/-- The sizes have the assertions if and only if the number of pixels is even and
the image has a size in 32 bits. -/
theorem asserted_iff {info : CameraInfo} (bpp : info.bpp = 2) :
    Asserted (dataSize info).toNat (rgbSize info).toNat ↔
      pixels info % 2 = 0 ∧ pixels info * 3 < UInt32.size := by
  rw [dataSize_eq bpp, rgbSize_eq]
  exact asserted_wrapped_iff (UInt32.toNat_lt _)

section Run

variable {info : CameraInfo}

/-- With the assertions, a turn comes to its end in any case. -/
theorem snapshot_returns (format : info.pFmt = .yuyv) (bpp : info.bpp = 2)
    (asserted : Asserted (dataSize info).toNat (rgbSize info).toNat)
    (turn : Turn) : ∃ saved, (snapshot info turn).result = .ok saved := by
  by_cases read : turn.code = .rcOk
  · cases opened : turn.file.opens with
    | false =>
        refine ⟨(.rcFail, []), ?_⟩
        rw [snapshot, if_neg (not_not.mpr read), format]
        simp only [saveYUYV, check, if_pos bpp, if_pos opened]
        rfl
    | true =>
        obtain ⟨-, saved, result, -⟩ :=
          snapshot_of_asserted format bpp read opened asserted
        exact ⟨saved, result⟩
  · refine ⟨(turn.code, []), ?_⟩
    rw [snapshot, if_pos read]
    rfl

private theorem snapshots_return (format : info.pFmt = .yuyv) (bpp : info.bpp = 2)
    (asserted : Asserted (dataSize info).toNat (rgbSize info).toNat)
    (turns : Nat → Turn) (count i : Nat) (rc : Retcode) :
    ∃ ended, (snapshots info turns count i rc).result = .ok ended := by
  induction count generalizing i rc with
  | zero => exact ⟨(rc, []), rfl⟩
  | succ count induction =>
      obtain ⟨saved, taken⟩ := snapshot_returns format bpp asserted (turns i)
      obtain ⟨later, ended⟩ := induction (i + 1) saved.1
      refine ⟨(later.1, saved.2 :: later.2), ?_⟩
      rw [snapshots]
      apply bind_result_ok.mpr
      refine ⟨saved, taken, ?_⟩
      apply bind_result_ok.mpr
      exact ⟨later, ended, rfl⟩

/-- No assertion stops `MakeSnapshots` on frames of an even number of pixels whose
image has a size in 32 bits, whatever the camera and the files do. -/
theorem makeSnapshots_returns (outside : Surroundings)
    (format : outside.getInfo.2.pFmt = .yuyv)
    (bpp : outside.getInfo.2.bpp = 2)
    (even : pixels outside.getInfo.2 % 2 = 0)
    (small : pixels outside.getInfo.2 * 3 < UInt32.size) :
    ∃ ended, (makeSnapshots outside).result = .ok ended := by
  have asserted := (asserted_iff bpp).mpr ⟨even, small⟩
  unfold makeSnapshots
  simp only [format]
  split
  · exact ⟨_, rfl⟩
  · split
    · exact ⟨_, rfl⟩
    · exact snapshots_return format bpp asserted _ _ _ _

end Run

/-- A snapshot with a YUYV profile that `ConfigureCamera` has selected reads and
writes exactly its two buffers, and no assertion fails, if and only if the number of
pixels is even and the image has a size in 32 bits. -/
theorem yuyv_snapshot_exact_iff (info : CameraInfo)
    (selectable : CanSelect maxHeightYuyv .yuyv info) (bpp : info.bpp = 2)
    (turn : Turn) (read : turn.code = .rcOk)
    (opened : turn.file.opens = true) :
    ConvertsExactly info (snapshot info turn) ↔
      pixels info % 2 = 0 ∧ pixels info * 3 < UInt32.size := by
  have format := (admissible_of_canSelect selectable).1
  rw [snapshot_exact_iff format bpp read opened, asserted_iff bpp]

/-- A frame of zeros, and a file that takes everything. -/
def blackTurn (written : Nat) : Turn where
  code := .rcOk
  frame _ := 0
  file := { opens := true, written := written }

def qvga : CameraInfo where
  pFmt := .yuyv
  resX := 320
  resY := 240
  bpp := 2
  fps := 30

theorem qvga_snapshot_exact :
    ConvertsExactly qvga (snapshot qvga (blackTurn 230400)) := by
  have admissible : Admissible maxHeightYuyv .yuyv qvga := by
    refine ⟨rfl, ?_, ?_⟩
    · decide
    · decide
  apply (yuyv_snapshot_exact_iff qvga (canSelect_of_admissible admissible) rfl
    (blackTurn 230400) rfl rfl).mpr
  refine ⟨?_, ?_⟩
  · decide
  · decide

/-- Both sides odd. -/
def oddProfile : CameraInfo where
  pFmt := .yuyv
  resX := 161
  resY := 121
  bpp := 2
  fps := 30

/-- `ConfigureCamera` can select a profile with which an assertion fails. -/
theorem odd_snapshot_fails :
    CanSelect maxHeightYuyv .yuyv oddProfile ∧ oddProfile.bpp = 2 ∧
      (snapshot oddProfile (blackTurn 58443)).result =
        .error (.assertion .yuyvSize) ∧
      ¬ ∀ info, CanSelect maxHeightYuyv .yuyv info → info.bpp = 2 →
        ∀ turn : Turn, turn.code = .rcOk → turn.file.opens = true →
          ConvertsExactly info (snapshot info turn) := by
  have selectable : CanSelect maxHeightYuyv .yuyv oddProfile := by
    apply canSelect_of_admissible
    refine ⟨rfl, ?_, ?_⟩
    · decide
    · decide
  have fails : (snapshot oddProfile (blackTurn 58443)).result =
      .error (.assertion .yuyvSize) := rfl
  refine ⟨selectable, rfl, fails, ?_⟩
  intro converts
  obtain ⟨saved, returned⟩ :=
    (converts oddProfile selectable rfl (blackTurn 58443) rfl rfl).returns
  rw [fails] at returned
  cases returned

end KosCeExtra.Camera
