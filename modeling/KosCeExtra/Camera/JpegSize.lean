import KosCeExtra.Library.CheckedBuffer

/-!
# The end of a JPEG frame

A transcription of `GetJpegSize` from
`examples/uvc_camera_stills/client/src/main.c`.  The frame buffer is read only
and every read is bounds-checked.  The outer loop walks from marker to marker,
and the inner loop skips entropy-coded data.  Both hand the index to each
other, and since neither moves it back the loops terminate.

`SaveMJPEG` passes a size that was computed as a `uint32_t`, so the index
cannot wrap around in a 64-bit `size_t` and is a natural number here.
-/

namespace KosCeExtra.Camera

def jpegPadding : UInt8 := 0xff
def jpegFF : UInt8 := 0x00
def jpegSOI : UInt8 := 0xd8
def jpegEOI : UInt8 := 0xd9
def jpegTEM : UInt8 := 0x01
def jpegRST0 : UInt8 := 0xd0
def jpegRST7 : UInt8 := 0xd7
def jpegSOS : UInt8 := 0xda

/-- `JpegRST0 ... JpegRST7` -/
def isRst (byte : UInt8) : Bool :=
  jpegRST0 ≤ byte && byte ≤ jpegRST7

def byteAt (jpeg : List UInt8) (i : Nat) : Except Fault UInt8 :=
  match jpeg[i]? with
  | some byte => .ok byte
  | none => .error (.load i)

/-- `be16toh(*(uint16_t *)&jpeg[i])` -/
def be16At (jpeg : List UInt8) (i : Nat) : Except Fault Nat := do
  let high ← byteAt jpeg i
  let low ← byteAt jpeg (i + 1)
  pure (high.toNat * 256 + low.toNat)

/-- The cases of the outer `switch`. -/
inductive MarkerKind where
  | bare
  | scan
  | segment
  | endOfImage
  deriving DecidableEq, Repr

def markerKind (byte : UInt8) : MarkerKind :=
  if byte = jpegPadding ∨ byte = jpegSOI ∨ byte = jpegTEM ∨ isRst byte then
    .bare
  else if byte = jpegSOS then
    .scan
  else if byte = jpegEOI then
    .endOfImage
  else
    .segment

/-- The inner loop, which ends behind a `0xff` that starts a marker, or at the
last byte. -/
def skipEntropy (jpeg : List UInt8) (size i : Nat) : Except Fault Nat :=
  if i < size - 1 then
    match byteAt jpeg i with
    | .error fault => .error fault
    | .ok byte =>
        if byte ≠ jpegPadding then
          skipEntropy jpeg size (i + 1)
        else
          match byteAt jpeg (i + 1) with
          | .error fault => .error fault
          | .ok next =>
              if next = jpegFF ∨ isRst next then
                skipEntropy jpeg size (i + 1)
              else
                .ok (i + 1)
  else
    .ok i
termination_by size - i

private theorem skipEntropy_ge {jpeg : List UInt8} {size i next : Nat}
    (skipped : skipEntropy jpeg size i = .ok next) : i ≤ next := by
  induction i using skipEntropy.induct jpeg size with
  | case1 i inside fault read => simp [skipEntropy, inside, read] at skipped
  | case2 i inside byte read plain induction =>
      rw [skipEntropy, if_pos inside, read] at skipped
      simp only [if_pos plain] at skipped
      have := induction skipped
      omega
  | case3 i inside byte read marker fault readNext =>
      rw [skipEntropy, if_pos inside, read] at skipped
      simp [if_neg marker, readNext] at skipped
  | case4 i inside byte read marker following readNext stuffed induction =>
      rw [skipEntropy, if_pos inside, read] at skipped
      simp only [if_neg marker, readNext, if_pos stuffed] at skipped
      have := induction skipped
      omega
  | case5 i inside byte read marker following readNext notStuffed =>
      rw [skipEntropy, if_pos inside, read] at skipped
      simp only [if_neg marker, readNext, if_neg notStuffed] at skipped
      cases skipped
      omega
  | case6 i outside =>
      rw [skipEntropy, if_neg outside] at skipped
      cases skipped
      omega

/-- The outer loop from index `i` on. -/
def getJpegSizeFrom (jpeg : List UInt8) (size i : Nat) : Except Fault Nat :=
  if i < size then
    match byteAt jpeg i with
    | .error fault => .error fault
    | .ok byte =>
        match markerKind byte with
        | .bare => getJpegSizeFrom jpeg size (i + 1)
        | .scan =>
            match skipped : skipEntropy jpeg size (i + 1) with
            | .error fault => .error fault
            | .ok next =>
                have := skipEntropy_ge skipped
                getJpegSizeFrom jpeg size next
        | .segment =>
            if i + 1 + 2 ≥ size then
              .ok 0
            else
              match be16At jpeg (i + 1) with
              | .error fault => .error fault
              | .ok length => getJpegSizeFrom jpeg size (i + 1 + length)
        | .endOfImage => .ok (i + 1)
  else
    .ok 0
termination_by size - i

def getJpegSize (jpeg : List UInt8) (size : Nat) : Except Fault Nat :=
  getJpegSizeFrom jpeg size 0

inductive Retcode where
  | rcOk
  | rcFail
  | rcResourceNotFound
  | other (code : Nat)
  deriving DecidableEq, Repr

/-- The file of `SaveMJPEG`: whether `fopen` succeeds, and what `fwrite` says
it has written. -/
structure OutputFile where
  opens : Bool
  written : Nat

/-- The bytes `fwrite` takes from a buffer. -/
def bytesUpTo (data : List UInt8) (count : Nat) : Except Fault (List UInt8) :=
  if count ≤ data.length then
    .ok (data.take count)
  else
    .error (.load data.length)

/-- `SaveMJPEG`, with the bytes it hands to `fwrite`. -/
def saveMJPEG (file : OutputFile) (data : List UInt8) (size : Nat) :
    Except Fault (Retcode × List UInt8) := do
  let actualSize ← getJpegSize data size
  if actualSize = 0 ∨ file.opens = false then
    pure (.rcFail, [])
  else
    let frame ← bytesUpTo data actualSize
    pure (if file.written ≠ actualSize then .rcFail else .rcOk, frame)

end KosCeExtra.Camera
