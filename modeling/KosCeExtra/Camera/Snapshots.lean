import KosCeExtra.Camera.ConfigureCamera
import KosCeExtra.Library.Traced

/-!
# Snapshots

A transcription of `YUYVToRGB`, `SaveYUYV` and `MakeSnapshots` from
`examples/uvc_camera_stills/client/src/main.c`.  The conversion leaves a record of
the bytes it reads and writes; an access outside of its buffer and an assertion that
fails stop the program.  `MakeSnapshots` computes the size of the frame buffer, and
`SaveYUYV` the size of the image, in 32-bit arithmetic; both are `size_t`s then, and
nothing wraps around in the conversion.

What the camera and the file do comes in from outside, by the turn of the loop.  That
memory could be allocated is taken for granted, and a new image is filled with zeros.
The log output, the names of the files and the release of resources are left out.
-/

namespace KosCeExtra.Camera

/-- `MAX_HEIGHT_YUYV` -/
def maxHeightYuyv : Nat := 240

/-- `SNAPSHOT_COUNT` -/
def snapshotCount : Nat := 3

/-- An access of the conversion, to the frame or to the image. -/
inductive Access where
  | load (index : Nat)
  | store (index : Nat)
  deriving DecidableEq, Repr

/-- The assertions, by what they look at. -/
inductive Assertion where
  | yuyvSize
  | rgbSize
  | pixelCount
  | bytesPerPixel
  | unreachable
  deriving DecidableEq, Repr

inductive Stop where
  | assertion (failed : Assertion)
  | fault (fault : Fault)
  deriving DecidableEq, Repr

abbrev Program := Traced Access Stop

def check (assertion : Assertion) (condition : Prop) [Decidable condition] :
    Program Unit :=
  if condition then pure () else ⟨[], .error (.assertion assertion)⟩

def loadByte (yuyv : List UInt8) (index : Nat) : Program UInt8 :=
  Traced.call (.load index)
    (match yuyv[index]? with
    | some byte => .ok byte
    | none => .error (.fault (.load index)))

def storeByte (rgb : List UInt8) (index : Nat) (byte : UInt8) :
    Program (List UInt8) :=
  Traced.call (.store index)
    (if index < rgb.length then .ok (rgb.set index byte)
    else .error (.fault (.store index)))

def rtlMin (a b : Float) : Float :=
  if a < b then a else b

def rtlMax (a b : Float) : Float :=
  if a > b then a else b

/-- `clamp_u8` -/
def clampU8 (x : Float) : UInt8 :=
  (rtlMax 0 (rtlMin x 255)).toUInt8

/-- A byte with an offset taken off, which a `float` holds exactly. -/
def centred (byte : UInt8) (offset : Int) : Float :=
  Float.ofInt (byte.toNat - offset)

/-- `dst[pixel]`, from its brightness and the colour of the pair. -/
def storePixel (rgb : List UInt8) (pixel : Nat) (y u v : Float) :
    Program (List UInt8) := do
  let rgb ← storeByte rgb (3 * pixel)
    (clampU8 (y * 1.00 + u * 0.00 + v * 1.28))
  let rgb ← storeByte rgb (3 * pixel + 1)
    (clampU8 (y * 1.00 + u * -0.21 + v * -0.38))
  storeByte rgb (3 * pixel + 2)
    (clampU8 (y * 1.00 + u * 2.13 + v * 0.00))

/-- The body of the loop: `src[i]` is a pair of pixels in four bytes. -/
def convertPair (yuyv rgb : List UInt8) (i : Nat) : Program (List UInt8) := do
  let y1 ← loadByte yuyv (4 * i)
  let y2 ← loadByte yuyv (4 * i + 2)
  let u ← loadByte yuyv (4 * i + 1)
  let v ← loadByte yuyv (4 * i + 3)
  let rgb ← storePixel rgb (i * 2 + 0) (centred y1 16) (centred u 128)
    (centred v 128)
  storePixel rgb (i * 2 + 1) (centred y2 16) (centred u 128) (centred v 128)

/-- The loop for `count` pairs from the `i`-th on. -/
def convertPairs (yuyv : List UInt8) :
    Nat → Nat → List UInt8 → Program (List UInt8)
  | 0, _, rgb => pure rgb
  | count + 1, i, rgb => do
      let rgb ← convertPair yuyv rgb i
      convertPairs yuyv count (i + 1) rgb

/-- `YUYVToRGB`, with the image it leaves in `rgb`. -/
def yuyvToRGB (yuyv : List UInt8) (yuyvSize : Nat) (rgb : List UInt8)
    (rgbSize : Nat) : Program (List UInt8) := do
  check .yuyvSize (yuyvSize % 4 = 0)
  check .rgbSize (rgbSize % 3 = 0)
  check .pixelCount (yuyvSize / 4 * 2 = rgbSize / 3)
  convertPairs yuyv (yuyvSize / 4) 0 rgb

/-- `%7u` -/
def field7 (number : UInt32) : List Char :=
  List.leftpad 7 ' ' (Nat.toDigits 10 number.toNat)

def ppmHeader (info : CameraInfo) : List UInt8 :=
  ("P6\n\n".toList ++ field7 info.resX ++ [' '] ++ field7 info.resY ++
    "\n255\n".toList).map fun char => char.toNat.toUInt8

/-- The size of the image, from `SaveYUYV`. -/
def rgbSize (info : CameraInfo) : UInt32 :=
  info.resX * info.resY * 3

/-- `SaveYUYV`, with the bytes for the file. -/
def saveYUYV (file : OutputFile) (data : List UInt8) (size : Nat)
    (info : CameraInfo) : Program (Retcode × List UInt8) := do
  check .bytesPerPixel (info.bpp = 2)
  if file.opens = false then
    pure (.rcFail, [])
  else
    let rgbSize := (rgbSize info).toNat
    let rgb ← yuyvToRGB data size (List.replicate rgbSize 0) rgbSize
    pure (if file.written ≠ rgbSize then .rcFail else .rcOk,
      ppmHeader info ++ rgb)

/-- The size of the frame buffer, from `MakeSnapshots`. -/
def dataSize (info : CameraInfo) : UInt32 :=
  info.resX * info.resY * max info.bpp 1

/-- A turn of the loop as the outside sees it: the reply of `CameraReadFrame`, the
bytes in the frame buffer behind it, and the file for the image. -/
structure Turn where
  code : Retcode
  frame : Nat → UInt8
  file : OutputFile

/-- The frame buffer in a turn. -/
def Turn.data (turn : Turn) (info : CameraInfo) : List UInt8 :=
  (List.range (dataSize info).toNat).map turn.frame

def liftFault (result : Except Fault α) : Program α :=
  ⟨[], result.mapError .fault⟩

/-- The body of the loop in `MakeSnapshots`. -/
def snapshot (info : CameraInfo) (turn : Turn) :
    Program (Retcode × List UInt8) :=
  if turn.code ≠ .rcOk then
    pure (turn.code, [])
  else
    match info.pFmt with
    | .yuyv => saveYUYV turn.file (turn.data info) (dataSize info).toNat info
    | .mjpeg => liftFault
        (saveMJPEG turn.file (turn.data info) (dataSize info).toNat)
    | .other _ => ⟨[], .error (.assertion .unreachable)⟩

/-- The loop for `count` turns from the `i`-th on, with the code of the last one and
the files. -/
def snapshots (info : CameraInfo) (turns : Nat → Turn) :
    Nat → Nat → Retcode → Program (Retcode × List (List UInt8))
  | 0, _, rc => pure (rc, [])
  | count + 1, i, _ => do
      let (rc, file) ← snapshot info (turns i)
      let (last, files) ← snapshots info turns count (i + 1) rc
      pure (last, file :: files)

/-- What `MakeSnapshots` meets outside. -/
structure Surroundings where
  getInfo : Retcode × CameraInfo
  enable : Retcode
  turns : Nat → Turn
  /-- the number of `rcNoCapability` -/
  noCapability : Nat

/-- `MakeSnapshots`, with the code it returns and the files. -/
def makeSnapshots (outside : Surroundings) :
    Program (Retcode × List (List UInt8)) :=
  let (rc, info) := outside.getInfo
  if rc ≠ .rcOk then
    pure (rc, [])
  else
    match info.pFmt with
    | .other _ => pure (.other outside.noCapability, [])
    | .yuyv | .mjpeg =>
        if outside.enable ≠ .rcOk then
          pure (outside.enable, [])
        else
          snapshots info outside.turns snapshotCount 0 .rcOk

end KosCeExtra.Camera
