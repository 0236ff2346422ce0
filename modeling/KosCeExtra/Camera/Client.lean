import KosCeExtra.Camera.Snapshots
import KosCeExtra.Library.Monitor

/-!
# The camera client

The whole of `examples/uvc_camera_stills/client/src/main.c` as a dialogue with the
camera library: `main` waits for a camera, opens it, prints what it can do, makes
snapshots in both pixel formats, and closes it.  What becomes of a snapshot is
computed by the model of `MakeSnapshots`; an assertion that fails or an access outside
of a buffer ends the program where it is.

The two loops that wait for the library are run with a number of attempts.  Memory is
taken for granted, as in the model of `MakeSnapshots`: the source does not look at what
`malloc` returns.  The sleeps, the log output and the names of the files are left out.
-/

namespace KosCeExtra.Camera

open Dialogue

abbrev CameraHandle := Nat

/-- `MAX_HEIGHT_MJPEG` -/
def maxHeightMjpeg : Nat := 1080

inductive CameraCall where
  | cameraInit
  | cameraEnumPorts
  | cameraOpenPort (name : List Char)
  | cameraGetCtrlInfo (camera : CameraHandle) (index : Nat)
  | cameraGetCtrlValue (camera : CameraHandle) (index : Nat)
  | profiles (camera : CameraHandle) (call : Call)
  | cameraGetInfo (camera : CameraHandle)
  | cameraEnable (camera : CameraHandle)
  /-- the file for the snapshot comes with the frame -/
  | cameraReadFrame (camera : CameraHandle) (dataSize : UInt32)
  | cameraDisable (camera : CameraHandle)
  | cameraClosePort (camera : CameraHandle)
  | cameraFini
  deriving DecidableEq, Repr

abbrev CameraReply : CameraCall → Type
  | .cameraInit => Retcode
  | .cameraEnumPorts => Retcode × List Char
  | .cameraOpenPort _ => Retcode × CameraHandle
  | .cameraGetCtrlInfo _ _ => Retcode
  | .cameraGetCtrlValue _ _ => Retcode
  | .profiles _ call => Reply call
  | .cameraGetInfo _ => Retcode × CameraInfo
  | .cameraEnable _ => Retcode
  | .cameraReadFrame _ _ => Turn
  | .cameraDisable _ => Retcode
  | .cameraClosePort _ => Retcode
  | .cameraFini => Unit

abbrev CameraRecord := List (Exchange CameraCall CameraReply)

/-- Why the program is not at its end. -/
inductive Interruption where
  /-- a loop has not come to its end in its attempts -/
  | attempts
  | stop (stop : Stop)

abbrev ClientProgram :=
  ExceptT Interruption (Dialogue CameraCall CameraReply)

/-- The values of the headers of the library that the program depends on. -/
structure Library where
  /-- `CAMERA_CTRL_VFLIP` -/
  ctrlVflip : Nat
  /-- `rcNoCapability` -/
  noCapability : Nat

def call (call : CameraCall) : ClientProgram (CameraReply call) :=
  liftM (ask call : Dialogue CameraCall CameraReply _)

/-- The result of a loop that has come to its end. -/
def finished (loop : Dialogue CameraCall CameraReply (Option α)) :
    ClientProgram α := do
  match ← (liftM loop : ClientProgram (Option α)) with
  | some result => pure result
  | none => throw .attempts

/-- The loop of `MakeSnapshots`, for `count` more turns. -/
def snapshotTurns (camera : CameraHandle) (info : CameraInfo) :
    Nat → Retcode → ClientProgram (Retcode × List (List UInt8))
  | 0, rc => pure (rc, [])
  | count + 1, _ => do
      let turn ← call (.cameraReadFrame camera (dataSize info))
      match (snapshot info turn).result with
      | .error stop => throw (.stop stop)
      | .ok (rc, file) => do
          let (last, files) ← snapshotTurns camera info count rc
          pure (last, file :: files)

/-- `MakeSnapshots` for a format that it supports. -/
def enableAndRead (camera : CameraHandle) (info : CameraInfo) :
    ClientProgram (Retcode × List (List UInt8)) := do
  let rc ← call (.cameraEnable camera)
  if rc ≠ .rcOk then
    pure (rc, [])
  else do
    let made ← snapshotTurns camera info snapshotCount .rcOk
    let _ ← call (.cameraDisable camera)
    pure made

/-- `MakeSnapshots`, with the files. -/
def makeCameraSnapshots (library : Library) (camera : CameraHandle) :
    ClientProgram (Retcode × List (List UInt8)) := do
  let (rc, info) ← call (.cameraGetInfo camera)
  if rc ≠ .rcOk then
    pure (rc, [])
  else
    match info.pFmt with
    | .yuyv => enableAndRead camera info
    | .mjpeg => enableAndRead camera info
    | .other _ => pure (.other library.noCapability, [])

/-- The first loop of `InterrogateCamera`, for the control `index` and `count` more. -/
def interrogateControls (camera : CameraHandle) :
    Nat → Nat → ClientProgram Unit
  | 0, _ => pure ()
  | count + 1, index => do
      let rc ← call (.cameraGetCtrlInfo camera index)
      if rc = .rcOk then
        let _ ← call (.cameraGetCtrlValue camera index)
      interrogateControls camera count (index + 1)

/-- The second loop of `InterrogateCamera`. -/
def interrogateProfiles (camera : CameraHandle) (attempts : Nat) :
    ClientProgram Unit :=
  finished (retry (fun i : UInt32 => .profiles camera (.cameraEnumProfiles i))
    (fun i reply => if reply.1 = .rcOk then .inl (i + 1) else .inr ())
    attempts 0)

def interrogateCamera (library : Library) (attempts : Nat)
    (camera : CameraHandle) : ClientProgram Retcode := do
  interrogateControls camera (library.ctrlVflip + 1) 0
  interrogateProfiles camera attempts
  pure .rcOk

/-- The part of `CaptureCameraSnapshots` for one pixel format, with the files. -/
def captureFormat (library : Library) (attempts : Nat) (camera : CameraHandle)
    (height : Nat) (pFmt : CameraPixelFormat) :
    ClientProgram (List (List UInt8)) := do
  let rc ← finished (embed (.profiles camera)
    (configureCamera height pFmt attempts))
  if rc = .rcResourceNotFound then
    pure []
  else if rc = .rcOk then do
    let (_, files) ← makeCameraSnapshots library camera
    pure files
  else
    pure []

/-- `CaptureCameraSnapshots`, with the files. -/
def captureCameraSnapshots (library : Library) (attempts : Nat) :
    ClientProgram (Retcode × List (List UInt8)) := do
  let (rc, cameraName) ← finished (retry (fun _ : Unit => .cameraEnumPorts)
    (fun _ reply =>
      if reply.1 = .rcResourceNotFound then .inl () else .inr reply)
    attempts ())
  if rc ≠ .rcOk then
    pure (rc, [])
  else do
    let (rc, camera) ← call (.cameraOpenPort cameraName)
    if rc ≠ .rcOk then
      pure (rc, [])
    else do
      let rc ← interrogateCamera library attempts camera
      if rc ≠ .rcOk then
        -- the port stays open
        pure (rc, [])
      else do
        let mjpeg ← captureFormat library attempts camera maxHeightMjpeg .mjpeg
        let yuyv ← captureFormat library attempts camera maxHeightYuyv .yuyv
        let rc ← call (.cameraClosePort camera)
        pure (rc, mjpeg ++ yuyv)

inductive ExitStatus where
  | success
  | failure
  deriving DecidableEq, Repr

/-- `main`, with the files. -/
def main (library : Library) (attempts : Nat) :
    ClientProgram (ExitStatus × List (List UInt8)) := do
  let rc ← call .cameraInit
  if rc ≠ .rcOk then
    pure (.failure, [])
  else do
    let (rc, files) ← captureCameraSnapshots library attempts
    let _ ← call .cameraFini
    pure (if rc ≠ .rcOk then .failure else .success, files)

end KosCeExtra.Camera
