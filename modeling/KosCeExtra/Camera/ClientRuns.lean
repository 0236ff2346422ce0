import KosCeExtra.Camera.Client
import KosCeExtra.Camera.JpegScan
import KosCeExtra.Camera.SnapshotSizes

/-!
# What the camera client keeps to

The camera library expects its calls in order: a port is opened before it is asked for
anything, a profile is selected and looked at before the stream is enabled, frames of
its size are read while it is enabled, and what was opened is closed before the library
is done with.  A monitor says this order, and the client keeps to it whatever the
library replies.
-/

namespace KosCeExtra.Camera

open Dialogue Monitor

/-- What the client knows of the profile of the port that is open. -/
inductive Knows where
  | nothing
  | selected
  | info (info : CameraInfo)
  deriving DecidableEq, Repr

/-- How far the client has come with the library. -/
inductive Stage where
  | off
  | ready
  | opened (port : CameraHandle) (knows : Knows)
  /-- the stream is enabled, for so many more frames -/
  | streaming (port : CameraHandle) (info : CameraInfo) (frames : Nat)
  | closed (rc : Retcode)
  /-- the library is done with, behind a port that could be closed or not -/
  | ended (released : Bool)
  deriving DecidableEq, Repr

/-- A call for the port that is open. -/
def onPort (camera port : CameraHandle) (next : Stage) : Option Stage :=
  if camera = port then some next else none

/-- The info of a profile that has just been selected. -/
def Knows.told (knows : Knows) (reply : Retcode × CameraInfo) : Knows :=
  if knows = .nothing ∨ reply.1 ≠ .rcOk then knows else .info reply.2

def discipline : Monitor CameraCall CameraReply Stage
  | .off, ⟨.cameraInit, rc⟩ =>
      some (if rc = .rcOk then .ready else .ended false)
  | .ready, ⟨.cameraEnumPorts, _⟩ => some .ready
  | .ready, ⟨.cameraOpenPort _, (rc, camera)⟩ =>
      some (if rc = .rcOk then .opened camera .nothing else .ready)
  | .ready, ⟨.cameraFini, _⟩ => some (.ended false)
  | .opened port knows, ⟨.cameraGetCtrlInfo camera _, _⟩ =>
      onPort camera port (.opened port knows)
  | .opened port knows, ⟨.cameraGetCtrlValue camera _, _⟩ =>
      onPort camera port (.opened port knows)
  | .opened port _, ⟨.profiles camera (.cameraEnumProfiles _), _⟩ =>
      onPort camera port (.opened port .nothing)
  | .opened port _, ⟨.profiles camera (.cameraSelectProfile _), rc⟩ =>
      onPort camera port
        (.opened port (if rc = .rcOk then .selected else .nothing))
  | .opened port knows, ⟨.cameraGetInfo camera, reply⟩ =>
      onPort camera port (.opened port (knows.told reply))
  | .opened port (.info info), ⟨.cameraEnable camera, rc⟩ =>
      onPort camera port
        (if rc = .rcOk then .streaming port info snapshotCount
        else .opened port (.info info))
  | .streaming port info (frames + 1), ⟨.cameraReadFrame camera size, _⟩ =>
      if size = dataSize info then
        onPort camera port (.streaming port info frames)
      else
        none
  | .streaming port _ 0, ⟨.cameraDisable camera, _⟩ =>
      onPort camera port (.opened port .nothing)
  | .opened port _, ⟨.cameraClosePort camera, rc⟩ =>
      onPort camera port (.closed rc)
  | .closed rc, ⟨.cameraFini, _⟩ => some (.ended (rc = .rcOk))
  | _, _ => none

/-- A profile that the conversion from YUYV has not been written for. -/
def Awkward (info : CameraInfo) : Prop :=
  info.pFmt = .yuyv ∧
    ¬ (info.bpp = 2 ∧ pixels info % 2 = 0 ∧ pixels info * 3 < UInt32.size)

/-- Where the client may be held up: by a loop while nothing is enabled, or by a
snapshot of an awkward profile. -/
def HeldUp : Interruption → Stage → Prop
  | .attempts, stage => stage = .ready ∨ ∃ port knows, stage = .opened port knows
  | .stop _, stage => ∃ port info frames, stage = .streaming port info frames ∧
      frames < snapshotCount ∧ Awkward info

/-- A program of the client keeps to the order. -/
abbrev Keeps (stage : Stage) (program : ClientProgram α)
    (Post : α → Stage → Prop) : Prop :=
  Watches discipline stage program.run (Either Post HeldUp)

/-- The port is open. -/
def Stage.IsOpen (port : CameraHandle) (stage : Stage) : Prop :=
  ∃ knows, stage = .opened port knows

variable {port : CameraHandle} {knows : Knows}

theorem keeps_call {stage : Stage} {made : CameraCall}
    {Post : CameraReply made → Stage → Prop}
    (accepts : ∀ reply, ∃ next, discipline stage ⟨made, reply⟩ = some next ∧
      Post reply next) : Keeps stage (call made) Post :=
  .lift (.ask accepts)

theorem keeps_finished {stage : Stage}
    {loop : Dialogue CameraCall CameraReply (Option α)}
    {Post : α → Stage → Prop}
    (watches : Watches discipline stage loop
      (Settled Post (HeldUp .attempts))) :
    Keeps stage (finished loop) Post := by
  apply Watches.bindExcept (.lift watches)
  intro result next holds
  cases result with
  | some value => exact .pureExcept holds
  | none => exact .throwExcept holds

theorem keeps_interrogateControls (count index : Nat) :
    Keeps (.opened port knows) (interrogateControls port count index)
      fun _ next => next = .opened port knows := by
  induction count generalizing index with
  | zero => exact .pureExcept rfl
  | succ count induction =>
      apply Watches.bindExcept
        (M := fun _ next => next = .opened port knows)
      · apply keeps_call
        intro reply
        exact ⟨_, if_pos rfl, rfl⟩
      · intro rc next same
        rw [same]
        apply Watches.iteExcept
        · intro _
          apply Watches.bindExcept
            (M := fun _ next => next = .opened port knows)
          · apply keeps_call
            intro reply
            exact ⟨_, if_pos rfl, rfl⟩
          · intro _ next same
            rw [same]
            exact induction (index + 1)
        · intro _
          exact induction (index + 1)

theorem keeps_interrogateProfiles (attempts : Nat) :
    Keeps (.opened port knows) (interrogateProfiles port attempts)
      fun _ next => next.IsOpen port := by
  apply keeps_finished
  apply Watches.retry (I := fun _ reached => reached.IsOpen port)
  · intro i reached isOpen reply
    obtain ⟨knows, rfl⟩ := isOpen
    refine ⟨.opened port .nothing, if_pos rfl, ?_⟩
    by_cases more : reply.1 = .rcOk
    · rw [if_pos more]
      exact ⟨.nothing, rfl⟩
    · rw [if_neg more]
      exact ⟨.nothing, rfl⟩
  · intro i reached isOpen
    obtain ⟨knows, rfl⟩ := isOpen
    exact .inr ⟨port, knows, rfl⟩
  · exact ⟨knows, rfl⟩

/-- `InterrogateCamera` never fails. -/
theorem keeps_interrogateCamera (library : Library) (attempts : Nat) :
    Keeps (.opened port knows) (interrogateCamera library attempts port)
      fun rc next => rc = .rcOk ∧ next.IsOpen port := by
  apply Watches.bindExcept (keeps_interrogateControls _ 0)
  intro _ next same
  rw [same]
  apply Watches.bindExcept (keeps_interrogateProfiles attempts)
  intro _ next isOpen
  exact .pureExcept ⟨rfl, isOpen⟩

/-- A profile is selected, where the code says so, and the port stays open. -/
theorem watches_configureCamera (height : Nat) (pFmt : CameraPixelFormat)
    (attempts : Nat) :
    Watches (discipline.within (.profiles port)) (.opened port knows)
      (configureCamera height pFmt attempts)
      (Settled (fun rc next => next.IsOpen port ∧
        (rc = .rcOk → next = .opened port .selected)) (HeldUp .attempts)) := by
  apply Watches.bind (M := Settled
    (fun ended next => ended.1 ≠ .rcOk ∧ next.IsOpen port) (HeldUp .attempts))
  · apply Watches.retry (I := fun _ reached => reached.IsOpen port)
    · intro scan reached isOpen reply
      obtain ⟨knows, rfl⟩ := isOpen
      refine ⟨.opened port .nothing, if_pos rfl, ?_⟩
      by_cases more : reply.1 = .rcOk
      · rw [scanTurn, if_pos more]
        exact ⟨.nothing, rfl⟩
      · rw [scanTurn, if_neg more]
        exact ⟨more, .nothing, rfl⟩
    · intro scan reached isOpen
      obtain ⟨knows, rfl⟩ := isOpen
      exact .inr ⟨port, knows, rfl⟩
    · exact ⟨knows, rfl⟩
  · intro result next mid
    cases result with
    | none => exact .pure mid
    | some ended =>
        obtain ⟨rc, scan⟩ := ended
        obtain ⟨notOk, isOpen⟩ := mid
        apply Watches.ite
        · intro _
          exact .pure ⟨isOpen, fun isOk => absurd isOk notOk⟩
        · intro _
          apply Watches.ite
          · intro _
            refine .pure ⟨isOpen, fun impossible => ?_⟩
            cases impossible
          · intro _
            obtain ⟨knows, rfl⟩ := isOpen
            apply Watches.bind (M := fun rc next =>
              next = .opened port
                (if rc = .rcOk then .selected else .nothing))
            · apply Watches.ask
              intro rc
              exact ⟨_, if_pos rfl, rfl⟩
            · intro rc next same
              rw [same]
              refine .pure ⟨⟨_, rfl⟩, fun isOk => ?_⟩
              rw [if_pos isOk]

/-- Whatever a frame buffer holds, `SaveMJPEG` comes to its end. -/
theorem saveMJPEG_returns (file : OutputFile) (jpeg : List UInt8) :
    ∃ saved, saveMJPEG file jpeg jpeg.length = .ok saved := by
  obtain ⟨n, sized⟩ := getJpegSizeFrom_total (Nat.le_refl jpeg.length) 0
  have within : n ≤ jpeg.length := by
    rcases MarkerAt.start.ends sized with rfl | ⟨last, -, inside, -, rfl⟩
    · exact Nat.zero_le _
    · exact inside
  obtain ⟨rc, frame, saved, -⟩ := saveMJPEG_writes sized within file
  exact ⟨(rc, frame), saved⟩

/-- The conversion can only be stopped by an awkward profile. -/
theorem awkward_of_stop {info : CameraInfo} {turn : Turn} {stop : Stop}
    (supported : ∀ code, info.pFmt ≠ .other code)
    (stopped : (snapshot info turn).result = .error stop) : Awkward info := by
  by_contra regular
  have returns : ∃ saved, (snapshot info turn).result = .ok saved := by
    cases format : info.pFmt with
    | yuyv =>
        have suits : info.bpp = 2 ∧ pixels info % 2 = 0 ∧
            pixels info * 3 < UInt32.size := by
          by_contra unsuited
          exact regular ⟨format, unsuited⟩
        exact snapshot_returns format suits.1
          ((asserted_iff suits.1).mpr suits.2) turn
    | mjpeg =>
        obtain ⟨saved, returned⟩ := saveMJPEG_returns turn.file (turn.data info)
        rw [snapshot, format]
        by_cases read : turn.code = .rcOk
        · rw [if_neg (not_not.mpr read)]
          refine ⟨saved, ?_⟩
          have size : (dataSize info).toNat = (turn.data info).length := by
            simp [Turn.data]
          simp only [size, returned]
          rfl
        · rw [if_pos read]
          exact ⟨_, rfl⟩
    | other code => exact absurd format (supported code)
  obtain ⟨saved, returned⟩ := returns
  cases returned.symm.trans stopped

theorem keeps_snapshotTurns (info : CameraInfo) (count : Nat) (rc : Retcode)
    (supported : ∀ code, info.pFmt ≠ .other code)
    (few : count ≤ snapshotCount) :
    Keeps (.streaming port info count) (snapshotTurns port info count rc)
      fun made next => next = .streaming port info 0 ∧
        made.2.length = count := by
  induction count generalizing rc with
  | zero => exact .pureExcept ⟨rfl, rfl⟩
  | succ count induction =>
      apply Watches.bindExcept
        (M := fun _ next => next = .streaming port info count)
      · apply keeps_call
        intro reply
        refine ⟨.streaming port info count, ?_, rfl⟩
        simp [discipline, onPort]
      · intro turn next same
        rw [same]
        cases made : (snapshot info turn).result with
        | error stop =>
            have awkward := awkward_of_stop supported made
            simp only
            exact .throwExcept ⟨port, info, count, rfl, few, awkward⟩
        | ok shot =>
            obtain ⟨rc, file⟩ := shot
            simp only
            apply Watches.bindExcept (induction rc (Nat.le_of_succ_le few))
            intro rest next all
            exact .pureExcept ⟨all.1, congrArg Nat.succ all.2⟩

theorem keeps_enableAndRead (info : CameraInfo)
    (supported : ∀ code, info.pFmt ≠ .other code) :
    Keeps (.opened port (.info info)) (enableAndRead port info)
      fun made next => next.IsOpen port ∧ made.2.length ≤ snapshotCount := by
  apply Watches.bindExcept (M := fun rc next => next =
    if rc = .rcOk then .streaming port info snapshotCount
    else .opened port (.info info))
  · apply keeps_call
    intro rc
    exact ⟨_, if_pos rfl, rfl⟩
  · intro rc next same
    rw [same]
    apply Watches.iteExcept
    · intro failed
      rw [if_neg failed]
      exact .pureExcept ⟨⟨.info info, rfl⟩, Nat.zero_le _⟩
    · intro enabled
      rw [if_pos (not_not.mp enabled)]
      apply Watches.bindExcept (keeps_snapshotTurns info snapshotCount .rcOk
        supported (Nat.le_refl _))
      intro made next all
      rw [all.1]
      apply Watches.bindExcept (M := fun _ next => next.IsOpen port)
      · apply keeps_call
        intro reply
        exact ⟨_, if_pos rfl, ⟨.nothing, rfl⟩⟩
      · intro _ next isOpen
        exact .pureExcept ⟨isOpen, Nat.le_of_eq all.2⟩

theorem keeps_makeCameraSnapshots (library : Library) :
    Keeps (.opened port .selected) (makeCameraSnapshots library port)
      fun made next => next.IsOpen port ∧ made.2.length ≤ snapshotCount := by
  apply Watches.bindExcept (M := fun reply next =>
    next = .opened port (Knows.selected.told reply))
  · apply keeps_call
    intro reply
    exact ⟨_, if_pos rfl, rfl⟩
  · intro reply next same
    obtain ⟨rc, info⟩ := reply
    rw [same]
    apply Watches.iteExcept
    · intro _
      exact .pureExcept ⟨⟨_, rfl⟩, Nat.zero_le _⟩
    · intro success
      have told : Knows.selected.told (rc, info) = .info info := by
        apply if_neg
        intro impossible
        rcases impossible with impossible | failed
        · cases impossible
        · exact success failed
      rw [told]
      cases format : info.pFmt with
      | yuyv =>
          simp only
          apply keeps_enableAndRead info
          simp [format]
      | mjpeg =>
          simp only
          apply keeps_enableAndRead info
          simp [format]
      | other code =>
          simp only
          exact .pureExcept ⟨⟨_, rfl⟩, Nat.zero_le _⟩

theorem keeps_captureFormat (library : Library) (attempts height : Nat)
    (pFmt : CameraPixelFormat) :
    Keeps (.opened port knows)
      (captureFormat library attempts port height pFmt)
      fun files next => next.IsOpen port ∧ files.length ≤ snapshotCount := by
  apply Watches.bindExcept (M := fun rc next => next.IsOpen port ∧
    (rc = .rcOk → next = .opened port .selected))
  · exact keeps_finished
      (.embed (watches_configureCamera height pFmt attempts))
  · intro rc next mid
    obtain ⟨isOpen, selects⟩ := mid
    apply Watches.iteExcept
    · intro _
      exact .pureExcept ⟨isOpen, Nat.zero_le _⟩
    · intro _
      apply Watches.iteExcept
      · intro isOk
        rw [selects isOk]
        apply Watches.bindExcept (keeps_makeCameraSnapshots library)
        intro made next all
        exact .pureExcept all
      · intro _
        exact .pureExcept ⟨isOpen, Nat.zero_le _⟩

/-- Without a port that could be opened nothing was captured; else the port is closed
and its code is the code of the whole. -/
def Captured (made : Retcode × List (List UInt8)) (stage : Stage) : Prop :=
  (stage = .ready ∧ made.1 ≠ .rcOk ∧ made.2 = []) ∨
    stage = .closed made.1 ∧ made.2.length ≤ 2 * snapshotCount

theorem keeps_captureCameraSnapshots (library : Library) (attempts : Nat) :
    Keeps .ready (captureCameraSnapshots library attempts) Captured := by
  apply Watches.bindExcept (M := fun _ next => next = .ready)
  · apply keeps_finished
    apply Watches.retry (I := fun _ reached => reached = .ready)
    · intro _ reached ready reply
      rw [ready]
      refine ⟨.ready, rfl, ?_⟩
      by_cases missing : reply.1 = .rcResourceNotFound
      · rw [if_pos missing]
        rfl
      · rw [if_neg missing]
        rfl
    · intro _ reached ready
      exact .inl ready
    · rfl
  · intro found next ready
    rw [ready]
    apply Watches.iteExcept
    · intro failed
      exact .pureExcept (.inl ⟨rfl, failed, rfl⟩)
    · intro _
      apply Watches.bindExcept (M := fun reply next =>
        next = if reply.1 = .rcOk then .opened reply.2 .nothing else .ready)
      · apply keeps_call
        intro reply
        exact ⟨_, rfl, rfl⟩
      · intro reply next same
        rw [same]
        apply Watches.iteExcept
        · intro failed
          rw [if_neg failed]
          exact .pureExcept (.inl ⟨rfl, failed, rfl⟩)
        · intro success
          rw [if_pos (not_not.mp success)]
          apply Watches.bindExcept (keeps_interrogateCamera library attempts)
          intro rc next asked
          obtain ⟨isOk, knows, rfl⟩ := asked
          apply Watches.iteExcept
          · intro failed
            exact absurd isOk failed
          · intro _
            apply Watches.bindExcept (keeps_captureFormat library attempts _ _)
            intro mjpeg next first
            obtain ⟨⟨knows, rfl⟩, fewMjpeg⟩ := first
            apply Watches.bindExcept (keeps_captureFormat library attempts _ _)
            intro yuyv next second
            obtain ⟨⟨knows, rfl⟩, fewYuyv⟩ := second
            apply Watches.bindExcept (M := fun rc next => next = .closed rc)
            · apply keeps_call
              intro rc
              exact ⟨_, if_pos rfl, rfl⟩
            · intro rc next closed
              refine .pureExcept (.inr ⟨closed, ?_⟩)
              rw [List.length_append]
              omega

theorem keeps_main (library : Library) (attempts : Nat) :
    Keeps .off (main library attempts) fun made next =>
      next = .ended (made.1 = .success) ∧
        made.2.length ≤ 2 * snapshotCount := by
  apply Watches.bindExcept (M := fun rc next =>
    next = if rc = .rcOk then .ready else .ended false)
  · apply keeps_call
    intro rc
    exact ⟨_, rfl, rfl⟩
  · intro rc next same
    rw [same]
    apply Watches.iteExcept
    · intro failed
      rw [if_neg failed]
      exact .pureExcept ⟨rfl, Nat.zero_le _⟩
    · intro success
      rw [if_pos (not_not.mp success)]
      apply Watches.bindExcept (keeps_captureCameraSnapshots library attempts)
      intro made next captured
      obtain ⟨rc, files⟩ := made
      rcases captured with ⟨rfl, failed, rfl⟩ | ⟨rfl, few⟩
      · apply Watches.bindExcept (M := fun _ next => next = .ended false)
        · apply keeps_call
          intro _
          exact ⟨_, rfl, rfl⟩
        · intro _ next isOver
          rw [isOver]
          refine .pureExcept ⟨?_, Nat.zero_le _⟩
          rw [if_pos failed]
          rfl
      · apply Watches.bindExcept
          (M := fun _ next => next = .ended (rc = .rcOk))
        · apply keeps_call
          intro _
          exact ⟨_, rfl, rfl⟩
        · intro _ next isOver
          rw [isOver]
          refine .pureExcept ⟨?_, few⟩
          by_cases isOk : rc = .rcOk
          · rw [if_neg (not_not.mpr isOk)]
            simp [isOk]
          · rw [if_pos isOk]
            simp [isOk]

/-- Whatever the camera library replies, the client makes its calls in the order that
the library expects, and where it comes to its end every port that it has opened is
closed and the library is done with. -/
theorem main_keeps_order (library : Library) (attempts : Nat)
    (world : World CameraCall CameraReply) :
    ∃ stage,
      discipline.after .off ((main library attempts).run.run world []).2 =
        some stage ∧
      Either (fun made next => next = .ended (made.1 = .success) ∧
          made.2.length ≤ 2 * snapshotCount)
        HeldUp ((main library attempts).run.run world []).1 stage :=
  keeps_main library attempts .off world [] rfl

end KosCeExtra.Camera
