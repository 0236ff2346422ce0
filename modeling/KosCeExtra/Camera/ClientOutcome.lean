import KosCeExtra.Camera.ClientRuns

/-!
# How the camera client ends

What the monitor remembers of the calls tells what the exit status means, and when the
client can be stopped by an assertion.  The snapshots of the client are those of the
model of `MakeSnapshots`.
-/

namespace KosCeExtra.Camera

open Dialogue Monitor

variable {port : CameraHandle} {knows : Knows}

/-- Everything that the monitor accepts, call by call. -/
inductive Accepts : Stage → Exchange CameraCall CameraReply → Stage → Prop where
  | init (rc : Retcode) :
      Accepts .off ⟨.cameraInit, rc⟩ (if rc = .rcOk then .ready else .ended false)
  | enumPorts (reply : Retcode × List Char) :
      Accepts .ready ⟨.cameraEnumPorts, reply⟩ .ready
  | openPort (name : List Char) (reply : Retcode × CameraHandle) :
      Accepts .ready ⟨.cameraOpenPort name, reply⟩
        (if reply.1 = .rcOk then .opened reply.2 .nothing else .ready)
  | finiUnopened : Accepts .ready ⟨.cameraFini, ()⟩ (.ended false)
  | getCtrlInfo (port : CameraHandle) (knows : Knows) (index : Nat) (rc : Retcode) :
      Accepts (.opened port knows) ⟨.cameraGetCtrlInfo port index, rc⟩
        (.opened port knows)
  | getCtrlValue (port : CameraHandle) (knows : Knows) (index : Nat) (rc : Retcode) :
      Accepts (.opened port knows) ⟨.cameraGetCtrlValue port index, rc⟩
        (.opened port knows)
  | enumProfiles (port : CameraHandle) (knows : Knows) (index : UInt32)
      (reply : Retcode × CameraInfo) :
      Accepts (.opened port knows) ⟨.profiles port (.cameraEnumProfiles index), reply⟩
        (.opened port .nothing)
  | selectProfile (port : CameraHandle) (knows : Knows) (index : UInt32)
      (rc : Retcode) :
      Accepts (.opened port knows) ⟨.profiles port (.cameraSelectProfile index), rc⟩
        (.opened port (if rc = .rcOk then .selected else .nothing))
  | getInfo (port : CameraHandle) (knows : Knows) (reply : Retcode × CameraInfo) :
      Accepts (.opened port knows) ⟨.cameraGetInfo port, reply⟩
        (.opened port (knows.told reply))
  | enable (port : CameraHandle) (info : CameraInfo) (rc : Retcode) :
      Accepts (.opened port (.info info)) ⟨.cameraEnable port, rc⟩
        (if rc = .rcOk then .streaming port info snapshotCount
        else .opened port (.info info))
  | readFrame (port : CameraHandle) (info : CameraInfo) (frames : Nat) (turn : Turn) :
      Accepts (.streaming port info (frames + 1))
        ⟨.cameraReadFrame port (dataSize info), turn⟩ (.streaming port info frames)
  | disable (port : CameraHandle) (info : CameraInfo) (rc : Retcode) :
      Accepts (.streaming port info 0) ⟨.cameraDisable port, rc⟩
        (.opened port .nothing)
  | closePort (port : CameraHandle) (knows : Knows) (rc : Retcode) :
      Accepts (.opened port knows) ⟨.cameraClosePort port, rc⟩ (.closed rc)
  | finiClosed (rc : Retcode) :
      Accepts (.closed rc) ⟨.cameraFini, ()⟩ (.ended (rc = .rcOk))

theorem onPort_eq_some {camera : CameraHandle} {stage next : Stage} :
    onPort camera port stage = some next ↔ camera = port ∧ stage = next := by
  simp [onPort]

private theorem accepts_opened {made : CameraCall} {reply : CameraReply made}
    {next : Stage}
    (stepped : discipline (.opened port knows) ⟨made, reply⟩ = some next) :
    Accepts (.opened port knows) ⟨made, reply⟩ next := by
  cases made with
  | cameraGetCtrlInfo camera index =>
      obtain ⟨rfl, rfl⟩ := onPort_eq_some.mp stepped
      exact .getCtrlInfo camera knows index reply
  | cameraGetCtrlValue camera index =>
      obtain ⟨rfl, rfl⟩ := onPort_eq_some.mp stepped
      exact .getCtrlValue camera knows index reply
  | profiles camera call =>
      cases call with
      | cameraEnumProfiles index =>
          obtain ⟨rfl, rfl⟩ := onPort_eq_some.mp stepped
          exact .enumProfiles camera knows index reply
      | cameraSelectProfile index =>
          obtain ⟨rfl, rfl⟩ := onPort_eq_some.mp stepped
          exact .selectProfile camera knows index reply
  | cameraGetInfo camera =>
      obtain ⟨rfl, rfl⟩ := onPort_eq_some.mp stepped
      exact .getInfo camera knows reply
  | cameraEnable camera =>
      cases knows with
      | info info =>
          obtain ⟨rfl, rfl⟩ := onPort_eq_some.mp stepped
          exact .enable camera info reply
      | nothing => cases stepped
      | selected => cases stepped
  | cameraClosePort camera =>
      obtain ⟨rfl, rfl⟩ := onPort_eq_some.mp stepped
      exact .closePort camera knows reply
  | _ => cases stepped

private theorem accepts_streaming {info : CameraInfo} {frames : Nat} {made : CameraCall}
    {reply : CameraReply made} {next : Stage}
    (stepped : discipline (.streaming port info frames) ⟨made, reply⟩ = some next) :
    Accepts (.streaming port info frames) ⟨made, reply⟩ next := by
  cases frames with
  | zero =>
      cases made with
      | cameraDisable camera =>
          obtain ⟨rfl, rfl⟩ := onPort_eq_some.mp stepped
          exact .disable camera info reply
      | _ => cases stepped
  | succ frames =>
      cases made with
      | cameraReadFrame camera size =>
          obtain ⟨rfl, held⟩ := Option.ite_none_right_eq_some.mp stepped
          obtain ⟨rfl, rfl⟩ := onPort_eq_some.mp held
          exact .readFrame camera info frames reply
      | _ => cases stepped

theorem accepts_of_discipline {stage next : Stage}
    {exchange : Exchange CameraCall CameraReply}
    (stepped : discipline stage exchange = some next) :
    Accepts stage exchange next := by
  obtain ⟨made, reply⟩ := exchange
  cases stage with
  | off =>
      cases made with
      | cameraInit =>
          cases stepped
          exact .init reply
      | _ => cases stepped
  | ready =>
      cases made with
      | cameraEnumPorts =>
          cases stepped
          exact .enumPorts reply
      | cameraOpenPort name =>
          cases stepped
          exact .openPort name reply
      | cameraFini =>
          cases stepped
          exact .finiUnopened
      | _ => cases stepped
  | opened port knows => exact accepts_opened stepped
  | streaming port info frames => exact accepts_streaming stepped
  | closed rc =>
      cases made with
      | cameraFini =>
          cases stepped
          exact .finiClosed rc
      | _ => cases stepped
  | ended released => cases made <;> cases stepped

/-- The port has been closed, with success. -/
def Stage.Released (stage : Stage) : Prop :=
  stage = .closed .rcOk ∨ stage = .ended true

def IsRelease (exchange : Exchange CameraCall CameraReply) : Prop :=
  ∃ camera, exchange = ⟨.cameraClosePort camera, Retcode.rcOk⟩

private theorem released_iff_of_discipline (stage : Stage)
    (exchange : Exchange CameraCall CameraReply) (next : Stage)
    (stepped : discipline stage exchange = some next) :
    next.Released ↔ stage.Released ∨ IsRelease exchange := by
  cases accepts_of_discipline stepped with
  | init rc =>
      split
      · simp [Stage.Released, IsRelease]
      · simp [Stage.Released, IsRelease]
  | openPort name reply =>
      split
      · simp [Stage.Released, IsRelease]
      · simp [Stage.Released, IsRelease]
  | enable port info rc =>
      split
      · simp [Stage.Released, IsRelease]
      · simp [Stage.Released, IsRelease]
  | _ => simp [Stage.Released, IsRelease]

/-- The client ends with success exactly when it has closed a port with success:
neither a profile that is missing nor a snapshot that fails makes a difference. -/
theorem main_success_iff_released (library : Library) (attempts : Nat)
    (world : World CameraCall CameraReply) (status : ExitStatus)
    (files : List (List UInt8))
    (ended : ((main library attempts).run.run world []).1 =
      .ok (status, files)) :
    status = .success ↔
      ∃ camera, ⟨.cameraClosePort camera, Retcode.rcOk⟩ ∈
        ((main library attempts).run.run world []).2 := by
  obtain ⟨stage, reached, post⟩ := keeps_main library attempts .off world [] rfl
  rw [ended] at post
  obtain ⟨isOver, -⟩ := post
  have released : status = .success ↔ stage.Released := by
    rw [isOver]
    simp [Stage.Released]
  rw [released]
  constructor
  · intro marked
    obtain ⟨exchange, member, camera, same⟩ := exists_of_marked
      (fun stage exchange next stepped =>
        (released_iff_of_discipline stage exchange next stepped).mp)
      reached marked (by simp [Stage.Released])
    exact ⟨camera, same ▸ member⟩
  · intro closed
    obtain ⟨camera, member⟩ := closed
    apply marked_of_mem (fun stage exchange next stepped holds =>
        (released_iff_of_discipline stage exchange next stepped).mpr holds.symm)
      reached
    exact .inr ⟨_, member, camera, rfl⟩

/-- A library without a profile. -/
def noProfiles : World CameraCall CameraReply
  | _, .cameraInit => .rcOk
  | _, .cameraEnumPorts => (.rcOk, ['c'])
  | _, .cameraOpenPort _ => (.rcOk, 1)
  | _, .cameraGetCtrlInfo _ _ => .other 1
  | _, .cameraGetCtrlValue _ _ => .other 1
  | _, .profiles _ (.cameraEnumProfiles _) => (.rcResourceNotFound, unsetInfo)
  | _, .profiles _ (.cameraSelectProfile _) => .rcFail
  | _, .cameraGetInfo _ => (.rcFail, unsetInfo)
  | _, .cameraEnable _ => .rcFail
  | _, .cameraReadFrame _ _ => ⟨.rcFail, fun _ => 0, ⟨false, 0⟩⟩
  | _, .cameraDisable _ => .rcOk
  | _, .cameraClosePort _ => .rcOk
  | _, .cameraFini => ()

theorem main_releases_noProfiles :
    ∃ camera, ⟨.cameraClosePort camera, Retcode.rcOk⟩ ∈
      ((main ⟨1, 1⟩ 1).run.run noProfiles []).2 :=
  (main_success_iff_released ⟨1, 1⟩ 1 noProfiles .success [] rfl).mp rfl

/-- The profile that the client works with. -/
def Stage.WorksWith (info : CameraInfo) (stage : Stage) : Prop :=
  (∃ port, stage = .opened port (.info info)) ∨
    ∃ port frames, stage = .streaming port info frames

def Tells (info : CameraInfo) (exchange : Exchange CameraCall CameraReply) :
    Prop :=
  ∃ camera, exchange = ⟨.cameraGetInfo camera, (Retcode.rcOk, info)⟩

private theorem told_eq_info {info : CameraInfo} {reply : Retcode × CameraInfo}
    (told : knows.told reply = .info info) :
    knows = .info info ∨ reply = (.rcOk, info) := by
  unfold Knows.told at told
  by_cases ignored : knows = .nothing ∨ reply.1 ≠ .rcOk
  · rw [if_pos ignored] at told
    exact .inl told
  · rw [if_neg ignored] at told
    rw [not_or, not_not] at ignored
    cases told
    right
    rw [← ignored.2]

private theorem worksWith_opened {info : CameraInfo} :
    (Stage.opened port knows).WorksWith info ↔ knows = .info info := by
  simp [Stage.WorksWith]

private theorem worksWith_streaming {info other : CameraInfo} {frames : Nat} :
    (Stage.streaming port other frames).WorksWith info ↔ other = info := by
  simp [Stage.WorksWith]

private theorem told_of_worksWith (info : CameraInfo) (stage : Stage)
    (exchange : Exchange CameraCall CameraReply) (next : Stage)
    (stepped : discipline stage exchange = some next)
    (works : next.WorksWith info) : stage.WorksWith info ∨ Tells info exchange := by
  cases accepts_of_discipline stepped with
  | getCtrlInfo port knows index rc => exact .inl works
  | getCtrlValue port knows index rc => exact .inl works
  | getInfo port knows reply =>
      rcases told_eq_info (worksWith_opened.mp works) with known | told
      · exact .inl (worksWith_opened.mpr known)
      · exact .inr ⟨port, by rw [told]⟩
  | enable port other rc =>
      left
      rw [worksWith_opened]
      split at works
      · rw [worksWith_streaming.mp works]
      · exact worksWith_opened.mp works
  | readFrame port other frames turn =>
      exact .inl (worksWith_streaming.mpr (worksWith_streaming.mp works))
  -- the other calls leave nothing known of a profile
  | init rc =>
      split at works
      · simp [Stage.WorksWith] at works
      · simp [Stage.WorksWith] at works
  | openPort name reply =>
      split at works
      · simp [Stage.WorksWith] at works
      · simp [Stage.WorksWith] at works
  | selectProfile port knows index rc =>
      rw [worksWith_opened] at works
      split at works
      · cases works
      · cases works
  | _ => simp [Stage.WorksWith] at works

/-- As long as memory can be allocated, the client is stopped in the middle of its work
only where the camera has told it a profile that the conversion from YUYV has not been
written for; no MJPEG frame stops it, whatever its bytes are. -/
theorem main_stopped_only_by_awkward (library : Library) (attempts : Nat)
    (world : World CameraCall CameraReply) (stop : Stop)
    (stopped : ((main library attempts).run.run world []).1 =
      .error (.stop stop)) :
    ∃ camera info, Awkward info ∧
      ⟨.cameraGetInfo camera, (Retcode.rcOk, info)⟩ ∈
        ((main library attempts).run.run world []).2 := by
  obtain ⟨stage, reached, post⟩ := keeps_main library attempts .off world [] rfl
  rw [stopped] at post
  obtain ⟨port, info, frames, streaming, -, awkward⟩ := post
  obtain ⟨exchange, member, camera, same⟩ := exists_of_marked
    (told_of_worksWith info) reached (.inr ⟨port, frames, streaming⟩)
    (by simp [Stage.WorksWith])
  exact ⟨camera, info, awkward, same ▸ member⟩

/-- The one profile of this library is YUYV with a single pixel. -/
def onePixel : World CameraCall CameraReply
  | _, .profiles _ (.cameraEnumProfiles 0) => (.rcOk, ⟨.yuyv, 1, 1, 2, 30⟩)
  | _, .profiles _ (.cameraSelectProfile _) => .rcOk
  | _, .cameraGetInfo _ => (.rcOk, ⟨.yuyv, 1, 1, 2, 30⟩)
  | _, .cameraEnable _ => .rcOk
  | _, .cameraReadFrame _ _ => ⟨.rcOk, fun _ => 0, ⟨true, 3⟩⟩
  | index, call => noProfiles index call

theorem main_stopped_by_onePixel :
    ∃ camera info, Awkward info ∧
      ⟨.cameraGetInfo camera, (Retcode.rcOk, info)⟩ ∈
        ((main ⟨1, 1⟩ 2).run.run onePixel []).2 :=
  main_stopped_only_by_awkward ⟨1, 1⟩ 2 onePixel (.assertion .yuyvSize) rfl

/-! ## The snapshots -/

/-- What the turns of the loop in `MakeSnapshots` meet, behind `start` calls. -/
def turnsFrom (world : World CameraCall CameraReply) (camera : CameraHandle)
    (info : CameraInfo) (start : Nat) (i : Nat) : Turn :=
  world (start + i) (.cameraReadFrame camera (dataSize info))

def surroundings (library : Library) (world : World CameraCall CameraReply)
    (camera : CameraHandle) (start : Nat) : Surroundings where
  getInfo := world start (.cameraGetInfo camera)
  enable := world (start + 1) (.cameraEnable camera)
  turns := turnsFrom world camera (world start (.cameraGetInfo camera)).2
    (start + 2)
  noCapability := library.noCapability

theorem run_call_bind {β : Type} (made : CameraCall)
    (next : CameraReply made → ClientProgram β)
    (world : World CameraCall CameraReply) (record : CameraRecord) :
    (call made >>= next).run.run world record =
      (next (world record.length made)).run.run world
        (record ++ [⟨made, world record.length made⟩]) :=
  rfl

/-- What follows a program only looks at its result. -/
theorem run_bind_pure {β : Type} (first : ClientProgram α) (next : α → β)
    (world : World CameraCall CameraReply) (record : CameraRecord) :
    ((first >>= fun value => pure (next value)).run.run world record).1 =
      (first.run.run world record).1.map next := by
  rw [ExceptT.run_bind, run_bind]
  cases (first.run.run world record).1 with
  | ok value => rfl
  | error interruption => rfl

private theorem run_snapshotTurns (camera : CameraHandle) (info : CameraInfo)
    (world : World CameraCall CameraReply) (count i start : Nat) (rc : Retcode)
    (record : CameraRecord) (behind : record.length = start + i) :
    ((snapshotTurns camera info count rc).run.run world record).1 =
      (snapshots info (turnsFrom world camera info start) count i
        rc).result.mapError .stop := by
  induction count generalizing i rc record with
  | zero => rfl
  | succ count induction =>
      have turn : world record.length (.cameraReadFrame camera (dataSize info)) =
          turnsFrom world camera info start i := by
        rw [behind]
        rfl
      rw [snapshotTurns, run_call_bind, turn, snapshots]
      cases made : (snapshot info (turnsFrom world camera info start i)).result with
      | error stop =>
          rw [Traced.bind_of_error made]
          rfl
      | ok shot =>
          obtain ⟨rc, file⟩ := shot
          have longer : (record ++ [(⟨.cameraReadFrame camera (dataSize info),
              turnsFrom world camera info start i⟩ :
                Exchange CameraCall CameraReply)]).length = start + (i + 1) := by
            rw [List.length_append, behind]
            rfl
          rw [Traced.bind_of_ok made]
          simp only
          rw [run_bind_pure, induction _ rc _ longer]
          cases rest : (snapshots info (turnsFrom world camera info start)
              count (i + 1) rc).result with
          | error stop =>
              rw [Traced.bind_of_error rest]
              rfl
          | ok later =>
              rw [Traced.bind_of_ok rest]
              rfl

private theorem run_enableAndRead (camera : CameraHandle) (info : CameraInfo)
    (world : World CameraCall CameraReply) (record : CameraRecord) :
    ((enableAndRead camera info).run.run world record).1 =
      if world record.length (.cameraEnable camera) ≠ .rcOk then
        .ok (world record.length (.cameraEnable camera), [])
      else
        (snapshots info (turnsFrom world camera info (record.length + 1))
          snapshotCount 0 .rcOk).result.mapError .stop := by
  rw [enableAndRead, run_call_bind]
  by_cases enabled : world record.length (.cameraEnable camera) = .rcOk
  · simp only [enabled, ne_eq, not_true_eq_false, if_false]
    rw [← run_snapshotTurns camera info world snapshotCount 0
      (record.length + 1) .rcOk
      (record ++ [⟨.cameraEnable camera, Retcode.rcOk⟩])
      (List.length_append ..)]
    rw [ExceptT.run_bind, run_bind]
    cases ((snapshotTurns camera info snapshotCount .rcOk).run.run world
        (record ++ [⟨.cameraEnable camera, Retcode.rcOk⟩])).1 with
    | ok made => rfl
    | error interruption => rfl
  · simp only [enabled, ne_eq, not_false_eq_true, if_true]
    rfl

/-- The two models of `MakeSnapshots` agree: with its calls it makes the snapshots that
it makes as a function, with the same code and files or the same assertion, where the
replies of the library are what it meets outside. -/
theorem makeCameraSnapshots_eq (library : Library) (camera : CameraHandle)
    (world : World CameraCall CameraReply) (record : CameraRecord) :
    ((makeCameraSnapshots library camera).run.run world record).1 =
      (makeSnapshots (surroundings library world camera
        record.length)).result.mapError .stop := by
  rw [makeCameraSnapshots, run_call_bind]
  simp only [makeSnapshots, surroundings]
  by_cases isOk : (world record.length (.cameraGetInfo camera)).1 = .rcOk
  · have streams := run_enableAndRead camera
      (world record.length (.cameraGetInfo camera)).2 world
      (record ++ [⟨.cameraGetInfo camera,
        world record.length (.cameraGetInfo camera)⟩])
    rw [List.length_append, List.length_singleton] at streams
    simp only [isOk, ne_eq, not_true_eq_false, if_false]
    by_cases enabled :
        world (record.length + 1) (.cameraEnable camera) = .rcOk
    · simp only [enabled, ne_eq, not_true_eq_false, if_false] at streams ⊢
      cases (world record.length (.cameraGetInfo camera)).2.pFmt with
      | yuyv => exact streams
      | mjpeg => exact streams
      | other code => rfl
    · simp only [enabled, ne_eq, not_false_eq_true, if_true] at streams ⊢
      cases (world record.length (.cameraGetInfo camera)).2.pFmt with
      | yuyv => exact streams
      | mjpeg => exact streams
      | other code => rfl
  · simp only [isOk, ne_eq, not_false_eq_true, if_true]
    rfl

end KosCeExtra.Camera
