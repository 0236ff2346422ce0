import KosCeExtra.Library.Monitor
import KosCeExtra.Modem.Readiness

/-!
# The exit status of `mbim_ntpd`, and what it holds

`mbim_ntpd` winds the clock back, opens the modem, connects, sets the gateway over a
socket, and waits until the clock is set over the connection.  A monitor follows how far
it has come.  Whatever the replies are, the socket and the modem are closed on every way
out, and the program ends with success exactly when it has come all the way.
-/

namespace KosCeExtra.Modem

open Dialogue Monitor

instance (state : RegisterState) : Decidable state.IsRegistered :=
  inferInstanceAs (Decidable (_ ∨ _ ∨ _))

namespace NtpdClient

/-- How far the program has come. -/
inductive Stage where
  | begun
  | dated
  /-- the clock is wound back -/
  | wound
  | rewound
  | present
  /-- the modem is open -/
  | opened
  | simReady
  | registered
  | connected
  | online
  | addressed (gateway : UInt32)
  /-- the socket is open, too -/
  | routing (gateway : UInt32) (routed : Bool)
  /-- the gateway is set, and the socket is closed -/
  | routed
  /-- the clock is beyond the birthday -/
  | updated
  | ended (updated : Bool)
  deriving DecidableEq, Repr

/-- The modem is open, and the socket is not. -/
def Stage.holdsModem : Stage → Bool
  | .opened | .simReady | .registered | .connected | .online | .addressed _ |
      .routed | .updated => true
  | _ => false

/-- A route is added by a first call that gives no negative result, or replaced by one
that gives zero. -/
def routeSet (update : Bool) (result : Int) : Bool :=
  if update then result = 0 else 0 ≤ result

def discipline : Monitor Call Reply Stage
  | .begun, ⟨.localtime, time⟩ => some (if time = none then .ended false else .dated)
  | .dated, ⟨.clockSettime year month day, ret⟩ =>
      if year = kosBirthdayYear ∧ month = kosBirthdayMonth ∧
          day = kosBirthdayDay then
        some (if ret ≠ 0 then .ended false else .wound)
      else
        none
  | .wound, ⟨.localtime, time⟩ =>
      some (if time = none then .ended false else .rewound)
  | .rewound, ⟨.waitForIface .iwfExists, up⟩ =>
      some (if up = false then .ended false else .present)
  | .present, ⟨.vfsMbimOpen, ret⟩ =>
      some (if ret ≠ 0 then .ended false else .opened)
  | .opened, ⟨.vfsMbimInfoSim, reply⟩ =>
      some (if reply = (0, .initialized) then .simReady else .opened)
  | .simReady, ⟨.vfsMbimInfoRegisterState, (ret, registerState)⟩ =>
      some (if ret = 0 ∧ registerState.IsRegistered then .registered
        else .simReady)
  | .registered, ⟨.vfsMbimConnect _, ret⟩ =>
      some (if ret ≠ 0 then .registered else .connected)
  | .connected, ⟨.waitForIface .iwfIp4, up⟩ =>
      some (if up = false then .connected else .online)
  | .online, ⟨.vfsMbimInfoIpConnection, (ret, addresses)⟩ =>
      match addresses with
      | [] => some .online
      | address :: _ => some (if ret ≠ 0 then .online else .addressed address)
  | .addressed gateway, ⟨.socket, descriptor⟩ =>
      some (if descriptor = -1 then .addressed gateway else .routing gateway false)
  | .routing gateway false, ⟨.addRoute address update, (result, _)⟩ =>
      if address = gateway then
        some (.routing gateway (routeSet update result))
      else
        none
  | .routing gateway isRouted, ⟨.closeSocket, _⟩ =>
      some (if isRouted then .routed else .addressed gateway)
  | .routed, ⟨.localtime, some year⟩ =>
      some (if year > kosBirthdayYear then .updated else .routed)
  | .routed, ⟨.localtime, none⟩ => some .routed
  | stage, ⟨.vfsMbimClose, _⟩ =>
      if stage.holdsModem then some (.ended (stage = .updated)) else none
  | _, _ => none

/-- The program keeps to the order of the stages. -/
abbrev Keeps (stage : Stage) (program : Program α) (Post : α → Stage → Prop) :
    Prop :=
  Watches discipline stage program Post

/-- A step that succeeds has come to the next stage, and one that fails still holds the
modem and nothing else. -/
def Comes (next : Stage) (status : ExitStatus) (stage : Stage) : Prop :=
  match status with
  | .success => stage = next
  | .failure => stage.holdsModem = true ∧ stage ≠ .updated

theorem Comes.failed {next stage : Stage} {status : ExitStatus}
    (comes : Comes next status stage) (failed : status ≠ .success) :
    stage.holdsModem = true ∧ stage ≠ .updated := by
  cases status with
  | success => exact absurd rfl failed
  | failure => exact comes

private theorem close_of_holdsModem {stage : Stage} (holds : stage.holdsModem = true)
    (closed : Int) :
    discipline stage ⟨.vfsMbimClose, closed⟩ =
      some (.ended (stage = .updated)) := by
  cases stage with
  | opened => rfl
  | simReady => rfl
  | registered => rfl
  | connected => rfl
  | online => rfl
  | addressed gateway =>
      rw [discipline]
      rfl
  | routed => rfl
  | updated => rfl
  | _ => cases holds

theorem keeps_setInitialTime :
    Keeps .begun setInitialTime fun status stage =>
      match status with
      | .success => stage = .rewound
      | .failure => stage = .ended false := by
  apply Watches.askThen (fun _ => rfl)
  intro time
  apply Watches.ite
  · intro none
    exact .pure (if_pos none)
  · intro isDated
    rw [if_neg isDated]
    apply Watches.askThen
      (f := fun ret => if ret ≠ 0 then .ended false else .wound)
    · intro ret
      simp [discipline]
    · intro ret
      apply Watches.ite
      · intro failed
        exact .pure (if_pos failed)
      · intro isWound
        rw [if_neg isWound]
        apply Watches.askThen (fun _ => rfl)
        intro time
        apply Watches.ite
        · intro none
          exact .pure (if_pos none)
        · intro isRewound
          exact .pure (if_neg isRewound)

theorem keeps_waitSimReady (seconds : Nat) :
    Keeps .opened (waitSimReady seconds) (Comes .simReady) := by
  apply Watches.poll (I := fun stage => stage = .opened)
  · intro stage opened reply
    rw [opened]
    refine ⟨_, rfl, ?_⟩
    obtain ⟨ret, subState⟩ := reply
    unfold simVerdict
    by_cases failed : ret ≠ 0
    · simp only [if_pos failed]
      rw [if_neg (fun same => failed (congrArg Prod.fst same))]
      exact ⟨rfl, by decide⟩
    · obtain rfl : ret = 0 := not_not.mp failed
      by_cases isInitialized : subState = .initialized
      · simp [isInitialized, Comes]
      · simp [isInitialized]
  · intro stage opened
    rw [opened]
    exact ⟨rfl, by decide⟩
  · rfl

private theorem registerVerdict_of_ok (registerState : RegisterState) :
    registerVerdict (0, registerState) =
      if registerState.IsRegistered then some .success
      else if registerState = .denied then some .failure
      else none := by
  cases registerState with
  | home => rfl
  | roaming => rfl
  | partner => rfl
  | denied => rfl
  | other state => simp [registerVerdict, RegisterState.IsRegistered]

theorem keeps_waitRegistered (seconds : Nat) :
    Keeps .simReady (waitRegistered seconds) (Comes .registered) := by
  apply Watches.poll (I := fun stage => stage = .simReady)
  · intro stage ready reply
    rw [ready]
    refine ⟨_, rfl, ?_⟩
    obtain ⟨ret, registerState⟩ := reply
    by_cases failed : ret ≠ 0
    · simp only [registerVerdict, if_pos failed]
      rw [if_neg (fun both => failed both.1)]
      exact ⟨rfl, by decide⟩
    · obtain rfl : ret = 0 := not_not.mp failed
      rw [registerVerdict_of_ok]
      by_cases isRegistered : registerState.IsRegistered
      · simp [isRegistered, Comes]
      · by_cases denied : registerState = .denied
        · rw [if_neg isRegistered, if_pos denied, if_neg (fun both =>
            isRegistered both.2)]
          exact ⟨rfl, by decide⟩
        · rw [if_neg isRegistered, if_neg denied, if_neg (fun both =>
            isRegistered both.2)]
          rfl
  · intro stage ready
    rw [ready]
    exact ⟨rfl, by decide⟩
  · rfl

theorem keeps_closeSocketWith (gateway : UInt32) (isRouted : Bool) :
    Keeps (.routing gateway isRouted)
      (closeSocketWith (if isRouted then .success else .failure))
      (Comes .routed) := by
  cases isRouted with
  | true =>
      apply Watches.askThen (fun _ => rfl)
      intro _
      exact .pure rfl
  | false =>
      apply Watches.askThen (fun _ => rfl)
      intro _
      exact .pure ⟨rfl, by simp⟩

theorem keeps_setDefaultGateway (gateway : UInt32) :
    Keeps (.addressed gateway) (setDefaultGateway gateway) (Comes .routed) := by
  apply Watches.askThen (fun _ => rfl)
  intro descriptor
  apply Watches.ite
  · intro failed
    rw [if_pos failed]
    exact .pure ⟨rfl, by simp⟩
  · intro isOpen
    rw [if_neg isOpen]
    apply Watches.askThen
      (f := fun added => .routing gateway (routeSet false added.1))
    · intro added
      exact if_pos rfl
    · intro added
      apply Watches.ite
      · intro refused
        have notSet : routeSet false added.1 = false :=
          decide_eq_false (Int.not_le.mpr refused)
        rw [notSet]
        apply Watches.ite
        · intro _
          apply Watches.askThen
            (f := fun updated => .routing gateway (routeSet true updated.1))
          · intro updated
            exact if_pos rfl
          · intro updated
            apply Watches.ite
            · intro replaced
              have isSet : routeSet true updated.1 = true :=
                decide_eq_true replaced
              rw [isSet]
              exact keeps_closeSocketWith gateway true
            · intro kept
              have notSet : routeSet true updated.1 = false :=
                decide_eq_false kept
              rw [notSet]
              exact keeps_closeSocketWith gateway false
        · intro _
          exact keeps_closeSocketWith gateway false
      · intro accepted
        have isSet : routeSet false added.1 = true :=
          decide_eq_true (Int.not_lt.mp accepted)
        rw [isSet]
        exact keeps_closeSocketWith gateway true

theorem keeps_configureConnection :
    Keeps .connected configureConnection (Comes .routed) := by
  apply Watches.askThen (fun _ => rfl)
  intro up
  apply Watches.ite
  · intro down
    rw [if_pos down]
    exact .pure ⟨rfl, by decide⟩
  · intro isUp
    rw [if_neg isUp]
    apply Watches.bind (M := fun reply stage => discipline .online
      ⟨.vfsMbimInfoIpConnection, reply⟩ = some stage)
    · apply Watches.ask
      intro reply
      obtain ⟨ret, addresses⟩ := reply
      cases addresses with
      | nil => exact ⟨_, rfl, rfl⟩
      | cons address more => exact ⟨_, rfl, rfl⟩
    · intro reply stage reached
      obtain ⟨ret, addresses⟩ := reply
      cases addresses with
      | nil =>
          cases reached
          apply Watches.ite
          · intro _
            exact .pure ⟨rfl, by decide⟩
          · intro _
            exact .pure ⟨rfl, by decide⟩
      | cons address more =>
          cases reached
          apply Watches.ite
          · intro failed
            rw [if_pos failed]
            exact .pure ⟨rfl, by decide⟩
          · intro success
            rw [if_neg success]
            exact keeps_setDefaultGateway address

theorem keeps_mbimConnect (apn userName password : List UInt16) :
    Keeps .opened (mbimConnect apn userName password) (Comes .routed) := by
  apply Watches.bind (keeps_waitSimReady timeoutS)
  intro sim stage came
  apply Watches.ite
  · intro failed
    exact .pure (came.failed failed)
  · intro success
    obtain rfl : sim = .success := not_not.mp success
    obtain rfl : stage = .simReady := came
    apply Watches.bind (keeps_waitRegistered timeoutS)
    intro registration stage came
    apply Watches.ite
    · intro failed
      exact .pure (came.failed failed)
    · intro success
      obtain rfl : registration = .success := not_not.mp success
      obtain rfl : stage = .registered := came
      apply Watches.askThen (fun _ => rfl)
      intro ret
      apply Watches.ite
      · intro failed
        rw [if_pos failed]
        exact .pure ⟨rfl, by decide⟩
      · intro success
        rw [if_neg success]
        exact keeps_configureConnection

theorem keeps_waitTimeUpdate :
    Keeps .routed waitTimeUpdate (Comes .updated) := by
  apply Watches.poll (I := fun stage => stage = .routed)
  · intro stage isRouted time
    rw [isRouted]
    cases time with
    | none => exact ⟨.routed, rfl, rfl, by decide⟩
    | some year =>
        refine ⟨_, rfl, ?_⟩
        unfold timeVerdict
        by_cases late : year > kosBirthdayYear
        · simp only [if_pos late]
          rfl
        · simp [late]
  · intro stage isRouted
    rw [isRouted]
    exact ⟨rfl, by decide⟩
  · rfl

theorem keeps_connectAndWait :
    Keeps .opened connectAndWait fun status stage =>
      stage = .ended (status = .success) := by
  apply Watches.bind (keeps_mbimConnect wwanApn wwanUser wwanPassword)
  intro status stage came
  apply Watches.ite
  · intro failed
    obtain ⟨holds, notUpdated⟩ := came.failed failed
    apply Watches.askThen (close_of_holdsModem holds)
    intro _
    apply Watches.pure
    simp [notUpdated]
  · intro success
    obtain rfl : status = .success := not_not.mp success
    obtain rfl : stage = .routed := came
    apply Watches.bind keeps_waitTimeUpdate
    intro ret stage came
    cases ret with
    | success =>
        obtain rfl : stage = .updated := came
        apply Watches.askThen (close_of_holdsModem rfl)
        intro _
        exact .pure rfl
    | failure =>
        obtain ⟨holds, notUpdated⟩ := came
        apply Watches.askThen (close_of_holdsModem holds)
        intro _
        apply Watches.pure
        simp [notUpdated]

theorem keeps_main :
    Keeps .begun main fun status stage =>
      stage = .ended (status = .success) := by
  apply Watches.bind keeps_setInitialTime
  intro status stage came
  apply Watches.ite
  · intro failed
    cases status with
    | success => exact absurd rfl failed
    | failure => exact .pure came
  · intro success
    obtain rfl : status = .success := not_not.mp success
    obtain rfl : stage = .rewound := came
    apply Watches.askThen (fun _ => rfl)
    intro up
    apply Watches.ite
    · intro down
      exact .pure (if_pos down)
    · intro isUp
      rw [if_neg isUp]
      apply Watches.askThen (fun _ => rfl)
      intro ret
      apply Watches.ite
      · intro failed
        exact .pure (if_pos failed)
      · intro isOpen
        rw [if_neg isOpen]
        exact keeps_connectAndWait

/-- Whatever the replies are, `mbim_ntpd` makes its calls in the order of the stages,
closes the socket and the modem that it has opened, and ends with success exactly when
it has seen the clock go on over the connection that it has made. -/
theorem ntpd_keeps_order (world : World Call Reply) :
    ∃ stage, discipline.after .begun (main.run world []).2 = some stage ∧
      stage = .ended ((main.run world []).1 = .success) :=
  keeps_main .begun world [] rfl

end NtpdClient

end KosCeExtra.Modem
