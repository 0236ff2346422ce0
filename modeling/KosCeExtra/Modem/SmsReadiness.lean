import KosCeExtra.Modem.NtpdReadiness
import KosCeExtra.Modem.SmsRuns

/-!
# `mbim_sms` and the state of the modem

`WaitSimReady` of `mbim_sms` hands on the code of a query that failed, and `main`
takes only a negative one for a failure.  So a positive MBIM status passes for a
SIM that is ready, and the call that sends is not guarded then.
-/

namespace KosCeExtra.Modem

open Dialogue

namespace SmsClient

variable {world : World Call Reply} {dest text : Sms.CString}
  {polls more : Nat} {ret : Int}

/-- A positive MBIM status ends the waiting for the SIM, and the modem is found
registered within the time, with a message that can be encoded. -/
def IgnoresStatus (world : World Call Reply) (dest text : Sms.CString) :
    Prop :=
  world 0 (.waitForIface .iwfExists) = true ∧
    world 1 .vfsMbimOpen = 0 ∧
    ∃ polls more, polls < timeoutS ∧
      (∀ earlier, earlier < polls →
        SimWaits (world (2 + earlier) .vfsMbimInfoSim)) ∧
      0 < (world (2 + polls) .vfsMbimInfoSim).1 ∧
      more < timeoutS ∧
      (∀ earlier, earlier < more →
        RegisterWaits (world (2 + (polls + 1) + earlier)
          .vfsMbimInfoRegisterState)) ∧
      Registers (world (2 + (polls + 1) + more) .vfsMbimInfoRegisterState) ∧
      Sms.Accepted none dest text 256

/-- A run that sends is guarded if and only if both replies are among those that
ended the waiting. -/
theorem guarded_sends_iff {start : Nat} (pdu : List UInt8) (sent closed : Int) :
    Guarded (opened world ++ waited world start polls more ++
        [⟨.vfsMbimSmsSendPdu pdu, sent⟩, ⟨.vfsMbimClose, closed⟩]) ↔
      ReadyThenRegistered (opened world ++ waited world start polls more) := by
  apply guarded_operation_iff
  · exact free_append.mpr ⟨opened_free, (onlyPolls_waited start).free⟩
  · rfl
  · exact free_singleton rfl

/-- Without an initialised subscriber the waiting leaves no such reply. -/
theorem not_ready_of_positive {start : Nat}
    (sends : Sends world dest text start polls more ret) (positive : 0 < ret) :
    ¬ ReadyThenRegistered (opened world ++ waited world start polls more) := by
  rintro ⟨front, back, split, ⟨exchange, inFront, ready⟩, -⟩
  have member : exchange ∈ opened world ++ waited world start polls more := by
    rw [split]
    exact List.mem_append_left back inFront
  subst ready
  rcases List.mem_append.mp member with first | later
  · simp [opened] at first
  · rcases List.mem_append.mp later with sim | registration
    · obtain ⟨index, early, same⟩ := mem_asked.mp sim
      have reply : world (start + index) .vfsMbimInfoSim = (0, .initialized) := by
        simpa using same.symm
      rcases Nat.lt_succ_iff_lt_or_eq.mp early with before | rfl
      · have waits := sends.simWaits index before
        rw [reply] at waits
        exact waits.2 rfl
      · have code := (simVerdict_eq_some sends.ends).1
        rw [reply] at code
        omega
    · obtain ⟨index, -, same⟩ := mem_asked.mp registration
      cases same

private theorem ready_of_zero {start : Nat}
    (sends : Sends world dest text start polls more 0) :
    ReadyThenRegistered (opened world ++ waited world start polls more) := by
  refine ⟨opened world ++ asked world .vfsMbimInfoSim start (polls + 1),
    asked world .vfsMbimInfoRegisterState (start + (polls + 1)) (more + 1),
    ?_, ?_, ?_⟩
  · rw [waited, List.append_assoc]
  · refine ⟨⟨.vfsMbimInfoSim, world (start + polls) .vfsMbimInfoSim⟩, ?_, ?_⟩
    · apply List.mem_append_right
      exact mem_asked.mpr ⟨polls, Nat.lt_succ_self polls, rfl⟩
    · obtain ⟨code, initialized⟩ := simVerdict_eq_some sends.ends
      rw [SimReady, ← Prod.mk.eta (p := world (start + polls) .vfsMbimInfoSim),
        ← code, initialized rfl]
  · refine ⟨⟨.vfsMbimInfoRegisterState, world (start + (polls + 1) + more)
      .vfsMbimInfoRegisterState⟩, ?_, ?_⟩
    · exact mem_asked.mpr ⟨more, Nat.lt_succ_self more, rfl⟩
    · obtain ⟨code, registered⟩ := sends.registers
      refine ⟨_, registered, ?_⟩
      rw [← code]

theorem main_guarded_iff (world : World Call Reply) (dest text : Sms.CString) :
    Guarded ((main dest text).run world []).2 ↔
      ¬ IgnoresStatus world dest text := by
  constructor
  · rintro guarded ⟨up, success, polls, more, early, simWaits, positive,
      registersEarly, registerWaits, registers, encodes⟩
    have ends : simVerdict (world (2 + polls) .vfsMbimInfoSim) =
        some (world (2 + polls) .vfsMbimInfoSim).1 :=
      if_pos (Int.ne_of_gt positive)
    have sends : Sends world dest text (opened world).length polls more _ :=
      ⟨early, simWaits, ends, Int.le_of_lt positive, registersEarly,
        registerWaits, registers, encodes⟩
    rw [run_main_of_opened up success, run_waitAndSend_of_sends sends]
      at guarded
    exact not_ready_of_positive sends positive
      ((guarded_sends_iff _ _ _).mp guarded)
  · intro heeds
    rcases main_cases world dest text with
      ⟨record, ran, before, -⟩ | ⟨up, success⟩
    · rw [ran]
      apply Free.guarded
      exact fun exchange member => opened_free exchange (before.subset member)
    · rw [run_main_of_opened up success]
      rcases waitAndSend_cases world dest text (opened world) with
        ⟨polls, closed, onlyPolls, ran⟩ | ⟨polls, more, ret, sends⟩
      · rw [ran]
        apply Free.guarded
        rw [free_append, free_append]
        exact ⟨⟨opened_free, onlyPolls.free⟩, free_singleton rfl⟩
      · rw [run_waitAndSend_of_sends sends]
        apply (guarded_sends_iff _ _ _).mpr
        rcases Int.lt_or_eq_of_le sends.passes with positive | rfl
        · have code := (simVerdict_eq_some sends.ends).1
          rw [code] at positive
          exact absurd ⟨up, success, polls, more, sends.early, sends.simWaits,
            positive, sends.registersEarly, sends.registerWaits,
            sends.registers, sends.encodes⟩ heeds
        · exact ready_of_zero sends

end SmsClient

/-- `mbim_sms` sends only with a registered modem, except where it takes a
positive MBIM status for a SIM that is ready.  `mbim_ntpd` connects only with a
registered modem. -/
theorem programs_guarded_iff (world : World Call Reply)
    (destNumber smsText : Sms.CString) :
    (Guarded ((SmsClient.main destNumber smsText).run world []).2 ↔
      ¬ SmsClient.IgnoresStatus world destNumber smsText) ∧
    Guarded (NtpdClient.main.run world []).2 := by
  constructor
  · exact SmsClient.main_guarded_iff world destNumber smsText
  · apply NtpdClient.main_guarded
    intro exchange impossible
    cases impossible

/-- A registered modem whose SIM queries all end in an MBIM status. -/
def simStatusWorld : World Call Reply := fun _ call =>
  match call with
  | .waitForIface _ => true
  | .vfsMbimOpen => 0
  | .vfsMbimInfoSim => (6, .other 0)
  | .vfsMbimInfoRegisterState => (0, .home)
  | .vfsMbimSmsSendPdu _ => 0
  | .vfsMbimConnect _ => 0
  | .vfsMbimInfoIpConnection => (0, [])
  | .vfsMbimClose => 0
  | .localtime => some 2025
  | .clockSettime _ _ _ => 0
  | .socket => 0
  | .addRoute _ _ => (0, .other 0)
  | .closeSocket => 0

theorem smsClient_ignores_status :
    ¬ Guarded ((SmsClient.main Sms.sampleDest Sms.sampleText).run
      simStatusWorld []).2 := by
  rw [SmsClient.main_guarded_iff]
  intro heeds
  apply heeds
  refine ⟨rfl, rfl, 0, 0, by decide, ?_, by decide, by decide, ?_, ?_,
    SmsClient.sample_accepted⟩
  · intro earlier impossible
    cases impossible
  · intro earlier impossible
    cases impossible
  · exact ⟨rfl, .inl rfl⟩

end KosCeExtra.Modem
