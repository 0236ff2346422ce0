import KosCeExtra.Modem.SmsRuns

/-!
# The exit status of `mbim_sms`, and its modem

`main` closes the modem on every way out behind the call that opens it.  Behind
the call that sends it takes its exit status from the call that closes, so a
message that was not sent is a success if the modem could be closed.
-/

namespace KosCeExtra.Modem

open Dialogue

namespace SmsClient

/-- The program ends with success only if its message has been sent. -/
def Truthful (run : Ending × Record) : Prop :=
  run.1 = .exit .success →
    ∃ pdu, ⟨.vfsMbimSmsSendPdu pdu, (0 : Int)⟩ ∈ run.2

/-- A modem that was opened is closed once, behind every other call. -/
def Released (record : Record) : Prop :=
  ⟨.vfsMbimOpen, (0 : Int)⟩ ∈ record →
    ∃ before closed, record = before ++ [⟨.vfsMbimClose, closed⟩] ∧
      ∀ exchange ∈ before, exchange.1 ≠ .vfsMbimClose

/-- The message comes to be sent, that call fails, and the modem is closed without
a negative code. -/
def HidesFailure (world : World Call Reply) (dest text : Sms.CString) : Prop :=
  world 0 (.waitForIface .iwfExists) = true ∧
    world 1 .vfsMbimOpen = 0 ∧
    ∃ polls more ret, Sends world dest text 2 polls more ret ∧
      world (2 + (polls + 1) + (more + 1))
        (.vfsMbimSmsSendPdu (Sms.submitPdu none dest text)) ≠ 0 ∧
      0 ≤ world (2 + (polls + 1) + (more + 1) + 1) .vfsMbimClose

variable {world : World Call Reply} {dest text : Sms.CString}

private theorem not_close_of_opened {exchange : Exchange Call Reply}
    (member : exchange ∈ opened world) : exchange.1 ≠ .vfsMbimClose := by
  rcases List.mem_pair.mp member with rfl | rfl
  · simp
  · simp

private theorem OnlyPolls.not_close {record : Record} (polls : OnlyPolls record)
    {exchange : Exchange Call Reply} (member : exchange ∈ record) :
    exchange.1 ≠ .vfsMbimClose := by
  rcases polls exchange member with sim | registration
  · rw [sim]
    simp
  · rw [registration]
    simp

private theorem main_released (world : World Call Reply) (dest text : Sms.CString) :
    Released ((main dest text).run world []).2 := by
  rcases main_cases world dest text with
    ⟨record, ran, -, unopened⟩ | ⟨up, success⟩
  · rw [ran]
    exact fun wasOpened => absurd wasOpened unopened
  · rw [run_main_of_opened up success]
    intro _
    rcases waitAndSend_cases world dest text (opened world) with
      ⟨polls, closed, onlyPolls, ran⟩ | ⟨polls, more, ret, sends⟩
    · rw [ran]
      refine ⟨opened world ++ polls, closed, rfl, ?_⟩
      intro exchange member
      rcases List.mem_append.mp member with first | later
      · exact not_close_of_opened first
      · exact onlyPolls.not_close later
    · rw [run_waitAndSend_of_sends sends, sentAndClosed,
        ← List.singleton_append, ← List.append_assoc]
      refine ⟨_, _, rfl, ?_⟩
      intro exchange member
      rcases List.mem_append.mp member with earlier | sent
      · rcases List.mem_append.mp earlier with first | later
        · exact not_close_of_opened first
        · exact (onlyPolls_waited _).not_close later
      · rw [List.mem_singleton.mp sent]
        simp

/-- Only the call behind the waiting sends. -/
theorem sent_of_mem {start polls more : Nat} {pdu : List UInt8}
    (member : ⟨.vfsMbimSmsSendPdu pdu, (0 : Int)⟩ ∈
      opened world ++ waited world 2 polls more ++
        sentAndClosed world dest text start) :
    world start (.vfsMbimSmsSendPdu (Sms.submitPdu none dest text)) = 0 := by
  rcases List.mem_append.mp member with earlier | last
  · rcases List.mem_append.mp earlier with first | later
    · simp [opened] at first
    · rcases onlyPolls_waited _ _ later with impossible | impossible
      · cases impossible
      · cases impossible
  · rcases List.mem_pair.mp last with sent | closed
    · obtain rfl : pdu = Sms.submitPdu none dest text :=
        Call.vfsMbimSmsSendPdu.inj (congrArg Sigma.fst sent)
      exact (eq_of_heq (Sigma.mk.inj sent).2).symm
    · cases closed

theorem truthful_iff_not_hidesFailure (world : World Call Reply)
    (dest text : Sms.CString) :
    Truthful ((main dest text).run world []) ↔
      ¬ HidesFailure world dest text := by
  constructor
  · intro truthful hides
    obtain ⟨up, success, polls, more, ret, sends, failed, closed⟩ := hides
    have ran : (waitAndSend dest text).run world (opened world) = _ :=
      run_waitAndSend_of_sends sends
    rw [run_main_of_opened up success, ran] at truthful
    obtain ⟨pdu, sent⟩ := truthful (if_neg (Int.not_lt.mpr closed))
    exact failed (sent_of_mem sent)
  · intro heeds ended
    rcases main_cases world dest text with
      ⟨record, ran, -⟩ | ⟨up, success⟩
    · rw [ran] at ended
      cases ended
    · rw [run_main_of_opened up success] at ended ⊢
      rcases waitAndSend_cases world dest text (opened world) with
        ⟨polls, closed, -, ran⟩ | ⟨polls, more, ret, sends⟩
      · rw [ran] at ended
        cases ended
      · rw [run_waitAndSend_of_sends sends] at ended ⊢
        have closed : 0 ≤ world (2 + (polls + 1) + (more + 1) + 1)
            .vfsMbimClose := by
          by_contra negative
          have failed : sentEnding (world (2 + (polls + 1) + (more + 1) + 1)
              .vfsMbimClose) = .exit .failure :=
            if_pos (Int.not_le.mp negative)
          cases failed.symm.trans ended
        have sent : world (2 + (polls + 1) + (more + 1))
            (.vfsMbimSmsSendPdu (Sms.submitPdu none dest text)) = 0 := by
          by_contra failed
          exact heeds ⟨up, success, polls, more, ret, sends, failed, closed⟩
        refine ⟨Sms.submitPdu none dest text, ?_⟩
        apply List.mem_append_right
        rw [← sent]
        exact List.mem_cons_self

end SmsClient

/-- `mbim_sms` ends with success only if its message was sent, except where the
modem is closed behind a failed try.  It closes every modem that it has opened, once
and behind every other call. -/
theorem smsClient_truthful_iff (world : World Call Reply)
    (destNumber smsText : Sms.CString) :
    (SmsClient.Truthful ((SmsClient.main destNumber smsText).run world []) ↔
      ¬ SmsClient.HidesFailure world destNumber smsText) ∧
    SmsClient.Released
      ((SmsClient.main destNumber smsText).run world []).2 :=
  ⟨SmsClient.truthful_iff_not_hidesFailure world destNumber smsText,
    SmsClient.main_released world destNumber smsText⟩

/-- A ready modem that refuses to send. -/
def refusingWorld : World Call Reply := fun _ call =>
  match call with
  | .waitForIface _ => true
  | .vfsMbimOpen => 0
  | .vfsMbimInfoSim => (0, .initialized)
  | .vfsMbimInfoRegisterState => (0, .home)
  | .vfsMbimSmsSendPdu _ => 2
  | .vfsMbimConnect _ => 0
  | .vfsMbimInfoIpConnection => (0, [])
  | .vfsMbimClose => 0
  | .localtime => some 2025
  | .clockSettime _ _ _ => 0
  | .socket => 0
  | .addRoute _ _ => (0, .other 0)
  | .closeSocket => 0

/-- The refusal is a success for the caller. -/
theorem smsClient_hides_refusal :
    ¬ SmsClient.Truthful ((SmsClient.main Sms.sampleDest Sms.sampleText).run
      refusingWorld []) := by
  have sends : SmsClient.Sends refusingWorld Sms.sampleDest Sms.sampleText 2 0 0
      0 := by
    refine ⟨by decide, ?_, rfl, Int.le_refl 0, by decide, ?_, ⟨rfl, .inl rfl⟩,
      SmsClient.sample_accepted⟩
    · intro earlier impossible
      cases impossible
    · intro earlier impossible
      cases impossible
  rw [SmsClient.truthful_iff_not_hidesFailure]
  intro heeds
  apply heeds
  refine ⟨rfl, rfl, 0, 0, 0, sends, ?_, ?_⟩
  · decide
  · decide

end KosCeExtra.Modem
