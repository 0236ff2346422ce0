import KosCeExtra.Modem.Readiness
import KosCeExtra.Sms.Acceptance
import KosCeExtra.Sms.RoundTrip

/-!
# The runs of `mbim_sms`

The runs of the program are worked out by the replies of the modem.  `Sends` says
with which replies the program comes to the call that sends; with any others it
closes the modem behind the waiting, or does not open it.
-/

namespace KosCeExtra.Modem

open Dialogue

namespace SmsClient

/-- A reply after which `WaitSimReady` polls again. -/
def SimWaits (reply : Int × SubscriberState) : Prop :=
  reply.1 = 0 ∧ reply.2 ≠ .initialized

/-- A reply after which `WaitRegistered` polls again. -/
def RegisterWaits (reply : Int × RegisterState) : Prop :=
  reply.1 = 0 ∧ ∃ state, reply.2 = .other state

def Registers (reply : Int × RegisterState) : Prop :=
  reply.1 = 0 ∧ reply.2.IsRegistered

theorem simVerdict_eq_none_iff {reply : Int × SubscriberState} :
    simVerdict reply = none ↔ SimWaits reply := by
  obtain ⟨ret, subState⟩ := reply
  by_cases failed : ret = 0
  · by_cases ready : subState = .initialized
    · simp [simVerdict, SimWaits, failed, ready]
    · simp [simVerdict, SimWaits, failed, ready]
  · simp [simVerdict, SimWaits, failed]

/-- Every code of `VfsMbimInfoSim` that is not zero is handed on. -/
theorem simVerdict_eq_some {reply : Int × SubscriberState} {ret : Int}
    (decided : simVerdict reply = some ret) :
    ret = reply.1 ∧ (ret = 0 → reply.2 = .initialized) := by
  obtain ⟨code, subState⟩ := reply
  by_cases failed : code = 0
  · by_cases ready : subState = .initialized
    · simp_all [simVerdict]
    · simp_all [simVerdict]
  · simp_all [simVerdict]

theorem registerVerdict_eq_none_iff {reply : Int × RegisterState} :
    registerVerdict reply = none ↔ RegisterWaits reply := by
  obtain ⟨ret, state⟩ := reply
  by_cases failed : ret = 0
  · cases state <;> simp [registerVerdict, RegisterWaits, failed]
  · simp [registerVerdict, RegisterWaits, failed]

private theorem registerVerdict_eq_some {reply : Int × RegisterState} {ret : Int}
    (decided : registerVerdict reply = some ret) :
    (ret = 0 ∧ Registers reply) ∨ ret = -1 := by
  obtain ⟨code, state⟩ := reply
  by_cases failed : code = 0
  · cases state <;>
      simp_all [registerVerdict, Registers, RegisterState.IsRegistered]
  · right
    simp_all [registerVerdict]

private theorem registerVerdict_of_registers {reply : Int × RegisterState}
    (registers : Registers reply) : registerVerdict reply = some 0 := by
  obtain ⟨ret, state⟩ := reply
  obtain ⟨rfl, rfl | rfl | rfl⟩ := registers
  · rfl
  · rfl
  · rfl

/-- The buffer of `main` is large enough for every store of the encoder. -/
theorem not_overruns (dest : Sms.CString) : ¬ Sms.Overruns none dest 256 256 := by
  intro overruns
  rcases overruns with ⟨-, small | ⟨-, small | ⟨ok, -, small⟩⟩⟩
  · simp [Sms.scaField] at small
  · simp [Sms.scaField] at small
  · have short := ok.short
    simp only [Sms.pduNumLenMax] at short
    simp only [Sms.scaField, List.length_singleton] at small
    omega

/-- The number and the text that the program comes with. -/
theorem sample_accepted :
    Sms.Accepted none Sms.sampleDest Sms.sampleText 256 := by
  have number : Sms.IsNumber Sms.sampleDest :=
    ⟨List.all_eq_true.mp rfl, by decide⟩
  refine ⟨by decide, ?_, number, by decide, by decide⟩
  intro centre impossible
  cases impossible

theorem pduBuffer_length : pduBuffer.length = 256 :=
  List.length_replicate

theorem pduBuffer_room : 256 ≤ pduBuffer.length := by
  rw [pduBuffer_length]

private theorem encodeAndSend_of_accepted {dest text : Sms.CString}
    (accepted : Sms.Accepted none dest text 256) :
    encodeAndSend dest text = sendAndClose (Sms.submitPdu none dest text) := by
  obtain ⟨large, encodable⟩ := Sms.accepted_iff.mp accepted
  unfold encodeAndSend
  rw [Sms.asciiToPdu_encodable large encodable pduBuffer_room]
  simp only [Int.toNat_natCast, List.take_left]
  exact if_neg (Int.not_lt.mpr (Int.natCast_nonneg _))

private theorem encodeAndSend_of_refused {dest text : Sms.CString}
    (refused : ¬ Sms.Accepted none dest text 256) :
    encodeAndSend dest text = closeAndFail := by
  have large : Sms.pduLenMin ≤ 256 := by decide
  have bad : ¬ Sms.Encodable none dest text 256 := fun encodable =>
    refused (Sms.accepted_iff.mpr ⟨large, encodable⟩)
  have inside : ¬ Sms.Overruns none dest pduBuffer.length 256 := by
    rw [pduBuffer_length]
    exact not_overruns dest
  obtain ⟨changed, stopped⟩ :=
    Sms.encodePdu_refuses bad inside large pduBuffer_room
  unfold encodeAndSend
  rw [Sms.asciiToPdu, if_neg (Nat.not_lt.mpr large), stopped]
  rfl

/-- The replies with which the program comes to send its message, from the call
`start` on: `WaitSimReady` returns `ret` at its poll `polls`, and the modem is
registered `more` polls later. -/
structure Sends (world : World Call Reply) (dest text : Sms.CString)
    (start polls more : Nat) (ret : Int) : Prop where
  early : polls < timeoutS
  simWaits : ∀ earlier, earlier < polls →
    SimWaits (world (start + earlier) .vfsMbimInfoSim)
  ends : simVerdict (world (start + polls) .vfsMbimInfoSim) = some ret
  passes : 0 ≤ ret
  registersEarly : more < timeoutS
  registerWaits : ∀ earlier, earlier < more →
    RegisterWaits (world (start + (polls + 1) + earlier)
      .vfsMbimInfoRegisterState)
  registers : Registers (world (start + (polls + 1) + more)
    .vfsMbimInfoRegisterState)
  encodes : Sms.Accepted none dest text 256

/-- What the waiting puts on the record. -/
def waited (world : World Call Reply) (start polls more : Nat) : Record :=
  asked world .vfsMbimInfoSim start (polls + 1) ++
    asked world .vfsMbimInfoRegisterState (start + (polls + 1)) (more + 1)

variable {world : World Call Reply} {dest text : Sms.CString}
  {polls more : Nat} {ret : Int}

private theorem run_waitSimReady_of_sends {record : Record}
    (sends : Sends world dest text record.length polls more ret) :
    (waitSimReady timeoutS).run world record =
      (ret, record ++
        asked world .vfsMbimInfoSim record.length (polls + 1)) := by
  apply run_poll_of_verdict sends.early
  · intro earlier before
    exact simVerdict_eq_none_iff.mpr (sends.simWaits earlier before)
  · exact sends.ends

private theorem run_waitRegistered_of_sends {record : Record} {start : Nat}
    (place : record.length = start + (polls + 1))
    (sends : Sends world dest text start polls more ret) :
    (waitRegistered timeoutS).run world record =
      (0, record ++
        asked world .vfsMbimInfoRegisterState record.length (more + 1)) := by
  apply run_poll_of_verdict sends.registersEarly
  · intro earlier before
    rw [place]
    exact registerVerdict_eq_none_iff.mpr (sends.registerWaits earlier before)
  · rw [place]
    exact registerVerdict_of_registers sends.registers

/-- How `main` ends behind the call that sends, by the code of the last call. -/
def sentEnding (closed : Int) : Ending :=
  if closed < 0 then .exit .failure else .exit .success

private theorem run_sendAndClose (pdu : List UInt8) (record : Record) :
    (sendAndClose pdu).run world record =
      (sentEnding (world (record.length + 1) .vfsMbimClose),
        record ++ [⟨.vfsMbimSmsSendPdu pdu,
            world record.length (.vfsMbimSmsSendPdu pdu)⟩,
          ⟨.vfsMbimClose, world (record.length + 1) .vfsMbimClose⟩]) := by
  rw [sendAndClose, run_bind, run_ask, run_bind, run_ask, sentEnding]
  simp only [List.length_append, List.length_singleton]
  rw [List.append_assoc, List.singleton_append]
  split
  · rfl
  · rfl

/-- The calls behind the waiting: the message is sent and the modem closed. -/
def sentAndClosed (world : World Call Reply) (dest text : Sms.CString)
    (start : Nat) : Record :=
  [⟨.vfsMbimSmsSendPdu (Sms.submitPdu none dest text),
      world start (.vfsMbimSmsSendPdu (Sms.submitPdu none dest text))⟩,
    ⟨.vfsMbimClose, world (start + 1) .vfsMbimClose⟩]

theorem run_waitAndSend_of_sends {record : Record}
    (sends : Sends world dest text record.length polls more ret) :
    (waitAndSend dest text).run world record =
      (sentEnding (world (record.length + (polls + 1) + (more + 1) + 1)
          .vfsMbimClose),
        record ++ waited world record.length polls more ++
          sentAndClosed world dest text
            (record.length + (polls + 1) + (more + 1))) := by
  rw [waitAndSend, run_bind, run_waitSimReady_of_sends sends]
  simp only
  rw [if_neg (Int.not_lt.mpr sends.passes), run_bind,
    run_waitRegistered_of_sends (by simp) sends]
  simp only
  rw [if_neg (Int.not_lt.mpr (Int.le_refl 0)),
    encodeAndSend_of_accepted sends.encodes, run_sendAndClose, waited,
    sentAndClosed]
  simp only [List.length_append, asked_length, List.append_assoc,
    Nat.add_assoc]

/-- Nothing but the calls of the waiting. -/
def OnlyPolls (record : Record) : Prop :=
  ∀ exchange ∈ record,
    exchange.1 = .vfsMbimInfoSim ∨ exchange.1 = .vfsMbimInfoRegisterState

theorem onlyPolls_asked (world : World Call Reply) {call : Call}
    (polls : call = .vfsMbimInfoSim ∨ call = .vfsMbimInfoRegisterState)
    (start count : Nat) :
    OnlyPolls (asked world call start count) := by
  intro exchange member
  obtain ⟨index, -, rfl⟩ := mem_asked.mp member
  exact polls

theorem OnlyPolls.append {first second : Record} (polls : OnlyPolls first)
    (more : OnlyPolls second) : OnlyPolls (first ++ second) :=
  List.forall_mem_append.mpr ⟨polls, more⟩

theorem OnlyPolls.free {record : Record} (polls : OnlyPolls record) :
    Free record := by
  intro exchange member
  rcases polls exchange member with sim | registration
  · rw [sim]
    rfl
  · rw [registration]
    rfl

theorem onlyPolls_waited (start : Nat) :
    OnlyPolls (waited world start polls more) :=
  (onlyPolls_asked world (.inl rfl) _ _).append (onlyPolls_asked world (.inr rfl) _ _)

/-- The part behind `WaitSimReady` comes to send, or closes the modem behind its
own polls. -/
theorem registerAndSend_cases (world : World Call Reply)
    (dest text : Sms.CString) (record : Record) :
    (∃ polls closed, OnlyPolls polls ∧
      (do
        if (← waitRegistered timeoutS) < 0 then closeAndFail
        else encodeAndSend dest text : Program Ending).run world record =
        (.exit .failure, record ++ polls ++ [⟨.vfsMbimClose, closed⟩])) ∨
      ∃ more, more < timeoutS ∧
        (∀ earlier, earlier < more → RegisterWaits
          (world (record.length + earlier) .vfsMbimInfoRegisterState)) ∧
        Registers (world (record.length + more) .vfsMbimInfoRegisterState) ∧
        Sms.Accepted none dest text 256 := by
  have onlyPolls : ∀ count, OnlyPolls
      (asked world .vfsMbimInfoRegisterState record.length count) :=
    onlyPolls_asked world (.inr rfl) record.length
  rw [run_bind, waitRegistered]
  rcases run_poll_cases .vfsMbimInfoRegisterState registerVerdict (-1) world
      record timeoutS with
    ⟨more, code, early, waits, registered, ran⟩ | ⟨-, ran⟩
  · rw [ran]
    rcases registerVerdict_eq_some registered with ⟨rfl, registers⟩ | rfl
    · by_cases encodes : Sms.Accepted none dest text 256
      · right
        refine ⟨more, early, ?_, registers, encodes⟩
        intro earlier before
        exact registerVerdict_eq_none_iff.mp (waits earlier before)
      · left
        simp only
        rw [if_neg (Int.not_lt.mpr (Int.le_refl 0)),
          encodeAndSend_of_refused encodes]
        exact ⟨_, _, onlyPolls (more + 1), rfl⟩
    · left
      exact ⟨_, _, onlyPolls (more + 1), rfl⟩
  · left
    rw [ran]
    exact ⟨_, _, onlyPolls timeoutS, rfl⟩

/-- Otherwise the modem is closed behind the waiting. -/
theorem waitAndSend_cases (world : World Call Reply) (dest text : Sms.CString)
    (record : Record) :
    (∃ polls closed, OnlyPolls polls ∧
      (waitAndSend dest text).run world record =
        (.exit .failure, record ++ polls ++ [⟨.vfsMbimClose, closed⟩])) ∨
      ∃ polls more ret,
        Sends world dest text record.length polls more ret := by
  have onlyPolls : ∀ count, OnlyPolls
      (asked world .vfsMbimInfoSim record.length count) :=
    onlyPolls_asked world (.inl rfl) record.length
  rw [waitAndSend, run_bind, waitSimReady]
  rcases run_poll_cases .vfsMbimInfoSim simVerdict (-1) world record
      timeoutS with
    ⟨polls, ret, early, simWaits, ends, ran⟩ | ⟨-, ran⟩
  · rw [ran]
    simp only
    by_cases failed : ret < 0
    · left
      rw [if_pos failed]
      exact ⟨_, _, onlyPolls (polls + 1), rfl⟩
    · rw [if_neg failed]
      rcases registerAndSend_cases world dest text (record ++
          asked world .vfsMbimInfoSim record.length (polls + 1)) with
        ⟨more, closed, morePolls, closes⟩ |
          ⟨more, registersEarly, registerWaits, registers, encodes⟩
      · left
        rw [closes, List.append_assoc record]
        exact ⟨_, closed, (onlyPolls (polls + 1)).append morePolls, rfl⟩
      · right
        rw [List.length_append, asked_length] at registerWaits registers
        refine ⟨polls, more, ret, early, ?_, ends, Int.not_lt.mp failed,
          registersEarly, registerWaits, registers, encodes⟩
        intro earlier before
        exact simVerdict_eq_none_iff.mp (simWaits earlier before)
  · left
    rw [ran]
    exact ⟨_, _, onlyPolls timeoutS, rfl⟩

/-- The record of `main` up to an opened modem. -/
def opened (world : World Call Reply) : Record :=
  [⟨.waitForIface .iwfExists, world 0 (.waitForIface .iwfExists)⟩,
    ⟨.vfsMbimOpen, world 1 .vfsMbimOpen⟩]

theorem opened_free : Free (opened world) := by
  intro exchange member
  rcases List.mem_pair.mp member with rfl | rfl
  · rfl
  · rfl

theorem run_main_of_opened
    (up : world 0 (.waitForIface .iwfExists) = true)
    (success : world 1 .vfsMbimOpen = 0) :
    (main dest text).run world [] =
      (waitAndSend dest text).run world (opened world) := by
  rw [main, run_bind, run_ask]
  simp only [List.length_nil, List.nil_append]
  rw [if_neg (by rw [up]; exact Bool.true_eq_false.mp), run_bind, run_ask]
  simp only [List.length_singleton]
  rw [if_neg (not_not.mpr success)]
  rfl

/-- Otherwise the program ends before it has opened the modem. -/
theorem main_cases (world : World Call Reply) (dest text : Sms.CString) :
    (∃ record, (main dest text).run world [] = (.exit .failure, record) ∧
      record <+: opened world ∧ ⟨.vfsMbimOpen, (0 : Int)⟩ ∉ record) ∨
      (world 0 (.waitForIface .iwfExists) = true ∧
        world 1 .vfsMbimOpen = 0) := by
  rw [main, run_bind, run_ask]
  simp only [List.length_nil, List.nil_append]
  cases up : world 0 (.waitForIface .iwfExists) with
  | false =>
      left
      rw [if_pos rfl, run_pure, ← up]
      exact ⟨_, rfl, ⟨[_], rfl⟩, by simp⟩
  | true =>
      rw [if_neg (Bool.true_eq_false.mp ·), run_bind, run_ask, ← up]
      by_cases success : world 1 .vfsMbimOpen = 0
      · exact .inr ⟨rfl, success⟩
      · left
        simp only [List.length_singleton]
        rw [if_pos success, run_pure]
        refine ⟨_, rfl, List.prefix_rfl, ?_⟩
        simp [Ne.symm success]

end SmsClient

end KosCeExtra.Modem
