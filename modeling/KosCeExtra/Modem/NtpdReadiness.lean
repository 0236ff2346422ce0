import KosCeExtra.Modem.Readiness

/-!
# `mbim_ntpd` and the state of the modem

Every helper of `mbim_ntpd` that makes no connection keeps what holds of the
record, and its waiting ends with success only on the reply that is waited for.
So the connection is always guarded.
-/

namespace KosCeExtra.Modem

open Dialogue

section Keeps

variable {Holds : Record → Prop} (kept : Kept Holds)

include kept

theorem closeSocketWith_keeps (status : ExitStatus) :
    Triple Holds (NtpdClient.closeSocketWith status) fun _ => Holds :=
  Triple.bind (ask_keeps kept rfl) fun _ => Triple.pure fun _ holds => holds

theorem setDefaultGateway_keeps (addr : UInt32) :
    Triple Holds (NtpdClient.setDefaultGateway addr) fun _ => Holds := by
  refine ask_unless kept rfl (fun _ holds => holds) fun _ => ?_
  refine Triple.bind (ask_keeps kept rfl) fun added => ?_
  apply Triple.ite
  · intro _
    apply Triple.ite
    · intro _
      refine Triple.bind (ask_keeps kept rfl) fun updated => ?_
      apply Triple.ite
      · intro _
        exact closeSocketWith_keeps kept .success
      · intro _
        exact closeSocketWith_keeps kept .failure
    · intro _
      exact closeSocketWith_keeps kept .failure
  · intro _
    exact closeSocketWith_keeps kept .success

theorem configureConnection_keeps :
    Triple Holds NtpdClient.configureConnection fun _ => Holds := by
  refine ask_unless kept rfl (fun _ holds => holds) fun _ => ?_
  refine ask_unless kept rfl (fun _ holds => holds) fun ipConfig => ?_
  cases ipConfig.2 with
  | nil => exact Triple.pure fun _ holds => holds
  | cons address _ => exact setDefaultGateway_keeps kept address

theorem setInitialTime_keeps :
    Triple Holds NtpdClient.setInitialTime fun _ => Holds := by
  refine ask_unless kept rfl (fun _ holds => holds) fun _ => ?_
  refine ask_unless kept rfl (fun _ holds => holds) fun _ => ?_
  refine ask_unless kept rfl (fun _ holds => holds) fun _ => ?_
  exact Triple.pure fun _ holds => holds

end Keeps

namespace NtpdClient

/-- Only an initialised subscriber ends the waiting with success. -/
theorem simVerdict_success {reply : Int × SubscriberState}
    (success : simVerdict reply = some .success) : reply = (0, .initialized) := by
  obtain ⟨ret, subState⟩ := reply
  simp only [simVerdict] at success
  split at success
  · cases success
  · split at success
    · simp_all
    · cases success

private theorem registerVerdict_success {reply : Int × RegisterState}
    (success : registerVerdict reply = some .success) :
    reply.1 = 0 ∧ reply.2.IsRegistered := by
  obtain ⟨ret, registerState⟩ := reply
  simp only [registerVerdict] at success
  split at success
  · cases success
  · cases registerState <;> simp_all [RegisterState.IsRegistered]

private theorem waitSimReady_ready (seconds : Nat) :
    Triple Free (waitSimReady seconds) fun status record =>
      Free record ∧
        (status = .success → ∃ exchange ∈ record, SimReady exchange) := by
  apply Triple.poll
  · intro record reply free _
    exact free_kept record ⟨_, reply⟩ rfl free
  · intro record reply status free decided
    refine ⟨free_kept record ⟨_, reply⟩ rfl free, ?_⟩
    rintro rfl
    refine ⟨⟨_, reply⟩, List.mem_append_right record List.mem_cons_self, ?_⟩
    rw [simVerdict_success decided]
    rfl
  · intro record free
    refine ⟨free, ?_⟩
    intro impossible
    cases impossible

private theorem waitRegistered_registered (seconds : Nat) :
    Triple (fun record =>
        Free record ∧ ∃ exchange ∈ record, SimReady exchange)
      (waitRegistered seconds) fun status record =>
        Free record ∧ (status = .success → ReadyThenRegistered record) := by
  apply Triple.poll
  · rintro record reply ⟨free, exchange, member, ready⟩ _
    constructor
    · exact free_kept record ⟨_, reply⟩ rfl free
    · exact ⟨exchange, List.mem_append_left _ member, ready⟩
  · rintro record reply status ⟨free, sim⟩ decided
    refine ⟨free_kept record ⟨_, reply⟩ rfl free, ?_⟩
    rintro rfl
    obtain ⟨ret, state⟩ := reply
    obtain ⟨rfl, registered⟩ := registerVerdict_success decided
    exact ⟨record, _, rfl, sim, _, List.mem_cons_self, state, registered, rfl⟩
  · rintro record ⟨free, -⟩
    refine ⟨free, ?_⟩
    intro impossible
    cases impossible

theorem mbimConnect_guarded (apn userName password : List UInt16) :
    Triple Free (mbimConnect apn userName password) fun _ => Guarded := by
  refine Triple.bind (waitSimReady_ready timeoutS) fun sim => ?_
  apply Triple.ite
  · intro _
    exact Triple.pure fun _ holds => holds.1.guarded
  · intro ready
    have registers := (waitRegistered_registered timeoutS).of_imp
      fun record (holds : Free record ∧ (sim = .success → _)) =>
        ⟨holds.1, holds.2 (not_not.mp ready)⟩
    refine Triple.bind registers fun registration => ?_
    apply Triple.ite
    · intro _
      exact Triple.pure fun _ holds => holds.1.guarded
    · intro registered
      have connects : Triple (fun record => Free record ∧
            (registration = .success → ReadyThenRegistered record))
          (ask (.vfsMbimConnect (connectArguments apn userName password)))
          fun _ => Guarded := by
        apply Triple.ask
        rintro record reply ⟨free, usable⟩
        exact free.guarded.concat fun _ => usable (not_not.mp registered)
      refine Triple.bind connects fun ret => ?_
      apply Triple.ite
      · intro _
        exact Triple.pure fun _ guarded => guarded
      · intro _
        exact configureConnection_keeps guarded_kept

theorem connectAndWait_guarded :
    Triple Free connectAndWait fun _ => Guarded := by
  refine Triple.bind (mbimConnect_guarded _ _ _) fun ret => ?_
  apply Triple.ite
  · intro _
    refine Triple.bind (ask_keeps guarded_kept rfl) fun closed => ?_
    exact Triple.pure fun _ guarded => guarded
  · intro _
    refine Triple.bind (poll_keeps guarded_kept rfl attempts) fun updated => ?_
    refine Triple.bind (ask_keeps guarded_kept rfl) fun closed => ?_
    exact Triple.pure fun _ guarded => guarded

/-- `mbim_ntpd` connects only with a registered modem. -/
theorem main_guarded : Triple Free main fun _ => Guarded := by
  refine Triple.bind (setInitialTime_keeps free_kept) fun ret => ?_
  apply Triple.ite
  · intro _
    exact Triple.pure fun _ free => free.guarded
  · intro _
    refine ask_unless free_kept rfl (fun _ free => free.guarded) fun _ => ?_
    refine ask_unless free_kept rfl (fun _ free => free.guarded) fun _ => ?_
    exact connectAndWait_guarded

end NtpdClient

end KosCeExtra.Modem
