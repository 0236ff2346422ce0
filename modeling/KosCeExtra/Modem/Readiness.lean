import KosCeExtra.Modem.Programs

/-!
# When the modem is used

Sending a message and connecting need a modem with an initialised SIM that is
registered in a network.  `Guarded` says of the record of a program that it had
both replies before it made such a call.
-/

namespace KosCeExtra.Modem

open Dialogue

abbrev Record := List (Exchange Call Reply)

/-- The calls that need a registered modem. -/
def Call.needsRegistration : Call → Bool
  | .vfsMbimSmsSendPdu _ => true
  | .vfsMbimConnect _ => true
  | _ => false

/-- `VfsMbimInfoSim` returned 0 with an initialised subscriber. -/
def SimReady (exchange : Exchange Call Reply) : Prop :=
  exchange = ⟨.vfsMbimInfoSim, (0, .initialized)⟩

/-- The states in which the modem is registered. -/
def RegisterState.IsRegistered (state : RegisterState) : Prop :=
  state = .home ∨ state = .roaming ∨ state = .partner

/-- `VfsMbimInfoRegisterState` returned 0 with such a state. -/
def Registered (exchange : Exchange Call Reply) : Prop :=
  ∃ state : RegisterState, state.IsRegistered ∧
    exchange = ⟨.vfsMbimInfoRegisterState, (0, state)⟩

def ReadyThenRegistered (before : Record) : Prop :=
  ∃ front back, before = front ++ back ∧
    (∃ exchange ∈ front, SimReady exchange) ∧
    ∃ exchange ∈ back, Registered exchange

def Guarded (record : Record) : Prop :=
  ∀ before exchange after, record = before ++ exchange :: after →
    exchange.1.needsRegistration = true → ReadyThenRegistered before

/-- Without calls that need a registered modem. -/
def Free (record : Record) : Prop :=
  ∀ exchange ∈ record, exchange.1.needsRegistration = false

theorem Free.guarded {record : Record} (free : Free record) :
    Guarded record := by
  intro before exchange after split needs
  have member : exchange ∈ record := by
    rw [split]
    exact List.mem_append_right before List.mem_cons_self
  rw [free exchange member] at needs
  cases needs

theorem free_append {first second : Record} :
    Free (first ++ second) ↔ Free first ∧ Free second :=
  List.forall_mem_append

theorem free_singleton {exchange : Exchange Call Reply}
    (needless : exchange.1.needsRegistration = false) : Free [exchange] := by
  intro other member
  rw [List.mem_singleton.mp member]
  exact needless

theorem Guarded.concat {record : Record} {exchange : Exchange Call Reply}
    (guarded : Guarded record)
    (ready : exchange.1.needsRegistration = true →
      ReadyThenRegistered record) :
    Guarded (record ++ [exchange]) := by
  intro before other after split needs
  rcases List.eq_nil_or_concat after with rfl | ⟨inner, last, rfl⟩
  · obtain ⟨rfl, same⟩ := List.append_inj' split rfl
    cases same
    exact ready needs
  · rw [List.concat_eq_append, ← List.cons_append, ← List.append_assoc]
      at split
    obtain ⟨inside, -⟩ := List.append_inj' split rfl
    exact guarded before other inner inside needs

private theorem Guarded.append_free {record more : Record} (guarded : Guarded record)
    (free : Free more) : Guarded (record ++ more) := by
  induction more generalizing record with
  | nil =>
      rw [List.append_nil]
      exact guarded
  | cons exchange more induction =>
      rw [← List.singleton_append, ← List.append_assoc]
      apply induction
      · apply guarded.concat
        intro needs
        rw [free exchange List.mem_cons_self] at needs
        cases needs
      · intro later member
        exact free later (List.mem_cons_of_mem exchange member)

/-- One call that needs a registered modem, between calls that do not. -/
theorem guarded_operation_iff {before after : Record}
    {exchange : Exchange Call Reply} (free : Free before)
    (needs : exchange.1.needsRegistration = true) (freeAfter : Free after) :
    Guarded (before ++ exchange :: after) ↔ ReadyThenRegistered before := by
  constructor
  · intro guarded
    exact guarded before exchange after rfl needs
  · intro ready
    rw [← List.singleton_append, ← List.append_assoc]
    apply Guarded.append_free _ freeAfter
    exact free.guarded.concat fun _ => ready

/-- A property of records that calls without need of registration keep. -/
def Kept (Holds : Record → Prop) : Prop :=
  ∀ record (exchange : Exchange Call Reply),
    exchange.1.needsRegistration = false → Holds record →
      Holds (record ++ [exchange])

theorem free_kept : Kept Free := by
  intro record exchange free holds
  exact free_append.mpr ⟨holds, free_singleton free⟩

theorem guarded_kept : Kept Guarded := by
  intro record exchange free guarded
  apply guarded.concat
  intro needs
  rw [free] at needs
  cases needs

section Keeps

variable {Holds : Record → Prop} (kept : Kept Holds)

include kept

theorem ask_keeps {call : Call} (free : call.needsRegistration = false) :
    Triple Holds (ask call) fun _ => Holds :=
  Triple.ask fun record reply holds => kept record ⟨call, reply⟩ free holds

theorem poll_keeps {α : Type} {call : Call} {verdict : Reply call → Option α}
    {timedOut : α} (free : call.needsRegistration = false) (tries : Nat) :
    Triple Holds (poll call verdict timedOut tries) fun _ => Holds :=
  Triple.poll
    (fun record reply holds _ => kept record ⟨call, reply⟩ free holds)
    (fun record reply _ holds _ => kept record ⟨call, reply⟩ free holds)
    (fun _ holds => holds) tries

/-- A call whose reply may end the program. -/
theorem ask_unless {α : Type} {call : Call} {stop : Reply call → Prop}
    [∀ reply, Decidable (stop reply)] {result : α}
    {next : Reply call → Program α} {Post : α → Record → Prop}
    (free : call.needsRegistration = false)
    (stops : ∀ record, Holds record → Post result record)
    (continues : ∀ reply, Triple Holds (next reply) Post) :
    Triple Holds (do
      let reply ← ask call
      if stop reply then pure result else next reply) Post := by
  refine Triple.bind (ask_keeps kept free) fun reply => ?_
  apply Triple.ite
  · intro _
    exact Triple.pure stops
  · intro _
    exact continues reply

end Keeps

end KosCeExtra.Modem
