import KosCeExtra.Rabbitmq.Connection

/-!
# What the consumer does

A queue is declared, bound and consumed from under the name that the broker has given
it.  Then every delivered message is printed line by line and destroyed before the next
one is asked for.  On the way out the name is freed, and the channel and the connection
are closed; the connection object is not destroyed.
-/

namespace KosCeExtra.Rabbitmq.Consumer

open Dialogue Monitor

/-- What the consumer has done with its connection.  While a message is shown, the lines
that are still to come; behind the loop, whether the loop was what ended. -/
inductive Consuming where
  | undeclared
  | declared (queue : Text)
  | named (queue : Text)
  | copied (queue : Text)
  | bound (queue : Text)
  | attached (queue : Text)
  | started
  | receiving
  | released
  | showing (envelope : Envelope) (pending : List Text)
  | leaving (ended : Bool)
  | freed (ended : Bool)
  | channelClosed (ended : Bool)
  | closed (ended : Bool)
  deriving DecidableEq, Repr

def consuming : Monitor Call Reply Consuming
  | .undeclared, ⟨.queueDeclare, queue⟩ => some (.declared queue)
  | .declared queue, ⟨.getRpcReply, reply⟩ =>
      some (if reply = .normal then .named queue else .leaving false)
  | .named queue, ⟨.bytesMallocDup bytes, copy⟩ =>
      if bytes = queue then
        some (if copy = false then .leaving false else .copied queue)
      else
        none
  | .copied queue, ⟨.queueBind name target key, _⟩ =>
      if name = queue ∧ target = exchange ∧ key = bindingKey then some (.bound queue)
      else none
  | .bound queue, ⟨.getRpcReply, reply⟩ =>
      some (if reply = .normal then .attached queue else .leaving false)
  | .attached queue, ⟨.basicConsume name, _⟩ =>
      if name = queue then some .started else none
  | .started, ⟨.getRpcReply, reply⟩ =>
      some (if reply = .normal then .receiving else .leaving false)
  | .receiving, ⟨.maybeReleaseBuffers, _⟩ => some .released
  | .released, ⟨.consumeMessage, delivery⟩ =>
      some (if delivery.1 = .normal then
        .showing delivery.2 (envelopeLines delivery.2)
      else
        .leaving true)
  | .showing envelope (line :: pending), ⟨.print printed, _⟩ =>
      if printed = line then some (.showing envelope pending) else none
  | .showing envelope [], ⟨.destroyEnvelope destroyed, _⟩ =>
      if destroyed = envelope then some .receiving else none
  | .leaving ended, ⟨.bytesFree, _⟩ => some (.freed ended)
  | .freed ended, ⟨.channelClose, _⟩ => some (.channelClosed ended)
  | .channelClosed ended, ⟨.connectionClose, _⟩ => some (.closed ended)
  | _, _ => none

/-- Where an interruption leaves the consumer. -/
def Leaves : Interruption → Stage Consuming → Prop
  | .exception _, reached => reached.IsUnmade ∨ reached = .inside (.closed false)
  | .attempts, reached => reached = .inside .receiving
  | _, reached => reached = .apart

/-- The declaration has failed, or the loop has used up its attempts. -/
def Breaks : Interruption → Stage Consuming → Prop
  | .exception _, reached => reached = .inside (.leaving false)
  | .attempts, reached => reached = .inside .receiving
  | _, _ => False

variable {errorString : Int → Text}

theorem keeps_throw {reply : RpcReply} {context : Text} {next : Consuming} :
    Keeps .undeclared consuming
      (.inside (if reply = .normal then next else .leaving false))
      (throwOnAmqpError errorString reply context)
      (fun _ reached => reached = .inside next) Breaks := by
  rw [apply_ite Stage.inside]
  exact keeps_throwOnAmqpError fun _ => rfl

/-- The reply to the last request is asked for and tested. -/
theorem keeps_check {state next : Consuming} {context : Text}
    {later : Program Unit} {Post : Unit → Stage Consuming → Prop}
    (steps : ∀ reply, consuming state ⟨.getRpcReply, reply⟩ =
      some (if reply = .normal then next else .leaving false))
    (after : Keeps .undeclared consuming (.inside next) later Post Breaks) :
    Keeps .undeclared consuming (.inside state)
      (do
        let reply ← call .getRpcReply
        throwOnAmqpError errorString reply context
        later) Post Breaks := by
  apply Watches.callThen (f := fun reply => .inside
    (if reply = .normal then next else .leaving false))
  · intro reply
    rw [discipline_inside, steps, Option.map_some]
    nofun
  · intro reply
    apply Watches.bindExcept keeps_throw
    rintro _ reached rfl
    exact after

theorem keeps_declareQueue :
    Keeps .undeclared consuming (.inside .undeclared) (declareQueue errorString)
      (fun _ reached => reached = .inside .receiving) Breaks := by
  apply Watches.callThen (fun _ => rfl)
  intro queue
  apply keeps_check (fun _ => rfl)
  apply Watches.callThen (f := fun copy => .inside
    (if copy = false then .leaving false else .copied queue))
  · intro copy
    rw [discipline_inside, consuming, if_pos rfl, Option.map_some]
    nofun
  · intro copy
    apply Watches.iteExcept
    · rintro rfl
      exact .throwExcept rfl
    · intro hasCopy
      rw [if_neg hasCopy]
      apply Watches.callThen (f := fun _ => .inside (.bound queue))
      · intro _
        rw [discipline_inside, consuming, if_pos ⟨rfl, rfl, rfl⟩, Option.map_some]
        nofun
      · intro _
        apply keeps_check (fun _ => rfl)
        apply Watches.callThen (f := fun _ => .inside .started)
        · intro _
          rw [discipline_inside, consuming, if_pos rfl, Option.map_some]
          nofun
        · intro _
          apply Watches.callThen (fun _ => rfl)
          intro reply
          exact keeps_throw

theorem keeps_printLines (envelope : Envelope) (lines : List Text) :
    Keeps .undeclared consuming (.inside (.showing envelope lines))
      (printLines lines) (fun _ reached => reached = .inside (.showing envelope []))
      Breaks := by
  induction lines with
  | nil => exact .pureExcept rfl
  | cons line lines induction =>
      apply Watches.callThen (f := fun _ => .inside (.showing envelope lines))
      · intro _
        rw [discipline_inside, consuming, if_pos rfl, Option.map_some]
        nofun
      · intro _
        exact induction

theorem keeps_recvAndPrintData (attempts : Nat) :
    Keeps .undeclared consuming (.inside .receiving) (recvAndPrintData attempts)
      (fun _ reached => reached = .inside (.leaving true)) Breaks := by
  induction attempts with
  | zero => exact .throwExcept rfl
  | succ attempts induction =>
      apply Watches.callThen (fun _ => rfl)
      intro _
      apply Watches.callThen (fun _ => rfl)
      rintro ⟨res, envelope⟩
      apply Watches.iteExcept
      · intro other
        simp only
        rw [if_neg other]
        exact .pureExcept rfl
      · intro normal
        simp only
        rw [if_pos (not_not.mp normal)]
        apply Watches.bindExcept (keeps_printLines envelope _)
        rintro _ reached rfl
        apply Watches.callThen (f := fun _ => .inside .receiving)
        · intro _
          rw [discipline_inside, consuming, if_pos rfl, Option.map_some]
          nofun
        · intro _
          exact induction

theorem keeps_destructor (ended : Bool)
    {Failed : Interruption → Stage Consuming → Prop} :
    Keeps .undeclared consuming (.inside (.leaving ended)) destructor
      (fun _ reached => reached = .inside (.closed ended)) Failed := by
  apply Watches.callThen (fun _ => rfl)
  intro _
  apply Watches.callThen (fun _ => rfl)
  intro _
  apply Watches.lift
  apply Watches.ask
  intro _
  exact ⟨_, rfl, rfl⟩

theorem keeps_body (attempts : Nat) (hostname : Text) (port : Int) :
    Keeps .undeclared consuming .apart (body errorString attempts hostname port)
      (fun _ reached => reached = .inside (.closed true)) Leaves := by
  apply Watches.bindExcept (M := fun _ reached => reached = .inside .undeclared)
  · apply Watches.of_imp (keeps_connect hostname port)
    intro outcome reached holds
    cases outcome with
    | ok _ => exact holds
    | error interruption =>
        obtain ⟨⟨what, rfl⟩, unmade⟩ := holds
        exact .inl unmade
  · rintro _ reached rfl
    have kept : Keeps .undeclared consuming (.inside .undeclared)
        (do
          declareQueue errorString
          let _ ← call (.log "Waiting to receive data ...".toList)
          recvAndPrintData attempts)
        (fun _ reached => reached = .inside (.leaving true)) Breaks := by
      apply Watches.bindExcept keeps_declareQueue
      rintro _ reached rfl
      exact keeps_log (keeps_recvAndPrintData attempts)
    apply keeps_withDestructor kept
    · rintro reached rfl
      exact keeps_destructor true
    · rintro what reached rfl
      apply Watches.of_imp (keeps_destructor false)
      intro outcome reached holds
      cases outcome with
      | ok _ => exact .inr holds
      | error interruption => exact holds
    · intro interruption reached other broken
      cases interruption with
      | exception what => exact absurd rfl (other what)
      | attempts => exact broken
      | uncaught => exact broken.elim
      | undefined => exact broken.elim

theorem keeps_main (attempts : Nat) :
    Watches (discipline .undeclared consuming) .apart (main errorString attempts).run
      (Ends (fun reached => reached = .inside (.closed true)) Leaves) :=
  keeps_mainWith (keeps_body attempts)

private theorem not_done_of_leaves {interruption : Interruption}
    {reached : Stage Consuming}
    (left : Leaves interruption reached) : reached ≠ .inside (.closed true) := by
  rintro rfl
  cases interruption with
  | exception what =>
      rcases left with unmade | same
      · exact unmade _ rfl
      · cases same
  | uncaught => cases left
  | undefined => cases left
  | attempts => cases left

/-- Neither monitor lets the connection object be destroyed. -/
theorem discipline_keeps_connection {state next : Stage Consuming}
    {exchange : Exchange Call Reply}
    (stepped : discipline .undeclared consuming state exchange = some next) :
    exchange.1 ≠ .destroyConnection := by
  rcases discipline_cases _ _ stepped with ⟨setup, -⟩ | ⟨before, after, -, -, moved⟩
  · intro same
    rw [same] at setup
    exact setup
  · obtain ⟨made, reply⟩ := exchange
    rintro rfl
    cases before with
    | showing envelope pending => cases pending <;> cases moved
    | _ => cases moved

/-- Whatever the library and the broker reply, the consumer keeps to its order: the
queue is declared, bound and consumed from under one name, and each delivered message
is printed line by line and destroyed before the next one is asked for.  It ends with
success exactly when a reply of another kind has ended the loop; in a failure the
constructor or the declaration has not come to its end, and without an end the loop is
between two messages.  The connection is closed behind its constructor on every way
out, and its object is never destroyed. -/
theorem consumer_keeps_order (errorString : Int → Text) (attempts : Nat)
    (world : World Call Reply) :
    ∃ stage, (discipline .undeclared consuming).after .apart
        ((main errorString attempts).run.run world []).2 = some stage ∧
      (((main errorString attempts).run.run world []).1 = .ok .success ↔
        stage = .inside (.closed true)) ∧
      (((main errorString attempts).run.run world []).1 = .ok .failure →
        stage.IsUnmade ∨ stage = .inside (.closed false)) ∧
      (((main errorString attempts).run.run world []).1 = .error .attempts →
        stage = .inside .receiving) ∧
      ∀ exchange ∈ ((main errorString attempts).run.run world []).2,
        exchange.1 ≠ .destroyConnection := by
  obtain ⟨stage, accepted, ends⟩ := keeps_main attempts .apart world [] rfl
  have kept : ∀ exchange ∈ ((main errorString attempts).run.run world []).2,
      exchange.1 ≠ .destroyConnection := by
    intro exchange member
    obtain ⟨before, next, stepped⟩ := step_of_mem accepted member
    exact discipline_keeps_connection stepped
  refine ⟨stage, accepted, ?_⟩
  cases outcome : ((main errorString attempts).run.run world []).1 with
  | ok status =>
      rw [outcome] at ends
      cases status with
      | success => exact ⟨iff_of_true rfl ends, nofun, nofun, kept⟩
      | failure =>
          rcases ends with rfl | ⟨what, left⟩
          · exact ⟨iff_of_false nofun nofun, fun _ => .inl nofun, nofun, kept⟩
          · exact ⟨iff_of_false nofun (not_done_of_leaves left), fun _ => left, nofun,
              kept⟩
  | error interruption =>
      rw [outcome] at ends
      rcases ends with ⟨other, rfl⟩ | left
      · refine ⟨iff_of_false nofun nofun, nofun, ?_, kept⟩
        rintro ⟨⟩
        exact absurd rfl other
      · refine ⟨iff_of_false nofun (not_done_of_leaves left), nofun, ?_, kept⟩
        rintro ⟨⟩
        exact left

end KosCeExtra.Rabbitmq.Consumer
