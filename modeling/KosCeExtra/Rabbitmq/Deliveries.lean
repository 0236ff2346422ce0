import KosCeExtra.Rabbitmq.ConsumerRuns

/-!
# What the consumer prints of the deliveries

What a delivered message adds to the lines that are still to come is taken off by
printing, and the message that it adds to those held by destroying it.
-/

namespace KosCeExtra.Rabbitmq.Consumer

open Dialogue Monitor

def deliveredBy : Exchange Call Reply → List Envelope
  | ⟨.consumeMessage, delivery⟩ =>
      if delivery.1 = .normal then [delivery.2] else []
  | _ => []

def printedBy : Exchange Call Reply → List Text
  | ⟨.print line, _⟩ => [line]
  | _ => []

def destroyedBy : Exchange Call Reply → List Envelope
  | ⟨.destroyEnvelope envelope, _⟩ => [envelope]
  | _ => []

/-- The lines that are still to be printed. -/
def pending : Stage Consuming → List Text
  | .inside (.showing _ lines) => lines
  | _ => []

/-- The message that is still to be destroyed. -/
def held : Stage Consuming → List Envelope
  | .inside (.showing envelope _) => [envelope]
  | _ => []

/-- No message is being shown. -/
def IsClear (stage : Stage Consuming) : Prop :=
  ∀ envelope lines, stage ≠ .inside (.showing envelope lines)

theorem pending_of_isClear {stage : Stage Consuming} (clear : IsClear stage) :
    pending stage = [] := by
  unfold pending
  split
  · exact absurd rfl (clear _ _)
  · rfl

theorem held_of_isClear {stage : Stage Consuming} (clear : IsClear stage) :
    held stage = [] := by
  unfold held
  split
  · exact absurd rfl (clear _ _)
  · rfl

/-- What an accepted exchange does to the messages: one is delivered while none is
shown, its next line is printed, it is destroyed behind its last line, or nothing of
the kind happens. -/
inductive Handling : Stage Consuming → Exchange Call Reply → Stage Consuming → Prop
  | deliver (envelope : Envelope) :
      Handling (.inside .released) ⟨.consumeMessage, (.normal, envelope)⟩
        (.inside (.showing envelope (envelopeLines envelope)))
  | print (envelope : Envelope) (line : Text) (lines : List Text) :
      Handling (.inside (.showing envelope (line :: lines))) ⟨.print line, ()⟩
        (.inside (.showing envelope lines))
  | destroy (envelope : Envelope) :
      Handling (.inside (.showing envelope [])) ⟨.destroyEnvelope envelope, ()⟩
        (.inside .receiving)
  | other {stage next : Stage Consuming} {exchange : Exchange Call Reply}
      (same : pending stage = pending next ∧ held stage = held next)
      (delivers : deliveredBy exchange = []) (prints : printedBy exchange = [])
      (destroys : destroyedBy exchange = []) : Handling stage exchange next

private theorem handling_of_setup {stage next : Stage Consuming}
    {exchange : Exchange Call Reply} (setup : exchange.1.IsSetup)
    (same : pending stage = pending next ∧ held stage = held next) :
    Handling stage exchange next := by
  obtain ⟨made, reply⟩ := exchange
  cases made <;> first | exact .other same rfl rfl rfl | exact setup.elim

private theorem isClear_ite {condition : Prop} [Decidable condition]
    {yes no : Consuming}
    (whenTrue : IsClear (.inside yes)) (whenFalse : IsClear (.inside no)) :
    IsClear (.inside (if condition then yes else no)) := by
  by_cases decided : condition
  · rw [if_pos decided]
    exact whenTrue
  · rw [if_neg decided]
    exact whenFalse

/-- Nothing is shown before and behind the exchange. -/
theorem handling_of_clear {before after : Consuming} {exchange : Exchange Call Reply}
    (clear : IsClear (.inside before)) (stays : IsClear (.inside after))
    (delivers : deliveredBy exchange = []) (prints : printedBy exchange = [])
    (destroys : destroyedBy exchange = []) :
    Handling (.inside before) exchange (.inside after) := by
  apply Handling.other _ delivers prints destroys
  rw [pending_of_isClear clear, pending_of_isClear stays, held_of_isClear clear,
    held_of_isClear stays]
  exact ⟨rfl, rfl⟩

/-- What the consumer does while it shows a message. -/
theorem handling_of_showing {envelope : Envelope} {lines : List Text} {made : Call}
    {reply : Reply made} {after : Consuming}
    (moved : consuming (.showing envelope lines) ⟨made, reply⟩ = some after) :
    Handling (.inside (.showing envelope lines)) ⟨made, reply⟩ (.inside after) := by
  cases lines with
  | nil =>
      cases made with
      | destroyEnvelope destroyed =>
          obtain ⟨rfl, same⟩ := Option.ite_none_right_eq_some.mp moved
          cases same
          exact .destroy destroyed
      | _ => cases moved
  | cons line lines =>
      cases made with
      | print printed =>
          obtain ⟨rfl, same⟩ := Option.ite_none_right_eq_some.mp moved
          cases same
          exact .print envelope printed lines
      | _ => cases moved

private theorem handling_of_released {made : Call} {reply : Reply made}
    {after : Consuming}
    (moved : consuming .released ⟨made, reply⟩ = some after) :
    Handling (.inside .released) ⟨made, reply⟩ (.inside after) := by
  cases made with
  | consumeMessage =>
      obtain ⟨res, envelope⟩ := reply
      cases moved
      by_cases normal : res = .normal
      · cases normal
        exact .deliver envelope
      · rw [if_neg normal]
        exact handling_of_clear nofun nofun (if_neg normal) rfl rfl
  | _ => cases moved

private theorem handling_of_consuming {before after : Consuming} {made : Call}
    {reply : Reply made} (moved : consuming before ⟨made, reply⟩ = some after) :
    Handling (.inside before) ⟨made, reply⟩ (.inside after) := by
  cases before with
  | showing envelope lines => exact handling_of_showing moved
  | released => exact handling_of_released moved
  | undeclared =>
      cases made with
      | queueDeclare =>
          cases moved
          exact handling_of_clear nofun nofun rfl rfl rfl
      | _ => cases moved
  | declared queue =>
      cases made with
      | getRpcReply =>
          cases moved
          exact handling_of_clear nofun (isClear_ite nofun nofun) rfl rfl rfl
      | _ => cases moved
  | named queue =>
      cases made with
      | bytesMallocDup bytes =>
          obtain ⟨-, same⟩ := Option.ite_none_right_eq_some.mp moved
          cases same
          exact handling_of_clear nofun (isClear_ite nofun nofun) rfl rfl rfl
      | _ => cases moved
  | copied queue =>
      cases made with
      | queueBind name target key =>
          obtain ⟨-, same⟩ := Option.ite_none_right_eq_some.mp moved
          cases same
          exact handling_of_clear nofun nofun rfl rfl rfl
      | _ => cases moved
  | bound queue =>
      cases made with
      | getRpcReply =>
          cases moved
          exact handling_of_clear nofun (isClear_ite nofun nofun) rfl rfl rfl
      | _ => cases moved
  | attached queue =>
      cases made with
      | basicConsume name =>
          obtain ⟨-, same⟩ := Option.ite_none_right_eq_some.mp moved
          cases same
          exact handling_of_clear nofun nofun rfl rfl rfl
      | _ => cases moved
  | started =>
      cases made with
      | getRpcReply =>
          cases moved
          exact handling_of_clear nofun (isClear_ite nofun nofun) rfl rfl rfl
      | _ => cases moved
  | receiving =>
      cases made with
      | maybeReleaseBuffers =>
          cases moved
          exact handling_of_clear nofun nofun rfl rfl rfl
      | _ => cases moved
  | leaving ended =>
      cases made with
      | bytesFree =>
          cases moved
          exact handling_of_clear nofun nofun rfl rfl rfl
      | _ => cases moved
  | freed ended =>
      cases made with
      | channelClose =>
          cases moved
          exact handling_of_clear nofun nofun rfl rfl rfl
      | _ => cases moved
  | channelClosed ended =>
      cases made with
      | connectionClose =>
          cases moved
          exact handling_of_clear nofun nofun rfl rfl rfl
      | _ => cases moved
  | closed ended => cases made <;> cases moved

theorem handling_of_discipline {stage next : Stage Consuming}
    {exchange : Exchange Call Reply}
    (stepped : discipline .undeclared consuming stage exchange = some next) :
    Handling stage exchange next := by
  rcases discipline_cases _ _ stepped with
    ⟨setup, rfl | ⟨unmade, made⟩⟩ | ⟨before, after, rfl, rfl, moved⟩
  · exact handling_of_setup setup ⟨rfl, rfl⟩
  · have clear : IsClear stage := fun _ _ => unmade _
    have stays : IsClear next := by
      rcases made with unmade | rfl
      · exact fun _ _ => unmade _
      · nofun
    apply handling_of_setup setup
    rw [pending_of_isClear clear, pending_of_isClear stays, held_of_isClear clear,
      held_of_isClear stays]
    exact ⟨rfl, rfl⟩
  · exact handling_of_consuming moved

/-- Every line of a delivered message is printed or still to come. -/
theorem lines_balance {stage next : Stage Consuming} {exchange : Exchange Call Reply}
    (handling : Handling stage exchange next) :
    pending stage ++ (deliveredBy exchange).flatMap envelopeLines =
      printedBy exchange ++ pending next := by
  cases handling with
  | deliver envelope => simp [pending, deliveredBy, printedBy]
  | print envelope line lines => simp [pending, deliveredBy, printedBy]
  | destroy envelope => rfl
  | other same delivers prints destroys =>
      rw [delivers, prints, same.1, List.flatMap_nil, List.append_nil, List.nil_append]

/-- Every delivered message is destroyed or being shown. -/
theorem messages_balance {stage next : Stage Consuming}
    {exchange : Exchange Call Reply} (handling : Handling stage exchange next) :
    held stage ++ deliveredBy exchange = destroyedBy exchange ++ held next := by
  cases handling with
  | deliver envelope => rfl
  | print envelope line lines => rfl
  | destroy envelope => rfl
  | other same delivers prints destroys =>
      rw [delivers, destroys, same.2, List.append_nil, List.nil_append]

/-- The messages delivered in a run, in this order. -/
def delivered (record : List (Exchange Call Reply)) : List Envelope :=
  record.flatMap deliveredBy

def printed (record : List (Exchange Call Reply)) : List Text :=
  record.flatMap printedBy

def destroyed (record : List (Exchange Call Reply)) : List Envelope :=
  record.flatMap destroyedBy

private theorem isClear_of_leaves {interruption : Interruption}
    {reached : Stage Consuming}
    (left : Leaves interruption reached) : IsClear reached := by
  cases interruption with
  | exception what =>
      rcases left with unmade | rfl
      · exact fun _ _ => unmade _
      · nofun
  | uncaught =>
      rcases left with rfl
      nofun
  | undefined =>
      rcases left with rfl
      nofun
  | attempts =>
      rcases left with rfl
      nofun

section Main

variable (errorString : Int → Text) (attempts : Nat) (world : World Call Reply)

/-- Wherever a run ends, no message is being shown. -/
theorem main_reaches_clear :
    ∃ stage, (discipline .undeclared consuming).after .apart
        ((main errorString attempts).run.run world []).2 = some stage ∧
      IsClear stage := by
  obtain ⟨stage, accepted, ends⟩ := keeps_main attempts .apart world [] rfl
  refine ⟨stage, accepted, ?_⟩
  cases outcome : ((main errorString attempts).run.run world []).1 with
  | ok status =>
      rw [outcome] at ends
      cases status with
      | success =>
          rcases ends with rfl
          nofun
      | failure =>
          rcases ends with rfl | ⟨what, left⟩
          · nofun
          · exact isClear_of_leaves left
  | error interruption =>
      rw [outcome] at ends
      rcases ends with ⟨-, rfl⟩ | left
      · nofun
      · exact isClear_of_leaves left

theorem printed_eq_lines :
    printed ((main errorString attempts).run.run world []).2 =
      (delivered ((main errorString attempts).run.run world []).2).flatMap
        envelopeLines := by
  obtain ⟨stage, accepted, clear⟩ := main_reaches_clear errorString attempts world
  have balance := balanced
    (fun _ _ _ stepped => lines_balance (handling_of_discipline stepped)) accepted
  rw [pending_of_isClear clear, List.append_nil] at balance
  rw [printed, delivered, List.flatMap_assoc, ← balance]
  rfl

private theorem destroyed_eq_delivered :
    destroyed ((main errorString attempts).run.run world []).2 =
      delivered ((main errorString attempts).run.run world []).2 := by
  obtain ⟨stage, accepted, clear⟩ := main_reaches_clear errorString attempts world
  have balance := balanced
    (fun _ _ _ stepped => messages_balance (handling_of_discipline stepped)) accepted
  rw [held_of_isClear clear, List.append_nil] at balance
  exact balance.symm

/-- What the consumer prints is what it has been delivered, message by message and in
the order of the deliveries, and it has destroyed each of these messages once. -/
theorem consumer_prints_deliveries :
    printed ((main errorString attempts).run.run world []).2 =
        (delivered ((main errorString attempts).run.run world []).2).flatMap
          envelopeLines ∧
      destroyed ((main errorString attempts).run.run world []).2 =
        delivered ((main errorString attempts).run.run world []).2 :=
  ⟨printed_eq_lines errorString attempts world,
    destroyed_eq_delivered errorString attempts world⟩

end Main

end KosCeExtra.Rabbitmq.Consumer
