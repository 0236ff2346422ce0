import KosCeExtra.Rabbitmq.Connection

/-!
# What the publisher does

The messages are published one after the other until one is refused.  Behind the last
message, and behind one that is refused, the channel and the connection are closed and
the connection is destroyed.
-/

namespace KosCeExtra.Rabbitmq.Publisher

open Dialogue Monitor

variable {errorString : Int → Text}

/-- What the publisher has done with its connection, and how many messages it has
published. -/
inductive Publishing where
  | sending (published : Nat)
  | refused (published : Nat)
  | channelClosed (published : Nat)
  | connectionClosed (published : Nat)
  | destroyed (published : Nat)
  deriving DecidableEq, Repr

def publishing : Monitor Call Reply Publishing
  | .sending published, ⟨.print line, _⟩ =>
      if line = "Publisher".toList ++ messageBody published then
        some (.sending published)
      else
        none
  | .sending published, ⟨.basicPublish message, status⟩ =>
      if published < messageCount ∧ message = publication published then
        some (if status < 0 then .refused published else .sending (published + 1))
      else
        none
  | .sending published, ⟨.channelClose, _⟩ =>
      if published = messageCount then some (.channelClosed published) else none
  | .refused published, ⟨.channelClose, _⟩ => some (.channelClosed published)
  | .channelClosed published, ⟨.connectionClose, _⟩ =>
      some (.connectionClosed published)
  | .connectionClosed published, ⟨.destroyConnection, _⟩ =>
      some (.destroyed published)
  | _, _ => none

/-- Where an exception leaves the publisher. -/
def Leaves : Interruption → Stage Publishing → Prop
  | .exception _, reached =>
      reached.IsUnmade ∨ ∃ published < messageCount,
        reached = .inside (.destroyed published)
  | .attempts, _ => False
  | _, reached => reached = .apart

/-- A message was refused. -/
def Refused (interruption : Interruption) (reached : Stage Publishing) : Prop :=
  (∃ what, interruption = .exception what) ∧ ∃ published < messageCount,
    reached = .inside (.refused published)

theorem keeps_sendFrom (index count : Nat) (inside : index + count = messageCount) :
    Keeps (.sending 0) publishing (.inside (.sending index))
      (sendFrom errorString index count)
      (fun _ reached => reached = .inside (.sending messageCount)) Refused := by
  induction count generalizing index with
  | zero =>
      rw [← inside]
      exact .pureExcept rfl
  | succ count induction =>
      have more : index < messageCount := by omega
      apply Watches.callThen (f := fun _ => .inside (.sending index))
      · intro _
        rw [discipline_inside, publishing, if_pos rfl, Option.map_some]
        nofun
      · intro _
        apply Watches.callThen (f := fun status => .inside
          (if status < 0 then .refused index else .sending (index + 1)))
        · intro status
          rw [discipline_inside, publishing, if_pos ⟨more, rfl⟩, Option.map_some]
          nofun
        · intro status
          apply Watches.bindExcept
            (M := fun _ reached => reached = .inside (.sending (index + 1)))
          · apply Watches.iteExcept
            · intro refused
              rw [if_pos refused]
              exact .throwExcept ⟨⟨_, rfl⟩, index, more, rfl⟩
            · intro accepted
              rw [if_neg accepted]
              exact .pureExcept rfl
          · rintro _ reached rfl
            apply induction
            omega

theorem keeps_destructor {state : Publishing} {published : Nat}
    (mayClose : ∀ reply, publishing state ⟨.channelClose, reply⟩ =
      some (.channelClosed published)) :
    Keeps (.sending 0) publishing (.inside state) destructor
      (fun _ reached => reached = .inside (.destroyed published)) Leaves := by
  apply Watches.callThen (f := fun _ => .inside (.channelClosed published))
  · intro reply
    rw [discipline_inside, mayClose, Option.map_some]
    nofun
  · intro _
    apply Watches.callThen (fun _ => rfl)
    intro _
    apply Watches.lift
    apply Watches.ask
    intro _
    exact ⟨_, rfl, rfl⟩

theorem keeps_body (hostname : Text) (port : Int) :
    Keeps (.sending 0) publishing .apart (body errorString hostname port)
      (fun _ reached => reached = .inside (.destroyed messageCount)) Leaves := by
  apply Watches.bindExcept (M := fun _ reached => reached = .inside (.sending 0))
  · apply Watches.of_imp (keeps_connect hostname port)
    intro outcome reached holds
    cases outcome with
    | ok _ => exact holds
    | error interruption =>
        obtain ⟨⟨what, rfl⟩, unmade⟩ := holds
        exact .inl unmade
  · rintro _ reached rfl
    apply keeps_withDestructor (keeps_log (keeps_sendFrom 0 messageCount rfl))
    · rintro reached rfl
      exact keeps_destructor (fun _ => by rw [publishing, if_pos rfl])
    · rintro what reached ⟨-, published, fewer, rfl⟩
      apply Watches.of_imp (keeps_destructor (fun _ => rfl))
      intro outcome reached holds
      cases outcome with
      | ok _ => exact .inr ⟨published, fewer, holds⟩
      | error interruption => exact holds
    · rintro interruption reached other ⟨⟨what, rfl⟩, -⟩
      exact absurd rfl (other what)

private theorem not_done_of_leaves {interruption : Interruption}
    {reached : Stage Publishing}
    (left : Leaves interruption reached) :
    reached ≠ .inside (.destroyed messageCount) := by
  rintro rfl
  cases interruption with
  | exception what =>
      rcases left with unmade | ⟨published, fewer, same⟩
      · exact unmade _ rfl
      · cases same
        exact Nat.lt_irrefl _ fewer
  | uncaught => cases left
  | undefined => cases left
  | attempts => exact left

theorem keeps_main :
    Watches (discipline (.sending 0) publishing) .apart (main errorString).run
      (Ends (fun reached => reached = .inside (.destroyed messageCount)) Leaves) :=
  keeps_mainWith keeps_body

/-- Whatever the library and the broker reply, the publisher keeps to its order: it
publishes its messages one after the other, each one once, and closes and destroys its
connection behind the last or behind the first that is refused.  It ends with success
exactly when it has published all hundred; and in a failure the connection either has
been destroyed, or its constructor had not come to the end. -/
theorem publisher_keeps_order (errorString : Int → Text) (world : World Call Reply) :
    ∃ stage, (discipline (.sending 0) publishing).after .apart
        ((main errorString).run.run world []).2 = some stage ∧
      (((main errorString).run.run world []).1 = .ok .success ↔
        stage = .inside (.destroyed messageCount)) ∧
      (((main errorString).run.run world []).1 = .ok .failure →
        stage.IsUnmade ∨ ∃ published < messageCount,
          stage = .inside (.destroyed published)) := by
  obtain ⟨stage, accepted, ends⟩ := keeps_main .apart world [] rfl
  refine ⟨stage, accepted, ?_⟩
  cases outcome : ((main errorString).run.run world []).1 with
  | ok status =>
      rw [outcome] at ends
      cases status with
      | success => exact ⟨iff_of_true rfl ends, nofun⟩
      | failure =>
          rcases ends with rfl | ⟨what, left⟩
          · exact ⟨iff_of_false nofun nofun, fun _ => .inl nofun⟩
          · exact ⟨iff_of_false nofun (not_done_of_leaves left), fun _ => left⟩
  | error interruption =>
      rw [outcome] at ends
      rcases ends with ⟨-, rfl⟩ | left
      · exact ⟨iff_of_false nofun nofun, nofun⟩
      · exact ⟨iff_of_false nofun (not_done_of_leaves left), nofun⟩

end KosCeExtra.Rabbitmq.Publisher
