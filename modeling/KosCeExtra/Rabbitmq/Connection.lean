import KosCeExtra.Library.Monitor
import KosCeExtra.Rabbitmq.Programs

/-!
# What the AMQP programs do with their connection

A monitor follows the constructor, which is the same in both programs, and hands over to
a monitor of what the program does inside.  Where the constructor throws, the connection
object that it has made is left behind.  The publisher destroys its connection on every
other way out, and the consumer on none.
-/

namespace KosCeExtra.Rabbitmq

open Dialogue Monitor

/-- How far the constructor has come, and the state inside. -/
inductive Stage (σ : Type) where
  | apart
  | allocated
  | socketed
  | opened
  | loggedIn
  | channelled
  | inside (state : σ)
  deriving DecidableEq, Repr

/-- The constructor has not come to its end. -/
def Stage.IsUnmade {σ : Type} (stage : Stage σ) : Prop :=
  ∀ state, stage ≠ .inside state

section Discipline

variable {σ : Type} (start : σ) (inner : Monitor Call Reply σ)

def discipline : Monitor Call Reply (Stage σ)
  | stage, ⟨.log _, _⟩ => some stage
  | .apart, ⟨.waitForIface, _⟩ => some .apart
  | .apart, ⟨.getenv _, _⟩ => some .apart
  | .apart, ⟨.newConnection, conn⟩ =>
      some (if conn = false then .apart else .allocated)
  | .allocated, ⟨.tcpSocketNew, socket⟩ =>
      some (if socket = false then .allocated else .socketed)
  | .socketed, ⟨.socketOpen _ _, status⟩ =>
      some (if status ≠ 0 then .socketed else .opened)
  | .opened, ⟨.login, reply⟩ =>
      some (if reply = .normal then .loggedIn else .opened)
  | .loggedIn, ⟨.channelOpen, _⟩ => some .channelled
  | .channelled, ⟨.getRpcReply, reply⟩ =>
      some (if reply = .normal then .inside start else .channelled)
  | .inside state, exchange => (inner state exchange).map .inside
  | _, _ => none

theorem discipline_inside {state : σ} {exchange : Exchange Call Reply}
    (noLog : ∀ line, exchange.1 ≠ .log line) :
    discipline start inner (.inside state) exchange =
      (inner state exchange).map .inside := by
  rw [discipline]
  rintro line reply rfl
  exact noLog line rfl

/-- The calls outside the body. -/
def Call.IsSetup : Call → Prop
  | .log _ | .waitForIface | .getenv _ | .newConnection | .tcpSocketNew
  | .socketOpen _ _ | .login | .channelOpen | .getRpcReply => True
  | _ => False

/-- Such a call changes nothing inside, or it belongs to the constructor; any other is
a matter of the inner monitor. -/
theorem discipline_cases {stage next : Stage σ} {exchange : Exchange Call Reply}
    (stepped : discipline start inner stage exchange = some next) :
    (exchange.1.IsSetup ∧
      (next = stage ∨ stage.IsUnmade ∧ (next.IsUnmade ∨ next = .inside start))) ∨
    ∃ before after, stage = .inside before ∧ next = .inside after ∧
      inner before exchange = some after := by
  unfold discipline at stepped
  split at stepped
  · cases stepped
    exact .inl ⟨trivial, .inl rfl⟩
  · cases stepped
    exact .inl ⟨trivial, .inl rfl⟩
  · cases stepped
    exact .inl ⟨trivial, .inl rfl⟩
  · cases stepped
    refine .inl ⟨trivial, .inr ⟨nofun, .inl ?_⟩⟩
    split <;> nofun
  · cases stepped
    refine .inl ⟨trivial, .inr ⟨nofun, .inl ?_⟩⟩
    split <;> nofun
  · cases stepped
    refine .inl ⟨trivial, .inr ⟨nofun, .inl ?_⟩⟩
    split <;> nofun
  · cases stepped
    refine .inl ⟨trivial, .inr ⟨nofun, .inl ?_⟩⟩
    split <;> nofun
  · cases stepped
    exact .inl ⟨trivial, .inr ⟨nofun, .inl nofun⟩⟩
  · cases stepped
    refine .inl ⟨trivial, .inr ⟨nofun, ?_⟩⟩
    split
    · exact .inr rfl
    · exact .inl nofun
  · obtain ⟨after, moved, rfl⟩ := Option.map_eq_some_iff.mp stepped
    exact .inr ⟨_, after, rfl, rfl, moved⟩
  · cases stepped

/-- A part of a program keeps to the order. -/
abbrev Keeps (stage : Stage σ) (program : Program α) (Post : α → Stage σ → Prop)
    (Failed : Interruption → Stage σ → Prop) : Prop :=
  Watches (discipline start inner) stage program.run (Either Post Failed)

end Discipline

variable {σ : Type} {start : σ} {inner : Monitor Call Reply σ} {stage : Stage σ}
  {errorString : Int → Text} {Failed : Interruption → Stage σ → Prop}

theorem keeps_log {line : Text} {next : Unit → Program α} {Post : α → Stage σ → Prop}
    (after : Keeps start inner stage (next ()) Post Failed) :
    Keeps start inner stage (call (.log line) >>= next) Post Failed := by
  apply Watches.callThen (f := fun _ => stage)
  · intro _
    rw [discipline]
  · intro _
    exact after

private theorem amqpError_eq_none_iff {context : Text} {reply : RpcReply} :
    amqpError errorString context reply = none ↔ reply = .normal := by
  cases reply with
  | normal => exact iff_of_true rfl rfl
  | none => exact iff_of_false (by simp [amqpError]) (by simp)
  | libraryException error => exact iff_of_false (by simp [amqpError]) (by simp)
  | connectionClosed code text => exact iff_of_false (by simp [amqpError]) (by simp)
  | channelClosed code text => exact iff_of_false (by simp [amqpError]) (by simp)
  | serverException method => exact iff_of_false (by simp [amqpError]) (by simp)

/-- A test that throws unless the reply is normal. -/
theorem keeps_throwOnAmqpError {reply : RpcReply} {context : Text} {yes no : Stage σ}
    (failed : ∀ what, Failed (.exception what) no) :
    Keeps start inner (if reply = .normal then yes else no)
      (throwOnAmqpError errorString reply context)
      (fun _ reached => reached = yes) Failed := by
  unfold throwOnAmqpError
  by_cases isNormal : reply = .normal
  · rw [if_pos isNormal, amqpError_eq_none_iff.mpr isNormal]
    exact .pureExcept rfl
  · rw [if_neg isNormal]
    cases error : amqpError errorString context reply with
    | none => exact absurd (amqpError_eq_none_iff.mp error) isNormal
    | some what => exact .throwExcept (failed what)

/-- What an exception in the constructor leaves behind. -/
def Unmade (interruption : Interruption) (reached : Stage σ) : Prop :=
  (∃ what, interruption = .exception what) ∧ reached.IsUnmade

theorem keeps_connect (hostname : Text) (port : Int) :
    Keeps start inner .apart (connect errorString hostname port)
      (fun _ reached => reached = .inside start) Unmade := by
  apply Watches.callThen (fun _ => rfl)
  intro conn
  apply Watches.iteExcept
  · rintro rfl
    exact .throwExcept ⟨⟨_, rfl⟩, by simp [Stage.IsUnmade]⟩
  · intro hasConn
    rw [if_neg hasConn]
    apply Watches.callThen (fun _ => rfl)
    intro socket
    apply Watches.iteExcept
    · rintro rfl
      exact .throwExcept ⟨⟨_, rfl⟩, by simp [Stage.IsUnmade]⟩
    · intro hasSocket
      rw [if_neg hasSocket]
      apply Watches.callThen (fun _ => rfl)
      intro status
      apply Watches.iteExcept
      · intro failed
        rw [if_pos failed]
        exact .throwExcept ⟨⟨_, rfl⟩, by simp [Stage.IsUnmade]⟩
      · intro isOpen
        rw [if_neg isOpen]
        apply Watches.callThen (fun _ => rfl)
        intro login
        apply Watches.bindExcept
        · apply keeps_throwOnAmqpError
          intro what
          exact ⟨⟨what, rfl⟩, by simp [Stage.IsUnmade]⟩
        · rintro _ reached rfl
          apply Watches.callThen (fun _ => rfl)
          intro _
          apply Watches.callThen (fun _ => rfl)
          intro opened
          apply keeps_throwOnAmqpError
          intro what
          exact ⟨⟨what, rfl⟩, by simp [Stage.IsUnmade]⟩

/-! ## What is around the body -/

theorem keeps_withDestructor {body destructor : Program Unit} {M Post : Stage σ → Prop}
    {Broken : Interruption → Stage σ → Prop}
    (kept : Keeps start inner stage body (fun _ => M) Broken)
    (after : ∀ reached, M reached →
      Keeps start inner reached destructor (fun _ => Post) Failed)
    (unwinds : ∀ what reached, Broken (.exception what) reached →
      Keeps start inner reached destructor (fun _ => Failed (.exception what)) Failed)
    (stays : ∀ interruption reached, (∀ what, interruption ≠ .exception what) →
      Broken interruption reached → Failed interruption reached) :
    Keeps start inner stage (withDestructor body destructor) (fun _ => Post)
      Failed := by
  apply Watches.bindExcept (.lift kept)
  intro outcome reached holds
  cases outcome with
  | ok _ => exact after reached holds
  | error interruption =>
      cases interruption with
      | exception what =>
          apply Watches.bindExcept (unwinds what reached holds)
          intro _ last failed
          exact .throwExcept failed
      | uncaught => exact .throwExcept (stays _ reached (by simp) holds)
      | undefined => exact .throwExcept (stays _ reached (by simp) holds)
      | attempts => exact .throwExcept (stays _ reached (by simp) holds)

/-- Where `main` ends, by what holds behind the body. -/
def Ends (Done : Stage σ → Prop) (Failed : Interruption → Stage σ → Prop) :
    Except Interruption ExitStatus → Stage σ → Prop
  | .ok .success, reached => Done reached
  | .ok .failure, reached =>
      reached = .apart ∨ ∃ what, Failed (.exception what) reached
  | .error interruption, reached =>
      interruption ≠ .attempts ∧ reached = .apart ∨ Failed interruption reached

/-- What `main` may do before the body. -/
theorem keeps_brokerPort :
    Keeps start inner .apart brokerPort (fun _ reached => reached = .apart)
      (fun interruption reached => interruption ≠ .attempts ∧ reached = .apart) := by
  apply Watches.callThen (fun _ => rfl)
  intro named
  cases named with
  | none => exact .throwExcept ⟨nofun, rfl⟩
  | some text =>
      simp only
      cases stoi text with
      | ok port => exact .pureExcept rfl
      | error error =>
          cases error with
          | invalidArgument => exact keeps_log (.pureExcept rfl)
          | outOfRange => exact .throwExcept ⟨nofun, rfl⟩

theorem keeps_mainWith {body : Text → Int → Program Unit} {Done : Stage σ → Prop}
    (kept : ∀ hostname port,
      Keeps start inner .apart (body hostname port) (fun _ => Done) Failed) :
    Watches (discipline start inner) .apart (mainWith body).run
      (Ends Done Failed) := by
  have whole : Keeps start inner .apart (mainWith body)
      (fun status => Ends Done Failed (.ok status))
      (fun interruption => Ends Done Failed (.error interruption)) := by
    apply Watches.callThen (fun _ => rfl)
    intro up
    apply Watches.iteExcept
    · intro _
      exact keeps_log (.pureExcept (.inl rfl))
    · intro _
      apply Watches.callThen (fun _ => rfl)
      intro named
      cases named with
      | none => exact keeps_log (.pureExcept (.inl rfl))
      | some brokerAddress =>
          apply Watches.bindExcept (M := fun _ reached => reached = .apart)
          · apply Watches.of_imp keeps_brokerPort
            intro outcome reached holds
            cases outcome with
            | ok port => exact holds
            | error interruption => exact .inl holds
          · rintro port reached rfl
            apply keeps_log
            apply Watches.bindExcept (.lift (kept brokerAddress port))
            intro outcome reached holds
            cases outcome with
            | ok _ => exact .pureExcept holds
            | error interruption =>
                cases interruption with
                | exception what => exact keeps_log (.pureExcept (.inr ⟨what, holds⟩))
                | uncaught => exact .throwExcept (.inr holds)
                | undefined => exact .throwExcept (.inr holds)
                | attempts => exact .throwExcept (.inr holds)
  apply Watches.of_imp whole
  intro outcome reached holds
  cases outcome with
  | ok status => exact holds
  | error interruption => exact holds

end KosCeExtra.Rabbitmq
