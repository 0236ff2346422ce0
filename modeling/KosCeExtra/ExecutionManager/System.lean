import Mathlib.Logic.Function.Basic
import KosCeExtra.Library.Transition

/-!
# Starting and stopping applications

The programs of `examples/execution_manager_separated_vfs` as one system.  The client
publishes an endpoint on the name server, has the execution manager start two
applications one after the other, waits behind each start for a notification, and has
both applications stopped.  An application looks the endpoint up, connects to it, sends
its notification, and lives on until it is stopped.

The client and the applications take their steps in any order.  A step is the return of
the call that a program is at; any call may fail, and then the program ends.  The
security policy lets nobody but applications call the client.  The arguments of the
applications and the log output are left out.
-/

namespace KosCeExtra.ExecutionManager

/-- The two applications, as the client starts them. -/
inductive Round where
  | first
  | second
  deriving DecidableEq, Repr

/-- `EXIT_SUCCESS` and `EXIT_FAILURE` -/
inductive ExitStatus where
  | success
  | failure
  deriving DecidableEq, Repr

/-- The call that an application is at, or how it has ended. -/
inductive AppPhase where
  /-- `KnTaskGetName` -/
  | naming
  /-- `NsCreate` -/
  | creatingNs
  /-- `NsEnumServices` -/
  | enumerating
  /-- `KnCmConnect` -/
  | connecting
  /-- its connection is accepted, and the notification not sent yet -/
  | connected
  /-- `client_Notification_Notification`, with the request on its way -/
  | notifying
  /-- the reply is on its way back -/
  | answered
  /-- the loop without end -/
  | alive
  | exited (rc : Int)
  | stopped
  deriving DecidableEq, Repr

/-- The call that the client is at.  An application is known by the number that the
execution manager has given it. -/
inductive ClientPhase where
  /-- `NsCreate` -/
  | creatingNs
  /-- `NsPublishService` -/
  | publishing
  /-- `CreateExecutionManager` -/
  | creatingManager
  /-- `GetApplicationController` -/
  | gettingController
  /-- `StartEntity` -/
  | starting (round : Round)
  /-- `KnCmListen` -/
  | listening (round : Round)
  /-- `KnCmAccept` -/
  | accepting (round : Round) (app : Nat)
  /-- `nk_transport_recv` -/
  | receiving (round : Round) (app : Nat)
  /-- `nk_transport_reply` -/
  | replying (round : Round) (app : Nat)
  /-- `StopEntity` -/
  | stopping (round : Round)
  | exited (status : ExitStatus)
  deriving DecidableEq, Repr

structure System where
  client : ClientPhase
  /-- the name server knows the endpoint of the client -/
  published : Bool
  /-- the applications that were started, by their numbers -/
  apps : List AppPhase
  /-- `firstAppId` and `secondAppId` -/
  appId : Round → Option Nat
  /-- the applications whose notification was answered -/
  answered : List Nat

inductive Action where
  /-- a call of the client other than `KnCmListen` succeeds -/
  | client
  | clientFails
  /-- `KnCmListen` reports the connection of an application -/
  | listen (app : Nat)
  /-- a call of an application returns -/
  | app (app : Nat) (rc : Int)
  deriving DecidableEq, Repr

/-- Where the client goes on behind `WaitForNotification`. -/
def Round.notified : Round → ClientPhase
  | .first => .starting .second
  | .second => .stopping .first

/-- Where the client goes on behind `StopEntity`. -/
def Round.done : Round → ClientPhase
  | .first => .stopping .second
  | .second => .exited .success

/-- An application that has ended by itself cannot be stopped any more. -/
def AppPhase.stop : AppPhase → AppPhase
  | .exited rc => .exited rc
  | _ => .stopped

/-- A call of an application has returned. -/
def AppPhase.proceed (rc : Int) (next : AppPhase) : AppPhase :=
  if rc ≠ 0 then .exited rc else next

namespace System

def initial : System where
  client := .creatingNs
  published := false
  apps := []
  appId _ := none
  answered := []

def clientStep (s : System) : Option System :=
  match s.client with
  | .creatingNs => some { s with client := .publishing }
  | .publishing => some { s with client := .creatingManager, published := true }
  | .creatingManager => some { s with client := .gettingController }
  | .gettingController => some { s with client := .starting .first }
  | .starting round =>
      some { s with
        client := .listening round
        apps := s.apps ++ [.naming]
        appId := Function.update s.appId round (some s.apps.length) }
  | .accepting round app =>
      if s.apps[app]? = some .connecting then
        some { s with
          client := .receiving round app
          apps := s.apps.set app .connected }
      else
        none
  | .receiving round app =>
      if s.apps[app]? = some .notifying then
        some { s with client := .replying round app }
      else
        none
  | .replying round app =>
      if s.apps[app]? = some .notifying then
        some { s with
          client := round.notified
          apps := s.apps.set app .answered
          answered := s.answered ++ [app] }
      else
        none
  | .stopping round =>
      match s.appId round with
      | some app =>
          some { s with
            client := round.done
            apps := s.apps.modify app AppPhase.stop }
      | none => none
  | .listening _ | .exited _ => none

/-- What the call that an application is at leads to; `none` where it cannot return
with this code. -/
def afterCall (published : Bool) (rc : Int) : AppPhase → Option AppPhase
  | .naming => some (.proceed rc .creatingNs)
  | .creatingNs => some (.proceed rc .enumerating)
  | .enumerating =>
      if rc = 0 ∧ published = false then none
      else some (.proceed rc .connecting)
  -- the connection comes from the client, and so does the reply
  | .connecting => if rc = 0 then none else some (.exited rc)
  | .connected => some (.proceed rc .notifying)
  | .notifying => if rc = 0 then none else some (.exited rc)
  | .answered => some (.proceed rc .alive)
  | .alive | .exited _ | .stopped => none

def step (s : System) : Action → Option System
  | .client => s.clientStep
  | .clientFails =>
      match s.client with
      | .exited _ => none
      | _ => some { s with client := .exited .failure }
  | .listen app =>
      match s.client with
      | .listening round =>
          if s.apps[app]? = some .connecting then
            some { s with client := .accepting round app }
          else
            none
      | _ => none
  | .app app rc =>
      match s.apps[app]? with
      | some phase =>
          (afterCall s.published rc phase).map fun next =>
            { s with apps := s.apps.set app next }
      | none => none

end System

end KosCeExtra.ExecutionManager
