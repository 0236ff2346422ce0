import Mathlib.Logic.Function.Basic
import KosCeExtra.Library.Transition
import KosCeExtra.Summation.Client

/-!
# The summation programs together

The two clients and the two servers of `examples/errors_via_ipc` as one system.  A
client draws operands and a server, and calls until the outcome of a call ends the
request; the security policy looks at every call first.  The calls of the clients
come in any order, and any call may fail in the transport, before or behind the
server.

`handled` and `finished` record what the servers have answered and how the requests
of the clients have ended.  The sleeps and the log output are left out.
-/

namespace KosCeExtra.Summation

/-- The client programs of `init.yaml`. -/
inductive Client where
  | c
  | cxx
  deriving DecidableEq, Repr

/-- The operands that `main` draws. -/
def Client.Draws : Client → UInt32 → Prop
  -- `rand() % 100`
  | .c, num => num.toNat < 100
  -- `uniform_int_distribution{1, 100}`
  | .cxx, num => 1 ≤ num.toNat ∧ num.toNat ≤ 100

instance : (client : Client) → (num : UInt32) → Decidable (client.Draws num)
  | .c, num => inferInstanceAs (Decidable (num.toNat < 100))
  | .cxx, num => inferInstanceAs (Decidable (1 ≤ num.toNat ∧ num.toNat ≤ 100))

/-- The implementation behind the endpoint of a server. -/
def Server.answer : Server → UInt64 → Request → Response × UInt64
  | .c => sumRequestImpl
  | .cxx => sumRequestConverted

/-- How a request of a client has ended. -/
inductive Ending where
  | result (sum : UInt64)
  /-- the C client shows what the server left in the result -/
  | status (code : Retcode)
  /-- "number of repeats exceeded" -/
  | exceeded
  | failed
  /-- `main` of the C++ client has caught it -/
  | exited (thrown : Exception)
  deriving DecidableEq, Repr

/-- What the C client does with the outcome of a call. -/
def sumRequestReaction (attempt : Attempt) (outcome : NkOutcome) :
    Attempt ⊕ Ending :=
  match sumRequestTurn attempt outcome with
  | .inl next => .inl next
  | .inr (.received (.result sum)) => .inr (.result sum)
  | .inr (.received (.status code)) => .inr (.status code)
  | .inr (.failed _) => .inr .exceeded

/-- What the C++ client does with the outcome of a call. -/
def processRequestReaction (attempt : Attempt)
    (outcome : Except Exception UInt64) : Attempt ⊕ Ending :=
  match processRequestTurn attempt outcome with
  | .inl next => .inl next
  | .inr (.ok (some sum)) => .inr (.result sum)
  | .inr (.ok none) =>
      .inr (if attempt.request.repeats > maxSecurityGrantedRepeats then .exceeded
        else .failed)
  | .inr (.error thrown) => .inr (.exited thrown)

/-- `RetcodeExceptionConverter::ThrowException`, with what the library throws for
the codes that are not converted. -/
def throwException (unconverted : Retcode → Exception) : Retcode → Exception
  | .rcBusy => .serverBusy
  | code => unconverted code

/-- The response of a server at the caller of the C++ proxy. -/
def proxyOutcome (unconverted : Retcode → Exception) :
    Response → Except Exception UInt64
  | .result sum => .ok sum
  | .status code => .error (throwException unconverted code)

/-- An error of the transport other than the denial of the policy, as either proxy
reports it. -/
structure Failure where
  code : Nat
  thrown : Exception
  notBusy : thrown ≠ .serverBusy

def Client.onResponse (unconverted : Retcode → Exception) :
    Client → Attempt → Response → Attempt ⊕ Ending
  | .c, attempt, response => sumRequestReaction attempt (.received response)
  | .cxx, attempt, response =>
      processRequestReaction attempt (proxyOutcome unconverted response)

def Client.onDenial : Client → Attempt → Attempt ⊕ Ending
  | .c, attempt => sumRequestReaction attempt (.failed .eperm)
  | .cxx, attempt => processRequestReaction attempt (.error .runtimeError)

def Client.onFailure : Client → Attempt → Failure → Attempt ⊕ Ending
  | .c, attempt, failure =>
      sumRequestReaction attempt (.failed (.other failure.code))
  | .cxx, attempt, failure =>
      processRequestReaction attempt (.error failure.thrown)

/-- What a client is at. -/
inductive Phase where
  | idle
  | calling (attempt : Attempt)
  | answered (attempt : Attempt) (response : Response)
  | exited
  deriving DecidableEq, Repr

/-- A call that a server has answered. -/
structure Handled where
  client : Client
  attempt : Attempt
  response : Response
  deriving DecidableEq, Repr

/-- A request that has ended, with the attempt it ended at. -/
structure Finished where
  client : Client
  attempt : Attempt
  ending : Ending
  deriving DecidableEq, Repr

def Phase.behind : Attempt ⊕ Ending → Phase
  | .inl next => .calling next
  | .inr (.exited _) => .exited
  | .inr _ => .idle

def ended (client : Client) (attempt : Attempt) :
    Attempt ⊕ Ending → List Finished
  | .inl _ => []
  | .inr ending => [⟨client, attempt, ending⟩]

structure System where
  phase : Client → Phase
  counter : Server → UInt64
  handled : List Handled
  finished : List Finished

inductive SystemAction where
  /-- the next turn of the loop in `main` -/
  | start (client : Client) (curServer : Server) (num1 num2 : UInt32)
  /-- the call reaches the policy, and behind it the server -/
  | call (client : Client)
  | receive (client : Client)
  | fail (client : Client) (failure : Failure)

def SystemAction.client : SystemAction → Client
  | .start client _ _ _ => client
  | .call client => client
  | .receive client => client
  | .fail client _ => client

namespace System

def initial : System where
  phase _ := .idle
  counter _ := 1
  handled := []
  finished := []

def enter (s : System) (client : Client) (phase : Phase) : System :=
  { s with phase := Function.update s.phase client phase }

/-- A client goes on to its next attempt, or is done with the request. -/
def goOn (s : System) (client : Client) (attempt : Attempt)
    (reaction : Attempt ⊕ Ending) : System :=
  { s.enter client (Phase.behind reaction) with
    finished := s.finished ++ ended client attempt reaction }

/-- A server answers the call. -/
def serve (s : System) (client : Client) (attempt : Attempt) : System :=
  let answer := attempt.curServer.answer (s.counter attempt.curServer)
    attempt.request
  { s.enter client (.answered attempt answer.1) with
    counter := Function.update s.counter attempt.curServer answer.2
    handled := s.handled ++ [⟨client, attempt, answer.1⟩] }

def step (unconverted : Retcode → Exception) (s : System) :
    SystemAction → Option System
  | .start client curServer num1 num2 =>
      match s.phase client with
      | .idle =>
          if client.Draws num1 ∧ client.Draws num2 then
            some (s.enter client (.calling
              { curServer := curServer
                request := { repeats := 0, num1 := num1, num2 := num2 } }))
          else
            none
      | _ => none
  | .call client =>
      match s.phase client with
      | .calling attempt =>
          if attempt.request.repeats > maxSecurityGrantedRepeats then
            some (s.goOn client attempt (client.onDenial attempt))
          else
            some (s.serve client attempt)
      | _ => none
  | .receive client =>
      match s.phase client with
      | .answered attempt response =>
          some (s.goOn client attempt
            (client.onResponse unconverted attempt response))
      | _ => none
  | .fail client failure =>
      match s.phase client with
      | .calling attempt | .answered attempt _ =>
          some (s.goOn client attempt (client.onFailure attempt failure))
      | _ => none

end System

end KosCeExtra.Summation
