import KosCeExtra.Dns.Callable
import KosCeExtra.Dns.ResolverClients

/-!
# The DNS client together with the resolver

The main thread of the client walks through the host names: for each one it
evaluates `callback.Get()`, which queues a `Step`, and then calls `Resolve`.
An exception of that call leaves the loop, and on every way out the destructor
of the callback object joins its thread.  The resolver is the two-threaded
one, shared with other clients; it calls `OnResolve` of this client only while
the callback thread is inside `Step`.

The `Step` is queued before the call it is meant for, so a call that does not
go through leaves a `Step` behind that nobody will answer.  As long as every
call goes through, each `Step` is owed one answer.
-/

namespace KosCeExtra.Dns

/-- Where the main thread of the client is. -/
inductive MainThread where
  /-- At the head of the loop, with the names still to come. -/
  | looping (names : List Text)
  /-- Evaluating `callback.Get()` for a name. -/
  | getting (name : Text) (names : List Text)
  /-- About to call `Resolve`. -/
  | calling (name : Text) (names : List Text)
  /-- Waiting for the reply to an accepted `Resolve`. -/
  | resolving (names : List Text)
  /-- In the destructor of the callback object, after the loop or an
  exception. -/
  | leaving (success : Bool)
  | exited (success : Bool)

/-- The reply arrives when the IPC thread is back in its event loop. -/
def MainThread.reply (main : MainThread) (ipc : IpcThread) : MainThread :=
  match main, ipc with
  | .resolving names, .idle => .looping names
  | main, _ => main

structure System where
  resolver : Resolver
  up : Bool
  callable : Callable
  main : MainThread

/-- The steps of the callback object that nobody else takes part in. -/
def CallableAction.internal : CallableAction → Bool
  | .get => false
  | .destroy => false
  | .stepped => false
  | _ => true

inductive SystemAction where
  /-- The resolver does something that does not concern this client's calls,
  for instance for another client. -/
  | resolver (action : Action)
  /-- The owner or the thread of the callback object moves on. -/
  | callable (action : CallableAction)
  | get
  | call
  /-- `Resolve` takes the name. -/
  | accept
  /-- `Resolve` throws, or the name does not fit its parameter. -/
  | reject
  /-- The call of `Resolve` fails on its way. -/
  | failCall
  /-- A thread of the resolver calls `OnResolve` of this client. -/
  | onResolve (thread : Thread) (stale : Text)
  /-- That call throws, as its strings do not fit their parameters. -/
  | onResolveFails (thread : Thread) (stale : Text)
  | leave
  | exit

/-- A call of the client or back to it does not go through. -/
def SystemAction.Refused : SystemAction → Prop
  | .reject => True
  | .failCall => True
  | .onResolveFails _ _ => True
  | _ => False

namespace System

def initial (names : List Text) : System :=
  ⟨.initial, true, .initial, .looping names⟩

/-- The destructor of the callback object starts. -/
def destroy (s : System) (success : Bool) : Option System :=
  (s.callable.step .destroy).map fun callable =>
    { s with callable := callable, main := .leaving success }

def get (s : System) : Option System :=
  match s.main with
  | .looping (name :: names) =>
      (s.callable.step .get).map fun callable =>
        { s with callable := callable, main := .getting name names }
  | _ => none

def call (s : System) : Option System :=
  match s.main, s.callable.owner with
  | .getting name names, .idle => some { s with main := .calling name names }
  | _, _ => none

def accept (client : Handle) (s : System) : Option System :=
  match s.main with
  | .calling name names =>
      if s.up ∧ Accepts name then
        (s.resolver.step (.resolve name client)).map fun resolver =>
          { s with resolver := resolver, main := .resolving names }
      else
        none
  | _ => none

def reject (s : System) : Option System :=
  match s.main with
  | .calling name _ => if Accepts name then none else s.destroy false
  | _ => none

def failCall (s : System) : Option System :=
  match s.main with
  | .calling _ _ => s.destroy false
  | .resolving _ => s.destroy false
  | _ => none

/-- The strings a thread is about to pass to `OnResolve` fit. -/
def FlightFits (s : System) (thread : Thread) (stale : Text) : Prop :=
  ∀ flight ∈ s.resolver.flight thread,
    AnswerFits (s.resolver.store.nameAt flight.1 stale) flight.2.2

instance (s : System) (thread : Thread) (stale : Text) :
    Decidable (s.FlightFits thread stale) :=
  inferInstanceAs (Decidable (∀ flight ∈ s.resolver.flight thread, _))

/-- `OnResolve` is served by a `Step` of the callback thread. -/
def onResolve (client : Handle) (s : System) (thread : Thread) (stale : Text) :
    Option System :=
  if s.up ∧ s.resolver.callee thread = some client ∧ s.FlightFits thread stale
  then
    (s.callable.step .stepped).bind fun callable =>
      (s.resolver.step (Resolver.answerAction thread stale)).map fun resolver =>
        { s with resolver := resolver, callable := callable }
  else
    none

/-- The exception leaves `OnResolved` through c-ares; nothing is expected of
the resolver from here on. -/
def onResolveFails (client : Handle) (s : System) (thread : Thread)
    (stale : Text) : Option System :=
  if s.up ∧ s.resolver.callee thread = some client ∧ ¬ s.FlightFits thread stale
  then some { s with up := false }
  else none

def leave (s : System) : Option System :=
  match s.main with
  | .looping [] => s.destroy true
  | _ => none

def exit (s : System) : Option System :=
  match s.main, s.callable.owner with
  | .leaving success, .joined => some { s with main := .exited success }
  | _, _ => none

def step (client : Handle) (s : System) : SystemAction → Option System
  | .resolver action =>
      if s.up ∧ s.resolver.independent client action then
        (s.resolver.step action).map fun resolver =>
          { s with resolver := resolver, main := s.main.reply resolver.ipc }
      else
        none
  | .callable action =>
      if action.internal then
        (s.callable.step action).map fun callable =>
          { s with callable := callable }
      else
        none
  | .get => s.get
  | .call => s.call
  | .accept => s.accept client
  | .reject => s.reject
  | .failCall => s.failCall
  | .onResolve thread stale => s.onResolve client thread stale
  | .onResolveFails thread stale => s.onResolveFails client thread stale
  | .leave => s.leave
  | .exit => s.exit

end System

/-! ## Where the owner of the callback object is -/

/-- In `Get`, or back from it. -/
def Owner.Getting : Owner → Prop
  | .idle => True
  | .adding (.step _) => True
  | .pushing (.step _) => True
  | .notifying (.step _) => True
  | _ => False

/-- In the destructor. -/
def Owner.Leaving : Owner → Prop
  | .adding .stop => True
  | .pushing .stop => True
  | .notifying .stop => True
  | .joining => True
  | .joined => True
  | _ => False

/-- The main thread is the owner of the callback object. -/
def Placed : MainThread → Owner → Prop
  | .looping _, owner => owner = .idle
  | .getting _ _, owner => owner.Getting
  | .calling _ _, owner => owner = .idle
  | .resolving _, owner => owner = .idle
  | .leaving _, owner => owner.Leaving
  | .exited _, owner => owner = .joined

/-- Whether a `Step` has been queued for a call that is still to be made. -/
def promised : MainThread → Owner → Nat
  | .getting _ _, .notifying _ => 1
  | .getting _ _, .idle => 1
  | .calling _ _, _ => 1
  | _, _ => 0

private theorem promised_reply (main : MainThread) (ipc : IpcThread) (owner : Owner) :
    promised (main.reply ipc) owner = promised main owner := by
  cases main with
  | resolving names => cases ipc <;> rfl
  | _ => rfl

private theorem placed_reply {main : MainThread} {owner : Owner}
    (placed : Placed main owner) (ipc : IpcThread) :
    Placed (main.reply ipc) owner := by
  cases main with
  | resolving names => cases ipc <;> exact placed
  | _ => exact placed

/-- Pushing the handler of `Get` is what makes the promise. -/
theorem promised_push {main : MainThread} {handler : Handler}
    (placed : Placed main (.pushing handler)) (queued : List Handler) :
    Placed main (.notifying handler) ∧
      steps (queued ++ [handler]) + promised main (.pushing handler) =
        steps queued + promised main (.notifying handler) := by
  unfold steps
  rw [List.countP_append]
  cases main with
  | getting name names =>
      cases handler with
      | step number => exact ⟨trivial, rfl⟩
      | stop => exact placed.elim
  | leaving success =>
      cases handler with
      | step number => exact placed.elim
      | stop => exact ⟨trivial, rfl⟩
  | looping names => cases placed
  | calling name names => cases placed
  | resolving names => cases placed
  | exited success => cases placed

/-- What the moves of the callback object alone keep. -/
theorem internal_step {c d : Callable} {action : CallableAction}
    (stepped : c.step action = some d) (internal : action.internal = true)
    {main : MainThread} (placed : Placed main c.owner) :
    d.served = c.served ∧ Placed main d.owner ∧
      steps d.queued + promised main c.owner =
        steps c.queued + promised main d.owner := by
  cases Callable.moves_of_step stepped with
  | get => cases internal
  | destroy => cases internal
  | stepped => cases internal
  | push => exact ⟨rfl, promised_push placed _⟩
  | @ownerLock handlers handler =>
      cases main with
      | getting name names =>
          cases handler with
          | step number => exact ⟨rfl, trivial, rfl⟩
          | stop => exact placed.elim
      | leaving success =>
          cases handler with
          | step number => exact placed.elim
          | stop => exact ⟨rfl, trivial, rfl⟩
      | _ => cases placed
  | notify =>
      cases main with
      | getting name names => exact ⟨rfl, trivial, rfl⟩
      | leaving success => exact placed.elim
      | _ => cases placed
  | notifyStop =>
      cases main with
      | leaving success => exact ⟨rfl, trivial, rfl⟩
      | getting name names => exact placed.elim
      | _ => cases placed
  | join =>
      cases main with
      | leaving success => exact ⟨rfl, trivial, rfl⟩
      | getting name names => exact placed.elim
      | _ => cases placed
  | _ => exact ⟨rfl, placed, rfl⟩

/-! ## Every step is matched -/

/-- Each `Step` queued belongs to a request of this client: one the resolver
has accepted, one its IPC thread holds, or the one about to be made; and each
`Step` served was an answer to this client. -/
structure Matched (client : Handle) (s : System) : Prop where
  sound : s.resolver.Sound
  orderly : s.callable.Orderly
  queued : steps s.callable.queued =
    s.resolver.acceptedFor client + s.resolver.ipc.inHand client +
      promised s.main s.callable.owner
  served : s.callable.served = s.resolver.answeredFor client
  handed : s.resolver.ipc.inHand client = 0 ∨ ∃ names, s.main = .resolving names
  placed : Placed s.main s.callable.owner

namespace System

variable {client : Handle} {s t : System}

theorem matched_initial (client : Handle) (names : List Text) :
    Matched client (initial names) where
  sound := Resolver.sound_initial
  orderly := Callable.orderly_initial
  queued := rfl
  served := rfl
  handed := .inl rfl
  placed := rfl

private theorem matched_resolver {action : Action} {resolver : Resolver}
    (stepped : s.resolver.step action = some resolver)
    (apart : s.resolver.independent client action = true)
    (matched : Matched client s) :
    Matched client
      { s with resolver := resolver, main := s.main.reply resolver.ipc } := by
  have unseen := Resolver.unseen_step stepped apart
  constructor
  case sound => exact Resolver.sound_step stepped matched.sound
  case orderly => exact matched.orderly
  case queued =>
      rw [promised_reply, unseen.requests]
      exact matched.queued
  case served =>
      rw [unseen.answers]
      exact matched.served
  case handed =>
      rcases matched.handed with none | ⟨names, waiting⟩
      · exact .inl (Nat.le_zero.mp (none ▸ unseen.inHand))
      · rw [waiting]
        cases ipc : resolver.ipc with
        | idle => exact .inl rfl
        | _ => exact .inr ⟨names, rfl⟩
  case placed => exact placed_reply matched.placed resolver.ipc

private theorem matched_callable {action : CallableAction} {callable : Callable}
    (stepped : s.callable.step action = some callable)
    (internal : action.internal = true) (matched : Matched client s) :
    Matched client { s with callable := callable } := by
  obtain ⟨served, placed, balance⟩ :=
    internal_step stepped internal matched.placed
  have queued := matched.queued
  refine ⟨matched.sound, Callable.orderly_step stepped matched.orderly, ?_,
    served.trans matched.served, matched.handed, placed⟩
  simp only
  omega

private theorem matched_get (stepped : s.get = some t) (matched : Matched client s) :
    Matched client t := by
  obtain ⟨resolver, up, callable, main⟩ := s
  cases main with
  | looping names =>
      cases names with
      | nil => cases stepped
      | cons name names =>
          obtain ⟨next, got, rfl⟩ := Option.map_eq_some_iff.mp stepped
          have orderly := Callable.orderly_step got matched.orderly
          have none := matched.handed.resolve_right (by simp)
          cases Callable.moves_of_step got with
          | get =>
              exact ⟨matched.sound, orderly, matched.queued, matched.served,
                .inl none, trivial⟩
  | _ => cases stepped

private theorem matched_call (stepped : s.call = some t)
    (matched : Matched client s) : Matched client t := by
  obtain ⟨resolver, up, ⟨handlers, guard, owner, thread, gets, queued, taken,
    served⟩, main⟩ := s
  cases main with
  | getting name names =>
      cases owner with
      | idle =>
          cases stepped
          have none := matched.handed.resolve_right (by simp)
          exact ⟨matched.sound, matched.orderly, matched.queued,
            matched.served, .inl none, rfl⟩
      | _ => cases stepped
  | _ => cases stepped

/-- The promised call is now in the hands of the resolver. -/
theorem matched_accept (stepped : s.accept client = some t)
    (matched : Matched client s) : Matched client t := by
  obtain ⟨resolver, up, callable, main⟩ := s
  cases main with
  | calling name names =>
      simp only [accept] at stepped
      split at stepped
      next fine =>
        obtain ⟨next, resolved, rfl⟩ := Option.map_eq_some_iff.mp stepped
        obtain ⟨accepted, answered, before, after⟩ :=
          Resolver.resolve_inHand fine.2.2 resolved
        have queued : steps callable.queued = resolver.acceptedFor client +
          resolver.ipc.inHand client + 1 := matched.queued
        refine ⟨Resolver.sound_step resolved matched.sound, matched.orderly,
          ?_, matched.served.trans answered.symm, .inr ⟨names, rfl⟩,
          matched.placed⟩
        change steps callable.queued =
          next.acceptedFor client + next.ipc.inHand client + 0
        rw [queued, accepted, before, after]
      next => cases stepped
  | _ => cases stepped

/-- An answer of the resolver is served by the `Step` that waits for it. -/
theorem matched_onResolve {thread : Thread} {stale : Text}
    (stepped : s.onResolve client thread stale = some t)
    (matched : Matched client s) : Matched client t := by
  unfold onResolve at stepped
  split at stepped
  next fine =>
    obtain ⟨callable, served, rest⟩ := Option.bind_eq_some_iff.mp stepped
    obtain ⟨resolver, answered, rfl⟩ := Option.map_eq_some_iff.mp rest
    obtain ⟨acceptedFor, answeredFor, inHand⟩ :=
      Resolver.answer_counts fine.2.1 answered
    have orderly := Callable.orderly_step served matched.orderly
    have sound := Resolver.sound_step answered matched.sound
    obtain ⟨before, up, callable, main⟩ := s
    cases Callable.moves_of_step served with
    | stepped =>
        refine ⟨sound, orderly, ?_, ?_, ?_, matched.placed⟩
        · rw [acceptedFor, inHand]
          exact matched.queued
        · rw [answeredFor]
          exact congrArg (· + 1) matched.served
        · rw [inHand]
          exact matched.handed
  next => cases stepped

private theorem matched_leave (stepped : s.leave = some t)
    (matched : Matched client s) : Matched client t := by
  obtain ⟨resolver, up, callable, main⟩ := s
  cases main with
  | looping names =>
      cases names with
      | nil =>
          obtain ⟨next, destroyed, rfl⟩ := Option.map_eq_some_iff.mp stepped
          have orderly := Callable.orderly_step destroyed matched.orderly
          have none := matched.handed.resolve_right (by simp)
          cases Callable.moves_of_step destroyed with
          | destroy =>
              exact ⟨matched.sound, orderly, matched.queued, matched.served,
                .inl none, trivial⟩
      | cons name names => cases stepped
  | _ => cases stepped

private theorem matched_exit (stepped : s.exit = some t)
    (matched : Matched client s) : Matched client t := by
  obtain ⟨resolver, up, ⟨handlers, guard, owner, thread, gets, queued, taken,
    served⟩, main⟩ := s
  cases main with
  | leaving success =>
      cases owner with
      | joined =>
          cases stepped
          have none := matched.handed.resolve_right (by simp)
          exact ⟨matched.sound, matched.orderly, matched.queued,
            matched.served, .inl none, rfl⟩
      | _ => cases stepped
  | _ => cases stepped

theorem matched_step {action : SystemAction} (through : ¬ action.Refused)
    (stepped : step client s action = some t) (matched : Matched client s) :
    Matched client t := by
  cases action with
  | resolver action =>
      simp only [step] at stepped
      split at stepped
      next fine =>
        obtain ⟨resolver, moved, rfl⟩ := Option.map_eq_some_iff.mp stepped
        exact matched_resolver moved fine.2 matched
      next => cases stepped
  | callable action =>
      simp only [step] at stepped
      split at stepped
      next internal =>
        obtain ⟨callable, moved, rfl⟩ := Option.map_eq_some_iff.mp stepped
        exact matched_callable moved internal matched
      next => cases stepped
  | get => exact matched_get stepped matched
  | call => exact matched_call stepped matched
  | accept => exact matched_accept stepped matched
  | onResolve thread stale => exact matched_onResolve stepped matched
  | leave => exact matched_leave stepped matched
  | exit => exact matched_exit stepped matched
  | reject => exact absurd trivial through
  | failCall => exact absurd trivial through
  | onResolveFails thread stale => exact absurd trivial through

/-- Only an exception in a call of `OnResolve` takes the resolver down. -/
theorem up_step {action : SystemAction} (through : ¬ action.Refused)
    (stepped : step client s action = some t) (up : s.up = true) :
    t.up = true := by
  cases action with
  | resolver action =>
      obtain ⟨-, moved⟩ := Option.ite_none_right_eq_some.mp stepped
      obtain ⟨resolver, -, rfl⟩ := Option.map_eq_some_iff.mp moved
      exact up
  | callable action =>
      obtain ⟨-, moved⟩ := Option.ite_none_right_eq_some.mp stepped
      obtain ⟨callable, -, rfl⟩ := Option.map_eq_some_iff.mp moved
      exact up
  | get =>
      simp only [step, get] at stepped
      split at stepped
      next =>
        obtain ⟨callable, -, rfl⟩ := Option.map_eq_some_iff.mp stepped
        exact up
      next => cases stepped
  | call =>
      simp only [step, call] at stepped
      split at stepped
      next =>
        cases stepped
        exact up
      next => cases stepped
  | accept =>
      simp only [step, accept] at stepped
      split at stepped
      next =>
        obtain ⟨-, moved⟩ := Option.ite_none_right_eq_some.mp stepped
        obtain ⟨resolver, -, rfl⟩ := Option.map_eq_some_iff.mp moved
        exact up
      next => cases stepped
  | onResolve thread stale =>
      obtain ⟨-, moved⟩ := Option.ite_none_right_eq_some.mp stepped
      obtain ⟨callable, -, answered⟩ := Option.bind_eq_some_iff.mp moved
      obtain ⟨resolver, -, rfl⟩ := Option.map_eq_some_iff.mp answered
      exact up
  | leave =>
      simp only [step, leave] at stepped
      split at stepped
      next =>
        obtain ⟨callable, -, rfl⟩ := Option.map_eq_some_iff.mp stepped
        exact up
      next => cases stepped
  | exit =>
      simp only [step, exit] at stepped
      split at stepped
      next =>
        cases stepped
        exact up
      next => cases stepped
  | reject => exact absurd trivial through
  | failCall => exact absurd trivial through
  | onResolveFails thread stale => exact absurd trivial through

/-! ## No wait without an answer to come -/

/-- The callback thread waits in `Step`, the destructor waits for the thread,
and the resolver owes this client nothing. -/
def Stuck (client : Handle) (s : System) : Prop :=
  s.callable.thread = .stepping ∧ s.callable.owner = .joining ∧
    s.resolver.outstandingFor client = []

/-- The call of the main thread that has its `Step` but no request yet. -/
def inProgress (client : Handle) (s : System) : Nat :=
  s.resolver.ipc.inHand client + promised s.main s.callable.owner

end System

private theorem Matched.not_inHand_of_joining {client : Handle} {s : System}
    (matched : Matched client s) (joining : s.callable.owner = .joining) :
    s.inProgress client = 0 := by
  have placed := matched.placed
  have handed := matched.handed
  rw [joining] at placed
  unfold System.inProgress
  rw [joining]
  cases main : s.main with
  | leaving success =>
      have none := handed.resolve_right (by simp [main])
      rw [none]
      rfl
  | getting name names =>
      rw [main] at placed
      exact placed.elim
  | _ =>
      rw [main] at placed
      cases placed

theorem Matched.queued_eq {client : Handle} {s : System}
    (matched : Matched client s) :
    steps s.callable.queued = s.resolver.answeredFor client +
      (s.resolver.outstandingFor client).length + s.inProgress client := by
  rw [matched.queued, matched.sound.acceptedFor_eq client, System.inProgress]
  omega

private theorem Matched.not_stuck {client : Handle} {s : System}
    (matched : Matched client s) : ¬ s.Stuck client := by
  rintro ⟨stepping, joining, settled⟩
  have begun := matched.orderly.served_add_running_le
  have balance := matched.queued_eq
  rw [matched.not_inHand_of_joining joining, settled] at balance
  rw [stepping, matched.served, balance] at begun
  exact Nat.not_succ_le_self _ begun

/-- In every run in which every call of `Resolve` is accepted and every call
of `OnResolve` goes through, each `Step` has its answer, made or owed: those
served are as many as the answers, those queued are as many as the answers,
the requests outstanding and the call in progress, a client that has exited
got an answer for each, and no `Step` is left waiting with nothing owed.  The
resolver, which owes the answers, stays up. -/
theorem System.steps_are_owed (client : Handle) (names : List Text)
    (actions : List SystemAction) (s : System)
    (ran : Transition.run (step client) (initial names) actions = some s)
    (through : ∀ action ∈ actions, ¬ action.Refused) :
    s.callable.served = s.resolver.answeredFor client ∧
      steps s.callable.queued = s.resolver.answeredFor client +
        (s.resolver.outstandingFor client).length + s.inProgress client ∧
      (∀ success, s.main = .exited success →
        steps s.callable.queued = s.resolver.answeredFor client) ∧
      ¬ s.Stuck client ∧ s.up = true := by
  have matched : Matched client s :=
    Transition.run_invariant matched_step ran through
      (matched_initial client names)
  have started : (initial names).up = true := rfl
  have up := Transition.run_invariant up_step ran through started
  refine ⟨matched.served, matched.queued_eq, ?_, matched.not_stuck, up⟩
  intro success exited
  have placed := matched.placed
  rw [exited] at placed
  have stopped := matched.orderly.joined placed
  have ended : s.callable.thread.Ended := by
    rw [stopped]
    trivial
  exact (matched.orderly.served_of_ended ended).symm.trans matched.served

namespace System

/-- `Get` queues a `Step` and the callback thread takes it. -/
def stepTaken : List SystemAction :=
  [.get, .callable .ownerLock, .callable .push, .callable .notify, .call,
    .callable .threadLock, .callable .test, .callable .dispatch]

/-- The destructor queues the empty handler. -/
def stopQueued : List SystemAction :=
  [.callable .ownerLock, .callable .push, .callable .notify]

/-- One name, answered while it is being accepted. -/
def oneNameRun : List SystemAction :=
  stepTaken ++
    [.accept, .resolver .ipcLock, .resolver .emplace,
      .resolver (.completeNow ⟨4, none⟩), .onResolve .ipc [],
      .resolver .ipcNotify, .leave] ++
    stopQueued ++
    [.callable .threadLock, .callable .test, .callable .dispatch,
      .callable .join, .exit]

theorem oneNameRun_answered :
    ∃ s, Transition.run (step 7) (initial ["a.example".toList]) oneNameRun =
        some s ∧
      s.main = .exited true ∧
      steps s.callable.queued = s.resolver.answeredFor 7 := by
  have through : ∀ action ∈ oneNameRun, ¬ action.Refused := by
    simp [oneNameRun, stepTaken, stopQueued, SystemAction.Refused]
  refine ⟨_, rfl, rfl, ?_⟩
  exact (steps_are_owed 7 ["a.example".toList] oneNameRun _ rfl
    through).2.2.1 true rfl

/-- An empty host name makes `Resolve` throw: the destructor joins a thread
in `Step`, and no request is outstanding. -/
theorem emptyName_stuck :
    ∃ s, Transition.run (step 7) (initial [[]])
        (stepTaken ++ [.reject] ++ stopQueued) = some s ∧
      s.Stuck 7 := by
  exact ⟨_, rfl, rfl, rfl, rfl⟩

end System

end KosCeExtra.Dns
