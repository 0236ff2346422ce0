import Mathlib.Data.List.Basic
import KosCeExtra.Library.Transition

/-!
# The callback object of the DNS client

A `Callable` owns a thread that takes handlers off a queue and runs them until
it takes the empty one.  `Get` queues a handler that serves one incoming call
(`loop.Step()`), the destructor queues the empty handler and joins the thread.
The owner and the thread share the queue under a mutex and a condition
variable; a step of the model is what one of them does between two points
where the other may be seen to act.

The handlers queued by `Get` are numbered, and the state keeps which handlers
were queued and taken so far and how many calls of `Step` have returned.
-/

namespace KosCeExtra.Dns

inductive Handler where
  /-- The handler queued by a call of `Get`. -/
  | step (number : Nat)
  /-- The empty handler. -/
  | stop
  deriving DecidableEq, Repr

def Handler.isStep : Handler → Bool
  | .step _ => true
  | .stop => false

/-- How many of the handlers serve a call. -/
def steps (handlers : List Handler) : Nat :=
  handlers.countP Handler.isStep

inductive Party where
  | owner
  | thread
  deriving DecidableEq, Repr

/-- Where the owner is. -/
inductive Owner where
  | idle
  /-- In `AddHandler`, about to take the mutex. -/
  | adding (handler : Handler)
  /-- In `AddHandler`, holding the mutex. -/
  | pushing (handler : Handler)
  /-- At the end of `AddHandler`, about to notify. -/
  | notifying (handler : Handler)
  /-- In the destructor, in `join`. -/
  | joining
  | joined
  deriving DecidableEq, Repr

/-- Where the thread is. -/
inductive CallbackThread where
  /-- In `GetHandler`, about to take the mutex. -/
  | entering
  /-- Holding the mutex, before the test that may wait. -/
  | testing
  /-- Blocked in the wait, without the mutex. -/
  | waiting
  /-- Woken in the wait, about to take the mutex again. -/
  | woken
  /-- Back from `GetHandler`. -/
  | took (handler : Handler)
  /-- In `loop.Step()`, until a call has been served. -/
  | stepping
  | stopped
  deriving DecidableEq, Repr

def CallbackThread.notifyOne : CallbackThread → CallbackThread
  | .waiting => .woken
  | thread => thread

structure Callable where
  handlers : List Handler
  guard : Option Party
  owner : Owner
  thread : CallbackThread
  gets : Nat
  queued : List Handler
  taken : List Handler
  served : Nat
  deriving DecidableEq, Repr

inductive CallableAction where
  | get
  | destroy
  | ownerLock
  | push
  | notify
  | join
  | threadLock
  | test
  | wake
  | dispatch
  | stepped
  deriving DecidableEq, Repr

namespace Callable

def initial : Callable :=
  ⟨[], none, .idle, .entering, 0, [], [], 0⟩

/-- `Get` starts to queue its handler. -/
def get (c : Callable) : Option Callable :=
  match c.owner with
  | .idle => some { c with owner := .adding (.step c.gets), gets := c.gets + 1 }
  | _ => none

/-- `~Callable` starts to queue the empty handler. -/
def destroy (c : Callable) : Option Callable :=
  match c.owner with
  | .idle => some { c with owner := .adding .stop }
  | _ => none

def ownerLock (c : Callable) : Option Callable :=
  match c.guard, c.owner with
  | none, .adding handler =>
      some { c with guard := some .owner, owner := .pushing handler }
  | _, _ => none

def push (c : Callable) : Option Callable :=
  match c.owner with
  | .pushing handler =>
      some { c with
        handlers := c.handlers ++ [handler]
        queued := c.queued ++ [handler]
        guard := none
        owner := .notifying handler }
  | _ => none

/-- After `notify_one`, `Get` returns and the destructor joins. -/
def notify (c : Callable) : Option Callable :=
  match c.owner with
  | .notifying (.step _) =>
      some { c with thread := c.thread.notifyOne, owner := .idle }
  | .notifying .stop =>
      some { c with thread := c.thread.notifyOne, owner := .joining }
  | _ => none

def join (c : Callable) : Option Callable :=
  match c.owner, c.thread with
  | .joining, .stopped => some { c with owner := .joined }
  | _, _ => none

def threadLock (c : Callable) : Option Callable :=
  match c.guard, c.thread with
  | none, .entering => some { c with guard := some .thread, thread := .testing }
  | none, .woken => some { c with guard := some .thread, thread := .testing }
  | _, _ => none

/-- `GetHandler` waits on an empty queue and else takes the first handler. -/
def test (c : Callable) : Option Callable :=
  match c.thread, c.handlers with
  | .testing, [] => some { c with guard := none, thread := .waiting }
  | .testing, handler :: rest =>
      some { c with
        handlers := rest
        taken := c.taken ++ [handler]
        guard := none
        thread := .took handler }
  | _, _ => none

def wake (c : Callable) : Option Callable :=
  match c.thread with
  | .waiting => some { c with thread := .woken }
  | _ => none

/-- The loop of `ServeCalls` runs a handler and ends at the empty one. -/
def dispatch (c : Callable) : Option Callable :=
  match c.thread with
  | .took (.step _) => some { c with thread := .stepping }
  | .took .stop => some { c with thread := .stopped }
  | _ => none

/-- `Step` returns after it has served one incoming call. -/
def stepped (c : Callable) : Option Callable :=
  match c.thread with
  | .stepping => some { c with thread := .entering, served := c.served + 1 }
  | _ => none

def step (c : Callable) : CallableAction → Option Callable
  | .get => c.get
  | .destroy => c.destroy
  | .ownerLock => c.ownerLock
  | .push => c.push
  | .notify => c.notify
  | .join => c.join
  | .threadLock => c.threadLock
  | .test => c.test
  | .wake => c.wake
  | .dispatch => c.dispatch
  | .stepped => c.stepped

/-! ## What a step can do -/

/-- The transitions of `step`, one for each branch that is taken. -/
inductive Moves : Callable → CallableAction → Callable → Prop where
  | get {handlers guard thread gets queued taken served} :
      Moves ⟨handlers, guard, .idle, thread, gets, queued, taken, served⟩ .get
        ⟨handlers, guard, .adding (.step gets), thread, gets + 1, queued, taken,
          served⟩
  | destroy {handlers guard thread gets queued taken served} :
      Moves ⟨handlers, guard, .idle, thread, gets, queued, taken, served⟩
        .destroy
        ⟨handlers, guard, .adding .stop, thread, gets, queued, taken, served⟩
  | ownerLock {handlers handler thread gets queued taken served} :
      Moves ⟨handlers, none, .adding handler, thread, gets, queued, taken,
          served⟩ .ownerLock
        ⟨handlers, some .owner, .pushing handler, thread, gets, queued, taken,
          served⟩
  | push {handlers guard handler thread gets queued taken served} :
      Moves ⟨handlers, guard, .pushing handler, thread, gets, queued, taken,
          served⟩ .push
        ⟨handlers ++ [handler], none, .notifying handler, thread, gets,
          queued ++ [handler], taken, served⟩
  | notify {handlers guard number thread gets queued taken served} :
      Moves ⟨handlers, guard, .notifying (.step number), thread, gets, queued,
          taken, served⟩ .notify
        ⟨handlers, guard, .idle, thread.notifyOne, gets, queued, taken, served⟩
  | notifyStop {handlers guard thread gets queued taken served} :
      Moves ⟨handlers, guard, .notifying .stop, thread, gets, queued, taken,
          served⟩ .notify
        ⟨handlers, guard, .joining, thread.notifyOne, gets, queued, taken,
          served⟩
  | join {handlers guard gets queued taken served} :
      Moves ⟨handlers, guard, .joining, .stopped, gets, queued, taken, served⟩
        .join
        ⟨handlers, guard, .joined, .stopped, gets, queued, taken, served⟩
  | enter {handlers owner gets queued taken served} :
      Moves ⟨handlers, none, owner, .entering, gets, queued, taken, served⟩
        .threadLock
        ⟨handlers, some .thread, owner, .testing, gets, queued, taken, served⟩
  | reenter {handlers owner gets queued taken served} :
      Moves ⟨handlers, none, owner, .woken, gets, queued, taken, served⟩
        .threadLock
        ⟨handlers, some .thread, owner, .testing, gets, queued, taken, served⟩
  | wait {guard owner gets queued taken served} :
      Moves ⟨[], guard, owner, .testing, gets, queued, taken, served⟩ .test
        ⟨[], none, owner, .waiting, gets, queued, taken, served⟩
  | take {handler rest guard owner gets queued taken served} :
      Moves ⟨handler :: rest, guard, owner, .testing, gets, queued, taken,
          served⟩ .test
        ⟨rest, none, owner, .took handler, gets, queued, taken ++ [handler],
          served⟩
  | wake {handlers guard owner gets queued taken served} :
      Moves ⟨handlers, guard, owner, .waiting, gets, queued, taken, served⟩
        .wake ⟨handlers, guard, owner, .woken, gets, queued, taken, served⟩
  | dispatch {handlers guard owner number gets queued taken served} :
      Moves ⟨handlers, guard, owner, .took (.step number), gets, queued, taken,
          served⟩ .dispatch
        ⟨handlers, guard, owner, .stepping, gets, queued, taken, served⟩
  | finish {handlers guard owner gets queued taken served} :
      Moves ⟨handlers, guard, owner, .took .stop, gets, queued, taken, served⟩
        .dispatch
        ⟨handlers, guard, owner, .stopped, gets, queued, taken, served⟩
  | stepped {handlers guard owner gets queued taken served} :
      Moves ⟨handlers, guard, owner, .stepping, gets, queued, taken, served⟩
        .stepped
        ⟨handlers, guard, owner, .entering, gets, queued, taken, served + 1⟩

private theorem moves_of_get {s t : Callable} (stepped : s.get = some t) :
    Moves s .get t := by
  obtain ⟨handlers, guard, owner, thread, gets, queued, taken, served⟩ := s
  cases owner with
  | idle =>
      cases stepped
      exact .get
  | _ => cases stepped

private theorem moves_of_destroy {s t : Callable} (stepped : s.destroy = some t) :
    Moves s .destroy t := by
  obtain ⟨handlers, guard, owner, thread, gets, queued, taken, served⟩ := s
  cases owner with
  | idle =>
      cases stepped
      exact .destroy
  | _ => cases stepped

private theorem moves_of_ownerLock {s t : Callable} (stepped : s.ownerLock = some t) :
    Moves s .ownerLock t := by
  obtain ⟨handlers, guard, owner, thread, gets, queued, taken, served⟩ := s
  cases guard with
  | none =>
      cases owner with
      | adding handler =>
          cases stepped
          exact .ownerLock
      | _ => cases stepped
  | some party => cases stepped

private theorem moves_of_push {s t : Callable} (stepped : s.push = some t) :
    Moves s .push t := by
  obtain ⟨handlers, guard, owner, thread, gets, queued, taken, served⟩ := s
  cases owner with
  | pushing handler =>
      cases stepped
      exact .push
  | _ => cases stepped

private theorem moves_of_notify {s t : Callable} (stepped : s.notify = some t) :
    Moves s .notify t := by
  obtain ⟨handlers, guard, owner, thread, gets, queued, taken, served⟩ := s
  cases owner with
  | notifying handler =>
      cases handler with
      | step number =>
          cases stepped
          exact .notify
      | stop =>
          cases stepped
          exact .notifyStop
  | _ => cases stepped

private theorem moves_of_join {s t : Callable} (stepped : s.join = some t) :
    Moves s .join t := by
  obtain ⟨handlers, guard, owner, thread, gets, queued, taken, served⟩ := s
  cases owner with
  | joining =>
      cases thread with
      | stopped =>
          cases stepped
          exact .join
      | _ => cases stepped
  | _ => cases stepped

private theorem moves_of_threadLock {s t : Callable} (stepped : s.threadLock = some t) :
    Moves s .threadLock t := by
  obtain ⟨handlers, guard, owner, thread, gets, queued, taken, served⟩ := s
  cases guard with
  | none =>
      cases thread with
      | entering =>
          cases stepped
          exact .enter
      | woken =>
          cases stepped
          exact .reenter
      | _ => cases stepped
  | some party => cases stepped

private theorem moves_of_test {s t : Callable} (stepped : s.test = some t) :
    Moves s .test t := by
  obtain ⟨handlers, guard, owner, thread, gets, queued, taken, served⟩ := s
  cases thread with
  | testing =>
      cases handlers with
      | nil =>
          cases stepped
          exact .wait
      | cons handler rest =>
          cases stepped
          exact .take
  | _ => cases stepped

private theorem moves_of_wake {s t : Callable} (stepped : s.wake = some t) :
    Moves s .wake t := by
  obtain ⟨handlers, guard, owner, thread, gets, queued, taken, served⟩ := s
  cases thread with
  | waiting =>
      cases stepped
      exact .wake
  | _ => cases stepped

private theorem moves_of_dispatch {s t : Callable} (stepped : s.dispatch = some t) :
    Moves s .dispatch t := by
  obtain ⟨handlers, guard, owner, thread, gets, queued, taken, served⟩ := s
  cases thread with
  | took handler =>
      cases handler with
      | step number =>
          cases stepped
          exact .dispatch
      | stop =>
          cases stepped
          exact .finish
  | _ => cases stepped

private theorem moves_of_stepped {s t : Callable} (stepped : s.stepped = some t) :
    Moves s .stepped t := by
  obtain ⟨handlers, guard, owner, thread, gets, queued, taken, served⟩ := s
  cases thread with
  | stepping =>
      cases stepped
      exact .stepped
  | _ => cases stepped

theorem moves_of_step {s t : Callable} {action : CallableAction}
    (stepped : s.step action = some t) : Moves s action t := by
  cases action with
  | get => exact moves_of_get stepped
  | destroy => exact moves_of_destroy stepped
  | ownerLock => exact moves_of_ownerLock stepped
  | push => exact moves_of_push stepped
  | notify => exact moves_of_notify stepped
  | join => exact moves_of_join stepped
  | threadLock => exact moves_of_threadLock stepped
  | test => exact moves_of_test stepped
  | wake => exact moves_of_wake stepped
  | dispatch => exact moves_of_dispatch stepped
  | stepped => exact moves_of_stepped stepped

end Callable

/-! ## The queue is first in, first out and ends with the empty handler -/

/-- The empty handler has been queued. -/
def Owner.Closed : Owner → Prop
  | .notifying .stop => True
  | .joining => True
  | .joined => True
  | _ => False

/-- The empty handler has been taken. -/
def CallbackThread.Ended : CallbackThread → Prop
  | .took .stop => True
  | .stopped => True
  | _ => False

/-- Whether the thread has taken a handler whose call is not served yet. -/
def CallbackThread.running : CallbackThread → Nat
  | .took (.step _) => 1
  | .stepping => 1
  | _ => 0

namespace Callable

structure Orderly (c : Callable) : Prop where
  fifo : c.queued = c.taken ++ c.handlers
  running : steps c.taken = c.served + c.thread.running
  isOpen : ¬ c.owner.Closed → .stop ∉ c.queued
  closed : c.owner.Closed →
    ∃ before, c.queued = before ++ [.stop] ∧ .stop ∉ before
  ended : c.thread.Ended → .stop ∈ c.taken
  joined : c.owner = .joined → c.thread = .stopped

theorem orderly_initial : initial.Orderly where
  fifo := rfl
  running := rfl
  isOpen := fun _ => List.not_mem_nil
  closed := fun closed => closed.elim
  ended := fun ended => ended.elim
  joined := fun joined => by cases joined

variable {c d : Callable}

/-- A step of the owner outside the queue. -/
theorem Orderly.moveOwner (orderly : c.Orderly) (owner : Owner)
    (closed : owner.Closed ↔ c.owner.Closed)
    (joined : owner = .joined → c.thread = .stopped) (guard : Option Party)
    (gets : Nat) :
    { c with owner := owner, guard := guard, gets := gets }.Orderly where
  fifo := orderly.fifo
  running := orderly.running
  isOpen := fun notClosed => orderly.isOpen (notClosed ∘ closed.mpr)
  closed := fun isClosed => orderly.closed (closed.mp isClosed)
  ended := orderly.ended
  joined := joined

/-- A step of the thread outside the queue. -/
theorem Orderly.moveThread (orderly : c.Orderly) (thread : CallbackThread)
    (running : thread.running = c.thread.running)
    (ended : thread.Ended → c.thread.Ended) (alive : c.thread ≠ .stopped)
    (guard : Option Party) :
    { c with thread := thread, guard := guard }.Orderly where
  fifo := orderly.fifo
  running := by
    rw [running]
    exact orderly.running
  isOpen := orderly.isOpen
  closed := orderly.closed
  ended := fun isEnded => orderly.ended (ended isEnded)
  joined := fun isJoined => absurd (orderly.joined isJoined) alive

private theorem notifyOne_running (thread : CallbackThread) :
    thread.notifyOne.running = thread.running := by
  cases thread <;> rfl

private theorem ended_of_notifyOne {thread : CallbackThread}
    (ended : thread.notifyOne.Ended) : thread.Ended := by
  cases thread <;> exact ended

/-- A step of the owner that wakes the thread up. -/
theorem Orderly.moveBoth (orderly : c.Orderly) (owner : Owner)
    (closed : owner.Closed ↔ c.owner.Closed) (waits : owner ≠ .joined) :
    { c with owner := owner, thread := c.thread.notifyOne }.Orderly where
  fifo := orderly.fifo
  running := by
    rw [notifyOne_running]
    exact orderly.running
  isOpen := fun notClosed => orderly.isOpen (notClosed ∘ closed.mpr)
  closed := fun isClosed => orderly.closed (closed.mp isClosed)
  ended := fun isEnded => orderly.ended (ended_of_notifyOne isEnded)
  joined := fun isJoined => absurd isJoined waits

section Steps

variable {handlers queued taken : List Handler} {guard : Option Party}
variable {owner : Owner} {thread : CallbackThread} {gets served : Nat}
variable {handler : Handler}

private theorem orderly_push
    (orderly : Orderly ⟨handlers, guard, .pushing handler, thread, gets, queued,
      taken, served⟩) :
    Orderly ⟨handlers ++ [handler], none, .notifying handler, thread, gets,
      queued ++ [handler], taken, served⟩ := by
  have fresh : .stop ∉ queued := orderly.isOpen id
  constructor
  case fifo =>
      have fifo : queued = taken ++ handlers := orderly.fifo
      rw [fifo, List.append_assoc]
  case running => exact orderly.running
  case isOpen =>
      intro notClosed member
      rcases List.mem_append.mp member with old | new
      · exact fresh old
      · obtain rfl := List.mem_singleton.mp new
        exact notClosed trivial
  case closed =>
      intro isClosed
      cases handler with
      | step number => exact isClosed.elim
      | stop => exact ⟨queued, rfl, fresh⟩
  case ended => exact orderly.ended
  case joined =>
      intro isJoined
      cases isJoined

private theorem orderly_take
    (orderly : Orderly ⟨handler :: handlers, guard, owner, .testing, gets,
      queued, taken, served⟩) :
    Orderly ⟨handlers, none, owner, .took handler, gets, queued,
      taken ++ [handler], served⟩ := by
  have before : steps taken = served + 0 := orderly.running
  constructor
  case fifo =>
      have fifo : queued = taken ++ handler :: handlers := orderly.fifo
      rw [fifo, List.append_assoc]
      rfl
  case running =>
      rw [steps, List.countP_append, ← steps, before]
      cases handler <;> rfl
  case isOpen => exact orderly.isOpen
  case closed => exact orderly.closed
  case ended =>
      intro isEnded
      cases handler with
      | step number => exact isEnded.elim
      | stop => exact List.mem_append_right _ List.mem_cons_self
  case joined =>
      intro isJoined
      cases orderly.joined isJoined

private theorem orderly_stepped
    (orderly : Orderly ⟨handlers, guard, owner, .stepping, gets, queued, taken,
      served⟩) :
    Orderly ⟨handlers, guard, owner, .entering, gets, queued, taken,
      served + 1⟩ := by
  refine ⟨orderly.fifo, orderly.running, orderly.isOpen, orderly.closed,
    False.elim, fun isJoined => ?_⟩
  cases orderly.joined isJoined

end Steps

theorem orderly_step {action : CallableAction}
    (stepped : c.step action = some d) (orderly : c.Orderly) : d.Orderly := by
  cases moves_of_step stepped with
  | push => exact orderly_push orderly
  | take => exact orderly_take orderly
  | stepped => exact orderly_stepped orderly
  | get => exact orderly.moveOwner (.adding _) Iff.rfl (by simp) _ _
  | destroy => exact orderly.moveOwner (.adding .stop) Iff.rfl (by simp) _ _
  | ownerLock => exact orderly.moveOwner (.pushing _) Iff.rfl (by simp) _ _
  | join => exact orderly.moveOwner .joined Iff.rfl (fun _ => rfl) _ _
  | notify => exact orderly.moveBoth .idle Iff.rfl (by simp)
  | notifyStop => exact orderly.moveBoth .joining Iff.rfl (by simp)
  | enter => exact orderly.moveThread .testing rfl id (by simp) _
  | reenter => exact orderly.moveThread .testing rfl id (by simp) _
  | wait => exact orderly.moveThread .waiting rfl id (by simp) _
  | wake => exact orderly.moveThread .woken rfl id (by simp) _
  | dispatch => exact orderly.moveThread .stepping rfl False.elim (by simp) _
  | finish =>
      exact orderly.moveThread .stopped rfl (fun _ => trivial) (by simp) _

/-- What has been taken was queued, so calls begun do not outnumber the
handlers of `Get`. -/
theorem Orderly.served_add_running_le (orderly : c.Orderly) :
    c.served + c.thread.running ≤ steps c.queued := by
  rw [← orderly.running, orderly.fifo]
  unfold steps
  rw [List.countP_append]
  exact Nat.le_add_right _ _

/-- The thread ends only after the owner has closed the queue. -/
theorem Orderly.closed_of_ended (orderly : c.Orderly)
    (ended : c.thread.Ended) : c.owner.Closed := by
  by_contra notClosed
  apply orderly.isOpen notClosed
  rw [orderly.fifo]
  exact List.mem_append_left _ (orderly.ended ended)

/-- Nothing is queued behind the empty handler. -/
theorem Orderly.drained_of_ended (orderly : c.Orderly)
    (ended : c.thread.Ended) : c.handlers = [] := by
  have taken : .stop ∈ c.taken := orderly.ended ended
  obtain ⟨before, whole, fresh⟩ :=
    orderly.closed (orderly.closed_of_ended ended)
  by_contra more
  obtain ⟨rest, last, split⟩ := List.eq_nil_or_concat c.handlers
    |>.resolve_left more
  rw [orderly.fifo, split, List.concat_eq_append, ← List.append_assoc,
    List.append_singleton_inj] at whole
  exact fresh (whole.1 ▸ List.mem_append_left _ taken)

/-- A thread that has ended has served every handler of `Get`. -/
theorem Orderly.served_of_ended (orderly : c.Orderly)
    (ended : c.thread.Ended) : c.served = steps c.queued := by
  have running : c.thread.running = 0 := by
    revert ended
    cases c.thread with
    | took handler => cases handler <;> intro ended <;> first | rfl | cases ended
    | _ => intro ended; first | rfl | cases ended
  have balance := orderly.running
  rw [running] at balance
  rw [orderly.fifo, orderly.drained_of_ended ended, List.append_nil]
  exact balance.symm

end Callable

end KosCeExtra.Dns
