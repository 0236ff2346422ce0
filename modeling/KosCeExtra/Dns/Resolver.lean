import KosCeExtra.Library.Transition
import KosCeExtra.Dns.Answer

/-!
# The name resolver as two threads

The IPC thread serves `Resolve` calls and, after the last of them, runs the
destructor; the worker runs `ServeRequests`.  They share the request list, the
flag `m_active`, one mutex and one condition variable.  A step of the model is
what one thread does between two points where the other may be seen to act:
taking the mutex, the work under it, one c-ares call, moving a callback out of
a list element, calling it, notifying.

c-ares is part of the environment.  A query either completes inside
`ares_gethostbyname` or stays outstanding until the worker, inside
`ares_process_fd` or `ares_cancel`, completes it; each query completes once.

Besides the members of the class the state keeps what has happened so far:
which requests were accepted, whose callback was moved out, which elements
were removed, which calls of `OnResolve` were made, and which elements were
read after their removal.
-/

namespace KosCeExtra.Dns

/-- The handle of a client's callback object. -/
abbrev Handle := Nat

/-- The address of a list element. -/
abbrev RequestId := Nat

/-- An element of `m_requests`; its callback is null once moved out. -/
structure Element where
  id : RequestId
  name : Text
  callback : Option Handle
  deriving DecidableEq

structure Request where
  id : RequestId
  name : Text
  handle : Handle
  deriving DecidableEq

/-- The element a request is stored in. -/
def Request.element (request : Request) : Element :=
  ⟨request.id, request.name, some request.handle⟩

structure OnResolveCall where
  id : RequestId
  handle : Handle
  name : Text
  address : Text
  deriving DecidableEq

structure Store where
  requests : List Element
  active : Bool
  outstanding : List RequestId
  nextId : RequestId
  accepted : List Request
  moved : List RequestId
  removed : List Element
  answered : List OnResolveCall
  dangling : List RequestId
  deriving DecidableEq

namespace Store

def initial : Store :=
  ⟨[], true, [], 0, [], [], [], [], []⟩

/-- `m_requests.emplace_back`, as the next request to be accepted. -/
def emplaceBack (store : Store) (name : Text) (handle : Handle) : Store :=
  { store with
    requests := store.requests ++ [⟨store.nextId, name, some handle⟩]
    nextId := store.nextId + 1
    accepted := store.accepted ++ [⟨store.nextId, name, handle⟩] }

def find (store : Store) (id : RequestId) : Option Element :=
  store.requests.find? (fun element => element.id == id)

/-- Reading an element that is no longer in the list is recorded. -/
def touch (store : Store) (id : RequestId) : Store :=
  match store.find id with
  | some _ => store
  | none => { store with dangling := store.dangling ++ [id] }

/-- The query has gone out and c-ares will complete it later. -/
def enqueue (store : Store) (id : RequestId) : Store :=
  { store with outstanding := store.outstanding ++ [id] }

/-- The callback of an element is null from here on. -/
def clear (store : Store) (id : RequestId) : Store :=
  { store with
    requests := store.requests.map fun element =>
      if element.id = id then { element with callback := none } else element
    moved := store.moved ++ [id] }

/-- `std::move(std::get<CallbackPtr>(*request))` in `OnResolved`. -/
def moveCallback (store : Store) (id : RequestId) : Option (Handle × Store) :=
  match store.find id with
  | some ⟨_, _, some handle⟩ => some (handle, store.clear id)
  | _ => none

/-- The host name in `*request`; freed memory holds some stale text. -/
def nameAt (store : Store) (id : RequestId) (stale : Text) : Text :=
  match store.find id with
  | some element => element.name
  | none => stale

/-- `callback->OnResolve`.  Only a failed lookup reads `*request` again. -/
def onResolve (store : Store) (id : RequestId) (handle : Handle)
    (lookup : Lookup) (stale : Text) : Store :=
  let texts := answer (store.nameAt id stale) lookup
  let store := if lookup.found.isNone then store.touch id else store
  { store with
    answered := store.answered ++ [⟨id, handle, texts.1, texts.2⟩] }

/-- `m_requests.remove_if` of the null callbacks. -/
def reap (store : Store) : Store :=
  { store with
    requests := store.requests.filter (fun element => element.callback.isSome)
    removed := store.removed ++
      store.requests.filter (fun element => element.callback.isNone) }

end Store

inductive Thread where
  | ipc
  | worker
  deriving DecidableEq

/-- Where the IPC thread is. -/
inductive IpcThread where
  /-- In the event loop. -/
  | idle
  /-- In `AddRequest`, about to take the mutex. -/
  | adding (name : Text) (handle : Handle)
  /-- In `AddRequest`, holding the mutex. -/
  | emplacing (name : Text) (handle : Handle)
  /-- About to call `ares_gethostbyname`. -/
  | querying (id : RequestId)
  /-- In `OnResolved` inside that call, with the callback moved out. -/
  | answering (id : RequestId) (handle : Handle) (lookup : Lookup)
  /-- At the end of `AddRequest`, about to notify. -/
  | notifying
  /-- In `Shutdown`, about to take the mutex. -/
  | stopping
  /-- In `Shutdown`, holding the mutex. -/
  | deactivating
  /-- At the end of `Shutdown`, about to notify. -/
  | notifyingStop
  | joining
  | joined

/-- Where the worker is. -/
inductive Worker where
  /-- In `HasRequests`, about to take the mutex. -/
  | entering
  /-- Holding the mutex, before `remove_if`. -/
  | reaping
  /-- Holding the mutex, before the test that may wait. -/
  | testing
  /-- Blocked in the wait, without the mutex. -/
  | waiting
  /-- Woken in the wait, about to take the mutex again. -/
  | woken
  /-- In the body of the loop of `ServeRequests`. -/
  | serving
  /-- In `OnResolved`, with the callback moved out. -/
  | answering (id : RequestId) (handle : Handle) (lookup : Lookup)
  /-- `ServeRequests` has returned. -/
  | returned

def Worker.notifyOne : Worker → Worker
  | .waiting => .woken
  | worker => worker

structure Resolver where
  store : Store
  guard : Option Thread
  ipc : IpcThread
  worker : Worker

/-- One step of one thread, with what the environment decides in it. -/
inductive Action where
  | resolve (name : Text) (handle : Handle)
  | ipcLock
  | emplace
  | query
  | completeNow (lookup : Lookup)
  | ipcAnswer (stale : Text)
  | ipcNotify
  | shutdown
  | deactivate
  | join
  | workerLock
  | reap
  | test
  | wake
  | complete (id : RequestId) (lookup : Lookup)
  | workerAnswer (stale : Text)
  | loop

namespace Resolver

def initial : Resolver :=
  ⟨.initial, none, .idle, .entering⟩

/-- `Resolver::Resolve`, which throws on an empty name. -/
def resolve (s : Resolver) (name : Text) (handle : Handle) : Option Resolver :=
  match s.ipc with
  | .idle => some (if name = [] then s else { s with ipc := .adding name handle })
  | _ => none

def ipcLock (s : Resolver) : Option Resolver :=
  match s.guard, s.ipc with
  | none, .adding name handle =>
      some { s with guard := some .ipc, ipc := .emplacing name handle }
  | none, .stopping => some { s with guard := some .ipc, ipc := .deactivating }
  | _, _ => none

def emplace (s : Resolver) : Option Resolver :=
  match s.ipc with
  | .emplacing name handle =>
      some { s with
        store := s.store.emplaceBack name handle
        guard := none
        ipc := .querying s.store.nextId }
  | _ => none

def query (s : Resolver) : Option Resolver :=
  match s.ipc with
  | .querying id =>
      some { s with store := (s.store.touch id).enqueue id, ipc := .notifying }
  | _ => none

def completeNow (s : Resolver) (lookup : Lookup) : Option Resolver :=
  match s.ipc with
  | .querying id =>
      ((s.store.touch id).moveCallback id).map fun (handle, store) =>
        { s with store := store, ipc := .answering id handle lookup }
  | _ => none

def ipcAnswer (s : Resolver) (stale : Text) : Option Resolver :=
  match s.ipc with
  | .answering id handle lookup =>
      some { s with
        store := s.store.onResolve id handle lookup stale
        ipc := .notifying }
  | _ => none

def ipcNotify (s : Resolver) : Option Resolver :=
  match s.ipc with
  | .notifying => some { s with worker := s.worker.notifyOne, ipc := .idle }
  | .notifyingStop =>
      some { s with worker := s.worker.notifyOne, ipc := .joining }
  | _ => none

/-- The destructor starts. -/
def shutdown (s : Resolver) : Option Resolver :=
  match s.ipc with
  | .idle => some { s with ipc := .stopping }
  | _ => none

def deactivate (s : Resolver) : Option Resolver :=
  match s.ipc with
  | .deactivating =>
      some { s with
        store := { s.store with active := false }
        guard := none
        ipc := .notifyingStop }
  | _ => none

def join (s : Resolver) : Option Resolver :=
  match s.ipc, s.worker with
  | .joining, .returned => some { s with ipc := .joined }
  | _, _ => none

def workerLock (s : Resolver) : Option Resolver :=
  match s.guard, s.worker with
  | none, .entering => some { s with guard := some .worker, worker := .reaping }
  | none, .woken => some { s with guard := some .worker, worker := .testing }
  | _, _ => none

def reap (s : Resolver) : Option Resolver :=
  match s.worker with
  | .reaping => some { s with store := s.store.reap, worker := .testing }
  | _ => none

/-- The test before the wait and the predicate of the wait agree: an empty
list of an active resolver blocks, anything else makes `HasRequests` return
whether the list has elements. -/
def test (s : Resolver) : Option Resolver :=
  match s.worker with
  | .testing =>
      some { s with
        guard := none
        worker :=
          if s.store.requests.isEmpty && s.store.active then .waiting
          else if s.store.requests.isEmpty then .returned
          else .serving }
  | _ => none

/-- A wait may return without a notification. -/
def wake (s : Resolver) : Option Resolver :=
  match s.worker with
  | .waiting => some { s with worker := .woken }
  | _ => none

def complete (s : Resolver) (id : RequestId) (lookup : Lookup) :
    Option Resolver :=
  match s.worker with
  | .serving =>
      if id ∈ s.store.outstanding then
        (s.store.moveCallback id).map fun (handle, store) =>
          { s with
            store := { store with outstanding := store.outstanding.erase id }
            worker := .answering id handle lookup }
      else
        none
  | _ => none

def workerAnswer (s : Resolver) (stale : Text) : Option Resolver :=
  match s.worker with
  | .answering id handle lookup =>
      some { s with
        store := s.store.onResolve id handle lookup stale
        worker := .serving }
  | _ => none

/-- The next turn of the loop, also by `continue`. -/
def loop (s : Resolver) : Option Resolver :=
  match s.worker with
  | .serving => some { s with worker := .entering }
  | _ => none

def step (s : Resolver) : Action → Option Resolver
  | .resolve name handle => s.resolve name handle
  | .ipcLock => s.ipcLock
  | .emplace => s.emplace
  | .query => s.query
  | .completeNow lookup => s.completeNow lookup
  | .ipcAnswer stale => s.ipcAnswer stale
  | .ipcNotify => s.ipcNotify
  | .shutdown => s.shutdown
  | .deactivate => s.deactivate
  | .join => s.join
  | .workerLock => s.workerLock
  | .reap => s.reap
  | .test => s.test
  | .wake => s.wake
  | .complete id lookup => s.complete id lookup
  | .workerAnswer stale => s.workerAnswer stale
  | .loop => s.loop

/-! ## What a step can do -/

/-- The transitions of `step`, one for each branch that is taken. -/
inductive Moves : Resolver → Action → Resolver → Prop where
  | rejected {store guard worker handle} :
      Moves ⟨store, guard, .idle, worker⟩ (.resolve [] handle)
        ⟨store, guard, .idle, worker⟩
  | resolve {store guard worker name handle} (nonempty : name ≠ []) :
      Moves ⟨store, guard, .idle, worker⟩ (.resolve name handle)
        ⟨store, guard, .adding name handle, worker⟩
  | lockToAdd {store worker name handle} :
      Moves ⟨store, none, .adding name handle, worker⟩ .ipcLock
        ⟨store, some .ipc, .emplacing name handle, worker⟩
  | lockToStop {store worker} :
      Moves ⟨store, none, .stopping, worker⟩ .ipcLock
        ⟨store, some .ipc, .deactivating, worker⟩
  | emplace {store guard worker name handle} :
      Moves ⟨store, guard, .emplacing name handle, worker⟩ .emplace
        ⟨store.emplaceBack name handle, none, .querying store.nextId, worker⟩
  | query {store guard worker id} :
      Moves ⟨store, guard, .querying id, worker⟩ .query
        ⟨(store.touch id).enqueue id, guard, .notifying, worker⟩
  | completeNow {store guard worker id handle lookup next}
      (moved : (store.touch id).moveCallback id = some (handle, next)) :
      Moves ⟨store, guard, .querying id, worker⟩ (.completeNow lookup)
        ⟨next, guard, .answering id handle lookup, worker⟩
  | ipcAnswer {store guard worker id handle lookup stale} :
      Moves ⟨store, guard, .answering id handle lookup, worker⟩
        (.ipcAnswer stale)
        ⟨store.onResolve id handle lookup stale, guard, .notifying, worker⟩
  | notify {store guard worker} :
      Moves ⟨store, guard, .notifying, worker⟩ .ipcNotify
        ⟨store, guard, .idle, worker.notifyOne⟩
  | notifyStop {store guard worker} :
      Moves ⟨store, guard, .notifyingStop, worker⟩ .ipcNotify
        ⟨store, guard, .joining, worker.notifyOne⟩
  | shutdown {store guard worker} :
      Moves ⟨store, guard, .idle, worker⟩ .shutdown
        ⟨store, guard, .stopping, worker⟩
  | deactivate {store guard worker} :
      Moves ⟨store, guard, .deactivating, worker⟩ .deactivate
        ⟨{ store with active := false }, none, .notifyingStop, worker⟩
  | join {store guard} :
      Moves ⟨store, guard, .joining, .returned⟩ .join
        ⟨store, guard, .joined, .returned⟩
  | lockToReap {store ipc} :
      Moves ⟨store, none, ipc, .entering⟩ .workerLock
        ⟨store, some .worker, ipc, .reaping⟩
  | lockToTest {store ipc} :
      Moves ⟨store, none, ipc, .woken⟩ .workerLock
        ⟨store, some .worker, ipc, .testing⟩
  | reap {store guard ipc} :
      Moves ⟨store, guard, ipc, .reaping⟩ .reap
        ⟨store.reap, guard, ipc, .testing⟩
  | wait {store guard ipc} (empty : store.requests = [])
      (active : store.active = true) :
      Moves ⟨store, guard, ipc, .testing⟩ .test ⟨store, none, ipc, .waiting⟩
  | finish {store guard ipc} (empty : store.requests = [])
      (inactive : store.active = false) :
      Moves ⟨store, guard, ipc, .testing⟩ .test ⟨store, none, ipc, .returned⟩
  | serve {store guard ipc} (nonempty : store.requests ≠ []) :
      Moves ⟨store, guard, ipc, .testing⟩ .test ⟨store, none, ipc, .serving⟩
  | wake {store guard ipc} :
      Moves ⟨store, guard, ipc, .waiting⟩ .wake ⟨store, guard, ipc, .woken⟩
  | complete {store guard ipc id handle lookup next}
      (pending : id ∈ store.outstanding)
      (moved : store.moveCallback id = some (handle, next)) :
      Moves ⟨store, guard, ipc, .serving⟩ (.complete id lookup)
        ⟨{ next with outstanding := next.outstanding.erase id }, guard, ipc,
          .answering id handle lookup⟩
  | workerAnswer {store guard ipc id handle lookup stale} :
      Moves ⟨store, guard, ipc, .answering id handle lookup⟩
        (.workerAnswer stale)
        ⟨store.onResolve id handle lookup stale, guard, ipc, .serving⟩
  | loop {store guard ipc} :
      Moves ⟨store, guard, ipc, .serving⟩ .loop ⟨store, guard, ipc, .entering⟩

private theorem moves_of_resolve {s t : Resolver} {name : Text} {handle : Handle}
    (stepped : s.resolve name handle = some t) : Moves s (.resolve name handle) t := by
  obtain ⟨store, guard, ipc, worker⟩ := s
  cases ipc with
  | idle =>
      cases name with
      | nil =>
          cases stepped
          exact .rejected
      | cons head tail =>
          cases stepped
          exact .resolve (List.cons_ne_nil head tail)
  | _ => cases stepped

private theorem moves_of_ipcLock {s t : Resolver} (stepped : s.ipcLock = some t) :
    Moves s .ipcLock t := by
  obtain ⟨store, guard, ipc, worker⟩ := s
  cases guard with
  | none =>
      cases ipc with
      | adding name handle =>
          cases stepped
          exact .lockToAdd
      | stopping =>
          cases stepped
          exact .lockToStop
      | _ => cases stepped
  | some owner => cases stepped

private theorem moves_of_emplace {s t : Resolver} (stepped : s.emplace = some t) :
    Moves s .emplace t := by
  obtain ⟨store, guard, ipc, worker⟩ := s
  cases ipc with
  | emplacing name handle =>
      cases stepped
      exact .emplace
  | _ => cases stepped

private theorem moves_of_query {s t : Resolver} (stepped : s.query = some t) :
    Moves s .query t := by
  obtain ⟨store, guard, ipc, worker⟩ := s
  cases ipc with
  | querying id =>
      cases stepped
      exact .query
  | _ => cases stepped

private theorem moves_of_completeNow {s t : Resolver} {lookup : Lookup}
    (stepped : s.completeNow lookup = some t) : Moves s (.completeNow lookup) t := by
  obtain ⟨store, guard, ipc, worker⟩ := s
  cases ipc with
  | querying id =>
      obtain ⟨⟨handle, next⟩, moved, rfl⟩ :=
        Option.map_eq_some_iff.mp stepped
      exact .completeNow moved
  | _ => cases stepped

private theorem moves_of_ipcAnswer {s t : Resolver} {stale : Text}
    (stepped : s.ipcAnswer stale = some t) : Moves s (.ipcAnswer stale) t := by
  obtain ⟨store, guard, ipc, worker⟩ := s
  cases ipc with
  | answering id handle lookup =>
      cases stepped
      exact .ipcAnswer
  | _ => cases stepped

private theorem moves_of_ipcNotify {s t : Resolver} (stepped : s.ipcNotify = some t) :
    Moves s .ipcNotify t := by
  obtain ⟨store, guard, ipc, worker⟩ := s
  cases ipc with
  | notifying =>
      cases stepped
      exact .notify
  | notifyingStop =>
      cases stepped
      exact .notifyStop
  | _ => cases stepped

private theorem moves_of_shutdown {s t : Resolver} (stepped : s.shutdown = some t) :
    Moves s .shutdown t := by
  obtain ⟨store, guard, ipc, worker⟩ := s
  cases ipc with
  | idle =>
      cases stepped
      exact .shutdown
  | _ => cases stepped

private theorem moves_of_deactivate {s t : Resolver} (stepped : s.deactivate = some t) :
    Moves s .deactivate t := by
  obtain ⟨store, guard, ipc, worker⟩ := s
  cases ipc with
  | deactivating =>
      cases stepped
      exact .deactivate
  | _ => cases stepped

private theorem moves_of_join {s t : Resolver} (stepped : s.join = some t) :
    Moves s .join t := by
  obtain ⟨store, guard, ipc, worker⟩ := s
  cases ipc with
  | joining =>
      cases worker with
      | returned =>
          cases stepped
          exact .join
      | _ => cases stepped
  | _ => cases stepped

private theorem moves_of_workerLock {s t : Resolver} (stepped : s.workerLock = some t) :
    Moves s .workerLock t := by
  obtain ⟨store, guard, ipc, worker⟩ := s
  cases guard with
  | none =>
      cases worker with
      | entering =>
          cases stepped
          exact .lockToReap
      | woken =>
          cases stepped
          exact .lockToTest
      | _ => cases stepped
  | some owner => cases stepped

private theorem moves_of_reap {s t : Resolver} (stepped : s.reap = some t) :
    Moves s .reap t := by
  obtain ⟨store, guard, ipc, worker⟩ := s
  cases worker with
  | reaping =>
      cases stepped
      exact .reap
  | _ => cases stepped

private theorem moves_of_test {s t : Resolver} (stepped : s.test = some t) :
    Moves s .test t := by
  obtain ⟨store, guard, ipc, worker⟩ := s
  cases worker with
  | testing =>
      simp only [test, Option.some.injEq] at stepped
      subst stepped
      cases empty : store.requests with
      | nil =>
          cases active : store.active with
          | true => exact .wait empty active
          | false => exact .finish empty active
      | cons head tail =>
          exact .serve (empty ▸ List.cons_ne_nil head tail)
  | _ => cases stepped

private theorem moves_of_wake {s t : Resolver} (stepped : s.wake = some t) :
    Moves s .wake t := by
  obtain ⟨store, guard, ipc, worker⟩ := s
  cases worker with
  | waiting =>
      cases stepped
      exact .wake
  | _ => cases stepped

private theorem moves_of_complete {s t : Resolver} {id : RequestId} {lookup : Lookup}
    (stepped : s.complete id lookup = some t) : Moves s (.complete id lookup) t := by
  obtain ⟨store, guard, ipc, worker⟩ := s
  cases worker with
  | serving =>
      simp only [complete] at stepped
      split at stepped
      next pending =>
        obtain ⟨⟨handle, next⟩, moved, rfl⟩ :=
          Option.map_eq_some_iff.mp stepped
        exact .complete pending moved
      next => cases stepped
  | _ => cases stepped

private theorem moves_of_workerAnswer {s t : Resolver} {stale : Text}
    (stepped : s.workerAnswer stale = some t) : Moves s (.workerAnswer stale) t := by
  obtain ⟨store, guard, ipc, worker⟩ := s
  cases worker with
  | answering id handle lookup =>
      cases stepped
      exact .workerAnswer
  | _ => cases stepped

private theorem moves_of_loop {s t : Resolver} (stepped : s.loop = some t) :
    Moves s .loop t := by
  obtain ⟨store, guard, ipc, worker⟩ := s
  cases worker with
  | serving =>
      cases stepped
      exact .loop
  | _ => cases stepped

theorem moves_of_step {s t : Resolver} {action : Action}
    (stepped : s.step action = some t) : Moves s action t := by
  cases action with
  | resolve name handle => exact moves_of_resolve stepped
  | ipcLock => exact moves_of_ipcLock stepped
  | emplace => exact moves_of_emplace stepped
  | query => exact moves_of_query stepped
  | completeNow lookup => exact moves_of_completeNow stepped
  | ipcAnswer stale => exact moves_of_ipcAnswer stepped
  | ipcNotify => exact moves_of_ipcNotify stepped
  | shutdown => exact moves_of_shutdown stepped
  | deactivate => exact moves_of_deactivate stepped
  | join => exact moves_of_join stepped
  | workerLock => exact moves_of_workerLock stepped
  | reap => exact moves_of_reap stepped
  | test => exact moves_of_test stepped
  | wake => exact moves_of_wake stepped
  | complete id lookup => exact moves_of_complete stepped
  | workerAnswer stale => exact moves_of_workerAnswer stepped
  | loop => exact moves_of_loop stepped

end Resolver

end KosCeExtra.Dns
