import KosCeExtra.Dns.ResolverLedger

/-!
# Every accepted request is answered exactly once

The books of `ResolverLedger`, together with the two facts that tie the worker
to `Shutdown`, hold in every state of every interleaving of the two threads.
When `ServeRequests` has returned, the list is empty, so no request is open,
and neither thread is about to call, so none is taken: all are settled.
-/

namespace KosCeExtra.Dns

/-- `Shutdown` has cleared `m_active`. -/
def IpcThread.Stopped : IpcThread → Prop
  | .notifyingStop => True
  | .joining => True
  | .joined => True
  | _ => False

namespace Resolver

/-- The calls of `OnResolve` that a thread is about to make. -/
def flights (s : Resolver) : Multiset (RequestId × Handle) :=
  s.ipc.flights + s.worker.flights

structure Sound (s : Resolver) : Prop where
  books : Books s.store s.ipc.queried s.flights
  stopped : s.store.active = false ↔ s.ipc.Stopped
  returned : s.worker = .returned →
    s.store.requests = [] ∧ s.store.active = false

theorem sound_initial : initial.Sound where
  books := books_initial
  stopped := by simp [initial, Store.initial, IpcThread.Stopped]
  returned := fun finished => by cases finished

variable {s t : Resolver}

/-- A step that keeps the books, `m_active` and an empty list is sound if it
stays on its side of `Shutdown` and does not end the worker. -/
theorem Sound.update (sound : s.Sound)
    (books : Books t.store t.ipc.queried t.flights)
    (active : t.store.active = s.store.active)
    (requests : s.store.requests = [] → t.store.requests = [])
    (stopped : t.ipc.Stopped ↔ s.ipc.Stopped)
    (returned : t.worker = .returned → s.worker = .returned) : t.Sound where
  books := books
  stopped := by
    rw [active, stopped]
    exact sound.stopped
  returned := fun finished => by
    obtain ⟨empty, inactive⟩ := sound.returned (returned finished)
    exact ⟨requests empty, active.trans inactive⟩

/-- A step that only moves the threads. -/
theorem Sound.move (sound : s.Sound) (store : t.store = s.store)
    (queried : t.ipc.queried = s.ipc.queried) (flights : t.flights = s.flights)
    (stopped : t.ipc.Stopped ↔ s.ipc.Stopped)
    (returned : t.worker = .returned → s.worker = .returned) : t.Sound := by
  have books : Books t.store t.ipc.queried t.flights := by
    rw [store, queried, flights]
    exact sound.books
  refine sound.update books (by rw [store]) ?_ stopped returned
  rw [store]
  exact id

@[simp] theorem touch_active (store : Store) (id : RequestId) :
    (store.touch id).active = store.active := by
  unfold Store.touch
  split <;> rfl

@[simp] theorem touch_requests (store : Store) (id : RequestId) :
    (store.touch id).requests = store.requests := by
  unfold Store.touch
  split <;> rfl

private theorem notifyOne_flights (worker : Worker) :
    worker.notifyOne.flights = worker.flights := by
  cases worker <;> rfl

private theorem returned_of_notifyOne {worker : Worker}
    (finished : worker.notifyOne = .returned) : worker = .returned := by
  cases worker <;> first | exact finished | cases finished

theorem clear_requests_nil {store : Store} (id : RequestId)
    (empty : store.requests = []) : (store.clear id).requests = [] := by
  simp [Store.clear, empty]

theorem onResolve_active (store : Store) (id : RequestId) (handle : Handle)
    (lookup : Lookup) (stale : Text) :
    (store.onResolve id handle lookup stale).active = store.active := by
  obtain ⟨texts, dangling, result⟩ :=
    onResolve_eq store id handle lookup stale
  rw [result]

theorem onResolve_requests (store : Store) (id : RequestId) (handle : Handle)
    (lookup : Lookup) (stale : Text) :
    (store.onResolve id handle lookup stale).requests = store.requests := by
  obtain ⟨texts, dangling, result⟩ :=
    onResolve_eq store id handle lookup stale
  rw [result]

/-! ## The steps that move a request -/

section Steps

variable {store next : Store} {guard : Option Thread} {ipc : IpcThread}
variable {worker : Worker} {id : RequestId} {handle : Handle}
variable {lookup : Lookup}

private theorem sound_emplace {name : Text}
    (sound : Sound ⟨store, guard, .emplacing name handle, worker⟩) :
    Sound ⟨store.emplaceBack name handle, none, .querying store.nextId,
      worker⟩ := by
  refine ⟨books_emplaceBack sound.books name handle, sound.stopped, ?_⟩
  intro finished
  exact (sound.stopped.mp (sound.returned finished).2).elim

private theorem sound_query (sound : Sound ⟨store, guard, .querying id, worker⟩) :
    Sound ⟨(store.touch id).enqueue id, guard, .notifying, worker⟩ := by
  have books : Books ((store.touch id).enqueue id) 0 (0 + worker.flights) :=
    books_enqueue (books_touch sound.books id)
  refine sound.update books (touch_active store id) ?_ Iff.rfl
    (fun finished => finished)
  intro empty
  exact (touch_requests store id).trans empty

private theorem sound_completeNow
    (moved : (store.touch id).moveCallback id = some (handle, next))
    (sound : Sound ⟨store, guard, .querying id, worker⟩) :
    Sound ⟨next, guard, .answering id handle lookup, worker⟩ := by
  have books : Books (store.touch id) {id} (0 + worker.flights) :=
    books_touch sound.books id
  have isOpen : id ∈ (ledger (store.touch id) {id}
      (0 + worker.flights)).opened :=
    Multiset.mem_add.mpr (.inr (Multiset.mem_singleton_self id))
  obtain ⟨request, accepted, rfl⟩ := books.request_of_opened isOpen
  rw [books.moveCallback_eq accepted isOpen] at moved
  cases moved
  have opened : ((store.touch request.id).outstanding :
      Multiset RequestId) + {request.id} =
      request.id ::ₘ ((store.touch request.id).outstanding + 0) := by
    rw [Multiset.add_zero, Multiset.add_comm, Multiset.singleton_add]
  have taken : Books ((store.touch request.id).clear request.id) 0
      ({(request.id, request.handle)} + worker.flights) := by
    have result := books_take books accepted opened
    rwa [Multiset.zero_add, ← Multiset.singleton_add] at result
  refine sound.update taken (touch_active store request.id) ?_ Iff.rfl
    (fun finished => finished)
  intro empty
  exact clear_requests_nil _ ((touch_requests store _).trans empty)

private theorem sound_ipcAnswer (stale : Text)
    (sound : Sound ⟨store, guard, .answering id handle lookup, worker⟩) :
    Sound ⟨store.onResolve id handle lookup stale, guard, .notifying,
      worker⟩ := by
  have books : Books store 0 ((id, handle) ::ₘ worker.flights) := by
    rw [← Multiset.singleton_add]
    exact sound.books
  have answered : Books (store.onResolve id handle lookup stale) 0
      (0 + worker.flights) := by
    rw [Multiset.zero_add]
    exact books_onResolve books lookup stale
  refine sound.update answered (onResolve_active ..) ?_ Iff.rfl
    (fun finished => finished)
  intro empty
  exact (onResolve_requests ..).trans empty

private theorem sound_deactivate
    (sound : Sound ⟨store, guard, .deactivating, worker⟩) :
    Sound ⟨{ store with active := false }, none, .notifyingStop, worker⟩ := by
  have books := sound.books
  refine ⟨⟨books.valid, books.entered, books.fresh, books.bounded,
    books.distinct, books.listed, books.cleared, books.moved, books.removed,
    books.carried, books.answered⟩, ?_, ?_⟩
  · exact iff_of_true rfl trivial
  · intro finished
    exact ⟨(sound.returned finished).1, rfl⟩

private theorem sound_reap (sound : Sound ⟨store, guard, ipc, .reaping⟩) :
    Sound ⟨store.reap, guard, ipc, .testing⟩ := by
  refine sound.update (books_reap sound.books) rfl ?_ Iff.rfl
    (fun finished => by cases finished)
  intro empty
  have none : store.requests = [] := empty
  simp [Store.reap, none]

/-- The worker returns only from an empty list of a stopped resolver. -/
theorem sound_finish (empty : store.requests = [])
    (inactive : store.active = false)
    (sound : Sound ⟨store, guard, ipc, .testing⟩) :
    Sound ⟨store, none, ipc, .returned⟩ :=
  ⟨sound.books, sound.stopped, fun _ => ⟨empty, inactive⟩⟩

private theorem sound_complete (pending : id ∈ store.outstanding)
    (moved : store.moveCallback id = some (handle, next))
    (sound : Sound ⟨store, guard, ipc, .serving⟩) :
    Sound ⟨{ next with outstanding := next.outstanding.erase id }, guard, ipc,
      .answering id handle lookup⟩ := by
  have books : Books store ipc.queried (ipc.flights + 0) := sound.books
  have isOpen : id ∈ (ledger store ipc.queried (ipc.flights + 0)).opened :=
    Multiset.mem_add.mpr (.inl pending)
  obtain ⟨request, accepted, rfl⟩ := books.request_of_opened isOpen
  rw [books.moveCallback_eq accepted isOpen] at moved
  cases moved
  have opened : (store.outstanding : Multiset RequestId) + ipc.queried =
      request.id ::ₘ (store.outstanding.erase request.id + ipc.queried) := by
    rw [← Multiset.cons_add, Multiset.cons_coe]
    congr 1
    exact Multiset.coe_eq_coe.mpr (List.perm_cons_erase pending)
  have taken : Books
      { store.clear request.id with
        outstanding := store.outstanding.erase request.id }
      ipc.queried (ipc.flights + {(request.id, request.handle)}) := by
    have result := books_take books accepted opened
    rwa [Multiset.add_zero, ← Multiset.singleton_add,
      Multiset.add_comm] at result
  refine sound.update taken rfl ?_ Iff.rfl (fun finished => by cases finished)
  exact clear_requests_nil request.id

private theorem sound_workerAnswer (stale : Text)
    (sound : Sound ⟨store, guard, ipc, .answering id handle lookup⟩) :
    Sound ⟨store.onResolve id handle lookup stale, guard, ipc, .serving⟩ := by
  have books : Books store ipc.queried ((id, handle) ::ₘ ipc.flights) := by
    rw [← Multiset.singleton_add, Multiset.add_comm]
    exact sound.books
  have answered : Books (store.onResolve id handle lookup stale)
      ipc.queried (ipc.flights + 0) := by
    rw [Multiset.add_zero]
    exact books_onResolve books lookup stale
  refine sound.update answered (onResolve_active ..) ?_ Iff.rfl
    (fun finished => by cases finished)
  intro empty
  exact (onResolve_requests ..).trans empty

end Steps

theorem sound_step {action : Action} (stepped : s.step action = some t)
    (sound : s.Sound) : t.Sound := by
  cases moves_of_step stepped with
  | emplace => exact sound_emplace sound
  | query => exact sound_query sound
  | completeNow moved => exact sound_completeNow moved sound
  | ipcAnswer => exact sound_ipcAnswer _ sound
  | deactivate => exact sound_deactivate sound
  | reap => exact sound_reap sound
  | finish empty inactive => exact sound_finish empty inactive sound
  | complete pending moved => exact sound_complete pending moved sound
  | workerAnswer => exact sound_workerAnswer _ sound
  | notify =>
      exact sound.move rfl rfl
        (congrArg (IpcThread.notifying.flights + ·) (notifyOne_flights _))
        Iff.rfl returned_of_notifyOne
  | notifyStop =>
      exact sound.move rfl rfl
        (congrArg (IpcThread.notifyingStop.flights + ·) (notifyOne_flights _))
        Iff.rfl returned_of_notifyOne
  -- The other steps only move a thread.
  | rejected => exact sound
  | resolve => exact sound.move rfl rfl rfl Iff.rfl id
  | lockToAdd => exact sound.move rfl rfl rfl Iff.rfl id
  | lockToStop => exact sound.move rfl rfl rfl Iff.rfl id
  | shutdown => exact sound.move rfl rfl rfl Iff.rfl id
  | join => exact sound.move rfl rfl rfl Iff.rfl id
  | lockToReap => exact sound.move rfl rfl rfl Iff.rfl (by simp)
  | lockToTest => exact sound.move rfl rfl rfl Iff.rfl (by simp)
  | wait => exact sound.move rfl rfl rfl Iff.rfl (by simp)
  | serve => exact sound.move rfl rfl rfl Iff.rfl (by simp)
  | wake => exact sound.move rfl rfl rfl Iff.rfl (by simp)
  | loop => exact sound.move rfl rfl rfl Iff.rfl (by simp)

theorem sound_run {actions : List Action}
    (ran : Transition.run step initial actions = some s) : s.Sound :=
  Transition.run_invariant (fun (_ : True) => sound_step) ran
    (fun _ _ => trivial) sound_initial

/-! ## What the books say about the requests -/

/-- How often `OnResolve` was called for a request. -/
def timesAnswered (s : Resolver) (request : Request) : Nat :=
  (s.store.answered.map OnResolveCall.id).count request.id

private theorem Sound.timesAnswered_le_one (sound : s.Sound) (request : Request) :
    s.timesAnswered request ≤ 1 := by
  have once := sound.books.valid.settled_count_le_one request.id
  rwa [ledger, Multiset.coe_count] at once

/-- Accepted requests are told apart by their elements. -/
theorem Sound.accepted_nodup (sound : s.Sound) :
    (s.store.accepted.map Request.id).Nodup := by
  have valid := sound.books.valid
  rwa [Ledger.Valid, sound.books.entered, Multiset.coe_nodup] at valid

theorem Sound.entered (sound : s.Sound) {request : Request}
    (accepted : request ∈ s.store.accepted) :
    request.id ∈ (ledger s.store s.ipc.queried s.flights).entered := by
  rw [sound.books.entered]
  exact List.mem_map_of_mem accepted

/-- A request that is not in the list had its callback moved out. -/
theorem Sound.moved_of_unlisted (sound : s.Sound) {request : Request}
    (accepted : request ∈ s.store.accepted)
    (unlisted : ∀ element ∈ s.store.requests, element.id ≠ request.id) :
    request.id ∈ s.store.moved := by
  have entered := sound.entered accepted
  rw [Ledger.entered, Multiset.add_assoc] at entered
  rcases Multiset.mem_add.mp entered with isOpen | gone
  · exact absurd rfl (unlisted request.element
      (sound.books.listed request accepted isOpen))
  · rwa [← sound.books.moved] at gone

/-- A worker that has returned leaves nothing open and nothing taken. -/
theorem Sound.settled_of_returned (sound : s.Sound)
    (finished : s.worker = .returned) {request : Request}
    (accepted : request ∈ s.store.accepted) :
    s.timesAnswered request = 1 := by
  obtain ⟨empty, inactive⟩ := sound.returned finished
  have stopped := sound.stopped.mp inactive
  have none : s.flights = 0 := by
    obtain ⟨store, guard, ipc, worker⟩ := s
    cases finished
    cases ipc <;> first | rfl | cases stopped
  have closed : request.id ∉
      (ledger s.store s.ipc.queried s.flights).opened := by
    intro isOpen
    have listed := sound.books.listed request accepted isOpen
    rw [empty] at listed
    cases listed
  have released : request.id ∉
      (ledger s.store s.ipc.queried s.flights).taken := by
    simp [ledger, none]
  have once := sound.books.valid.settled_count_eq_one
    (sound.entered accepted) closed released
  rwa [ledger, Multiset.coe_count] at once

/-- In every interleaving of the IPC thread and the worker, for any number of
requests: `OnResolve` is called at most once for an accepted request and only
for accepted ones; an element leaves the list only after its callback was
moved out; and `ServeRequests` returns only after `Shutdown`, with an empty
list and every accepted request answered exactly once. -/
theorem answers_each_request_once (actions : List Action) (s : Resolver)
    (ran : Transition.run step initial actions = some s) :
    (s.store.accepted.map Request.id).Nodup ∧
      (∀ request ∈ s.store.accepted, s.timesAnswered request ≤ 1) ∧
      (∀ call ∈ s.store.answered, ∃ request ∈ s.store.accepted,
        request.id = call.id ∧ request.handle = call.handle) ∧
      (∀ element ∈ s.store.removed,
        element.callback = none ∧ element.id ∈ s.store.moved) ∧
      (∀ request ∈ s.store.accepted,
        (∀ element ∈ s.store.requests, element.id ≠ request.id) →
          request.id ∈ s.store.moved) ∧
      (s.worker = .returned →
        s.ipc.Stopped ∧ s.store.requests = [] ∧
          ∀ request ∈ s.store.accepted, s.timesAnswered request = 1) := by
  have sound := sound_run ran
  refine ⟨sound.accepted_nodup, ?_, sound.books.answered,
    sound.books.removed, ?_, ?_⟩
  · intro request _
    exact sound.timesAnswered_le_one request
  · intro request accepted unlisted
    exact sound.moved_of_unlisted accepted unlisted
  · intro finished
    obtain ⟨empty, inactive⟩ := sound.returned finished
    refine ⟨sound.stopped.mp inactive, empty, ?_⟩
    intro request accepted
    exact sound.settled_of_returned finished accepted

/-- Two requests, the second completed inside `AddRequest`, and a shutdown. -/
def twoRequestsRun : List Action :=
  [.resolve "a.example".toList 7, .ipcLock, .emplace, .query, .ipcNotify,
    .workerLock, .reap, .test,
    .resolve "b.example".toList 7, .ipcLock, .emplace, .completeNow ⟨4, none⟩,
    .complete 0 ⟨4, none⟩, .ipcAnswer [], .workerAnswer [], .ipcNotify,
    .shutdown, .ipcLock, .deactivate, .ipcNotify,
    .loop, .workerLock, .reap, .test, .join]

theorem twoRequestsRun_answered :
    ∃ s, Transition.run step initial twoRequestsRun = some s ∧
      s.store.accepted.length = 2 ∧
      ∀ request ∈ s.store.accepted, s.timesAnswered request = 1 := by
  refine ⟨_, rfl, rfl, ?_⟩
  exact ((answers_each_request_once twoRequestsRun _ rfl).2.2.2.2.2 rfl).2.2

end Resolver

end KosCeExtra.Dns
