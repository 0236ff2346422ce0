import KosCeExtra.Dns.ResolverRuns

/-!
# Which elements the resolver reads

`AddRequest` and `OnResolved` keep a pointer into `m_requests`, and the worker
removes the elements whose callback is null.  A query that has not completed
keeps its element, and the worker cannot remove an element while it is itself
inside `OnResolved`.  The IPC thread has no such protection: between moving
the callback out and reading the host name of a failed lookup, the worker may
remove the element.
-/

namespace KosCeExtra.Dns

/-- The element is still in `m_requests`. -/
def Store.Listed (store : Store) (id : RequestId) : Prop :=
  ∃ element ∈ store.requests, element.id = id

/-- The IPC thread is in the failure branch of `OnResolved`. -/
def IpcThread.Failing : IpcThread → RequestId → Prop
  | .answering id _ lookup, other => id = other ∧ lookup.found = none
  | _, _ => False

/-- The worker is inside `OnResolved`. -/
def Worker.Answering : Worker → RequestId → Prop
  | .answering id _ _, other => id = other
  | _, _ => False

namespace Resolver

/-- The elements that the next step of `AddRequest` or `OnResolved` on one of
the threads reads: the one whose query is started or completed there, the ones
that c-ares may complete on the worker, and the ones whose failed lookup is
about to be reported. -/
def Reads (s : Resolver) (id : RequestId) : Prop :=
  s.ipc = .querying id ∨ s.ipc.Failing id ∨
    (s.worker = .serving ∧ id ∈ s.store.outstanding) ∨
    ∃ handle lookup, s.worker = .answering id handle lookup ∧
      lookup.found = none

/-- The worker does not remove elements while the IPC thread is in the failure
branch of `OnResolved`. -/
def Undisturbed (s : Resolver) (action : Action) : Prop :=
  action = .reap → ∀ id, ¬ s.ipc.Failing id

structure Alive (s : Resolver) : Prop where
  sound : s.Sound
  failing : ∀ id, s.ipc.Failing id → s.store.Listed id
  answering : ∀ id, s.worker.Answering id → s.store.Listed id
  clean : s.store.dangling = []

end Resolver

/-! ## Elements that stay in the list -/

variable {store next : Store} {id other : RequestId}

private theorem listed_emplaceBack (name : Text) (handle : Handle)
    (listed : store.Listed id) : (store.emplaceBack name handle).Listed id := by
  obtain ⟨element, member, same⟩ := listed
  exact ⟨element, List.mem_append_left _ member, same⟩

theorem listed_clear (listed : store.Listed id) :
    (store.clear other).Listed id := by
  obtain ⟨element, member, same⟩ := listed
  have cleared := List.mem_map_of_mem (f := fun element : Element =>
    if element.id = other then { element with callback := none } else element)
    member
  refine ⟨_, cleared, ?_⟩
  split
  · exact same
  · exact same

theorem listed_of_find {element : Element}
    (found : store.find id = some element) : store.Listed id := by
  have same := List.find?_some found
  exact ⟨element, List.mem_of_find?_eq_some found, by simpa using same⟩

private theorem find_of_listed (listed : store.Listed id) :
    ∃ element, store.find id = some element := by
  obtain ⟨element, member, same⟩ := listed
  cases found : store.find id with
  | some first => exact ⟨first, rfl⟩
  | none =>
      have different := List.find?_eq_none.mp found element member
      exact absurd (by simpa using same) different

theorem touch_of_listed (listed : store.Listed id) : store.touch id = store := by
  obtain ⟨element, found⟩ := find_of_listed listed
  rw [Store.touch, found]

/-- Moving the callback out leaves the element where it is. -/
theorem listed_moveCallback {handle : Handle}
    (moved : store.moveCallback id = some (handle, next)) :
    next.Listed id ∧ next = store.clear id := by
  unfold Store.moveCallback at moved
  split at moved
  next element name callback found =>
    cases moved
    exact ⟨listed_clear (listed_of_find found), rfl⟩
  next => cases moved

/-- Only a failed lookup reads the element, and then finds it. -/
theorem onResolve_of_listed {lookup : Lookup}
    (listed : lookup.found = none → store.Listed id) (handle : Handle)
    (stale : Text) :
    (store.onResolve id handle lookup stale).requests = store.requests ∧
      (store.onResolve id handle lookup stale).dangling = store.dangling := by
  refine ⟨Resolver.onResolve_requests .., ?_⟩
  unfold Store.onResolve
  cases found : lookup.found with
  | none => simp [touch_of_listed (listed found)]
  | some host => simp

namespace Resolver

variable {s t : Resolver}

/-! ## What a step preserves -/

theorem Sound.listed_of_open (sound : s.Sound)
    (isOpen : id ∈ (ledger s.store s.ipc.queried s.flights).opened) :
    s.store.Listed id := by
  obtain ⟨request, accepted, same⟩ := sound.books.request_of_opened isOpen
  subst same
  exact ⟨request.element, sound.books.listed request accepted isOpen, rfl⟩

theorem Sound.listed_of_querying (sound : s.Sound)
    (querying : s.ipc = .querying id) : s.store.Listed id := by
  apply sound.listed_of_open
  rw [querying]
  exact Multiset.mem_add.mpr (.inr (Multiset.mem_singleton_self id))

private theorem Sound.listed_of_outstanding (sound : s.Sound)
    (pending : id ∈ s.store.outstanding) : s.store.Listed id := by
  apply sound.listed_of_open
  exact Multiset.mem_add.mpr (.inl pending)

/-- A step that keeps the elements in the list, records no read of a removed
one, and takes no thread into `OnResolved`. -/
theorem Alive.update (alive : s.Alive) (sound : t.Sound)
    (listed : ∀ id, s.store.Listed id → t.store.Listed id)
    (dangling : t.store.dangling = s.store.dangling)
    (failing : ∀ id, t.ipc.Failing id → s.ipc.Failing id)
    (answering : ∀ id, t.worker.Answering id → s.worker.Answering id) :
    t.Alive where
  sound := sound
  failing := fun id about => listed id (alive.failing id (failing id about))
  answering := fun id about =>
    listed id (alive.answering id (answering id about))
  clean := dangling.trans alive.clean

/-- A call of `OnResolve` for an element that is listed if the lookup failed. -/
theorem Alive.answer (alive : s.Alive) (sound : t.Sound) {lookup : Lookup}
    {handle : Handle} {stale : Text}
    (listed : lookup.found = none → s.store.Listed id)
    (answer : t.store = s.store.onResolve id handle lookup stale)
    (failing : ∀ id, t.ipc.Failing id → s.ipc.Failing id)
    (answering : ∀ id, t.worker.Answering id → s.worker.Answering id) :
    t.Alive := by
  obtain ⟨requests, dangling⟩ := onResolve_of_listed listed handle stale
  rw [← answer] at requests dangling
  apply alive.update sound _ dangling failing answering
  intro other before
  rw [Store.Listed, requests]
  exact before

theorem alive_initial : initial.Alive where
  sound := sound_initial
  failing := fun _ about => about.elim
  answering := fun _ about => about.elim
  clean := rfl

private theorem notifyOne_answering {worker : Worker}
    (about : worker.notifyOne.Answering id) : worker.Answering id := by
  cases worker <;> exact about

theorem alive_step {action : Action} (undisturbed : s.Undisturbed action)
    (stepped : s.step action = some t) (alive : s.Alive) : t.Alive := by
  have sound := sound_step stepped alive.sound
  cases moves_of_step stepped with
  | emplace =>
      apply alive.update sound
      · exact fun _ => listed_emplaceBack _ _
      · rfl
      · exact fun _ about => about.elim
      · exact fun _ about => about
  | query =>
      have listed := alive.sound.listed_of_querying rfl
      apply alive.update sound
      · intro id before
        rw [touch_of_listed listed]
        exact before
      · rw [touch_of_listed listed]
        rfl
      · exact fun _ about => about.elim
      · exact fun _ about => about
  | completeNow moved =>
      rw [touch_of_listed (alive.sound.listed_of_querying rfl)] at moved
      obtain ⟨listed, rfl⟩ := listed_moveCallback moved
      refine ⟨sound, ?_, ?_, alive.clean⟩
      · rintro id ⟨rfl, -⟩
        exact listed
      · exact fun id about => listed_clear (alive.answering id about)
  | @ipcAnswer store guard worker id =>
      apply alive.answer sound _ rfl
      · exact fun _ about => about.elim
      · exact fun _ about => about
      · exact fun failed => alive.failing id ⟨rfl, failed⟩
  | reap =>
      refine ⟨sound, ?_, fun _ about => about.elim, alive.clean⟩
      intro id about
      exact absurd about (undisturbed rfl id)
  | complete pending moved =>
      obtain ⟨listed, rfl⟩ := listed_moveCallback moved
      refine ⟨sound, ?_, ?_, alive.clean⟩
      · exact fun id about => listed_clear (alive.failing id about)
      · rintro id rfl
        exact listed
  | @workerAnswer store guard ipc id =>
      apply alive.answer sound _ rfl
      · exact fun _ about => about
      · exact fun _ about => about.elim
      · exact fun _ => alive.answering id rfl
  | notify =>
      exact alive.update sound (fun _ => id) rfl (fun _ about => about.elim)
        (fun _ => notifyOne_answering)
  | notifyStop =>
      exact alive.update sound (fun _ => id) rfl (fun _ about => about.elim)
        (fun _ => notifyOne_answering)
  | rejected => exact alive
  -- The other steps leave the list alone and move one thread.
  | _ =>
      exact alive.update sound (fun _ => id) rfl (fun _ about => about)
        (fun _ about => about)

private theorem Alive.listed_of_reads (alive : s.Alive) (reads : s.Reads id) :
    s.store.Listed id := by
  rcases reads with querying | failing | ⟨-, pending⟩ | ⟨_, _, answering, -⟩
  · exact alive.sound.listed_of_querying querying
  · exact alive.failing id failing
  · exact alive.sound.listed_of_outstanding pending
  · apply alive.answering id
    rw [answering]
    rfl

/-! ## A removal at the wrong moment -/

/-- The element of a lookup that has failed on the IPC thread holds no callback. -/
def Nulled (s : Resolver) : Prop :=
  ∀ id, s.ipc.Failing id → ∀ element ∈ s.store.requests, element.id = id →
    element.callback = none

/-- The element is about to be read although it has been removed, or has been read. -/
def Lost (s : Resolver) (id : RequestId) : Prop :=
  (s.ipc.Failing id ∧ ¬ s.store.Listed id) ∨ id ∈ s.store.dangling

theorem nulled_initial : initial.Nulled :=
  fun _ about => about.elim

private theorem null_clear {element : Element}
    (member : element ∈ (store.clear other).requests) (same : element.id = id)
    (null : id ≠ other → ∀ before ∈ store.requests, before.id = id →
      before.callback = none) : element.callback = none := by
  obtain ⟨before, listed, rfl⟩ := List.mem_map.mp member
  by_cases cleared : before.id = other
  · rw [if_pos cleared]
  · rw [if_neg cleared] at same ⊢
    exact null (same ▸ cleared) before listed same

/-- A step that keeps the list, or takes from it, and the IPC thread where it is. -/
theorem Nulled.update (nulled : s.Nulled)
    (requests : ∀ element ∈ t.store.requests, element ∈ s.store.requests)
    (failing : ∀ id, t.ipc.Failing id → s.ipc.Failing id) : t.Nulled := by
  intro id about element member same
  exact nulled id (failing id about) element (requests element member) same

theorem nulled_step {action : Action} (stepped : s.step action = some t)
    (nulled : s.Nulled) : t.Nulled := by
  cases moves_of_step stepped with
  | emplace => exact fun _ about => about.elim
  | query => exact fun _ about => about.elim
  | completeNow moved =>
      obtain ⟨-, rfl⟩ := listed_moveCallback moved
      rintro id ⟨rfl, -⟩ element member same
      exact null_clear member same fun different => absurd rfl different
  | ipcAnswer => exact fun _ about => about.elim
  | reap =>
      refine nulled.update ?_ fun _ about => about
      intro element member
      exact List.mem_of_mem_filter member
  | complete pending moved =>
      obtain ⟨-, rfl⟩ := listed_moveCallback moved
      intro id about element member same
      exact null_clear member same fun _ => nulled id about
  | workerAnswer =>
      refine nulled.update ?_ fun _ about => about
      intro element member
      rwa [onResolve_requests] at member
  | lockToAdd => exact fun _ about => about.elim
  | lockToStop => exact fun _ about => about.elim
  | resolve => exact fun _ about => about.elim
  | shutdown => exact fun _ about => about.elim
  | notify => exact fun _ about => about.elim
  | notifyStop => exact fun _ about => about.elim
  | deactivate => exact fun _ about => about.elim
  | join => exact fun _ about => about.elim
  -- The other steps leave the list alone and move the worker.
  | _ => exact nulled

/-- A removal while the IPC thread is in the failure branch takes its element. -/
theorem lost_of_disturbed {action : Action} (disturbed : ¬ s.Undisturbed action)
    (stepped : s.step action = some t) (nulled : s.Nulled) :
    ∃ id, t.Lost id := by
  simp only [Undisturbed, not_forall, not_not] at disturbed
  obtain ⟨isReap, id, failing⟩ := disturbed
  subst isReap
  cases moves_of_step stepped with
  | reap =>
      refine ⟨id, .inl ⟨failing, ?_⟩⟩
      rintro ⟨element, member, same⟩
      obtain ⟨listed, holds⟩ := List.mem_filter.mp member
      rw [nulled id failing element listed same] at holds
      cases holds

theorem dangling_touch (lost : id ∈ store.dangling) :
    id ∈ (store.touch other).dangling := by
  unfold Store.touch
  split
  · exact lost
  · exact List.mem_append_left _ lost

private theorem dangling_onResolve (lost : id ∈ store.dangling) (handle : Handle)
    (lookup : Lookup) (stale : Text) :
    id ∈ (store.onResolve other handle lookup stale).dangling := by
  unfold Store.onResolve
  cases lookup.found with
  | none => exact dangling_touch lost
  | some host => exact lost

private theorem dangling_of_unlisted {lookup : Lookup} (failed : lookup.found = none)
    (unlisted : ¬ store.Listed id) (handle : Handle) (stale : Text) :
    id ∈ (store.onResolve id handle lookup stale).dangling := by
  have missing : store.find id = none := by
    cases found : store.find id with
    | none => rfl
    | some element => exact absurd (listed_of_find found) unlisted
  simp [Store.onResolve, failed, Store.touch, missing]

private theorem listed_of_clear (listed : (store.clear other).Listed id) :
    store.Listed id := by
  obtain ⟨element, member, same⟩ := listed
  obtain ⟨before, present, rfl⟩ := List.mem_map.mp member
  refine ⟨before, present, ?_⟩
  split at same
  · exact same
  · exact same

private theorem listed_of_reap (listed : store.reap.Listed id) : store.Listed id := by
  obtain ⟨element, member, same⟩ := listed
  exact ⟨element, List.mem_of_mem_filter member, same⟩

/-- A step that does not finish the failure branch, and adds nothing to the list. -/
theorem Lost.update (lost : s.Lost id)
    (failing : s.ipc.Failing id → t.ipc.Failing id)
    (listed : t.store.Listed id → s.store.Listed id)
    (dangling : id ∈ s.store.dangling → id ∈ t.store.dangling) : t.Lost id := by
  rcases lost with ⟨about, unlisted⟩ | read
  · exact .inl ⟨failing about, fun present => unlisted (listed present)⟩
  · exact .inr (dangling read)

theorem lost_step {action : Action} (stepped : s.step action = some t)
    (lost : s.Lost id) : t.Lost id := by
  cases moves_of_step stepped with
  | emplace => exact .inr (lost.resolve_left fun about => about.1)
  | query =>
      have read := lost.resolve_left fun about => about.1
      exact .inr (dangling_touch read)
  | completeNow moved =>
      have read := lost.resolve_left fun about => about.1
      obtain ⟨-, rfl⟩ := listed_moveCallback moved
      exact .inr (dangling_touch read)
  | ipcAnswer =>
      rcases lost with ⟨⟨rfl, failed⟩, unlisted⟩ | read
      · exact .inr (dangling_of_unlisted failed unlisted _ _)
      · exact .inr (dangling_onResolve read _ _ _)
  | reap => exact lost.update (fun about => about) listed_of_reap fun read => read
  | complete pending moved =>
      obtain ⟨-, rfl⟩ := listed_moveCallback moved
      exact lost.update (fun about => about) listed_of_clear fun read => read
  | workerAnswer =>
      refine lost.update (fun about => about) ?_
        fun read => dangling_onResolve read _ _ _
      intro listed
      rwa [Store.Listed, onResolve_requests] at listed
  | lockToAdd => exact .inr (lost.resolve_left fun about => about.1)
  | lockToStop => exact .inr (lost.resolve_left fun about => about.1)
  | resolve => exact .inr (lost.resolve_left fun about => about.1)
  | shutdown => exact .inr (lost.resolve_left fun about => about.1)
  | notify => exact .inr (lost.resolve_left fun about => about.1)
  | notifyStop => exact .inr (lost.resolve_left fun about => about.1)
  | deactivate => exact .inr (lost.resolve_left fun about => about.1)
  | join => exact .inr (lost.resolve_left fun about => about.1)
  -- The other steps leave the list alone and move the worker.
  | _ => exact lost

/-- In every interleaving, every element that is about to be read is still in the list
and none was read after its removal, if and only if the worker has removed nothing while
the IPC thread was in the failure branch of `OnResolved`. -/
theorem reads_are_listed (actions : List Action) (s : Resolver)
    (ran : Transition.run step initial actions = some s) :
    ((∀ id, s.Reads id → s.store.Listed id) ∧ s.store.dangling = []) ↔
      Transition.Along step Undisturbed initial actions := by
  constructor
  · rintro ⟨listed, clean⟩
    have stays : ∀ {state action next}, step state action = some next →
        (∃ id, Lost state id) → ∃ id, Lost next id := by
      rintro state action next stepped ⟨id, lost⟩
      exact ⟨id, lost_step stepped lost⟩
    apply Transition.along_of_unmarked ran nulled_step lost_of_disturbed stays
      nulled_initial
    rintro ⟨id, ⟨failing, unlisted⟩ | read⟩
    · exact unlisted (listed id (.inr (.inl failing)))
    · rw [clean] at read
      cases read
  · intro undisturbed
    have alive : s.Alive :=
      Transition.run_invariant_along alive_step ran undisturbed alive_initial
    exact ⟨fun _ => alive.listed_of_reads, alive.clean⟩

/-- A request is added and fails inside `ares_gethostbyname`. -/
def failedInside : List Action :=
  [.resolve "a.example".toList 7, .ipcLock, .emplace, .completeNow ⟨4, none⟩]

/-- The host name is read before the worker removes the element. -/
theorem failedInside_then_reported :
    ∃ s, Transition.run step initial
        (failedInside ++ [.ipcAnswer [], .workerLock, .reap]) = some s ∧
      s.store.removed ≠ [] ∧ s.store.dangling = [] := by
  have undisturbed : Transition.Along step Undisturbed initial
      (failedInside ++ [.ipcAnswer [], .workerLock, .reap]) := by
    apply Transition.along_cons (fun other => by cases other) rfl
    apply Transition.along_cons (fun other => by cases other) rfl
    apply Transition.along_cons (fun other => by cases other) rfl
    apply Transition.along_cons (fun other => by cases other) rfl
    apply Transition.along_cons (fun other => by cases other) rfl
    apply Transition.along_cons (fun other => by cases other) rfl
    apply Transition.along_cons (fun _ _ about => about) rfl
    trivial
  refine ⟨_, rfl, by decide, ?_⟩
  exact ((reads_are_listed _ _ rfl).mpr undisturbed).2

/-- The worker removes the element first, and the host name is read from
freed memory. -/
theorem failedInside_then_removed :
    ∃ s, Transition.run step initial
        (failedInside ++ [.workerLock, .reap, .ipcAnswer []]) = some s ∧
      s.store.removed = [⟨0, "a.example".toList, none⟩] ∧
      s.store.dangling = [0] :=
  ⟨_, rfl, rfl, rfl⟩

end Resolver

end KosCeExtra.Dns
