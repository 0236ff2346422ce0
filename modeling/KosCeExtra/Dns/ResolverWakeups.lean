import KosCeExtra.Dns.ResolverElements

/-!
# The worker is not left asleep

`AddRequest` and `Shutdown` notify after they have let go of the mutex, and
`AddRequest` only after a call into c-ares that may already have completed the
request.  As long as the worker sleeps with something to do, the IPC thread still
has its `notify_one` in front of it, and nothing on the way there can block it.
-/

namespace KosCeExtra.Dns

/-- In `AddRequest`, behind `emplace_back` and before `notify_one`. -/
def IpcThread.NotifiesRequest : IpcThread → Prop
  | .querying _ => True
  | .answering _ _ _ => True
  | .notifying => True
  | _ => False

/-- The steps that the IPC thread has in front of its `notify_one`. -/
def IpcThread.beforeNotify : IpcThread → Nat
  | .querying _ => 2
  | .answering _ _ _ => 1
  | _ => 0

namespace Resolver

/-- The worker is blocked although the predicate of its wait holds. -/
def Asleep (s : Resolver) : Prop :=
  s.worker = .waiting ∧ (s.store.requests ≠ [] ∨ s.store.active = false)

/-- Whoever gave a blocked worker something to do is about to notify it. -/
structure Alert (s : Resolver) : Prop where
  request : s.worker = .waiting → s.store.requests ≠ [] →
    s.ipc.NotifiesRequest
  stop : s.worker = .waiting → s.store.active = false →
    s.ipc = .notifyingStop

variable {s t : Resolver}

theorem alert_of_awake (awake : s.worker ≠ .waiting) : s.Alert where
  request := fun waiting => absurd waiting awake
  stop := fun waiting => absurd waiting awake

theorem notifyOne_ne_waiting (worker : Worker) :
    worker.notifyOne ≠ .waiting := by
  cases worker <;> simp [Worker.notifyOne]

/-- A step of the IPC thread outside the list, with no notification due. -/
theorem Alert.moveIpc (alert : s.Alert) (quiet : ¬ s.ipc.NotifiesRequest)
    (running : s.ipc ≠ .notifyingStop) (guard : Option Thread)
    (ipc : IpcThread) : { s with guard := guard, ipc := ipc }.Alert where
  request := fun waiting nonempty =>
    absurd (alert.request waiting nonempty) quiet
  stop := fun waiting inactive => absurd (alert.stop waiting inactive) running

/-- A step that leaves the IPC thread with the notification of a request. -/
theorem Alert.owe (alert : s.Alert) (running : s.ipc ≠ .notifyingStop)
    (store : Store) (guard : Option Thread) (ipc : IpcThread)
    (active : store.active = s.store.active) (owes : ipc.NotifiesRequest) :
    { s with store := store, guard := guard, ipc := ipc }.Alert where
  request := fun _ _ => owes
  stop := fun waiting inactive =>
    absurd (alert.stop waiting (active.symm.trans inactive)) running

theorem alert_step {action : Action} (stepped : s.step action = some t)
    (alert : s.Alert) : t.Alert := by
  cases moves_of_step stepped with
  | rejected => exact alert
  | resolve nonempty => exact alert.moveIpc id (by simp) _ _
  | lockToAdd => exact alert.moveIpc id (by simp) _ _
  | lockToStop => exact alert.moveIpc id (by simp) _ _
  | shutdown => exact alert.moveIpc id (by simp) _ _
  | emplace => exact alert.owe (by simp) _ _ _ rfl trivial
  | query => exact alert.owe (by simp) _ _ _ (touch_active _ _) trivial
  | completeNow moved =>
      obtain ⟨-, rfl⟩ := listed_moveCallback moved
      exact alert.owe (by simp) _ _ _ (touch_active _ _) trivial
  | ipcAnswer => exact alert.owe (by simp) _ _ _ (onResolve_active ..) trivial
  | notify => exact alert_of_awake (notifyOne_ne_waiting _)
  | notifyStop => exact alert_of_awake (notifyOne_ne_waiting _)
  | deactivate =>
      constructor
      · intro waiting nonempty
        exact (alert.request waiting nonempty).elim
      · exact fun _ _ => rfl
  | wait empty active =>
      constructor
      · exact fun _ nonempty => absurd empty nonempty
      · intro _ inactive
        rw [active] at inactive
        cases inactive
  -- The other steps leave the worker awake.
  | _ => exact alert_of_awake (by simp)

theorem alert_run {actions : List Action}
    (ran : Transition.run step initial actions = some s) : s.Alert := by
  have start : initial.Alert := alert_of_awake (by simp [initial])
  exact Transition.run_invariant (fun (_ : True) => alert_step) ran
    (fun _ _ => trivial) start

/-! ## The notification comes -/

/-- The worker is blocked and the IPC thread is about to notify it. -/
def Owed (s : Resolver) : Prop :=
  s.worker = .waiting ∧ (s.ipc.NotifiesRequest ∨ s.ipc = .notifyingStop)

theorem Alert.owed (alert : s.Alert) (asleep : s.Asleep) : s.Owed := by
  obtain ⟨waiting, nonempty | inactive⟩ := asleep
  · exact ⟨waiting, .inl (alert.request waiting nonempty)⟩
  · exact ⟨waiting, .inr (alert.stop waiting inactive)⟩

/-- The IPC thread needs neither the mutex nor the worker for its next step. -/
theorem Owed.goes_on (owed : s.Owed) :
    ∃ action next, action ≠ .wake ∧ s.step action = some next := by
  obtain ⟨store, guard, ipc, worker⟩ := s
  obtain ⟨-, notifies | rfl⟩ := owed
  · cases ipc with
    | querying id => exact ⟨.query, _, by simp, rfl⟩
    | answering id handle lookup => exact ⟨.ipcAnswer [], _, by simp, rfl⟩
    | notifying => exact ⟨.ipcNotify, _, by simp, rfl⟩
    | _ => exact notifies.elim
  · exact ⟨.ipcNotify, _, by simp, rfl⟩

/-- Every step wakes the worker or brings the IPC thread closer to it. -/
theorem owed_step {action : Action} (owed : s.Owed)
    (stepped : s.step action = some t) :
    t.worker ≠ .waiting ∨
      t.Owed ∧ t.ipc.beforeNotify < s.ipc.beforeNotify := by
  obtain ⟨waiting, notifies⟩ := owed
  cases moves_of_step stepped with
  | query => exact .inr ⟨⟨waiting, .inl trivial⟩, Nat.two_pos⟩
  | completeNow moved =>
      exact .inr ⟨⟨waiting, .inl trivial⟩, Nat.one_lt_two⟩
  | ipcAnswer => exact .inr ⟨⟨waiting, .inl trivial⟩, Nat.one_pos⟩
  | notify => exact .inl (notifyOne_ne_waiting _)
  | notifyStop => exact .inl (notifyOne_ne_waiting _)
  | wake => exact .inl (by simp)
  -- A thread that is about to notify makes no other step.
  | rejected | resolve _ | lockToAdd | lockToStop | emplace | shutdown
  | deactivate =>
      rcases notifies with impossible | impossible
      · exact impossible.elim
      · cases impossible
  -- Nor does a blocked worker.
  | _ => cases waiting

/-- In every interleaving, a worker that is blocked while there are requests has
the `notify_one` of `AddRequest` to come, and one that is blocked after `Shutdown`
has that of `Shutdown` to come.  From there on the IPC thread can always go on, and
every three steps wake the worker. -/
theorem worker_not_left_asleep (actions : List Action) (s : Resolver)
    (ran : Transition.run step initial actions = some s) :
    (s.worker = .waiting → s.store.requests ≠ [] → s.ipc.NotifiesRequest) ∧
    (s.worker = .waiting → s.store.active = false →
      s.ipc = .notifyingStop) ∧
    (s.Asleep →
      (∃ action next, action ≠ .wake ∧ s.step action = some next) ∧
      ∀ more finish, Transition.run step s more = some finish →
        3 ≤ more.length →
        ∃ front back middle, more = front ++ back ∧
          Transition.run step s front = some middle ∧
          middle.worker ≠ .waiting) := by
  have alert := alert_run ran
  refine ⟨alert.request, alert.stop, fun asleep => ?_⟩
  have owed := alert.owed asleep
  refine ⟨owed.goes_on, fun more finish continued long => ?_⟩
  have near : s.ipc.beforeNotify ≤ 2 := by
    cases s.ipc <;> simp [IpcThread.beforeNotify]
  exact Transition.run_comes_out owed_step continued owed (by omega)

/-- A request comes in while the worker is blocked. -/
def requestWhileWaiting : List Action :=
  [.workerLock, .reap, .test, .resolve "a.example".toList 7, .ipcLock,
    .emplace]

theorem requestWhileWaiting_notified :
    ∃ s, Transition.run step initial requestWhileWaiting = some s ∧
      s.Asleep ∧ s.ipc.NotifiesRequest := by
  refine ⟨_, rfl, ⟨rfl, .inl (by decide)⟩, ?_⟩
  exact (worker_not_left_asleep requestWhileWaiting _ rfl).1 rfl (by decide)

end Resolver

end KosCeExtra.Dns
