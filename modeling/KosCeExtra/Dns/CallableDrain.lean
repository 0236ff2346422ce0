import Mathlib.Data.List.Nodup
import KosCeExtra.Dns.Callable

/-!
# The callback thread drains its queue

The destructor stops the thread by a handler in the same queue that the work is
in.  Every handler of `Get` is run once, in the order of the calls, before the
empty handler is taken.  The thread is never blocked with a handler in the queue
and no notification to come, so that once the empty handler is queued the
destructor returns after a number of steps that the state bounds.
-/

namespace KosCeExtra.Dns

/-- The handler that the owner is about to queue. -/
def Owner.pending : Owner → List Handler
  | .adding handler => [handler]
  | .pushing handler => [handler]
  | _ => []

/-- The steps in front of an owner that has closed the queue. -/
def Owner.rank : Owner → Nat
  | .notifying _ => 2
  | .joining => 1
  | _ => 0

/-- The steps of the thread up to its next test of the queue, or its end. -/
def CallbackThread.rank : CallbackThread → Nat
  | .took _ => 3
  | .stepping => 2
  | .waiting => 2
  | .entering => 1
  | .woken => 1
  | _ => 0

namespace Callable

/-- What `ServeCalls` runs in a step: a handler that is not empty. -/
def execution (c : Callable) : CallableAction → List Handler
  | .dispatch =>
      match c.thread with
      | .took (.step number) => [.step number]
      | _ => []
  | _ => []

/-- The handlers that a run has executed, in order. -/
def executed (actions : List CallableAction) : List Handler :=
  Transition.observed step execution initial actions

/-- The handlers of the calls of `Get` so far. -/
def requested (c : Callable) : List Handler :=
  (List.range c.gets).map .step

/-- The handlers that have been taken, without the one in hand. -/
def begun (c : Callable) : List Handler :=
  match c.thread with
  | .took _ => c.taken.dropLast
  | _ => c.taken

/-- The queue and the threads around it. -/
structure Serving (c : Callable) : Prop where
  orderly : c.Orderly
  numbered : (c.queued ++ c.owner.pending).filter Handler.isStep = c.requested
  inHand : ∀ handler, c.thread = .took handler →
    ∃ before, c.taken = before ++ [handler]
  stopTaken : .stop ∈ c.taken → c.thread.Ended
  notified : c.thread = .waiting → c.handlers ≠ [] →
    ∃ handler, c.owner = .notifying handler
  ownerGuard : c.guard = some .owner → ∃ handler, c.owner = .pushing handler
  threadGuard : c.guard = some .thread → c.thread = .testing

variable {c d : Callable} {action : CallableAction}

theorem numbered_step (stepped : c.step action = some d)
    (numbered : (c.queued ++ c.owner.pending).filter Handler.isStep =
      c.requested) :
    (d.queued ++ d.owner.pending).filter Handler.isStep = d.requested := by
  cases moves_of_step stepped with
  | @get handlers guard thread gets queued taken served =>
      have numbered : (queued ++ []).filter Handler.isStep =
          (List.range gets).map .step := numbered
      rw [List.append_nil] at numbered
      simp [requested, Owner.pending, List.filter_append, numbered,
        List.range_succ, Handler.isStep]
  | destroy =>
      rw [List.filter_append] at numbered ⊢
      exact numbered
  | push =>
      exact (congrArg (List.filter _) (List.append_nil _)).trans numbered
  | _ => exact numbered

private theorem took_of_notifyOne {thread : CallbackThread} {handler : Handler}
    (took : thread.notifyOne = .took handler) : thread = .took handler := by
  cases thread with
  | waiting => cases took
  | _ => exact took

private theorem ended_notifyOne {thread : CallbackThread} (ended : thread.Ended) :
    thread.notifyOne.Ended := by
  cases thread with
  | waiting => exact ended.elim
  | _ => exact ended

private theorem notifyOne_not_waiting (thread : CallbackThread) :
    thread.notifyOne ≠ .waiting := by
  cases thread <;> simp [CallbackThread.notifyOne]

theorem inHand_step (stepped : c.step action = some d)
    (inHand : ∀ handler, c.thread = .took handler →
      ∃ before, c.taken = before ++ [handler]) :
    ∀ handler, d.thread = .took handler →
      ∃ before, d.taken = before ++ [handler] := by
  cases moves_of_step stepped with
  | take =>
      intro handler same
      cases same
      exact ⟨_, rfl⟩
  | notify | notifyStop =>
      intro handler same
      exact inHand handler (took_of_notifyOne same)
  | get | destroy | ownerLock | push => exact inHand
  | _ =>
      intro handler same
      cases same

theorem stopTaken_step (stepped : c.step action = some d)
    (stopTaken : .stop ∈ c.taken → c.thread.Ended) :
    .stop ∈ d.taken → d.thread.Ended := by
  cases moves_of_step stepped with
  | take =>
      intro member
      rcases List.mem_append.mp member with before | now
      · exact (stopTaken before).elim
      · cases List.mem_singleton.mp now
        trivial
  | notify | notifyStop =>
      exact fun member => ended_notifyOne (stopTaken member)
  | get | destroy | ownerLock | push | join => exact stopTaken
  | finish => exact fun _ => trivial
  | _ => exact fun member => (stopTaken member).elim

theorem notified_step (stepped : c.step action = some d)
    (notified : c.thread = .waiting → c.handlers ≠ [] →
      ∃ handler, c.owner = .notifying handler) :
    d.thread = .waiting → d.handlers ≠ [] →
      ∃ handler, d.owner = .notifying handler := by
  cases moves_of_step stepped with
  | push => exact fun _ _ => ⟨_, rfl⟩
  | wait => exact fun _ nonempty => absurd rfl nonempty
  | notify | notifyStop =>
      exact fun waiting => absurd waiting (notifyOne_not_waiting _)
  | get | destroy | ownerLock =>
      intro waiting nonempty
      obtain ⟨handler, impossible⟩ := notified waiting nonempty
      cases impossible
  | _ =>
      intro waiting
      cases waiting

theorem ownerGuard_step (stepped : c.step action = some d)
    (ownerGuard : c.guard = some .owner →
      ∃ handler, c.owner = .pushing handler) :
    d.guard = some .owner → ∃ handler, d.owner = .pushing handler := by
  cases moves_of_step stepped with
  | ownerLock => exact fun _ => ⟨_, rfl⟩
  | get | destroy | notify | notifyStop | join =>
      intro held
      obtain ⟨handler, impossible⟩ := ownerGuard held
      cases impossible
  | wake | dispatch | finish | stepped => exact ownerGuard
  | _ =>
      intro held
      cases held

theorem threadGuard_step (stepped : c.step action = some d)
    (threadGuard : c.guard = some .thread → c.thread = .testing) :
    d.guard = some .thread → d.thread = .testing := by
  cases moves_of_step stepped with
  | enter | reenter => exact fun _ => rfl
  | get | destroy => exact threadGuard
  | notify | notifyStop =>
      intro held
      obtain rfl := threadGuard held
      rfl
  | wake | dispatch | finish | stepped | join =>
      intro held
      cases threadGuard held
  | _ =>
      intro held
      cases held

theorem serving_initial : initial.Serving where
  orderly := orderly_initial
  numbered := rfl
  inHand := fun _ impossible => by cases impossible
  stopTaken := fun impossible => by cases impossible
  notified := fun impossible => by cases impossible
  ownerGuard := fun impossible => by cases impossible
  threadGuard := fun impossible => by cases impossible

theorem serving_step (stepped : c.step action = some d)
    (serving : c.Serving) : d.Serving where
  orderly := orderly_step stepped serving.orderly
  numbered := numbered_step stepped serving.numbered
  inHand := inHand_step stepped serving.inHand
  stopTaken := stopTaken_step stepped serving.stopTaken
  notified := notified_step stepped serving.notified
  ownerGuard := ownerGuard_step stepped serving.ownerGuard
  threadGuard := threadGuard_step stepped serving.threadGuard

/-! ## What has been run -/

theorem begun_step (stepped : c.step action = some d) (serving : c.Serving) :
    d.begun.filter Handler.isStep =
      c.begun.filter Handler.isStep ++ c.execution action := by
  cases moves_of_step stepped with
  | take => simp [begun, execution]
  | dispatch =>
      obtain ⟨before, taken⟩ := serving.inHand _ rfl
      simp only at taken
      subst taken
      simp [begun, execution, List.filter_append, Handler.isStep]
  | finish =>
      obtain ⟨before, taken⟩ := serving.inHand _ rfl
      simp only at taken
      subst taken
      simp [begun, execution, List.filter_append, Handler.isStep]
  | @notify _ _ _ thread => cases thread <;> simp [begun, execution,
      CallbackThread.notifyOne]
  | @notifyStop _ _ thread => cases thread <;> simp [begun, execution,
      CallbackThread.notifyOne]
  | _ => simp [begun, execution]

private theorem executed_eq {actions : List CallableAction}
    (ran : Transition.run step initial actions = some c) :
    executed actions = c.begun.filter Handler.isStep :=
  (Transition.run_observed serving_step begun_step ran serving_initial).symm

private theorem Serving.begun_requested (serving : c.Serving) :
    c.begun.filter Handler.isStep <+: c.requested := by
  have begun : c.begun <+: c.taken := by
    unfold Callable.begun
    split
    · exact List.dropLast_prefix c.taken
    · exact List.prefix_rfl
  have taken : c.taken <+: c.queued ++ c.owner.pending := by
    rw [serving.orderly.fifo, List.append_assoc]
    exact List.prefix_append _ _
  rw [← serving.numbered]
  exact (begun.trans taken).filter _

/-- The empty handler comes last. -/
theorem Serving.drained (serving : c.Serving) (ended : c.thread.Ended) :
    c.handlers = [] ∧ c.begun.filter Handler.isStep = c.requested ∧
      c.served = c.gets := by
  have closed := serving.orderly.closed_of_ended ended
  have drained := serving.orderly.drained_of_ended ended
  have settled : c.owner.pending = [] := by
    revert closed
    cases c.owner <;> first | exact fun _ => rfl | exact False.elim
  have numbered : c.taken.filter Handler.isStep = c.requested := by
    rw [← serving.numbered, settled, serving.orderly.fifo, drained,
      List.append_nil, List.append_nil]
  refine ⟨drained, ?_, ?_⟩
  · rw [← numbered]
    unfold begun
    split
    next handler took =>
      obtain ⟨before, taken⟩ := serving.inHand handler took
      rw [took] at ended
      cases handler with
      | step number => exact ended.elim
      | stop => simp [taken, Handler.isStep]
    next => rfl
  · rw [serving.orderly.served_of_ended ended, serving.orderly.fifo, drained,
      List.append_nil, steps, List.countP_eq_length_filter, numbered]
    simp [requested]

/-- `served` counts the calls of `Step` that have returned. -/
theorem served_tally (stepped : c.step action = some d) :
    d.served = c.served + if action = .stepped then 1 else 0 := by
  cases moves_of_step stepped <;> rfl

private theorem gets_tally (stepped : c.step action = some d) :
    d.gets = c.gets + if action = .get then 1 else 0 := by
  cases moves_of_step stepped <;> rfl

/-! ## The end is reached -/

/-- The steps that are left once the queue is closed.  A handler takes four. -/
def remaining (c : Callable) : Nat :=
  4 * c.handlers.length + c.thread.rank + c.owner.rank

/-- A closed queue is not found empty before the end. -/
theorem Serving.nonempty_of_closed (serving : c.Serving)
    (closed : c.owner.Closed) (running : ¬ c.thread.Ended) :
    c.handlers ≠ [] := by
  intro empty
  obtain ⟨before, whole, -⟩ := serving.orderly.closed closed
  rw [serving.orderly.fifo, empty, List.append_nil] at whole
  apply running
  apply serving.stopTaken
  rw [whole]
  exact List.mem_append_right before List.mem_cons_self

private theorem notifyOne_rank (thread : CallbackThread) :
    thread.notifyOne.rank ≤ thread.rank := by
  cases thread <;> simp [CallbackThread.notifyOne, CallbackThread.rank]

theorem closing_step (closing : c.Serving ∧ c.owner.Closed)
    (stepped : c.step action = some d) :
    (d.Serving ∧ d.owner.Closed) ∧ d.remaining < c.remaining := by
  obtain ⟨serving, closed⟩ := closing
  rw [and_assoc]
  refine ⟨serving_step stepped serving, ?_⟩
  cases moves_of_step stepped with
  | get | destroy | ownerLock | push | notify => exact closed.elim
  | @notifyStop _ _ thread =>
      refine ⟨trivial, ?_⟩
      have rank := notifyOne_rank thread
      simp only [remaining, Owner.rank]
      omega
  | wait => exact absurd rfl (serving.nonempty_of_closed closed id)
  | _ =>
      refine ⟨closed, ?_⟩
      simp only [remaining, CallbackThread.rank, Owner.rank, List.length_cons]
      omega

/-- The destructor and a call of `Get` are never stuck on their way. -/
theorem Serving.goes_on (serving : c.Serving) (busy : c.owner ≠ .idle)
    (unjoined : c.owner ≠ .joined) :
    ∃ action next, action ≠ .wake ∧ c.step action = some next := by
  obtain ⟨handlers, guard, owner, thread, gets, queued, taken, served⟩ := c
  have tests : thread = .testing →
      ∃ action next, action ≠ .wake ∧
        step ⟨handlers, guard, owner, thread, gets, queued, taken, served⟩
          action = some next := by
    rintro rfl
    cases handlers with
    | nil => exact ⟨.test, _, by simp, rfl⟩
    | cons handler rest => exact ⟨.test, _, by simp, rfl⟩
  cases owner with
  | idle => exact absurd rfl busy
  | joined => exact absurd rfl unjoined
  | adding handler =>
      -- the mutex is free, or the thread has it and is about to test
      cases guard with
      | none => exact ⟨.ownerLock, _, by simp, rfl⟩
      | some party =>
          cases party with
          | owner =>
              obtain ⟨handler, impossible⟩ := serving.ownerGuard rfl
              cases impossible
          | thread => exact tests (serving.threadGuard rfl)
  | pushing handler => exact ⟨.push, _, by simp, rfl⟩
  | notifying handler =>
      cases handler with
      | step number => exact ⟨.notify, _, by simp, rfl⟩
      | stop => exact ⟨.notify, _, by simp, rfl⟩
  | joining =>
      have free : thread ≠ .testing → guard = none := by
        intro elsewhere
        cases guard with
        | none => rfl
        | some party =>
            cases party with
            | owner =>
                obtain ⟨handler, impossible⟩ := serving.ownerGuard rfl
                cases impossible
            | thread => exact absurd (serving.threadGuard rfl) elsewhere
      cases thread with
      | entering =>
          cases free (by simp)
          exact ⟨.threadLock, _, by simp, rfl⟩
      | woken =>
          cases free (by simp)
          exact ⟨.threadLock, _, by simp, rfl⟩
      | testing => exact tests rfl
      | waiting =>
          have nonempty := serving.nonempty_of_closed trivial id
          obtain ⟨handler, impossible⟩ := serving.notified rfl nonempty
          cases impossible
      | took handler =>
          cases handler with
          | step number => exact ⟨.dispatch, _, by simp, rfl⟩
          | stop => exact ⟨.dispatch, _, by simp, rfl⟩
      | stepping => exact ⟨.stepped, _, by simp, rfl⟩
      | stopped => exact ⟨.join, _, by simp, rfl⟩

/-- In every interleaving of the owner and the thread: the handlers that have been
run are the first ones of those that `Get` made, in their order and each once;
when the empty handler has been taken, they are all of them, each served, and the
queue is empty; a thread that is blocked with a handler in the queue has a
`notify_one` to come; when the destructor has returned, the thread has stopped
and there were as many calls of `Step` as of `Get`.  A call of `Get` and the
destructor can always go on, and once the empty handler is queued only so many
steps are left. -/
theorem callable_drains (actions : List CallableAction) (c : Callable)
    (ran : Transition.run step initial actions = some c) :
    (executed actions <+: c.requested ∧ c.requested.Nodup) ∧
    (.stop ∈ c.taken → c.handlers = [] ∧ executed actions = c.requested ∧
      c.served = c.gets) ∧
    (c.thread = .waiting → c.handlers ≠ [] →
      ∃ handler, c.owner = .notifying handler) ∧
    (c.owner = .joined → c.thread = .stopped ∧ c.handlers = [] ∧
      executed actions = c.requested ∧
      actions.count .stepped = actions.count .get) ∧
    (c.owner ≠ .idle → c.owner ≠ .joined →
      ∃ action next, action ≠ .wake ∧ c.step action = some next) ∧
    (c.owner.Closed → ∀ more d, Transition.run step c more = some d →
      d.owner.Closed ∧ more.length ≤ c.remaining) := by
  have serving : c.Serving :=
    Transition.run_invariant (fun (_ : True) => serving_step) ran
      (fun _ _ => trivial) serving_initial
  rw [executed_eq ran]
  refine ⟨⟨serving.begun_requested, ?_⟩, ?_, serving.notified, ?_,
    serving.goes_on, ?_⟩
  · exact List.Nodup.map (fun _ _ same => Handler.step.inj same)
      List.nodup_range
  · intro taken
    exact serving.drained (serving.stopTaken taken)
  · intro joined
    have stopped := serving.orderly.joined joined
    have ended : c.thread.Ended := by
      rw [stopped]
      trivial
    obtain ⟨drained, all, served⟩ := serving.drained ended
    refine ⟨stopped, drained, all, ?_⟩
    have steps := Transition.run_tally served_tally ran
    have gets := Transition.run_tally gets_tally ran
    simp only [initial, Nat.zero_add] at steps gets
    rw [← steps, ← gets, served]
  · intro closed more d continued
    obtain ⟨⟨-, stillClosed⟩, short⟩ :=
      Transition.run_goes_down closing_step continued ⟨serving, closed⟩
    exact ⟨stillClosed, short⟩

/-- Two calls of `Get` and the destructor, the second call while the first
handler is being served. -/
def twoCallsRun : List CallableAction :=
  [.threadLock, .test, .get, .ownerLock, .push, .notify, .threadLock, .test,
    .dispatch, .get, .ownerLock, .push, .notify, .stepped, .destroy,
    .ownerLock, .push, .threadLock, .test, .dispatch, .notify, .stepped,
    .threadLock, .test, .dispatch, .join]

theorem twoCallsRun_drains :
    ∃ c, Transition.run step initial twoCallsRun = some c ∧
      c.owner = .joined ∧ executed twoCallsRun = [.step 0, .step 1] := by
  refine ⟨_, rfl, rfl, ?_⟩
  exact ((callable_drains twoCallsRun _ rfl).2.2.2.1 rfl).2.2.1

end Callable

end KosCeExtra.Dns
