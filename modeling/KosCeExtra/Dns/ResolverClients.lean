import KosCeExtra.Dns.ResolverRuns

/-!
# The requests of one client

A client is known to the resolver by the handle of its callback object.  This
module counts the requests accepted for a handle and the answers given to it,
shows that the difference is what the client is still owed, and says which
steps change the counts.
-/

namespace KosCeExtra.Dns

/-- Whether the IPC thread holds a request of the client that it has not put
into the list yet. -/
def IpcThread.inHand (client : Handle) : IpcThread → Nat
  | .adding _ handle => if handle = client then 1 else 0
  | .emplacing _ handle => if handle = client then 1 else 0
  | _ => 0

namespace Resolver

variable (client : Handle)

def acceptedFor (s : Resolver) : Nat :=
  s.store.accepted.countP (fun request => request.handle = client)

def answeredFor (s : Resolver) : Nat :=
  s.store.answered.countP (fun call => call.handle = client)

/-- The requests of the client without an answer. -/
def outstandingFor (s : Resolver) : List Request :=
  s.store.accepted.filter fun request =>
    request.handle = client ∧ request.id ∉ s.store.answered.map OnResolveCall.id

variable {client} {s t : Resolver}

private theorem Sound.eq_of_id_eq (sound : s.Sound) {first second : Request}
    (firstAccepted : first ∈ s.store.accepted)
    (secondAccepted : second ∈ s.store.accepted)
    (same : first.id = second.id) : first = second :=
  List.inj_on_of_nodup_map sound.accepted_nodup firstAccepted secondAccepted
    same

private theorem Sound.answered_nodup (sound : s.Sound) :
    (s.store.answered.map OnResolveCall.id).Nodup := by
  have valid := sound.books.valid
  rw [Ledger.Valid, Ledger.entered] at valid
  exact Multiset.coe_nodup.mp (Multiset.nodup_add.mp valid).2.1

/-- The answers given to a client are the answers to its requests. -/
theorem Sound.answers_perm (sound : s.Sound) (client : Handle) :
    ((s.store.accepted.filter fun request => request.handle = client ∧
        request.id ∈ s.store.answered.map OnResolveCall.id).map
          Request.id).Perm
      ((s.store.answered.filter fun call => call.handle = client).map
        OnResolveCall.id) := by
  have left : ((s.store.accepted.filter fun request =>
      request.handle = client ∧
        request.id ∈ s.store.answered.map OnResolveCall.id).map
          Request.id).Nodup :=
    sound.accepted_nodup.sublist (List.filter_sublist.map _)
  have right : ((s.store.answered.filter fun call =>
      call.handle = client).map OnResolveCall.id).Nodup :=
    sound.answered_nodup.sublist (List.filter_sublist.map _)
  refine (List.perm_ext_iff_of_nodup left right).mpr fun id => ?_
  simp only [List.mem_map, List.mem_filter, decide_eq_true_eq]
  constructor
  · rintro ⟨request, ⟨accepted, mine, call, answered, same⟩, rfl⟩
    obtain ⟨other, otherAccepted, otherId, handle⟩ :=
      sound.books.answered call answered
    obtain rfl : other = request :=
      sound.eq_of_id_eq otherAccepted accepted (otherId.trans same)
    exact ⟨call, ⟨answered, handle.symm.trans mine⟩, same⟩
  · rintro ⟨call, ⟨answered, mine⟩, rfl⟩
    obtain ⟨request, accepted, same, handle⟩ :=
      sound.books.answered call answered
    exact ⟨request, ⟨accepted, handle.trans mine, call, answered, same.symm⟩,
      same⟩

/-- What was accepted for a client has been answered or is still owed. -/
theorem Sound.acceptedFor_eq (sound : s.Sound) (client : Handle) :
    s.acceptedFor client =
      s.answeredFor client + (s.outstandingFor client).length := by
  have answers := (sound.answers_perm client).length_eq
  rw [List.length_map, List.length_map] at answers
  rw [answeredFor, List.countP_eq_length_filter, ← answers, acceptedFor,
    outstandingFor, ← List.countP_eq_length_filter,
    ← List.countP_eq_length_filter,
    List.countP_eq_countP_filter_add _ _ (fun request =>
      decide (request.id ∈ s.store.answered.map OnResolveCall.id)),
    List.countP_filter, List.countP_filter]
  simp only [Bool.decide_and, decide_not]

/-! ## What a step does to the counts -/

/-- The call of `OnResolve` that a thread is about to make. -/
def flight (s : Resolver) : Thread → Option (RequestId × Handle × Lookup)
  | .ipc =>
      match s.ipc with
      | .answering id handle lookup => some (id, handle, lookup)
      | _ => none
  | .worker =>
      match s.worker with
      | .answering id handle lookup => some (id, handle, lookup)
      | _ => none

/-- The step in which a thread makes that call. -/
def answerAction : Thread → Text → Action
  | .ipc, stale => .ipcAnswer stale
  | .worker, stale => .workerAnswer stale

/-- Whose callback a thread is about to call. -/
def callee (s : Resolver) (thread : Thread) : Option Handle :=
  (s.flight thread).map fun flight => flight.2.1

/-- The step takes no request of the client and gives it no answer. -/
def independent (client : Handle) (s : Resolver) : Action → Bool
  | .resolve _ handle => handle != client
  | .ipcAnswer _ => s.callee .ipc != some client
  | .workerAnswer _ => s.callee .worker != some client
  | _ => true

private theorem moveCallback_clear {store next : Store} {id : RequestId}
    {handle : Handle} (moved : store.moveCallback id = some (handle, next)) :
    next = store.clear id := by
  unfold Store.moveCallback at moved
  split at moved
  · exact (Prod.mk.inj (Option.some.inj moved)).2.symm
  · cases moved

private theorem touch_accepted (store : Store) (id : RequestId) :
    (store.touch id).accepted = store.accepted := by
  unfold Store.touch
  split <;> rfl

private theorem touch_answered (store : Store) (id : RequestId) :
    (store.touch id).answered = store.answered := by
  unfold Store.touch
  split <;> rfl

/-- What a client can see of a step that does not concern it. -/
structure Unseen (client : Handle) (s t : Resolver) : Prop where
  requests : t.acceptedFor client + t.ipc.inHand client =
    s.acceptedFor client + s.ipc.inHand client
  answers : t.answeredFor client = s.answeredFor client
  inHand : t.ipc.inHand client ≤ s.ipc.inHand client

private theorem Unseen.of_same (accepted : t.store.accepted = s.store.accepted)
    (answered : t.store.answered = s.store.answered)
    (inHand : t.ipc.inHand client = s.ipc.inHand client) : Unseen client s t where
  requests := by rw [acceptedFor, accepted, inHand, acceptedFor]
  answers := by rw [answeredFor, answered, answeredFor]
  inHand := Nat.le_of_eq inHand

/-- A call of another client's callback. -/
theorem unseen_answer {thread : Thread} {id : RequestId} {handle : Handle}
    {lookup : Lookup} {stale : Text} (called : s.callee thread = some handle)
    (apart : (s.callee thread != some client) = true)
    (answer : t.store = s.store.onResolve id handle lookup stale)
    (inHand : t.ipc.inHand client = s.ipc.inHand client) :
    Unseen client s t := by
  have other : handle ≠ client := by
    intro same
    apply bne_iff_ne.mp apart
    rw [called, same]
  obtain ⟨texts, dangling, result⟩ :=
    onResolve_eq s.store id handle lookup stale
  rw [result] at answer
  refine ⟨?_, ?_, Nat.le_of_eq inHand⟩
  · rw [acceptedFor, answer, inHand, acceptedFor]
  · simp [answeredFor, answer, List.countP_append, other]

theorem unseen_step {action : Action} (stepped : s.step action = some t)
    (apart : s.independent client action = true) : Unseen client s t := by
  cases moves_of_step stepped with
  | resolve nonempty =>
      exact .of_same rfl rfl (if_neg (bne_iff_ne.mp apart))
  | @emplace store guard worker name handle =>
      refine ⟨?_, rfl, Nat.zero_le _⟩
      simp only [acceptedFor, Store.emplaceBack, List.countP_append,
        List.countP_singleton, IpcThread.inHand, decide_eq_true_eq]
      omega
  | @query store guard worker id =>
      exact .of_same (touch_accepted store id) (touch_answered store id) rfl
  | @completeNow store guard worker id handle lookup next moved =>
      obtain rfl := moveCallback_clear moved
      exact .of_same (touch_accepted store id) (touch_answered store id) rfl
  | @complete store guard ipc id handle lookup next pending moved =>
      obtain rfl := moveCallback_clear moved
      exact .of_same rfl rfl rfl
  | ipcAnswer => exact unseen_answer rfl apart rfl rfl
  | workerAnswer => exact unseen_answer rfl apart rfl rfl
  | _ => exact .of_same rfl rfl rfl

/-- The client's own request is in the hands of the IPC thread. -/
theorem resolve_inHand {name : Text} (nonempty : name ≠ [])
    (stepped : s.step (.resolve name client) = some t) :
    t.acceptedFor client = s.acceptedFor client ∧
      t.answeredFor client = s.answeredFor client ∧
      s.ipc.inHand client = 0 ∧ t.ipc.inHand client = 1 := by
  cases moves_of_step stepped with
  | rejected => exact absurd rfl nonempty
  | resolve => exact ⟨rfl, rfl, rfl, if_pos rfl⟩

/-- A call of the client's callback is one more answer. -/
theorem onResolve_counts {thread : Thread} {id : RequestId} {handle : Handle}
    {lookup : Lookup} {stale : Text} (called : s.callee thread = some handle)
    (mine : s.callee thread = some client)
    (answer : t.store = s.store.onResolve id handle lookup stale)
    (inHand : t.ipc.inHand client = s.ipc.inHand client) :
    t.acceptedFor client = s.acceptedFor client ∧
      t.answeredFor client = s.answeredFor client + 1 ∧
      t.ipc.inHand client = s.ipc.inHand client := by
  obtain rfl : handle = client := Option.some.inj (called.symm.trans mine)
  obtain ⟨texts, dangling, result⟩ :=
    onResolve_eq s.store id handle lookup stale
  rw [result] at answer
  refine ⟨?_, ?_, inHand⟩
  · rw [acceptedFor, answer, acceptedFor]
  · simp [answeredFor, answer, List.countP_append]

theorem answer_counts {thread : Thread} {stale : Text}
    (mine : s.callee thread = some client)
    (stepped : s.step (answerAction thread stale) = some t) :
    t.acceptedFor client = s.acceptedFor client ∧
      t.answeredFor client = s.answeredFor client + 1 ∧
      t.ipc.inHand client = s.ipc.inHand client := by
  cases thread with
  | ipc =>
      cases moves_of_step stepped with
      | ipcAnswer => exact onResolve_counts rfl mine rfl rfl
  | worker =>
      cases moves_of_step stepped with
      | workerAnswer => exact onResolve_counts rfl mine rfl rfl

end Resolver

end KosCeExtra.Dns
