import KosCeExtra.Library.Ledger
import KosCeExtra.Dns.Resolver

/-!
# The resolver keeps a ledger of its requests

Seen from the requests, the resolver is a ledger: a request is open from its
acceptance until its callback is moved out, taken while a thread is about to
call `OnResolve`, and settled afterwards.  `Books` ties the ledger to the
list, the callbacks in it and the queries c-ares has not completed; every step
of either thread keeps the books.
-/

namespace KosCeExtra.Dns

/-- The request whose query the IPC thread is about to start. -/
def IpcThread.queried : IpcThread → Multiset RequestId
  | .querying id => {id}
  | _ => 0

/-- The callback the IPC thread is about to call. -/
def IpcThread.flights : IpcThread → Multiset (RequestId × Handle)
  | .answering id handle _ => {(id, handle)}
  | _ => 0

def Worker.flights : Worker → Multiset (RequestId × Handle)
  | .answering id handle _ => {(id, handle)}
  | _ => 0

/-- The ledger of the requests, from the store and what the threads carry. -/
def ledger (store : Store) (queried : Multiset RequestId)
    (flights : Multiset (RequestId × Handle)) : Ledger RequestId where
  opened := store.outstanding + queried
  taken := flights.map Prod.fst
  settled := store.answered.map OnResolveCall.id

structure Books (store : Store) (queried : Multiset RequestId)
    (flights : Multiset (RequestId × Handle)) : Prop where
  valid : (ledger store queried flights).Valid
  entered : (ledger store queried flights).entered =
    store.accepted.map Request.id
  fresh : ∀ request ∈ store.accepted, request.id < store.nextId
  bounded : ∀ element ∈ store.requests, element.id < store.nextId
  distinct : (store.requests.map Element.id).Nodup
  listed : ∀ request ∈ store.accepted,
    request.id ∈ (ledger store queried flights).opened →
      request.element ∈ store.requests
  cleared : ∀ element ∈ store.requests, element.callback = none →
    element.id ∈ store.moved
  moved : (store.moved : Multiset RequestId) =
    (ledger store queried flights).taken + (ledger store queried flights).settled
  removed : ∀ element ∈ store.removed,
    element.callback = none ∧ element.id ∈ store.moved
  carried : ∀ flight ∈ flights, ∃ request ∈ store.accepted,
    request.id = flight.1 ∧ request.handle = flight.2
  answered : ∀ call ∈ store.answered, ∃ request ∈ store.accepted,
    request.id = call.id ∧ request.handle = call.handle

variable {store : Store} {queried : Multiset RequestId}
variable {flights : Multiset (RequestId × Handle)}

theorem books_initial : Books .initial 0 0 where
  valid := Ledger.valid_empty
  entered := rfl
  fresh := fun _ member => by cases member
  bounded := fun _ member => by cases member
  distinct := List.nodup_nil
  listed := fun _ member => by cases member
  cleared := fun _ member => by cases member
  moved := rfl
  removed := fun _ member => by cases member
  carried := fun _ member => by simp at member
  answered := fun _ member => by cases member

/-! ## Accepting a request -/

theorem Books.enters (books : Books store 0 flights) (name : Text)
    (handle : Handle) :
    Ledger.Enters store.nextId (ledger store 0 flights)
      (ledger (store.emplaceBack name handle) {store.nextId} flights) where
  fresh := by
    rw [books.entered]
    intro member
    obtain ⟨request, accepted, same⟩ := List.mem_map.mp member
    exact absurd same (Nat.ne_of_lt (books.fresh request accepted))
  opened := by
    simp only [ledger, Store.emplaceBack, Multiset.add_zero]
    exact Multiset.add_comm _ _
  taken := rfl
  settled := rfl

theorem books_emplaceBack (books : Books store 0 flights) (name : Text)
    (handle : Handle) :
    Books (store.emplaceBack name handle) {store.nextId} flights := by
  have enters := books.enters name handle
  have later : ∀ {id}, id < store.nextId → id < store.nextId + 1 :=
    Nat.lt_succ_of_lt
  have kept : ∀ {request}, request ∈ store.accepted →
      request ∈ (store.emplaceBack name handle).accepted :=
    List.mem_append_left _
  constructor
  case valid => exact enters.valid books.valid
  case entered =>
      rw [enters.entered_eq, books.entered]
      simp only [Store.emplaceBack, List.map_append, List.map_cons,
        List.map_nil]
      exact Multiset.coe_eq_coe.mpr (List.perm_append_singleton _ _).symm
  case fresh =>
      intro request member
      rcases List.mem_append.mp member with old | new
      · exact later (books.fresh request old)
      · rw [List.mem_singleton.mp new]
        exact Nat.lt_succ_self _
  case bounded =>
      intro element member
      rcases List.mem_append.mp member with old | new
      · exact later (books.bounded element old)
      · rw [List.mem_singleton.mp new]
        exact Nat.lt_succ_self _
  case distinct =>
      simp only [Store.emplaceBack, List.map_append, List.map_cons,
        List.map_nil]
      refine List.nodup_append.mpr ⟨books.distinct, List.nodup_singleton _, ?_⟩
      intro id old new member
      obtain ⟨element, listed, rfl⟩ := List.mem_map.mp old
      rw [List.mem_singleton.mp member]
      exact Nat.ne_of_lt (books.bounded element listed)
  case listed =>
      intro request member isOpen
      rcases List.mem_append.mp member with old | new
      · rw [enters.opened] at isOpen
        rcases Multiset.mem_cons.mp isOpen with same | before
        · exact absurd same (Nat.ne_of_lt (books.fresh request old))
        · exact List.mem_append_left _ (books.listed request old before)
      · rw [List.mem_singleton.mp new]
        exact List.mem_append_right _ List.mem_cons_self
  case cleared =>
      intro element member null
      rcases List.mem_append.mp member with old | new
      · exact books.cleared element old null
      · rw [List.mem_singleton.mp new] at null
        cases null
  case moved => exact books.moved
  case removed => exact books.removed
  case carried =>
      intro flight member
      obtain ⟨request, accepted, same⟩ := books.carried flight member
      exact ⟨request, kept accepted, same⟩
  case answered =>
      intro call member
      obtain ⟨request, accepted, same⟩ := books.answered call member
      exact ⟨request, kept accepted, same⟩

theorem books_touch (books : Books store queried flights) (id : RequestId) :
    Books (store.touch id) queried flights := by
  unfold Store.touch
  split
  · exact books
  · exact ⟨books.valid, books.entered, books.fresh, books.bounded,
      books.distinct, books.listed, books.cleared, books.moved, books.removed,
      books.carried, books.answered⟩

/-- A query that has gone out is as open as one about to go out. -/
theorem books_enqueue {id : RequestId} (books : Books store {id} flights) :
    Books (store.enqueue id) 0 flights := by
  have same : ledger (store.enqueue id) 0 flights =
      ledger store {id} flights := by
    simp [ledger, Store.enqueue, ← Multiset.coe_add]
  constructor
  case valid => rw [same]; exact books.valid
  case entered => rw [same]; exact books.entered
  case listed => rw [same]; exact books.listed
  case moved => rw [same]; exact books.moved
  case fresh => exact books.fresh
  case bounded => exact books.bounded
  case distinct => exact books.distinct
  case cleared => exact books.cleared
  case removed => exact books.removed
  case carried => exact books.carried
  case answered => exact books.answered

/-! ## Moving a callback out -/

theorem Books.request_of_opened (books : Books store queried flights)
    {id : RequestId} (isOpen : id ∈ (ledger store queried flights).opened) :
    ∃ request ∈ store.accepted, request.id = id := by
  have entered : id ∈ (ledger store queried flights).entered :=
    Multiset.mem_add.mpr (.inl (Multiset.mem_add.mpr (.inl isOpen)))
  rw [books.entered] at entered
  obtain ⟨request, accepted, same⟩ := List.mem_map.mp entered
  exact ⟨request, accepted, same⟩

private theorem Books.find_of_mem (books : Books store queried flights)
    {element : Element} (member : element ∈ store.requests) :
    store.find element.id = some element := by
  have distinct := books.distinct
  unfold Store.find
  generalize store.requests = requests at member distinct
  induction requests with
  | nil => cases member
  | cons head tail induction =>
      rw [List.map_cons, List.nodup_cons] at distinct
      rcases List.mem_cons.mp member with rfl | later
      · simp
      · have other : head.id ≠ element.id := fun same =>
          distinct.1 (same ▸ List.mem_map_of_mem later)
        rw [List.find?_cons_of_neg (by simpa using other)]
        exact induction later distinct.2

/-- The callback of an open request is still in its element. -/
theorem Books.moveCallback_eq (books : Books store queried flights)
    {request : Request} (accepted : request ∈ store.accepted)
    (isOpen : request.id ∈ (ledger store queried flights).opened) :
    store.moveCallback request.id =
      some (request.handle, store.clear request.id) := by
  have found : store.find request.id = some request.element :=
    books.find_of_mem (books.listed request accepted isOpen)
  rw [Store.moveCallback, found]
  rfl

private theorem mem_clear {id : RequestId} {element : Element}
    (member : element ∈ (store.clear id).requests) :
    (element.id = id ∧ ∃ before ∈ store.requests, before.id = element.id) ∨
      element ∈ store.requests := by
  obtain ⟨before, listed, rfl⟩ := List.mem_map.mp member
  by_cases same : before.id = id
  · rw [if_pos same]
    exact .inl ⟨same, before, listed, rfl⟩
  · rw [if_neg same]
    exact .inr listed

private theorem clear_ids (store : Store) (id : RequestId) :
    (store.clear id).requests.map Element.id =
      store.requests.map Element.id := by
  rw [Store.clear, List.map_map]
  refine List.map_congr_left ?_
  intro element _
  change (if element.id = id then _ else element).id = element.id
  split <;> rfl

/-- An open request is taken: its callback is moved out, and its query is no
longer outstanding or about to go out. -/
theorem books_take (books : Books store queried flights) {request : Request}
    (accepted : request ∈ store.accepted) {outstanding : List RequestId}
    {rest : Multiset RequestId}
    (opened : (store.outstanding : Multiset RequestId) + queried =
      request.id ::ₘ (outstanding + rest)) :
    Books { store.clear request.id with outstanding := outstanding } rest
      ((request.id, request.handle) ::ₘ flights) := by
  have takes : Ledger.Takes request.id (ledger store queried flights)
      (ledger { store.clear request.id with outstanding := outstanding } rest
        ((request.id, request.handle) ::ₘ flights)) := by
    refine ⟨opened, ?_, rfl⟩
    simp [ledger]
  have valid := takes.valid books.valid
  have closed : request.id ∉ (outstanding : Multiset RequestId) + rest := by
    intro stillOpen
    refine valid.opened_disjoint stillOpen ?_
    rw [takes.taken]
    exact Multiset.mem_add.mpr (.inl (Multiset.mem_cons_self _ _))
  have grown : ∀ {id}, id ∈ store.moved →
      id ∈ (store.clear request.id).moved :=
    List.mem_append_left _
  constructor
  case valid => exact valid
  case entered =>
      rw [takes.entered_eq]
      exact books.entered
  case fresh => exact books.fresh
  case bounded =>
      intro element member
      rcases mem_clear member with ⟨-, before, listed, same⟩ | listed
      · rw [← same]
        exact books.bounded before listed
      · exact books.bounded element listed
  case distinct =>
      change ((store.clear request.id).requests.map Element.id).Nodup
      rw [clear_ids]
      exact books.distinct
  case listed =>
      intro other member isOpen
      have different : other.element.id ≠ request.id := by
        intro same
        change other.id = request.id at same
        exact closed (same ▸ isOpen)
      have before : other.id ∈ (ledger store queried flights).opened := by
        rw [takes.opened]
        exact Multiset.mem_cons_of_mem isOpen
      have listed := books.listed other member before
      exact List.mem_map.mpr ⟨other.element, listed, if_neg different⟩
  case cleared =>
      intro element member null
      rcases mem_clear member with ⟨same, -⟩ | listed
      · rw [same]
        exact List.mem_append_right _ List.mem_cons_self
      · exact grown (books.cleared element listed null)
  case moved =>
      rw [takes.taken, takes.settled, Multiset.cons_add, ← books.moved]
      exact Multiset.coe_eq_coe.mpr (List.perm_append_singleton _ _)
  case removed =>
      intro element member
      obtain ⟨null, moved⟩ := books.removed element member
      exact ⟨null, grown moved⟩
  case carried =>
      intro flight member
      rcases Multiset.mem_cons.mp member with rfl | before
      · exact ⟨request, accepted, rfl, rfl⟩
      · exact books.carried flight before
  case answered => exact books.answered

/-! ## Answering and reaping -/

/-- Calling `OnResolve` adds the call and changes nothing else that counts. -/
theorem onResolve_eq (store : Store) (id : RequestId) (handle : Handle)
    (lookup : Lookup) (stale : Text) :
    ∃ texts : Text × Text, ∃ dangling,
      store.onResolve id handle lookup stale =
        { store with
          answered := store.answered ++ [⟨id, handle, texts.1, texts.2⟩]
          dangling := dangling } := by
  refine ⟨answer (store.nameAt id stale) lookup, ?_⟩
  unfold Store.onResolve Store.touch
  split
  · split
    · exact ⟨store.dangling, rfl⟩
    · exact ⟨store.dangling ++ [id], rfl⟩
  · exact ⟨store.dangling, rfl⟩

theorem books_onResolve {id : RequestId} {handle : Handle}
    (books : Books store queried ((id, handle) ::ₘ flights)) (lookup : Lookup)
    (stale : Text) :
    Books (store.onResolve id handle lookup stale) queried flights := by
  obtain ⟨texts, dangling, result⟩ :=
    onResolve_eq store id handle lookup stale
  rw [result]
  have settles : Ledger.Settles id
      (ledger store queried ((id, handle) ::ₘ flights))
      (ledger { store with
        answered := store.answered ++ [⟨id, handle, texts.1, texts.2⟩]
        dangling := dangling } queried flights) := by
    refine ⟨rfl, ?_, ?_⟩
    · simp [ledger]
    · simp only [ledger, List.map_append, List.map_cons, List.map_nil]
      exact Multiset.coe_eq_coe.mpr (List.perm_append_singleton _ _)
  constructor
  case valid => exact settles.valid books.valid
  case entered =>
      rw [settles.entered_eq]
      exact books.entered
  case fresh => exact books.fresh
  case bounded => exact books.bounded
  case distinct => exact books.distinct
  case listed =>
      intro request member isOpen
      rw [settles.opened] at isOpen
      exact books.listed request member isOpen
  case cleared => exact books.cleared
  case moved =>
      rw [settles.settled, Multiset.add_cons, ← Multiset.cons_add,
        ← settles.taken]
      exact books.moved
  case removed => exact books.removed
  case carried =>
      intro flight member
      exact books.carried flight (Multiset.mem_cons_of_mem member)
  case answered =>
      intro call member
      rcases List.mem_append.mp member with old | new
      · exact books.answered call old
      · rw [List.mem_singleton.mp new]
        exact books.carried (id, handle) (Multiset.mem_cons_self _ _)

theorem books_reap (books : Books store queried flights) :
    Books store.reap queried flights := by
  constructor
  case valid => exact books.valid
  case entered => exact books.entered
  case fresh => exact books.fresh
  case bounded =>
      intro element member
      exact books.bounded element (List.mem_of_mem_filter member)
  case distinct =>
      exact books.distinct.sublist (List.filter_sublist.map Element.id)
  case listed =>
      intro request member isOpen
      exact List.mem_filter.mpr ⟨books.listed request member isOpen, rfl⟩
  case cleared =>
      intro element member null
      exact books.cleared element (List.mem_of_mem_filter member) null
  case moved => exact books.moved
  case removed =>
      intro element member
      rcases List.mem_append.mp member with old | new
      · exact books.removed element old
      · obtain ⟨listed, null⟩ := List.mem_filter.mp new
        have null := Option.isNone_iff_eq_none.mp null
        exact ⟨null, books.cleared element listed null⟩
  case carried => exact books.carried
  case answered => exact books.answered

end KosCeExtra.Dns
