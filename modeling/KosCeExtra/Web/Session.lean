import KosCeExtra.Library.Transition
import KosCeExtra.Web.Server

/-!
# The life of an HTTPS session

A `Session` arms asynchronous operations on its stream, and the completion of
each one runs a handler that may arm the next.  A run of a session is any
sequence of completions of armed operations, each with success, end of stream
or another error.  The question is when the stream carries one operation at a
time and nothing is read or handled after `Close`: `onWrite` calls `Close` for
the last response of a connection and then goes on to `Read`.
-/

namespace KosCeExtra.Web

inductive ErrorCode where
  | success
  | endOfStream
  | other (message : Text)
  deriving DecidableEq, Repr

/-- An asynchronous operation armed on the stream. -/
inductive Operation where
  | handshake
  | read
  | write (keepAlive : Bool)
  | shutdown
  deriving DecidableEq, Repr

inductive Event where
  | readStarted
  | handled (req : Request)
  | escaped (exception : Exception)
  | closeCalled
  | failed (what : String) (ec : ErrorCode)
  deriving DecidableEq, Repr

/-- A session: whether `OnRun` is still to be dispatched, what is armed on the
stream, and what has happened so far, oldest first. -/
structure Session where
  dispatching : Bool
  pending : List Operation
  events : List Event
  deriving DecidableEq, Repr

namespace Session

/-- The session after `Run`. -/
def initial : Session :=
  ⟨true, [], []⟩

def arm (session : Session) (operation : Operation) : Session :=
  { session with pending := session.pending ++ [operation] }

def record (session : Session) (event : Event) : Session :=
  { session with events := session.events ++ [event] }

def fail (session : Session) (ec : ErrorCode) (what : String) : Session :=
  session.record (.failed what ec)

def onRun (session : Session) : Session :=
  session.arm .handshake

def read (session : Session) : Session :=
  (session.record .readStarted).arm .read

def close (session : Session) : Session :=
  (session.record .closeCalled).arm .shutdown

def onHandshake (session : Session) (ec : ErrorCode) : Session :=
  if ec ≠ .success then session.fail ec "handshake" else session.read

def sendResponse (session : Session) (msg : Response) : Session :=
  session.arm (.write msg.keepAlive)

/-- Nothing catches an exception of the server: the session ends with it. -/
def onRead (server : WebServer) (session : Session) (ec : ErrorCode)
    (env : Environment) (req : Request) : Session :=
  if ec ≠ .success then
    if ec = .endOfStream then session.close else session.fail ec "read"
  else
    let handled := session.record (.handled req)
    match (server.handleRequest env req).result with
    | .ok msg => handled.sendResponse msg
    | .error exception => handled.record (.escaped exception)

def onWrite (session : Session) (keepAlive : Bool) (ec : ErrorCode) :
    Session :=
  if ec ≠ .success then
    session.fail ec "write"
  else
    let session := if !keepAlive then session.close else session
    session.read

def onShutdown (session : Session) (ec : ErrorCode) : Session :=
  if ec ≠ .success then session.fail ec "shutdown" else session

end Session

/-- What the event loop may do next: run the dispatched `OnRun`, or complete
an armed operation.  A completed read brings its request and the surroundings
in which the request is handled. -/
inductive Completion where
  | dispatch
  | handshake (ec : ErrorCode)
  | read (ec : ErrorCode) (env : Environment) (req : Request)
  | write (keepAlive : Bool) (ec : ErrorCode)
  | shutdown (ec : ErrorCode)

namespace Session

/-- Take an armed operation off the stream. -/
def complete (session : Session) (operation : Operation) : Option Session :=
  if operation ∈ session.pending then
    some { session with pending := session.pending.erase operation }
  else
    none

def step (server : WebServer) (session : Session) :
    Completion → Option Session
  | .dispatch =>
      if session.dispatching then
        some { session with dispatching := false }.onRun
      else
        none
  | .handshake ec =>
      (session.complete .handshake).map fun session => session.onHandshake ec
  | .read ec env req =>
      (session.complete .read).map fun session =>
        session.onRead server ec env req
  | .write keepAlive ec =>
      (session.complete (.write keepAlive)).map fun session =>
        session.onWrite keepAlive ec
  | .shutdown ec =>
      (session.complete .shutdown).map fun session => session.onShutdown ec

end Session

/-! ## The discipline -/

/-- An event that starts no read and hands no request to the server. -/
def Event.IsQuiet : Event → Prop
  | .readStarted => False
  | .handled _ => False
  | _ => True

/-- After `Close` only quiet events happen. -/
def QuietAfterClose (events : List Event) : Prop :=
  ∀ before after, events = before ++ .closeCalled :: after →
    ∀ event ∈ after, event.IsQuiet

/-- At most one operation on the stream, and quiet after `Close`. -/
structure Session.Disciplined (session : Session) : Prop where
  single : session.pending.length ≤ 1
  quiet : QuietAfterClose session.events

/-- The last response of a connection has been written. -/
def Completion.LastWrite : Completion → Prop
  | .write false .success => True
  | _ => False

private theorem quietAfterClose_concat {events : List Event} {event : Event}
    (quiet : QuietAfterClose events)
    (next : .closeCalled ∉ events ∨ event.IsQuiet) :
    QuietAfterClose (events ++ [event]) := by
  intro before after split later member
  rcases List.eq_nil_or_concat after with rfl | ⟨shorter, last, rfl⟩
  · cases member
  · rw [List.concat_eq_append, ← List.cons_append, ← List.append_assoc,
      List.append_singleton_inj] at split
    obtain ⟨rfl, rfl⟩ := split
    rw [List.concat_eq_append] at member
    rcases List.mem_append.mp member with earlier | here
    · exact quiet before shorter rfl later earlier
    · obtain rfl := List.mem_singleton.mp here
      rcases next with open_ | silent
      · exact absurd (by simp) open_
      · exact silent

theorem quietAfterClose_of_start {first events : List Event}
    (start : first <+: events) (quiet : QuietAfterClose events) :
    QuietAfterClose first := by
  obtain ⟨rest, rfl⟩ := start
  rintro before after rfl later member
  refine quiet before (after ++ rest) ?_ later (List.mem_append_left _ member)
  rw [List.append_assoc, List.cons_append]

namespace Session

/-! ## Between two completions -/

/-- No operation is armed and none is about to be. -/
structure Rested (session : Session) : Prop where
  dispatched : session.dispatching = false
  idle : session.pending = []
  quiet : QuietAfterClose session.events

/-- What holds between completions as long as no last response was written. -/
structure Steady (session : Session) : Prop where
  waiting : session.dispatching = true →
    session.pending = [] ∧ .closeCalled ∉ session.events
  single : session.pending.length ≤ 1
  closing : .closeCalled ∈ session.events →
    ∀ operation ∈ session.pending, operation = .shutdown
  quiet : QuietAfterClose session.events

variable {session next : Session}

theorem steady_initial : initial.Steady where
  waiting := fun _ => ⟨rfl, List.not_mem_nil⟩
  single := Nat.zero_le 1
  closing := fun closed => by cases closed
  quiet := fun before _ split => by cases before <;> cases split

theorem Rested.steady (rested : session.Rested) : session.Steady where
  waiting := fun dispatching => by
    rw [rested.dispatched] at dispatching
    cases dispatching
  single := by simp [rested.idle]
  closing := fun _ operation armed => by
    rw [rested.idle] at armed
    cases armed
  quiet := rested.quiet

theorem Rested.record (rested : session.Rested) {event : Event}
    (allowed : .closeCalled ∉ session.events ∨ event.IsQuiet) :
    (session.record event).Rested where
  dispatched := rested.dispatched
  idle := rested.idle
  quiet := quietAfterClose_concat rested.quiet allowed

theorem Rested.arm (rested : session.Rested) {operation : Operation}
    (allowed : .closeCalled ∉ session.events ∨ operation = .shutdown) :
    (session.arm operation).Steady where
  waiting := fun dispatching => by
    have same : session.dispatching = true := dispatching
    rw [rested.dispatched] at same
    cases same
  single := by simp [Session.arm, rested.idle]
  closing := fun closed other armed => by
    have only : other = operation := by
      simpa [Session.arm, rested.idle] using armed
    rcases allowed with open_ | last
    · exact absurd closed open_
    · rw [only, last]
  quiet := rested.quiet

theorem Rested.fail (rested : session.Rested) (ec : ErrorCode)
    (what : String) : (session.fail ec what).Steady := by
  have recorded : (session.record (.failed what ec)).Rested :=
    rested.record (.inr trivial)
  exact recorded.steady

theorem Rested.read (rested : session.Rested)
    (open_ : .closeCalled ∉ session.events) : session.read.Steady := by
  refine (rested.record (.inl open_)).arm (.inl ?_)
  simpa [Session.record] using open_

theorem Rested.close (rested : session.Rested) : session.close.Steady := by
  have recorded : (session.record .closeCalled).Rested :=
    rested.record (.inr trivial)
  exact recorded.arm (.inr rfl)

theorem Steady.complete (steady : session.Steady) {operation : Operation}
    (completed : session.complete operation = some next) :
    next.Rested ∧ (operation = .shutdown ∨ .closeCalled ∉ next.events) := by
  unfold Session.complete at completed
  split at completed
  next armed =>
    cases completed
    have alone : session.pending = [operation] := by
      obtain ⟨only, same⟩ := List.length_eq_one_iff.mp
        (Nat.le_antisymm steady.single (List.length_pos_of_mem armed))
      rw [same, List.mem_singleton] at armed
      rw [same, armed]
    have dispatched : session.dispatching = false := by
      cases dispatching : session.dispatching with
      | false => rfl
      | true =>
          rw [(steady.waiting dispatching).1] at alone
          cases alone
    refine ⟨⟨dispatched, by simp [alone], steady.quiet⟩, ?_⟩
    by_cases closed : .closeCalled ∈ session.events
    · exact .inl (steady.closing closed operation armed)
    · exact .inr closed
  next => cases completed

/-! ## What each handler leaves behind -/

variable {server : WebServer}

theorem Rested.onHandshake (rested : session.Rested)
    (open_ : .closeCalled ∉ session.events) (ec : ErrorCode) :
    (session.onHandshake ec).Steady := by
  unfold Session.onHandshake
  split
  · exact rested.fail ec _
  · exact rested.read open_

theorem Rested.onRead (rested : session.Rested)
    (open_ : .closeCalled ∉ session.events) (ec : ErrorCode)
    (env : Environment) (req : Request) :
    (session.onRead server ec env req).Steady := by
  unfold Session.onRead
  split
  · split
    · exact rested.close
    · exact rested.fail ec _
  · have handled : (session.record (.handled req)).Rested :=
      rested.record (.inl open_)
    have stillOpen : .closeCalled ∉ (session.record (.handled req)).events := by
      simpa [Session.record] using open_
    cases (server.handleRequest env req).result with
    | ok msg => exact handled.arm (.inl stillOpen)
    | error exception => exact (handled.record (.inl stillOpen)).steady

theorem Rested.onWrite (rested : session.Rested)
    (open_ : .closeCalled ∉ session.events) {keepAlive : Bool}
    {ec : ErrorCode}
    (notLast : ¬ (Completion.write keepAlive ec).LastWrite) :
    (session.onWrite keepAlive ec).Steady := by
  unfold Session.onWrite
  split
  · exact rested.fail ec _
  next succeeded =>
    obtain rfl : ec = .success := not_not.mp succeeded
    cases keepAlive with
    | true => exact rested.read open_
    | false => exact absurd trivial notLast

theorem Rested.onShutdown (rested : session.Rested) (ec : ErrorCode) :
    (session.onShutdown ec).Steady := by
  unfold Session.onShutdown
  split
  · exact rested.fail ec _
  · exact rested.steady

theorem steady_step {completion : Completion}
    (notLast : ¬ completion.LastWrite)
    (stepped : step server session completion = some next)
    (steady : session.Steady) : next.Steady := by
  cases completion with
  | dispatch =>
      simp only [step] at stepped
      split at stepped
      next dispatching =>
        cases stepped
        obtain ⟨idle, open_⟩ := steady.waiting dispatching
        have rested : { session with dispatching := false }.Rested :=
          ⟨rfl, idle, steady.quiet⟩
        exact rested.arm (.inl open_)
      next => cases stepped
  | handshake ec =>
      obtain ⟨middle, completed, rfl⟩ := Option.map_eq_some_iff.mp stepped
      obtain ⟨rested, last | open_⟩ := steady.complete completed
      · cases last
      · exact rested.onHandshake open_ ec
  | read ec env req =>
      obtain ⟨middle, completed, rfl⟩ := Option.map_eq_some_iff.mp stepped
      obtain ⟨rested, last | open_⟩ := steady.complete completed
      · cases last
      · exact rested.onRead open_ ec env req
  | write keepAlive ec =>
      obtain ⟨middle, completed, rfl⟩ := Option.map_eq_some_iff.mp stepped
      obtain ⟨rested, last | open_⟩ := steady.complete completed
      · cases last
      · exact rested.onWrite open_ notLast
  | shutdown ec =>
      obtain ⟨middle, completed, rfl⟩ := Option.map_eq_some_iff.mp stepped
      exact (steady.complete completed).1.onShutdown ec

/-! ## A last write leaves its mark -/

private theorem complete_events {operation : Operation}
    (completed : session.complete operation = some next) :
    next.events = session.events := by
  unfold Session.complete at completed
  split at completed
  · cases completed
    rfl
  · cases completed

/-- The events so far are never rewritten. -/
theorem step_events {completion : Completion}
    (stepped : step server session completion = some next) :
    session.events <+: next.events := by
  cases completion with
  | dispatch =>
      simp only [step] at stepped
      split at stepped
      · cases stepped
        exact List.prefix_rfl
      · cases stepped
  | handshake ec =>
      obtain ⟨middle, completed, rfl⟩ := Option.map_eq_some_iff.mp stepped
      rw [← complete_events completed]
      unfold onHandshake
      split
      · exact List.prefix_append _ _
      · exact List.prefix_append _ _
  | read ec env req =>
      obtain ⟨middle, completed, rfl⟩ := Option.map_eq_some_iff.mp stepped
      rw [← complete_events completed]
      unfold onRead
      split
      · split
        · exact List.prefix_append _ _
        · exact List.prefix_append _ _
      · cases (server.handleRequest env req).result with
        | ok msg => exact List.prefix_append _ _
        | error exception =>
            exact (List.prefix_append _ _).trans (List.prefix_append _ _)
  | write keepAlive ec =>
      obtain ⟨middle, completed, rfl⟩ := Option.map_eq_some_iff.mp stepped
      rw [← complete_events completed]
      unfold onWrite
      split
      · exact List.prefix_append _ _
      · cases keepAlive with
        | true => exact List.prefix_append _ _
        | false => exact (List.prefix_append _ _).trans (List.prefix_append _ _)
  | shutdown ec =>
      obtain ⟨middle, completed, rfl⟩ := Option.map_eq_some_iff.mp stepped
      rw [← complete_events completed]
      unfold onShutdown
      split
      · exact List.prefix_append _ _
      · exact List.prefix_rfl

/-- `onWrite` goes on from `Close` to `Read`. -/
theorem lastWrite_not_quiet {completion : Completion}
    (last : completion.LastWrite)
    (stepped : step server session completion = some next) :
    ¬ QuietAfterClose next.events := by
  obtain rfl : completion = .write false .success := by
    unfold Completion.LastWrite at last
    split at last
    · rfl
    · cases last
  obtain ⟨middle, completed, rfl⟩ := Option.map_eq_some_iff.mp stepped
  intro quiet
  exact quiet middle.events [.readStarted] (List.append_assoc _ _ _)
    .readStarted List.mem_cons_self

/-- A session keeps its discipline in every state of a run exactly when the
run writes no last response: what follows a response that closes the
connection is another read. -/
theorem disciplined_iff (server : WebServer) (completions : List Completion)
    (session : Session)
    (ran : Transition.run (step server) initial completions = some session) :
    session.Disciplined ↔
      ∀ completion ∈ completions, ¬ completion.LastWrite := by
  constructor
  · intro disciplined completion member last
    have marked : ¬ QuietAfterClose session.events :=
      Transition.run_marked lastWrite_not_quiet
        (fun stepped broken quiet =>
          broken (quietAfterClose_of_start (step_events stepped) quiet))
        ran ⟨completion, member, last⟩
    exact marked disciplined.quiet
  · intro notLast
    have steady : session.Steady :=
      Transition.run_invariant steady_step ran notLast steady_initial
    exact ⟨steady.single, steady.quiet⟩

/-- One request that closes the connection, answered and written. -/
def lastResponseRun : List Completion :=
  [.dispatch, .handshake .success,
    .read .success withoutTokenService
      { getTokenRequest with target := "/".toList, keepAlive := false },
    .write false .success]

/-- After the last response the shutdown and a new read are both armed. -/
theorem lastResponseRun_overlaps :
    ∃ session,
      Transition.run (step (mainServer "/www".toList)) initial
        lastResponseRun = some session ∧
      session.pending = [.shutdown, .read] ∧ ¬ session.Disciplined := by
  refine ⟨_, rfl, rfl, ?_⟩
  intro disciplined
  exact absurd disciplined.single (by decide)

/-- The same connection before that response has gone out. -/
theorem lastResponseRun_disciplined_before :
    ∃ session,
      Transition.run (step (mainServer "/www".toList)) initial
        (lastResponseRun.take 3) = some session ∧
      session.Disciplined := by
  refine ⟨_, rfl, (disciplined_iff (mainServer "/www".toList)
    (lastResponseRun.take 3) _ rfl).mpr ?_⟩
  intro completion member last
  simp only [lastResponseRun, List.take_succ_cons, List.take_zero,
    List.mem_cons, List.not_mem_nil, or_false] at member
  rcases member with rfl | rfl | rfl <;> exact last

end Session

end KosCeExtra.Web
