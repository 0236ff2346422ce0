import KosCeExtra.Library.Family
import KosCeExtra.Web.Session

/-!
# The web server and all its sessions

`WebServer::Run` arms an accept and lets four threads run the handlers of the I/O
context.  A completed accept starts a session on a strand of its own, and the next
accept is armed whether it has failed or not.  The sessions share nothing but the
server, and the server does not change, so that the handlers of different sessions may
be taken one after the other in any order.

An exception that leaves a handler leaves `ioc.run()`.  On three of the threads there is
nothing around it.  On the fourth it is caught in `WebServer::Run`, but only after the
three others, which nobody has joined, have been destroyed.  The process is terminated
both times.
-/

namespace KosCeExtra.Web

structure Listener where
  /-- the accepts that are armed -/
  accepting : Nat
  sessions : List Session
  /-- what `Fail` has said of accepts -/
  failures : List ErrorCode
  terminated : Bool
  deriving DecidableEq, Repr

/-- What a thread of the server runs next. -/
inductive ServerAction where
  | accepted (ec : ErrorCode)
  | completed (index : Nat) (completion : Completion)

/-- An exception leaves the handler. -/
def Completion.throws (server : WebServer) : Completion → Bool
  | .read .success env req =>
      match (server.handleRequest env req).result with
      | .ok _ => false
      | .error _ => true
  | _ => false

namespace Listener

def accept (listener : Listener) : Listener :=
  { listener with accepting := listener.accepting + 1 }

/-- The listener after `Run`. -/
def initial : Listener :=
  Listener.accept ⟨0, [], [], false⟩

def onAccept (listener : Listener) (ec : ErrorCode) : Listener :=
  if ec ≠ .success then
    { listener with failures := listener.failures ++ [ec] }.accept
  else
    { listener with sessions := listener.sessions ++ [Session.initial] }.accept

def step (server : WebServer) (listener : Listener) :
    ServerAction → Option Listener
  | .accepted ec =>
      if listener.terminated then
        none
      else if listener.accepting = 0 then
        none
      else
        some ({ listener with accepting := listener.accepting - 1 }.onAccept ec)
  | .completed index completion =>
      if listener.terminated then
        none
      else
        match listener.sessions[index]? with
        | none => none
        | some session =>
            (session.step server completion).map fun next =>
              { listener with
                sessions := listener.sessions.set index next
                terminated := completion.throws server }

end Listener

/-! ## The sessions as a family -/

namespace ServerAction

open Family

def effect : ServerAction → Effect Completion
  | .accepted ec => if ec = .success then .spawn else .none
  | .completed index completion => .turn index completion

end ServerAction

namespace Listener

variable {server : WebServer} {listener next : Listener}

private theorem onAccept_accepting (listener : Listener) (ec : ErrorCode) :
    (listener.onAccept ec).accepting = listener.accepting + 1 := by
  unfold onAccept
  split
  · rfl
  · rfl

private theorem onAccept_terminated (listener : Listener) (ec : ErrorCode) :
    (listener.onAccept ec).terminated = listener.terminated := by
  unfold onAccept
  split
  · rfl
  · rfl

private theorem follows_onAccept (server : WebServer) (listener : Listener)
    (ec : ErrorCode) :
    Family.Follows (Session.step server) Session.initial listener.sessions
      (listener.onAccept ec).sessions (ServerAction.accepted ec).effect := by
  by_cases success : ec = .success
  · have spawns : (ServerAction.accepted ec).effect = .spawn := if_pos success
    rw [onAccept, if_neg (not_not.mpr success), spawns]
    rfl
  · have still : (ServerAction.accepted ec).effect = .none := if_neg success
    rw [onAccept, if_pos success, still]
    rfl

/-- What a step has to do with the accepts, the sessions and the end of the process. -/
theorem moves_of_step {action : ServerAction}
    (stepped : step server listener action = some next) :
    next.accepting = listener.accepting ∧
      Family.Follows (Session.step server) Session.initial listener.sessions
        next.sessions action.effect ∧
      (next.terminated = true ↔ ∃ index completion,
        action = .completed index completion ∧ completion.throws server = true) := by
  cases action with
  | accepted ec =>
      simp only [step] at stepped
      split at stepped
      next => cases stepped
      next going =>
        split at stepped
        next => cases stepped
        next armed =>
          cases stepped
          refine ⟨?_, follows_onAccept server _ ec, ?_⟩
          · rw [onAccept_accepting]
            exact Nat.sub_add_cancel (Nat.pos_of_ne_zero armed)
          · rw [onAccept_terminated]
            constructor
            · intro gone
              exact absurd gone going
            · rintro ⟨_, _, impossible, -⟩
              cases impossible
  | completed index completion =>
      simp only [step] at stepped
      split at stepped
      next => cases stepped
      next going =>
        split at stepped
        next => cases stepped
        next session found =>
          obtain ⟨after, turned, rfl⟩ := Option.map_eq_some_iff.mp stepped
          refine ⟨rfl, ⟨session, after, found, turned, rfl⟩, ?_⟩
          constructor
          · intro thrown
            exact ⟨index, completion, rfl, thrown⟩
          · rintro ⟨_, _, same, thrown⟩
            cases same
            exact thrown

theorem running_of_step {action : ServerAction}
    (stepped : step server listener action = some next) :
    listener.terminated = false := by
  cases gone : listener.terminated with
  | false => rfl
  | true =>
      cases action with
      | accepted ec =>
          rw [step, if_pos gone] at stepped
          cases stepped
      | completed index completion =>
          rw [step, if_pos gone] at stepped
          cases stepped

section Runs

variable {actions : List ServerAction}

/-- One accept is armed all the time. -/
theorem accepting_of_run
    (ran : Transition.run (step server) initial actions = some listener) :
    listener.accepting = 1 :=
  Transition.run_invariant
    (fun (_ : True) stepped armed => (moves_of_step stepped).1.trans armed) ran
    (fun _ _ => trivial) rfl

/-- The process is terminated by the exceptions of its handlers and by nothing else. -/
theorem terminated_iff
    (ran : Transition.run (step server) initial actions = some listener) :
    listener.terminated = true ↔ ∃ index completion,
      .completed index completion ∈ actions ∧ completion.throws server = true := by
  constructor
  · intro gone
    by_contra quiet
    have stays : ∀ {before action after}, (∀ index completion,
          action = .completed index completion → ¬ completion.throws server = true) →
        step server before action = some after → before.terminated = false →
          after.terminated = false := by
      intro before action after silent stepped _
      rw [← Bool.not_eq_true, (moves_of_step stepped).2.2]
      rintro ⟨index, completion, same, thrown⟩
      exact silent index completion same thrown
    have silent : ∀ action ∈ actions, ∀ index completion,
        action = .completed index completion → ¬ completion.throws server = true := by
      rintro action member index completion rfl thrown
      exact quiet ⟨index, completion, member, thrown⟩
    have running := Transition.run_invariant @stays ran silent rfl
    rw [running] at gone
    cases gone
  · rintro ⟨index, completion, member, thrown⟩
    have marks : ∀ {before action after}, (∃ index completion,
          action = .completed index completion ∧ completion.throws server = true) →
        step server before action = some after → after.terminated = true := by
      intro before action after marked stepped
      exact (moves_of_step stepped).2.2.mpr marked
    have keeps : ∀ {before action after}, step server before action = some after →
        before.terminated = true → after.terminated = true := by
      intro before action after stepped gone
      rw [running_of_step stepped] at gone
      cases gone
    exact Transition.run_marked @marks @keeps ran
      ⟨_, member, index, completion, rfl, thrown⟩

end Runs

/-! ## The server of `main` -/

/-- A request of `main`'s server gets an answer unless the token service fails it. -/
theorem mainServer_returns (docRoot : Text) {env : Environment} {req : Request}
    (safe : ¬ BackEndThrows env req) :
    ∃ response,
      ((mainServer docRoot).handleRequest env req).result = .ok response := by
  by_cases illegal : IllegalTarget req.target
  · rw [WebServer.handleRequest_illegal illegal]
    exact ⟨_, rfl⟩
  by_cases isToken : uriOf req.target = "/gettoken".toList
  · have routed := isToken ▸ mainServer_route_getToken docRoot
    rw [WebServer.handleRequest_returns_iff_handler illegal routed,
      getTokenHandler_returns_iff]
    rintro ⟨isGet, thrown⟩
    exact safe ⟨illegal, isGet, .inl ⟨isToken, thrown⟩⟩
  by_cases isData : uriOf req.target = "/getdata".toList
  · have routed := isData ▸ mainServer_route_getData docRoot
    rw [WebServer.handleRequest_returns_iff_handler illegal routed,
      getDataHandler_returns_iff]
    rintro ⟨isGet, thrown⟩
    exact safe ⟨illegal, isGet, .inr ⟨isData, (answer_error_iff env _).mp thrown⟩⟩
  · have routed := mainServer_route_default docRoot isToken isData
    rw [WebServer.handleRequest_returns_iff_handler illegal routed]
    exact allRequestHandler_returns docRoot env req

private theorem mainServer_throws (docRoot : Text) {env : Environment} {req : Request}
    (throws : BackEndThrows env req) :
    ¬ ∃ response,
      ((mainServer docRoot).handleRequest env req).result = .ok response := by
  obtain ⟨legal, isGet, ⟨isToken, thrown⟩ | ⟨isData, thrown⟩⟩ := throws
  · have routed := isToken ▸ mainServer_route_getToken docRoot
    rw [WebServer.handleRequest_returns_iff_handler legal routed,
      getTokenHandler_returns_iff]
    exact not_not.mpr ⟨isGet, thrown⟩
  · have routed := isData ▸ mainServer_route_getData docRoot
    rw [WebServer.handleRequest_returns_iff_handler legal routed,
      getDataHandler_returns_iff]
    exact not_not.mpr ⟨isGet, (answer_error_iff env _).mpr thrown⟩

private theorem throws_iff (docRoot : Text) (completion : Completion) :
    completion.throws (mainServer docRoot) = true ↔
      ∃ env req, completion = .read .success env req ∧ BackEndThrows env req := by
  constructor
  · intro thrown
    unfold Completion.throws at thrown
    split at thrown
    next env req =>
      refine ⟨env, req, rfl, ?_⟩
      by_contra safe
      obtain ⟨response, answer⟩ := mainServer_returns docRoot safe
      rw [answer] at thrown
      cases thrown
    next => cases thrown
  · rintro ⟨env, req, rfl, throws⟩
    rw [Completion.throws]
    cases answer : ((mainServer docRoot).handleRequest env req).result with
    | ok response => exact absurd ⟨response, answer⟩ (mainServer_throws docRoot throws)
    | error exception => rfl

/-- After every run of the server, with any number of clients whose sessions take turns
in any order, one more connection can be accepted exactly when no request so far, of
whichever client, has needed a call that the token service failed. -/
theorem serves_on_iff (docRoot : Text) (actions : List ServerAction)
    (listener : Listener)
    (ran : Transition.run (step (mainServer docRoot)) initial actions =
      some listener) (ec : ErrorCode) :
    (∃ next, step (mainServer docRoot) listener (.accepted ec) = some next) ↔
      ∀ index env req, .completed index (.read .success env req) ∈ actions →
        ¬ BackEndThrows env req := by
  have armed : ¬ listener.accepting = 0 := by
    rw [accepting_of_run ran]
    exact Nat.one_ne_zero
  constructor
  · rintro ⟨next, stepped⟩ index env req member throws
    have gone : listener.terminated = true :=
      (terminated_iff ran).mpr
        ⟨index, _, member, (throws_iff docRoot _).mpr ⟨env, req, rfl, throws⟩⟩
    rw [running_of_step stepped] at gone
    cases gone
  · intro safe
    have running : ¬ listener.terminated = true := by
      rw [terminated_iff ran]
      rintro ⟨index, completion, member, thrown⟩
      obtain ⟨env, req, rfl, throws⟩ := (throws_iff docRoot completion).mp thrown
      exact safe index env req member throws
    rw [step, if_neg running, if_neg armed]
    exact ⟨_, rfl⟩

/-- Two clients: the second asks for a token while the token service is away. -/
def twoClientsRun : List ServerAction :=
  [.accepted .success, .accepted .success, .completed 0 .dispatch,
    .completed 0 (.handshake .success), .completed 1 .dispatch,
    .completed 1 (.handshake .success),
    .completed 1 (.read .success withoutTokenService getTokenRequest)]

/-- The first client, who has done nothing, is not served any more either. -/
theorem serves_on_until_away :
    ∃ listener, Transition.run (step (mainServer "/www".toList)) initial
        twoClientsRun = some listener ∧
      ¬ ∃ next, step (mainServer "/www".toList) listener (.accepted .success) =
        some next := by
  refine ⟨_, rfl, ?_⟩
  intro going
  refine (serves_on_iff "/www".toList twoClientsRun _ rfl .success).mp going 1
    withoutTokenService getTokenRequest (by simp [twoClientsRun]) ?_
  exact ⟨by decide, rfl, .inl ⟨rfl, _, rfl⟩⟩

/-! ## Each session on its own -/

/-- The completions of one session, in their order. -/
def completionsOf (index : Nat) (actions : List ServerAction) : List Completion :=
  Family.own index (actions.map ServerAction.effect)

/-- How many connections have been accepted. -/
def connections (actions : List ServerAction) : Nat :=
  actions.countP fun action => action.effect.isSpawn

/-- Every connection has its session.  Whatever the other clients do, the session has
come to where it is by its own completions, and it has kept its discipline exactly when
none of these was the last write of its own connection. -/
theorem sessions_run_apart (server : WebServer) (actions : List ServerAction)
    (listener : Listener)
    (ran : Transition.run (step server) initial actions = some listener)
    (index : Nat) (inside : index < connections actions) :
    ∃ session, listener.sessions[index]? = some session ∧
      Transition.run (Session.step server) Session.initial
        (completionsOf index actions) = some session ∧
      (session.Disciplined ↔
        ∀ completion ∈ completionsOf index actions, ¬ completion.LastWrite) := by
  have count : listener.sessions.length = initial.sessions.length +
      connections actions :=
    Family.length_of_run sessions ServerAction.effect
      (fun stepped => (moves_of_step stepped).2.1) ran
  have there : index < listener.sessions.length := by
    rw [count]
    exact Nat.lt_of_lt_of_le inside (Nat.le_add_left _ _)
  obtain ⟨session, found⟩ : ∃ session, listener.sessions[index]? = some session :=
    ⟨_, List.getElem?_eq_getElem there⟩
  have own : Transition.run (Session.step server)
      (initial.sessions[index]?.getD Session.initial)
      (Family.own index (actions.map ServerAction.effect)) = some session :=
    Family.component_run sessions ServerAction.effect
      (fun stepped => (moves_of_step stepped).2.1) ran found
  refine ⟨session, found, own, ?_⟩
  constructor
  · intro disciplined completion member last
    have marked : ¬ QuietAfterClose session.events :=
      Transition.run_marked Session.lastWrite_not_quiet
        (fun stepped broken quiet => broken
          (quietAfterClose_of_start (Session.step_events stepped) quiet))
        own ⟨completion, member, last⟩
    exact marked disciplined.quiet
  · intro notLast
    have steady : session.Steady :=
      Transition.run_invariant Session.steady_step own notLast
        Session.steady_initial
    exact ⟨steady.single, steady.quiet⟩

/-- The first client while the second one writes its last response. -/
def besideLastWriteRun : List ServerAction :=
  [.accepted .success, .accepted (.other []), .accepted .success,
    .completed 0 .dispatch, .completed 1 .dispatch,
    .completed 1 (.handshake .success), .completed 0 (.handshake .success),
    .completed 1 (.read .success withoutTokenService
      { getTokenRequest with target := "/".toList, keepAlive := false }),
    .completed 1 (.write false .success)]

theorem besideLastWriteRun_disciplined :
    ∃ listener session,
      Transition.run (step (mainServer "/www".toList)) initial
        besideLastWriteRun = some listener ∧
      listener.sessions[0]? = some session ∧ session.Disciplined := by
  obtain ⟨session, found, -, disciplined⟩ := sessions_run_apart
    (mainServer "/www".toList) besideLastWriteRun _ rfl 0 (by decide)
  refine ⟨_, session, rfl, found, disciplined.mpr ?_⟩
  intro completion member last
  have calm : completion = .dispatch ∨ completion = .handshake .success := by
    simpa [completionsOf, besideLastWriteRun, Family.own, Family.Effect.of,
      ServerAction.effect, eq_comm] using member
  rcases calm with rfl | rfl
  · exact last
  · exact last

end Listener

end KosCeExtra.Web
