import Mathlib.Algebra.GroupWithZero.Nat
import KosCeExtra.ExecutionManager.Runs

/-!
# How far the client and its applications come

If no call fails the programs come to their end in a bounded number of steps, in
whatever order they take them, and the client ends with success.  The client waits
without a time limit, though: an application that ends before its notification has been
answered leaves the client waiting for good.
-/

namespace KosCeExtra.ExecutionManager

/-- No call fails. -/
def Action.Clean : Action → Prop
  | .clientFails => False
  | .app _ rc => rc = 0
  | _ => True

/-- The application has not connected yet. -/
def AppPhase.Fresh : AppPhase → Prop
  | .naming | .creatingNs | .enumerating | .connecting => True
  | _ => False

/-- Where the application may be that the client waits for. -/
def ClientPhase.awaits : ClientPhase → Option (AppPhase → Prop)
  | .listening _ => some AppPhase.Fresh
  | .accepting _ _ => some (· = .connecting)
  | .receiving _ _ => some fun phase => phase = .connected ∨ phase = .notifying
  | .replying _ _ => some (· = .notifying)
  | _ => none

/-- The client is in `WaitForNotification`, behind the start of the application. -/
def ClientPhase.WaitsFor (round : Round) : ClientPhase → Prop
  | .listening other | .accepting other _ | .receiving other _ |
      .replying other _ => other = round
  | _ => False

/-- The steps that an application takes by itself until it is alive. -/
def AppPhase.ahead : AppPhase → Nat
  | .naming => 5
  | .creatingNs => 4
  | .enumerating => 3
  | .connecting | .connected => 2
  | .notifying | .answered => 1
  | .alive | .exited _ | .stopped => 0

/-- The steps of the client behind the notification of a round. -/
def Round.behind : Round → Nat
  | .first => 13
  | .second => 3

/-- The steps that the client takes until it ends, and those of the applications that
it still starts. -/
def ClientPhase.ahead : ClientPhase → Nat
  | .creatingNs => 26
  | .publishing => 25
  | .creatingManager => 24
  | .gettingController => 23
  | .starting round => round.behind + 9
  | .listening round => round.behind + 3
  | .accepting round _ => round.behind + 2
  | .receiving round _ => round.behind + 1
  | .replying round _ => round.behind
  | .stopping .first => 2
  | .stopping .second => 1
  | .exited _ => 0

private theorem Round.ahead_notified (round : Round) :
    round.notified.ahead < round.behind := by
  cases round with
  | first => decide
  | second => decide

private theorem Round.ahead_done (round : Round) :
    round.done.ahead < (ClientPhase.stopping round).ahead := by
  cases round with
  | first => decide
  | second => decide

namespace System

variable {s t : System} {action : Action}

def ahead (s : System) : Nat :=
  s.client.ahead + (s.apps.map AppPhase.ahead).sum

structure Flawless (s : System) : Prop where
  sound : s.Sound
  running : s.client ≠ .exited .failure
  awaited : ∀ Within, s.client.awaits = some Within →
    Is s.apps s.answered.length Within

theorem flawless_initial : initial.Flawless where
  sound := sound_initial
  running impossible := by cases impossible
  awaited Within impossible := by cases impossible

private theorem sum_set {apps : List AppPhase} {app : Nat} {phase : AppPhase}
    (found : apps[app]? = some phase) (next : AppPhase) :
    ((apps.set app next).map AppPhase.ahead).sum + phase.ahead =
      (apps.map AppPhase.ahead).sum + next.ahead := by
  induction apps generalizing app with
  | nil => cases found
  | cons first apps induction =>
      cases app with
      | zero =>
          cases found
          simp only [List.set_cons_zero, List.map_cons, List.sum_cons]
          omega
      | succ app =>
          have rest := @induction app found
          simp only [List.set_cons_succ, List.map_cons, List.sum_cons]
          omega

private theorem sum_stop (apps : List AppPhase) (app : Nat) :
    ((apps.modify app AppPhase.stop).map AppPhase.ahead).sum ≤
      (apps.map AppPhase.ahead).sum := by
  induction apps generalizing app with
  | nil => simp
  | cons first apps induction =>
      cases app with
      | zero =>
          have none : first.stop.ahead = 0 := by cases first <;> rfl
          simp only [List.modify_zero_cons, List.map_cons, List.sum_cons, none]
          omega
      | succ app =>
          have rest := induction app
          simp only [List.modify_succ_cons, List.map_cons, List.sum_cons]
          omega

/-- A call of an application that does not fail brings it on. -/
theorem ahead_of_afterCall {published : Bool} {phase next : AppPhase}
    (returns : afterCall published 0 phase = some next) :
    next.ahead + 1 = phase.ahead := by
  cases phase with
  | enumerating =>
      simp only [afterCall] at returns
      split at returns
      · cases returns
      · cases returns
        rfl
  | connecting => cases returns
  | notifying => cases returns
  | alive => cases returns
  | exited rc => cases returns
  | stopped => cases returns
  | _ =>
      cases returns
      rfl

private theorem fresh_of_afterCall {published : Bool} {phase next : AppPhase}
    (returns : afterCall published 0 phase = some next) (fresh : phase.Fresh) :
    next.Fresh := by
  cases phase with
  | enumerating =>
      simp only [afterCall] at returns
      split at returns
      · cases returns
      · cases returns
        trivial
  | connecting => cases returns
  | naming =>
      cases returns
      trivial
  | creatingNs =>
      cases returns
      trivial
  | _ => exact fresh.elim

private theorem awaits_of_afterCall {client : ClientPhase} {published : Bool}
    {phase next : AppPhase} {Within : AppPhase → Prop}
    (awaits : client.awaits = some Within)
    (returns : afterCall published 0 phase = some next) (within : Within phase) :
    Within next := by
  cases client with
  | listening round =>
      cases awaits
      exact fresh_of_afterCall returns within
  | accepting round app =>
      cases awaits
      obtain rfl : phase = .connecting := within
      cases returns
  | receiving round app =>
      cases awaits
      rcases within with rfl | rfl
      · cases returns
        exact .inr rfl
      · cases returns
  | replying round app =>
      cases awaits
      obtain rfl : phase = .notifying := within
      cases returns
  | _ => cases awaits

theorem flawless_step (clean : action.Clean) (flawless : s.Flawless)
    (stepped : s.step action = some t) : t.Flawless := by
  have sound := sound_step stepped flawless.sound
  have before := flawless.sound
  have awaited := flawless.awaited
  cases moves_of_step stepped with
  | createNs current
  | publish current
  | createManager current
  | getController current =>
      exact ⟨sound, by simp, fun _ impossible => by cases impossible⟩
  | @start round current =>
      have next : s.answered.length = s.apps.length := by
        cases round with
        | first =>
            obtain ⟨count, notified⟩ := before.books 0 [] (by rw [current]; rfl)
            rw [count, notified]
            rfl
        | second =>
            obtain ⟨count, notified⟩ := before.books 1 [0] (by rw [current]; rfl)
            rw [count, notified]
            rfl
      refine ⟨sound, by simp, ?_⟩
      intro Within same
      cases same
      refine ⟨.naming, ?_, trivial⟩
      simp [next]
  | @accept round app current connecting =>
      have served := before.serves app (by rw [current]; rfl)
      have inside := (List.getElem?_eq_some_iff.mp connecting).1
      refine ⟨sound, by simp, ?_⟩
      intro Within same
      cases same
      refine ⟨.connected, ?_, .inl rfl⟩
      rw [← served]
      exact List.getElem?_set_self inside
  | @receive round app current notifying =>
      have served := before.serves app (by rw [current]; rfl)
      refine ⟨sound, by simp, ?_⟩
      intro Within same
      cases same
      exact ⟨.notifying, served ▸ notifying, rfl⟩
  | @reply round app current notifying =>
      cases round with
      | first => exact ⟨sound, nofun, fun Within impossible => by cases impossible⟩
      | second => exact ⟨sound, nofun, fun Within impossible => by cases impossible⟩
  | @stop round app current known =>
      cases round with
      | first => exact ⟨sound, nofun, fun Within impossible => by cases impossible⟩
      | second => exact ⟨sound, nofun, fun Within impossible => by cases impossible⟩
  | fail running => exact clean.elim
  | @listen round app current connecting =>
      have served := before.waits current connecting
      refine ⟨sound, by simp, ?_⟩
      intro Within same
      cases same
      exact ⟨.connecting, served ▸ connecting, rfl⟩
  | @app app rc phase next current returns =>
      obtain rfl : rc = 0 := clean
      refine ⟨sound, flawless.running, ?_⟩
      intro Within same
      apply (awaited Within same).set
      intro mine
      obtain ⟨other, found, within⟩ := awaited Within same
      rw [mine, current] at found
      cases found
      exact awaits_of_afterCall same returns within

/-- Whatever succeeds, less is ahead then. -/
theorem ahead_step (clean : action.Clean) (stepped : s.step action = some t) :
    t.ahead < s.ahead := by
  cases moves_of_step stepped with
  | createNs current
  | publish current
  | createManager current
  | getController current =>
      simp only [ahead, current, ClientPhase.ahead, Round.behind]
      omega
  | @start round current =>
      simp [ahead, current, ClientPhase.ahead, AppPhase.ahead]
      omega
  | @accept round app current connecting =>
      have sums := sum_set connecting .connected
      simp only [ahead, current, ClientPhase.ahead, AppPhase.ahead] at sums ⊢
      omega
  | @receive round app current notifying =>
      simp only [ahead, current, ClientPhase.ahead]
      omega
  | @reply round app current notifying =>
      have sums := sum_set notifying .answered
      have less := round.ahead_notified
      have here : s.client.ahead = round.behind := by
        rw [current]
        rfl
      simp only [ahead, AppPhase.ahead, here] at sums ⊢
      omega
  | @stop round app current known =>
      have sums := sum_stop s.apps app
      have less := round.ahead_done
      simp only [ahead, current]
      omega
  | fail running => exact clean.elim
  | @listen round app current connecting =>
      simp only [ahead, current, ClientPhase.ahead]
      omega
  | @app app rc phase next current returns =>
      obtain rfl : rc = 0 := clean
      have sums := sum_set current next
      have brought := ahead_of_afterCall returns
      simp only [ahead]
      omega

/-- The first call of an application that has not connected yet can succeed. -/
theorem fresh_goes_on {app : Nat} {phase : AppPhase}
    (found : s.apps[app]? = some phase) (fresh : phase.Fresh)
    (waits : phase ≠ .connecting) (isPublished : s.published = true) :
    ∃ t, s.step (.app app 0) = some t := by
  simp only [step, found]
  cases phase with
  | naming => exact ⟨_, rfl⟩
  | creatingNs => exact ⟨_, rfl⟩
  | enumerating =>
      rw [isPublished]
      exact ⟨_, rfl⟩
  | connecting => exact absurd rfl waits
  | _ => exact fresh.elim

/-- Where nothing has failed, a call can return without a failure. -/
theorem Flawless.goes_on (flawless : s.Flawless)
    (running : ∀ status, s.client ≠ .exited status) :
    ∃ action t, action.Clean ∧ s.step action = some t := by
  have sound := flawless.sound
  have awaited := flawless.awaited
  cases current : s.client with
  | creatingNs
  | publishing
  | creatingManager
  | gettingController
  | starting =>
      refine ⟨.client, ?_⟩
      simp only [step, clientStep, current]
      exact ⟨_, trivial, rfl⟩
  | listening round =>
      obtain ⟨phase, found, fresh⟩ := awaited _ (by rw [current]; rfl)
      have started : s.apps ≠ [] := by
        intro empty
        rw [empty] at found
        cases found
      have isPublished := sound.published (.inr started)
      by_cases connecting : phase = .connecting
      · rw [connecting] at found
        refine ⟨.listen s.answered.length, ?_⟩
        simp only [step, current, if_pos found]
        exact ⟨_, trivial, rfl⟩
      · obtain ⟨t, stepped⟩ := fresh_goes_on found fresh connecting isPublished
        exact ⟨.app s.answered.length 0, t, rfl, stepped⟩
  | accepting round app =>
      obtain ⟨phase, found, rfl⟩ := awaited _ (by rw [current]; rfl)
      have served := sound.serves app (by rw [current]; rfl)
      refine ⟨.client, ?_⟩
      simp only [step, clientStep, current, served, if_pos found]
      exact ⟨_, trivial, rfl⟩
  | receiving round app =>
      obtain ⟨phase, found, connected | notifying⟩ :=
        awaited _ (by rw [current]; rfl)
      · refine ⟨.app s.answered.length 0, ?_⟩
        simp only [step, found, connected]
        exact ⟨_, rfl, rfl⟩
      · have served := sound.serves app (by rw [current]; rfl)
        rw [notifying] at found
        refine ⟨.client, ?_⟩
        simp only [step, clientStep, current, served, if_pos found]
        exact ⟨_, trivial, rfl⟩
  | replying round app =>
      obtain ⟨phase, found, rfl⟩ := awaited _ (by rw [current]; rfl)
      have served := sound.serves app (by rw [current]; rfl)
      refine ⟨.client, ?_⟩
      simp only [step, clientStep, current, served, if_pos found]
      exact ⟨_, trivial, rfl⟩
  | stopping round =>
      obtain ⟨two, -⟩ := sound.books 2 [0, 1] (by rw [current]; rfl)
      have known := sound.numbers round (by cases round <;> rw [two] <;> decide)
      refine ⟨.client, ?_⟩
      simp only [step, clientStep, current, known]
      exact ⟨_, trivial, rfl⟩
  | exited status => exact absurd current (running status)

/-- If no call fails, the programs take at most 26 steps in whatever order, and they
can take another one until the client has ended with success.  A step is the return of a
call between them, so the turns of a living application's loop are none. -/
theorem flawless_runs_succeed (actions : List Action) (s : System)
    (ran : Transition.run step initial actions = some s)
    (clean : ∀ action ∈ actions, action.Clean) :
    actions.length ≤ 26 ∧
      (s.client = .exited .success ∨
        ∃ action t, action.Clean ∧ s.step action = some t) := by
  obtain ⟨flawless, short⟩ := Transition.run_descends
    (fun clean flawless stepped =>
      ⟨flawless_step clean flawless stepped, ahead_step clean stepped⟩) ran clean
    flawless_initial
  have whole : initial.ahead = 26 := rfl
  refine ⟨by omega, ?_⟩
  by_cases success : s.client = .exited .success
  · exact .inl success
  · right
    apply flawless.goes_on
    intro status ended
    cases status with
    | success => exact success ended
    | failure => exact flawless.running ended

theorem smooth_run_succeeds :
    smooth.length ≤ 26 ∧ ∀ action ∈ smooth, action.Clean := by
  have clean : ∀ action ∈ smooth, action.Clean := by
    simp [smooth, rounds, Action.Clean]
  exact ⟨(flawless_runs_succeed smooth _ rfl clean).1, clean⟩

/-! ## A client that waits for good -/

/-- An application that was started and not answered is the one that a running client
waits for. -/
theorem Sound.waitsFor {app : Nat} {phase : AppPhase} (sound : s.Sound)
    (running : s.client ≠ .exited .failure) (started : s.apps[app]? = some phase)
    (unanswered : app ∉ s.answered) :
    ∃ round, app = round.index ∧ app = s.answered.length ∧
      s.client.WaitsFor round := by
  have inside := (List.getElem?_eq_some_iff.mp started).1
  have books := sound.books
  cases current : s.client with
  | creatingNs
  | publishing
  | creatingManager
  | gettingController =>
      obtain ⟨count, -⟩ := books 0 [] (by rw [current]; rfl)
      omega
  | starting round =>
      cases round with
      | first =>
          obtain ⟨count, -⟩ := books 0 [] (by rw [current]; rfl)
          omega
      | second =>
          obtain ⟨count, notified⟩ := books 1 [0] (by rw [current]; rfl)
          rw [notified, List.mem_singleton] at unanswered
          omega
  | listening round
  | accepting round _
  | receiving round _
  | replying round _ =>
      refine ⟨round, ?_⟩
      cases round with
      | first =>
          obtain ⟨count, notified⟩ := books 1 [] (by rw [current]; rfl)
          obtain rfl : app = 0 := by omega
          rw [notified]
          exact ⟨rfl, rfl, rfl⟩
      | second =>
          obtain ⟨count, notified⟩ := books 2 [0] (by rw [current]; rfl)
          rw [notified, List.mem_singleton] at unanswered
          obtain rfl : app = 1 := by omega
          rw [notified]
          exact ⟨rfl, rfl, rfl⟩
  | stopping round =>
      obtain ⟨count, notified⟩ := books 2 [0, 1] (by rw [current]; rfl)
      rw [notified, List.mem_pair] at unanswered
      omega
  | exited status =>
      cases status with
      | success =>
          obtain ⟨count, notified⟩ := books 2 [0, 1] (by rw [current]; rfl)
          rw [notified, List.mem_pair] at unanswered
          omega
      | failure => exact absurd current running

/-- The client is at a call for an application that has ended. -/
structure Abandoned (app : Nat) (phase : ClientPhase) (s : System) : Prop where
  sound : s.Sound
  current : s.client = phase
  running : phase ≠ .exited .failure
  ended : ∃ rc, s.apps[app]? = some (.exited rc)
  unanswered : app ∉ s.answered

theorem abandoned_step {app : Nat} {phase : ClientPhase}
    (unfailing : action ≠ .clientFails) (stepped : s.step action = some t)
    (abandoned : Abandoned app phase s) : Abandoned app phase t := by
  have soundNext := sound_step stepped abandoned.sound
  obtain ⟨rc, ended⟩ := abandoned.ended
  obtain ⟨round, -, next, waits⟩ := abandoned.sound.waitsFor
    (abandoned.current ▸ abandoned.running) ended abandoned.unanswered
  -- the client serves nobody else, and this one makes no call any more
  have idle : ∀ other still, s.client.Serves other →
      s.apps[other]? = some still → still = .exited rc := by
    intro other still serves found
    rw [abandoned.sound.serves other serves, ← next, ended] at found
    exact (Option.some.inj found).symm
  cases moves_of_step stepped with
  | fail running => exact absurd rfl unfailing
  | @listen other caller listening connecting =>
      rw [abandoned.sound.waits listening connecting, ← next, ended] at connecting
      cases connecting
  | @accept other caller accepting connecting =>
      cases idle caller _ (by rw [accepting]; rfl) connecting
  | @receive other caller receiving notifying =>
      cases idle caller _ (by rw [receiving]; rfl) notifying
  | @reply other caller replying notifying =>
      cases idle caller _ (by rw [replying]; rfl) notifying
  | @app other code before later found returns =>
      refine ⟨soundNext, abandoned.current, abandoned.running, ⟨rc, ?_⟩,
        abandoned.unanswered⟩
      by_cases mine : other = app
      · rw [mine, ended] at found
        cases found
        cases returns
      · simp only [List.getElem?_set_ne mine, ended]
  | createNs current
  | publish current
  | createManager current
  | getController current
  | start current
  | stop current _ =>
      rw [current] at waits
      exact waits.elim

/-- An application that ends before its notification has been answered leaves a running
client waiting at the call that it is at, whatever happens then, as long as this call
does not fail. -/
theorem waits_for_good (actions later : List Action) (s t : System) (app : Nat)
    (rc : Int) (ran : Transition.run step initial actions = some s)
    (running : s.client ≠ .exited .failure)
    (ended : s.apps[app]? = some (.exited rc)) (unanswered : app ∉ s.answered)
    (went : Transition.run step s later = some t)
    (unfailing : ∀ action ∈ later, action ≠ .clientFails) :
    t.client = s.client ∧ ∃ round, app = round.index ∧ s.client.WaitsFor round := by
  have abandoned : Abandoned app s.client s :=
    ⟨sound_run ran, rfl, running, ⟨rc, ended⟩, unanswered⟩
  have still : Abandoned app s.client t :=
    Transition.run_invariant abandoned_step went unfailing abandoned
  obtain ⟨round, same, -, waits⟩ :=
    (sound_run ran).waitsFor running ended unanswered
  exact ⟨still.current, round, same, waits⟩

/-- The second application connects, and ends when its connection has been accepted. -/
def cutShort : List Action :=
  [.client, .client, .client, .client] ++ rounds 0 ++
    [.client, .app 1 0, .app 1 0, .app 1 0, .listen 1, .client, .app 1 5]

theorem waits_for_good_when_cutShort :
    ∃ s t, Transition.run step initial cutShort = some s ∧
      Transition.run step s [.app 0 0] = some t ∧
      t.client = .receiving .second 1 :=
  ⟨_, _, rfl, rfl, (waits_for_good cutShort [.app 0 0] _ _ 1 5 rfl (by decide) rfl
    (by decide) rfl (by simp)).1⟩

end System

end KosCeExtra.ExecutionManager
