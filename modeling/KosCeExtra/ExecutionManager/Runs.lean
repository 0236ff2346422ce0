import Mathlib.Data.List.Infix
import KosCeExtra.ExecutionManager.System

/-!
# Runs of the client and its applications

The client answers one notification for each application that it starts, in the order
of the starts, although nothing in a connection tells it which application it comes
from: an application that has sent its notification never connects again, and only one
more has been started.  So no application is stopped before its own notification was
answered, and a client that ends with success has left nothing running.
-/

namespace KosCeExtra.ExecutionManager

/-- How many applications were started before. -/
def Round.index : Round → Nat
  | .first => 0
  | .second => 1

/-- How many applications the client has started at a call, and whose notifications
it has answered; nothing is known behind a failure. -/
def ClientPhase.books : ClientPhase → Option (Nat × List Nat)
  | .creatingNs | .publishing | .creatingManager | .gettingController =>
      some (0, [])
  | .starting .first => some (0, [])
  | .listening .first | .accepting .first _ | .receiving .first _ |
      .replying .first _ => some (1, [])
  | .starting .second => some (1, [0])
  | .listening .second | .accepting .second _ | .receiving .second _ |
      .replying .second _ => some (2, [0])
  | .stopping _ => some (2, [0, 1])
  | .exited .success => some (2, [0, 1])
  | .exited .failure => none

/-- The connection of the application is in the hands of the client. -/
def ClientPhase.Serves (app : Nat) : ClientPhase → Prop
  | .accepting _ other | .receiving _ other | .replying _ other => other = app
  | _ => False

/-- The endpoint must be published by now. -/
def ClientPhase.Ready : ClientPhase → Prop
  | .creatingNs | .publishing | .exited .failure => False
  | _ => True

/-- The client has had the application stopped. -/
def ClientPhase.HasStopped (app : Nat) : ClientPhase → Prop
  | .stopping .second => app = 0
  | .exited .success => app = 0 ∨ app = 1
  | _ => False

/-- The notification of the application was answered. -/
def AppPhase.Past : AppPhase → Prop
  | .answered | .alive | .exited _ | .stopped => True
  | _ => False

/-- The application does not run any more. -/
def AppPhase.Gone : AppPhase → Prop
  | .exited _ | .stopped => True
  | _ => False

theorem AppPhase.Gone.past {phase : AppPhase} (gone : phase.Gone) :
    phase.Past := by
  cases phase <;> trivial

theorem AppPhase.gone_stop (phase : AppPhase) : phase.stop.Gone := by
  cases phase <;> trivial

namespace System

variable {s t : System} {action : Action}

/-- Everything that a step can do. -/
inductive Moves (s : System) : Action → System → Prop where
  | createNs (current : s.client = .creatingNs) :
      Moves s .client { s with client := .publishing }
  | publish (current : s.client = .publishing) :
      Moves s .client { s with client := .creatingManager, published := true }
  | createManager (current : s.client = .creatingManager) :
      Moves s .client { s with client := .gettingController }
  | getController (current : s.client = .gettingController) :
      Moves s .client { s with client := .starting .first }
  | start {round : Round} (current : s.client = .starting round) :
      Moves s .client { s with
        client := .listening round
        apps := s.apps ++ [.naming]
        appId := Function.update s.appId round (some s.apps.length) }
  | accept {round : Round} {app : Nat} (current : s.client = .accepting round app)
      (connecting : s.apps[app]? = some .connecting) :
      Moves s .client { s with
        client := .receiving round app
        apps := s.apps.set app .connected }
  | receive {round : Round} {app : Nat}
      (current : s.client = .receiving round app)
      (notifying : s.apps[app]? = some .notifying) :
      Moves s .client { s with client := .replying round app }
  | reply {round : Round} {app : Nat} (current : s.client = .replying round app)
      (notifying : s.apps[app]? = some .notifying) :
      Moves s .client { s with
        client := round.notified
        apps := s.apps.set app .answered
        answered := s.answered ++ [app] }
  | stop {round : Round} {app : Nat} (current : s.client = .stopping round)
      (known : s.appId round = some app) :
      Moves s .client { s with
        client := round.done
        apps := s.apps.modify app AppPhase.stop }
  | fail (running : ∀ status, s.client ≠ .exited status) :
      Moves s .clientFails { s with client := .exited .failure }
  | listen {round : Round} {app : Nat} (current : s.client = .listening round)
      (connecting : s.apps[app]? = some .connecting) :
      Moves s (.listen app) { s with client := .accepting round app }
  | app {app : Nat} {rc : Int} {phase next : AppPhase}
      (current : s.apps[app]? = some phase)
      (returns : afterCall s.published rc phase = some next) :
      Moves s (.app app rc) { s with apps := s.apps.set app next }

private theorem moves_of_clientStep (stepped : s.clientStep = some t) :
    Moves s .client t := by
  cases current : s.client with
  | creatingNs =>
      rw [clientStep, current] at stepped
      cases stepped
      exact .createNs current
  | publishing =>
      rw [clientStep, current] at stepped
      cases stepped
      exact .publish current
  | creatingManager =>
      rw [clientStep, current] at stepped
      cases stepped
      exact .createManager current
  | gettingController =>
      rw [clientStep, current] at stepped
      cases stepped
      exact .getController current
  | starting round =>
      rw [clientStep, current] at stepped
      cases stepped
      exact .start current
  | accepting round app =>
      rw [clientStep, current] at stepped
      obtain ⟨connecting, same⟩ := Option.ite_none_right_eq_some.mp stepped
      cases same
      exact .accept current connecting
  | receiving round app =>
      rw [clientStep, current] at stepped
      obtain ⟨notifying, same⟩ := Option.ite_none_right_eq_some.mp stepped
      cases same
      exact .receive current notifying
  | replying round app =>
      rw [clientStep, current] at stepped
      obtain ⟨notifying, same⟩ := Option.ite_none_right_eq_some.mp stepped
      cases same
      exact .reply current notifying
  | stopping round =>
      cases known : s.appId round with
      | none => simp only [clientStep, current, known, reduceCtorEq] at stepped
      | some app =>
          simp only [clientStep, current, known] at stepped
          cases stepped
          exact .stop current known
  | listening round =>
      rw [clientStep, current] at stepped
      cases stepped
  | exited status =>
      rw [clientStep, current] at stepped
      cases stepped

private theorem moves_of_fails (stepped : s.step .clientFails = some t) :
    Moves s .clientFails t := by
  rw [step] at stepped
  split at stepped
  next => cases stepped
  next running =>
    cases stepped
    exact .fail running

private theorem moves_of_listen {app : Nat} (stepped : s.step (.listen app) = some t) :
    Moves s (.listen app) t := by
  cases current : s.client with
  | listening round =>
      rw [step, current] at stepped
      obtain ⟨connecting, same⟩ := Option.ite_none_right_eq_some.mp stepped
      cases same
      exact .listen current connecting
  | _ =>
      rw [step, current] at stepped
      cases stepped

private theorem moves_of_app {app : Nat} {rc : Int}
    (stepped : s.step (.app app rc) = some t) : Moves s (.app app rc) t := by
  cases current : s.apps[app]? with
  | none =>
      rw [step, current] at stepped
      cases stepped
  | some phase =>
      rw [step, current] at stepped
      obtain ⟨next, returns, same⟩ := Option.map_eq_some_iff.mp stepped
      cases same
      exact .app current returns

theorem moves_of_step (stepped : s.step action = some t) :
    Moves s action t := by
  cases action with
  | client => exact moves_of_clientStep stepped
  | clientFails => exact moves_of_fails stepped
  | listen app => exact moves_of_listen stepped
  | app app rc => exact moves_of_app stepped

/-! ## What holds in every run -/

/-- An application is in one of the phases. -/
def Is (apps : List AppPhase) (app : Nat) (Within : AppPhase → Prop) : Prop :=
  ∃ phase, apps[app]? = some phase ∧ Within phase

structure Sound (s : System) : Prop where
  books : ∀ count notified, s.client.books = some (count, notified) →
    s.apps.length = count ∧ s.answered = notified
  answered : s.answered <+: [0, 1]
  numbers : ∀ round, round.index < s.apps.length →
    s.appId round = some round.index
  serves : ∀ app, s.client.Serves app → app = s.answered.length
  past : ∀ app ∈ s.answered, Is s.apps app AppPhase.Past
  published : s.client.Ready ∨ s.apps ≠ [] → s.published = true
  stopped : ∀ app, s.client.HasStopped app → Is s.apps app AppPhase.Gone

theorem sound_initial : initial.Sound where
  books count notified same := by
    cases same
    exact ⟨rfl, rfl⟩
  answered := List.nil_prefix
  numbers round impossible := absurd impossible (Nat.not_lt_zero _)
  serves app impossible := impossible.elim
  past app impossible := by cases impossible
  published impossible := by
    rcases impossible with impossible | impossible
    · exact impossible.elim
    · exact absurd rfl impossible
  stopped app impossible := impossible.elim

theorem Is.set {apps : List AppPhase} {app other : Nat} {next : AppPhase}
    {Within : AppPhase → Prop} (is : Is apps app Within)
    (kept : app = other → Within next) : Is (apps.set other next) app Within := by
  obtain ⟨phase, found, within⟩ := is
  have inside := (List.getElem?_eq_some_iff.mp found).1
  by_cases same : other = app
  · refine ⟨next, ?_, kept same.symm⟩
    rw [same, List.getElem?_set_self inside]
  · refine ⟨phase, ?_, within⟩
    rw [List.getElem?_set_ne same]
    exact found

theorem Is.append {apps : List AppPhase} {app : Nat} {Within : AppPhase → Prop}
    (is : Is apps app Within) (more : List AppPhase) :
    Is (apps ++ more) app Within := by
  obtain ⟨phase, found, within⟩ := is
  have inside := (List.getElem?_eq_some_iff.mp found).1
  refine ⟨phase, ?_, within⟩
  rw [List.getElem?_append_left inside]
  exact found

theorem Is.stop {apps : List AppPhase} {app : Nat} {Within : AppPhase → Prop}
    (is : Is apps app Within) (other : Nat)
    (kept : ∀ phase : AppPhase, Within phase → Within phase.stop) :
    Is (apps.modify other AppPhase.stop) app Within := by
  obtain ⟨phase, found, within⟩ := is
  rw [Is]
  simp only [List.getElem?_modify, found]
  split
  · exact ⟨_, rfl, kept phase within⟩
  · exact ⟨_, rfl, within⟩

private theorem is_stop_self {apps : List AppPhase} {app : Nat}
    (inside : app < apps.length) :
    Is (apps.modify app AppPhase.stop) app AppPhase.Gone := by
  refine ⟨apps[app].stop, ?_, AppPhase.gone_stop _⟩
  rw [List.getElem?_modify, List.getElem?_eq_getElem inside]
  simp

/-- The client goes to its next call, and no application moves. -/
theorem Sound.goTo {client : ClientPhase} {published : Bool} (sound : s.Sound)
    (books : ∀ count notified, client.books = some (count, notified) →
      s.client.books = some (count, notified))
    (serves : ∀ app, client.Serves app → app = s.answered.length)
    (ready : client.Ready → published = true)
    (keeps : s.published = true → published = true)
    (stopped : ∀ app, client.HasStopped app → Is s.apps app AppPhase.Gone) :
    Sound { s with client := client, published := published } where
  books count notified same := sound.books count notified (books _ _ same)
  answered := sound.answered
  numbers := sound.numbers
  serves := serves
  past := sound.past
  published early := by
    rcases early with isReady | started
    · exact ready isReady
    · exact keeps (sound.published (.inr started))
  stopped := stopped

private theorem past_of_afterCall {published : Bool} {rc : Int} {phase next : AppPhase}
    (returns : afterCall published rc phase = some next) (past : phase.Past) :
    next.Past := by
  cases phase with
  | answered =>
      cases returns
      unfold AppPhase.proceed
      split
      · trivial
      · trivial
  | alive => cases returns
  | exited rc => cases returns
  | stopped => cases returns
  | _ => exact past.elim

private theorem not_gone_of_afterCall {published : Bool} {rc : Int}
    {phase next : AppPhase}
    (returns : afterCall published rc phase = some next) : ¬ phase.Gone := by
  intro gone
  cases phase with
  | exited rc => cases returns
  | stopped => cases returns
  | _ => exact gone

/-- A waiting application is the one that was started last. -/
theorem Sound.waits {round : Round} {app : Nat} (sound : s.Sound)
    (current : s.client = .listening round)
    (connecting : s.apps[app]? = some .connecting) :
    app = s.answered.length := by
  have inside := (List.getElem?_eq_some_iff.mp connecting).1
  have fresh : app ∉ s.answered := by
    intro member
    obtain ⟨phase, found, past⟩ := sound.past app member
    cases connecting.symm.trans found
    exact past
  cases round with
  | first =>
      obtain ⟨count, notified⟩ := sound.books 1 [] (by rw [current]; rfl)
      rw [notified, List.length_nil]
      omega
  | second =>
      obtain ⟨count, notified⟩ := sound.books 2 [0] (by rw [current]; rfl)
      rw [notified] at fresh ⊢
      rw [List.mem_singleton] at fresh
      rw [List.length_singleton]
      omega

theorem Sound.start {round : Round} (sound : s.Sound)
    (current : s.client = .starting round) :
    Sound { s with
      client := .listening round
      apps := s.apps ++ [.naming]
      appId := Function.update s.appId round (some s.apps.length) } := by
  have isReady : s.published = true :=
    sound.published (.inl (by rw [current]; trivial))
  have counted : s.apps.length = round.index := by
    cases round with
    | first => exact (sound.books 0 [] (by rw [current]; rfl)).1
    | second => exact (sound.books 1 [0] (by rw [current]; rfl)).1
  constructor
  · intro count notified same
    rw [List.length_append, List.length_singleton]
    cases round with
    | first =>
        cases same
        obtain ⟨before, none⟩ := sound.books 0 [] (by rw [current]; rfl)
        exact ⟨congrArg Nat.succ before, none⟩
    | second =>
        cases same
        obtain ⟨before, one⟩ := sound.books 1 [0] (by rw [current]; rfl)
        exact ⟨congrArg Nat.succ before, one⟩
  · exact sound.answered
  · intro other inside
    rw [List.length_append, List.length_singleton] at inside
    by_cases same : other = round
    · subst same
      simp only [Function.update_self, counted]
    · simp only [Function.update_of_ne same]
      apply sound.numbers
      cases other with
      | first =>
          cases round with
          | first => exact absurd rfl same
          | second => exact counted ▸ Nat.zero_lt_one
      | second =>
          cases round with
          | first =>
              rw [counted] at inside
              exact absurd inside (Nat.lt_irrefl 1)
          | second => exact absurd rfl same
  · exact fun _ => False.elim
  · intro app member
    exact (sound.past app member).append _
  · exact fun _ => isReady
  · exact fun _ => False.elim

/-- An application moves on that is not past its notification before, or is past it
behind, and the client goes to its next call. -/
theorem Sound.setApp {client : ClientPhase} {app : Nat} {phase next : AppPhase}
    (sound : s.Sound) (found : s.apps[app]? = some phase)
    (books : client.books = s.client.books)
    (serves : ∀ app, client.Serves app → s.client.Serves app)
    (ready : client.Ready → s.client.Ready)
    (stopped : ∀ app, client.HasStopped app → s.client.HasStopped app)
    (past : phase.Past → next.Past) (notGone : ¬ phase.Gone) :
    Sound { s with client := client, apps := s.apps.set app next } where
  books count notified same := by
    rw [List.length_set]
    exact sound.books count notified (books ▸ same)
  answered := sound.answered
  numbers round inside := by
    rw [List.length_set] at inside
    exact sound.numbers round inside
  serves other served := sound.serves other (serves other served)
  past other member := by
    apply (sound.past other member).set
    intro same
    obtain ⟨current, known, isPast⟩ := sound.past other member
    rw [same, found] at known
    cases known
    exact past isPast
  published early := by
    apply sound.published
    rcases early with isReady | started
    · exact .inl (ready isReady)
    · refine .inr fun empty => started ?_
      simp only [empty, List.set_nil]
  stopped other isStopped := by
    apply (sound.stopped other (stopped other isStopped)).set
    intro same
    obtain ⟨current, known, gone⟩ := sound.stopped other (stopped other isStopped)
    rw [same, found] at known
    cases known
    exact absurd gone notGone

theorem Sound.reply {round : Round} {app : Nat} (sound : s.Sound)
    (current : s.client = .replying round app)
    (notifying : s.apps[app]? = some .notifying) :
    Sound { s with
      client := round.notified
      apps := s.apps.set app .answered
      answered := s.answered ++ [app] } := by
  have isReady : s.published = true :=
    sound.published (.inl (by rw [current]; trivial))
  have next : app = s.answered.length :=
    sound.serves app (by rw [current]; exact rfl)
  have inside := (List.getElem?_eq_some_iff.mp notifying).1
  constructor
  · intro count notified same
    rw [List.length_set]
    cases round with
    | first =>
        cases same
        obtain ⟨before, none⟩ := sound.books 1 [] (by rw [current]; rfl)
        rw [none] at next ⊢
        exact ⟨before, by rw [next]; rfl⟩
    | second =>
        cases same
        obtain ⟨before, one⟩ := sound.books 2 [0] (by rw [current]; rfl)
        rw [one] at next ⊢
        exact ⟨before, by rw [next]; rfl⟩
  · cases round with
    | first =>
        obtain ⟨-, none⟩ := sound.books 1 [] (by rw [current]; rfl)
        rw [none] at next ⊢
        rw [next]
        exact ⟨[1], rfl⟩
    | second =>
        obtain ⟨-, one⟩ := sound.books 2 [0] (by rw [current]; rfl)
        rw [one] at next ⊢
        rw [next]
        exact List.prefix_rfl
  · intro other started
    rw [List.length_set] at started
    exact sound.numbers other started
  · cases round with
    | first => exact fun _ => False.elim
    | second => exact fun _ => False.elim
  · intro other member
    rcases List.mem_append.mp member with before | last
    · apply (sound.past other before).set
      intro _
      trivial
    · rw [List.mem_singleton.mp last]
      exact ⟨.answered, List.getElem?_set_self inside, trivial⟩
  · exact fun _ => isReady
  · cases round with
    | first => exact fun _ => False.elim
    | second => exact fun _ => False.elim

theorem Sound.stop {round : Round} {app : Nat} (sound : s.Sound)
    (current : s.client = .stopping round)
    (known : s.appId round = some app) :
    Sound { s with
      client := round.done
      apps := s.apps.modify app AppPhase.stop } := by
  have isReady : s.published = true :=
    sound.published (.inl (by rw [current]; trivial))
  obtain ⟨two, both⟩ := sound.books 2 [0, 1] (by rw [current]; rfl)
  have number : app = round.index := by
    have same := sound.numbers round (by cases round <;> rw [two] <;> decide)
    rw [known] at same
    exact Option.some.inj same
  constructor
  · intro count notified same
    rw [List.length_modify]
    cases round with
    | first =>
        cases same
        exact ⟨two, both⟩
    | second =>
        cases same
        exact ⟨two, both⟩
  · exact sound.answered
  · intro other inside
    rw [List.length_modify] at inside
    exact sound.numbers other inside
  · cases round with
    | first => exact fun _ => False.elim
    | second => exact fun _ => False.elim
  · intro other member
    apply (sound.past other member).stop
    intro phase _
    exact (AppPhase.gone_stop phase).past
  · exact fun _ => isReady
  · have gone : Is (s.apps.modify app AppPhase.stop) app AppPhase.Gone := by
      apply is_stop_self
      rw [two, number]
      cases round with
      | first => decide
      | second => decide
    intro other isStopped
    cases round with
    | first =>
        rw [show other = app from isStopped.trans number.symm]
        exact gone
    | second =>
        rcases isStopped with zero | one
        · rw [zero]
          apply (sound.stopped 0 (by rw [current]; exact rfl)).stop
          intro phase _
          exact AppPhase.gone_stop phase
        · rw [show other = app from one.trans number.symm]
          exact gone

theorem sound_step (stepped : s.step action = some t) (sound : s.Sound) :
    t.Sound := by
  cases moves_of_step stepped with
  | createNs current =>
      exact sound.goTo (by rw [current]; exact fun _ _ same => same)
        (fun _ => False.elim) False.elim id (fun _ => False.elim)
  | publish current =>
      exact sound.goTo (by rw [current]; exact fun _ _ same => same)
        (fun _ => False.elim) (fun _ => rfl) (fun _ => rfl)
        (fun _ => False.elim)
  | createManager current =>
      have isReady := sound.published (.inl (by rw [current]; trivial))
      exact sound.goTo (by rw [current]; exact fun _ _ same => same)
        (fun _ => False.elim) (fun _ => isReady) id (fun _ => False.elim)
  | getController current =>
      have isReady := sound.published (.inl (by rw [current]; trivial))
      exact sound.goTo (by rw [current]; exact fun _ _ same => same)
        (fun _ => False.elim) (fun _ => isReady) id (fun _ => False.elim)
  | start current => exact sound.start current
  | @accept round app current connecting =>
      apply sound.setApp connecting
      · rw [current]
        cases round with
        | first => rfl
        | second => rfl
      · rw [current]
        exact fun _ => id
      · rw [current]
        exact fun _ => trivial
      · exact fun _ => False.elim
      · exact id
      · exact id
  | @receive round app current notifying =>
      have isReady := sound.published (.inl (by rw [current]; trivial))
      refine sound.goTo ?_ ?_ (fun _ => isReady) id (fun _ => False.elim)
      · rw [current]
        cases round with
        | first => exact fun _ _ same => same
        | second => exact fun _ _ same => same
      · intro other served
        exact sound.serves other (by rw [current]; exact served)
  | reply current notifying => exact sound.reply current notifying
  | stop current known => exact sound.stop current known
  | fail running =>
      exact sound.goTo (fun _ _ impossible => by cases impossible)
        (fun _ => False.elim) False.elim id (fun _ => False.elim)
  | @listen round app current connecting =>
      have isReady := sound.published (.inl (by rw [current]; trivial))
      refine sound.goTo ?_ ?_ (fun _ => isReady) id (fun _ => False.elim)
      · rw [current]
        cases round with
        | first => exact fun _ _ same => same
        | second => exact fun _ _ same => same
      · intro other served
        rw [← show app = other from served]
        exact sound.waits current connecting
  | app current returns =>
      exact sound.setApp current rfl (fun _ => id) id (fun _ => id)
        (past_of_afterCall returns) (not_gone_of_afterCall returns)

theorem sound_run {actions : List Action}
    (ran : Transition.run step initial actions = some s) : s.Sound :=
  Transition.run_invariant (fun (_ : True) => sound_step) ran
    (fun _ _ => trivial) sound_initial

/-- However the calls interleave and whichever fail: the notifications that the client
answers are those of the applications in the order of their starts, each once, and it
has no application stopped before it has answered both; and an application that looks
the endpoint up finds it published. -/
theorem notifications_in_order (actions : List Action) (s : System)
    (ran : Transition.run step initial actions = some s) :
    s.answered <+: [0, 1] ∧
      (∀ app ∈ s.answered, Is s.apps app AppPhase.Past) ∧
      (∀ round, s.client = .stopping round → s.answered = [0, 1] ∧
        s.appId round = some round.index) ∧
      (s.apps ≠ [] → s.published = true) := by
  have sound := sound_run ran
  refine ⟨sound.answered, sound.past, ?_, fun started => ?_⟩
  · intro round current
    obtain ⟨two, both⟩ := sound.books 2 [0, 1] (by rw [current]; rfl)
    refine ⟨both, sound.numbers round ?_⟩
    rw [two]
    cases round with
    | first => decide
    | second => decide
  · exact sound.published (.inr started)

/-- A client that ends with success has started two applications, has answered both,
and has left neither of them running. -/
theorem success_leaves_nothing (actions : List Action) (s : System)
    (ran : Transition.run step initial actions = some s)
    (success : s.client = .exited .success) :
    s.apps.length = 2 ∧ s.answered = [0, 1] ∧
      ∀ phase ∈ s.apps, phase.Gone := by
  have sound := sound_run ran
  obtain ⟨two, both⟩ := sound.books 2 [0, 1] (by rw [success]; rfl)
  refine ⟨two, both, ?_⟩
  intro phase member
  obtain ⟨app, inside, found⟩ := List.getElem_of_mem member
  have either : app = 0 ∨ app = 1 := by omega
  obtain ⟨other, known, gone⟩ :=
    sound.stopped app (by rw [success]; exact either)
  rw [List.getElem?_eq_getElem inside, found] at known
  cases known
  exact gone

/-- The steps from the start of an application to the reply to its notification. -/
def rounds (app : Nat) : List Action :=
  [.client, .app app 0, .app app 0, .app app 0, .listen app, .client, .app app 0,
    .client, .client]

def smooth : List Action :=
  [.client, .client, .client, .client] ++ rounds 0 ++ rounds 1 ++
    [.client, .client]

theorem notifications_when_smooth :
    ∃ s, Transition.run step initial smooth = some s ∧
      s.answered <+: [0, 1] ∧ ∀ app ∈ s.answered, Is s.apps app AppPhase.Past := by
  obtain ⟨inOrder, past, -⟩ := notifications_in_order smooth _ rfl
  exact ⟨_, rfl, inOrder, past⟩

theorem nothing_left_when_smooth :
    ∃ s, Transition.run step initial smooth = some s ∧
      s.client = .exited .success ∧ ∀ phase ∈ s.apps, phase.Gone := by
  obtain ⟨-, -, gone⟩ := success_leaves_nothing smooth _ rfl rfl
  exact ⟨_, rfl, rfl, gone⟩

end System

end KosCeExtra.ExecutionManager
