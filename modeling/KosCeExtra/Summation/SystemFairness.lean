import KosCeExtra.Library.Justified
import KosCeExtra.Summation.SystemRuns

/-!
# How the summation programs share the servers

The servers turn calls away without looking at who calls.  What a client is denied
another has been granted: the policy lets a request be given up only where the servers
have given two sums.  A client that is alone is never turned down twice in a row, but
next to another it may never come through.
-/

namespace KosCeExtra.Summation

namespace System

variable {unconverted : Retcode → Exception} {s : System} {client : Client}
  {attempt : Attempt}

/-- In whatever order the calls of the clients come, and whatever the transport
loses, each server has given as many sums as it has turned calls away, or one more;
and for each request that a client has given up, the servers have given two sums. -/
theorem exceeded_paid_by_sums (unconverted : Retcode → Exception)
    (actions : List SystemAction) (s : System)
    (ran : Transition.run (step unconverted) initial actions = some s) :
    (∀ server, s.busiesAt server ≤ s.sumsAt server ∧
      s.sumsAt server ≤ s.busiesAt server + 1) ∧
    2 * s.finished.countP (fun request => request.ending = .exceeded) ≤
      s.handled.countP (fun call => call.response ≠ .status .rcBusy) := by
  have sound := sound_run ran
  have books : ∀ server, s.busiesAt server ≤ s.sumsAt server ∧
      s.sumsAt server ≤ s.busiesAt server + 1 := by
    intro server
    have balance := sound.alternates server
    have parity := Nat.mod_lt (s.counter server).toNat Nat.two_pos
    omega
  refine ⟨books, ?_⟩
  have creditC := sound.credit .c
  have creditCxx := sound.credit .cxx
  have booksC := books .c
  have booksCxx := books .cxx
  have busies := s.countP_busy_clients
  rw [s.countP_busy_servers] at busies
  rw [s.countP_exceeded, s.countP_sums]
  omega

/-! ## Whole requests -/

theorem step_start {curServer : Server} {num1 num2 : UInt32}
    (idle : s.phase client = .idle)
    (draws : client.Draws num1 ∧ client.Draws num2) :
    s.step unconverted (.start client curServer num1 num2) =
      some (s.enter client (.calling ⟨curServer, ⟨0, num1, num2⟩⟩)) := by
  simp only [step, idle, if_pos draws]

theorem step_serve (calling : s.phase client = .calling attempt)
    (few : attempt.request.repeats.toNat ≤ 1) :
    s.step unconverted (.call client) = some (s.serve client attempt) := by
  have granted : ¬ attempt.request.repeats > maxSecurityGrantedRepeats :=
    mt (exceeds_iff attempt).mp (Nat.not_lt.mpr few)
  simp only [step, calling, if_neg granted]

theorem step_deny (calling : s.phase client = .calling attempt)
    (many : 1 < attempt.request.repeats.toNat) :
    s.step unconverted (.call client) =
      some (s.goOn client attempt (.inr .exceeded)) := by
  simp only [step, calling, if_pos ((exceeds_iff attempt).mpr many),
    onDenial_eq client many]

theorem step_receive {response : Response}
    (answered : s.phase client = .answered attempt response) :
    s.step unconverted (.receive client) =
      some (s.goOn client attempt
        (client.onResponse unconverted attempt response)) := by
  simp only [step, answered]

theorem other_ne (server : Server) : server ≠ server.other := by
  cases server with
  | c => simp [Server.other]
  | cxx => simp [Server.other]

private theorem other_other (server : Server) : server.other.other = server := by
  cases server with
  | c => rfl
  | cxx => rfl

private theorem eq_or_eq_other (server other : Server) :
    other = server ∨ other = server.other := by
  cases server with
  | c => exact server_eq other
  | cxx => exact (server_eq other).symm

/-- A piece of a run in which one client has moved to a phase, with what it has put
on the books. -/
structure Comes (s t : System) (client : Client) (phase : Phase)
    (handled : List Handled) (finished : List Finished) : Prop where
  phase_eq : ∀ other, t.phase other =
    if client = other then phase else s.phase other
  parity : ∀ server, (t.counter server).toNat % 2 =
    ((s.counter server).toNat +
      handled.countP fun call => call.attempt.curServer = server) % 2
  handled_eq : t.handled = s.handled ++ handled
  finished_eq : t.finished = s.finished ++ finished

theorem comes_goOn (s : System) (client : Client) (attempt : Attempt)
    (reaction : Attempt ⊕ Ending) :
    Comes s (s.goOn client attempt reaction) client (Phase.behind reaction) []
      (ended client attempt reaction) where
  phase_eq other := phase_goOn s client other attempt reaction
  parity _ := rfl
  handled_eq := (List.append_nil _).symm
  finished_eq := rfl

theorem comes_serve (s : System) (client : Client) (attempt : Attempt) :
    Comes s (s.serve client attempt) client
      (.answered attempt (s.reply attempt))
      [⟨client, attempt, s.reply attempt⟩] [] where
  phase_eq other := phase_serve s client other attempt
  parity server := by
    rw [counter_serve]
    by_cases same : attempt.curServer = server
    · simp [same]
    · simp [same]
  handled_eq := rfl
  finished_eq := (List.append_nil _).symm

section Comes

variable {t u : System} {phase next : Phase} {handled later : List Handled}
  {finished done : List Finished}

theorem Comes.trans (first : Comes s t client phase handled finished)
    (second : Comes t u client next later done) :
    Comes s u client next (handled ++ later) (finished ++ done) where
  phase_eq other := by
    rw [second.phase_eq, first.phase_eq]
    by_cases same : client = other
    · rw [if_pos same, if_pos same]
    · rw [if_neg same, if_neg same, if_neg same]
  parity server := by
    have before := first.parity server
    rw [second.parity, List.countP_append]
    omega
  handled_eq := by
    rw [second.handled_eq, first.handled_eq, List.append_assoc]
  finished_eq := by
    rw [second.finished_eq, first.finished_eq, List.append_assoc]

theorem Comes.phase_self (comes : Comes s t client phase handled finished) :
    t.phase client = phase := by
  rw [comes.phase_eq, if_pos rfl]

end Comes

theorem run_started (unconverted : Retcode → Exception) (curServer : Server)
    {num1 num2 : UInt32}
    (idle : s.phase client = .idle)
    (draws : client.Draws num1 ∧ client.Draws num2) :
    ∃ t, Transition.run (step unconverted) s
        [.start client curServer num1 num2] = some t ∧
      Comes s t client (.calling ⟨curServer, ⟨0, num1, num2⟩⟩) [] [] := by
  refine ⟨_, Transition.run_cons.mpr ⟨_, step_start idle draws, rfl⟩, ?_⟩
  rw [enter_eq_goOn]
  exact comes_goOn s client _ (.inl _)

/-- A call that meets an odd counter ends the request. -/
theorem run_summed (unconverted : Retcode → Exception)
    (calling : s.phase client = .calling attempt)
    (few : attempt.request.repeats.toNat ≤ 1)
    (odd : (s.counter attempt.curServer).toNat % 2 = 1) :
    ∃ t sum, Transition.run (step unconverted) s
        [.call client, .receive client] = some t ∧
      Comes s t client .idle [⟨client, attempt, .result sum⟩]
        [⟨client, attempt, .result sum⟩] := by
  have served := comes_serve s client attempt
  rw [reply_eq, if_pos odd] at served
  refine ⟨_, (attempt.request.num1 + attempt.request.num2).toUInt64,
    Transition.run_cons.mpr ⟨_, step_serve calling few,
      Transition.run_cons.mpr ⟨_, step_receive served.phase_self, rfl⟩⟩, ?_⟩
  rw [onResponse_result]
  exact served.trans (comes_goOn _ client attempt (.inr _))

/-- A call that meets an even counter moves the client on to the other server. -/
theorem run_turned_away (unconverted : Retcode → Exception)
    (calling : s.phase client = .calling attempt)
    (few : attempt.request.repeats.toNat ≤ 1)
    (even : (s.counter attempt.curServer).toNat % 2 = 0) :
    ∃ t, Transition.run (step unconverted) s [.call client, .receive client] =
        some t ∧
      Comes s t client (.calling attempt.switched)
        [⟨client, attempt, .status .rcBusy⟩] [] := by
  have served := comes_serve s client attempt
  rw [(reply_busy_iff s attempt).mpr even] at served
  refine ⟨_, Transition.run_cons.mpr ⟨_, step_serve calling few,
    Transition.run_cons.mpr ⟨_, step_receive served.phase_self, rfl⟩⟩, ?_⟩
  rw [onResponse_busy]
  exact served.trans (comes_goOn _ client attempt (.inl attempt.switched))

private theorem run_denied (unconverted : Retcode → Exception)
    (calling : s.phase client = .calling attempt)
    (many : 1 < attempt.request.repeats.toNat) :
    ∃ t, Transition.run (step unconverted) s [.call client] = some t ∧
      Comes s t client .idle [] [⟨client, attempt, .exceeded⟩] := by
  refine ⟨_, Transition.run_cons.mpr ⟨_, step_deny calling many, rfl⟩, ?_⟩
  exact comes_goOn _ client attempt (.inr .exceeded)

/-- A whole request that meets an odd counter. -/
theorem run_granted (unconverted : Retcode → Exception) (curServer : Server)
    (num1 num2 : UInt32) (idle : s.phase client = .idle)
    (draws : client.Draws num1 ∧ client.Draws num2)
    (odd : (s.counter curServer).toNat % 2 = 1) :
    ∃ t sum, Transition.run (step unconverted) s
        [.start client curServer num1 num2, .call client, .receive client] =
          some t ∧
      Comes s t client .idle
        [⟨client, ⟨curServer, ⟨0, num1, num2⟩⟩, .result sum⟩]
        [⟨client, ⟨curServer, ⟨0, num1, num2⟩⟩, .result sum⟩] := by
  obtain ⟨r, started, begun⟩ := run_started unconverted curServer idle draws
  have stillOdd : (r.counter curServer).toNat % 2 = 1 := by
    rw [begun.parity]
    exact odd
  obtain ⟨t, sum, answered, summed⟩ :=
    run_summed unconverted begun.phase_self (Nat.zero_le _) stillOdd
  refine ⟨t, sum, ?_, begun.trans summed⟩
  exact (Transition.run_append started _).trans answered

/-- A whole request that meets even counters only. -/
theorem run_refused (unconverted : Retcode → Exception) (curServer : Server)
    (num1 num2 : UInt32) (idle : s.phase client = .idle)
    (draws : client.Draws num1 ∧ client.Draws num2)
    (even : ∀ server, (s.counter server).toNat % 2 = 0) :
    ∃ t, Transition.run (step unconverted) s
        [.start client curServer num1 num2, .call client, .receive client,
          .call client, .receive client, .call client] = some t ∧
      Comes s t client .idle
        [⟨client, ⟨curServer, ⟨0, num1, num2⟩⟩, .status .rcBusy⟩,
          ⟨client, ⟨curServer.other, ⟨1, num1, num2⟩⟩, .status .rcBusy⟩]
        [⟨client, ⟨curServer.other.other, ⟨2, num1, num2⟩⟩, .exceeded⟩] := by
  obtain ⟨p, started, begun⟩ := run_started unconverted curServer idle draws
  obtain ⟨q, once, first⟩ := run_turned_away unconverted begun.phase_self
    (Nat.zero_le _) (by rw [begun.parity]; exact even curServer)
  have other := other_ne curServer
  have stillEven : (q.counter curServer.other).toNat % 2 = 0 := by
    rw [(begun.trans first).parity]
    simpa [other] using even curServer.other
  obtain ⟨r, twice, second⟩ := run_turned_away unconverted first.phase_self
    (Nat.le_refl 1) stillEven
  obtain ⟨t, thrice, denied⟩ := run_denied unconverted second.phase_self
    (Nat.lt_succ_self 1)
  refine ⟨t, ?_, ((begun.trans first).trans second).trans denied⟩
  have reached := (Transition.run_append started _).trans once
  have further := (Transition.run_append reached _).trans twice
  exact (Transition.run_append further _).trans thrice

/-! ## A client that never comes through -/

/-- No request is under way, and every server is about to give a sum. -/
structure Rested (s : System) : Prop where
  idle : ∀ client, s.phase client = .idle
  odd : ∀ server, (s.counter server).toNat % 2 = 1

theorem rested_initial : initial.Rested where
  idle _ := rfl
  odd _ := rfl

/-- The C++ client takes a sum from each server, and the C client is turned away by
both. -/
def outpacing : List SystemAction :=
  [.start .cxx .c 1 1, .call .cxx, .receive .cxx] ++
    ([.start .cxx .cxx 1 1, .call .cxx, .receive .cxx] ++
      [.start .c .c 0 0, .call .c, .receive .c, .call .c, .receive .c, .call .c])

theorem run_outpacing (unconverted : Retcode → Exception) (rested : s.Rested) :
    ∃ t sum1 sum2, Transition.run (step unconverted) s outpacing = some t ∧
      t.Rested ∧
      t.handled = s.handled ++
        [⟨.cxx, ⟨.c, ⟨0, 1, 1⟩⟩, .result sum1⟩,
          ⟨.cxx, ⟨.cxx, ⟨0, 1, 1⟩⟩, .result sum2⟩,
          ⟨.c, ⟨.c, ⟨0, 0, 0⟩⟩, .status .rcBusy⟩,
          ⟨.c, ⟨.cxx, ⟨1, 0, 0⟩⟩, .status .rcBusy⟩] ∧
      t.finished = s.finished ++
        [⟨.cxx, ⟨.c, ⟨0, 1, 1⟩⟩, .result sum1⟩,
          ⟨.cxx, ⟨.cxx, ⟨0, 1, 1⟩⟩, .result sum2⟩,
          ⟨.c, ⟨.c, ⟨2, 0, 0⟩⟩, .exceeded⟩] := by
  obtain ⟨p, sum1, first, once⟩ := run_granted unconverted .c 1 1
    (rested.idle .cxx) (by decide) (rested.odd .c)
  have stillOdd : (p.counter .cxx).toNat % 2 = 1 := by
    rw [once.parity]
    exact rested.odd .cxx
  obtain ⟨q, sum2, second, twice⟩ := run_granted unconverted .cxx 1 1
    once.phase_self (by decide) stillOdd
  have idle : q.phase .c = .idle := by
    rw [(once.trans twice).phase_eq]
    exact rested.idle .c
  have even : ∀ server, (q.counter server).toNat % 2 = 0 := by
    intro server
    have odd := rested.odd server
    rw [(once.trans twice).parity]
    cases server with
    | c =>
        simp
        omega
    | cxx =>
        simp
        omega
  obtain ⟨t, third, refused⟩ := run_refused unconverted .c 0 0 idle (by decide)
    even
  refine ⟨t, sum1, sum2, ?_, ⟨?_, ?_⟩, ?_, ?_⟩
  · rw [outpacing, Transition.run_append first, Transition.run_append second]
    exact third
  · intro client
    cases client with
    | c => exact refused.phase_self
    | cxx =>
        rw [refused.phase_eq]
        exact twice.phase_self
  · intro server
    have before := even server
    rw [refused.parity]
    cases server with
    | c =>
        simp [Server.other]
        omega
    | cxx =>
        simp [Server.other]
        omega
  · rw [refused.handled_eq, (once.trans twice).handled_eq, List.append_assoc]
    rfl
  · rw [refused.finished_eq, (once.trans twice).finished_eq, List.append_assoc]
    rfl

/-- The C client may be kept out for as long as one likes: there are runs in which it
has given up any number of requests and got no sum, with two sums given for each. -/
theorem c_client_starves (unconverted : Retcode → Exception) (rounds : Nat) :
    ∃ s, Transition.run (step unconverted) initial
        (List.replicate rounds outpacing).flatten = some s ∧
      s.exceededBy .c = rounds ∧
      (∀ request ∈ s.finished, request.client = .c →
        request.ending = .exceeded) ∧
      s.handled.countP (fun call => call.response ≠ .status .rcBusy) =
        2 * rounds := by
  have reached : ∀ rounds : Nat, ∃ s,
      Transition.run (step unconverted) initial
        (List.replicate rounds outpacing).flatten = some s ∧
      s.Rested ∧ s.exceededBy .c = rounds ∧
      (∀ request ∈ s.finished, request.client = .c →
        request.ending = .exceeded) ∧
      s.handled.countP (fun call => call.response ≠ .status .rcBusy) =
        2 * rounds := by
    intro rounds
    induction rounds with
    | zero =>
        refine ⟨initial, rfl, rested_initial, rfl, ?_, rfl⟩
        intro request impossible
        cases impossible
    | succ rounds induction =>
        obtain ⟨s, ran, rested, exceeded, only, sums⟩ := induction
        obtain ⟨t, sum1, sum2, more, restedAgain, handled, finished⟩ :=
          run_outpacing unconverted rested
        refine ⟨t, ?_, restedAgain, ?_, ?_, ?_⟩
        · rw [List.replicate_succ', List.flatten_concat]
          exact (Transition.run_append ran _).trans more
        · rw [exceededBy, finished, List.countP_append, ← exceededBy, exceeded]
          simp
        · intro request member mine
          rw [finished] at member
          rcases List.mem_append.mp member with before | last
          · exact only request before mine
          · simp only [List.mem_cons, List.not_mem_nil, or_false] at last
            rcases last with rfl | rfl | rfl
            · cases mine
            · cases mine
            · rfl
        · rw [handled, List.countP_append, sums]
          simp
          omega
  obtain ⟨s, ran, -, rest⟩ := reached rounds
  exact ⟨s, ran, rest⟩

theorem exceeded_paid_when_outpaced :
    ∃ s, Transition.run (step fun _ => .unknown) initial outpacing = some s ∧
      s.exceededBy .c = 1 ∧
      2 * s.finished.countP (fun request => request.ending = .exceeded) ≤
        s.handled.countP (fun call => call.response ≠ .status .rcBusy) := by
  obtain ⟨s, sum1, sum2, ran, -, -, finished⟩ :=
    run_outpacing (fun _ => .unknown) rested_initial
  refine ⟨s, ran, ?_, (exceeded_paid_by_sums _ outpacing s ran).2⟩
  rw [exceededBy, finished]
  simp [initial]

/-! ## A client that is alone -/

/-- The action is one of this client, and the transport loses nothing. -/
def Only (client : Client) (action : SystemAction) : Prop :=
  action.client = client ∧ ∀ failure, action ≠ .fail client failure

/-- A server that has just turned the client away is about to give a sum. -/
def Lone (counter : Server → UInt64) : Phase → Prop
  | .idle => True
  | .calling attempt =>
      (attempt.request.repeats.toNat ≠ 0 →
        (counter attempt.curServer.other).toNat % 2 = 1) ∧
      (1 < attempt.request.repeats.toNat →
        (counter attempt.curServer).toNat % 2 = 1)
  | .answered attempt response =>
      response = .status .rcBusy →
        (counter attempt.curServer).toNat % 2 = 1 ∧
        (attempt.request.repeats.toNat ≠ 0 →
          (counter attempt.curServer.other).toNat % 2 = 1)
  | .exited => True

/-- Both servers are about to give a sum to the client, or one has given it. -/
def Due (counter : Server → UInt64) : Phase → Prop
  | .idle => ∀ server, (counter server).toNat % 2 = 1
  | .calling attempt => attempt.request.repeats.toNat = 0 ∧
      ∀ server, (counter server).toNat % 2 = 1
  | .answered _ response => response ≠ .status .rcBusy
  | .exited => True

/-- A request is not given up right behind another. -/
def NotTwice (finished : List Finished) (request : Finished) : Prop :=
  ∀ last, finished.getLast? = some last → last.ending = .exceeded →
    request.ending ≠ .exceeded

structure Alone (client : Client) (s : System) : Prop where
  sound : s.Sound
  lone : Lone s.counter (s.phase client)
  due : ∀ last, s.finished.getLast? = some last → last.ending = .exceeded →
    Due s.counter (s.phase client)
  notTwice : Justified NotTwice s.finished

theorem alone_initial (client : Client) : initial.Alone client where
  sound := sound_initial
  lone := trivial
  due _ impossible := by cases impossible
  notTwice := justified_nil

/-! One lemma for each of its moves. -/

section Alone

variable {attempt : Attempt} (alone : s.Alone client)

include alone

theorem Alone.start {curServer : Server} {num1 num2 : UInt32}
    (idle : s.phase client = .idle)
    (sound : (s.enter client (.calling ⟨curServer, ⟨0, num1, num2⟩⟩)).Sound) :
    (s.enter client (.calling ⟨curServer, ⟨0, num1, num2⟩⟩)).Alone client := by
  have due := alone.due
  have calling : (s.enter client (.calling ⟨curServer, ⟨0, num1, num2⟩⟩)).phase client =
      .calling ⟨curServer, ⟨0, num1, num2⟩⟩ := Function.update_self _ _ _
  rw [idle] at due
  refine ⟨sound, ?_, ?_, alone.notTwice⟩
  · rw [calling]
    exact ⟨fun repeated => absurd rfl repeated,
      fun impossible => absurd impossible (Nat.not_lt_zero 1)⟩
  · intro last isLast exceeded
    rw [calling]
    exact ⟨rfl, due last isLast exceeded⟩

theorem Alone.deny (calling : s.phase client = .calling attempt)
    (many : 1 < attempt.request.repeats.toNat)
    (sound : (s.goOn client attempt (.inr .exceeded)).Sound) :
    (s.goOn client attempt (.inr .exceeded)).Alone client := by
  have lone := alone.lone
  have due := alone.due
  have idle := (comes_goOn s client attempt (.inr .exceeded)).phase_self
  rw [calling] at lone due
  obtain ⟨other, this⟩ := lone
  refine ⟨sound, ?_, ?_, ?_⟩
  · rw [idle]
    trivial
  · intro _ _ _
    rw [idle]
    intro server
    rcases eq_or_eq_other attempt.curServer server with rfl | rfl
    · exact this many
    · exact other (by omega)
  · apply alone.notTwice.concat
    intro last isLast exceeded _
    have first := (due last isLast exceeded).1
    omega

theorem Alone.serve (calling : s.phase client = .calling attempt)
    (sound : (s.serve client attempt).Sound) :
    (s.serve client attempt).Alone client := by
  have lone := alone.lone
  have due := alone.due
  have served := comes_serve s client attempt
  rw [calling] at lone due
  refine ⟨sound, ?_, ?_, alone.notTwice⟩
  · rw [served.phase_self]
    intro busy
    have even := (reply_busy_iff s attempt).mp busy
    constructor
    · rw [served.parity]
      simp
      omega
    · intro repeated
      rw [served.parity]
      simpa [other_ne] using lone.1 repeated
  · intro last isLast exceeded
    rw [served.phase_self]
    intro busy
    have even := (reply_busy_iff s attempt).mp busy
    have odd := (due last isLast exceeded).2 attempt.curServer
    omega

/-- The client has been turned away and asks the other server. -/
theorem Alone.switch (answered : s.phase client = .answered attempt (.status .rcBusy))
    (few : attempt.request.repeats.toNat ≤ 1)
    (sound : (s.goOn client attempt (.inl attempt.switched)).Sound) :
    (s.goOn client attempt (.inl attempt.switched)).Alone client := by
  have lone := alone.lone
  have due := alone.due
  have moved := comes_goOn s client attempt (.inl attempt.switched)
  rw [answered] at lone due
  obtain ⟨this, other⟩ := lone rfl
  refine ⟨sound, ?_, ?_, ?_⟩
  · rw [moved.phase_self]
    refine ⟨fun _ => ?_, fun many => other ?_⟩
    · rw [Attempt.switched, other_other]
      exact this
    · rw [switched_repeats few] at many
      omega
  · intro last isLast exceeded
    rw [moved.finished_eq, ended, List.append_nil] at isLast
    exact absurd rfl (due last isLast exceeded)
  · rw [moved.finished_eq, ended, List.append_nil]
    exact alone.notTwice

theorem Alone.result (sum : UInt64)
    (sound : (s.goOn client attempt (.inr (.result sum))).Sound) :
    (s.goOn client attempt (.inr (.result sum))).Alone client := by
  have moved := comes_goOn s client attempt (.inr (.result sum))
  refine ⟨sound, ?_, ?_, ?_⟩
  · rw [moved.phase_self]
    trivial
  · intro last isLast exceeded
    rw [moved.finished_eq, ended, List.getLast?_concat] at isLast
    cases isLast
    cases exceeded
  · apply alone.notTwice.concat
    intro _ _ _ impossible
    cases impossible

end Alone

theorem alone_step {t : System} {action : SystemAction}
    (only : Only client action) (stepped : s.step unconverted action = some t)
    (alone : s.Alone client) : t.Alone client := by
  have sound := sound_step stepped alone.sound
  obtain ⟨mine, lossless⟩ := only
  cases moves_of_step stepped with
  | @start mover curServer num1 num2 idle draws =>
      obtain rfl : client = mover := mine.symm
      exact alone.start idle sound
  | @deny mover attempt calling many =>
      obtain rfl : client = mover := mine.symm
      exact alone.deny calling many sound
  | @serve mover attempt calling few =>
      obtain rfl : client = mover := mine.symm
      exact alone.serve calling sound
  | @receive mover attempt response reaction answered busy result =>
      obtain rfl : client = mover := mine.symm
      have valid := alone.sound.valid client
      rw [answered] at valid
      obtain ⟨few, -, -, rfl | summed⟩ := valid
      · rw [busy rfl] at sound ⊢
        exact alone.switch answered few sound
      · rw [result _ summed] at sound ⊢
        exact alone.result _ sound
  | @fail mover attempt failure reaction flying reacts =>
      obtain rfl : client = mover := mine.symm
      exact absurd rfl (lossless failure)

/-- A client that is alone with the servers never gives up two requests in a row, as
long as the transport loses nothing. -/
theorem lone_client_not_exceeded_twice (unconverted : Retcode → Exception)
    (client : Client) (actions : List SystemAction) (s : System)
    (ran : Transition.run (step unconverted) initial actions = some s)
    (only : ∀ action ∈ actions, Only client action)
    (front back : List Finished) (first second : Finished)
    (split : s.finished = front ++ first :: second :: back)
    (exceeded : first.ending = .exceeded) : second.ending ≠ .exceeded := by
  have alone : s.Alone client :=
    Transition.run_invariant alone_step ran only (alone_initial client)
  apply alone.notTwice (front ++ [first]) second back _ first _ exceeded
  · rw [split, List.append_assoc, List.singleton_append]
  · exact List.getLast?_concat

/-- The C client takes a sum from each server, is turned away by both, and takes
another sum. -/
def undisturbed : List SystemAction :=
  [.start .c .c 1 2, .call .c, .receive .c,
    .start .c .cxx 3 4, .call .c, .receive .c,
    .start .c .c 5 6, .call .c, .receive .c, .call .c, .receive .c, .call .c,
    .start .c .cxx 7 8, .call .c, .receive .c]

theorem lone_client_when_undisturbed :
    ∃ s front back first second,
      Transition.run (step fun _ => .unknown) initial undisturbed = some s ∧
      s.finished = front ++ first :: second :: back ∧
      first.ending = .exceeded ∧ second.ending ≠ .exceeded := by
  refine ⟨_, [⟨.c, ⟨.c, ⟨0, 1, 2⟩⟩, .result 3⟩, ⟨.c, ⟨.cxx, ⟨0, 3, 4⟩⟩, .result 7⟩],
    [], ⟨.c, ⟨.c, ⟨2, 5, 6⟩⟩, .exceeded⟩, ⟨.c, ⟨.cxx, ⟨0, 7, 8⟩⟩, .result 15⟩,
    rfl, by decide, rfl, ?_⟩
  refine lone_client_not_exceeded_twice (fun _ => .unknown) .c undisturbed _ rfl
    ?_ [⟨.c, ⟨.c, ⟨0, 1, 2⟩⟩, .result 3⟩, ⟨.c, ⟨.cxx, ⟨0, 3, 4⟩⟩, .result 7⟩] []
    ⟨.c, ⟨.c, ⟨2, 5, 6⟩⟩, .exceeded⟩ _ (by decide) rfl
  simp [undisturbed, Only, SystemAction.client]

end System

end KosCeExtra.Summation
