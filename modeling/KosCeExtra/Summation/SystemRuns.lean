import KosCeExtra.Summation.System

/-!
# Runs of the summation programs

Each server turns every second call away, so it has given at most one sum more than
it has turned calls away.  A client that gives up has been turned away twice, and its
count of repeats shows how often it has been turned away so far.  From these two books
follows what the policy and the servers together promise, in whatever order the calls
come.
-/

namespace KosCeExtra.Summation

/-! ## What a client does with an outcome -/

section Reactions

variable {attempt : Attempt} {unconverted : Retcode → Exception}

theorem exceeds_iff (attempt : Attempt) :
    attempt.request.repeats > maxSecurityGrantedRepeats ↔
      1 < attempt.request.repeats.toNat :=
  UInt32.lt_iff_toNat_lt

theorem onDenial_eq (client : Client)
    (many : 1 < attempt.request.repeats.toNat) :
    client.onDenial attempt = .inr .exceeded := by
  cases client with
  | c => rfl
  | cxx =>
      have exceeds := (exceeds_iff attempt).mpr many
      simp only [Client.onDenial, processRequestReaction, processRequestTurn,
        if_pos exceeds]

theorem onResponse_busy (client : Client) :
    client.onResponse unconverted attempt (.status .rcBusy) =
      .inl attempt.switched := by
  cases client with
  | c => rfl
  | cxx => rfl

theorem onResponse_result (client : Client) (sum : UInt64) :
    client.onResponse unconverted attempt (.result sum) =
      .inr (.result sum) := by
  cases client with
  | c => rfl
  | cxx => rfl

/-- A failure is repeated or ends the request, and it is no result. -/
theorem onFailure_cases (client : Client) (attempt : Attempt)
    (failure : Failure) :
    client.onFailure attempt failure = .inl attempt ∨
      client.onFailure attempt failure = .inr .failed ∨
      (client.onFailure attempt failure = .inr .exceeded ∧
        1 < attempt.request.repeats.toNat) ∨
      ∃ thrown, client.onFailure attempt failure = .inr (.exited thrown) := by
  cases client with
  | c => exact .inl rfl
  | cxx =>
      right
      obtain ⟨code, thrown, notBusy⟩ := failure
      cases thrown with
      | serverBusy => exact absurd rfl notBusy
      | runtimeError =>
          by_cases exceeds : attempt.request.repeats > maxSecurityGrantedRepeats
          · refine .inr (.inl ⟨?_, (exceeds_iff attempt).mp exceeds⟩)
            simp only [Client.onFailure, processRequestReaction,
              processRequestTurn, if_pos exceeds]
          · left
            simp only [Client.onFailure, processRequestReaction,
              processRequestTurn, if_neg exceeds]
      | stdException => exact .inr (.inr ⟨_, rfl⟩)
      | unknown => exact .inr (.inr ⟨_, rfl⟩)

end Reactions

/-- How often the client has been turned away since its request began. -/
def Phase.busies : Phase → Nat
  | .idle => 0
  | .calling attempt => attempt.request.repeats.toNat
  | .answered attempt response =>
      attempt.request.repeats.toNat +
        if response = .status .rcBusy then 1 else 0
  | .exited => 0

/-- The attempt of a client has operands that it has drawn, and not more repeats than
the policy can have let through. -/
def Phase.Valid (client : Client) : Phase → Prop
  | .idle => True
  | .calling attempt =>
      attempt.request.repeats.toNat ≤ 2 ∧
        client.Draws attempt.request.num1 ∧ client.Draws attempt.request.num2
  | .answered attempt response =>
      attempt.request.repeats.toNat ≤ 1 ∧
        client.Draws attempt.request.num1 ∧
        client.Draws attempt.request.num2 ∧
        (response = .status .rcBusy ∨ response =
          .result (attempt.request.num1 + attempt.request.num2).toUInt64)
  | .exited => True

namespace System

variable {unconverted : Retcode → Exception} {s t : System}
  {action : SystemAction} {client : Client}

/-- Everything that a step can do. -/
inductive Moves (s : System) : SystemAction → System → Prop where
  | start {client : Client} {curServer : Server} {num1 num2 : UInt32}
      (idle : s.phase client = .idle)
      (draws : client.Draws num1 ∧ client.Draws num2) :
      Moves s (.start client curServer num1 num2) (s.enter client (.calling
        { curServer := curServer
          request := { repeats := 0, num1 := num1, num2 := num2 } }))
  | deny {client : Client} {attempt : Attempt}
      (calling : s.phase client = .calling attempt)
      (many : 1 < attempt.request.repeats.toNat) :
      Moves s (.call client) (s.goOn client attempt (.inr .exceeded))
  | serve {client : Client} {attempt : Attempt}
      (calling : s.phase client = .calling attempt)
      (few : attempt.request.repeats.toNat ≤ 1) :
      Moves s (.call client) (s.serve client attempt)
  | receive {client : Client} {attempt : Attempt} {response : Response}
      {reaction : Attempt ⊕ Ending}
      (answered : s.phase client = .answered attempt response)
      (busy : response = .status .rcBusy → reaction = .inl attempt.switched)
      (result : ∀ sum, response = .result sum →
        reaction = .inr (.result sum)) :
      Moves s (.receive client) (s.goOn client attempt reaction)
  | fail {client : Client} {attempt : Attempt} {failure : Failure}
      {reaction : Attempt ⊕ Ending}
      (flying : s.phase client = .calling attempt ∨
        ∃ response, s.phase client = .answered attempt response)
      (reacts : reaction = .inl attempt ∨ reaction = .inr .failed ∨
        (reaction = .inr .exceeded ∧ 1 < attempt.request.repeats.toNat) ∨
        ∃ thrown, reaction = .inr (.exited thrown)) :
      Moves s (.fail client failure) (s.goOn client attempt reaction)

private theorem moves_of_start {curServer : Server} {num1 num2 : UInt32}
    (stepped : s.step unconverted (.start client curServer num1 num2) = some t) :
    Moves s (.start client curServer num1 num2) t := by
  cases current : s.phase client with
  | idle =>
      rw [step, current] at stepped
      obtain ⟨draws, same⟩ := Option.ite_none_right_eq_some.mp stepped
      cases same
      exact .start current draws
  | _ =>
      rw [step, current] at stepped
      cases stepped

private theorem moves_of_call (stepped : s.step unconverted (.call client) = some t) :
    Moves s (.call client) t := by
  cases current : s.phase client with
  | calling attempt =>
      rw [step, current] at stepped
      by_cases exceeds : attempt.request.repeats > maxSecurityGrantedRepeats
      · simp only [if_pos exceeds] at stepped
        cases stepped
        have many := (exceeds_iff attempt).mp exceeds
        rw [onDenial_eq client many]
        exact .deny current many
      · simp only [if_neg exceeds] at stepped
        cases stepped
        have few := Nat.not_lt.mp (mt (exceeds_iff attempt).mpr exceeds)
        exact .serve current few
  | _ =>
      rw [step, current] at stepped
      cases stepped

private theorem moves_of_receive
    (stepped : s.step unconverted (.receive client) = some t) :
    Moves s (.receive client) t := by
  cases current : s.phase client with
  | answered attempt response =>
      rw [step, current] at stepped
      cases stepped
      refine .receive current ?_ ?_
      · intro busy
        rw [busy]
        exact onResponse_busy client
      · intro sum result
        rw [result]
        exact onResponse_result client sum
  | _ =>
      rw [step, current] at stepped
      cases stepped

private theorem moves_of_fail {failure : Failure}
    (stepped : s.step unconverted (.fail client failure) = some t) :
    Moves s (.fail client failure) t := by
  cases current : s.phase client with
  | calling attempt =>
      rw [step, current] at stepped
      cases stepped
      exact .fail (.inl current) (onFailure_cases client attempt failure)
  | answered attempt response =>
      rw [step, current] at stepped
      cases stepped
      exact .fail (.inr ⟨response, current⟩) (onFailure_cases client attempt failure)
  | _ =>
      rw [step, current] at stepped
      cases stepped

theorem moves_of_step (stepped : s.step unconverted action = some t) :
    Moves s action t := by
  cases action with
  | start client curServer num1 num2 => exact moves_of_start stepped
  | call client => exact moves_of_call stepped
  | receive client => exact moves_of_receive stepped
  | fail client failure => exact moves_of_fail stepped

/-! ## The two books -/

/-- The calls that a server has turned away. -/
def busiesAt (s : System) (server : Server) : Nat :=
  s.handled.countP fun call =>
    call.attempt.curServer = server ∧ call.response = .status .rcBusy

def sumsAt (s : System) (server : Server) : Nat :=
  s.handled.countP fun call =>
    call.attempt.curServer = server ∧ call.response ≠ .status .rcBusy

/-- The calls of a client that were turned away. -/
def busiesFor (s : System) (client : Client) : Nat :=
  s.handled.countP fun call =>
    call.client = client ∧ call.response = .status .rcBusy

/-- The requests that a client has given up. -/
def exceededBy (s : System) (client : Client) : Nat :=
  s.finished.countP fun request =>
    request.client = client ∧ request.ending = .exceeded

structure Sound (s : System) : Prop where
  valid : ∀ client, (s.phase client).Valid client
  /-- the book of a server -/
  alternates : ∀ server, s.sumsAt server + (s.counter server).toNat % 2 =
    s.busiesAt server + 1
  /-- the book of a client -/
  credit : ∀ client, 2 * s.exceededBy client + (s.phase client).busies ≤
    s.busiesFor client

theorem sound_initial : initial.Sound where
  valid _ := trivial
  alternates server := by
    cases server with
    | c => rfl
    | cxx => rfl
  credit _ := Nat.le_refl _

/-- A server answers by the parity of its counter. -/
theorem answer_eq (server : Server) : server.answer = answerByParity := by
  cases server with
  | c => exact sumRequestImpl_eq
  | cxx => exact sumRequestConverted_eq

theorem phase_goOn (s : System) (client other : Client) (attempt : Attempt)
    (reaction : Attempt ⊕ Ending) :
    (s.goOn client attempt reaction).phase other =
      if client = other then Phase.behind reaction else s.phase other := by
  by_cases same : client = other
  · subst same
    rw [if_pos rfl]
    exact Function.update_self _ _ _
  · rw [if_neg same]
    exact Function.update_of_ne (Ne.symm same) _ _

private theorem exceededBy_goOn (s : System) (client other : Client)
    (attempt : Attempt) (reaction : Attempt ⊕ Ending) :
    (s.goOn client attempt reaction).exceededBy other =
      s.exceededBy other +
        if client = other ∧ reaction = .inr .exceeded then 1 else 0 := by
  rw [exceededBy, System.goOn, List.countP_append]
  cases reaction with
  | inl next => simp [ended, exceededBy]
  | inr ending => simp [ended, exceededBy, List.countP_singleton]

/-- A step that moves one client and leaves the servers alone. -/
theorem Sound.goOn {attempt : Attempt} {reaction : Attempt ⊕ Ending}
    (sound : s.Sound)
    (valid : (Phase.behind reaction).Valid client)
    (credit : (if reaction = .inr .exceeded then 2 else 0) +
      (Phase.behind reaction).busies ≤ (s.phase client).busies) :
    (s.goOn client attempt reaction).Sound where
  valid := by
    intro other
    rw [phase_goOn]
    by_cases same : client = other
    · rw [if_pos same, ← same]
      exact valid
    · rw [if_neg same]
      exact sound.valid other
  alternates := sound.alternates
  credit := by
    intro other
    have before := sound.credit other
    change _ ≤ s.busiesFor other
    rw [phase_goOn, exceededBy_goOn]
    by_cases same : client = other
    · subst same
      by_cases gaveUp : reaction = .inr .exceeded
      · simp only [gaveUp, and_self, if_true] at credit ⊢
        omega
      · simp only [gaveUp, and_false, if_true, if_false] at credit ⊢
        omega
    · simp only [same, false_and, if_false]
      exact before

/-- What the server of an attempt is about to answer. -/
def reply (s : System) (attempt : Attempt) : Response :=
  (attempt.curServer.answer (s.counter attempt.curServer) attempt.request).1

theorem reply_eq (s : System) (attempt : Attempt) :
    s.reply attempt =
      if (s.counter attempt.curServer).toNat % 2 = 1 then
        .result (attempt.request.num1 + attempt.request.num2).toUInt64
      else .status .rcBusy := by
  rw [reply, answer_eq, answerByParity]

theorem reply_busy_iff (s : System) (attempt : Attempt) :
    s.reply attempt = .status .rcBusy ↔
      (s.counter attempt.curServer).toNat % 2 = 0 := by
  rw [reply_eq]
  split
  · simp
    omega
  · simp
    omega

theorem phase_serve (s : System) (client other : Client) (attempt : Attempt) :
    (s.serve client attempt).phase other =
      if client = other then .answered attempt (s.reply attempt)
      else s.phase other := by
  by_cases same : client = other
  · subst same
    rw [if_pos rfl]
    exact Function.update_self _ _ _
  · rw [if_neg same]
    exact Function.update_of_ne (Ne.symm same) _ _

theorem counter_serve (s : System) (client : Client) (attempt : Attempt)
    (server : Server) :
    ((s.serve client attempt).counter server).toNat % 2 =
      if attempt.curServer = server then ((s.counter server).toNat + 1) % 2
      else (s.counter server).toNat % 2 := by
  by_cases same : attempt.curServer = server
  · subst same
    rw [if_pos rfl, System.serve, answer_eq]
    simp only [Function.update_self]
    exact succ_parity _
  · rw [if_neg same, System.serve]
    simp only
    rw [Function.update_of_ne (Ne.symm same)]

private theorem countP_serve (s : System) (client : Client) (attempt : Attempt)
    (counted : Handled → Bool) :
    (s.serve client attempt).handled.countP counted =
      s.handled.countP counted +
        if counted ⟨client, attempt, s.reply attempt⟩ = true then 1 else 0 := by
  rw [System.serve, List.countP_append, List.countP_singleton]
  rfl

/-- A server answers a call that the policy has let through. -/
theorem Sound.serve {attempt : Attempt} (sound : s.Sound)
    (calling : s.phase client = .calling attempt)
    (few : attempt.request.repeats.toNat ≤ 1) :
    (s.serve client attempt).Sound where
  valid := by
    intro other
    rw [phase_serve]
    by_cases same : client = other
    · subst same
      rw [if_pos rfl]
      have drawn := sound.valid client
      rw [calling] at drawn
      refine ⟨few, drawn.2.1, drawn.2.2, ?_⟩
      rw [reply_eq]
      split
      · exact .inr rfl
      · exact .inl rfl
    · rw [if_neg same]
      exact sound.valid other
  alternates := by
    intro server
    have before := sound.alternates server
    have busy := s.reply_busy_iff attempt
    rw [sumsAt, busiesAt] at before ⊢
    rw [countP_serve, countP_serve, counter_serve]
    by_cases same : attempt.curServer = server
    · subst same
      rw [if_pos rfl]
      by_cases even : (s.counter attempt.curServer).toNat % 2 = 0
      · simp only [decide_eq_true_eq, true_and, ne_eq, busy, even,
          not_true, if_true, if_false] at before ⊢
        omega
      · simp only [decide_eq_true_eq, true_and, ne_eq, busy, even,
          not_false_iff, if_true, if_false] at before ⊢
        omega
    · simp only [same, false_and, decide_false, Bool.false_eq_true, if_false]
      exact before
  credit := by
    intro other
    have before := sound.credit other
    change 2 * s.exceededBy other + _ ≤ _
    rw [busiesFor] at before ⊢
    rw [countP_serve, phase_serve]
    by_cases same : client = other
    · subst same
      rw [calling] at before
      simp only [Phase.busies, decide_eq_true_eq, true_and, if_true] at before ⊢
      omega
    · simp only [same, false_and, decide_false, Bool.false_eq_true, if_false]
      exact before

theorem enter_eq_goOn (s : System) (client : Client) (attempt : Attempt) :
    s.enter client (.calling attempt) =
      s.goOn client attempt (.inl attempt) := by
  simp [System.goOn, System.enter, Phase.behind, ended]

/-- An attempt that is on its way. -/
theorem Sound.flying {attempt : Attempt} (sound : s.Sound)
    (flying : s.phase client = .calling attempt ∨
      ∃ response, s.phase client = .answered attempt response) :
    (Phase.calling attempt).Valid client ∧
      attempt.request.repeats.toNat ≤ (s.phase client).busies := by
  have valid := sound.valid client
  rcases flying with calling | ⟨response, answered⟩
  · rw [calling] at valid ⊢
    exact ⟨valid, Nat.le_refl _⟩
  · rw [answered] at valid ⊢
    obtain ⟨few, first, second, -⟩ := valid
    exact ⟨⟨Nat.le_succ_of_le few, first, second⟩, Nat.le_add_right _ _⟩

theorem sound_step (stepped : s.step unconverted action = some t)
    (sound : s.Sound) : t.Sound := by
  cases moves_of_step stepped with
  | @start client curServer num1 num2 idle draws =>
      rw [enter_eq_goOn]
      apply sound.goOn
      · exact ⟨Nat.zero_le _, draws⟩
      · exact Nat.zero_le _
  | @deny client attempt calling many =>
      apply sound.goOn
      · trivial
      · rw [calling]
        exact many
  | @serve client attempt calling few => exact sound.serve calling few
  | @receive client attempt response reaction answered busy result =>
      have valid := sound.valid client
      rw [answered] at valid
      obtain ⟨few, first, second, outcome⟩ := valid
      rcases outcome with turnedAway | summed
      · rw [busy turnedAway]
        apply sound.goOn
        · refine ⟨?_, first, second⟩
          rw [switched_repeats few]
          omega
        · rw [answered]
          simp [Phase.behind, Phase.busies, turnedAway, switched_repeats few]
      · rw [result _ summed]
        apply sound.goOn
        · trivial
        · simp [Phase.behind, Phase.busies]
  | @fail client attempt failure reaction flying reacts =>
      obtain ⟨valid, held⟩ := sound.flying flying
      rcases reacts with rfl | rfl | ⟨rfl, many⟩ | ⟨thrown, rfl⟩
      · apply sound.goOn valid
        simpa [Phase.behind, Phase.busies] using held
      · exact sound.goOn trivial (Nat.zero_le _)
      · exact sound.goOn trivial (Nat.le_trans many held)
      · exact sound.goOn trivial (Nat.zero_le _)

theorem sound_run {actions : List SystemAction}
    (ran : Transition.run (step unconverted) initial actions = some s) :
    s.Sound :=
  Transition.run_invariant (fun (_ : True) => sound_step) ran
    (fun _ _ => trivial) sound_initial

/-! ## The books of all servers against those of all clients -/

/-- Entries that have one of two keys are counted by the key. -/
theorem countP_of_two_keys {α κ : Type} [DecidableEq κ] (key : α → κ)
    {first second : κ} (apart : first ≠ second)
    (either : ∀ entry, key entry = first ∨ key entry = second)
    (Counted : α → Prop) [DecidablePred Counted] (entries : List α) :
    entries.countP (fun entry => Counted entry) =
      entries.countP (fun entry => key entry = first ∧ Counted entry) +
        entries.countP (fun entry => key entry = second ∧ Counted entry) := by
  induction entries with
  | nil => rfl
  | cons entry entries induction =>
      simp only [List.countP_cons, induction]
      rcases either entry with same | same
      · simp only [same, true_and, apart, false_and, decide_false,
          Bool.false_eq_true, if_false]
        omega
      · simp only [same, true_and, Ne.symm apart, false_and, decide_false,
          Bool.false_eq_true, if_false]
        omega

theorem client_eq (client : Client) : client = .c ∨ client = .cxx := by
  cases client with
  | c => exact .inl rfl
  | cxx => exact .inr rfl

theorem server_eq (server : Server) : server = .c ∨ server = .cxx := by
  cases server with
  | c => exact .inl rfl
  | cxx => exact .inr rfl

theorem countP_exceeded (s : System) :
    s.finished.countP (fun request => request.ending = .exceeded) =
      s.exceededBy .c + s.exceededBy .cxx :=
  countP_of_two_keys Finished.client (by decide)
    (fun request => client_eq request.client) _ _

theorem countP_busy_clients (s : System) :
    s.handled.countP (fun call => call.response = .status .rcBusy) =
      s.busiesFor .c + s.busiesFor .cxx :=
  countP_of_two_keys Handled.client (by decide)
    (fun call => client_eq call.client) _ _

theorem countP_busy_servers (s : System) :
    s.handled.countP (fun call => call.response = .status .rcBusy) =
      s.busiesAt .c + s.busiesAt .cxx :=
  countP_of_two_keys (fun call : Handled => call.attempt.curServer) (by decide)
    (fun call => server_eq call.attempt.curServer) _ _

theorem countP_sums (s : System) :
    s.handled.countP (fun call => call.response ≠ .status .rcBusy) =
      s.sumsAt .c + s.sumsAt .cxx :=
  countP_of_two_keys (fun call : Handled => call.attempt.curServer) (by decide)
    (fun call => server_eq call.attempt.curServer) _ _

end System

end KosCeExtra.Summation
