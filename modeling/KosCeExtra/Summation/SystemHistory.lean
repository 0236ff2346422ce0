import KosCeExtra.Library.Justified
import KosCeExtra.Summation.SystemRuns

/-!
# What the summation programs go back to

A repeated call goes back to a call with the same operands that the other server has
turned away, and a request that was given up to two of them.  The operands that the
clients draw are small, so a sum that a client shows is the sum of what it asked for.
-/

namespace KosCeExtra.Summation

/-- The call of a client was turned away, and `attempt` is the one that follows. -/
def Handled.Leads (call : Handled) (client : Client) (attempt : Attempt) : Prop :=
  call.client = client ∧ call.response = .status .rcBusy ∧
    call.attempt.switched = attempt

/-- A first attempt, or one that follows a call on the log. -/
def Follows (handled : List Handled) (client : Client) (attempt : Attempt) : Prop :=
  attempt.request.repeats.toNat = 0 ∨
    ∃ call ∈ handled, call.Leads client attempt

/-- A call that a server may have got behind the others. -/
def InTurn (handled : List Handled) (call : Handled) : Prop :=
  call.attempt.request.repeats.toNat ≤ 1 ∧
    Follows handled call.client call.attempt

/-- How a request may have ended behind the calls on the log. -/
def Fair (handled : List Handled) (request : Finished) : Prop :=
  (request.ending = .exceeded →
    request.attempt.request.repeats.toNat = 2 ∧
      Follows handled request.client request.attempt) ∧
  (∀ sum, request.ending = .result sum →
    ⟨request.client, request.attempt, .result sum⟩ ∈ handled ∧
      sum.toNat = request.attempt.request.num1.toNat +
        request.attempt.request.num2.toNat) ∧
  ∀ code, request.ending ≠ .status code

theorem Follows.append {handled : List Handled} {client : Client}
    {attempt : Attempt} (follows : Follows handled client attempt)
    (more : List Handled) : Follows (handled ++ more) client attempt := by
  rcases follows with first | ⟨call, member, leads⟩
  · exact .inl first
  · exact .inr ⟨call, List.mem_append_left more member, leads⟩

theorem Fair.append {handled : List Handled} {request : Finished}
    (fair : Fair handled request) (more : List Handled) :
    Fair (handled ++ more) request := by
  refine ⟨fun gaveUp => ?_, fun sum given => ?_, fair.2.2⟩
  · obtain ⟨repeats, follows⟩ := fair.1 gaveUp
    exact ⟨repeats, follows.append more⟩
  · obtain ⟨member, sums⟩ := fair.2.1 sum given
    exact ⟨List.mem_append_left more member, sums⟩

private theorem Fair.of_exceeded {handled : List Handled} {client : Client}
    {attempt : Attempt} (twice : attempt.request.repeats.toNat = 2)
    (follows : Follows handled client attempt) :
    Fair handled ⟨client, attempt, .exceeded⟩ := by
  refine ⟨fun _ => ⟨twice, follows⟩, ?_, ?_⟩
  · intro sum impossible
    cases impossible
  · intro code impossible
    cases impossible

private theorem Fair.of_result {handled : List Handled} {client : Client}
    {attempt : Attempt} {sum : UInt64}
    (member : ⟨client, attempt, .result sum⟩ ∈ handled)
    (sums : sum.toNat = attempt.request.num1.toNat +
      attempt.request.num2.toNat) :
    Fair handled ⟨client, attempt, .result sum⟩ := by
  refine ⟨?_, ?_, ?_⟩
  · intro impossible
    cases impossible
  · intro shown same
    cases same
    exact ⟨member, sums⟩
  · intro code impossible
    cases impossible

private theorem Fair.of_neither {handled : List Handled} {client : Client}
    {attempt : Attempt} {ending : Ending} (notExceeded : ending ≠ .exceeded)
    (noResult : ∀ sum, ending ≠ .result sum)
    (noStatus : ∀ code, ending ≠ .status code) :
    Fair handled ⟨client, attempt, ending⟩ :=
  ⟨fun exceeded => absurd exceeded notExceeded,
    fun sum result => absurd result (noResult sum), noStatus⟩

/-- Operands that a client draws have a sum in 32 bits. -/
theorem sum_of_draws {client : Client} {num1 num2 : UInt32}
    (draws1 : client.Draws num1) (draws2 : client.Draws num2) :
    (num1 + num2).toUInt64.toNat = num1.toNat + num2.toNat := by
  apply (sum_toNat_iff num1 num2).mpr
  cases client with
  | c =>
      have small1 : num1.toNat < 100 := draws1
      have small2 : num2.toNat < 100 := draws2
      omega
  | cxx =>
      have small1 : num1.toNat ≤ 100 := draws1.2
      have small2 : num2.toNat ≤ 100 := draws2.2
      omega

/-- The client is at this attempt. -/
def Phase.At (attempt : Attempt) : Phase → Prop
  | .calling current => current = attempt
  | .answered current _ => current = attempt
  | _ => False

namespace System

variable {unconverted : Retcode → Exception} {s t : System}
  {action : SystemAction} {client : Client} {attempt : Attempt}

structure Accounted (s : System) : Prop where
  sound : s.Sound
  flying : ∀ client attempt, (s.phase client).At attempt →
    Follows s.handled client attempt
  answered : ∀ client attempt response,
    s.phase client = .answered attempt response →
      ⟨client, attempt, response⟩ ∈ s.handled
  calls : Justified InTurn s.handled
  ends : ∀ request ∈ s.finished, Fair s.handled request

theorem accounted_initial : initial.Accounted where
  sound := sound_initial
  flying _ _ current := current.elim
  answered _ _ _ impossible := by cases impossible
  calls := justified_nil
  ends _ impossible := by cases impossible

theorem Accounted.goOn {reaction : Attempt ⊕ Ending} (accounted : s.Accounted)
    (sound : (s.goOn client attempt reaction).Sound)
    (follows : ∀ next, reaction = .inl next → Follows s.handled client next)
    (fair : ∀ ending, reaction = .inr ending →
      Fair s.handled ⟨client, attempt, ending⟩) :
    (s.goOn client attempt reaction).Accounted where
  sound := sound
  flying := by
    intro other next current
    rw [phase_goOn] at current
    by_cases same : client = other
    · rw [if_pos same] at current
      subst same
      cases reaction with
      | inl started =>
          have begun : started = next := current
          exact follows next (by rw [begun])
      | inr ending => cases ending <;> exact current.elim
    · rw [if_neg same] at current
      exact accounted.flying other next current
  answered := by
    intro other next response current
    rw [phase_goOn] at current
    by_cases same : client = other
    · rw [if_pos same] at current
      cases reaction with
      | inl started => cases current
      | inr ending => cases ending <;> cases current
    · rw [if_neg same] at current
      exact accounted.answered other next response current
  calls := accounted.calls
  ends := by
    intro request member
    rcases List.mem_append.mp member with before | last
    · exact accounted.ends request before
    · cases reaction with
      | inl started => cases last
      | inr ending =>
          rw [List.mem_singleton.mp last]
          exact fair ending rfl

theorem Accounted.serve (accounted : s.Accounted)
    (calling : s.phase client = .calling attempt)
    (few : attempt.request.repeats.toNat ≤ 1) :
    (s.serve client attempt).Accounted := by
  have current : (s.phase client).At attempt := by
    rw [calling]
    rfl
  have follows := accounted.flying client attempt current
  constructor
  · exact accounted.sound.serve calling few
  · intro other next at_
    rw [phase_serve] at at_
    by_cases same : client = other
    · rw [if_pos same] at at_
      have begun : attempt = next := at_
      rw [← same, ← begun]
      exact follows.append _
    · rw [if_neg same] at at_
      exact (accounted.flying other next at_).append _
  · intro other next response at_
    rw [phase_serve] at at_
    by_cases same : client = other
    · rw [if_pos same] at at_
      cases at_
      rw [← same]
      exact List.mem_append_right _ List.mem_cons_self
    · rw [if_neg same] at at_
      exact List.mem_append_left _
        (accounted.answered other next response at_)
  · exact accounted.calls.concat ⟨few, follows⟩
  · intro request member
    exact (accounted.ends request member).append _

private theorem at_of_flying (flying : s.phase client = .calling attempt ∨
    ∃ response, s.phase client = .answered attempt response) :
    (s.phase client).At attempt := by
  rcases flying with calling | ⟨response, answered⟩
  · rw [calling]
    rfl
  · rw [answered]
    rfl

theorem accounted_step (stepped : s.step unconverted action = some t)
    (accounted : s.Accounted) : t.Accounted := by
  have sound := sound_step stepped accounted.sound
  cases moves_of_step stepped with
  | @start client curServer num1 num2 idle draws =>
      rw [enter_eq_goOn] at sound ⊢
      apply accounted.goOn sound
      · intro next same
        cases same
        exact .inl rfl
      · intro ending impossible
        cases impossible
  | @deny client attempt calling many =>
      apply accounted.goOn sound
      · intro next impossible
        cases impossible
      · intro ending same
        cases same
        have valid := accounted.sound.valid client
        rw [calling] at valid
        have follows := accounted.flying client attempt
          (at_of_flying (.inl calling))
        exact .of_exceeded (Nat.le_antisymm valid.1 many) follows
  | serve calling few => exact accounted.serve calling few
  | @receive client attempt response reaction answered busy result =>
      have valid := accounted.sound.valid client
      rw [answered] at valid
      obtain ⟨few, first, second, outcome⟩ := valid
      rcases outcome with turnedAway | summed
      · rw [busy turnedAway] at sound ⊢
        apply accounted.goOn sound
        · intro next same
          cases same
          have member := accounted.answered client attempt response answered
          exact .inr ⟨_, member, rfl, turnedAway, rfl⟩
        · intro ending impossible
          cases impossible
      · rw [result _ summed] at sound ⊢
        apply accounted.goOn sound
        · intro next impossible
          cases impossible
        · intro ending same
          cases same
          apply Fair.of_result _ (sum_of_draws first second)
          rw [← summed]
          exact accounted.answered client attempt response answered
  | @fail client attempt failure reaction flying reacts =>
      have follows := accounted.flying client attempt (at_of_flying flying)
      have valid := (accounted.sound.flying flying).1
      have atMost : attempt.request.repeats.toNat ≤ 2 := valid.1
      apply accounted.goOn sound
      · intro next same
        rw [same] at reacts
        rcases reacts with begun | impossible | ⟨impossible, -⟩ | ⟨_, impossible⟩
        · cases begun
          exact follows
        · cases impossible
        · cases impossible
        · cases impossible
      · intro ending same
        rw [same] at reacts
        rcases reacts with impossible | isOver | ⟨isOver, many⟩ | ⟨thrown, isOver⟩
        · cases impossible
        · cases isOver
          exact .of_neither (by simp) (by simp) (by simp)
        · cases isOver
          exact .of_exceeded (Nat.le_antisymm atMost many) follows
        · cases isOver
          exact .of_neither (by simp) (by simp) (by simp)

theorem accounted_run {actions : List SystemAction}
    (ran : Transition.run (step unconverted) initial actions = some s) :
    s.Accounted :=
  Transition.run_invariant (fun (_ : True) => accounted_step) ran
    (fun _ _ => trivial) accounted_initial

/-- Where a call that follows another has come from. -/
theorem led_of_repeated {calls : List Handled} {next : Attempt}
    (follows : Follows calls client next) (repeated : next.request.repeats.toNat ≠ 0)
    (justified : Justified InTurn calls) :
    ∃ front call back, calls = front ++ call :: back ∧
      call.Leads client next ∧ InTurn front call := by
  rcases follows with first | ⟨call, member, leads⟩
  · exact absurd first repeated
  · obtain ⟨front, back, split, inTurn⟩ := justified.of_mem member
    exact ⟨front, call, back, split, leads, inTurn⟩

/-- In every run, a request that was given up goes back to two calls that the servers
have turned away, one behind the other: the first of the request at one server, and at
the other server the repeated one. -/
theorem exceeded_after_both_servers (unconverted : Retcode → Exception)
    (actions : List SystemAction) (s : System)
    (ran : Transition.run (step unconverted) initial actions = some s)
    (request : Finished) (member : request ∈ s.finished)
    (exceeded : request.ending = .exceeded) :
    ∃ front middle back first second,
      s.handled = front ++ first :: (middle ++ second :: back) ∧
      first.client = request.client ∧ second.client = request.client ∧
      first.response = .status .rcBusy ∧ second.response = .status .rcBusy ∧
      first.attempt.request.repeats.toNat = 0 ∧
      first.attempt.switched = second.attempt ∧
      second.attempt.switched = request.attempt := by
  have accounted := accounted_run ran
  obtain ⟨twice, follows⟩ := (accounted.ends request member).1 exceeded
  obtain ⟨upTo, second, back, split, secondLeads, secondFew, followsFirst⟩ :=
    led_of_repeated follows (by omega) accounted.calls
  have secondOnce : second.attempt.request.repeats.toNat = 1 := by
    have next := switched_repeats secondFew
    rw [secondLeads.2.2] at next
    omega
  have earlier : Justified InTurn upTo :=
    Justified.front (split ▸ accounted.calls)
  obtain ⟨front, first, middle, splitFirst, firstLeads, firstFew, -⟩ :=
    led_of_repeated followsFirst (by omega) earlier
  have firstNever : first.attempt.request.repeats.toNat = 0 := by
    have next := switched_repeats firstFew
    rw [firstLeads.2.2] at next
    omega
  refine ⟨front, middle, back, first, second, ?_, ?_, secondLeads.1,
    firstLeads.2.1, secondLeads.2.1, firstNever, firstLeads.2.2,
    secondLeads.2.2⟩
  · rw [split, splitFirst, List.append_assoc, List.cons_append]
  · rw [firstLeads.1, secondLeads.1]

/-- The C++ client takes a sum from each server, and the C client is turned away by
both. -/
def outpaced : List SystemAction :=
  [.start .cxx .c 1 2, .call .cxx, .receive .cxx,
    .start .cxx .cxx 3 4, .call .cxx, .receive .cxx,
    .start .c .c 5 6, .call .c, .receive .c, .call .c, .receive .c, .call .c]

theorem exceeded_when_outpaced :
    ∃ s request, Transition.run (step fun _ => .unknown) initial outpaced =
        some s ∧ request ∈ s.finished ∧ request.ending = .exceeded ∧
      ∃ first ∈ s.handled, first.client = request.client ∧
        first.attempt.switched.switched = request.attempt := by
  refine ⟨_, ⟨.c, ⟨.c, ⟨2, 5, 6⟩⟩, .exceeded⟩, rfl, by decide, rfl, ?_⟩
  obtain ⟨front, middle, back, first, second, split, same, -, -, -, -, once,
    twice⟩ := exceeded_after_both_servers (fun _ => .unknown) outpaced _ rfl
      ⟨.c, ⟨.c, ⟨2, 5, 6⟩⟩, .exceeded⟩ (by decide) rfl
  refine ⟨first, ?_, same, ?_⟩
  · rw [split]
    exact List.mem_append_right _ List.mem_cons_self
  · rw [once, twice]

/-- In every run, a sum that a client shows is one that a server has given for the
request, and it is the sum of the operands; and no request ends with an error code of
a server. -/
theorem shown_sum_exact (unconverted : Retcode → Exception)
    (actions : List SystemAction) (s : System)
    (ran : Transition.run (step unconverted) initial actions = some s)
    (request : Finished) (member : request ∈ s.finished) :
    (∀ sum, request.ending = .result sum →
      ⟨request.client, request.attempt, .result sum⟩ ∈ s.handled ∧
        sum.toNat = request.attempt.request.num1.toNat +
          request.attempt.request.num2.toNat) ∧
    ∀ code, request.ending ≠ .status code :=
  ((accounted_run ran).ends request member).2

theorem shown_when_outpaced :
    ∃ s request, Transition.run (step fun _ => .unknown) initial outpaced =
        some s ∧ request ∈ s.finished ∧ request.ending = .result 7 ∧
      request.attempt.request.num1.toNat + request.attempt.request.num2.toNat =
        7 := by
  refine ⟨_, ⟨.cxx, ⟨.cxx, ⟨0, 3, 4⟩⟩, .result 7⟩, rfl, by decide, rfl, ?_⟩
  exact ((shown_sum_exact (fun _ => .unknown) outpaced _ rfl
    ⟨.cxx, ⟨.cxx, ⟨0, 3, 4⟩⟩, .result 7⟩ (by decide)).1 7 rfl).2.symm

end System

end KosCeExtra.Summation
