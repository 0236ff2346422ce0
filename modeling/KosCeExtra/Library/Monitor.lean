import KosCeExtra.Library.Dialogue

/-!
# Monitors

A monitor reads the record of a program, exchange by exchange, and moves from state to
state; where a call must not be made it has no next state.  A program is watched from a
state if the monitor accepts everything that the program puts on the record, whatever
the outside replies.  There is one rule for each way to build a program, also for
programs that an error ends early, and for programs whose calls are some of the calls
of another.
-/

namespace KosCeExtra

/-- What a state becomes behind an exchange, where the call is allowed. -/
abbrev Monitor (Call : Type) (Reply : Call → Type) (σ : Type) :=
  σ → Exchange Call Reply → Option σ

namespace Monitor

variable {Call : Type} {Reply : Call → Type} {σ α β : Type}
  {monitor : Monitor Call Reply σ} {state : σ}

def after (monitor : Monitor Call Reply σ) (state : σ) :
    List (Exchange Call Reply) → Option σ
  | [] => some state
  | exchange :: record =>
      (monitor state exchange).bind fun next => monitor.after next record

theorem after_append (monitor : Monitor Call Reply σ) (state : σ)
    (front back : List (Exchange Call Reply)) :
    monitor.after state (front ++ back) =
      (monitor.after state front).bind fun next => monitor.after next back := by
  induction front generalizing state with
  | nil => rfl
  | cons exchange front induction =>
      rw [List.cons_append, after, after, Option.bind_assoc]
      congr
      funext next
      exact induction next

theorem after_concat {start : σ} {record : List (Exchange Call Reply)}
    (reached : monitor.after start record = some state)
    (exchange : Exchange Call Reply) :
    monitor.after start (record ++ [exchange]) = monitor state exchange := by
  rw [after_append, reached, Option.bind_some, after]
  cases monitor state exchange with
  | none => rfl
  | some next => rfl

/-- What is on an accepted record has been accepted in some state. -/
theorem step_of_mem {start finish : σ} {record : List (Exchange Call Reply)}
    (reached : monitor.after start record = some finish)
    {exchange : Exchange Call Reply} (member : exchange ∈ record) :
    ∃ before next, monitor before exchange = some next := by
  induction record generalizing start with
  | nil => cases member
  | cons first record induction =>
      obtain ⟨next, stepped, continued⟩ := Option.bind_eq_some_iff.mp reached
      rcases List.mem_cons.mp member with rfl | later
      · exact ⟨start, next, stepped⟩
      · exact induction continued later

/-- A mark that an accepted exchange leaves, and that is in no state before it, is on
the record. -/
theorem exists_of_marked {Marked : σ → Prop} {Marks : Exchange Call Reply → Prop}
    (marks : ∀ state exchange next, monitor state exchange = some next →
      Marked next → Marked state ∨ Marks exchange)
    {start finish : σ} {record : List (Exchange Call Reply)}
    (reached : monitor.after start record = some finish) (marked : Marked finish)
    (unmarked : ¬ Marked start) : ∃ exchange ∈ record, Marks exchange := by
  induction record generalizing start with
  | nil =>
      cases reached
      exact absurd marked unmarked
  | cons exchange record induction =>
      obtain ⟨next, stepped, continued⟩ := Option.bind_eq_some_iff.mp reached
      by_cases already : Marked next
      · rcases marks start exchange next stepped already with before | now
        · exact absurd before unmarked
        · exact ⟨exchange, List.mem_cons_self, now⟩
      · obtain ⟨later, member, leaves⟩ := induction continued already
        exact ⟨later, List.mem_cons_of_mem _ member, leaves⟩

/-- A mark that no accepted exchange wipes off is there behind the exchange that has
left it. -/
theorem marked_of_mem {Marked : σ → Prop} {Marks : Exchange Call Reply → Prop}
    (marks : ∀ state exchange next, monitor state exchange = some next →
      Marks exchange ∨ Marked state → Marked next)
    {start finish : σ} {record : List (Exchange Call Reply)}
    (reached : monitor.after start record = some finish)
    (marked : Marked start ∨ ∃ exchange ∈ record, Marks exchange) :
    Marked finish := by
  induction record generalizing start with
  | nil =>
      cases reached
      rcases marked with already | ⟨exchange, impossible, -⟩
      · exact already
      · cases impossible
  | cons exchange record induction =>
      obtain ⟨next, stepped, continued⟩ := Option.bind_eq_some_iff.mp reached
      apply induction continued
      rcases marked with already | ⟨marker, member, leaves⟩
      · exact .inl (marks start exchange next stepped (.inr already))
      · rcases List.mem_cons.mp member with rfl | later
        · exact .inl (marks start marker next stepped (.inl leaves))
        · exact .inr ⟨marker, later, leaves⟩

/-- What every exchange adds to what is owed, or pays of it, is added and paid in this
order on the whole record. -/
theorem balanced {ω : Type} {added paid : Exchange Call Reply → List ω}
    {owed : σ → List ω}
    (steps : ∀ state exchange next, monitor state exchange = some next →
      owed state ++ added exchange = paid exchange ++ owed next)
    {start finish : σ} {record : List (Exchange Call Reply)}
    (reached : monitor.after start record = some finish) :
    owed start ++ record.flatMap added = record.flatMap paid ++ owed finish := by
  induction record generalizing start with
  | nil =>
      cases reached
      simp
  | cons exchange record induction =>
      obtain ⟨next, stepped, continued⟩ := Option.bind_eq_some_iff.mp reached
      rw [List.flatMap_cons, List.flatMap_cons, ← List.append_assoc,
        steps start exchange next stepped, List.append_assoc, List.append_assoc,
        induction continued]

/-- From a state, the monitor accepts what the program does, and the result and the
state behind it have the property. -/
def Watches (monitor : Monitor Call Reply σ) (state : σ)
    (program : Dialogue Call Reply α) (Post : α → σ → Prop) : Prop :=
  ∀ start world record, monitor.after start record = some state →
    ∃ next, monitor.after start (program.run world record).2 = some next ∧
      Post (program.run world record).1 next

theorem Watches.pure {value : α} {Post : α → σ → Prop}
    (holds : Post value state) : Watches monitor state (Pure.pure value) Post := by
  intro start world record reached
  exact ⟨state, reached, holds⟩

theorem Watches.of_imp {program : Dialogue Call Reply α}
    {Stronger Post : α → σ → Prop}
    (watches : Watches monitor state program Stronger)
    (weaker : ∀ value next, Stronger value next → Post value next) :
    Watches monitor state program Post := by
  intro start world record reached
  obtain ⟨next, accepted, holds⟩ := watches start world record reached
  exact ⟨next, accepted, weaker _ next holds⟩

theorem Watches.ask {call : Call} {Post : Reply call → σ → Prop}
    (accepts : ∀ reply, ∃ next, monitor state ⟨call, reply⟩ = some next ∧
      Post reply next) :
    Watches monitor state (Dialogue.ask call) Post := by
  intro start world record reached
  rw [Dialogue.run_ask, after_concat reached]
  exact accepts _

theorem Watches.bind {first : Dialogue Call Reply α}
    {next : α → Dialogue Call Reply β} {M : α → σ → Prop} {Post : β → σ → Prop}
    (before : Watches monitor state first M)
    (after : ∀ value reached, M value reached →
      Watches monitor reached (next value) Post) :
    Watches monitor state (first >>= next) Post := by
  intro start world record reached
  obtain ⟨middle, accepted, holds⟩ := before start world record reached
  rw [Dialogue.run_bind]
  exact after _ middle holds start world _ accepted

/-- A call whose reply decides on the next state. -/
theorem Watches.askThen {call : Call} {f : Reply call → σ}
    {next : Reply call → Dialogue Call Reply β} {Post : β → σ → Prop}
    (steps : ∀ reply, monitor state ⟨call, reply⟩ = some (f reply))
    (after : ∀ reply, Watches monitor (f reply) (next reply) Post) :
    Watches monitor state (Dialogue.ask call >>= next) Post := by
  apply Watches.bind (M := fun reply reached => reached = f reply)
  · apply Watches.ask
    intro reply
    exact ⟨f reply, steps reply, rfl⟩
  · intro reply reached same
    rw [same]
    exact after reply

theorem Watches.ite {condition : Prop} [Decidable condition]
    {yes no : Dialogue Call Reply α} {Post : α → σ → Prop}
    (whenTrue : condition → Watches monitor state yes Post)
    (whenFalse : ¬ condition → Watches monitor state no Post) :
    Watches monitor state (if condition then yes else no) Post := by
  by_cases decided : condition
  · rw [if_pos decided]
    exact whenTrue decided
  · rw [if_neg decided]
    exact whenFalse decided

/-- Polling keeps what holds until a reply decides. -/
theorem Watches.poll {call : Call} {verdict : Reply call → Option α}
    {timedOut : α} {I : σ → Prop} {Post : α → σ → Prop}
    (turns : ∀ reached, I reached → ∀ reply,
      ∃ next, monitor reached ⟨call, reply⟩ = some next ∧
        (verdict reply).elim (I next) fun result => Post result next)
    (gives : ∀ reached, I reached → Post timedOut reached) (holds : I state)
    (tries : Nat) :
    Watches monitor state (Dialogue.poll call verdict timedOut tries) Post := by
  induction tries generalizing state with
  | zero => exact .pure (gives state holds)
  | succ tries induction =>
      apply Watches.bind (M := fun reply next =>
        (verdict reply).elim (I next) fun result => Post result next)
      · exact .ask (turns state holds)
      · intro reply next mid
        cases decided : verdict reply with
        | none =>
            rw [decided] at mid
            exact induction mid
        | some result =>
            rw [decided] at mid
            exact .pure mid

/-- What holds behind a loop, and where it has not come to its end. -/
def Settled (Post : α → σ → Prop) (Waiting : σ → Prop) : Option α → σ → Prop
  | some value => Post value
  | none => Waiting

/-- A loop keeps what holds of its variables and the state of the monitor together. -/
theorem Watches.retry {τ : Type} {call : τ → Call}
    {body : (current : τ) → Reply (call current) → τ ⊕ α} {I : τ → σ → Prop}
    {Post : α → σ → Prop} {Waiting : σ → Prop}
    (turns : ∀ current reached, I current reached → ∀ reply,
      ∃ next, monitor reached ⟨call current, reply⟩ = some next ∧
        Sum.elim I Post (body current reply) next)
    (waits : ∀ current reached, I current reached → Waiting reached)
    {current : τ} (holds : I current state) (attempts : Nat) :
    Watches monitor state (Dialogue.retry call body attempts current)
      (Settled Post Waiting) := by
  induction attempts generalizing current state with
  | zero => exact .pure (waits current state holds)
  | succ attempts induction =>
      apply Watches.bind
        (M := fun reply next => Sum.elim I Post (body current reply) next)
      · exact .ask (turns current state holds)
      · intro reply next mid
        cases turned : body current reply with
        | inl again =>
            rw [turned] at mid
            exact induction mid
        | inr result =>
            rw [turned] at mid
            exact .pure mid

/-- What the monitor makes of the calls of an embedded program. -/
def within {Inner : Type} (monitor : Monitor Call Reply σ)
    (inject : Inner → Call) :
    Monitor Inner (fun call => Reply (inject call)) σ :=
  fun state exchange => monitor state ⟨inject exchange.1, exchange.2⟩

theorem after_within {Inner : Type} (inject : Inner → Call) (state : σ)
    (record : List (Exchange Inner fun call => Reply (inject call))) :
    (monitor.within inject).after state record = monitor.after state
      (record.map fun exchange => ⟨inject exchange.1, exchange.2⟩) := by
  induction record generalizing state with
  | nil => rfl
  | cons exchange record induction =>
      rw [List.map_cons, after, after]
      congr
      funext next
      exact induction next

theorem Watches.embed {Inner : Type} {inject : Inner → Call}
    {program : Dialogue Inner (fun call => Reply (inject call)) α}
    {Post : α → σ → Prop}
    (watches : Watches (monitor.within inject) state program Post) :
    Watches monitor state (Dialogue.embed inject program) Post := by
  intro start world record reached
  obtain ⟨next, accepted, holds⟩ := watches state
    (fun index call => world (record.length + index) (inject call)) [] rfl
  refine ⟨next, ?_, holds⟩
  rw [after_within] at accepted
  simp only [Dialogue.run, Dialogue.embed]
  rw [after_append, reached]
  exact accepted

section Except

variable {ε : Type}

/-- What holds behind a program that an error may end. -/
def Either (Post : α → σ → Prop) (Failed : ε → σ → Prop) :
    Except ε α → σ → Prop
  | .ok value => Post value
  | .error error => Failed error

variable {Failed : ε → σ → Prop}

theorem Watches.bindExcept {first : ExceptT ε (Dialogue Call Reply) α}
    {next : α → ExceptT ε (Dialogue Call Reply) β} {M : α → σ → Prop}
    {Post : β → σ → Prop}
    (before : Watches monitor state first.run (Either M Failed))
    (after : ∀ value reached, M value reached →
      Watches monitor reached (next value).run (Either Post Failed)) :
    Watches monitor state (first >>= next).run (Either Post Failed) := by
  rw [ExceptT.run_bind]
  apply Watches.bind before
  intro outcome reached mid
  cases outcome with
  | ok value => exact after value reached mid
  | error error => exact .pure mid

theorem Watches.pureExcept {value : α} {Post : α → σ → Prop}
    (holds : Post value state) :
    Watches monitor state
      (Pure.pure value : ExceptT ε (Dialogue Call Reply) α).run
      (Either Post Failed) :=
  .pure holds

theorem Watches.iteExcept {condition : Prop} [Decidable condition]
    {yes no : ExceptT ε (Dialogue Call Reply) α} {Post : Except ε α → σ → Prop}
    (whenTrue : condition → Watches monitor state yes.run Post)
    (whenFalse : ¬ condition → Watches monitor state no.run Post) :
    Watches monitor state (if condition then yes else no).run Post :=
  .ite whenTrue whenFalse

theorem Watches.throwExcept {error : ε} {Post : α → σ → Prop}
    (failed : Failed error state) :
    Watches monitor state
      (throw error : ExceptT ε (Dialogue Call Reply) α).run
      (Either Post Failed) :=
  .pure failed

theorem Watches.lift {program : Dialogue Call Reply α} {Post : α → σ → Prop}
    (watches : Watches monitor state program Post) :
    Watches monitor state
      (liftM program : ExceptT ε (Dialogue Call Reply) α).run
      (Either Post Failed) := by
  change Watches monitor state
    (program >>= fun value => Pure.pure (Except.ok value)) _
  apply Watches.bind watches
  intro value reached holds
  exact .pure holds

/-- A call of such a program whose reply decides on the next state. -/
theorem Watches.callThen {call : Call} {f : Reply call → σ}
    {next : Reply call → ExceptT ε (Dialogue Call Reply) β} {Post : β → σ → Prop}
    (steps : ∀ reply, monitor state ⟨call, reply⟩ = some (f reply))
    (after : ∀ reply, Watches monitor (f reply) (next reply).run
      (Either Post Failed)) :
    Watches monitor state
      ((liftM (Dialogue.ask call : Dialogue Call Reply _) :
        ExceptT ε (Dialogue Call Reply) _) >>= next).run (Either Post Failed) := by
  apply Watches.bindExcept (M := fun reply reached => reached = f reply)
  · apply Watches.lift
    apply Watches.ask
    intro reply
    exact ⟨f reply, steps reply, rfl⟩
  · intro reply reached same
    rw [same]
    exact after reply

end Except

end Monitor

end KosCeExtra
