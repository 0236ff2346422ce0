import Mathlib.Data.List.Basic

/-!
# Programs that call the outside

A `Dialogue` makes calls and goes on with the replies.  Nothing is known about
the outside: a `World` gives the reply to every call by the number of calls
made before it, and the program leaves a record of the calls with the replies
they got.  Polling, that is making one call over and over until its reply
settles something or the tries are used up, comes with rules that say which
reply ended it and what it has put on the record.  What holds of the record
whatever the replies are is shown by pre- and postconditions.  A loop without a
bound that makes one call a turn is run with a number of attempts; it stops
within a limit exactly when that many attempts are enough.
-/

namespace KosCeExtra

/-- The replies of the outside, by the number of the call. -/
abbrev World (Call : Type) (Reply : Call → Type) :=
  Nat → (call : Call) → Reply call

/-- A call with the reply it got. -/
abbrev Exchange (Call : Type) (Reply : Call → Type) :=
  (call : Call) × Reply call

def Dialogue (Call : Type) (Reply : Call → Type) (α : Type) :=
  World Call Reply → List (Exchange Call Reply) →
    α × List (Exchange Call Reply)

namespace Dialogue

variable {Call : Type} {Reply : Call → Type} {α β : Type}

instance : Monad (Dialogue Call Reply) where
  pure value := fun _ record => (value, record)
  bind first next := fun world record =>
    next (first world record).1 world (first world record).2

def ask (call : Call) : Dialogue Call Reply (Reply call) := fun world record =>
  (world record.length call, record ++ [⟨call, world record.length call⟩])

/-- The result of a program, with the record behind the one it starts from. -/
def run (program : Dialogue Call Reply α) (world : World Call Reply)
    (record : List (Exchange Call Reply)) : α × List (Exchange Call Reply) :=
  program world record

/-- Make a call up to `tries` times, until the verdict on its reply is in. -/
def poll (call : Call) (verdict : Reply call → Option α) (timedOut : α) :
    Nat → Dialogue Call Reply α
  | 0 => pure timedOut
  | tries + 1 => do
      match verdict (← ask call) with
      | some result => pure result
      | none => poll call verdict timedOut tries

/-- A loop that makes one call a turn and decides on the reply whether to turn
again, and from which state; `none` where the attempts do not suffice. -/
def retry {σ : Type} (call : σ → Call)
    (body : (state : σ) → Reply (call state) → σ ⊕ α) :
    Nat → σ → Dialogue Call Reply (Option α)
  | 0, _ => pure none
  | attempts + 1, state => do
      match body state (← ask (call state)) with
      | .inl next => retry call body attempts next
      | .inr result => pure (some result)

/-- A program whose calls are some of the calls of another. -/
def embed {Inner : Type} (inject : Inner → Call)
    (program : Dialogue Inner (fun call => Reply (inject call)) α) :
    Dialogue Call Reply α := fun world record =>
  let inner := program
    (fun index call => world (record.length + index) (inject call)) []
  (inner.1,
    record ++ inner.2.map fun exchange => ⟨inject exchange.1, exchange.2⟩)

/-- A loop comes to its end, with at most `limit` calls made. -/
def StopsWithin (limit : Nat) (loop : Nat → Dialogue Call Reply (Option α))
    (world : World Call Reply) : Prop :=
  ∃ attempts result,
    ((loop attempts).run world []).1 = some result ∧
      ((loop attempts).run world []).2.length ≤ limit

/-- Started with a record that has the first property, a program comes to a
result and a record that have the second, whatever the outside replies. -/
def Triple (Pre : List (Exchange Call Reply) → Prop)
    (program : Dialogue Call Reply α)
    (Post : α → List (Exchange Call Reply) → Prop) : Prop :=
  ∀ world record, Pre record →
    Post (program.run world record).1 (program.run world record).2

/-- One call made `count` times, from the `start`-th call on. -/
def asked (world : World Call Reply) (call : Call) (start count : Nat) :
    List (Exchange Call Reply) :=
  (List.range count).map fun index => ⟨call, world (start + index) call⟩

variable {world : World Call Reply} {record : List (Exchange Call Reply)}

@[simp] theorem run_pure (value : α) :
    (pure value : Dialogue Call Reply α).run world record = (value, record) :=
  rfl

theorem run_bind (first : Dialogue Call Reply α)
    (next : α → Dialogue Call Reply β) :
    (first >>= next).run world record =
      (next (first.run world record).1).run world
        (first.run world record).2 :=
  rfl

@[simp] theorem run_ask (call : Call) :
    (ask call : Dialogue Call Reply _).run world record =
      (world record.length call,
        record ++ [⟨call, world record.length call⟩]) :=
  rfl

@[simp] theorem asked_length (call : Call) (start count : Nat) :
    (asked world call start count).length = count := by
  simp [asked]

theorem mem_asked {call : Call} {start count : Nat}
    {exchange : Exchange Call Reply} :
    exchange ∈ asked world call start count ↔
      ∃ index, index < count ∧
        exchange = ⟨call, world (start + index) call⟩ := by
  simp [asked, eq_comm]

theorem asked_cons (call : Call) (start count : Nat) :
    asked world call start (count + 1) =
      ⟨call, world start call⟩ :: asked world call (start + 1) count := by
  simp [asked, List.range_succ_eq_map, Function.comp_def, Nat.add_assoc,
    Nat.add_comm 1]

section Poll

variable {call : Call} {verdict : Reply call → Option α} {timedOut : α}

theorem run_poll_succ (tries : Nat) :
    (poll call verdict timedOut (tries + 1)).run world record =
      match verdict (world record.length call) with
      | some result =>
          (result, record ++ [⟨call, world record.length call⟩])
      | none => (poll call verdict timedOut tries).run world
          (record ++ [⟨call, world record.length call⟩]) := by
  rw [poll, run_bind, run_ask]
  cases verdict (world record.length call) with
  | none => rfl
  | some result => rfl

/-- The first reply with a verdict ends the polling. -/
theorem run_poll_of_verdict {index tries : Nat} {result : α}
    (early : index < tries)
    (waits : ∀ earlier, earlier < index →
      verdict (world (record.length + earlier) call) = none)
    (ends : verdict (world (record.length + index) call) = some result) :
    (poll call verdict timedOut tries).run world record =
      (result, record ++ asked world call record.length (index + 1)) := by
  induction index generalizing tries record with
  | zero =>
      obtain ⟨tries, rfl⟩ := Nat.exists_eq_succ_of_ne_zero (by omega : tries ≠ 0)
      rw [Nat.add_zero] at ends
      rw [run_poll_succ, ends]
      simp [asked]
  | succ index induction =>
      obtain ⟨tries, rfl⟩ := Nat.exists_eq_succ_of_ne_zero (by omega : tries ≠ 0)
      have first := waits 0 (Nat.succ_pos index)
      rw [Nat.add_zero] at first
      have shift : ∀ later, record.length + (later + 1) =
          (record ++ [(⟨call, world record.length call⟩ :
            Exchange Call Reply)]).length + later := by
        intro later
        rw [List.length_append, List.length_singleton]
        omega
      rw [run_poll_succ, first]
      simp only
      rw [induction (by omega), List.append_assoc,
        asked_cons call record.length (index + 1)]
      · simp
      · intro earlier before
        rw [← shift]
        exact waits (earlier + 1) (by omega)
      · rw [← shift]
        exact ends

/-- Without a verdict all tries are used up. -/
theorem run_poll_of_none {tries : Nat}
    (waits : ∀ earlier, earlier < tries →
      verdict (world (record.length + earlier) call) = none) :
    (poll call verdict timedOut tries).run world record =
      (timedOut, record ++ asked world call record.length tries) := by
  induction tries generalizing record with
  | zero =>
      rw [poll, run_pure]
      simp [asked]
  | succ tries induction =>
      have first := waits 0 (Nat.succ_pos tries)
      rw [Nat.add_zero] at first
      rw [run_poll_succ, first]
      simp only
      rw [induction, List.append_assoc, asked_cons call record.length tries]
      · simp
      · intro earlier before
        have later := waits (earlier + 1) (by omega)
        simpa [Nat.add_assoc, Nat.add_comm 1] using later

/-- Either some first reply brings a verdict, or none does. -/
private theorem verdict_cases (replies : Nat → Option α) (tries : Nat) :
    (∃ index result, index < tries ∧
        (∀ earlier, earlier < index → replies earlier = none) ∧
        replies index = some result) ∨
      ∀ earlier, earlier < tries → replies earlier = none := by
  induction tries with
  | zero =>
      right
      intro earlier impossible
      omega
  | succ tries induction =>
      rcases induction with ⟨index, result, early, waits, ends⟩ | waits
      · exact .inl ⟨index, result, by omega, waits, ends⟩
      · cases last : replies tries with
        | some result => exact .inl ⟨tries, result, by omega, waits, last⟩
        | none =>
            right
            intro earlier before
            rcases Nat.lt_succ_iff_lt_or_eq.mp before with inside | rfl
            · exact waits earlier inside
            · exact last

/-- How polling can come out, with the replies that decide it. -/
theorem run_poll_cases (call : Call) (verdict : Reply call → Option α)
    (timedOut : α) (world : World Call Reply)
    (record : List (Exchange Call Reply)) (tries : Nat) :
    (∃ index result, index < tries ∧
      (∀ earlier, earlier < index →
        verdict (world (record.length + earlier) call) = none) ∧
      verdict (world (record.length + index) call) = some result ∧
      (poll call verdict timedOut tries).run world record =
        (result, record ++ asked world call record.length (index + 1))) ∨
    (∀ earlier, earlier < tries →
      verdict (world (record.length + earlier) call) = none) ∧
    (poll call verdict timedOut tries).run world record =
      (timedOut, record ++ asked world call record.length tries) := by
  rcases verdict_cases
      (fun index => verdict (world (record.length + index) call)) tries with
    ⟨index, result, early, waits, ends⟩ | waits
  · exact .inl ⟨index, result, early, waits, ends,
      run_poll_of_verdict early waits ends⟩
  · exact .inr ⟨waits, run_poll_of_none waits⟩

end Poll

section Triple

variable {Pre : List (Exchange Call Reply) → Prop}

theorem Triple.pure {value : α} {Post : α → List (Exchange Call Reply) → Prop}
    (holds : ∀ record, Pre record → Post value record) :
    Triple Pre (Pure.pure value) Post := by
  intro world record pre
  exact holds record pre

theorem Triple.of_imp {Weaker : List (Exchange Call Reply) → Prop}
    {program : Dialogue Call Reply α}
    {Post : α → List (Exchange Call Reply) → Prop}
    (triple : Triple Weaker program Post)
    (weaker : ∀ record, Pre record → Weaker record) :
    Triple Pre program Post := by
  intro world record pre
  exact triple world record (weaker record pre)

theorem Triple.bind {first : Dialogue Call Reply α}
    {next : α → Dialogue Call Reply β}
    {Mid : α → List (Exchange Call Reply) → Prop}
    {Post : β → List (Exchange Call Reply) → Prop}
    (before : Triple Pre first Mid)
    (after : ∀ value, Triple (Mid value) (next value) Post) :
    Triple Pre (first >>= next) Post := by
  intro world record pre
  rw [run_bind]
  exact after _ world _ (before world record pre)

theorem Triple.ask {call : Call}
    {Post : Reply call → List (Exchange Call Reply) → Prop}
    (holds : ∀ record reply, Pre record →
      Post reply (record ++ [⟨call, reply⟩])) :
    Triple Pre (Dialogue.ask call) Post := by
  intro world record pre
  rw [run_ask]
  exact holds record _ pre

theorem Triple.ite {condition : Prop} [Decidable condition]
    {yes no : Dialogue Call Reply α}
    {Post : α → List (Exchange Call Reply) → Prop}
    (whenTrue : condition → Triple Pre yes Post)
    (whenFalse : ¬ condition → Triple Pre no Post) :
    Triple Pre (if condition then yes else no) Post := by
  by_cases decided : condition
  · rw [if_pos decided]
    exact whenTrue decided
  · rw [if_neg decided]
    exact whenFalse decided

/-- Polling keeps the property it starts with until a reply decides. -/
theorem Triple.poll {call : Call} {verdict : Reply call → Option α}
    {timedOut : α} {Post : α → List (Exchange Call Reply) → Prop}
    (waits : ∀ record reply, Pre record → verdict reply = none →
      Pre (record ++ [⟨call, reply⟩]))
    (decides : ∀ record reply result, Pre record →
      verdict reply = some result → Post result (record ++ [⟨call, reply⟩]))
    (gives : ∀ record, Pre record → Post timedOut record) (tries : Nat) :
    Triple Pre (Dialogue.poll call verdict timedOut tries) Post := by
  intro world record pre
  induction tries generalizing record with
  | zero => exact gives record pre
  | succ tries induction =>
      rw [run_poll_succ]
      cases decided : verdict (world record.length call) with
      | none => exact induction _ (waits record _ pre decided)
      | some result => exact decides record _ result pre decided

end Triple

section Retry

variable {σ : Type} {call : σ → Call}
  {body : (state : σ) → Reply (call state) → σ ⊕ α}

theorem run_retry_succ (attempts : Nat) (state : σ) :
    (retry call body (attempts + 1) state).run world record =
      match body state (world record.length (call state)) with
      | .inl next => (retry call body attempts next).run world
          (record ++ [⟨call state, world record.length (call state)⟩])
      | .inr result => (some result,
          record ++ [⟨call state, world record.length (call state)⟩]) := by
  rw [retry, run_bind, run_ask]
  cases body state (world record.length (call state)) with
  | inl next => rfl
  | inr result => rfl

theorem retry_length_le (attempts : Nat) (state : σ) :
    ((retry call body attempts state).run world record).2.length ≤
      record.length + attempts := by
  induction attempts generalizing state record with
  | zero => simp [retry]
  | succ attempts induction =>
      rw [run_retry_succ]
      cases body state (world record.length (call state)) with
      | inl next =>
          apply Nat.le_trans (induction next)
          rw [List.length_append, List.length_singleton]
          omega
      | inr result =>
          rw [List.length_append, List.length_singleton]
          omega

theorem le_retry_length (attempts : Nat) (state : σ) :
    record.length ≤
      ((retry call body attempts state).run world record).2.length := by
  induction attempts generalizing state record with
  | zero => simp [retry]
  | succ attempts induction =>
      rw [run_retry_succ]
      cases body state (world record.length (call state)) with
      | inl next =>
          refine Nat.le_trans ?_ (induction next)
          rw [List.length_append]
          exact Nat.le_add_right _ _
      | inr result =>
          rw [List.length_append]
          exact Nat.le_add_right _ _

/-- A loop that stopped stops in the same way with as many attempts as it made
calls. -/
theorem retry_of_length_le {attempts limit : Nat} {state : σ} {result : α}
    (stopped : ((retry call body attempts state).run world record).1 =
      some result)
    (short : ((retry call body attempts state).run world record).2.length ≤
      record.length + limit) :
    ((retry call body limit state).run world record).1 = some result := by
  induction attempts generalizing limit state record with
  | zero =>
      rw [retry, run_pure] at stopped
      cases stopped
  | succ attempts induction =>
      rw [run_retry_succ] at stopped short
      cases limit with
      | zero =>
          -- the first turn has already made a call
          exfalso
          cases turn : body state (world record.length (call state)) with
          | inl next =>
              rw [turn] at short
              have longer := Nat.le_trans (le_retry_length attempts next) short
              rw [List.length_append, List.length_singleton] at longer
              omega
          | inr result =>
              rw [turn] at short
              rw [List.length_append, List.length_singleton] at short
              omega
      | succ limit =>
          rw [run_retry_succ]
          cases turn : body state (world record.length (call state)) with
          | inl next =>
              rw [turn] at stopped short
              apply induction stopped
              rw [List.length_append, List.length_singleton]
              simp only at short
              omega
          | inr result =>
              rw [turn] at stopped
              exact stopped

theorem stopsWithin_retry_iff {limit : Nat} {state : σ} :
    StopsWithin limit (retry call body · state) world ↔
      ((retry call body limit state).run world []).1 ≠ none := by
  constructor
  · rintro ⟨attempts, result, stopped, short⟩
    rw [retry_of_length_le stopped (by simpa using short)]
    exact Option.some_ne_none result
  · intro stopped
    obtain ⟨result, same⟩ := Option.ne_none_iff_exists'.mp stopped
    refine ⟨limit, result, same, ?_⟩
    apply Nat.le_trans (retry_length_le limit state)
    simp

end Retry

end Dialogue

end KosCeExtra
