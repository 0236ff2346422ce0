import Mathlib.Data.List.Basic

/-!
# Computations with a record of their outside calls

A `Traced κ ε α` computation either returns an `α` or ends with an `ε`, and in
both cases keeps the outside calls it made, in order.  A call that fails is
still on the record: it was made.  `Returns` says that a computation goes through
with exactly some calls, and has a rule for computations one behind the other.
-/

namespace KosCeExtra

structure Traced (κ ε α : Type) where
  calls : List κ
  result : Except ε α
  deriving DecidableEq

namespace Traced

variable {κ ε α β : Type}

protected def pure (value : α) : Traced κ ε α :=
  ⟨[], .ok value⟩

protected def bind (first : Traced κ ε α) (next : α → Traced κ ε β) :
    Traced κ ε β :=
  match first.result with
  | .ok value => ⟨first.calls ++ (next value).calls, (next value).result⟩
  | .error exception => ⟨first.calls, .error exception⟩

instance : Monad (Traced κ ε) where
  pure := Traced.pure
  bind := Traced.bind

/-- One outside call with the answer it is given. -/
def call (made : κ) (answer : Except ε α) : Traced κ ε α :=
  ⟨[made], answer⟩

@[simp] theorem calls_pure (value : α) :
    (pure value : Traced κ ε α).calls = [] :=
  rfl

@[simp] theorem result_pure (value : α) :
    (pure value : Traced κ ε α).result = .ok value :=
  rfl

@[simp] theorem calls_call (made : κ) (answer : Except ε α) :
    (call made answer).calls = [made] :=
  rfl

@[simp] theorem result_call (made : κ) (answer : Except ε α) :
    (call made answer).result = answer :=
  rfl

theorem bind_of_ok {first : Traced κ ε α} {value : α}
    (returned : first.result = .ok value) (next : α → Traced κ ε β) :
    first >>= next =
      ⟨first.calls ++ (next value).calls, (next value).result⟩ := by
  change Traced.bind first next = _
  simp only [Traced.bind, returned]

theorem bind_of_error {first : Traced κ ε α} {exception : ε}
    (threw : first.result = .error exception) (next : α → Traced κ ε β) :
    first >>= next = ⟨first.calls, .error exception⟩ := by
  change Traced.bind first next = _
  simp only [Traced.bind, threw]

/-- A computation goes through exactly when its first part does and the rest
goes through from there. -/
theorem bind_result_ok {first : Traced κ ε α} {next : α → Traced κ ε β}
    {value : β} :
    (first >>= next).result = .ok value ↔
      ∃ middle, first.result = .ok middle ∧
        (next middle).result = .ok value := by
  cases answer : first.result with
  | error exception =>
      rw [bind_of_error answer]
      simp
  | ok middle =>
      rw [bind_of_ok answer]
      simp

/-- The computation makes these calls and returns a value with the property. -/
def Returns (computation : Traced κ ε α) (calls : List κ)
    (property : α → Prop) : Prop :=
  computation.calls = calls ∧
    ∃ value, computation.result = .ok value ∧ property value

theorem returns_pure {property : α → Prop} {value : α} (holds : property value) :
    Returns (pure value : Traced κ ε α) [] property :=
  ⟨rfl, value, rfl, holds⟩

theorem returns_call {property : α → Prop} {value : α} (made : κ)
    (holds : property value) :
    Returns (call made (.ok value) : Traced κ ε α) [made] property :=
  ⟨rfl, value, rfl, holds⟩

theorem Returns.bind {first : Traced κ ε α} {next : α → Traced κ ε β}
    {calls later : List κ} {between : α → Prop} {property : β → Prop}
    (returned : Returns first calls between)
    (goesOn : ∀ value, between value → Returns (next value) later property) :
    Returns (first >>= next) (calls ++ later) property := by
  obtain ⟨made, middle, result, holds⟩ := returned
  obtain ⟨madeLater, value, resultLater, holdsLater⟩ := goesOn middle holds
  rw [bind_of_ok result]
  refine ⟨?_, value, resultLater, holdsLater⟩
  rw [made, madeLater]

end Traced

end KosCeExtra
