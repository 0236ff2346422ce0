import Mathlib.Data.List.Basic

/-!
# Programs over one bounds-checked buffer

A `Checked α β` program reads and writes a single buffer of cells and returns
a `β`.  An access outside the buffer stops the run with a `Fault` that names
the offending index, so "no store leaves the buffer" is the statement that a
run does not fault.

The rules at the end describe writing from left to right: the buffer is split
into the cells already written and the cells still to come, and every store
moves one cell across the split.
-/

namespace KosCeExtra

/-- An access outside the buffer, with the index that was used. -/
inductive Fault where
  | load (index : Nat)
  | store (index : Nat)
  deriving DecidableEq, Repr

/-- Computations over a buffer of `α` cells which may fault. -/
abbrev Checked (α β : Type) := StateT (List α) (Except Fault) β

namespace Checked

variable {α β γ : Type}

def load (index : Nat) : Checked α α := fun buffer =>
  if inside : index < buffer.length then
    .ok (buffer.get ⟨index, inside⟩, buffer)
  else
    .error (.load index)

def store (index : Nat) (value : α) : Checked α Unit := fun buffer =>
  if index < buffer.length then
    .ok ((), buffer.set index value)
  else
    .error (.store index)

/-- Store `value` in the `count` cells from `start` on, in increasing order. -/
def fill (start : Nat) (value : α) : Nat → Checked α Unit
  | 0 => pure ()
  | count + 1 => do
      store start value
      fill (start + 1) value count

@[simp] theorem run_pure (value : β) (buffer : List α) :
    (pure value : Checked α β) buffer = .ok (value, buffer) :=
  rfl

theorem run_bind (first : Checked α β) (next : β → Checked α γ)
    (buffer : List α) :
    (first >>= next) buffer =
      match first buffer with
      | .ok (value, changed) => next value changed
      | .error fault => .error fault := by
  change (first buffer).bind (fun result => next result.1 result.2) = _
  cases first buffer <;> rfl

theorem run_bind_ok {first : Checked α β} {next : β → Checked α γ}
    {buffer changed : List α} {value : β}
    (ran : first buffer = .ok (value, changed)) :
    (first >>= next) buffer = next value changed := by
  rw [run_bind, ran]

theorem run_bind_error {first : Checked α β} {next : β → Checked α γ}
    {buffer : List α} {fault : Fault}
    (faulted : first buffer = .error fault) :
    (first >>= next) buffer = .error fault := by
  rw [run_bind, faulted]

/-- A store at the split moves the first remaining cell to the written side. -/
theorem store_append (written : List α) (old value : α) (rest : List α) :
    store written.length value (written ++ old :: rest) =
      .ok ((), written ++ value :: rest) := by
  simp [store]

/-- A store at the end of the buffer faults. -/
theorem store_end (written : List α) (value : α) :
    store written.length value written = .error (.store written.length) := by
  simp [store]

/-- `store_append` with the index and the split apart. -/
theorem store_at {index : Nat} {written : List α}
    (place : written.length = index) (old value : α) (rest : List α) :
    store index value (written ++ old :: rest) =
      .ok ((), (written ++ [value]) ++ rest) := by
  subst place
  simp [store_append]

theorem load_at {index : Nat} {written : List α}
    (place : written.length = index) (cell : α) (rest : List α) :
    load index (written ++ cell :: rest) =
      .ok (cell, written ++ cell :: rest) := by
  subst place
  simp [load]

/-- Two stores without room for both leave the buffer. -/
theorem stores_fault (written rest : List α) (first second : α)
    (next : Unit → Checked α β) (full : rest.length < 2) :
    ∃ fault, (do
      store written.length first
      store (written.length + 1) second
      next () : Checked α β) (written ++ rest) = .error fault := by
  obtain _ | ⟨old, _ | ⟨_, _⟩⟩ := rest
  · refine ⟨.store written.length, run_bind_error ?_⟩
    simpa using store_end written first
  · have ended := store_end (written ++ [first]) second
    simp only [List.length_append, List.length_singleton] at ended
    refine ⟨.store (written.length + 1), ?_⟩
    rw [run_bind_ok (store_at rfl old first []), List.append_nil]
    exact run_bind_error ended
  · simp only [List.length_cons] at full
    omega

/-- Filling from the split overwrites exactly the next `count` cells. -/
theorem fill_append (written : List α) (value : α) (rest : List α)
    (count : Nat) (room : count ≤ rest.length) :
    fill written.length value count (written ++ rest) =
      .ok ((), written ++ List.replicate count value ++ rest.drop count) := by
  induction count generalizing written rest with
  | zero => simp [fill]
  | succ count induction =>
      cases rest with
      | nil => simp at room
      | cons old rest =>
          have fits : count ≤ rest.length := by simpa using room
          rw [fill, run_bind_ok (store_append written old value rest)]
          have step := induction (written ++ [value]) rest fits
          simpa [List.replicate_succ] using step

end Checked

end KosCeExtra
