import Mathlib.Data.List.TakeDrop
import KosCeExtra.Rabbitmq.AmqpDump

/-!
# The rows of a dump

The lines that `AmqpDump` prints, row by row.  A complete row is compared with
`oldRow`, which is what the loop has kept of the row before it: the copy of four
bytes brings over the first `int`, and the zeros behind it are those of the
start.
-/

namespace KosCeExtra.Rabbitmq

/-- The bytes from `16 * k` on that share a row. -/
def rowAt (buf : List UInt8) (k : Nat) : List UInt8 :=
  (buf.drop (16 * k)).take 16

/-- The rows that are complete before the last row starts. -/
def completeRows (buf : List UInt8) : Nat :=
  (buf.length - 1) / 16

/-- What a row is compared with. -/
def oldRow (buf : List UInt8) : Nat → List UInt8
  | 0 => List.replicate 16 0
  | k + 1 => (rowAt buf k).take 1 ++ List.replicate 15 0

/-- The lines for the first rows, and whether the last of them are dots. -/
def shownRows (buf : List UInt8) : Nat → List Text × Bool
  | 0 => ([], false)
  | k + 1 =>
      if oldRow buf k = rowAt buf k then
        (if (shownRows buf k).2 = false then
            (shownRows buf k).1 ++ [dotsLine]
          else (shownRows buf k).1, true)
      else
        ((shownRows buf k).1 ++ [dumpRow (16 * k) (rowAt buf k)], false)

theorem rowAt_length {buf : List UInt8} {k : Nat}
    (complete : 16 * (k + 1) ≤ buf.length) : (rowAt buf k).length = 16 := by
  rw [rowAt, List.length_take, List.length_drop]
  omega

theorem rowAt_length_le (buf : List UInt8) (k : Nat) :
    (rowAt buf k).length ≤ 16 :=
  List.length_take_le 16 _

theorem memory_cons (ch : UInt8) (chs : List UInt8) :
    memory (ch :: chs) = intBytes ch ++ memory chs :=
  List.flatMap_cons

private theorem memory_take (chs : List UInt8) (i : Nat) :
    ((memory chs).drop (4 * i)).take 4 = memory ((chs.drop i).take 1) := by
  induction chs generalizing i with
  | nil => simp [memory]
  | cons ch chs induction =>
      cases i with
      | zero => simp [memory, intBytes]
      | succ i =>
          have word : (intBytes ch).length = 4 := rfl
          rw [memory_cons, Nat.mul_succ, Nat.add_comm,
            ← List.drop_drop, List.drop_left' word]
          exact induction i

private theorem memory_injective {a b : List UInt8} (same : memory a = memory b) :
    a = b := by
  induction a generalizing b with
  | nil =>
      cases b with
      | nil => rfl
      | cons ch chs => cases same
  | cons first rest induction =>
      cases b with
      | nil => cases same
      | cons ch chs =>
          simp only [memory_cons, intBytes, List.cons_append,
            List.nil_append, List.cons.injEq, true_and] at same
          rw [same.1, induction same.2]

/-- `RowsEq` compares all of two rows. -/
theorem rowsEq_memory {a b : List UInt8} (left : a.length = 16)
    (right : b.length = 16) :
    rowsEq (memory a) (memory b) = decide (a = b) := by
  rw [Bool.eq_iff_iff, decide_eq_true_iff]
  constructor
  · intro equal
    apply List.ext_getElem (left.trans right.symm)
    intro i inLeft inRight
    have range : i ∈ List.range 16 := List.mem_range.mpr (left ▸ inLeft)
    have ints := eq_of_beq (List.all_eq_true.mp equal i range)
    rw [memory_take, memory_take] at ints
    have singles := memory_injective ints
    rw [List.drop_eq_getElem_cons inLeft, List.drop_eq_getElem_cons inRight]
      at singles
    exact (List.cons.inj singles).1
  · rintro rfl
    rw [rowsEq, List.all_eq_true]
    intro i _
    exact beq_self_eq_true _

/-- The copy of a row stops behind its first `int`, also where that is the byte
`memccpy` looks for. -/
theorem memccpy_memory (old first : UInt8) (rest others : List UInt8) :
    memccpy (memory (old :: others)) (memory (first :: rest)) 16 4 =
      memory (first :: others) := by
  rw [memory_cons, memory_cons, memory_cons]
  by_cases stops : first = 16
  · simp [memccpy, intBytes, stops]
  · simp [memccpy, intBytes, stops]

theorem oldRow_eq_cons (buf : List UInt8) {k : Nat}
    (complete : 16 * k ≤ buf.length) :
    ∃ old, oldRow buf k = old :: List.replicate 15 0 := by
  cases k with
  | zero => exact ⟨0, rfl⟩
  | succ k =>
      have full := rowAt_length complete
      obtain ⟨first, rest, split⟩ :=
        List.exists_cons_of_length_pos (by omega : 0 < (rowAt buf k).length)
      refine ⟨first, ?_⟩
      rw [oldRow, split]
      rfl

private theorem memccpy_oldRow (buf : List UInt8) {k : Nat}
    (complete : 16 * (k + 1) ≤ buf.length) :
    memccpy (memory (oldRow buf k)) (memory (rowAt buf k)) 16 4 =
      memory (oldRow buf (k + 1)) := by
  obtain ⟨old, same⟩ := oldRow_eq_cons buf (by omega : 16 * k ≤ buf.length)
  have full := rowAt_length complete
  obtain ⟨first, rest, split⟩ :=
    List.exists_cons_of_length_pos (by omega : 0 < (rowAt buf k).length)
  rw [same, split, memccpy_memory, oldRow, split]
  rfl

private theorem oldRow_length (buf : List UInt8) {k : Nat}
    (complete : 16 * k ≤ buf.length) : (oldRow buf k).length = 16 := by
  obtain ⟨old, same⟩ := oldRow_eq_cons buf complete
  rw [same, List.length_cons, List.length_replicate]

/-- The loop when `k` rows have been printed. -/
def rowState (buf : List UInt8) (k count : Nat) (chs : List UInt8) :
    DumpState where
  count := count
  chs := chs
  oldchs := memory (oldRow buf k)
  showedDots := (shownRows buf k).2
  out := (shownRows buf k).1

private theorem showRow_rowState (buf : List UInt8) {k : Nat}
    (complete : 16 * (k + 1) ≤ buf.length) :
    (rowState buf k (16 * (k + 1)) (rowAt buf k)).showRow =
      { rowState buf k (16 * (k + 1)) (rowAt buf k) with
        showedDots := (shownRows buf (k + 1)).2
        out := (shownRows buf (k + 1)).1 } := by
  have full := rowAt_length complete
  have offset : 16 * (k + 1) - (rowAt buf k).length = 16 * k := by omega
  let state := rowState buf k (16 * (k + 1)) (rowAt buf k)
  have compared : rowsEq state.oldchs (memory state.chs) =
      decide (oldRow buf k = rowAt buf k) :=
    rowsEq_memory (oldRow_length buf (by omega)) full
  by_cases same : oldRow buf k = rowAt buf k
  · have equal := compared.trans (decide_eq_true same)
    cases dots : (shownRows buf k).2 with
    | false =>
        have fresh : state.showedDots = false := dots
        rw [DumpState.showRow, if_pos equal, if_pos fresh, shownRows,
          if_pos same, if_pos dots]
        rfl
    | true =>
        have showed : ¬ (shownRows buf k).2 = false := by
          rw [Bool.not_eq_false]
          exact dots
        have before : ¬ state.showedDots = false := showed
        rw [DumpState.showRow, if_pos equal, if_neg before, shownRows,
          if_pos same, if_neg showed, ← dots]
        rfl
  · have other : ¬ rowsEq state.oldchs (memory state.chs) = true := by
      rw [compared, decide_eq_true_iff]
      exact same
    rw [DumpState.showRow, if_neg other, shownRows, if_neg same, ← offset]
    rfl

private theorem flushRow_rowState (buf : List UInt8) {k : Nat}
    (complete : 16 * (k + 1) ≤ buf.length) :
    (rowState buf k (16 * (k + 1)) (rowAt buf k)).flushRow =
      rowState buf (k + 1) (16 * (k + 1)) [] := by
  have copied := memccpy_oldRow buf complete
  rw [DumpState.flushRow, showRow_rowState buf complete]
  simp only [rowState, copied]

/-- A byte that finds room in the row. -/
theorem step_rowState (buf : List UInt8) {k count : Nat} {chs : List UInt8}
    (room : chs.length ≠ 16) (ch : UInt8) :
    (rowState buf k count chs).step ch =
      rowState buf k (count + 1) (chs ++ [ch]) := by
  have space : (rowState buf k count chs).chs.length ≠ 16 := room
  rw [DumpState.step, if_neg space]
  rfl

/-- A byte that finds the row full. -/
theorem step_rowState_full (buf : List UInt8) {k : Nat}
    (complete : 16 * (k + 1) ≤ buf.length) (ch : UInt8) :
    (rowState buf k (16 * (k + 1)) (rowAt buf k)).step ch =
      rowState buf (k + 1) (16 * (k + 1) + 1) [ch] := by
  have full : (rowState buf k (16 * (k + 1)) (rowAt buf k)).chs.length = 16 :=
    rowAt_length complete
  rw [DumpState.step, if_pos full, flushRow_rowState buf complete]
  rfl

/-- The loop after `n` bytes: a complete row is printed when the byte behind it
comes in. -/
theorem foldl_step (buf : List UInt8) {n : Nat} (upTo : n ≤ buf.length) :
    (buf.take n).foldl DumpState.step DumpState.start =
      rowState buf ((n - 1) / 16) n
        ((buf.take n).drop (16 * ((n - 1) / 16))) := by
  induction n with
  | zero => rfl
  | succ n induction =>
      have inside : n < buf.length := upTo
      have filled : ((buf.take n).drop (16 * ((n - 1) / 16))).length =
          n - 16 * ((n - 1) / 16) := by
        rw [List.length_drop, List.length_take]
        omega
      rw [List.take_succ_eq_append_getElem inside, List.foldl_append,
        induction (by omega), List.foldl_cons, List.foldl_nil,
        Nat.add_sub_cancel]
      by_cases full : n - 16 * ((n - 1) / 16) = 16
      · -- the byte finds the row full
        obtain ⟨k, rfl⟩ : ∃ k, n = 16 * (k + 1) := ⟨n / 16 - 1, by omega⟩
        have before : (16 * (k + 1) - 1) / 16 = k := by omega
        have after : 16 * (k + 1) / 16 = k + 1 := by omega
        have row : (buf.take (16 * (k + 1))).drop (16 * k) = rowAt buf k := by
          rw [List.drop_take, rowAt]
          congr 1
          omega
        have taken : (buf.take (16 * (k + 1))).length = 16 * (k + 1) := by
          rw [List.length_take]
          omega
        rw [before, after, row, step_rowState_full buf (by omega),
          List.drop_left' taken]
      · have same : n / 16 = (n - 1) / 16 := by omega
        rw [step_rowState buf (filled ▸ full), same,
          List.drop_append_of_le_length]
        rw [List.length_take]
        omega

theorem rowAt_completeRows (buf : List UInt8) :
    rowAt buf (completeRows buf) = buf.drop (16 * completeRows buf) := by
  rw [rowAt]
  apply List.take_of_length_le
  rw [List.length_drop, completeRows]
  omega

/-- A dump: the complete rows, the last row, and the length of the message if it
is not empty. -/
theorem amqpDump_eq (buf : List UInt8) :
    amqpDump buf = (shownRows buf (completeRows buf)).1 ++
      [dumpRow (16 * completeRows buf) (rowAt buf (completeRows buf))] ++
      if buf = [] then [] else [dumpRow buf.length []] := by
  have looped := foldl_step buf (Nat.le_refl buf.length)
  rw [List.take_length] at looped
  have last : buf.drop (16 * ((buf.length - 1) / 16)) =
      rowAt buf (completeRows buf) := (rowAt_completeRows buf).symm
  have offset : buf.length - (rowAt buf (completeRows buf)).length =
      16 * completeRows buf := by
    rw [rowAt_completeRows, List.length_drop, completeRows]
    omega
  rw [amqpDump, looped, last]
  simp only [rowState]
  rw [offset]
  by_cases empty : buf = []
  · subst empty
    rfl
  · have positive := List.length_pos_iff.mpr empty
    have filled : (rowAt buf (completeRows buf)).length ≠ 0 := by
      rw [rowAt_completeRows, List.length_drop, completeRows]
      omega
    rw [if_neg empty]
    refine Eq.trans (if_pos filled) ?_
    simp [dumpRow, completeRows]

end KosCeExtra.Rabbitmq
