import Mathlib.Algebra.Group.Nat.Defs
import KosCeExtra.Library.Hex

/-!
# The message dump of the AMQP programs

A transcription of `AmqpDump` with `DumpRow` and `RowsEq` from
`examples/rabbitmq/common/utils/utils.cpp`.  The loop takes in one byte at a
time and gives out a row of sixteen one byte late, when the next byte needs the
space.  The arrays `chs` and `oldchs` hold `int`s, and `memccpy` copies bytes;
so `oldchs` is kept as the bytes of its memory.

A line of the dump is a text without its newline.
-/

namespace KosCeExtra.Rabbitmq

abbrev Text := List Char

/-- An `int` that holds a byte, in memory on a little-endian machine. -/
def intBytes (value : UInt8) : List UInt8 :=
  [value, 0, 0, 0]

/-- The memory of an array of such `int`s. -/
def memory (chs : List UInt8) : List UInt8 :=
  chs.flatMap intBytes

/-- `memccpy(dest, src, c, n)`: copy up to `n` bytes, and not more than the first
that equals `c`. -/
def memccpy : List UInt8 → List UInt8 → UInt8 → Nat → List UInt8
  | _ :: dest, byte :: src, c, n + 1 =>
      if byte = c then byte :: dest else byte :: memccpy dest src c n
  | dest, _, _, _ => dest

/-- `a[i] != b[i]` is a comparison of four bytes. -/
def rowsEq (a b : List UInt8) : Bool :=
  (List.range 16).all fun i =>
    (a.drop (4 * i)).take 4 == (b.drop (4 * i)).take 4

/-- `isprint` in the C locale. -/
def isPrint (ch : UInt8) : Bool :=
  decide (0x20 ≤ ch) && decide (ch ≤ 0x7e)

/-- The separator in the middle of a row. -/
def middle (i : Nat) : Text :=
  if i = 8 then " :".toList else []

/-- The bytes of a row from the `i`-th on. -/
def rowBytes : Nat → List UInt8 → Text
  | _, [] => []
  | i, ch :: chs => middle i ++ hexField 2 ch.toNat ++ rowBytes (i + 1) chs

/-- The filling of a row from the `i`-th byte on, for `count` bytes. -/
def rowFilling : Nat → Nat → Text
  | _, 0 => []
  | i, count + 1 => middle i ++ "   ".toList ++ rowFilling (i + 1) count

def rowChars (chs : List UInt8) : Text :=
  chs.map fun ch => if isPrint ch then Char.ofNat ch.toNat else '.'

/-- `DumpRow`, for the bytes of the row and the offset `count - numinrow`. -/
def dumpRow (offset : Nat) (chs : List UInt8) : Text :=
  hexField 8 offset ++
    if chs.length > 0 then
      rowBytes 0 chs ++ rowFilling chs.length (16 - chs.length) ++
        "  ".toList ++ rowChars chs
    else []

def dotsLine : Text :=
  "          .. .. .. .. .. .. .. .. : .. .. .. .. .. .. .. ..".toList

/-- The variables of the loop.  `chs` is the part of the array that is filled, so
`numinrow` is its length; `out` is what has been printed. -/
structure DumpState where
  count : Nat
  chs : List UInt8
  oldchs : List UInt8
  showedDots : Bool
  out : List Text
  deriving DecidableEq, Repr

namespace DumpState

def start : DumpState where
  count := 0
  chs := []
  oldchs := memory (List.replicate 16 0)
  showedDots := false
  out := []

/-- What is printed for a row that is complete. -/
def showRow (state : DumpState) : DumpState :=
  if rowsEq state.oldchs (memory state.chs) = true then
    if state.showedDots = false then
      { state with showedDots := true, out := state.out ++ [dotsLine] }
    else state
  else
    { state with
      showedDots := false
      out := state.out ++
        [dumpRow (state.count - state.chs.length) state.chs] }

/-- The block under `numinrow == 16`. -/
def flushRow (state : DumpState) : DumpState :=
  { state.showRow with
    -- four bytes at most: the first `int` of the row
    oldchs := memccpy state.oldchs (memory state.chs) 16 4
    chs := [] }

/-- The body of the loop. -/
def step (state : DumpState) (ch : UInt8) : DumpState :=
  let state := if state.chs.length = 16 then state.flushRow else state
  { state with count := state.count + 1, chs := state.chs ++ [ch] }

end DumpState

/-- `AmqpDump`, as the lines that it prints. -/
def amqpDump (buf : List UInt8) : List Text :=
  let state := buf.foldl DumpState.step DumpState.start
  let out := state.out ++
    [dumpRow (state.count - state.chs.length) state.chs]
  if state.chs.length ≠ 0 then out ++ [hexField 8 state.count] else out

end KosCeExtra.Rabbitmq
