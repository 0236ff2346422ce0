import KosCeExtra.Library.Separated

/-!
# Reading a text up to a delimiter

`TextStream` is the part of an input string stream that `std::getline` works
on: the characters still to come and the two state bits.  `getline` follows
the library's rules: a stream that is not good fails without touching the
string, the delimiter is taken off the stream but not stored, the end of the
text sets `eof`, and reading nothing at all sets `fail` as well.
-/

namespace KosCeExtra

structure TextStream where
  rest : List Char
  eof : Bool
  fail : Bool
  deriving DecidableEq, Repr

namespace TextStream

/-- A fresh stream over a text. -/
def ofText (text : List Char) : TextStream :=
  ⟨text, false, false⟩

/-- The state of the stream as a condition: `operator bool`. -/
def ok (stream : TextStream) : Bool :=
  !stream.fail

/-- `std::getline(stream, line, delimiter)`, with the string it leaves. -/
def getline (stream : TextStream) (line : List Char) (delimiter : Char) :
    TextStream × List Char :=
  if stream.eof || stream.fail then
    (⟨stream.rest, stream.eof, true⟩, line)
  else
    let before := stream.rest.takeWhile (· != delimiter)
    match stream.rest.dropWhile (· != delimiter) with
    | _ :: after => (⟨after, false, false⟩, before)
    | [] => (⟨[], true, stream.rest.isEmpty⟩, before)

theorem getline_not_good {stream : TextStream}
    (bad : (stream.eof || stream.fail) = true) (line : List Char)
    (delimiter : Char) :
    stream.getline line delimiter =
      (⟨stream.rest, stream.eof, true⟩, line) := by
  simp [getline, bad]

/-- The delimiter ends the line. -/
theorem getline_delimited {before : List Char} {delimiter : Char}
    (free : delimiter ∉ before) (after line : List Char) :
    (ofText (before ++ delimiter :: after)).getline line delimiter =
      (ofText after, before) := by
  simp [getline, ofText, takeWhile_bne_append free, dropWhile_bne_append free]

/-- The end of the text ends the line too. -/
theorem getline_last {text : List Char} {delimiter : Char}
    (free : delimiter ∉ text) (line : List Char) :
    (ofText text).getline line delimiter =
      (⟨[], true, text.isEmpty⟩, text) := by
  simp [getline, ofText, takeWhile_bne_eq_self free, dropWhile_bne_eq_nil free]

/-- A line that was read took at least one character off a good stream. -/
theorem getline_rest_lt {stream : TextStream} {line : List Char}
    {delimiter : Char} (read : (stream.getline line delimiter).1.ok = true) :
    (stream.getline line delimiter).1.rest.length < stream.rest.length := by
  cases good : (stream.eof || stream.fail) with
  | true => simp [getline_not_good good, ok] at read
  | false =>
      have shorter := (List.dropWhile_suffix (· != delimiter)
        (l := stream.rest)).length_le
      simp only [getline, good, Bool.false_eq_true, if_false] at read ⊢
      cases tail : stream.rest.dropWhile (· != delimiter) with
      | nil =>
          simp only [tail, ok] at read ⊢
          cases empty : stream.rest with
          | nil => simp [empty] at read
          | cons head rest => simp
      | cons head after =>
          simp only [tail, List.length_cons] at shorter ⊢
          omega

end TextStream

end KosCeExtra
