import Mathlib.Data.List.Infix
import Mathlib.Data.List.TakeWhile

/-!
# Words separated by one symbol

A text is cut at the first separator by going on while there is none.  A word
that does not hold the separator lies inside one of the pieces a text is made of,
never across two of them.
-/

namespace KosCeExtra

variable {α : Type}

section Cut

variable [BEq α] [LawfulBEq α] {separator : α} {before : List α}
  (free : separator ∉ before)

include free

private theorem bne_of_not_mem :
    ∀ item ∈ before, (item != separator) = true := by
  intro item member
  simp only [bne_iff_ne]
  rintro rfl
  exact free member

theorem takeWhile_bne_append (after : List α) :
    (before ++ after).takeWhile (· != separator) =
      before ++ after.takeWhile (· != separator) :=
  List.takeWhile_append_of_pos (bne_of_not_mem free)

theorem dropWhile_bne_append (after : List α) :
    (before ++ after).dropWhile (· != separator) =
      after.dropWhile (· != separator) :=
  List.dropWhile_append_of_pos (bne_of_not_mem free)

theorem takeWhile_bne_eq_self :
    before.takeWhile (· != separator) = before :=
  List.takeWhile_eq_self_iff.mpr (bne_of_not_mem free)

theorem dropWhile_bne_eq_nil : before.dropWhile (· != separator) = [] :=
  List.dropWhile_eq_nil_iff.mpr (bne_of_not_mem free)

end Cut

private theorem mem_intersperse_of_mem {separator item : α} {items : List α}
    (member : item ∈ items) : item ∈ items.intersperse separator := by
  induction items with
  | nil => cases member
  | cons head tail induction =>
      cases tail with
      | nil => exact member
      | cons next rest =>
          rw [List.intersperse_cons_cons]
          rcases List.mem_cons.mp member with rfl | later
          · exact List.mem_cons_self
          · exact List.mem_cons_of_mem _ (List.mem_cons_of_mem _ (induction later))

/-- Every piece is a stretch of the text it was cut from. -/
theorem infix_of_mem_splitOn [BEq α] [LawfulBEq α] {separator : α}
    {text piece : List α} (member : piece ∈ text.splitOn separator) :
    piece <:+: text := by
  have joined : [separator].intercalate (text.splitOn separator) = text :=
    List.intercalate_splitOn separator
  have inside : piece <:+: [separator].intercalate (text.splitOn separator) :=
    List.infix_of_mem_flatten (mem_intersperse_of_mem member)
  rwa [joined] at inside

/-- A word without the separator does not reach across it. -/
theorem infix_append_separator {separator : α} {word : List α}
    (free : separator ∉ word) {before after : List α}
    (inside : word <:+: before ++ separator :: after) :
    word <:+: before ∨ word <:+: after := by
  rcases List.infix_append_iff.mp inside with left | right | across
  · exact .inl left
  · rcases List.infix_cons_iff.mp right with start | later
    · cases word with
      | nil => exact .inr List.nil_infix
      | cons head rest =>
          obtain ⟨tail, same⟩ := start
          obtain ⟨rfl, -⟩ := List.cons.inj same
          exact absurd List.mem_cons_self free
    · exact .inr later
  · obtain ⟨left, right, rfl, suffix, start⟩ := across
    cases right with
    | nil =>
        rw [List.append_nil]
        exact .inl suffix.isInfix
    | cons head rest =>
        obtain ⟨tail, same⟩ := start
        obtain ⟨rfl, -⟩ := List.cons.inj same
        exact absurd (List.mem_append_right left List.mem_cons_self) free

/-- A word without the separator lies inside one of the joined pieces. -/
theorem infix_intercalate {separator : α} {word : List α}
    (free : separator ∉ word) (nonempty : word ≠ [])
    {pieces : List (List α)}
    (inside : word <:+: [separator].intercalate pieces) :
    ∃ piece ∈ pieces, word <:+: piece := by
  induction pieces with
  | nil =>
      rw [List.intercalate_nil] at inside
      exact absurd (List.infix_nil.mp inside) nonempty
  | cons first rest induction =>
      by_cases last : rest = []
      · subst last
        rw [List.intercalate_singleton] at inside
        exact ⟨first, List.mem_cons_self, inside⟩
      · rw [List.intercalate_cons_of_ne_nil last, List.append_assoc] at inside
        rcases infix_append_separator free inside with here | later
        · exact ⟨first, List.mem_cons_self, here⟩
        · obtain ⟨piece, member, found⟩ := induction later
          exact ⟨piece, List.mem_cons_of_mem _ member, found⟩

/-- Pieces that do not hold the separator are what they are cut into again when each is
followed by one. -/
theorem splitOn_flatMap_append [BEq α] [LawfulBEq α] {separator : α}
    {pieces : List (List α)} (free : ∀ piece ∈ pieces, separator ∉ piece) :
    (pieces.flatMap (· ++ [separator])).splitOn separator = pieces ++ [[]] := by
  induction pieces with
  | nil => exact List.splitOn_nil separator
  | cons first rest induction =>
      rw [List.flatMap_cons, List.append_assoc, List.singleton_append,
        List.splitOn_append_cons_self_of_not_mem (free first List.mem_cons_self),
        induction fun piece member => free piece (List.mem_cons_of_mem _ member),
        List.cons_append]

/-- Two separators in a row leave an empty piece between them. -/
theorem nil_mem_splitOn_of_infix [BEq α] [LawfulBEq α] {separator : α}
    {text : List α} (doubled : [separator, separator] <:+: text) :
    [] ∈ text.splitOn separator := by
  obtain ⟨before, after, rfl⟩ := doubled
  have cut : before ++ [separator, separator] ++ after =
      before ++ separator :: ([] ++ separator :: after) := by
    simp
  rw [cut, List.splitOn_append_cons_self, List.splitOn_append_cons_self]
  simp

end KosCeExtra
