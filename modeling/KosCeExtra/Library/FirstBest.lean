import Mathlib.Data.List.Basic
import Mathlib.Order.Lattice

/-!
# The first of the best entries

Among the entries of a list that are admissible, some have the greatest key, and
one of these comes first.  A pass over the list that keeps the first best entry
of what it has read replaces it only by an admissible entry with a greater key.
-/

namespace KosCeExtra

variable {α κ : Type} [LinearOrder κ]

/-- The entry is admissible, none that is has a greater key, and it is the first
with its key. -/
structure IsFirstBest (Admissible : α → Prop) (key : α → κ) (entries : List α)
    (index : Nat) (entry : α) : Prop where
  here : entries[index]? = some entry
  admissible : Admissible entry
  greatest : ∀ other ∈ entries, Admissible other → key other ≤ key entry
  first : ∀ earlier other, entries[earlier]? = some other →
    Admissible other → key other = key entry → index ≤ earlier

variable {Admissible : α → Prop} {key : α → κ} {entries : List α}
  {index place : Nat} {entry next : α}

theorem IsFirstBest.lt_length
    (best : IsFirstBest Admissible key entries index entry) :
    index < entries.length :=
  (List.getElem?_eq_some_iff.mp best.here).1

theorem IsFirstBest.unique
    (best : IsFirstBest Admissible key entries index entry)
    (other : IsFirstBest Admissible key entries place next) :
    index = place ∧ entry = next := by
  have sameKey : key entry = key next := by
    apply le_antisymm
    · exact other.greatest entry (List.mem_of_getElem? best.here)
        best.admissible
    · exact best.greatest next (List.mem_of_getElem? other.here)
        other.admissible
  have same : index = place := by
    apply Nat.le_antisymm
    · exact best.first place next other.here other.admissible sameKey.symm
    · exact other.first index entry best.here best.admissible sameKey
  subst same
  exact ⟨rfl, Option.some.inj (best.here.symm.trans other.here)⟩

/-- An entry that is not better leaves the first best one as it is. -/
theorem IsFirstBest.concat
    (best : IsFirstBest Admissible key entries index entry)
    (noBetter : Admissible next → key next ≤ key entry) :
    IsFirstBest Admissible key (entries ++ [next]) index entry where
  here := by
    rw [List.getElem?_append_left best.lt_length]
    exact best.here
  admissible := best.admissible
  greatest := by
    intro other member admissible
    rcases List.mem_append.mp member with old | new
    · exact best.greatest other old admissible
    · obtain rfl := List.mem_singleton.mp new
      exact noBetter admissible
  first := by
    intro earlier other found admissible sameKey
    by_cases old : earlier < entries.length
    · rw [List.getElem?_append_left old] at found
      exact best.first earlier other found admissible sameKey
    · exact Nat.le_trans (Nat.le_of_lt best.lt_length) (Nat.not_lt.mp old)

/-- An entry that is better than all before it becomes the first best one. -/
theorem isFirstBest_concat (admissible : Admissible next)
    (better : ∀ other ∈ entries, Admissible other → key other < key next) :
    IsFirstBest Admissible key (entries ++ [next]) entries.length next where
  here := List.getElem?_concat_length
  admissible := admissible
  greatest := by
    intro other member otherAdmissible
    rcases List.mem_append.mp member with old | new
    · exact le_of_lt (better other old otherAdmissible)
    · obtain rfl := List.mem_singleton.mp new
      exact le_rfl
  first := by
    intro earlier other found otherAdmissible sameKey
    by_contra before
    have old := Nat.not_le.mp before
    rw [List.getElem?_append_left old] at found
    have less := better other (List.mem_of_getElem? found) otherAdmissible
    exact ne_of_lt less sameKey

end KosCeExtra
