import Mathlib.Data.List.Basic

/-!
# Logs in which every entry has its reason

A log is justified if each entry stands in a relation to the entries before it.  The
property is kept by an entry that has its reason in the whole log so far.
-/

namespace KosCeExtra

variable {α : Type} {Reason : List α → α → Prop} {log : List α} {entry : α}

def Justified (Reason : List α → α → Prop) (log : List α) : Prop :=
  ∀ front entry back, log = front ++ entry :: back → Reason front entry

theorem justified_nil : Justified Reason [] := by
  intro front entry back split
  cases front with
  | nil => cases split
  | cons head tail => cases split

theorem Justified.concat (justified : Justified Reason log)
    (reason : Reason log entry) : Justified Reason (log ++ [entry]) := by
  intro front other back split
  rcases List.eq_nil_or_concat back with rfl | ⟨inner, last, rfl⟩
  · obtain ⟨rfl, rfl⟩ := List.append_singleton_inj.mp split
    exact reason
  · apply justified front other inner
    rw [List.concat_eq_append, ← List.cons_append, ← List.append_assoc] at split
    exact (List.append_singleton_inj.mp split).1

theorem Justified.front {back : List α}
    (justified : Justified Reason (log ++ back)) : Justified Reason log := by
  intro front other rest split
  apply justified front other (rest ++ back)
  rw [split, List.append_assoc, List.cons_append]

/-- The entries before a member of the log. -/
theorem Justified.of_mem (justified : Justified Reason log)
    (member : entry ∈ log) :
    ∃ front back, log = front ++ entry :: back ∧ Reason front entry := by
  obtain ⟨front, back, split⟩ := List.append_of_mem member
  exact ⟨front, back, split, justified front entry back split⟩

end KosCeExtra
