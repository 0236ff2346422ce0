import Mathlib.Data.List.Induction

/-!
# Stores that are written key by key

A store is read by a key, and an entry writes at its own key only.  After a
history of entries each key reads as the last entry for it left it, so two
histories with the same entries for every single key leave the same store, in
whatever order the entries for different keys come.
-/

namespace KosCeExtra.KeyedHistory

variable {σ ε κ β : Type} [DecidableEq κ] {key : ε → κ} {value : ε → β}
  {write : σ → ε → σ} {read : σ → κ → β}

/-- The last entry for a key. -/
def lastFor (key : ε → κ) (wanted : κ) (history : List ε) : Option ε :=
  history.reverse.find? (fun entry => key entry = wanted)

theorem lastFor_concat (wanted : κ) (history : List ε) (entry : ε) :
    lastFor key wanted (history ++ [entry]) =
      if key entry = wanted then some entry else lastFor key wanted history := by
  unfold lastFor
  rw [List.reverse_append, List.reverse_singleton, List.singleton_append,
    List.find?_cons]
  by_cases same : key entry = wanted
  · simp [same]
  · simp [same]

theorem key_of_lastFor {wanted : κ} {history : List ε} {entry : ε}
    (last : lastFor key wanted history = some entry) : key entry = wanted := by
  have found := List.find?_some last
  exact of_decide_eq_true found

/-- Entries for other keys do not matter. -/
theorem lastFor_eq_of_filter {wanted : κ} {history other : List ε}
    (same : history.filter (fun entry => key entry = wanted) =
      other.filter (fun entry => key entry = wanted)) :
    lastFor key wanted history = lastFor key wanted other := by
  have filtered : ∀ entries : List ε, lastFor key wanted entries =
      (entries.filter (fun entry => key entry = wanted)).reverse.head? := by
    intro entries
    rw [lastFor, ← List.head?_filter, List.filter_reverse]
  rw [filtered, filtered, same]

/-- A key reads as its last entry left it. -/
theorem read_foldl
    (writes : ∀ state entry wanted, read (write state entry) wanted =
      if key entry = wanted then value entry else read state wanted)
    (history : List ε) (state : σ) (wanted : κ) :
    read (history.foldl write state) wanted =
      ((lastFor key wanted history).map value).getD (read state wanted) := by
  induction history using List.reverseRecOn with
  | nil => rfl
  | append_singleton history entry induction =>
      rw [List.foldl_append, List.foldl_cons, List.foldl_nil, writes,
        lastFor_concat, induction]
      by_cases same : key entry = wanted
      · rw [if_pos same, if_pos same]
        rfl
      · rw [if_neg same, if_neg same]

end KosCeExtra.KeyedHistory
