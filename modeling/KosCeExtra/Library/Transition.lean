import Mathlib.Data.List.Basic

/-!
# Runs of a guarded transition function

A system is a function that takes a state and an action to the next state, or
to nothing where the action is not enabled.  A run is a list of actions that
are enabled one after the other.  The rules lift facts about one step to whole
runs: what every allowed step preserves holds at the end, where a step may be
allowed in some states only, a mark that one kind of step leaves and no step
wipes off is still there, and without the mark there was no such step; a log or
a tally that each step carries on covers the whole run, and a region in which
every step that stays makes a measure smaller is left by every run that is long
enough.
-/

namespace KosCeExtra.Transition

variable {σ α : Type} {step : σ → α → Option σ}

def run (step : σ → α → Option σ) (start : σ) : List α → Option σ
  | [] => some start
  | action :: rest => (step start action).bind fun next => run step next rest

theorem run_cons {start finish : σ} {action : α} {rest : List α} :
    run step start (action :: rest) = some finish ↔
      ∃ next, step start action = some next ∧
        run step next rest = some finish :=
  Option.bind_eq_some_iff

theorem run_append {start middle : σ} {front : List α}
    (reached : run step start front = some middle) (back : List α) :
    run step start (front ++ back) = run step middle back := by
  induction front generalizing start with
  | nil =>
      cases reached
      rfl
  | cons action front induction =>
      obtain ⟨next, stepped, continued⟩ := run_cons.mp reached
      rw [List.cons_append, run, stepped, Option.bind_some]
      exact induction continued

/-- Every step of a run is allowed in the state it is taken in. -/
def Along (step : σ → α → Option σ) (Allowed : σ → α → Prop) :
    σ → List α → Prop
  | _, [] => True
  | state, action :: rest =>
      Allowed state action ∧
        ∀ next, step state action = some next → Along step Allowed next rest

theorem along_cons {Allowed : σ → α → Prop} {state next : σ} {action : α}
    {rest : List α} (allowed : Allowed state action)
    (stepped : step state action = some next)
    (along : Along step Allowed next rest) :
    Along step Allowed state (action :: rest) := by
  refine ⟨allowed, fun other reached => ?_⟩
  rw [stepped] at reached
  cases reached
  exact along

/-- What every allowed step preserves holds after a run of allowed steps. -/
theorem run_invariant_along {Holds : σ → Prop} {Allowed : σ → α → Prop}
    (preserved : ∀ {state action next}, Allowed state action →
      step state action = some next → Holds state → Holds next)
    {actions : List α} {start finish : σ}
    (ran : run step start actions = some finish)
    (along : Along step Allowed start actions) (initial : Holds start) :
    Holds finish := by
  induction actions generalizing start with
  | nil =>
      cases ran
      exact initial
  | cons action rest induction =>
      obtain ⟨next, stepped, continued⟩ := run_cons.mp ran
      apply induction continued
      · exact along.2 next stepped
      · exact preserved along.1 stepped initial

/-- Steps that are allowed in any state. -/
theorem along_of_forall {Allowed : α → Prop} {actions : List α}
    (allowed : ∀ action ∈ actions, Allowed action) (start : σ) :
    Along step (fun _ action => Allowed action) start actions := by
  induction actions generalizing start with
  | nil => trivial
  | cons action rest induction =>
      refine ⟨allowed action List.mem_cons_self, fun next _ => ?_⟩
      apply induction
      intro later member
      exact allowed later (List.mem_cons_of_mem _ member)

theorem run_invariant {Holds : σ → Prop} {Allowed : α → Prop}
    (preserved : ∀ {state action next}, Allowed action →
      step state action = some next → Holds state → Holds next)
    {actions : List α} {start finish : σ}
    (ran : run step start actions = some finish)
    (allowed : ∀ action ∈ actions, Allowed action) (initial : Holds start) :
    Holds finish :=
  run_invariant_along preserved ran (along_of_forall allowed start) initial

/-- A mark that is never wiped off is there after every run in which a step
left it. -/
theorem run_marked {Marked : σ → Prop} {Marks : α → Prop}
    (marks : ∀ {state action next}, Marks action →
      step state action = some next → Marked next)
    (keeps : ∀ {state action next},
      step state action = some next → Marked state → Marked next)
    {actions : List α} {start finish : σ}
    (ran : run step start actions = some finish)
    (marked : ∃ action ∈ actions, Marks action) : Marked finish := by
  induction actions generalizing start with
  | nil =>
      obtain ⟨action, member, -⟩ := marked
      cases member
  | cons action rest induction =>
      obtain ⟨next, stepped, continued⟩ := run_cons.mp ran
      obtain ⟨marker, member, leaves⟩ := marked
      rcases List.mem_cons.mp member with rfl | later
      · exact run_invariant (fun (_ : True) => keeps) continued
          (fun _ _ => trivial) (marks leaves stepped)
      · exact induction continued ⟨marker, later, leaves⟩

/-- Where a step that is not allowed leaves a mark that no step wipes off, every step of
a run that ends without it was allowed. -/
theorem along_of_unmarked {Holds Marked : σ → Prop} {Allowed : σ → α → Prop}
    {actions : List α} {start finish : σ}
    (ran : run step start actions = some finish)
    (preserved : ∀ {state action next}, step state action = some next →
      Holds state → Holds next)
    (marks : ∀ {state action next}, ¬ Allowed state action →
      step state action = some next → Holds state → Marked next)
    (keeps : ∀ {state action next},
      step state action = some next → Marked state → Marked next)
    (initial : Holds start) (unmarked : ¬ Marked finish) :
    Along step Allowed start actions := by
  induction actions generalizing start with
  | nil => trivial
  | cons action rest induction =>
      obtain ⟨next, stepped, continued⟩ := run_cons.mp ran
      apply along_cons _ stepped (induction continued (preserved stepped initial))
      by_contra forbidden
      apply unmarked
      exact run_invariant (fun (_ : True) => keeps) continued
        (fun _ _ => trivial) (marks forbidden stepped initial)

/-- What the steps of a run do, one after the other. -/
def observed {β : Type} (step : σ → α → Option σ) (note : σ → α → List β) :
    σ → List α → List β
  | _, [] => []
  | state, action :: rest =>
      note state action ++
        match step state action with
        | some next => observed step note next rest
        | none => []

/-- A log that each step carries on by what it does. -/
theorem run_observed {β : Type} {Holds : σ → Prop} {log : σ → List β}
    {note : σ → α → List β}
    (preserved : ∀ {state action next}, step state action = some next →
      Holds state → Holds next)
    (notes : ∀ {state action next}, step state action = some next →
      Holds state → log next = log state ++ note state action)
    {actions : List α} {start finish : σ}
    (ran : run step start actions = some finish) (initial : Holds start) :
    log finish = log start ++ observed step note start actions := by
  induction actions generalizing start with
  | nil =>
      cases ran
      exact (List.append_nil _).symm
  | cons action rest induction =>
      obtain ⟨next, stepped, continued⟩ := run_cons.mp ran
      rw [induction continued (preserved stepped initial),
        notes stepped initial, observed, stepped, List.append_assoc]

/-- A tally of one action. -/
theorem run_tally [DecidableEq α] {tally : σ → Nat} {counted : α}
    (counts : ∀ {state action next}, step state action = some next →
      tally next = tally state + if action = counted then 1 else 0)
    {actions : List α} {start finish : σ}
    (ran : run step start actions = some finish) :
    tally finish = tally start + actions.count counted := by
  induction actions generalizing start with
  | nil =>
      cases ran
      rfl
  | cons action rest induction =>
      obtain ⟨next, stepped, continued⟩ := run_cons.mp ran
      rw [induction continued, counts stepped, List.count_cons]
      simp only [beq_iff_eq]
      omega

/-- Where every step comes out or goes down inside, a long run comes out. -/
theorem run_comes_out {Inside Out : σ → Prop} {measure : σ → Nat}
    (turns : ∀ {state action next}, Inside state →
      step state action = some next →
        Out next ∨ Inside next ∧ measure next < measure state)
    {actions : List α} {start finish : σ}
    (ran : run step start actions = some finish) (inside : Inside start)
    (long : measure start < actions.length) :
    ∃ front back middle, actions = front ++ back ∧
      run step start front = some middle ∧ Out middle := by
  induction actions generalizing start with
  | nil => exact absurd long (Nat.not_lt_zero _)
  | cons action rest induction =>
      obtain ⟨next, stepped, continued⟩ := run_cons.mp ran
      rcases turns inside stepped with out | ⟨still, smaller⟩
      · refine ⟨[action], rest, next, rfl, ?_, out⟩
        exact run_cons.mpr ⟨next, stepped, rfl⟩
      · have enough : measure next < rest.length := by
          rw [List.length_cons] at long
          omega
        obtain ⟨front, back, middle, rfl, reached, out⟩ :=
          induction continued still enough
        refine ⟨action :: front, back, middle, rfl, ?_, out⟩
        exact run_cons.mpr ⟨next, stepped, reached⟩

/-- Where every step goes down, a run stays inside and is short. -/
theorem run_goes_down {Inside : σ → Prop} {measure : σ → Nat}
    (turns : ∀ {state action next}, Inside state →
      step state action = some next →
        Inside next ∧ measure next < measure state)
    {actions : List α} {start finish : σ}
    (ran : run step start actions = some finish) (inside : Inside start) :
    Inside finish ∧ actions.length ≤ measure start := by
  constructor
  · exact run_invariant (fun (_ : True) stepped still => (turns still stepped).1)
      ran (fun _ _ => trivial) inside
  · by_contra long
    have out : ∀ {state action next}, Inside state →
        step state action = some next →
          False ∨ Inside next ∧ measure next < measure state :=
      fun still stepped => .inr (turns still stepped)
    obtain ⟨-, -, -, -, -, impossible⟩ :=
      run_comes_out out ran inside (Nat.not_le.mp long)
    exact impossible

/-- Where every allowed step goes down, each step of a run has its share of what it has
gone down by. -/
theorem run_descends {Inside : σ → Prop} {Allowed : α → Prop} {measure : σ → Nat}
    (turns : ∀ {state action next}, Allowed action → Inside state →
      step state action = some next → Inside next ∧ measure next < measure state)
    {actions : List α} {start finish : σ}
    (ran : run step start actions = some finish)
    (allowed : ∀ action ∈ actions, Allowed action) (inside : Inside start) :
    Inside finish ∧ measure finish + actions.length ≤ measure start := by
  induction actions generalizing start with
  | nil =>
      cases ran
      exact ⟨inside, Nat.le_refl _⟩
  | cons action rest induction =>
      obtain ⟨next, stepped, continued⟩ := run_cons.mp ran
      obtain ⟨still, smaller⟩ := turns (allowed action List.mem_cons_self) inside
        stepped
      obtain ⟨last, short⟩ := induction continued
        (fun later member => allowed later (List.mem_cons_of_mem _ member)) still
      refine ⟨last, ?_⟩
      rw [List.length_cons]
      omega

end KosCeExtra.Transition
