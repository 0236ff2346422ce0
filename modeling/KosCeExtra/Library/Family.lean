import KosCeExtra.Library.Transition

/-!
# Families of components

Some systems hold a list of components that do not know of each other.  An action adds
a component to the list, lets one of them take a step of its own, or leaves them all
alone.  Whatever else such a system does, and in whatever order its components take
turns, each component is at the end of a run of its own actions.
-/

namespace KosCeExtra.Family

variable {σ α : Type}

/-- What an action does to the components. -/
inductive Effect (α : Type) where
  | none
  | spawn
  | turn (index : Nat) (action : α)
  deriving DecidableEq, Repr

namespace Effect

/-- The action of the component with that index. -/
def of (index : Nat) : Effect α → Option α
  | .turn other action => if other = index then some action else Option.none
  | _ => Option.none

def isSpawn : Effect α → Bool
  | .spawn => true
  | _ => false

end Effect

/-- The actions of one component, in their order. -/
def own (index : Nat) (effects : List (Effect α)) : List α :=
  effects.filterMap (Effect.of index)

/-- The components behind an effect. -/
def Follows (step : σ → α → Option σ) (start : σ) (before after : List σ) :
    Effect α → Prop
  | .none => after = before
  | .spawn => after = before ++ [start]
  | .turn index action => ∃ component next, before[index]? = some component ∧
      step component action = some next ∧ after = before.set index next

variable {step : σ → α → Option σ} {start : σ}

theorem Follows.length_eq {before after : List σ} {effect : Effect α}
    (follows : Follows step start before after effect) :
    after.length = before.length + if effect.isSpawn then 1 else 0 := by
  cases effect with
  | none =>
      obtain rfl := follows
      rfl
  | spawn =>
      obtain rfl := follows
      exact List.length_append
  | turn index action =>
      obtain ⟨component, next, -, -, rfl⟩ := follows
      exact List.length_set

/-- A component that is not there yet counts as one that has not begun. -/
theorem Follows.run_own {before after : List σ} {effect : Effect α}
    (follows : Follows step start before after effect) (index : Nat)
    (effects : List (Effect α)) :
    Transition.run step (before[index]?.getD start) (own index (effect :: effects)) =
      Transition.run step (after[index]?.getD start) (own index effects) := by
  cases effect with
  | none =>
      obtain rfl := follows
      rfl
  | spawn =>
      obtain rfl := follows
      have same : (before ++ [start])[index]?.getD start =
          before[index]?.getD start := by
        rw [List.getElem?_append]
        split
        · rfl
        · next behind =>
            rw [List.getElem?_eq_none (Nat.not_lt.mp behind),
              List.getElem?_singleton]
            split <;> rfl
      rw [same]
      rfl
  | turn other action =>
      obtain ⟨component, next, found, stepped, rfl⟩ := follows
      by_cases mine : other = index
      · obtain rfl := mine
        have inside : other < before.length :=
          (List.getElem?_eq_some_iff.mp found).1
        have first : own other (Effect.turn other action :: effects) =
            action :: own other effects :=
          List.filterMap_cons_some (if_pos rfl)
        rw [first, found, List.getElem?_set_self inside, Option.getD_some,
          Option.getD_some, Transition.run, stepped, Option.bind_some]
      · have skipped : own index (Effect.turn other action :: effects) =
            own index effects :=
          List.filterMap_cons_none (if_neg mine)
        rw [skipped, List.getElem?_set_ne mine]

section System

variable {τ β : Type} {system : τ → β → Option τ} {actions : List β} {first last : τ}
  (components : τ → List σ) (effect : β → Effect α)

/-- The number of components is the number of times one was added. -/
theorem length_of_run
    (follows : ∀ {state action next}, system state action = some next →
      Follows step start (components state) (components next) (effect action))
    (ran : Transition.run system first actions = some last) :
    (components last).length =
      (components first).length + actions.countP fun action =>
        (effect action).isSpawn := by
  induction actions generalizing first with
  | nil =>
      cases ran
      rfl
  | cons action actions induction =>
      obtain ⟨next, stepped, continued⟩ := Transition.run_cons.mp ran
      rw [induction continued, (follows stepped).length_eq, List.countP_cons,
        Nat.add_assoc, Nat.add_comm (List.countP _ _)]

/-- Each component has come to where it is by its own actions. -/
theorem component_run
    (follows : ∀ {state action next}, system state action = some next →
      Follows step start (components state) (components next) (effect action))
    (ran : Transition.run system first actions = some last) {index : Nat}
    {component : σ} (found : (components last)[index]? = some component) :
    Transition.run step ((components first)[index]?.getD start)
      (own index (actions.map effect)) = some component := by
  induction actions generalizing first with
  | nil =>
      cases ran
      rw [found]
      rfl
  | cons action actions induction =>
      obtain ⟨next, stepped, continued⟩ := Transition.run_cons.mp ran
      rw [List.map_cons, (follows stepped).run_own index]
      exact induction continued

end System

end KosCeExtra.Family
