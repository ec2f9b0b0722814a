import ContestSystem.Lib.Run

/-!
# States that can be reached

`CanReach` says that some run from a state ends where a property holds. Where
an invariant lets every state that is not there yet execute an action that
lowers a measure, the property can be reached.
-/

namespace ContestSystem.Lib.Run

set_option autoImplicit false

variable {State Action : Type*}

def CanReach (step : State → Action → Option State) (Goal : State → Prop) (start : State) : Prop :=
  ∃ actions finish, run step start actions = some finish ∧ Goal finish

variable {step : State → Action → Option State} {Goal Middle : State → Prop} {start next : State}
  {action : Action}

theorem can_reach_here (holds : Goal start) : CanReach step Goal start :=
  ⟨[], start, rfl, holds⟩

theorem can_reach_step (stepped : step start action = some next)
    (rest : CanReach step Goal next) : CanReach step Goal start := by
  obtain ⟨actions, finish, executed, holds⟩ := rest
  exact ⟨action :: actions, finish, run_cons_eq_some.mpr ⟨next, stepped, executed⟩, holds⟩

theorem can_reach_trans (first : CanReach step Middle start)
    (second : ∀ state, Middle state → CanReach step Goal state) : CanReach step Goal start := by
  obtain ⟨actions, middle, executed, between⟩ := first
  obtain ⟨later, finish, continued, holds⟩ := second middle between
  refine ⟨actions ++ later, finish, ?_, holds⟩
  rw [run_append, executed]
  exact continued

theorem can_reach_of_measure (Invariant : State → Prop) (measure : State → Nat)
    (advance : ∀ state, Invariant state → Goal state ∨ ∃ action next,
      step state action = some next ∧ Invariant next ∧ measure next < measure state)
    (initial : Invariant start) : CanReach step Goal start := by
  induction size : measure start using Nat.strongRecOn generalizing start with
  | ind bound ih =>
      rcases advance start initial with holds | ⟨action, next, stepped, kept, smaller⟩
      · exact can_reach_here holds
      · exact can_reach_step stepped (ih (measure next) (size ▸ smaller) kept rfl)

/-- A run whose actions, idle ones apart, lower a measure has no more of them than the measure. -/
theorem run_bounded (Idle : Action → Prop) [DecidablePred Idle] (Invariant : State → Prop)
    (measure : State → Nat)
    (preserved : ∀ state action next, Invariant state → step state action = some next →
      Invariant next)
    (lowers : ∀ state action next, Invariant state → step state action = some next →
      ¬Idle action → measure next < measure state)
    (keeps : ∀ state action next, step state action = some next → Idle action →
      measure next ≤ measure state)
    (initial : Invariant start) {finish : State} {actions : List Action}
    (executed : run step start actions = some finish) :
    (actions.countP fun action => ¬Idle action) + measure finish ≤ measure start := by
  induction actions generalizing start with
  | nil =>
      cases executed
      simp
  | cons action rest ih =>
      obtain ⟨next, stepped, remaining⟩ := run_cons_eq_some.mp executed
      have later := ih (preserved start action next initial stepped) remaining
      by_cases idle : Idle action
      · have same := keeps start action next stepped idle
        rw [List.countP_cons_of_neg (by simpa using idle)]
        omega
      · have lower := lowers start action next initial stepped idle
        rw [List.countP_cons_of_pos (by simpa using idle)]
        omega

end ContestSystem.Lib.Run
