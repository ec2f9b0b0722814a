import Mathlib.Data.List.Induction
import Mathlib.Data.Option.Basic
import Mathlib.Logic.Relation

/-!
# Runs of partial transitions

A machine is a function that executes one action, or refuses it with `none`.
A run executes a list of actions and is undefined as soon as one is refused.
An invariant is proved once for one action and then holds after every run; a
guarded run is one in which every executed action met a condition on the state
it was executed in.
-/

namespace ContestSystem.Lib.Run

set_option autoImplicit false

variable {State Action : Type*}

def run (step : State → Action → Option State) : State → List Action → Option State
  | state, [] => some state
  | state, action :: rest => (step state action).bind fun next => run step next rest

theorem run_cons_eq_some {step : State → Action → Option State} {state finish : State}
    {action : Action} {rest : List Action} :
    run step state (action :: rest) = some finish ↔
      ∃ next, step state action = some next ∧ run step next rest = some finish := by
  simp only [run, Option.bind_eq_some_iff]

theorem run_append (step : State → Action → Option State) (state : State)
    (first second : List Action) :
    run step state (first ++ second) =
      (run step state first).bind fun middle => run step middle second := by
  induction first generalizing state with
  | nil => rfl
  | cons action rest ih =>
      simp only [List.cons_append, run, Option.bind_assoc, ih]

theorem run_invariant {step : State → Action → Option State} (Invariant : State → Prop)
    (preserved : ∀ state action next,
      Invariant state → step state action = some next → Invariant next)
    {start finish : State} {actions : List Action} (initial : Invariant start)
    (executed : run step start actions = some finish) : Invariant finish := by
  induction actions generalizing start with
  | nil =>
      cases executed
      exact initial
  | cons action rest ih =>
      obtain ⟨next, stepped, remaining⟩ := run_cons_eq_some.mp executed
      exact ih (preserved start action next initial stepped) remaining

/-- An invariant that may speak about the actions that have been executed. -/
theorem run_history {step : State → Action → Option State} {start finish : State}
    (Invariant : List Action → State → Prop)
    (preserved : ∀ before state action next, run step start before = some state →
      Invariant before state → step state action = some next →
        Invariant (before ++ [action]) next)
    {actions : List Action} (initial : Invariant [] start)
    (executed : run step start actions = some finish) : Invariant actions finish := by
  induction actions using List.reverseRecOn generalizing finish with
  | nil =>
      cases executed
      exact initial
  | append_singleton actions action ih =>
      rw [run_append] at executed
      obtain ⟨middle, reached, last⟩ := Option.bind_eq_some_iff.mp executed
      obtain ⟨next, stepped, done⟩ := run_cons_eq_some.mp last
      cases done
      exact preserved actions middle action finish reached (ih reached) stepped

/-- A run that ends where `Property` holds and did not start there has entered it. -/
theorem run_enters {step : State → Action → Option State} (Property : State → Prop)
    {start finish : State} {actions : List Action} (outside : ¬Property start)
    (inside : Property finish) (executed : run step start actions = some finish) :
    ∃ earlier action later middle next, actions = earlier ++ action :: later ∧
      run step start earlier = some middle ∧ ¬Property middle ∧
      step middle action = some next ∧ Property next ∧ run step next later = some finish := by
  induction actions generalizing start with
  | nil =>
      cases executed
      exact absurd inside outside
  | cons action rest ih =>
      rcases run_cons_eq_some.mp executed with ⟨next, stepped, remaining⟩
      by_cases entered : Property next
      · exact ⟨[], action, rest, start, next, rfl, rfl, outside, stepped, entered, remaining⟩
      · rcases ih entered remaining with
          ⟨earlier, last, later, middle, after, split, reached, still, entry, now, rest'⟩
        refine ⟨action :: earlier, last, later, middle, after, by rw [split]; rfl, ?_, still,
          entry, now, rest'⟩
        exact run_cons_eq_some.mpr ⟨next, stepped, reached⟩

/-- Every action of the run meets `Guard` in the state it is executed in. -/
def Guarded (step : State → Action → Option State) (Guard : State → Action → Prop) :
    State → List Action → Prop
  | _, [] => True
  | state, action :: rest =>
      Guard state action ∧
        ∀ next, step state action = some next → Guarded step Guard next rest

instance guardedDecidable (step : State → Action → Option State)
    (Guard : State → Action → Prop) [∀ state action, Decidable (Guard state action)] :
    ∀ state actions, Decidable (Guarded step Guard state actions)
  | _, [] => .isTrue trivial
  | state, action :: rest =>
      match stepped : step state action with
      | none => decidable_of_iff (Guard state action) (by simp [Guarded, stepped])
      | some next =>
          have := guardedDecidable step Guard next rest
          decidable_of_iff (Guard state action ∧ Guarded step Guard next rest)
            (by simp [Guarded, stepped])

theorem guarded_invariant {step : State → Action → Option State}
    {Guard : State → Action → Prop} (Invariant : State → Prop)
    (preserved : ∀ state action next, Invariant state → Guard state action →
      step state action = some next → Invariant next)
    {start finish : State} {actions : List Action} (initial : Invariant start)
    (guarded : Guarded step Guard start actions)
    (executed : run step start actions = some finish) : Invariant finish := by
  induction actions generalizing start with
  | nil =>
      cases executed
      exact initial
  | cons action rest ih =>
      obtain ⟨next, stepped, remaining⟩ := run_cons_eq_some.mp executed
      exact ih (preserved start action next initial guarded.1 stepped)
        (guarded.2 next stepped) remaining

theorem guarded_of_reached {step : State → Action → Option State} {Guard : State → Action → Prop}
    {start : State} {actions : List Action}
    (guards : ∀ earlier action later middle, actions = earlier ++ action :: later →
      run step start earlier = some middle → Guard middle action) :
    Guarded step Guard start actions := by
  induction actions generalizing start with
  | nil => trivial
  | cons action rest ih =>
      refine ⟨guards [] action rest start rfl rfl, fun next stepped => ih ?_⟩
      intro earlier last later middle split reached
      refine guards (action :: earlier) last later middle (by rw [split]; rfl) ?_
      exact run_cons_eq_some.mpr ⟨next, stepped, reached⟩

theorem guarded_and {step : State → Action → Option State} {Guard Other : State → Action → Prop}
    {start : State} {actions : List Action} (guarded : Guarded step Guard start actions)
    (also : Guarded step Other start actions) :
    Guarded step (fun state action => Guard state action ∧ Other state action) start actions := by
  induction actions generalizing start with
  | nil => trivial
  | cons action rest ih =>
      exact ⟨⟨guarded.1, also.1⟩, fun next stepped =>
        ih (guarded.2 next stepped) (also.2 next stepped)⟩

theorem guarded_mono {step : State → Action → Option State} {Guard Other : State → Action → Prop}
    (weaker : ∀ state action, Guard state action → Other state action) {start : State}
    {actions : List Action} (guarded : Guarded step Guard start actions) :
    Guarded step Other start actions := by
  induction actions generalizing start with
  | nil => trivial
  | cons action rest ih =>
      exact ⟨weaker start action guarded.1, fun next stepped => ih (guarded.2 next stepped)⟩

theorem guarded_cons {step : State → Action → Option State} {Guard : State → Action → Prop}
    {state next : State} {action : Action} {rest : List Action} (guard : Guard state action)
    (stepped : step state action = some next) (guarded : Guarded step Guard next rest) :
    Guarded step Guard state (action :: rest) := by
  refine ⟨guard, fun other also => ?_⟩
  cases stepped.symm.trans also
  exact guarded

theorem guarded_earlier {step : State → Action → Option State} {Guard : State → Action → Prop}
    {start : State} {earlier later : List Action}
    (guarded : Guarded step Guard start (earlier ++ later)) : Guarded step Guard start earlier := by
  induction earlier generalizing start with
  | nil => trivial
  | cons action earlier ih => exact ⟨guarded.1, fun next stepped => ih (guarded.2 next stepped)⟩

theorem guarded_last {step : State → Action → Option State} {Guard : State → Action → Prop}
    {start finish : State} {earlier : List Action} {action : Action}
    (guarded : Guarded step Guard start (earlier ++ [action]))
    (executed : run step start (earlier ++ [action]) = some finish) :
    ∃ before, run step start earlier = some before ∧ Guard before action ∧
      step before action = some finish := by
  induction earlier generalizing start with
  | nil =>
      obtain ⟨next, stepped, done⟩ := run_cons_eq_some.mp executed
      cases done
      exact ⟨start, rfl, guarded.1, stepped⟩
  | cons first earlier ih =>
      obtain ⟨next, stepped, remaining⟩ := run_cons_eq_some.mp executed
      obtain ⟨before, reached, guard, last⟩ := ih (guarded.2 next stepped) remaining
      exact ⟨before, run_cons_eq_some.mpr ⟨next, stepped, reached⟩, guard, last⟩

end ContestSystem.Lib.Run
