import Mathlib.Data.List.Basic
import Mathlib.Logic.Relation

/-!
# Calls that throw and keep their effects

A member function that may throw is `EStateM Error State Value`: a thrown
error leaves the state as the call changed it. Undoing those changes is the
business of destructors, which `unwinding` runs when an error passes. `Within`
bounds the effect of a call, whether it returns or throws, by a relation
between the state before and the state after.
-/

namespace ContestSystem.Lib.Throwing

set_option autoImplicit false

universe u

variable {Error State Value Other : Type u}

theorem bind_eq_ok {call : EStateM Error State Value} {next : Value → EStateM Error State Other}
    {state finish : State} {result : Other} :
    (call >>= next) state = .ok result finish ↔
      ∃ value middle, call state = .ok value middle ∧ next value middle = .ok result finish := by
  change EStateM.bind call next state = _ ↔ _
  unfold EStateM.bind
  cases call state <;> simp

theorem bind_eq_error {call : EStateM Error State Value}
    {next : Value → EStateM Error State Other} {state finish : State} {error : Error} :
    (call >>= next) state = .error error finish ↔
      call state = .error error finish ∨
        ∃ value middle, call state = .ok value middle ∧
          next value middle = .error error finish := by
  change EStateM.bind call next state = _ ↔ _
  unfold EStateM.bind
  cases call state <;> simp

theorem bind_of_ok {call : EStateM Error State Value} {next : Value → EStateM Error State Other}
    {state middle : State} {value : Value} (called : call state = .ok value middle) :
    (call >>= next) state = next value middle := by
  change EStateM.bind call next state = _
  rw [EStateM.bind, called]

@[simp] theorem get_apply (state : State) :
    (get : EStateM Error State State) state = .ok state state := rfl

@[simp] theorem modify_apply (change : State → State) (state : State) :
    (modify change : EStateM Error State PUnit) state = .ok ⟨⟩ (change state) := rfl

theorem try_catch_apply (call : EStateM Error State Value)
    (handle : Error → EStateM Error State Value) (state : State) :
    (tryCatch call handle : EStateM Error State Value) state =
      match call state with
      | .ok value after => .ok value after
      | .error error after => handle error after := by
  change EStateM.tryCatch call handle state = _
  unfold EStateM.tryCatch
  cases call state <;> rfl

/-- Runs the destructors of a scope when an error leaves it. -/
def unwinding (call : EStateM Error State Value) (destructors : State → State) :
    EStateM Error State Value := fun state =>
  match call state with
  | .ok value after => .ok value after
  | .error error after => .error error (destructors after)

theorem unwinding_eq_ok {call : EStateM Error State Value} {destructors : State → State}
    {state finish : State} {value : Value} :
    unwinding call destructors state = .ok value finish ↔ call state = .ok value finish := by
  unfold unwinding
  cases call state <;> simp

theorem unwinding_eq_error {call : EStateM Error State Value} {destructors : State → State}
    {state finish : State} {error : Error} :
    unwinding call destructors state = .error error finish ↔
      ∃ middle, call state = .error error middle ∧ finish = destructors middle := by
  unfold unwinding
  cases call state <;> simp [eq_comm]

/-- Every outcome of the call is related to the state it started in, and only
allowed errors are thrown. -/
structure Within (Related : State → State → Prop) (Allowed : Error → Prop)
    (call : EStateM Error State Value) : Prop where
  returned : ∀ state value finish, call state = .ok value finish → Related state finish
  thrown : ∀ state error finish, call state = .error error finish →
    Related state finish ∧ Allowed error

variable {Related : State → State → Prop} {Allowed : Error → Prop}

theorem within_pure (refl : ∀ state, Related state state) (value : Value) :
    Within Related Allowed (pure value : EStateM Error State Value) := by
  constructor
  · intro state result finish returned
    cases returned
    exact refl state
  · intro state error finish thrown
    cases thrown

theorem within_throw (refl : ∀ state, Related state state) {error : Error}
    (allowed : Allowed error) :
    Within Related Allowed (throw error : EStateM Error State Value) := by
  constructor
  · intro state result finish returned
    cases returned
  · intro state other finish thrown
    cases thrown
    exact ⟨refl state, allowed⟩

theorem within_bind (trans : ∀ first second third, Related first second →
      Related second third → Related first third)
    {call : EStateM Error State Value} {next : Value → EStateM Error State Other}
    (head : Within Related Allowed call) (tail : ∀ value, Within Related Allowed (next value)) :
    Within Related Allowed (call >>= next) := by
  constructor
  · intro state result finish returned
    obtain ⟨value, middle, called, rest⟩ := bind_eq_ok.mp returned
    exact trans _ _ _ (head.returned _ _ _ called) ((tail value).returned _ _ _ rest)
  · intro state error finish thrown
    rcases bind_eq_error.mp thrown with failed | ⟨value, middle, called, rest⟩
    · exact head.thrown _ _ _ failed
    · obtain ⟨related, allowed⟩ := (tail value).thrown _ _ _ rest
      exact ⟨trans _ _ _ (head.returned _ _ _ called) related, allowed⟩

theorem adapt_eq_ok {Error' : Type u} {adapt : Error → Error'}
    {call : EStateM Error State Value} {state finish : State} {value : Value} :
    EStateM.adaptExcept adapt call state = .ok value finish ↔ call state = .ok value finish := by
  unfold EStateM.adaptExcept
  cases call state <;> simp

theorem adapt_eq_error {Error' : Type u} {adapt : Error → Error'}
    {call : EStateM Error State Value} {state finish : State} {error : Error'} :
    EStateM.adaptExcept adapt call state = .error error finish ↔
      ∃ original, call state = .error original finish ∧ error = adapt original := by
  unfold EStateM.adaptExcept
  cases call state <;> simp [eq_comm, and_comm]

theorem within_adapt {Error' : Type u} {Allowed' : Error' → Prop} {adapt : Error → Error'}
    (allowed : ∀ error, Allowed error → Allowed' (adapt error))
    {call : EStateM Error State Value} (inside : Within Related Allowed call) :
    Within Related Allowed' (EStateM.adaptExcept adapt call) := by
  constructor
  · intro state value finish returned
    exact inside.returned _ _ _ (adapt_eq_ok.mp returned)
  · intro state error finish thrown
    obtain ⟨original, failed, rfl⟩ := adapt_eq_error.mp thrown
    obtain ⟨related, fine⟩ := inside.thrown _ _ _ failed
    exact ⟨related, allowed original fine⟩

/-- A loop whose body keeps an invariant of state and accumulator keeps it to
its end; where the body throws, the loop has stopped in a state of the invariant. -/
theorem fold_cases {Item : Type u} {body : Value → Item → EStateM Error State Value}
    (Invariant : Value → List Item → State → Prop)
    (preserved : ∀ value before item state next finish, Invariant value before state →
      body value item state = .ok next finish → Invariant next (before ++ [item]) finish)
    (value : Value) (before items : List Item) (state : State)
    (initial : Invariant value before state) :
    (∀ result finish, items.foldlM body value state = .ok result finish →
      Invariant result (before ++ items) finish) ∧
    (∀ error finish, items.foldlM body value state = .error error finish →
      ∃ done item rest last middle, items = done ++ item :: rest ∧
        Invariant last (before ++ done) middle ∧
        body last item middle = .error error finish) := by
  induction items generalizing value before state with
  | nil =>
      constructor
      · intro result finish returned
        cases returned
        simpa using initial
      · intro error finish thrown
        cases thrown
  | cons item items ih =>
      simp only [List.foldlM_cons]
      constructor
      · intro result finish returned
        obtain ⟨next, middle, stepped, rest⟩ := bind_eq_ok.mp returned
        have kept := preserved value before item state next middle initial stepped
        simpa using (ih next (before ++ [item]) middle kept).1 result finish rest
      · intro error finish thrown
        rcases bind_eq_error.mp thrown with failed | ⟨next, middle, stepped, rest⟩
        · exact ⟨[], item, items, value, state, rfl, by simpa using initial, failed⟩
        · have kept := preserved value before item state next middle initial stepped
          obtain ⟨done, culprit, later, last, reached, split, held, failed⟩ :=
            (ih next (before ++ [item]) middle kept).2 error finish rest
          refine ⟨item :: done, culprit, later, last, reached, by simp [split], ?_, failed⟩
          simpa using held

end ContestSystem.Lib.Throwing
