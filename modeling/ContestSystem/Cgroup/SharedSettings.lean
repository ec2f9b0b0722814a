import Mathlib.Logic.Function.Basic
import ContestSystem.Cgroup.FieldValues
import ContestSystem.Cgroup.Kernel
import ContestSystem.Lib.Run

/-!
# A setting of several hierarchies

A setter of a `MultipleControlGroup` writes a field of all members one after
another, and the getter reads them one after another and throws where two values
differ. Calls of several threads or processes, each with an object of its own for
the same groups, interleave member by member. For every member the kernel keeps a
value and shows it as text.
-/

namespace ContestSystem.Cgroup.SharedSettings

open ContestSystem.Lib.Decimal ContestSystem.Lib.Run
open FieldValues

set_option autoImplicit false

structure Field (Value : Type) where
  name : String
  format : FieldFormat Value
  ending : Text
  blank : Blank ending

def Field.shown {Value : Type} (field : Field Value) (value : Value) : Text :=
  field.format.write value ++ field.ending

inductive FoldError
  | emptyMultipleControlGroup
  | fieldValueConflict (fieldName : String)
  | assertion (expression : String)
  | stream
  | member (code : Errno)
deriving DecidableEq

/-- Where a call is: before the members `rest`, or at its end. -/
inductive Control (Value : Type)
  | set (value : Value) (rest : List Nat)
  | fold (value : Option Value) (rest : List Nat)
  | finished
  | returned (value : Value)
  | thrown (error : FoldError)
deriving DecidableEq

inductive Request (Value : Type)
  | set (value : Value)
  | get

/-- `members` are the ids of the hierarchies in iteration order. -/
structure Call (Value : Type) where
  members : List Nat
  control : Control Value
deriving DecidableEq

structure State (Value : Type) where
  kept : Nat → Value
  calls : Nat → Option (Call Value)

/-- `refuse` is an exception out of the access to the next member. -/
inductive Action (Value : Type)
  | begin (call : Nat) (members : List Nat) (request : Request Value)
  | step (call : Nat)
  | refuse (call : Nat) (code : Errno)
  | outside (member : Nat) (value : Value)

variable {Value : Type}

def started (members : List Nat) : Request Value → Control Value
  | .set value => .set value members
  | .get => if members = [] then .thrown .emptyMultipleControlGroup else .fold none members

def foldNext [DecidableEq Value] (fieldName : String) (value : Option Value) (nextValue : Value) :
    Except FoldError Value :=
  match value with
  | none => .ok nextValue
  | some value =>
      if value ≠ nextValue then .error (.fieldValueConflict fieldName) else .ok value

namespace State

def put (state : State Value) (id : Nat) (call : Call Value) (control : Control Value) :
    State Value :=
  { state with
    calls := Function.update state.calls id (some { call with control := control }) }

def write (state : State Value) (member : Nat) (value : Value) : State Value :=
  { state with kept := Function.update state.kept member value }

def read (field : Field Value) (state : State Value) (member : Nat) : Except FoldError Value :=
  match field.format.read (field.shown (state.kept member)) with
  | none => .error .stream
  | some value => .ok value

def refuse (state : State Value) (id : Nat) (call : Call Value) (code : Errno) :
    Option (State Value) :=
  match call.control with
  | .set _ (_ :: _) => some (state.put id call (.thrown (.member code)))
  | .fold _ (_ :: _) => some (state.put id call (.thrown (.member code)))
  | _ => none

variable [DecidableEq Value]

def advance (field : Field Value) (state : State Value) (id : Nat) (call : Call Value) :
    Option (State Value) :=
  match call.control with
  | .set _ [] => some (state.put id call .finished)
  | .set value (member :: rest) =>
      some ((state.write member value).put id call (.set value rest))
  | .fold none [] => some (state.put id call (.thrown (.assertion "initialized")))
  | .fold (some value) [] => some (state.put id call (.returned value))
  | .fold value (member :: rest) =>
      match (state.read field member).bind (foldNext field.name value) with
      | .error error => some (state.put id call (.thrown error))
      | .ok value => some (state.put id call (.fold (some value) rest))
  | .finished => none
  | .returned _ => none
  | .thrown _ => none

def step (field : Field Value) (state : State Value) : Action Value → Option (State Value)
  | .begin id members request =>
      match state.calls id with
      | some _ => none
      | none =>
          if members.Nodup then
            some { state with
              calls := Function.update state.calls id
                (some { members := members, control := started members request }) }
          else none
  | .step id => (state.calls id).bind (state.advance field id)
  | .refuse id code => (state.calls id).bind fun call => state.refuse id call code
  | .outside member value => some (state.write member value)

end State

def start (kept : Nat → Value) : State Value := { kept := kept, calls := fun _ => none }

def notifyOnRelease : Field Bool :=
  { name := "notify_on_release", format := flagFormat, ending := [10], blank := by decide }

def allOff : State Bool := start fun _ => false

section Steps

variable {field : Field Value} {state next : State Value}

theorem read_kept (field : Field Value) (state : State Value) (member : Nat) :
    state.read field member = .ok (state.kept member) := by
  rw [State.read, Field.shown, field.format.reads (state.kept member) field.ending field.blank]

variable [DecidableEq Value]

/-- What a call that goes on can do. -/
inductive Advanced (field : Field Value) (state : State Value) (id : Nat) (call : Call Value) :
    State Value → Prop
  | finished (value : Value) (at_ : call.control = .set value []) :
      Advanced field state id call (state.put id call .finished)
  | wrote (value : Value) (member : Nat) (rest : List Nat)
      (at_ : call.control = .set value (member :: rest)) :
      Advanced field state id call
        ((state.write member value).put id call (.set value rest))
  | unset (at_ : call.control = .fold none []) :
      Advanced field state id call (state.put id call (.thrown (.assertion "initialized")))
  | returned (value : Value) (at_ : call.control = .fold (some value) []) :
      Advanced field state id call (state.put id call (.returned value))
  | first (member : Nat) (rest : List Nat) (at_ : call.control = .fold none (member :: rest)) :
      Advanced field state id call
        (state.put id call (.fold (some (state.kept member)) rest))
  | same (value : Value) (member : Nat) (rest : List Nat)
      (at_ : call.control = .fold (some value) (member :: rest))
      (agrees : state.kept member = value) :
      Advanced field state id call (state.put id call (.fold (some value) rest))
  | conflict (value : Value) (member : Nat) (rest : List Nat)
      (at_ : call.control = .fold (some value) (member :: rest))
      (differs : state.kept member ≠ value) :
      Advanced field state id call
        (state.put id call (.thrown (.fieldValueConflict field.name)))

theorem advance_cases {id : Nat} {call : Call Value}
    (advanced : state.advance field id call = some next) : Advanced field state id call next := by
  unfold State.advance at advanced
  cases at_ : call.control with
  | set value rest =>
      cases rest with
      | nil =>
          simp only [at_] at advanced
          cases advanced
          exact .finished value at_
      | cons member rest =>
          simp only [at_] at advanced
          cases advanced
          exact .wrote value member rest at_
  | fold value rest =>
      cases rest with
      | nil =>
          cases value with
          | none =>
              simp only [at_] at advanced
              cases advanced
              exact .unset at_
          | some value =>
              simp only [at_] at advanced
              cases advanced
              exact .returned value at_
      | cons member rest =>
          cases value with
          | none =>
              simp only [at_, read_kept, Except.bind, foldNext] at advanced
              cases advanced
              exact .first member rest at_
          | some value =>
              simp only [at_, read_kept, Except.bind, foldNext] at advanced
              by_cases agrees : state.kept member = value
              · simp only [agrees, ne_eq, not_true, if_false] at advanced
                cases advanced
                exact .same value member rest at_ agrees
              · simp only [ne_eq, Ne.symm agrees, not_false_iff, if_true] at advanced
                cases advanced
                exact .conflict value member rest at_ agrees
  | finished =>
      simp only [at_] at advanced
      cases advanced
  | returned value =>
      simp only [at_] at advanced
      cases advanced
  | thrown error =>
      simp only [at_] at advanced
      cases advanced

end Steps

section Seen

variable [DecidableEq Value] {field : Field Value}
  {actions : List (Action Value)} {origin state next : State Value}

def Folding (state : State Value) (id : Nat) : Prop :=
  ∃ call value rest, state.calls id = some call ∧ call.control = .fold value rest

/-- At a moment of the call the member held the value. -/
def Saw (field : Field Value) (origin : State Value) (actions : List (Action Value))
    (id member : Nat) (value : Value) : Prop :=
  ∃ earlier later middle, actions = earlier ++ later ∧
    run (State.step field) origin earlier = some middle ∧ Folding middle id ∧
    middle.kept member = value

/-- A value was seen at every member, a conflict at two of them. -/
def Seen (field : Field Value) (origin : State Value) (actions : List (Action Value)) (id : Nat)
    (call : Call Value) : Prop :=
  match call.control with
  | .set _ _ => True
  | .fold none rest => rest = call.members ∧ call.members ≠ [] ∧ call.members.Nodup
  | .fold (some value) rest => ∃ done, call.members = done ++ rest ∧ done ≠ [] ∧
      call.members.Nodup ∧ ∀ member ∈ done, Saw field origin actions id member value
  | .finished => True
  | .returned value => call.members ≠ [] ∧
      ∀ member ∈ call.members, Saw field origin actions id member value
  | .thrown .emptyMultipleControlGroup => call.members = []
  | .thrown (.fieldValueConflict fieldName) => fieldName = field.name ∧
      ∃ first ∈ call.members, ∃ second ∈ call.members, first ≠ second ∧ ∃ one two, one ≠ two ∧
        Saw field origin actions id first one ∧ Saw field origin actions id second two
  | .thrown (.assertion _) => False
  | .thrown .stream => False
  | .thrown (.member _) => True

theorem saw_later {id member : Nat} {value : Value}
    (saw : Saw field origin actions id member value) (action : Action Value) :
    Saw field origin (actions ++ [action]) id member value := by
  obtain ⟨earlier, later, middle, split, reached, folding, held⟩ := saw
  refine ⟨earlier, later ++ [action], middle, ?_, reached, folding, held⟩
  rw [split, List.append_assoc]

theorem seen_later {id : Nat} {call : Call Value} (seen : Seen field origin actions id call)
    (action : Action Value) : Seen field origin (actions ++ [action]) id call := by
  cases at_ : call.control with
  | set value rest => simp only [Seen, at_]
  | finished => simp only [Seen, at_]
  | fold value rest =>
      cases value with
      | none => simpa only [Seen, at_] using seen
      | some value =>
          simp only [Seen, at_] at seen ⊢
          obtain ⟨done, split, filled, distinct, all⟩ := seen
          exact ⟨done, split, filled, distinct,
            fun member inside => saw_later (all member inside) action⟩
  | returned value =>
      simp only [Seen, at_] at seen ⊢
      exact ⟨seen.1, fun member inside => saw_later (seen.2 member inside) action⟩
  | thrown error =>
      cases error with
      | emptyMultipleControlGroup => simpa only [Seen, at_] using seen
      | assertion expression => simp only [Seen, at_] at seen
      | stream => simp only [Seen, at_] at seen
      | member code => simp only [Seen, at_]
      | fieldValueConflict fieldName =>
          simp only [Seen, at_] at seen ⊢
          obtain ⟨name, first, inFirst, second, inSecond, apart, values⟩ := seen
          obtain ⟨one, two, differ, saw, saw'⟩ := values
          exact ⟨name, first, inFirst, second, inSecond, apart, one, two, differ,
            saw_later saw action, saw_later saw' action⟩

def AllSeen (field : Field Value) (origin : State Value) (actions : List (Action Value))
    (state : State Value) : Prop :=
  ∀ id call, origin.calls id = none → state.calls id = some call →
    Seen field origin actions id call

theorem all_seen_put (seen : AllSeen field origin actions state) (action : Action Value) {id : Nat}
    {call : Call Value} {control : Control Value} {values : Nat → Value}
    (now : origin.calls id = none →
      Seen field origin (actions ++ [action]) id { call with control := control }) :
    AllSeen field origin (actions ++ [action])
      { state.put id call control with kept := values } := by
  intro other later new present
  simp only [State.put, Function.update_apply] at present
  split at present
  next same =>
      cases present
      subst same
      exact now new
  next => exact seen_later (seen other later new present) action

theorem advanced_seen (reached : run (State.step field) origin actions = some state)
    (seen : AllSeen field origin actions state) (action : Action Value) {id : Nat}
    {call : Call Value} (found : state.calls id = some call)
    (advanced : Advanced field state id call next) :
    AllSeen field origin (actions ++ [action]) next := by
  have before : origin.calls id = none → Seen field origin (actions ++ [action]) id call :=
    fun new => seen_later (seen id call new found) action
  have present : ∀ value rest, call.control = .fold value rest → ∀ member,
      Saw field origin (actions ++ [action]) id member (state.kept member) := by
    intro value rest at_ member
    exact ⟨actions, [action], state, rfl, reached, ⟨call, value, rest, found, at_⟩, rfl⟩
  cases advanced with
  | finished value at_ => exact all_seen_put seen action fun _ => trivial
  | wrote value member rest at_ => exact all_seen_put seen action fun _ => trivial
  | unset at_ =>
      refine all_seen_put seen action fun new => ?_
      have told := before new
      simp only [Seen, at_] at told
      exact absurd told.1.symm told.2.1
  | returned value at_ =>
      refine all_seen_put seen action fun new => ?_
      have told := before new
      simp only [Seen, at_] at told
      obtain ⟨done, split, filled, _, all⟩ := told
      rw [List.append_nil] at split
      exact ⟨by rw [split]; exact filled, by rw [split]; exact all⟩
  | first member rest at_ =>
      refine all_seen_put seen action fun new => ?_
      have told := before new
      simp only [Seen, at_] at told
      refine ⟨[member], told.1.symm, List.cons_ne_nil _ _, told.2.2, ?_⟩
      intro other inside
      rw [List.mem_singleton.mp inside]
      exact present none (member :: rest) at_ member
  | same value member rest at_ agrees =>
      refine all_seen_put seen action fun new => ?_
      have told := before new
      simp only [Seen, at_] at told
      obtain ⟨done, split, filled, distinct, all⟩ := told
      refine ⟨done ++ [member], by rw [split]; simp, by simp, distinct, ?_⟩
      intro other inside
      rcases List.mem_append.mp inside with old | last
      · exact all other old
      · rw [List.mem_singleton.mp last, ← agrees]
        exact present (some value) (member :: rest) at_ member
  | conflict value member rest at_ differs =>
      refine all_seen_put seen action fun new => ?_
      have told := before new
      simp only [Seen, at_] at told
      obtain ⟨done, split, filled, distinct, all⟩ := told
      obtain ⟨first, others, starts⟩ := List.exists_cons_of_ne_nil filled
      have inFirst : first ∈ done := by simp [starts]
      have apart : first ≠ member := by
        rw [split] at distinct
        exact (List.nodup_append.mp distinct).2.2 first inFirst member List.mem_cons_self
      refine ⟨rfl, first, by simp [split, inFirst], member, by simp [split], apart, value,
        state.kept member, differs.symm, all first inFirst, ?_⟩
      exact present (some value) (member :: rest) at_ member

theorem seen_started {members : List Nat} (distinct : members.Nodup) (request : Request Value)
    {id : Nat} :
    Seen field origin actions id { members := members, control := started members request } := by
  cases request with
  | set value => trivial
  | get =>
      by_cases empty : members = []
      · simp only [Seen, started, empty, if_true]
      · simp only [Seen, started, empty, if_false, ne_eq, not_false_iff, true_and]
        exact distinct

theorem step_seen {action : Action Value}
    (reached : run (State.step field) origin actions = some state)
    (seen : AllSeen field origin actions state)
    (stepped : state.step field action = some next) :
    AllSeen field origin (actions ++ [action]) next := by
  cases action with
  | begin id members request =>
      rw [State.step] at stepped
      split at stepped
      next => cases stepped
      next =>
          split at stepped
          next distinct =>
              cases stepped
              have begun : AllSeen field origin (actions ++ [.begin id members request])
                  { state.put id ⟨members, .finished⟩ (started members request) with
                    kept := state.kept } :=
                all_seen_put seen _ fun _ => seen_started distinct request
              exact begun
          next => cases stepped
  | step id =>
      rcases Option.bind_eq_some_iff.mp stepped with ⟨call, found, advanced⟩
      exact advanced_seen reached seen _ found (advance_cases advanced)
  | refuse id code =>
      rcases Option.bind_eq_some_iff.mp stepped with ⟨call, found, refused⟩
      unfold State.refuse at refused
      split at refused
      next =>
          cases refused
          exact all_seen_put seen _ fun _ => trivial
      next =>
          cases refused
          exact all_seen_put seen _ fun _ => trivial
      next => cases refused
  | outside member value =>
      cases stepped
      exact fun id call new found => seen_later (seen id call new found) _

theorem run_seen (executed : run (State.step field) origin actions = some state) :
    AllSeen field origin actions state := by
  apply run_history (AllSeen field origin) ?_ ?_ executed
  · intro before middle action after reached seen stepped
    exact step_seen reached seen stepped
  · intro id call new found
    rw [new] at found
    cases found

/-- What the end of a getter that began in the run tells about the members. -/
structure Witnessed (field : Field Value) (origin : State Value) (actions : List (Action Value))
    (id : Nat) (call : Call Value) : Prop where
  returned : ∀ value, call.control = .returned value →
    call.members ≠ [] ∧ ∀ member ∈ call.members, Saw field origin actions id member value
  conflict : ∀ fieldName, call.control = .thrown (.fieldValueConflict fieldName) →
    fieldName = field.name ∧
      ∃ first ∈ call.members, ∃ second ∈ call.members, first ≠ second ∧ ∃ one two, one ≠ two ∧
        Saw field origin actions id first one ∧ Saw field origin actions id second two
  empty : call.control = .thrown .emptyMultipleControlGroup → call.members = []
  thrown : ∀ error, call.control = .thrown error →
    error ≠ .stream ∧ ∀ expression, error ≠ .assertion expression

/-- In every interleaving of setters, getters and changes from outside. -/
theorem fold_fields_witnessed (field : Field Value) (origin : State Value)
    (actions : List (Action Value)) (state : State Value)
    (executed : run (State.step field) origin actions = some state) (id : Nat)
    (call : Call Value) (new : origin.calls id = none) (found : state.calls id = some call) :
    Witnessed field origin actions id call := by
  have seen := run_seen executed id call new found
  constructor
  · intro value at_
    simpa only [Seen, at_] using seen
  · intro fieldName at_
    simpa only [Seen, at_] using seen
  · intro at_
    simpa only [Seen, at_] using seen
  · intro error at_
    cases error with
    | stream => simp only [Seen, at_] at seen
    | assertion expression => simp only [Seen, at_] at seen
    | emptyMultipleControlGroup => exact ⟨nofun, nofun⟩
    | fieldValueConflict fieldName => exact ⟨nofun, nofun⟩
    | member code => exact ⟨nofun, nofun⟩

end Seen

def overtaken : List (Action Bool) :=
  [.begin 0 [3, 7] (.set true), .begin 1 [3, 7] .get, .step 1, .step 0, .step 0, .step 1]

theorem fold_fields_witnessed_overtaken :
    ∃ state call, run (State.step notifyOnRelease) allOff overtaken = some state ∧
      state.calls 1 = some call ∧
      call.control = .thrown (.fieldValueConflict "notify_on_release") ∧
      Witnessed notifyOnRelease allOff overtaken 1 call := by
  have outcome : ((run (State.step notifyOnRelease) allOff overtaken).bind fun state =>
      state.calls 1) =
        some ⟨[3, 7], .thrown (.fieldValueConflict "notify_on_release")⟩ := by
    decide +kernel
  rcases Option.bind_eq_some_iff.mp outcome with ⟨state, executed, found⟩
  exact ⟨state, _, executed, found, rfl,
    fold_fields_witnessed notifyOnRelease allOff overtaken state executed 1 _ rfl found⟩

section Serialised

variable {state next : State Value} {members : List Nat}

def Writing (state : State Value) (id : Nat) : Prop :=
  ∃ call value rest, state.calls id = some call ∧ call.control = .set value rest

/-- All calls iterate alike, a setter begins only where no other is going on, and
nobody else writes to the members. -/
def InOrder (members : List Nat) (state : State Value) : Action Value → Prop
  | .begin _ order request => order = members ∧
      ∀ value, request = .set value → ∀ other, ¬Writing state other
  | .outside member _ => member ∉ members
  | .step _ => True
  | .refuse _ _ => True

/-- A setter is alone, and the members it has passed hold its value. -/
structure Serial (members : List Nat) (state : State Value) : Prop where
  order : ∀ id call, state.calls id = some call → call.members = members
  distinct : ∀ id call, state.calls id = some call → members.Nodup
  alone : ∀ id other, Writing state id → Writing state other → id = other
  passed : ∀ id call value rest, state.calls id = some call → call.control = .set value rest →
    ∃ done, members = done ++ rest ∧ ∀ member ∈ done, state.kept member = value

theorem serial_put (serial : Serial members state) {id : Nat} {call : Call Value}
    {control : Control Value} (found : state.calls id = some call)
    (follows : ∀ value rest, control = .set value rest → call.control = .set value rest) :
    Serial members (state.put id call control) := by
  have was : ∀ other, Writing (state.put id call control) other → Writing state other := by
    intro other ⟨later, value, rest, present, at_⟩
    simp only [State.put, Function.update_apply] at present
    split at present
    next same =>
        cases present
        exact ⟨call, value, rest, same ▸ found, follows value rest at_⟩
    next => exact ⟨later, value, rest, present, at_⟩
  constructor
  · intro other later present
    simp only [State.put, Function.update_apply] at present
    split at present
    next =>
        cases present
        exact serial.order id call found
    next => exact serial.order other later present
  · intro _ _ _
    exact serial.distinct id call found
  · exact fun one two first second => serial.alone one two (was one first) (was two second)
  · intro other later value rest present at_
    simp only [State.put, Function.update_apply] at present
    split at present
    next =>
        cases present
        exact serial.passed id call value rest found (follows value rest at_)
    next => exact serial.passed other later value rest present at_

theorem serial_wrote (serial : Serial members state) {id : Nat} {call : Call Value} {value : Value}
    {member : Nat} {rest : List Nat} (found : state.calls id = some call)
    (at_ : call.control = .set value (member :: rest)) :
    Serial members ((state.write member value).put id call (.set value rest)) := by
  have writes : Writing state id := ⟨call, value, member :: rest, found, at_⟩
  obtain ⟨done, split, passed⟩ := serial.passed id call value (member :: rest) found at_
  have only : ∀ other, Writing ((state.write member value).put id call (.set value rest)) other →
      other = id := by
    intro other ⟨later, wrote, left, present, atLater⟩
    simp only [State.put, State.write, Function.update_apply] at present
    split at present
    next same => exact same
    next => exact serial.alone other id ⟨later, wrote, left, present, atLater⟩ writes
  constructor
  · intro other later present
    simp only [State.put, State.write, Function.update_apply] at present
    split at present
    next =>
        cases present
        exact serial.order id call found
    next => exact serial.order other later present
  · intro _ _ _
    exact serial.distinct id call found
  · exact fun one two first second => (only one first).trans (only two second).symm
  · intro other later wrote left present atLater
    have same := only other ⟨later, wrote, left, present, atLater⟩
    simp only [State.put, same, Function.update_self] at present
    cases present
    cases atLater
    refine ⟨done ++ [member], by rw [split]; simp, ?_⟩
    intro other inside
    simp only [State.put, State.write, Function.update_apply]
    split
    next => rfl
    next different =>
        rcases List.mem_append.mp inside with old | last
        · exact passed other old
        · exact absurd (List.mem_singleton.mp last) different

variable {field : Field Value}

theorem advanced_serial (serial : Serial members state) {id : Nat} {call : Call Value}
    (found : state.calls id = some call) (advanced : Advanced field state id call next) :
    Serial members next := by
  cases advanced with
  | finished value at_ => exact serial_put serial found nofun
  | wrote value member rest at_ => exact serial_wrote serial found at_
  | unset at_ => exact serial_put serial found nofun
  | returned value at_ => exact serial_put serial found nofun
  | first member rest at_ => exact serial_put serial found nofun
  | same value member rest at_ agrees => exact serial_put serial found nofun
  | conflict value member rest at_ differs => exact serial_put serial found nofun

theorem start_serial (members : List Nat) (kept : Nat → Value) :
    Serial members (start kept) := by
  constructor
  · intro id call found
    cases found
  · intro id call found
    cases found
  · intro id other ⟨call, _, _, found, _⟩
    cases found
  · intro id call value rest found
    cases found

variable [DecidableEq Value]

theorem step_serial (serial : Serial members state) {action : Action Value}
    (inOrder : InOrder members state action) (stepped : state.step field action = some next) :
    Serial members next := by
  cases action with
  | begin id order request =>
      obtain ⟨sameOrder, noSetter⟩ := inOrder
      rw [State.step] at stepped
      split at stepped
      next => cases stepped
      next =>
          split at stepped
          next distinct =>
              cases stepped
              have was : ∀ other later value rest,
                  Function.update state.calls id (some ⟨order, started order request⟩) other =
                    some later → later.control = .set value rest →
                  (other = id ∧ rest = order ∧ request = .set value) ∨
                    state.calls other = some later := by
                intro other later value rest present at_
                simp only [Function.update_apply] at present
                split at present
                next same =>
                    cases present
                    cases request with
                    | set wanted =>
                        cases at_
                        exact .inl ⟨same, rfl, rfl⟩
                    | get =>
                        simp only [started] at at_
                        split at at_ <;> cases at_
                next => exact .inr present
              constructor
              · intro other later present
                simp only [Function.update_apply] at present
                split at present
                next =>
                    cases present
                    exact sameOrder
                next => exact serial.order other later present
              · intro _ _ _
                exact sameOrder ▸ distinct
              · intro one two ⟨first, value, rest, present, at_⟩
                  ⟨second, value', rest', present', at_'⟩
                rcases was one first value rest present at_ with ⟨same, _, asks⟩ | old
                · rcases was two second value' rest' present' at_' with ⟨same', _, _⟩ | old'
                  · exact same.trans same'.symm
                  · exact absurd ⟨second, value', rest', old', at_'⟩ (noSetter value asks two)
                · rcases was two second value' rest' present' at_' with ⟨_, _, asks⟩ | old'
                  · exact absurd ⟨first, value, rest, old, at_⟩ (noSetter value' asks one)
                  · exact serial.alone one two ⟨first, value, rest, old, at_⟩
                      ⟨second, value', rest', old', at_'⟩
              · intro other later value rest present at_
                rcases was other later value rest present at_ with ⟨_, whole, _⟩ | old
                · exact ⟨[], by rw [whole, sameOrder]; rfl, nofun⟩
                · exact serial.passed other later value rest old at_
          next => cases stepped
  | step id =>
      rcases Option.bind_eq_some_iff.mp stepped with ⟨call, found, advanced⟩
      exact advanced_serial serial found (advance_cases advanced)
  | refuse id code =>
      rcases Option.bind_eq_some_iff.mp stepped with ⟨call, found, refused⟩
      unfold State.refuse at refused
      split at refused
      next =>
          cases refused
          exact serial_put serial found nofun
      next =>
          cases refused
          exact serial_put serial found nofun
      next => cases refused
  | outside member value =>
      cases stepped
      refine ⟨serial.order, serial.distinct, serial.alone, ?_⟩
      intro id call wrote rest found at_
      obtain ⟨done, split, passed⟩ := serial.passed id call wrote rest found at_
      refine ⟨done, split, fun other inside => ?_⟩
      have different : other ≠ member := by
        rintro rfl
        exact inOrder (by rw [split]; exact List.mem_append_left _ inside)
      simp only [State.write, Function.update_of_ne different]
      exact passed other inside

end Serialised

section Shared

variable {field : Field Value} {state next : State Value} {members : List Nat} {id : Nat}
  {value : Value}

def Shared (members : List Nat) (value : Value) (state : State Value) : Prop :=
  ∀ member ∈ members, state.kept member = value

/-- While the members do not share the value, a getter that has seen nothing else has a
member before it that does not hold it. -/
def Eludes (members : List Nat) (value : Value) (state : State Value) : Control Value → Prop
  | .fold none rest => rest = members
  | .fold (some seen) rest => (∃ done, members = done ++ rest) ∧
      (seen = value → ¬Shared members value state →
        ∃ member ∈ rest, state.kept member ≠ value)
  | .returned seen => seen ≠ value
  | .set _ _ => True
  | .finished => True
  | .thrown _ => True

def Elusive (members : List Nat) (id : Nat) (value : Value) (state : State Value) : Prop :=
  ∀ call, state.calls id = some call → Eludes members value state call.control

/-- Two ways of cutting the order: what follows a member lies in every part it lies in. -/
theorem later_inside {done rest seen left : List Nat} {member : Nat} (distinct : members.Nodup)
    (split : members = done ++ member :: rest) (cut : members = seen ++ left)
    (inside : member ∈ left) : ∀ other ∈ rest, other ∈ left := by
  intro other after
  rcases List.append_eq_append_iff.mp (split.symm.trans cut) with
    ⟨between, early, late⟩ | ⟨between, early, late⟩
  · cases between with
    | nil =>
        rw [List.nil_append] at late
        rw [← late]
        exact List.mem_cons_of_mem _ after
    | cons first between =>
        -- The member would lie on both sides of the second cut.
        cases late
        have twice := (List.nodup_append.mp (cut ▸ distinct)).2.2
        exact absurd rfl (twice member (by rw [early]; simp) member inside)
  · rw [late]
    exact List.mem_append_right _ (List.mem_cons_of_mem _ after)

/-- A setter that reaches the last member without the value makes them share it. -/
theorem eludes_write (serial : Serial members state) {other : Nat} {call : Call Value}
    {wrote : Value} {member : Nat} {rest : List Nat} (found : state.calls other = some call)
    (at_ : call.control = .set wrote (member :: rest)) {control : Control Value}
    (eludes : Eludes members value state control)
    (apart : ∀ seen left, control = .fold seen left → ¬Shared members value state) :
    Eludes members value (state.write member wrote) control := by
  cases control with
  | set _ _ => trivial
  | finished => trivial
  | thrown _ => trivial
  | returned seen => exact eludes
  | fold seen left =>
      cases seen with
      | none => exact eludes
      | some seen =>
          obtain ⟨⟨before, cut⟩, ahead⟩ := eludes
          refine ⟨⟨before, cut⟩, fun same unshared => ?_⟩
          obtain ⟨differing, inside, differs⟩ := ahead same (apart (some seen) left rfl)
          by_cases written : differing = member
          · subst written
            by_cases wanted : wrote = value
            · obtain ⟨done, split, passed⟩ :=
                serial.passed other call wrote (differing :: rest) found at_
              simp only [Shared, not_forall] at unshared
              obtain ⟨late, isMember, stillDiffers⟩ := unshared
              have notWritten : late ≠ differing := by
                rintro rfl
                simp only [State.write, Function.update_self] at stillDiffers
                exact stillDiffers wanted
              have unchanged : (state.write differing wrote).kept late = state.kept late :=
                Function.update_of_ne notWritten _ _
              refine ⟨late, ?_, stillDiffers⟩
              rw [split] at isMember
              rcases List.mem_append.mp isMember with old | new
              · rw [unchanged, passed late old] at stillDiffers
                exact absurd wanted stillDiffers
              · have after := List.mem_of_ne_of_mem notWritten new
                exact later_inside (serial.distinct other call found) split cut inside late after
            · refine ⟨differing, inside, ?_⟩
              simp only [State.write, Function.update_self]
              exact wanted
          · refine ⟨differing, inside, ?_⟩
            simp only [State.write, Function.update_of_ne written]
            exact differs

theorem elusive_put (elusive : Elusive members id value state) {other : Nat} {call : Call Value}
    {control : Control Value}
    (eludes : other = id → Eludes members value state control) :
    Elusive members id value (state.put other call control) := by
  intro later present
  simp only [State.put, Function.update_apply] at present
  split at present
  next same =>
      cases present
      exact eludes same.symm
  next => exact elusive later present

theorem advanced_elusive (serial : Serial members state) (elusive : Elusive members id value state)
    (apart : Folding state id → ¬Shared members value state) {other : Nat} {call : Call Value}
    (found : state.calls other = some call) (advanced : Advanced field state other call next) :
    Elusive members id value next := by
  have own : other = id → Eludes members value state call.control :=
    fun same => elusive call (same ▸ found)
  have unshared : other = id → ∀ seen rest, call.control = .fold seen rest →
      ¬Shared members value state :=
    fun same seen rest at_ => apart ⟨call, seen, rest, same ▸ found, at_⟩
  cases advanced with
  | finished wrote at_ => exact elusive_put elusive fun _ => trivial
  | unset at_ => exact elusive_put elusive fun _ => trivial
  | conflict seen member rest at_ differs => exact elusive_put elusive fun _ => trivial
  | wrote wrote member rest at_ =>
      have written : Elusive members id value (state.write member wrote) := by
        intro later present
        apply eludes_write serial found at_ (elusive later present)
        exact fun seen left atLater => apart ⟨later, seen, left, present, atLater⟩
      exact elusive_put written fun _ => trivial
  | returned seen at_ =>
      apply elusive_put elusive
      intro same wanted
      have eludes := own same
      rw [at_] at eludes
      obtain ⟨member, absurdly, _⟩ := eludes.2 wanted (unshared same (some seen) [] at_)
      cases absurdly
  | first member rest at_ =>
      apply elusive_put elusive
      intro same
      have eludes := own same
      rw [at_] at eludes
      refine ⟨⟨[member], eludes.symm⟩, fun wanted differ => ?_⟩
      simp only [Shared, not_forall] at differ
      obtain ⟨differing, isMember, differs⟩ := differ
      have notFirst : differing ≠ member := by
        rintro rfl
        exact differs wanted
      exact ⟨differing, List.mem_of_ne_of_mem notFirst (eludes ▸ isMember), differs⟩
  | same seen member rest at_ agrees =>
      apply elusive_put elusive
      intro same
      have eludes := own same
      rw [at_] at eludes
      obtain ⟨⟨done, cut⟩, ahead⟩ := eludes
      refine ⟨⟨done ++ [member], by rw [cut]; simp⟩, fun wanted differ => ?_⟩
      obtain ⟨differing, inside, differs⟩ := ahead wanted differ
      have notFirst : differing ≠ member := by
        rintro rfl
        exact differs (agrees.trans wanted)
      exact ⟨differing, List.mem_of_ne_of_mem notFirst inside, differs⟩

theorem eludes_started (request : Request Value) :
    Eludes members value state (started members request) := by
  cases request with
  | set wanted => trivial
  | get =>
      by_cases empty : members = []
      · rw [started, if_pos empty]
        trivial
      · rw [started, if_neg empty]
        rfl

variable [DecidableEq Value]

theorem step_elusive (serial : Serial members state) (elusive : Elusive members id value state)
    (apart : Folding state id → ¬Shared members value state) {action : Action Value}
    (inOrder : InOrder members state action) (stepped : state.step field action = some next) :
    Elusive members id value next := by
  cases action with
  | begin other order request =>
      rw [State.step] at stepped
      split at stepped
      next => cases stepped
      next =>
          split at stepped
          next =>
              cases stepped
              have begun : Elusive members id value
                  (state.put other ⟨order, .finished⟩ (started order request)) := by
                rw [inOrder.1]
                exact elusive_put elusive fun _ => eludes_started request
              exact begun
          next => cases stepped
  | step other =>
      rcases Option.bind_eq_some_iff.mp stepped with ⟨call, found, advanced⟩
      exact advanced_elusive serial elusive apart found (advance_cases advanced)
  | refuse other code =>
      rcases Option.bind_eq_some_iff.mp stepped with ⟨call, found, refused⟩
      unfold State.refuse at refused
      split at refused
      next =>
          cases refused
          exact elusive_put elusive fun _ => trivial
      next =>
          cases refused
          exact elusive_put elusive fun _ => trivial
      next => cases refused
  | outside member wrote =>
      cases stepped
      have unchanged : ∀ other ∈ members,
          (state.write member wrote).kept other = state.kept other := by
        intro other inside
        refine Function.update_of_ne ?_ _ _
        rintro rfl
        exact inOrder inside
      intro call found
      have eludes := elusive call found
      cases at_ : call.control with
      | set _ _ => trivial
      | finished => trivial
      | thrown _ => trivial
      | returned seen => rwa [at_] at eludes
      | fold seen rest =>
          rw [at_] at eludes
          cases seen with
          | none => exact eludes
          | some seen =>
              obtain ⟨⟨done, cut⟩, ahead⟩ := eludes
              refine ⟨⟨done, cut⟩, fun wanted differ => ?_⟩
              have differed : ¬Shared members value state := fun shared =>
                differ fun other inside => (unchanged other inside).trans (shared other inside)
              obtain ⟨differing, inside, differs⟩ := ahead wanted differed
              have isMember : differing ∈ members := by
                rw [cut]
                exact List.mem_append_right _ inside
              exact ⟨differing, inside, by rw [unchanged differing isMember]; exact differs⟩

end Shared

/-- A value that a getter returns was at some moment of the call the value of all
members at once, also where setters have thrown halfway. -/
theorem value_shared_at_a_moment [DecidableEq Value] (field : Field Value) (members : List Nat)
    (kept : Nat → Value) (actions : List (Action Value)) (state : State Value)
    (executed : run (State.step field) (start kept) actions = some state)
    (ordered : Guarded (State.step field) (InOrder members) (start kept) actions)
    (id : Nat) (call : Call Value) (value : Value) (found : state.calls id = some call)
    (returned : call.control = .returned value) :
    ∃ earlier later middle, actions = earlier ++ later ∧
      run (State.step field) (start kept) earlier = some middle ∧ Folding middle id ∧
      Shared members value middle := by
  by_contra never
  have apart : Guarded (State.step field)
      (fun state _ => Folding state id → ¬Shared members value state) (start kept) actions := by
    apply guarded_of_reached
    intro earlier action later middle split reached folding shared
    exact never ⟨earlier, action :: later, middle, split, reached, folding, shared⟩
  have initially : Elusive members id value (start kept) := by
    intro call found
    cases found
  have ended := guarded_invariant
    (fun state => Serial members state ∧ Elusive members id value state)
    (fun _ _ _ invariant guard stepped =>
      ⟨step_serial invariant.1 guard.1 stepped,
        step_elusive invariant.1 invariant.2 guard.2 guard.1 stepped⟩)
    ⟨start_serial members kept, initially⟩ (guarded_and ordered apart) executed
  have eludes := ended.2 call found
  rw [returned] at eludes
  exact eludes rfl

def followed : List (Action Bool) :=
  [.begin 0 [3, 7] (.set true), .begin 1 [3, 7] .get, .step 0, .step 1, .step 0, .step 1, .step 1]

theorem value_shared_at_a_moment_followed :
    ∃ state call, run (State.step notifyOnRelease) allOff followed = some state ∧
      state.calls 1 = some call ∧ call.control = .returned true ∧
      ∃ earlier later middle, followed = earlier ++ later ∧
        run (State.step notifyOnRelease) allOff earlier = some middle ∧ Folding middle 1 ∧
        Shared [3, 7] true middle := by
  have outcome : ((run (State.step notifyOnRelease) allOff followed).bind fun state =>
      state.calls 1) = some ⟨[3, 7], .returned true⟩ := by
    decide +kernel
  rcases Option.bind_eq_some_iff.mp outcome with ⟨state, executed, found⟩
  have ordered : Guarded (State.step notifyOnRelease) (InOrder [3, 7]) allOff followed := by
    refine ⟨⟨rfl, fun _ _ other ⟨_, _, _, nothing, _⟩ => nomatch nothing⟩, fun _ _ =>
      ⟨⟨rfl, nofun⟩, fun _ _ => ?_⟩⟩
    exact ⟨trivial, fun _ _ => ⟨trivial, fun _ _ => ⟨trivial, fun _ _ => ⟨trivial, fun _ _ =>
      ⟨trivial, fun _ _ => trivial⟩⟩⟩⟩⟩
  exact ⟨state, _, executed, found, rfl, value_shared_at_a_moment notifyOnRelease [3, 7]
    (fun _ => false) followed state executed ordered 1 _ true found rfl⟩

section After

variable {field : Field Value} {middle state : State Value} {members : List Nat}
  {later : List (Action Value)}

theorem getter_advanced_quiet {id : Nat} {call : Call Value} (reads : ¬Writing middle id)
    (found : middle.calls id = some call) (advanced : Advanced field middle id call state) :
    (∀ member ∈ members, state.kept member = middle.kept member) ∧ ¬Writing state id := by
  have notSet : ∀ control, (∀ value rest, control ≠ .set value rest) →
      ¬Writing (middle.put id call control) id := by
    intro control ends ⟨later, value, rest, present, at_⟩
    simp only [State.put, Function.update_self] at present
    cases present
    exact ends value rest at_
  cases advanced with
  | finished value at_ => exact absurd ⟨call, value, [], found, at_⟩ reads
  | wrote value member rest at_ => exact absurd ⟨call, value, member :: rest, found, at_⟩ reads
  | unset at_ => exact ⟨fun _ _ => rfl, notSet _ nofun⟩
  | returned value at_ => exact ⟨fun _ _ => rfl, notSet _ nofun⟩
  | first member rest at_ => exact ⟨fun _ _ => rfl, notSet _ nofun⟩
  | same value member rest at_ agrees => exact ⟨fun _ _ => rfl, notSet _ nofun⟩
  | conflict value member rest at_ differs => exact ⟨fun _ _ => rfl, notSet _ nofun⟩

variable [DecidableEq Value]

/-- The action changes nothing that a member holds. -/
def Quiet (field : Field Value) (members : List Nat) (state : State Value)
    (action : Action Value) : Prop :=
  ∀ next, state.step field action = some next →
    ∀ member ∈ members, next.kept member = state.kept member

theorem quiet_kept (quiet : Guarded (State.step field) (Quiet field members) middle later)
    (continued : run (State.step field) middle later = some state) :
    ∀ member ∈ members, state.kept member = middle.kept member :=
  guarded_invariant (fun state => ∀ member ∈ members, state.kept member = middle.kept member)
    (fun _ _ next kept guard stepped member inside =>
      (guard next stepped member inside).trans (kept member inside))
    (fun _ _ => rfl) quiet continued

theorem saw_quiet (quiet : Guarded (State.step field) (Quiet field members) middle later)
    {id member : Nat} {value : Value} (inside : member ∈ members)
    (saw : Saw field middle later id member value) : middle.kept member = value := by
  obtain ⟨earlier, rest, moment, split, reached, _, held⟩ := saw
  rw [← quiet_kept (guarded_earlier (split ▸ quiet)) reached member inside]
  exact held

theorem refused_quiet {id : Nat} {code : Errno} :
    Quiet field members middle (.refuse id code) := by
  intro next stepped member _
  rcases Option.bind_eq_some_iff.mp stepped with ⟨call, _, refused⟩
  unfold State.refuse at refused
  split at refused
  next =>
      cases refused
      rfl
  next =>
      cases refused
      rfl
  next => cases refused

theorem getter_begins {id : Nat} {order : List Nat}
    (stepped : middle.step field (.begin id order .get) = some state) :
    state.kept = middle.kept ∧ ¬Writing state id := by
  rw [State.step] at stepped
  split at stepped
  next => cases stepped
  next =>
      split at stepped
      next =>
          cases stepped
          refine ⟨rfl, ?_⟩
          intro ⟨call, value, rest, present, at_⟩
          simp only [Function.update_self] at present
          cases present
          simp only [started] at at_
          split at at_ <;> cases at_
      next => cases stepped

theorem getter_quiet {id : Nat} (reads : ¬Writing middle id) (count : Nat) :
    Guarded (State.step field) (Quiet field members) middle
      (List.replicate count (.step id)) := by
  induction count generalizing middle with
  | zero => trivial
  | succ count ih =>
      have quiet : ∀ next, middle.step field (.step id) = some next →
          (∀ member ∈ members, next.kept member = middle.kept member) ∧ ¬Writing next id := by
        intro next stepped
        rcases Option.bind_eq_some_iff.mp stepped with ⟨call, found, advanced⟩
        exact getter_advanced_quiet reads found (advance_cases advanced)
      exact ⟨fun next stepped => (quiet next stepped).1, fun next stepped =>
        ih (quiet next stepped).2⟩

end After

def oneWritten : List (Action Bool) := [.begin 0 [3, 7] (.set true), .step 0]

def refused : List (Action Bool) :=
  .refuse 0 5 :: .begin 1 [3, 7] .get :: List.replicate 2 (.step 1)

end ContestSystem.Cgroup.SharedSettings
