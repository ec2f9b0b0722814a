import Mathlib.Data.Finset.Card
import Mathlib.Data.Finset.Union
import ContestSystem.Cgroup.MultipleControlGroup
import ContestSystem.Lib.Run

/-!
# Terminating the tasks of a control group

`terminate` freezes the group, kills what the group then lists, thaws it and
waits until it is empty. Every call it makes is one action with the kernel's
answer, and between any two of them the processes of the system fork, exit and
follow the freezer. A set that is iterated is worked through in any order.
-/

namespace ContestSystem.Cgroup.Termination

open ContestSystem.Lib.Run

set_option autoImplicit false

abbrev Pid := Nat

def ESRCH : Errno := 3

def EBUSY : Errno := 16

inductive FreezerState
  | frozen
  | freezing
  | thawed
deriving DecidableEq

/-- An exception: a `SystemError` with its code, or any other one. -/
inductive Thrown
  | system (code : Errno)
  | other
deriving DecidableEq

/-- `groups` are the hierarchies in whose member group a process sits, `killed`
the processes with SIGKILL pending; `freezing` is set from the write of FROZEN to
the write of THAWED. -/
structure Processes where
  alive : Finset Pid
  groups : Pid → Finset Nat
  frozen : Finset Pid
  killed : Finset Pid
  freezing : Bool

namespace Processes

def tasks (processes : Processes) (member : Nat) : Finset Pid :=
  processes.alive.filter fun pid => member ∈ processes.groups pid

def fork (processes : Processes) (parent child : Pid) : Processes :=
  { processes with
    alive := insert child processes.alive
    groups := Function.update processes.groups child (processes.groups parent)
    frozen := processes.frozen.erase child
    killed := processes.killed.erase child }

def exit (processes : Processes) (pid : Pid) : Processes :=
  { processes with alive := processes.alive.erase pid }

def freeze (processes : Processes) (pid : Pid) : Processes :=
  { processes with frozen := insert pid processes.frozen }

def wake (processes : Processes) (pid : Pid) : Processes :=
  { processes with frozen := processes.frozen.erase pid }

def kill (processes : Processes) (pid : Pid) : Processes :=
  { processes with killed := insert pid processes.killed }

def setFreezing (processes : Processes) (freezing : Bool) : Processes :=
  { processes with freezing := freezing }

/-- A process that runs: it is neither frozen nor going to die. -/
def Runs (processes : Processes) (pid : Pid) : Prop :=
  pid ∈ processes.alive ∧ pid ∉ processes.frozen ∧ pid ∉ processes.killed

instance (processes : Processes) (pid : Pid) : Decidable (processes.Runs pid) :=
  inferInstanceAs (Decidable (_ ∧ _ ∧ _))

/-- What `freezer.state` may read. FROZEN means that every task is frozen. -/
def Reads (processes : Processes) (freezer : Nat) : FreezerState → Prop
  | .frozen => processes.freezing = true ∧ processes.tasks freezer ⊆ processes.frozen
  | .freezing => processes.freezing = true
  | .thawed => processes.freezing = false

instance (processes : Processes) (freezer : Nat) (answer : FreezerState) :
    Decidable (processes.Reads freezer answer) :=
  match answer with
  | .frozen => inferInstanceAs (Decidable (_ ∧ _))
  | .freezing => inferInstanceAs (Decidable (_ = _))
  | .thawed => inferInstanceAs (Decidable (_ = _))

end Processes

/-- Where `terminate` stands, that is which call it makes next. -/
inductive Control
  /-- `writeField` of `setState(FROZEN)`. -/
  | writeFrozen
  /-- `state()` of `setState(FROZEN)`. -/
  | readFrozen
  /-- `state()` of `freeze`. -/
  | checkFrozen
  /-- `tasks()` of the members that are left, in `terminate_`. -/
  | listing (left : Finset Nat) (found : Finset Pid)
  /-- `kill` of the listed processes that are left. -/
  | killing (left : Finset Pid) (terminated : Nat)
  /-- `writeField` of `setState(THAWED)`, with what `terminate_` returns or throws. -/
  | writeThawed (result : Except Thrown Nat)
  /-- `state()` of `setState(THAWED)`. -/
  | readThawed (result : Except Thrown Nat)
  /-- `tasks()` of the members that are left, in `waitEmpty_`. -/
  | waiting (terminated : Nat) (left : Finset Nat) (found : Finset Pid)
  | returned (terminated : Nat)
  | thrown (error : Thrown)
  /-- An exception left the scope exit, which ends the program. -/
  | crashed

/-- The group: the hierarchies of its members and the one `freezer.state` belongs to. -/
structure Target where
  freezer : Nat
  members : Finset Nat

def single (freezer : Nat) : Target :=
  { freezer := freezer, members := {freezer} }

def multiple {Pointer : Type} (cgroup : MultipleControlGroup Pointer) (freezer : Nat) : Target :=
  { freezer := freezer, members := cgroup.id2cgroup_.keys.toFinset }

structure State where
  control : Control
  processes : Processes

inductive Action
  | fork (parent child : Pid)
  | exit (pid : Pid)
  | freeze (pid : Pid)
  | wake (pid : Pid)
  | write (answer : Except Thrown Unit)
  | read (answer : Except Thrown FreezerState)
  | tasks (member : Nat) (answer : Except Thrown Unit)
  | kill (pid : Pid) (answer : Except Thrown Unit)

/-- `freeze` swallows EBUSY when `setState` throws it; any other exception unfreezes. -/
def caught (error : Thrown) : Control :=
  if error = .system EBUSY then .checkFrozen else .writeThawed (.error error)

def killFrom (left : Finset Pid) (terminated : Nat) : Control :=
  if left = ∅ then .writeThawed (.ok terminated) else .killing left terminated

def listFrom (left : Finset Nat) (found : Finset Pid) : Control :=
  if left = ∅ then killFrom found 0 else .listing left found

/-- `waitEmpty_` ends with a listing that is empty and else starts another one. -/
def waitFrom (target : Target) (terminated : Nat) (left : Finset Nat) (found : Finset Pid) :
    Control :=
  if left ≠ ∅ then .waiting terminated left found
  else if found = ∅ then .returned terminated
  else .waiting terminated target.members ∅

def thawed (target : Target) : Except Thrown Nat → Control
  | .ok terminated => waitFrom target terminated target.members ∅
  | .error error => .thrown error

/-- A write that FROZEN answers with EBUSY leaves the group partially frozen. -/
def write (state : State) (answer : Except Thrown Unit) : Option State :=
  match state.control, answer with
  | .writeFrozen, .ok () =>
      some { control := .readFrozen, processes := state.processes.setFreezing true }
  | .writeFrozen, .error error =>
      some
        { control := caught error
          processes := state.processes.setFreezing
            (state.processes.freezing || error = .system EBUSY) }
  | .writeThawed result, .ok () =>
      some { control := .readThawed result, processes := state.processes.setFreezing false }
  | .writeThawed _, .error _ => some { state with control := .crashed }
  | _, _ => none

def read (target : Target) (state : State) : Except Thrown FreezerState → Option State
  | .ok value =>
      if state.processes.Reads target.freezer value then
        match state.control with
        | .readFrozen =>
            some { state with control := if value = .frozen then .checkFrozen else .writeFrozen }
        | .checkFrozen =>
            some { state with
              control := if value = .frozen then listFrom target.members ∅ else .writeFrozen }
        | .readThawed result =>
            some { state with
              control := if value = .thawed then thawed target result else .writeThawed result }
        | _ => none
      else none
  | .error error =>
      match state.control with
      | .readFrozen => some { state with control := caught error }
      | .checkFrozen => some { state with control := .writeThawed (.error error) }
      | .readThawed _ => some { state with control := .crashed }
      | _ => none

def tasks (target : Target) (state : State) (member : Nat) (answer : Except Thrown Unit) :
    Option State :=
  match state.control, answer with
  | .listing left found, .ok () =>
      if member ∈ left then
        some { state with
          control := listFrom (left.erase member) (found ∪ state.processes.tasks member) }
      else none
  | .listing left _, .error error =>
      if member ∈ left then some { state with control := .writeThawed (.error error) } else none
  | .waiting terminated left found, .ok () =>
      if member ∈ left then
        some { state with
          control := waitFrom target terminated (left.erase member)
            (found ∪ state.processes.tasks member) }
      else none
  | .waiting _ left _, .error error =>
      if member ∈ left then some { state with control := .thrown error } else none
  | _, _ => none

/-- `kill` fails with ESRCH exactly where the process does not exist. A zombie would still accept
the signal to no effect, which is the kill just before the exit here. -/
def kill (state : State) (pid : Pid) (answer : Except Thrown Unit) : Option State :=
  match state.control, answer with
  | .killing left terminated, .ok () =>
      if pid ∈ left ∧ pid ∈ state.processes.alive then
        some
          { control := killFrom (left.erase pid) (terminated + 1)
            processes := state.processes.kill pid }
      else none
  | .killing left _, .error error =>
      if pid ∈ left ∧ (error = .system ESRCH ↔ pid ∉ state.processes.alive) then
        some { state with control := .writeThawed (.error error) }
      else none
  | _, _ => none

def step (target : Target) (state : State) : Action → Option State
  | .fork parent child =>
      if state.processes.Runs parent ∧ child ∉ state.processes.alive then
        some { state with processes := state.processes.fork parent child }
      else none
  | .exit pid =>
      if pid ∈ state.processes.alive ∧ pid ∉ state.processes.frozen then
        some { state with processes := state.processes.exit pid }
      else none
  | .freeze pid =>
      if state.processes.freezing = true ∧ pid ∈ state.processes.tasks target.freezer then
        some { state with processes := state.processes.freeze pid }
      else none
  | .wake pid =>
      if state.processes.freezing = false ∨ pid ∉ state.processes.tasks target.freezer then
        some { state with processes := state.processes.wake pid }
      else none
  | .write answer => write state answer
  | .read answer => read target state answer
  | .tasks member answer => tasks target state member answer
  | .kill pid answer => kill state pid answer

def start (processes : Processes) : State :=
  { control := .writeFrozen, processes := processes }

end ContestSystem.Cgroup.Termination
