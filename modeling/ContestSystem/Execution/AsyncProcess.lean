import ContestSystem.Lib.Pool
import ContestSystem.Unistd.ProcessResult

/-!
# Asynchronous processes

Every call that an `AsyncProcess` makes while it waits, stops or is destroyed
is one action with the answer of the kernel or the file system, so that the
calls of several values interleave with each other and with the children. The
kernel keeps a child until it is waited for and gives its pid to no other one
before that. Each value has temporary files of its own.
-/

namespace ContestSystem.Execution

open ContestSystem.Lib.Ownership ContestSystem.Lib.Unordered ContestSystem.Unistd

set_option autoImplicit false

abbrev Tempfile := Nat

/-- A child that has not been waited for: `status` once it has exited, and the
files it writes to. -/
structure Child where
  status : Option StatLoc
  stdout : Tempfile
  stderr : Tempfile

/-- `contents` are the bytes that have been written to a file, `removed` the
files that cannot be opened any more. -/
structure Kernel where
  children : Store Pid Child
  contents : Tempfile → Bytes
  removed : Finset Tempfile
  fresh : Tempfile

namespace Kernel

def start : Kernel :=
  { children := ∅, contents := fun _ => [], removed := ∅, fresh := 0 }

def allocate (kernel : Kernel) : Kernel :=
  { kernel with fresh := kernel.fresh + 3 }

def addChild (pid : Pid) (child : Child) (kernel : Kernel) : Kernel :=
  { kernel with children := kernel.children.insert pid child }

def reap (pid : Pid) (kernel : Kernel) : Kernel :=
  { kernel with children := kernel.children.erase pid }

def append (file : Tempfile) (bytes : Bytes) (kernel : Kernel) : Kernel :=
  { kernel with
    contents := Function.update kernel.contents file (kernel.contents file ++ bytes) }

def remove (file : Tempfile) (kernel : Kernel) : Kernel :=
  { kernel with removed := insert file kernel.removed }

end Kernel

structure AsyncProcess where
  in_ : Tempfile
  out_ : Tempfile
  err_ : Tempfile
  pid_ : Pid := 0
  result_ : Option Result := none
deriving DecidableEq

/-- A member function that is running; `destroy` is the destructor. -/
inductive Call
  | wait
  | poll
  | stop
  | destroy
deriving DecidableEq

/-- The steps of `collectOutput`. -/
inductive Stage
  | readOut
  | removeOut
  | readErr
  | removeErr
deriving DecidableEq

/-- Which call of the kernel a member function makes next. -/
inductive Control
  | idle
  /-- `waitpid` of `wait`. -/
  | waiting (call : Call)
  /-- `waitpid` of `poll`, with WNOHANG. -/
  | polling (call : Call)
  /-- `kill` of `stop`. -/
  | killing (call : Call)
  | collecting (stage : Stage) (call : Call)
deriving DecidableEq

structure Object where
  process : AsyncProcess
  control : Control := .idle
deriving DecidableEq

inductive ProcessEvent
  | forked (pid : Pid)
  /-- `waitpid`; a successful answer is the status, or `none` for 0. -/
  | waited (pid : Pid) (noHang : Bool) (answer : Except Nat (Option StatLoc))
  | killed (pid : Pid) (answer : Except Nat Unit)
  /-- `wait` or `poll` returns the `result_` of this value. -/
  | returned (process : AsyncProcess)

namespace AsyncProcess

/-- `AsyncProcess() = default`, with files that the kernel has just given. -/
def invalid (kernel : Kernel) : AsyncProcess :=
  { in_ := kernel.fresh, out_ := kernel.fresh + 1, err_ := kernel.fresh + 2 }

/-- The constructor after `::fork` has returned a pid in the parent. -/
def forked (pid : Pid) (kernel : Kernel) : AsyncProcess :=
  { invalid kernel with pid_ := pid }

def child (process : AsyncProcess) : Child :=
  { status := none, stdout := process.out_, stderr := process.err_ }

/-- What becomes of the value, the calls it makes, newest first, and the kernel. -/
abbrev Step := Option Object × List ProcessEvent × Kernel

/-- The member function returns; the value of a destructor is gone. -/
def complete (call : Call) (process : AsyncProcess) (kernel : Kernel) : Step :=
  match call with
  | .wait | .poll => (some { process := process }, [.returned process], kernel)
  | .stop => (some { process := process }, [], kernel)
  | .destroy => (none, [], kernel)

/-- The member function throws, which the destructor catches. -/
def throw (call : Call) (process : AsyncProcess) (kernel : Kernel) : Step :=
  match call with
  | .wait | .poll | .stop => (some { process := process }, [], kernel)
  | .destroy => (none, [], kernel)

/-- A member function up to its first call. `stop` starts with `poll`; all but
the destructor assert that the value is valid. -/
def begin (call : Call) (kernel : Kernel) (object : Object) : Option Step :=
  if object.control = .idle then
    if object.process.pid_ = 0 then
      if call = .destroy then some (none, [], kernel) else none
    else
      match object.process.result_, call with
      | some _, _ => some (complete call object.process kernel)
      | none, .wait => some (some { object with control := .waiting .wait }, [], kernel)
      | none, _ => some (some { object with control := .polling call }, [], kernel)
  else none

/-- The `waitpid` call has reaped the child. -/
def reaped (call : Call) (noHang : Bool) (statLoc : StatLoc) (kernel : Kernel)
    (process : AsyncProcess) : Option Step :=
  (kernel.children.lookup process.pid_).bind fun child =>
    if child.status = some statLoc then
      some
        (some
          { process := { process with result_ := some (({} : Result).assign statLoc) }
            control := .collecting .readOut call },
          [.waited process.pid_ noHang (.ok (some statLoc))], kernel.reap process.pid_)
    else none

def waited (answer : Except Nat StatLoc) (kernel : Kernel) (object : Object) : Option Step :=
  match object.control, answer with
  | .waiting call, .ok statLoc => reaped call false statLoc kernel object.process
  | .waiting call, .error errno =>
      let event := ProcessEvent.waited object.process.pid_ false (.error errno)
      if errno = EINTR then some (some object, [event], kernel)
      else
        let thrown := throw call object.process kernel
        some (thrown.1, thrown.2.1 ++ [event], thrown.2.2)
  | _, _ => none

/-- `waitpid` in `poll`, which `stop` has called unless `call` is `poll`. It
answers 0 only for a child that exists. -/
def polled (answer : Except Nat (Option StatLoc)) (kernel : Kernel) (object : Object) :
    Option Step :=
  match object.control, answer with
  | .polling call, .ok (some statLoc) => reaped call true statLoc kernel object.process
  | .polling call, .ok none =>
      let event := ProcessEvent.waited object.process.pid_ true (.ok none)
      if object.process.pid_ ∈ kernel.children then
        match call with
        | .wait | .poll =>
            some (some { object with control := .idle }, [.returned object.process, event], kernel)
        | .stop | .destroy => some (some { object with control := .killing call }, [event], kernel)
      else none
  | .polling call, .error errno =>
      let event := ProcessEvent.waited object.process.pid_ true (.error errno)
      let thrown := throw call object.process kernel
      some (thrown.1, thrown.2.1 ++ [event], thrown.2.2)
  | _, _ => none

/-- `!::kill(pid_, SIGKILL) < 0` is never true, so `stop` goes on to `wait`. -/
def killed (answer : Except Nat Unit) (kernel : Kernel) (object : Object) : Option Step :=
  match object.control with
  | .killing call =>
      some (some { object with control := .waiting call },
        [.killed object.process.pid_ answer], kernel)
  | _ => none

/-- One step of `collectOutput`, and what the member function does after the last. -/
def collect (answer : Except Nat Unit) (kernel : Kernel) (object : Object) : Option Step :=
  match object.control, object.process.result_, answer with
  | .collecting _ call, some _, .error _ => some (throw call object.process kernel)
  | .collecting .readOut call, some result, .ok () =>
      if object.process.out_ ∈ kernel.removed then none
      else some
        (some
          { process := { object.process with
              result_ := some { result with out := kernel.contents object.process.out_ } }
            control := .collecting .removeOut call }, [], kernel)
  | .collecting .removeOut call, some _, .ok () =>
      some (some { object with control := .collecting .readErr call }, [],
        kernel.remove object.process.out_)
  | .collecting .readErr call, some result, .ok () =>
      if object.process.err_ ∈ kernel.removed then none
      else some
        (some
          { process := { object.process with
              result_ := some { result with err := kernel.contents object.process.err_ } }
            control := .collecting .removeErr call }, [], kernel)
  | .collecting .removeErr call, some _, .ok () =>
      some (complete call object.process (kernel.remove object.process.err_))
  | _, _, _ => none

theorem result_ne_none {process : AsyncProcess} {result : Result}
    (has : process.result_ = some result) : process.result_ ≠ none := by
  rw [has]
  exact nofun

end AsyncProcess

abbrev Address := Nat

abbrev Processes := Pool Address Object ProcessEvent

structure System where
  processes : Processes
  kernel : Kernel

namespace System

inductive Action
  /-- The constructor with what `::fork` answers in the parent. -/
  | construct (address : Address) (answer : Except Nat Pid)
  | default (address : Address)
  | moveConstruct (address source : Address)
  | moveAssign (target source : Address)
  | swap (first second : Address)
  | begin (address : Address) (call : Call)
  | waited (address : Address) (answer : Except Nat StatLoc)
  | polled (address : Address) (answer : Except Nat (Option StatLoc))
  | killed (address : Address) (answer : Except Nat Unit)
  | collect (address : Address) (answer : Except Nat Unit)
  | write (pid : Pid) (toErr : Bool) (bytes : Bytes)
  | exit (pid : Pid) (statLoc : StatLoc)

def idleAt (system : System) (address : Address) : Bool :=
  (system.processes.store.lookup address).any fun object => object.control = .idle

def act (address : Address) (call : Kernel → Object → Option AsyncProcess.Step)
    (system : System) : Option System :=
  (system.processes.store.lookup address).bind fun object =>
    (call system.kernel object).map fun (after, events, kernel) =>
      { processes :=
          { store :=
              match after with
              | some next => system.processes.store.insert address next
              | none => system.processes.store.erase address
            journal := events ++ system.processes.journal }
        kernel := kernel }

def childActs (pid : Pid) (change : Child → Kernel → Kernel) (system : System) : Option System :=
  (system.kernel.children.lookup pid).bind fun child =>
    if child.status = none then some { system with kernel := change child system.kernel }
    else none

/-- `swap` of two values, neither of which has a member function running. -/
def swap (first second : Address) (system : System) : Option System :=
  if system.idleAt first ∧ system.idleAt second then
    if first = second then some system
    else
      (system.processes.changeTwo first second fun one two => ((two, one), [])).map
        fun processes => { system with processes := processes }
  else none

/-- The kernel gives no pid that a child still has. -/
def step (system : System) : Action → Option System
  | .construct address (.ok pid) =>
      if pid = 0 ∨ pid ∈ system.kernel.children then none
      else
        let process := AsyncProcess.forked pid system.kernel
        (system.processes.construct address { process := process } [.forked pid]).map
          fun processes =>
            { processes := processes
              kernel := system.kernel.allocate.addChild pid process.child }
  | .construct _ (.error _) => some { system with kernel := system.kernel.allocate }
  | .default address =>
      (system.processes.construct address { process := AsyncProcess.invalid system.kernel } []).map
        fun processes => { processes := processes, kernel := system.kernel.allocate }
  | .moveConstruct address source =>
      if system.idleAt source then
        (system.processes.constructFrom address source fun moved =>
          ((moved, { process := AsyncProcess.invalid system.kernel }), [])).map
            fun processes => { processes := processes, kernel := system.kernel.allocate }
      else none
  | .moveAssign target source => swap target source system
  | .swap first second => swap first second system
  | .begin address call => system.act address (AsyncProcess.begin call)
  | .waited address answer => system.act address (AsyncProcess.waited answer)
  | .polled address answer => system.act address (AsyncProcess.polled answer)
  | .killed address answer => system.act address (AsyncProcess.killed answer)
  | .collect address answer => system.act address (AsyncProcess.collect answer)
  | .write pid toErr bytes =>
      system.childActs pid fun child =>
        Kernel.append (if toErr then child.stderr else child.stdout) bytes
  | .exit pid statLoc =>
      system.childActs pid fun child => Kernel.addChild pid { child with status := some statLoc }

def start : System :=
  { processes := Pool.start, kernel := Kernel.start }

section Steps

variable {system next : System}

theorem act_cases {address : Address} {call : Kernel → Object → Option AsyncProcess.Step}
    (stepped : system.act address call = some next) :
    ∃ object step, system.processes.store.lookup address = some object ∧
      call system.kernel object = some step ∧ next.kernel = step.2.2 ∧
      next.processes.journal = step.2.1 ++ system.processes.journal ∧
      (∀ other, next.processes.store.lookup other =
        if other = address then step.1 else system.processes.store.lookup other) ∧
      ∀ holding : Object → Multiset Pid, ∃ rest,
        held holding system.processes.store = holding object + rest ∧
          held holding next.processes.store = step.1.elim 0 holding + rest := by
  obtain ⟨object, found, mapped⟩ := Option.bind_eq_some_iff.mp stepped
  obtain ⟨⟨after, events, kernel⟩, called, rfl⟩ := Option.map_eq_some_iff.mp mapped
  refine ⟨object, _, found, called, rfl, rfl, ?_, ?_⟩
  · intro other
    cases after with
    | none => exact lookup_erase_eq _ _ _
    | some object => exact lookup_insert_eq _ _ _ _
  · intro holding
    obtain ⟨rest, split, erased, inserted⟩ :
        ∃ rest, held holding system.processes.store = holding object + rest ∧ _ :=
      held_update found
    refine ⟨rest, split, ?_⟩
    cases after with
    | none => rw [erased, Option.elim_none, zero_add]
    | some next => exact inserted next

theorem child_acts_cases {pid : Pid} {change : Child → Kernel → Kernel}
    (stepped : system.childActs pid change = some next) :
    ∃ child, system.kernel.children.lookup pid = some child ∧ child.status = none ∧
      next = { system with kernel := change child system.kernel } := by
  obtain ⟨child, found, running⟩ := Option.bind_eq_some_iff.mp stepped
  split at running
  · rename_i status
    cases running
    exact ⟨child, found, status, rfl⟩
  · cases running

theorem swap_cases {first second : Address} (stepped : system.swap first second = some next) :
    next = system ∨ first ≠ second ∧ next.kernel = system.kernel ∧
      system.processes.changeTwo first second (fun one two => ((two, one), [])) =
        some next.processes := by
  unfold swap at stepped
  split at stepped
  · split at stepped
    · cases stepped
      exact .inl rfl
    · rename_i different
      obtain ⟨processes, changed, rfl⟩ := Option.map_eq_some_iff.mp stepped
      exact .inr ⟨different, rfl, changed⟩
  · cases stepped

end Steps

end System

end ContestSystem.Execution
