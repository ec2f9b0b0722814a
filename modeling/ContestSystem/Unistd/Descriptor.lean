import ContestSystem.Lib.Pool

/-!
# Descriptors and pipes

A `Descriptor` owns a file descriptor number or nothing. A `Pipe` has two of
them as elements. The journal records the numbers that come in, and those that
are passed to `::close` or released, newest entry first; `::close` may answer
with an error, which does not change what the caller does next.
-/

namespace ContestSystem.Unistd

open ContestSystem.Lib.Ownership ContestSystem.Lib.Run ContestSystem.Lib.Unordered

set_option autoImplicit false

abbrev Fd := Int

/-- What `::close` answers: 0 or `errno`. -/
abbrev CloseAnswer := Except Nat Unit

inductive FdEvent
  | handedIn (fd : Fd)
  | closed (fd : Fd) (answer : CloseAnswer)
  | released (fd : Fd)

structure Descriptor where
  fd_ : Option Fd := none
deriving DecidableEq

namespace Descriptor

/-- `close(std::error_code &)`: the error code, the descriptor after it and the
calls made. `close()` does the same and throws the code. -/
def close (answer : CloseAnswer) (descriptor : Descriptor) :
    CloseAnswer × Descriptor × List FdEvent :=
  match descriptor.fd_ with
  | some fd => (answer, { fd_ := none }, [.closed fd answer])
  | none => (.ok (), descriptor, [])

def closeNoExcept (answer : CloseAnswer) (descriptor : Descriptor) :
    Descriptor × List FdEvent :=
  (close answer descriptor).2

def swap (first second : Descriptor) : Descriptor × Descriptor :=
  ({ fd_ := second.fd_ }, { fd_ := first.fd_ })

/-- `Descriptor(Descriptor &&)`: the new one and the source, after the calls. -/
def moveConstruct (answer : CloseAnswer) (source : Descriptor) :
    (Descriptor × Descriptor) × List FdEvent :=
  let swapped := swap {} source
  let closed := closeNoExcept answer swapped.2
  ((swapped.1, closed.1), closed.2)

/-- `operator=(Descriptor &&)` from another object. -/
def moveAssign (answer : CloseAnswer) (target source : Descriptor) :
    (Descriptor × Descriptor) × List FdEvent :=
  let swapped := swap target source
  let closed := closeNoExcept answer swapped.2
  ((swapped.1, closed.1), closed.2)

/-- `operator=(Descriptor &&)` from the object itself: the swap does nothing. -/
def moveAssignSelf (answer : CloseAnswer) (target : Descriptor) : Descriptor × List FdEvent :=
  closeNoExcept answer target

def assign (answer : CloseAnswer) (fd : Fd) (descriptor : Descriptor) :
    Descriptor × List FdEvent :=
  ({ (closeNoExcept answer descriptor).1 with fd_ := some fd },
    .handedIn fd :: (closeNoExcept answer descriptor).2)

def release (descriptor : Descriptor) : Option (Descriptor × List FdEvent) :=
  descriptor.fd_.map fun fd => ({ fd_ := none }, [.released fd])

def destroy (answer : CloseAnswer) (descriptor : Descriptor) : List FdEvent :=
  (closeNoExcept answer descriptor).2

end Descriptor

abbrev Address := Nat

/-- A descriptor stands for itself or is an end of a pipe. -/
inductive Place
  | descriptor (address : Address)
  | readEnd (pipe : Address)
  | writeEnd (pipe : Address)
deriving DecidableEq

inductive End
  | read
  | write

def End.of (pipe : Address) : End → Place
  | .read => .readEnd pipe
  | .write => .writeEnd pipe

/-- The descriptors of a program, those inside pipes included. -/
abbrev Descriptors := Pool Place Descriptor FdEvent

namespace Descriptors

def holding (descriptor : Descriptor) : Multiset Fd :=
  match descriptor.fd_ with
  | some fd => {fd}
  | none => 0

def owned (state : Descriptors) : Multiset Fd :=
  held holding state.store

inductive Action
  | construct (address : Address) (fd : Fd)
  | default (address : Address)
  | assign (address : Address) (fd : Fd) (answer : CloseAnswer)
  | moveConstruct (address source : Address) (answer : CloseAnswer)
  | moveAssign (target source : Address) (answer : CloseAnswer)
  | swap (first second : Address)
  | close (address : Address) (answer : CloseAnswer)
  | release (address : Address)
  | destroy (address : Address) (answer : CloseAnswer)
  /-- `Pipe::Pipe` with the two numbers that `::pipe` returned. -/
  | pipe (pipe : Address) (readFd writeFd : Fd)
  /-- `releaseReadEnd` or `releaseWriteEnd` into a new descriptor. -/
  | releaseEnd (pipe : Address) (end_ : End) (address : Address) (answer : CloseAnswer)
  | closeEnd (pipe : Address) (end_ : End) (answer : CloseAnswer)
  | destroyPipe (pipe : Address) (readAnswer writeAnswer : CloseAnswer)

/-- A number is handed in only while no descriptor owns it. -/
def step (state : Descriptors) : Action → Option Descriptors
  | .construct address fd =>
      if fd ∈ owned state then none
      else state.construct (.descriptor address) { fd_ := some fd } [.handedIn fd]
  | .default address => state.construct (.descriptor address) {} []
  | .assign address fd answer =>
      if fd ∈ owned state then none
      else state.change (.descriptor address) (some ∘ Descriptor.assign answer fd)
  | .moveConstruct address source answer =>
      state.constructFrom (.descriptor address) (.descriptor source)
        (Descriptor.moveConstruct answer)
  | .moveAssign target source answer =>
      if target = source then
        state.change (.descriptor target) (some ∘ Descriptor.moveAssignSelf answer)
      else
        state.changeTwo (.descriptor target) (.descriptor source) (Descriptor.moveAssign answer)
  | .swap first second =>
      if first = second then state.change (.descriptor first) fun same => some (same, [])
      else
        state.changeTwo (.descriptor first) (.descriptor second)
          fun one two => (Descriptor.swap one two, [])
  | .close address answer =>
      state.change (.descriptor address) (some ∘ Descriptor.closeNoExcept answer)
  | .release address => state.change (.descriptor address) Descriptor.release
  | .destroy address answer => state.destroy (.descriptor address) (Descriptor.destroy answer)
  | .pipe pipe readFd writeFd =>
      if readFd ∈ owned state ∨ writeFd ∈ owned state ∨ readFd = writeFd then none
      else
        ((state.construct (.readEnd pipe) {} []).bind fun made =>
          made.construct (.writeEnd pipe) {} []).bind fun made =>
            (made.change (.readEnd pipe) (some ∘ Descriptor.assign (.ok ()) readFd)).bind
              fun assigned =>
                assigned.change (.writeEnd pipe) (some ∘ Descriptor.assign (.ok ()) writeFd)
  | .releaseEnd pipe end_ address answer =>
      state.constructFrom (.descriptor address) (end_.of pipe) (Descriptor.moveConstruct answer)
  | .closeEnd pipe end_ answer =>
      state.change (end_.of pipe) (some ∘ Descriptor.closeNoExcept answer)
  | .destroyPipe pipe readAnswer writeAnswer =>
      (state.destroy (.writeEnd pipe) (Descriptor.destroy writeAnswer)).bind fun left =>
        left.destroy (.readEnd pipe) (Descriptor.destroy readAnswer)

end Descriptors

end ContestSystem.Unistd
