import ContestSystem.Unistd.Descriptor
import ContestSystem.Unistd.ProcessResult

/-!
# Calling a program for its standard error

`getErrCallImpl` makes a pipe, forks, reads what the child writes and waits for
it. The read end belongs to a `Descriptor` of the pipe and also to the stream
buffer that reads from it, which closes its descriptor when it is destroyed.
-/

namespace ContestSystem.Execution

open ContestSystem.Unistd

set_option autoImplicit false

structure Pipe where
  readFd : Descriptor
  writeFd : Descriptor

namespace Pipe

/-- `Pipe::Pipe` assigns the two numbers to descriptors that own nothing. -/
def construct (readFd writeFd : Fd) : Pipe :=
  { readFd := (Descriptor.assign (.ok ()) readFd {}).1
    writeFd := (Descriptor.assign (.ok ()) writeFd {}).1 }

def readEnd (pipe : Pipe) : Option Fd :=
  pipe.readFd.fd_

def closeReadEnd (answer : CloseAnswer) (pipe : Pipe) : CloseAnswer × Pipe × List FdEvent :=
  let closed := pipe.readFd.close answer
  (closed.1, { pipe with readFd := closed.2.1 }, closed.2.2)

def closeWriteEnd (answer : CloseAnswer) (pipe : Pipe) : CloseAnswer × Pipe × List FdEvent :=
  let closed := pipe.writeFd.close answer
  (closed.1, { pipe with writeFd := closed.2.1 }, closed.2.2)

/-- The elements of the array are destroyed last one first. -/
def destroy (readAnswer writeAnswer : CloseAnswer) (pipe : Pipe) : List FdEvent :=
  pipe.readFd.destroy readAnswer ++ pipe.writeFd.destroy writeAnswer

end Pipe

def MAX_ERR_SIZE : Nat := 10000

def BUFSIZ : Nat := 8192

inductive ErrCallError
  | prepare (what : String)
  | fork (errno : Nat)
  | waitpid (errno : Nat)
deriving DecidableEq

/-- What the parent is told: how the preparation before `fork` ends, with the
capacity that reserving `MAX_ERR_SIZE` has given, the answers of the calls, and the
bytes that the read end gives up to its end or an error. -/
structure Answers where
  readFd : Fd
  writeFd : Fd
  prepare : Except String Nat
  fork : Except Nat Pid
  stderr : Bytes
  waitpid : List (Except Nat StatLoc)
  closeRead : CloseAnswer
  closeWrite : CloseAnswer
  closeBuffer : CloseAnswer

section Reading

variable (capacity : Nat) (stderr err : Bytes)

def requested : Nat :=
  min BUFSIZ (capacity - err.length)

/-- `errS.read` and `append`: what `result.err` is after one turn. -/
def appendRead : Bytes :=
  err ++ stderr.take (requested capacity err)

theorem append_read_length : (appendRead capacity stderr err).length =
    err.length + min (requested capacity err) stderr.length := by
  rw [appendRead, List.length_append, List.length_take]

end Reading

/-- The loop; the stream fails once a read comes short. -/
def readErr (capacity : Nat) (stderr err : Bytes) : Bytes :=
  if requested capacity err ≤ stderr.length ∧
      (appendRead capacity stderr err).length < capacity then
    readErr capacity (stderr.drop (requested capacity err)) (appendRead capacity stderr err)
  else appendRead capacity stderr err
termination_by capacity - err.length
decreasing_by
  rename_i more
  rw [append_read_length] at *
  simp only [requested, BUFSIZ] at *
  omega

/-- The loop over `::waitpid`; `none` where it does not end. -/
def waitLoop : List (Except Nat StatLoc) → Option (Except ErrCallError StatLoc)
  | [] => none
  | .ok statLoc :: _ => some (.ok statLoc)
  | .error errno :: rest =>
      if errno = EINTR then waitLoop rest else some (.error (.waitpid errno))

/-- The outcome, the pipe and the calls of `::close`, newest first. -/
def executeParentFunction (answers : Answers) (capacity : Nat) (errPipe : Pipe)
    (result : Result) : Option (Except ErrCallError Result × Pipe × List FdEvent) := do
  let (_, errPipe, writeClosed) := errPipe.closeWriteEnd answers.closeWrite
  let errBuf ← errPipe.readEnd
  let result := { result with err := readErr capacity answers.stderr result.err }
  let (_, errPipe, readClosed) := errPipe.closeReadEnd answers.closeRead
  let waited ← waitLoop answers.waitpid
  -- `errBuf` is destroyed however the loop ends
  some (waited.map fun statLoc => result.assign statLoc, errPipe,
    .closed errBuf answers.closeBuffer :: (readClosed ++ writeClosed))

/-- In the parent. The pipe is destroyed on every way out. -/
def getErrCallImpl (answers : Answers) :
    Option (Except ErrCallError Result × List FdEvent) :=
  let errPipe := Pipe.construct answers.readFd answers.writeFd
  let leave (errPipe : Pipe) := errPipe.destroy answers.closeRead answers.closeWrite
  match answers.prepare, answers.fork with
  | .error what, _ => some (.error (.prepare what), leave errPipe)
  | .ok _, .error errno => some (.error (.fork errno), leave errPipe)
  | .ok capacity, .ok _ =>
      (executeParentFunction answers capacity errPipe {}).map fun (outcome, errPipe, closed) =>
        (outcome, leave errPipe ++ closed)

def Unforked (answers : Answers) : Prop :=
  (∃ what, answers.prepare = .error what) ∨ ∃ errno, answers.fork = .error errno

def closes (fd : Fd) (events : List FdEvent) : Nat :=
  events.countP fun event =>
    match event with
    | .closed closed _ => closed = fd
    | .handedIn _ => false
    | .released _ => false

theorem read_err_eq (capacity : Nat) (stderr err : Bytes) :
    readErr capacity stderr err = err ++ stderr.take (capacity - err.length) := by
  induction stderr, err using readErr.induct capacity with
  | case1 stderr err more ih =>
      rw [readErr, if_pos more, ih]
      have bounded : requested capacity err ≤ capacity - err.length := Nat.min_le_right _ _
      have size := append_read_length capacity stderr err
      have rest : capacity - err.length =
          requested capacity err + (capacity - (appendRead capacity stderr err).length) := by
        omega
      rw [rest, List.take_add, appendRead, List.append_assoc]
  | case2 stderr err done =>
      rw [readErr, if_neg done, appendRead]
      have bounded : requested capacity err ≤ capacity - err.length := Nat.min_le_right _ _
      have size := append_read_length capacity stderr err
      by_cases short : stderr.length < requested capacity err
      · rw [List.take_of_length_le (by omega), List.take_of_length_le (by omega)]
      · have full : requested capacity err = capacity - err.length := by omega
        rw [full]

section Closes

variable {answers : Answers} {outcome : Except ErrCallError Result} {events : List FdEvent}

@[simp] theorem closes_nil (fd : Fd) : closes fd [] = 0 := rfl

@[simp] theorem closes_cons_closed (fd closed : Fd) (answer : CloseAnswer)
    (events : List FdEvent) :
    closes fd (.closed closed answer :: events) =
      closes fd events + if closed = fd then 1 else 0 := by
  simp [closes, List.countP_cons]

/-- The read end is closed by the pipe and, after the wait, by the buffer. -/
theorem execute_parent_eq (answers : Answers) (capacity : Nat) (result : Result) :
    executeParentFunction answers capacity
        (Pipe.construct answers.readFd answers.writeFd) result =
      (waitLoop answers.waitpid).map fun waited =>
        (waited.map fun statLoc =>
            ({ result with err := readErr capacity answers.stderr result.err } : Result).assign
              statLoc,
          { readFd := {}, writeFd := {} },
          [.closed answers.readFd answers.closeBuffer, .closed answers.readFd answers.closeRead,
            .closed answers.writeFd answers.closeWrite]) := by
  cases waited : waitLoop answers.waitpid with
  | none => simp [executeParentFunction, Pipe.readEnd, waited]
  | some ending =>
      simp [executeParentFunction, Pipe.readEnd, Pipe.construct, Pipe.closeReadEnd,
        Pipe.closeWriteEnd, Descriptor.assign, Descriptor.close, waited]

theorem unforked_events (unforked : Unforked answers)
    (exits : getErrCallImpl answers = some (outcome, events)) :
    events = [.closed answers.readFd answers.closeRead,
      .closed answers.writeFd answers.closeWrite] := by
  unfold getErrCallImpl at exits
  rcases unforked with ⟨what, prepare⟩ | ⟨errno, fork⟩
  · rw [prepare] at exits
    cases exits
    rfl
  · rw [fork] at exits
    cases prepare : answers.prepare with
    | error what =>
        rw [prepare] at exits
        cases exits
        rfl
    | ok capacity =>
        rw [prepare] at exits
        cases exits
        rfl

theorem forked_prepared (forked : ¬Unforked answers) :
    ∃ capacity pid, answers.prepare = .ok capacity ∧ answers.fork = .ok pid := by
  cases prepare : answers.prepare with
  | error what => exact absurd (.inl ⟨what, prepare⟩) forked
  | ok capacity =>
      cases fork : answers.fork with
      | error errno => exact absurd (.inr ⟨errno, fork⟩) forked
      | ok pid => exact ⟨capacity, pid, rfl, rfl⟩

theorem forked_exit (forked : ¬Unforked answers)
    (exits : getErrCallImpl answers = some (outcome, events)) :
    ∃ capacity waited, answers.prepare = .ok capacity ∧
      waitLoop answers.waitpid = some waited ∧
      outcome = waited.map (fun statLoc =>
        ({ err := readErr capacity answers.stderr [] } : Result).assign statLoc) ∧
      events = [.closed answers.readFd answers.closeBuffer,
        .closed answers.readFd answers.closeRead, .closed answers.writeFd answers.closeWrite] := by
  obtain ⟨capacity, pid, prepare, fork⟩ := forked_prepared forked
  unfold getErrCallImpl at exits
  rw [prepare, fork] at exits
  simp only [execute_parent_eq, Option.map_map] at exits
  obtain ⟨waited, ends, same⟩ := Option.map_eq_some_iff.mp exits
  cases same
  exact ⟨capacity, waited, prepare, ends, rfl, rfl⟩

/-- The descriptors of the pipe are closed once each exactly where no child is started;
else the read end is closed twice. -/
theorem closed_once_iff (distinct : answers.readFd ≠ answers.writeFd)
    (exits : getErrCallImpl answers = some (outcome, events)) :
    (closes answers.readFd events = 1 ∧ closes answers.writeFd events = 1) ↔
      Unforked answers := by
  constructor
  · intro ⟨readOnce, _⟩
    by_contra forked
    obtain ⟨_, _, _, _, _, rfl⟩ := forked_exit forked exits
    simp [distinct.symm] at readOnce
  · intro unforked
    rw [unforked_events unforked exits]
    simp [distinct, distinct.symm]

def ordinaryCall : Answers where
  readFd := 3
  writeFd := 4
  prepare := .ok MAX_ERR_SIZE
  fork := .ok 700
  stderr := [79, 75]
  waitpid := [.error EINTR, .ok 0]
  closeRead := .ok ()
  closeWrite := .ok ()
  closeBuffer := .error 9

theorem closed_once_without_child :
    (closes 3 [.closed 3 (.ok ()), .closed 4 (.ok ())] = 1 ∧
        closes 4 [.closed 3 (.ok ()), .closed 4 (.ok ())] = 1) ↔
      Unforked { ordinaryCall with fork := .error 11 } :=
  closed_once_iff (show (3 : Fd) ≠ 4 by decide)
    (show getErrCallImpl { ordinaryCall with fork := .error 11 } =
      some (.error (.fork 11), [.closed 3 (.ok ()), .closed 4 (.ok ())]) from rfl)

theorem ordinary_call_closes_twice :
    ∃ outcome events, getErrCallImpl ordinaryCall = some (outcome, events) ∧
      closes ordinaryCall.readFd events = 2 :=
  ⟨_, _, rfl, by decide⟩

end Closes

end ContestSystem.Execution
