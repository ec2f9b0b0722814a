import ContestSystem.Lib.Slots
import ContestSystem.Lib.Throwing
import ContestSystem.Lib.Decimal

/-!
# The open files of a process

The kernel numbers an opened file with the lowest number that is free. `dup2`
makes a number refer to the file of another one and closes what was there; where
both numbers are the same it does nothing. Every call may fail for reasons that
the table does not show, which `Kernel` answers.
-/

namespace ContestSystem.Unistd.OpenFiles

open ContestSystem.Lib ContestSystem.Lib.Throwing
open ContestSystem.Lib.Decimal (Text)

set_option autoImplicit false

def EBADF : Nat := 9

def O_RDONLY : Nat := 0

def O_WRONLY : Nat := 1

def O_RDWR : Nat := 2

/-- A file is what `::open` and `::pipe` make anew each time. -/
structure Kernel (File : Type) where
  openFile : Text → Nat → Except Nat File
  dup2 : Nat → Nat → Except Nat Unit
  close : Nat → Except Nat Unit
  /-- The read end and the write end. -/
  pipe : Except Nat (File × File)

abbrev FileTable (File : Type) := Slots File

abbrev FileCall (File α : Type) := EStateM Nat (FileTable File) α

section Calls

variable {File : Type} (kernel : Kernel File)

def place (file : File) : FileCall File Nat := do
  let table ← get
  modify fun table => table.set table.lowest file
  return table.lowest

/-- What `unistd::open` puts into the descriptor that it returns. -/
def openFile (path : Text) (oflag : Nat) : FileCall File Nat :=
  match kernel.openFile path oflag with
  | .ok file => place file
  | .error errno => throw errno

def dup2 (oldFd newFd : Nat) : FileCall File Unit := fun table =>
  match table.slot oldFd with
  | none => .error EBADF table
  | some file =>
      match kernel.dup2 oldFd newFd with
      | .ok () => .ok () (table.set newFd file)
      | .error errno => .error errno table

/-- A number is free after `::close` even where it fails. -/
def close (fd : Nat) : FileCall File Unit := fun table =>
  match table.slot fd with
  | none => .error EBADF table
  | some _ =>
      match kernel.close fd with
      | .ok () => .ok () (table.erase fd)
      | .error errno => .error errno (table.erase fd)

/-- `Pipe::Pipe`: the numbers of the read end and the write end. -/
def pipe : FileCall File (Nat × Nat) :=
  match kernel.pipe with
  | .ok (readFile, writeFile) => do
      let readFd ← place readFile
      let writeFd ← place writeFile
      return (readFd, writeFd)
  | .error errno => throw errno

/-- The body of a scope with a local `Descriptor`, whose destructor closes it. -/
def owning (fd : Nat) (body : FileCall File Unit) : FileCall File Unit := do
  unwinding body (fun table => table.erase fd)
  modify fun table => table.erase fd

end Calls

section Effects

variable {File : Type} {kernel : Kernel File} {table after : FileTable File}

theorem open_file_cases (kernel : Kernel File) (path : Text) (oflag : Nat)
    (table : FileTable File) :
    (∃ file, kernel.openFile path oflag = .ok file ∧
      openFile kernel path oflag table = .ok table.lowest (table.set table.lowest file)) ∨
    ∃ errno, kernel.openFile path oflag = .error errno ∧
      openFile kernel path oflag table = .error errno table := by
  unfold openFile
  cases kernel.openFile path oflag with
  | ok file => exact .inl ⟨file, rfl, rfl⟩
  | error errno => exact .inr ⟨errno, rfl, rfl⟩

theorem pipe_ok {readFile writeFile : File} (piped : kernel.pipe = .ok (readFile, writeFile))
    (table : FileTable File) :
    pipe kernel table =
      .ok (table.lowest, (table.set table.lowest readFile).lowest)
        ((table.set table.lowest readFile).set (table.set table.lowest readFile).lowest
          writeFile) := by
  simp only [pipe, piped]
  rfl

theorem dup2_taken {oldFd newFd : Nat} {file : File} (taken : table.slot oldFd = some file) :
    dup2 kernel oldFd newFd table = .ok () (table.set newFd file) ∨
      ∃ errno, dup2 kernel oldFd newFd table = .error errno table := by
  simp only [dup2, taken]
  cases kernel.dup2 oldFd newFd with
  | ok _ => exact .inl rfl
  | error errno => exact .inr ⟨errno, rfl⟩

theorem dup2_returned {oldFd newFd : Nat}
    (returned : dup2 kernel oldFd newFd table = .ok () after) :
    ∃ file, table.slot oldFd = some file ∧ after = table.set newFd file := by
  cases opened : table.slot oldFd with
  | none =>
      simp only [dup2, opened] at returned
      cases returned
  | some file =>
      refine ⟨file, rfl, ?_⟩
      have ran : dup2 kernel oldFd newFd table = .ok () (table.set newFd file) ∨
          ∃ errno, dup2 kernel oldFd newFd table = .error errno table := dup2_taken opened
      rcases ran with called | ⟨errno, called⟩
      · rw [called] at returned
        cases returned
        rfl
      · rw [called] at returned
        cases returned

theorem close_returned {fd : Nat} (returned : close kernel fd table = .ok () after) :
    after = table.erase fd := by
  unfold close at returned
  split at returned
  · cases returned
  · split at returned
    · cases returned
      rfl
    · cases returned

theorem owning_ok {fd : Nat} {body : FileCall File Unit} {middle : FileTable File}
    (ran : body table = .ok () middle) :
    owning fd body table = .ok () (middle.erase fd) := by
  rw [owning, bind_of_ok (unwinding_eq_ok.mpr ran)]
  rfl

theorem owning_returned {fd : Nat} {body : FileCall File Unit}
    (returned : owning fd body table = .ok () after) :
    ∃ middle, body table = .ok () middle ∧ after = middle.erase fd := by
  obtain ⟨_, middle, ran, destroyed⟩ := bind_eq_ok.mp returned
  cases destroyed
  exact ⟨middle, unwinding_eq_ok.mp ran, rfl⟩

theorem owning_error {fd : Nat} {body : FileCall File Unit} {errno : Nat} {middle : FileTable File}
    (ran : body table = .error errno middle) :
    owning fd body table = .error errno (middle.erase fd) := by
  have unwound : unwinding body (fun table => table.erase fd) table =
      .error errno (middle.erase fd) := unwinding_eq_error.mpr ⟨middle, ran, rfl⟩
  exact bind_eq_error.mpr (.inl unwound)

end Effects

end ContestSystem.Unistd.OpenFiles
