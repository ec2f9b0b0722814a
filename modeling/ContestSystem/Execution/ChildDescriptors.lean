import ContestSystem.Unistd.OpenFiles

/-!
# The descriptors a child starts with

Between `fork` and `exec` a child puts its own files in the place of the standard
descriptors. Each file is opened under the lowest free number and closed again when
it has been duplicated. Where that number is the very one it is meant for, the
duplication does nothing and closing the file undoes the work.
-/

namespace ContestSystem.Execution.ChildDescriptors

open ContestSystem.Lib ContestSystem.Lib.Throwing ContestSystem.Unistd.OpenFiles
open ContestSystem.Lib.Decimal (Text)

set_option autoImplicit false

def STDIN_FILENO : Nat := 0

def STDOUT_FILENO : Nat := 1

def STDERR_FILENO : Nat := 2

section StandardDescriptors

variable {File : Type} {table after : FileTable File}

theorem standard_taken (freed : after.slot table.lowest = none)
    (input : after.slot STDIN_FILENO ≠ none) (output : after.slot STDOUT_FILENO ≠ none)
    (error : after.slot STDERR_FILENO ≠ none) (number : Nat) (low : number ≤ STDERR_FILENO) :
    table.slot number ≠ none := by
  intro free
  have standardLowest : table.lowest ≤ STDERR_FILENO := (Slots.lowest_le free).trans low
  simp only [STDERR_FILENO] at standardLowest
  have cases_ : table.lowest = STDIN_FILENO ∨ table.lowest = STDOUT_FILENO ∨
      table.lowest = STDERR_FILENO := by
    simp only [STDIN_FILENO, STDOUT_FILENO, STDERR_FILENO]
    omega
  rcases cases_ with same | same | same
  · exact input (same ▸ freed)
  · exact output (same ▸ freed)
  · exact error (same ▸ freed)

theorem lowest_above (taken : ∀ number, number ≤ STDERR_FILENO → table.slot number ≠ none) :
    STDERR_FILENO < table.lowest := by
  by_contra low
  exact taken table.lowest (Nat.le_of_not_lt low) table.slot_lowest

end StandardDescriptors

section Reopen

variable {File : Type} (kernel : Kernel File)

def reopenDescriptor (descriptor flags : Nat) (path : Text) : FileCall File Unit := do
  let fd ← openFile kernel path flags
  owning fd (dup2 kernel fd descriptor)

def prepareChild (in_ out_ err_ : Text) : FileCall File Unit := do
  reopenDescriptor kernel STDIN_FILENO O_RDONLY in_
  reopenDescriptor kernel STDOUT_FILENO O_WRONLY out_
  reopenDescriptor kernel STDERR_FILENO O_WRONLY err_

end Reopen

section Prepare

variable {File : Type} {kernel : Kernel File} {table after : FileTable File}

/-- `descriptor` refers to `file` unless it was the lowest free number. -/
structure Reopened (table after : FileTable File) (descriptor : Nat) (file : File) : Prop where
  lowest : after.lowest = table.lowest
  slots : ∀ number, after.slot number =
    if number = table.lowest then none
    else if number = descriptor then some file else table.slot number

theorem reopened (table : FileTable File) (descriptor : Nat) (file : File) :
    Reopened table
      (((table.set table.lowest file).set descriptor file).erase table.lowest) descriptor file := by
  have slots : ∀ number,
      (((table.set table.lowest file).set descriptor file).erase table.lowest).slot number =
        if number = table.lowest then none
        else if number = descriptor then some file else table.slot number := by
    intro number
    simp only [Slots.slot_erase, Slots.slot_set]
    split
    · rfl
    · rfl
  refine ⟨Slots.lowest_eq ?_ fun number below => ?_, slots⟩
  · rw [slots, if_pos rfl]
  · rw [slots, if_neg (Nat.ne_of_lt below)]
    split
    · exact Option.some_ne_none file
    · exact Slots.taken_below below

theorem reopen_descriptor_cases (kernel : Kernel File) (descriptor flags : Nat) (path : Text)
    (table : FileTable File) :
    (∃ file after, kernel.openFile path flags = .ok file ∧
      reopenDescriptor kernel descriptor flags path table = .ok () after ∧
      Reopened table after descriptor file) ∨
    ∃ errno after, reopenDescriptor kernel descriptor flags path table = .error errno after ∧
      ∀ number, after.slot number = table.slot number := by
  rcases open_file_cases kernel path flags table with
    ⟨file, opened, called⟩ | ⟨errno, _, called⟩
  · have started : reopenDescriptor kernel descriptor flags path table =
        owning table.lowest (dup2 kernel table.lowest descriptor)
          (table.set table.lowest file) := bind_of_ok called
    have taken : (table.set table.lowest file).slot table.lowest = some file := by simp
    have ran : _ ∨ ∃ errno, dup2 kernel table.lowest descriptor (table.set table.lowest file) =
        .error errno (table.set table.lowest file) := dup2_taken taken
    rcases ran with duplicated | ⟨errno, failed⟩
    · exact .inl ⟨file, _, opened, started.trans (owning_ok duplicated),
        reopened table descriptor file⟩
    · refine .inr ⟨errno, _, started.trans (owning_error failed), ?_⟩
      intro number
      simp only [Slots.slot_erase, Slots.slot_set]
      split
      next same => rw [same, Slots.slot_lowest]
      next => rfl
  · exact .inr ⟨errno, table, bind_eq_error.mpr (.inl called), fun _ => rfl⟩

/-- The numbers from 3 on are left alone. -/
def Beyond (table after : FileTable File) : Prop :=
  ∀ number, STDERR_FILENO < number → after.slot number = table.slot number

theorem reopened_beyond {start : FileTable File} {descriptor : Nat} {file : File}
    (standard : descriptor ≤ STDERR_FILENO) (beyond : Beyond start table)
    (step : Reopened table after descriptor file) : Beyond start after := by
  intro number above
  rw [step.slots, ← beyond number above]
  split
  next same => rw [same, Slots.slot_lowest]
  next => rw [if_neg (Nat.ne_of_gt (Nat.lt_of_le_of_lt standard above))]

/-- Standard descriptor `number` refers to the file that was opened for it. -/
def standard (inFile outFile errFile : File) (others : Nat → Option File) : Nat → Option File
  | 0 => some inFile
  | 1 => some outFile
  | 2 => some errFile
  | number => others number

/-- What `::open` has answered. -/
structure Opened (kernel : Kernel File) (in_ out_ err_ : Text) (inFile outFile errFile : File) :
    Prop where
  input : kernel.openFile in_ O_RDONLY = .ok inFile
  output : kernel.openFile out_ O_WRONLY = .ok outFile
  error : kernel.openFile err_ O_WRONLY = .ok errFile

/-- All standard descriptors refer to the files that were opened for them. -/
def Standard (kernel : Kernel File) (in_ out_ err_ : Text) (after : FileTable File) : Prop :=
  ∃ inFile outFile errFile, Opened kernel in_ out_ err_ inFile outFile errFile ∧
    after.slot STDIN_FILENO = some inFile ∧ after.slot STDOUT_FILENO = some outFile ∧
    after.slot STDERR_FILENO = some errFile

theorem reopened_three {first second third : FileTable File} {inFile outFile errFile : File}
    (one : Reopened table first STDIN_FILENO inFile)
    (two : Reopened first second STDOUT_FILENO outFile)
    (three : Reopened second third STDERR_FILENO errFile) (number : Nat) :
    third.slot number =
      if number = table.lowest then none
      else standard inFile outFile errFile table.slot number := by
  rw [three.slots, two.slots, one.slots, two.lowest, one.lowest]
  by_cases last : number = table.lowest
  · rw [if_pos last, if_pos last]
  · simp only [if_neg last, STDIN_FILENO, STDOUT_FILENO, STDERR_FILENO]
    match number with
    | 0 | 1 | 2 => rfl
    | _ + 3 => rfl

theorem prepare_child_cases (kernel : Kernel File) (in_ out_ err_ : Text) (table : FileTable File) :
    (∃ first second third inFile outFile errFile,
      prepareChild kernel in_ out_ err_ table = .ok () third ∧
      Opened kernel in_ out_ err_ inFile outFile errFile ∧
      Reopened table first STDIN_FILENO inFile ∧
      Reopened first second STDOUT_FILENO outFile ∧
      Reopened second third STDERR_FILENO errFile) ∨
    ∃ errno after, prepareChild kernel in_ out_ err_ table = .error errno after ∧
      Beyond table after := by
  have here : Beyond table table := fun _ _ => rfl
  rcases reopen_descriptor_cases kernel STDIN_FILENO O_RDONLY in_ table with
    ⟨inFile, first, inOpened, called, one⟩ | ⟨errno, stopped, failed, same⟩
  swap
  · exact .inr ⟨errno, stopped, bind_eq_error.mpr (.inl failed), fun number _ => same number⟩
  have started : prepareChild kernel in_ out_ err_ table = _ := bind_of_ok called
  have oneBeyond := reopened_beyond (Nat.zero_le _) here one
  rcases reopen_descriptor_cases kernel STDOUT_FILENO O_WRONLY out_ first with
    ⟨outFile, second, outOpened, called, two⟩ | ⟨errno, stopped, failed, same⟩
  swap
  · exact .inr ⟨errno, stopped, started.trans (bind_eq_error.mpr (.inl failed)),
      fun number above => (same number).trans (oneBeyond number above)⟩
  have continued := started.trans (bind_of_ok called)
  have twoBeyond := reopened_beyond (Nat.le_succ 1) oneBeyond two
  rcases reopen_descriptor_cases kernel STDERR_FILENO O_WRONLY err_ second with
    ⟨errFile, third, errOpened, called, three⟩ | ⟨errno, stopped, failed, same⟩
  · exact .inl ⟨first, second, third, inFile, outFile, errFile, continued.trans called,
      ⟨inOpened, outOpened, errOpened⟩, one, two, three⟩
  · exact .inr ⟨errno, stopped, continued.trans failed,
      fun number above => (same number).trans (twoBeyond number above)⟩

end Prepare

/-- A child that goes on to `exec` has its own files in the place of the standard
descriptors, save that the lowest number that was free is free again. So it has all
three exactly where they were all open, and nothing else is opened or closed. -/
theorem prepare_child_exact {File : Type} (kernel : Kernel File) (in_ out_ err_ : Text)
    (table : FileTable File) :
    match prepareChild kernel in_ out_ err_ table with
    | .ok _ after =>
        (∃ inFile outFile errFile, Opened kernel in_ out_ err_ inFile outFile errFile ∧
          ∀ number, after.slot number =
            if number = table.lowest then none
            else standard inFile outFile errFile table.slot number) ∧
        (Standard kernel in_ out_ err_ after ↔
          ∀ number, number ≤ STDERR_FILENO → table.slot number ≠ none)
    | .error _ after => Beyond table after := by
  rcases prepare_child_cases kernel in_ out_ err_ table with
    ⟨first, second, third, inFile, outFile, errFile, ran, opened, one, two, three⟩ |
      ⟨errno, after, ran, beyond⟩
  · rw [ran]
    have slots := reopened_three one two three
    refine ⟨⟨inFile, outFile, errFile, opened, slots⟩, ?_, ?_⟩
    · rintro ⟨_, _, _, _, hasIn, hasOut, hasErr⟩
      apply standard_taken
      · rw [slots, if_pos rfl]
      · exact hasIn ▸ Option.some_ne_none _
      · exact hasOut ▸ Option.some_ne_none _
      · exact hasErr ▸ Option.some_ne_none _
    · intro taken
      have above : ∀ number, number ≤ STDERR_FILENO → number ≠ table.lowest :=
        fun number low => Nat.ne_of_lt (Nat.lt_of_le_of_lt low (lowest_above taken))
      refine ⟨inFile, outFile, errFile, opened, ?_, ?_, ?_⟩
      · rw [slots, if_neg (above STDIN_FILENO (by decide))]
        rfl
      · rw [slots, if_neg (above STDOUT_FILENO (by decide))]
        rfl
      · rw [slots, if_neg (above STDERR_FILENO (by decide))]
        rfl
  · rw [ran]
    exact beyond

section ErrCall

variable {File : Type} (kernel : Kernel File)

def devNullPath : Text := [47, 100, 101, 118, 47, 110, 117, 108, 108]

/-- `errPipe` are the numbers of the read end and the write end. -/
def executeChildInit (errPipe : Nat × Nat) : FileCall File Unit := do
  let devNull ← openFile kernel devNullPath O_RDWR
  owning devNull do
    dup2 kernel devNull STDIN_FILENO
    dup2 kernel devNull STDOUT_FILENO
    dup2 kernel errPipe.2 STDERR_FILENO
    close kernel errPipe.1
    close kernel errPipe.2

/-- What happens to the table of the child, from the pipe that its parent makes on. -/
def errCallChild : FileCall File Unit := do
  let errPipe ← pipe kernel
  executeChildInit kernel errPipe

end ErrCall

section Connected

variable {File : Type} {kernel : Kernel File} {table after : FileTable File}
  {nullFile readFile writeFile : File}

/-- The child reads nothing, and writes only to the pipe and to nowhere. -/
structure Connected (table after : FileTable File) (nullFile writeFile : File) : Prop where
  input : after.slot STDIN_FILENO = some nullFile
  output : after.slot STDOUT_FILENO = some nullFile
  error : after.slot STDERR_FILENO = some writeFile
  others : Beyond table after

/-- The table with the pipe and /dev/null in the three lowest free numbers. -/
structure Placed (table placed : FileTable File) (readFd writeFd nullFd : Nat)
    (nullFile readFile writeFile : File) : Prop where
  read : readFd = table.lowest
  write : readFd < writeFd
  null : writeFd < nullFd
  writeFree : table.slot writeFd = none
  nullFree : table.slot nullFd = none
  slots : ∀ number, placed.slot number =
    if number = nullFd then some nullFile
    else if number = writeFd then some writeFile
    else if number = readFd then some readFile else table.slot number

theorem placed_three (table : FileTable File) (nullFile readFile writeFile : File) :
    Placed table
      (((table.set table.lowest readFile).set (table.set table.lowest readFile).lowest
        writeFile).set ((table.set table.lowest readFile).set
          (table.set table.lowest readFile).lowest writeFile).lowest nullFile)
      table.lowest (table.set table.lowest readFile).lowest
      ((table.set table.lowest readFile).set
          (table.set table.lowest readFile).lowest writeFile).lowest
      nullFile readFile writeFile := by
  let one := table.set table.lowest readFile
  let two := one.set one.lowest writeFile
  have write : table.lowest < one.lowest := Slots.lowest_lt_lowest_set table readFile
  have null : one.lowest < two.lowest := Slots.lowest_lt_lowest_set one writeFile
  have writeFree : one.slot one.lowest = none := Slots.slot_lowest one
  have nullFree : two.slot two.lowest = none := Slots.slot_lowest two
  rw [Slots.slot_set, if_neg (Nat.ne_of_gt write)] at writeFree
  rw [Slots.slot_set, if_neg (Nat.ne_of_gt null), Slots.slot_set,
    if_neg (Nat.ne_of_gt (write.trans null))] at nullFree
  exact ⟨rfl, write, null, writeFree, nullFree, fun number => by simp only [Slots.slot_set]⟩

def duplicated (writeFd : Nat) (nullFile writeFile : File) : File :=
  if writeFd = STDOUT_FILENO then nullFile else writeFile

theorem execute_child_init_slots {placed : FileTable File} {readFd writeFd nullFd : Nat}
    (three : Placed table placed readFd writeFd nullFd nullFile readFile writeFile)
    {middle : FileTable File}
    (ran : (do
        dup2 kernel nullFd STDIN_FILENO
        dup2 kernel nullFd STDOUT_FILENO
        dup2 kernel writeFd STDERR_FILENO
        close kernel readFd
        close kernel writeFd : FileCall File Unit) placed = .ok () middle) (number : Nat) :
    (middle.erase nullFd).slot number =
      if number = nullFd ∨ number = writeFd ∨ number = readFd then none
      else
        standard nullFile nullFile (duplicated writeFd nullFile writeFile) table.slot number := by
  obtain ⟨_, one, stdinDuplicated, ran⟩ := bind_eq_ok.mp ran
  obtain ⟨_, two, stdoutDuplicated, ran⟩ := bind_eq_ok.mp ran
  obtain ⟨_, last, stderrDuplicated, ran⟩ := bind_eq_ok.mp ran
  obtain ⟨_, _, readClosed, writeClosed⟩ := bind_eq_ok.mp ran
  obtain ⟨nullHere, atNull, rfl⟩ := dup2_returned stdinDuplicated
  obtain ⟨nullAgain, stillNull, rfl⟩ := dup2_returned stdoutDuplicated
  obtain ⟨writeHere, atWrite, rfl⟩ := dup2_returned stderrDuplicated
  obtain rfl := close_returned readClosed
  obtain rfl := close_returned writeClosed
  have isNull : nullHere = nullFile := by
    rw [three.slots, if_pos rfl] at atNull
    exact (Option.some.inj atNull).symm
  have isNullAgain : nullAgain = nullFile := by
    rw [Slots.slot_set, isNull] at stillNull
    split at stillNull
    · exact (Option.some.inj stillNull).symm
    · rw [three.slots, if_pos rfl] at stillNull
      exact (Option.some.inj stillNull).symm
  have isWrite : writeHere = duplicated writeFd nullFile writeFile := by
    have notFirst : writeFd ≠ STDIN_FILENO := Nat.ne_of_gt (Nat.zero_lt_of_lt three.write)
    rw [Slots.slot_set, Slots.slot_set, if_neg notFirst, three.slots,
      if_neg (Nat.ne_of_lt three.null), if_pos rfl, isNullAgain] at atWrite
    unfold duplicated
    split at atWrite
    next same => rw [if_pos same, Option.some.inj atWrite]
    next different => rw [if_neg different, Option.some.inj atWrite]
  rw [isNull, isNullAgain, isWrite]
  simp only [Slots.slot_erase, Slots.slot_set, three.slots]
  by_cases temporary : number = nullFd ∨ number = writeFd ∨ number = readFd
  · rw [if_pos temporary]
    rcases temporary with same | same | same <;> simp [same]
  · obtain ⟨notNull, notWrite, notRead⟩ : number ≠ nullFd ∧ number ≠ writeFd ∧ number ≠ readFd := by
      simpa only [not_or] using temporary
    rw [if_neg temporary, if_neg notNull, if_neg notWrite, if_neg notRead]
    match number with
    | 0 | 1 | 2 => rfl
    | _ + 3 => simp [STDIN_FILENO, STDOUT_FILENO, STDERR_FILENO, standard, *]

theorem err_call_child_slots (opened : kernel.openFile devNullPath O_RDWR = .ok nullFile)
    (piped : kernel.pipe = .ok (readFile, writeFile))
    (ran : errCallChild kernel table = .ok () after) :
    ∃ placed readFd writeFd nullFd,
      Placed table placed readFd writeFd nullFd nullFile readFile writeFile ∧
      ∀ number, after.slot number =
        if number = nullFd ∨ number = writeFd ∨ number = readFd then none
        else standard nullFile nullFile (duplicated writeFd nullFile writeFile) table.slot
          number := by
  obtain ⟨_, _, made, initialized⟩ := bind_eq_ok.mp ran
  rw [pipe_ok piped] at made
  cases made
  obtain ⟨nullFd, placed, called, owned⟩ := bind_eq_ok.mp initialized
  simp only [openFile, opened] at called
  cases called
  obtain ⟨middle, body, rfl⟩ := owning_returned owned
  have three := placed_three table nullFile readFile writeFile
  exact ⟨_, _, _, _, three, execute_child_init_slots three body⟩

end Connected

/-- The child of an error call has the write end of the pipe as its standard error and
/dev/null otherwise, and nothing else is opened or closed, exactly where the standard
descriptors of the parent were all open. -/
theorem err_call_child_connected_iff {File : Type} (kernel : Kernel File)
    (table after : FileTable File) (nullFile readFile writeFile : File)
    (opened : kernel.openFile devNullPath O_RDWR = .ok nullFile)
    (piped : kernel.pipe = .ok (readFile, writeFile))
    (ran : errCallChild kernel table = .ok () after) :
    Connected table after nullFile writeFile ↔
      ∀ number, number ≤ STDERR_FILENO → table.slot number ≠ none := by
  obtain ⟨placed, readFd, writeFd, nullFd, three, slots⟩ := err_call_child_slots opened piped ran
  constructor
  · intro connected
    apply standard_taken
    · rw [slots, if_pos (.inr (.inr three.read.symm))]
    · exact connected.input ▸ Option.some_ne_none nullFile
    · exact connected.output ▸ Option.some_ne_none nullFile
    · exact connected.error ▸ Option.some_ne_none writeFile
  · intro taken
    have above : ∀ number, number ≤ STDERR_FILENO →
        ¬(number = nullFd ∨ number = writeFd ∨ number = readFd) := by
      intro number low
      have lowest := lowest_above taken
      have read := three.read
      have write := three.write
      have null := three.null
      omega
    have writeAbove : writeFd ≠ STDOUT_FILENO := by
      intro same
      exact above STDOUT_FILENO (by decide) (.inr (.inl same.symm))
    refine ⟨?_, ?_, ?_, fun number beyond => ?_⟩
    · rw [slots, if_neg (above STDIN_FILENO (by decide))]
      rfl
    · rw [slots, if_neg (above STDOUT_FILENO (by decide))]
      rfl
    · rw [slots, if_neg (above STDERR_FILENO (by decide)), duplicated, if_neg writeAbove]
      rfl
    · rw [slots]
      split
      next temporary =>
          rcases temporary with same | same | same
          · rw [same, three.nullFree]
          · rw [same, three.writeFree]
          · rw [same, three.read, Slots.slot_lowest]
      next =>
          match number, beyond with
          | _ + 3, _ => rfl

def terminal : FileTable Nat :=
  ((((Slots.empty Nat).set STDIN_FILENO 100).set STDOUT_FILENO 100).set STDERR_FILENO 100)

def willing : Kernel Nat where
  openFile _ _ := .ok 0
  dup2 _ _ := .ok ()
  close _ := .ok ()
  pipe := .ok (1, 2)

theorem err_call_child_connected_iff_terminal :
    ∃ after, errCallChild willing terminal = .ok () after ∧ Connected terminal after 0 2 := by
  have standardOpen : ∀ number, number ≤ STDERR_FILENO → terminal.slot number ≠ none := by decide
  exact ⟨_, rfl,
    (err_call_child_connected_iff willing terminal _ 0 1 2 rfl rfl rfl).mpr standardOpen⟩

end ContestSystem.Execution.ChildDescriptors
