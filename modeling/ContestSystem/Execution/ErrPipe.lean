import ContestSystem.Execution.ErrReading
import ContestSystem.Lib.Reachability

/-!
# A call and the processes behind its pipe

While `executeParentFunction` reads, the child and whatever it forks write into the same
pipe, which holds no more than `room` bytes. Their code is arbitrary, so that they may
also go on for ever. The parent closes the read end before it waits, so that a write that
found the pipe full then fails instead of blocking for ever.
-/

namespace ContestSystem.Execution.ErrPipe

open ContestSystem.Lib.Run ContestSystem.Unistd
open ErrReading (readLoop read_loop_read_err)

set_option autoImplicit false

/-- What a process does next as far as its standard error goes. -/
inductive Instruction (Code : Type)
  | exit (status : StatLoc)
  | write (byte : UInt8) (written failed : Code)
  | fork (child parent : Code)
  | close (rest : Code)
  | other (rest : Code)
deriving DecidableEq

/-- `holds` tells whether the standard error is still the pipe's write end. -/
inductive Process (Code : Type)
  | running (holds : Bool) (code : Code)
  | ended (status : StatLoc)
deriving DecidableEq

/-- Where the parent is. In a turn of the loop `errS.read` has put `got` into `buf` so far,
and `errBuf` has bytes from the pipe that nobody has asked for. -/
inductive Parent
  | reading (err got errBuf : Bytes)
  | waiting (err : Bytes)
  | returned (result : Result)
deriving DecidableEq

def Parent.readEndOpen : Parent → Bool
  | .reading _ _ _ => true
  | .waiting _ => false
  | .returned _ => false

/-- `log` are the bytes that the pipe has ever taken, and the child is the first process. -/
structure State (Code : Type) where
  pipe : Bytes
  log : Bytes
  processes : List (Process Code)
  parent : Parent

inductive Action
  | advance (process : Nat) (ignores : Bool)
  | kill (process : Nat) (status : StatLoc)
  | fill (count : Nat)
  | take
  | append
  | endOfFile
  | wait
  | interrupted
deriving DecidableEq

/-- What the processes and the parent do by themselves. -/
def Action.Own : Action → Prop
  | .kill _ _ => False
  | .interrupted => False
  | _ => True

def SIGPIPE : StatLoc := 13

variable {Code : Type}

def Process.holdsPipe : Process Code → Bool
  | .running holds _ => holds
  | .ended _ => false

namespace State

variable (fetch : Code → Instruction Code) (room capacity : Nat)

def put (state : State Code) (index : Nat) (process : Process Code) : State Code :=
  { state with processes := state.processes.set index process }

/-- A write without a reader kills a process unless it ignores the signal. -/
def advance (state : State Code) (index : Nat) (ignores : Bool) :
    Process Code → Option (State Code)
  | .ended _ => none
  | .running holds code =>
      match fetch code with
      | .exit status => some (state.put index (.ended status))
      | .close rest => some (state.put index (.running false rest))
      | .other rest => some (state.put index (.running holds rest))
      | .fork child parent =>
          some { state with
            processes :=
              state.processes.set index (.running holds parent) ++ [.running holds child] }
      | .write byte written failed =>
          if holds = false then some (state.put index (.running false failed))
          else if state.parent.readEndOpen then
            if state.pipe.length < room then
              some { state.put index (.running true written) with
                pipe := state.pipe ++ [byte], log := state.log ++ [byte] }
            else none
          else if ignores then some (state.put index (.running true failed))
          else some (state.put index (.ended SIGPIPE))

/-- `::read` gives some of the bytes that are there. -/
def fill (state : State Code) (count : Nat) : Parent → Option (State Code)
  | .reading err got [] =>
      if got.length < requested capacity err ∧ 0 < count ∧ count ≤ state.pipe.length then
        some { state with
          pipe := state.pipe.drop count, parent := .reading err got (state.pipe.take count) }
      else none
  | _ => none

def take (state : State Code) : Parent → Option (State Code)
  | .reading err got errBuf =>
      let lacking := requested capacity err - got.length
      if errBuf ≠ [] ∧ 0 < lacking then
        some { state with
          parent := .reading err (got ++ errBuf.take lacking) (errBuf.drop lacking) }
      else none
  | _ => none

/-- A turn that got all it asked for, and the condition of the loop. -/
def append (state : State Code) : Parent → Option (State Code)
  | .reading err got errBuf =>
      if got.length = requested capacity err then
        if (err ++ got).length < capacity then
          some { state with parent := .reading (err ++ got) [] errBuf }
        else some { state with parent := .waiting (err ++ got) }
      else none
  | _ => none

/-- The pipe is at its end when nobody can write any more; `errS` fails and the loop is over. -/
def endOfFile (state : State Code) : Parent → Option (State Code)
  | .reading err got [] =>
      if got.length < requested capacity err ∧ state.pipe = [] ∧
          state.processes.all (fun process => !process.holdsPipe) then
        some { state with parent := .waiting (err ++ got) }
      else none
  | _ => none

def wait (state : State Code) : Parent → Option (State Code)
  | .waiting err =>
      match (state.processes[0]? : Option (Process Code)) with
      | some (.ended status) =>
          some { state with parent := .returned (({ err := err } : Result).assign status) }
      | _ => none
  | _ => none

def step (state : State Code) : Action → Option (State Code)
  | .advance index ignores =>
      state.processes[index]?.bind (state.advance fetch room index ignores)
  | .kill index status =>
      match (state.processes[index]? : Option (Process Code)) with
      | some (.running _ _) => some (state.put index (.ended status))
      | _ => none
  | .fill count => state.fill capacity count state.parent
  | .take => state.take capacity state.parent
  | .append => state.append capacity state.parent
  | .endOfFile => state.endOfFile capacity state.parent
  | .wait => state.wait state.parent
  | .interrupted =>
      match state.parent with
      | .waiting _ => some state
      | _ => none

end State

def start (code : Code) : State Code :=
  { pipe := [], log := [], processes := [.running true code], parent := .reading [] [] [] }

def Instruction.cost (rank : Code → Nat) : Instruction Code → Nat
  | .exit _ => 1
  | .write _ written failed => max (rank written + 4) (rank failed + 1)
  | .fork child parent => rank child + rank parent + 1
  | .close rest => rank rest + 1
  | .other rest => rank rest + 1

/-- Every process, with those it forks, ends after as many instructions as `rank` allows. -/
def Ends (fetch : Code → Instruction Code) (rank : Code → Nat) : Prop :=
  ∀ code, (fetch code).cost rank ≤ rank code

def Process.weight (rank : Code → Nat) : Process Code → Nat
  | .running _ code => rank code
  | .ended _ => 0

def pending (rank : Code → Nat) : List (Process Code) → Nat
  | [] => 0
  | process :: rest => process.weight rank + pending rank rest

/-- A byte weighs less with every step towards the parent's string. -/
def Parent.weight : Parent → Nat
  | .reading _ got errBuf => 2 * errBuf.length + got.length + 2
  | .waiting _ => 1
  | .returned _ => 0

def State.weight (rank : Code → Nat) (state : State Code) : Nat :=
  pending rank state.processes + 3 * state.pipe.length + state.parent.weight

theorem rank_pos {fetch : Code → Instruction Code} {rank : Code → Nat} (ends : Ends fetch rank)
    (code : Code) : 0 < rank code := by
  have bound := ends code
  cases instruction : fetch code <;> simp only [instruction, Instruction.cost] at bound <;> omega

theorem pending_append (rank : Code → Nat) (front back : List (Process Code)) :
    pending rank (front ++ back) = pending rank front + pending rank back := by
  induction front with
  | nil => simp [pending]
  | cons process front ih =>
      rw [List.cons_append, pending, ih, pending]
      omega

theorem pending_set (rank : Code → Nat) {processes : List (Process Code)} {index : Nat}
    {old : Process Code} (found : processes[index]? = some old) (new : Process Code) :
    pending rank (processes.set index new) + old.weight rank =
      pending rank processes + new.weight rank := by
  induction processes generalizing index with
  | nil => cases found
  | cons process processes ih =>
      cases index with
      | zero =>
          cases found
          simp only [List.set_cons_zero, pending]
          omega
      | succ index =>
          have rest := ih found
          simp only [List.set_cons_succ, pending]
          omega

def Silent (processes : List (Process Code)) : Prop :=
  ∀ process ∈ processes, process.holdsPipe = false

/-- A process leaves the parent where it is, and fills the pipe only while it is read. -/
structure Moved (fetch : Code → Instruction Code) (state next : State Code) : Prop where
  parent : next.parent = state.parent
  written : ∃ more, next.pipe = state.pipe ++ more ∧ next.log = state.log ++ more ∧
    (more ≠ [] → state.parent.readEndOpen = true)
  silent : Silent state.processes → Silent next.processes
  ended : ∀ (index : Nat) status,
    state.processes[index]? = some (Process.ended status : Process Code) →
      next.processes[index]? = some (Process.ended status : Process Code)
  grown : state.processes.length ≤ next.processes.length
  lower : ∀ rank, Ends fetch rank → next.weight rank < state.weight rank

section Moves

variable {fetch : Code → Instruction Code} {room : Nat} {state next : State Code} {index : Nat}

theorem silent_set {processes : List (Process Code)} (silent : Silent processes)
    {new : Process Code} (quiet : new.holdsPipe = false) : Silent (processes.set index new) := by
  intro process inside
  rcases List.mem_or_eq_of_mem_set inside with old | rfl
  · exact silent process old
  · exact quiet

theorem ended_set {processes : List (Process Code)} {holds : Bool} {code : Code}
    (found : processes[index]? = some (.running holds code)) (new : Process Code) {other : Nat}
    {status : StatLoc} (finished : processes[other]? = some (.ended status)) :
    (processes.set index new)[other]? = some (.ended status) := by
  have different : index ≠ other := by
    rintro rfl
    rw [found] at finished
    cases finished
  rw [List.getElem?_set_ne different, finished]

theorem put_moved {holds : Bool} {code : Code} {new : Process Code}
    (found : state.processes[index]? = some (.running holds code))
    (quiet : new.holdsPipe = true → holds = true)
    (lower : ∀ rank, Ends fetch rank → new.weight rank < rank code) :
    Moved fetch state (state.put index new) := by
  constructor
  · rfl
  · exact ⟨[], (List.append_nil _).symm, (List.append_nil _).symm, fun filled => absurd rfl filled⟩
  · intro silent
    have noHold : holds = false := silent _ (List.mem_of_getElem? found)
    refine silent_set silent (Bool.eq_false_iff.mpr fun held => ?_)
    rw [quiet held] at noHold
    cases noHold
  · intro other status finished
    exact ended_set found new finished
  · exact List.length_set.ge
  · intro rank ends
    have weights : pending rank (state.processes.set index new) + rank code =
        pending rank state.processes + new.weight rank := pending_set rank found new
    have less := lower rank ends
    simp only [State.weight, State.put]
    omega

theorem forked_moved {holds : Bool} {code child parent : Code}
    (found : state.processes[index]? = some (.running holds code))
    (forks : fetch code = .fork child parent) :
    Moved fetch state { state with
      processes := state.processes.set index (.running holds parent) ++
        [.running holds child] } := by
  constructor
  · rfl
  · exact ⟨[], (List.append_nil _).symm, (List.append_nil _).symm, fun filled => absurd rfl filled⟩
  · intro silent process inside
    have noHold : (Process.running holds code).holdsPipe = false :=
      silent _ (List.mem_of_getElem? found)
    have quiet : ∀ code : Code, (Process.running holds code).holdsPipe = false := fun _ => noHold
    rcases List.mem_append.mp inside with old | last
    · exact silent_set silent (quiet parent) process old
    · rw [List.mem_singleton.mp last]
      exact quiet child
  · intro other status finished
    have kept := ended_set found (.running holds parent) finished
    rw [List.getElem?_append_left (List.getElem?_eq_some_iff.mp kept).1, kept]
  · simp
  · intro rank ends
    have weights := pending_set rank found (.running holds parent)
    have bound := ends code
    simp only [forks, Instruction.cost] at bound
    simp only [State.weight, pending_append, pending, Process.weight] at weights ⊢
    omega

theorem written_moved {code written failed : Code} {byte : UInt8}
    (found : state.processes[index]? = some (.running true code))
    (writes : fetch code = .write byte written failed)
    (isOpen : state.parent.readEndOpen = true) :
    Moved fetch state { state.put index (.running true written) with
      pipe := state.pipe ++ [byte], log := state.log ++ [byte] } := by
  constructor
  · rfl
  · exact ⟨[byte], rfl, rfl, fun _ => isOpen⟩
  · intro silent
    have noHold : true = false := silent _ (List.mem_of_getElem? found)
    cases noHold
  · intro other status finished
    exact ended_set found _ finished
  · exact List.length_set.ge
  · intro rank ends
    have weights := pending_set rank found (.running true written)
    have bound := ends code
    simp only [writes, Instruction.cost] at bound
    simp only [State.weight, State.put, Process.weight, List.length_append,
      List.length_singleton] at weights ⊢
    omega

theorem advance_moved {ignores : Bool} {process : Process Code}
    (found : state.processes[index]? = some process)
    (advanced : state.advance fetch room index ignores process = some next) :
    Moved fetch state next := by
  cases process with
  | ended status => cases advanced
  | running holds code =>
      -- An instruction that leaves no byte costs at least one more than what follows it.
      have cheaper : ∀ rest, (∀ rank, rank rest + 1 ≤ (fetch code).cost rank) →
          ∀ rank, Ends fetch rank → rank rest < rank code :=
        fun rest costs rank ends => (costs rank).trans (ends code)
      cases instruction : fetch code with
      | exit status =>
          simp only [State.advance, instruction] at advanced
          cases advanced
          exact put_moved found (fun held => by cases held) fun rank ends => rank_pos ends code
      | close rest =>
          simp only [State.advance, instruction] at advanced
          cases advanced
          refine put_moved found (fun held => by cases held) (cheaper rest fun rank => ?_)
          rw [instruction, Instruction.cost]
      | other rest =>
          simp only [State.advance, instruction] at advanced
          cases advanced
          refine put_moved found id (cheaper rest fun rank => ?_)
          rw [instruction, Instruction.cost]
      | fork child parent =>
          simp only [State.advance, instruction] at advanced
          cases advanced
          exact forked_moved found instruction
      | write byte written failed =>
          have less := cheaper failed fun rank => by
            rw [instruction, Instruction.cost]
            exact Nat.le_max_right _ _
          simp only [State.advance, instruction] at advanced
          split at advanced
          next closed =>
              cases advanced
              exact put_moved found (fun held => by cases held) less
          next held =>
              have holding : holds = true := by simpa using held
              subst holding
              split at advanced
              next isOpen =>
                  split at advanced
                  next =>
                      cases advanced
                      exact written_moved found instruction isOpen
                  next => cases advanced
              next =>
                  split at advanced
                  next =>
                      cases advanced
                      exact put_moved found id less
                  next =>
                      cases advanced
                      exact put_moved found (fun held => by cases held)
                        fun rank ends => rank_pos ends code

/-- A process is held up only by a pipe that is full and still read. -/
theorem advance_possible (index : Nat) {holds : Bool} {code : Code}
    (free : state.parent.readEndOpen = false ∨ state.pipe.length < room) :
    ∃ next, state.advance fetch room index true (.running holds code) = some next := by
  cases instruction : fetch code with
  | write byte written failed =>
      simp only [State.advance, instruction]
      rcases free with closed | fits
      · rw [closed]
        split <;> exact ⟨_, rfl⟩
      · rw [if_pos fits]
        split
        · exact ⟨_, rfl⟩
        · split <;> exact ⟨_, rfl⟩
  | exit status => exact ⟨_, by rw [State.advance, instruction]⟩
  | close rest => exact ⟨_, by rw [State.advance, instruction]⟩
  | other rest => exact ⟨_, by rw [State.advance, instruction]⟩
  | fork child parent => exact ⟨_, by rw [State.advance, instruction]⟩

end Moves

/-- What the parent keeps once it has closed the read end: all that was ever written, by
processes that cannot write any more, or as much of it as the string holds. -/
structure Captured (capacity : Nat) (state : State Code) (err : Bytes) : Prop where
  bytes : err = state.log.take capacity
  complete : err.length < capacity → err = state.log ∧ Silent state.processes

inductive Sound (capacity : Nat) (state : State Code) : Parent → Prop
  | reading {err got errBuf : Bytes} (split : state.log = err ++ got ++ errBuf ++ state.pipe)
      (asked : got.length ≤ requested capacity err) (fits : err.length ≤ capacity) :
      Sound capacity state (.reading err got errBuf)
  | waiting {err : Bytes} (captured : Captured capacity state err) :
      Sound capacity state (.waiting err)
  | returned {err : Bytes} {status : StatLoc} (captured : Captured capacity state err)
      (ended : state.processes[0]? = some (Process.ended status : Process Code)) :
      Sound capacity state (.returned (({ err := err } : Result).assign status))

section Steps

variable {fetch : Code → Instruction Code} {room capacity : Nat} {state next : State Code}

theorem requested_le (capacity : Nat) (err : Bytes) :
    requested capacity err ≤ capacity - err.length :=
  Nat.min_le_right _ _

theorem requested_pos {err : Bytes} (short : err.length < capacity) :
    0 < requested capacity err := by
  simp only [requested, BUFSIZ]
  omega

theorem captured_moved {err : Bytes} (moved : Moved fetch state next)
    (closed : state.parent.readEndOpen = false) (captured : Captured capacity state err) :
    Captured capacity next err := by
  obtain ⟨more, _, log, whileOpen⟩ := moved.written
  have nothing : more = [] := by
    by_contra filled
    have isOpen := whileOpen filled
    rw [closed] at isOpen
    cases isOpen
  rw [nothing, List.append_nil] at log
  constructor
  · rw [log]
    exact captured.bytes
  · intro short
    obtain ⟨whole, silent⟩ := captured.complete short
    exact ⟨whole.trans log.symm, moved.silent silent⟩

theorem moved_sound (moved : Moved fetch state next) (sound : Sound capacity state state.parent) :
    Sound capacity next next.parent := by
  have unmoved := moved.parent
  generalize at_ : state.parent = parent at sound unmoved
  rw [unmoved]
  cases sound with
  | reading split asked fits =>
      obtain ⟨more, pipe, log, _⟩ := moved.written
      refine .reading ?_ asked fits
      rw [log, pipe, split, List.append_assoc _ state.pipe]
  | waiting captured => exact .waiting (captured_moved moved (by rw [at_]; rfl) captured)
  | returned captured ended =>
      exact .returned (captured_moved moved (by rw [at_]; rfl) captured) (moved.ended 0 _ ended)

theorem captured_full {err got errBuf : Bytes}
    (split : state.log = err ++ got ++ errBuf ++ state.pipe)
    (asked : got.length ≤ requested capacity err) (fits : err.length ≤ capacity)
    (full : ¬(err ++ got).length < capacity) : Captured capacity state (err ++ got) := by
  have bound := requested_le capacity err
  have exact_ : (err ++ got).length = capacity := by
    rw [List.length_append] at full ⊢
    omega
  constructor
  · rw [split, List.append_assoc (err ++ got), List.take_append_of_le_length exact_.ge,
      List.take_of_length_le exact_.le]
  · intro short
    exact absurd short full

theorem captured_at_end {err got : Bytes} (split : state.log = err ++ got ++ [] ++ state.pipe)
    (asked : got.length ≤ requested capacity err) (fits : err.length ≤ capacity)
    (empty : state.pipe = []) (silent : Silent state.processes) :
    Captured capacity state (err ++ got) := by
  have bound := requested_le capacity err
  have whole : err ++ got = state.log := by
    rw [split, empty, List.append_nil, List.append_nil]
  constructor
  · rw [← whole, List.take_of_length_le]
    rw [List.length_append]
    omega
  · intro _
    exact ⟨whole, silent⟩

/-- A step of the parent keeps the account of the bytes and brings them closer to the string. -/
structure Settled (fetch : Code → Instruction Code) (capacity : Nat) (state next : State Code) :
    Prop where
  sound : Sound capacity next next.parent
  grown : state.processes.length ≤ next.processes.length
  lower : ∀ rank, Ends fetch rank → next.weight rank < state.weight rank

theorem fill_settled {count : Nat} (sound : Sound capacity state state.parent)
    (filled : state.fill capacity count state.parent = some next) :
    Settled fetch capacity state next := by
  cases at_ : state.parent with
  | waiting err => rw [at_] at filled; cases filled
  | returned result => rw [at_] at filled; cases filled
  | reading err got errBuf =>
      rw [at_] at filled sound
      cases errBuf with
      | cons byte errBuf => cases filled
      | nil =>
          rw [State.fill] at filled
          split at filled
          next possible =>
              cases filled
              cases sound with
              | reading split asked fits =>
                  constructor
                  · refine .reading ?_ asked fits
                    rw [split, List.append_assoc _ (state.pipe.take count), List.take_append_drop,
                      List.append_nil]
                  · exact le_rfl
                  · intro rank _
                    simp only [State.weight, at_, Parent.weight, List.length_drop, List.length_take,
                      List.length_nil]
                    omega
          next => cases filled

theorem take_settled (sound : Sound capacity state state.parent)
    (taken : state.take capacity state.parent = some next) : Settled fetch capacity state next := by
  cases at_ : state.parent with
  | waiting err => rw [at_] at taken; cases taken
  | returned result => rw [at_] at taken; cases taken
  | reading err got errBuf =>
      rw [at_] at taken sound
      simp only [State.take] at taken
      split at taken
      next possible =>
          have filled : 0 < errBuf.length := List.length_pos_iff.mpr possible.1
          cases taken
          cases sound with
          | reading split asked fits =>
              constructor
              · refine .reading ?_ ?_ fits
                · simp only [split, List.append_assoc]
                  rw [← List.append_assoc (errBuf.take _), List.take_append_drop]
                · rw [List.length_append, List.length_take]
                  omega
              · exact le_rfl
              · intro rank _
                simp only [State.weight, at_, Parent.weight, List.length_drop, List.length_take,
                  List.length_append]
                omega
      next => cases taken

theorem append_settled (sound : Sound capacity state state.parent)
    (appended : state.append capacity state.parent = some next) :
    Settled fetch capacity state next := by
  cases at_ : state.parent with
  | waiting err => rw [at_] at appended; cases appended
  | returned result => rw [at_] at appended; cases appended
  | reading err got errBuf =>
      rw [at_] at appended sound
      cases sound with
      | reading split asked fits =>
          simp only [State.append] at appended
          split at appended
          next complete =>
              split at appended
              next room =>
                  have short : err.length < capacity := by
                    rw [List.length_append] at room
                    omega
                  have positive := requested_pos short
                  cases appended
                  constructor
                  · refine .reading ?_ (Nat.zero_le _) room.le
                    rw [split, List.append_nil]
                  · exact le_rfl
                  · intro rank _
                    simp only [State.weight, at_, Parent.weight, List.length_nil]
                    omega
              next full =>
                  cases appended
                  constructor
                  · exact .waiting (captured_full split asked fits full)
                  · exact le_rfl
                  · intro rank _
                    simp only [State.weight, at_, Parent.weight]
                    omega
          next => cases appended

theorem end_of_file_settled (sound : Sound capacity state state.parent)
    (ended : state.endOfFile capacity state.parent = some next) :
    Settled fetch capacity state next := by
  cases at_ : state.parent with
  | waiting err => rw [at_] at ended; cases ended
  | returned result => rw [at_] at ended; cases ended
  | reading err got errBuf =>
      rw [at_] at ended sound
      cases errBuf with
      | cons byte errBuf => cases ended
      | nil =>
          rw [State.endOfFile] at ended
          split at ended
          next possible =>
              obtain ⟨_, empty, quiet⟩ := possible
              have silent : Silent state.processes := by
                intro process inside
                simpa using List.all_eq_true.mp quiet process inside
              cases ended
              cases sound with
              | reading split asked fits =>
                  constructor
                  · exact .waiting (captured_at_end split asked fits empty silent)
                  · exact le_rfl
                  · intro rank _
                    simp only [State.weight, at_, Parent.weight]
                    omega
          next => cases ended

theorem wait_settled (sound : Sound capacity state state.parent)
    (waited : state.wait state.parent = some next) : Settled fetch capacity state next := by
  cases at_ : state.parent with
  | reading err got errBuf => rw [at_] at waited; cases waited
  | returned result => rw [at_] at waited; cases waited
  | waiting err =>
      rw [at_] at waited sound
      simp only [State.wait] at waited
      split at waited
      next status first =>
          cases waited
          cases sound with
          | waiting captured =>
              constructor
              · exact .returned ⟨captured.bytes, captured.complete⟩ first
              · exact le_rfl
              · intro rank _
                simp only [State.weight, at_, Parent.weight]
                omega
      next => cases waited

theorem step_settled {action : Action} (sound : Sound capacity state state.parent)
    (stepped : state.step fetch room capacity action = some next) (busy : action ≠ .interrupted) :
    Settled fetch capacity state next := by
  have settled_of_moved : Moved fetch state next → Settled fetch capacity state next :=
    fun moved => ⟨moved_sound moved sound, moved.grown, moved.lower⟩
  cases action with
  | advance index ignores =>
      obtain ⟨process, found, advanced⟩ := Option.bind_eq_some_iff.mp stepped
      exact settled_of_moved (advance_moved found advanced)
  | kill index status =>
      simp only [State.step] at stepped
      split at stepped
      next holds code found =>
          cases stepped
          exact settled_of_moved (put_moved found (fun held => by cases held)
            fun rank ends => rank_pos ends code)
      next => cases stepped
  | fill count => exact fill_settled sound stepped
  | take => exact take_settled sound stepped
  | append => exact append_settled sound stepped
  | endOfFile => exact end_of_file_settled sound stepped
  | wait => exact wait_settled sound stepped
  | interrupted => exact absurd rfl busy

theorem interrupted_same (stepped : state.step fetch room capacity .interrupted = some next) :
    next = state := by
  simp only [State.step] at stepped
  split at stepped
  next => exact (Option.some.inj stepped).symm
  next => cases stepped

theorem step_sound {action : Action} (sound : Sound capacity state state.parent)
    (stepped : state.step fetch room capacity action = some next) :
    Sound capacity next next.parent := by
  by_cases idle : action = .interrupted
  · rw [idle] at stepped
    rw [interrupted_same stepped]
    exact sound
  · exact (step_settled sound stepped idle).sound

end Steps

section Calls

variable {fetch : Code → Instruction Code} {room capacity : Nat} {state : State Code}

theorem process_possible {index : Nat} {holds : Bool} {code : Code}
    (found : state.processes[index]? = some (Process.running holds code))
    (free : state.parent.readEndOpen = false ∨ state.pipe.length < room) :
    ∃ action next, action.Own ∧ state.step fetch room capacity action = some next := by
  obtain ⟨next, advanced⟩ := advance_possible index free
  refine ⟨.advance index true, next, trivial, ?_⟩
  exact Option.bind_eq_some_iff.mpr ⟨_, found, advanced⟩

theorem waiting_possible {err : Bytes} (at_ : state.parent = .waiting err)
    (child : 0 < state.processes.length) :
    ∃ action next, action.Own ∧ state.step fetch room capacity action = some next := by
  have first := List.getElem?_eq_getElem child
  cases process : state.processes[0] with
  | running holds code =>
      -- The read end is closed, so that the child cannot be held up.
      exact process_possible (first.trans (congrArg some process)) (.inl (by rw [at_]; rfl))
  | ended status =>
      refine ⟨.wait, { state with parent := .returned (({ err := err } : Result).assign status) },
        trivial, ?_⟩
      simp only [State.step, State.wait, at_, first, process]

theorem reading_possible (positive : 0 < room) {err got errBuf : Bytes}
    (at_ : state.parent = .reading err got errBuf) (asked : got.length ≤ requested capacity err) :
    ∃ action next, action.Own ∧ state.step fetch room capacity action = some next := by
  by_cases complete : got.length = requested capacity err
  · refine ⟨.append, ?_⟩
    simp only [State.step, State.append, at_, if_pos complete]
    split <;> exact ⟨_, trivial, rfl⟩
  · have lacking : got.length < requested capacity err := by omega
    cases errBuf with
    | cons byte errBuf =>
        refine ⟨.take, ?_⟩
        simp only [State.step, State.take, at_]
        rw [if_pos ⟨List.cons_ne_nil _ _, by omega⟩]
        exact ⟨_, trivial, rfl⟩
    | nil =>
        by_cases empty : state.pipe = []
        · by_cases quiet : state.processes.all (fun process => !process.holdsPipe)
          · refine ⟨.endOfFile, ?_⟩
            simp only [State.step, State.endOfFile, at_]
            rw [if_pos ⟨lacking, empty, quiet⟩]
            exact ⟨_, trivial, rfl⟩
          · rw [Bool.not_eq_true, List.all_eq_false] at quiet
            obtain ⟨process, inside, holding⟩ := quiet
            obtain ⟨index, found⟩ := List.getElem?_of_mem inside
            cases process with
            | ended status => exact absurd rfl holding
            | running holds code =>
                exact process_possible found (.inr (by rw [empty]; exact positive))
        · refine ⟨.fill 1, ?_⟩
          simp only [State.step, State.fill, at_]
          rw [if_pos ⟨lacking, Nat.one_pos, List.length_pos_iff.mpr empty⟩]
          exact ⟨_, trivial, rfl⟩

theorem step_possible (positive : 0 < room) (sound : Sound capacity state state.parent)
    (child : 0 < state.processes.length) :
    (∃ result, state.parent = .returned result) ∨
      ∃ action next, action.Own ∧ state.step fetch room capacity action = some next := by
  cases at_ : state.parent with
  | returned result => exact .inl ⟨result, rfl⟩
  | waiting err => exact .inr (waiting_possible at_ child)
  | reading err got errBuf =>
      rw [at_] at sound
      cases sound with
      | reading split asked fits => exact .inr (reading_possible positive at_ asked)

/-- The parent as `getErrCallImpl` has it, with what the pipe has taken as the child's output. -/
structure AnsweredBy (capacity : Nat) (log : Bytes) (status : StatLoc) (answers : Answers) : Prop
    where
  prepare : answers.prepare = .ok capacity
  fork : ∃ pid, answers.fork = .ok pid
  stderr : answers.stderr = log
  waitpid : waitLoop answers.waitpid = some (.ok status)

theorem answered_returns {log : Bytes} {status : StatLoc} {answers : Answers}
    (answered : AnsweredBy capacity log status answers) :
    ∃ events, getErrCallImpl answers =
      some (.ok (({ err := log.take capacity } : Result).assign status), events) := by
  obtain ⟨pid, fork⟩ := answered.fork
  simp only [getErrCallImpl, answered.prepare, fork, execute_parent_eq, answered.waitpid,
    answered.stderr, read_err_eq, Option.map_some, Except.map, List.nil_append, List.length_nil,
    Nat.sub_zero]
  exact ⟨_, rfl⟩

/-- What holds after every run, whatever the processes do: until the parent has returned, it or
one of them can go on by itself, and it returns what the sequential call, and its loop on a
stream of these bytes, returns for the bytes the pipe has taken, all of them unless the string
is full. Where every process ends, only so much can happen, and the return stays within reach. -/
structure Finishes (fetch : Code → Instruction Code) (room capacity : Nat) (code : Code)
    (actions : List Action) (state : State Code) : Prop where
  live : (∃ result, state.parent = .returned result) ∨
    ∃ action next, action.Own ∧ state.step fetch room capacity action = some next
  bounded : ∀ rank, Ends fetch rank →
    (actions.countP fun action => ¬action = .interrupted) ≤ rank code + 2
  returns : ∀ rank, Ends fetch rank → CanReach (State.step fetch room capacity)
    (fun state => ∃ result, state.parent = .returned result) state
  sequential : ∀ result, state.parent = .returned result →
    ∃ status, state.processes[0]? = some (Process.ended status : Process Code) ∧
      ∀ answers, AnsweredBy capacity state.log status answers →
        ∃ events, getErrCallImpl answers = some (.ok result, events)
  looped : 0 < capacity → ∀ result, state.parent = .returned result → ∀ grown,
    (readLoop grown capacity { rest := state.log, good := true }
        { bytes := [], capacity := capacity }).map (fun ending => ending.2.bytes) =
      some result.err
  complete : ∀ result, state.parent = .returned result → result.err.length < capacity →
    result.err = state.log ∧ Silent state.processes

/-- The account of the bytes, and the child among the processes. -/
def Kept (capacity : Nat) (state : State Code) : Prop :=
  Sound capacity state state.parent ∧ 0 < state.processes.length

theorem start_kept (capacity : Nat) (code : Code) : Kept capacity (start code) :=
  ⟨.reading rfl (Nat.zero_le _) (Nat.zero_le _), Nat.one_pos⟩

theorem step_kept {next : State Code} {action : Action} (kept : Kept capacity state)
    (stepped : state.step fetch room capacity action = some next) : Kept capacity next := by
  refine ⟨step_sound kept.1 stepped, ?_⟩
  by_cases idle : action = .interrupted
  · rw [idle] at stepped
    rw [interrupted_same stepped]
    exact kept.2
  · exact kept.2.trans_le (step_settled kept.1 stepped idle).grown

theorem run_kept {code : Code} {actions : List Action}
    (executed : run (State.step fetch room capacity) (start code) actions = some state) :
    Kept capacity state :=
  run_invariant (Kept capacity) (fun _ _ _ kept stepped => step_kept kept stepped)
    (start_kept capacity code) executed

theorem steps_bounded {rank : Code → Nat} (ends : Ends fetch rank) {code : Code}
    {actions : List Action}
    (executed : run (State.step fetch room capacity) (start code) actions = some state) :
    (actions.countP fun action => ¬action = .interrupted) ≤ rank code + 2 := by
  have bound := run_bounded (fun action => action = .interrupted) (Kept capacity)
    (State.weight rank) (fun _ _ _ kept stepped => step_kept kept stepped)
    (fun _ _ _ kept stepped busy => (step_settled kept.1 stepped busy).lower rank ends)
    (fun state action next stepped idle => by
      rw [idle] at stepped
      rw [interrupted_same stepped])
    (start_kept capacity code) executed
  have whole : (start code).weight rank = rank code + 2 := by
    simp [State.weight, start, pending, Process.weight, Parent.weight]
  omega

theorem return_reached (positive : 0 < room) {rank : Code → Nat} (ends : Ends fetch rank)
    (kept : Kept capacity state) :
    CanReach (State.step fetch room capacity)
      (fun state => ∃ result, state.parent = .returned result) state := by
  refine can_reach_of_measure (Kept capacity) (State.weight rank) (fun state kept => ?_) kept
  rcases step_possible positive kept.1 kept.2 with returned | ⟨action, next, own, stepped⟩
  · exact .inl returned
  · have busy : action ≠ .interrupted := by
      rintro rfl
      exact own
    exact .inr ⟨action, next, stepped, step_kept kept stepped,
      (step_settled kept.1 stepped busy).lower rank ends⟩

/-- The child exits at once and leaves a process behind that writes on. -/
def leftBehind : Nat → Instruction Nat
  | 0 => .write 79 1 4
  | 1 => .fork 2 4
  | 2 => .write 75 3 3
  | 3 => .exit 0
  | _ => .exit 256

def leftBehindRank : Nat → Nat
  | 0 => 11
  | 1 => 7
  | 2 => 5
  | _ => 1

theorem left_behind_ends : Ends leftBehind leftBehindRank
  | 0 => by decide
  | 1 => by decide
  | 2 => by decide
  | 3 => by decide
  | _ + 4 => Nat.le_refl 1

def leftBehindCall : List Action :=
  [.advance 0 false, .advance 0 false, .advance 0 false, .fill 1, .advance 1 false, .take, .fill 1,
    .advance 1 false, .take, .endOfFile, .interrupted, .wait]

end Calls

end ContestSystem.Execution.ErrPipe
