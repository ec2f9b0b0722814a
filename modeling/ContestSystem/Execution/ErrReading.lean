import ContestSystem.Execution.ErrCall

/-!
# Reading the standard error of a child

The loop of `executeParentFunction` turn by turn, on a string that may reallocate
and a stream that fails once it is asked for more than it has. No turn overruns what
has been reserved, so `readErr`, which takes the capacity for fixed, gives what the
loop gives.
-/

namespace ContestSystem.Execution.ErrReading

open ContestSystem.Unistd

set_option autoImplicit false

structure ReservedString where
  bytes : Bytes
  capacity : Nat

/-- `grown` is the capacity that a reallocation gives. -/
def ReservedString.append (grown : Nat → Nat → Nat) (more : Bytes) (text : ReservedString) :
    ReservedString :=
  let size := text.bytes.length + more.length
  { bytes := text.bytes ++ more
    capacity := if size ≤ text.capacity then text.capacity else grown text.capacity size }

/-- `rest` are the bytes until the other end is closed. -/
structure Stream where
  rest : Bytes
  good : Bool

/-- `istream::read`: the bytes that `gcount` counts and the stream afterwards. -/
def Stream.read (count : Nat) (stream : Stream) : Bytes × Stream :=
  if stream.good then
    (stream.rest.take count,
      { rest := stream.rest.drop count, good := decide (count ≤ stream.rest.length) })
  else ([], stream)

/-- What one turn asks for, and the string after it. -/
structure Turn where
  request : Nat
  size : Nat
  capacity : Nat
deriving DecidableEq

section Loop

variable (grown : Nat → Nat → Nat)

def turn (errS : Stream) (err : ReservedString) : Turn × Stream × ReservedString :=
  let request := min BUFSIZ (err.capacity - err.bytes.length)
  let read := errS.read request
  let appended := err.append grown read.1
  ({ request, size := appended.bytes.length, capacity := appended.capacity }, read.2, appended)

def goesOn (errS : Stream) (err : ReservedString) : Bool :=
  errS.good && decide (err.bytes.length < err.capacity)

/-- `none` where more turns are made than are given. -/
def readLoop : Nat → Stream → ReservedString → Option (List Turn × ReservedString)
  | 0, _, _ => none
  | turns + 1, errS, err =>
      let (made, errS, err) := turn grown errS err
      if goesOn errS err then
        (readLoop turns errS err).map fun (later, after) => (made :: later, after)
      else some ([made], err)

end Loop

/-- What holds before each turn, for a child that writes `written`. -/
structure Reading (written : Bytes) (reserved : Nat) (errS : Stream) (err : ReservedString) :
    Prop where
  good : errS.good = true
  split : err.bytes ++ errS.rest = written
  capacity : err.capacity = reserved
  room : err.bytes.length < reserved

/-- A turn asks for no more than the buffer holds, and does not reallocate. -/
structure Kept (reserved : Nat) (made : Turn) : Prop where
  positive : 1 ≤ made.request
  bounded : made.request ≤ BUFSIZ
  fits : made.size ≤ reserved
  capacity : made.capacity = reserved

/-- What the loop leaves. -/
structure Captured (written : Bytes) (reserved : Nat) (err : ReservedString) : Prop where
  bytes : err.bytes = written.take (min written.length reserved)
  capacity : err.capacity = reserved

section Turns

variable {grown : Nat → Nat → Nat} {written : Bytes} {reserved : Nat} {errS : Stream}
  {err : ReservedString}

theorem append_kept {more : Bytes} (fits : err.bytes.length + more.length ≤ err.capacity) :
    err.append grown more = { err with bytes := err.bytes ++ more } := by
  rw [ReservedString.append, if_pos fits]

variable (grown) in
theorem turn_eq (reading : Reading written reserved errS err) :
    ∃ request, 1 ≤ request ∧ request = min BUFSIZ (reserved - err.bytes.length) ∧
      turn grown errS err =
        ({ request, size := (err.bytes ++ errS.rest.take request).length, capacity := reserved },
          { rest := errS.rest.drop request, good := decide (request ≤ errS.rest.length) },
          { bytes := err.bytes ++ errS.rest.take request, capacity := reserved }) := by
  have room := reading.room
  refine ⟨min BUFSIZ (reserved - err.bytes.length), ?_, rfl, ?_⟩
  · have buffer : 1 ≤ BUFSIZ := by decide
    omega
  · have short := List.length_take_le (min BUFSIZ (reserved - err.bytes.length)) errS.rest
    have fits : err.bytes.length +
        (errS.rest.take (min BUFSIZ (reserved - err.bytes.length))).length ≤ err.capacity := by
      rw [reading.capacity]
      omega
    simp only [turn, Stream.read, reading.good, reading.capacity, if_true]
    rw [append_kept fits, reading.capacity]

theorem turn_kept (reading : Reading written reserved errS err) :
    Kept reserved (turn grown errS err).1 := by
  obtain ⟨request, positive, least, made⟩ := turn_eq grown reading
  have room := reading.room
  have short := List.length_take_le request errS.rest
  rw [made]
  refine ⟨positive, ?_, ?_, rfl⟩
  · rw [least]
    exact Nat.min_le_left _ _
  · simp only [List.length_append]
    omega

variable (grown) in
/-- Either there is a next turn, which has less room left, or all is captured. -/
theorem turn_cases (reading : Reading written reserved errS err) :
    (goesOn (turn grown errS err).2.1 (turn grown errS err).2.2 = true ∧
      Reading written reserved (turn grown errS err).2.1 (turn grown errS err).2.2 ∧
      err.bytes.length < (turn grown errS err).2.2.bytes.length) ∨
    (goesOn (turn grown errS err).2.1 (turn grown errS err).2.2 = false ∧
      Captured written reserved (turn grown errS err).2.2) := by
  obtain ⟨request, positive, least, made⟩ := turn_eq grown reading
  have split := reading.split
  rw [made]
  have whole : (err.bytes ++ errS.rest.take request) ++ errS.rest.drop request = written := by
    rw [List.append_assoc, List.take_append_drop, split]
  by_cases full : request ≤ errS.rest.length
  · have size : (err.bytes ++ errS.rest.take request).length = err.bytes.length + request := by
      rw [List.length_append, List.length_take_of_le full]
    by_cases room : err.bytes.length + request < reserved
    · left
      refine ⟨?_, ⟨?_, whole, rfl, ?_⟩, ?_⟩
      · simp [goesOn, full, room]
      · simp [full]
      · rw [size]
        exact room
      · rw [size]
        omega
    · right
      have reached : (err.bytes ++ errS.rest.take request).length = reserved := by
        rw [size]
        have before := reading.room
        omega
      refine ⟨?_, ?_, rfl⟩
      · simp [goesOn, full, room]
      · have before : (err.bytes ++ errS.rest.take request).length ≤ written.length := by
          rw [← whole]
          exact (List.prefix_append _ _).length_le
        rw [← reached, Nat.min_eq_right before, ← whole, List.take_left]
  · right
    have fewer : errS.rest.length ≤ request := Nat.le_of_not_le full
    refine ⟨?_, ?_, rfl⟩
    · simp [goesOn, full]
    · have all : err.bytes ++ errS.rest.take request = written := by
        rw [List.take_of_length_le fewer, split]
      have size : written.length ≤ reserved := by
        have before := reading.room
        rw [← split, List.length_append]
        omega
      rw [all, Nat.min_eq_left size, List.take_length]

theorem read_loop_succ (turns : Nat) : readLoop grown (turns + 1) errS err =
    if goesOn (turn grown errS err).2.1 (turn grown errS err).2.2 then
      (readLoop grown turns (turn grown errS err).2.1 (turn grown errS err).2.2).map
        fun later => ((turn grown errS err).1 :: later.1, later.2)
    else some ([(turn grown errS err).1], (turn grown errS err).2.2) :=
  rfl

variable (grown) in
theorem read_loop_captures (turns : Nat) (reading : Reading written reserved errS err)
    (enough : reserved - err.bytes.length ≤ turns) :
    ∃ made after, readLoop grown turns errS err = some (made, after) ∧
      Captured written reserved after ∧ ∀ turn ∈ made, Kept reserved turn := by
  induction turns generalizing errS err with
  | zero =>
      have room := reading.room
      omega
  | succ turns ih =>
      have kept : Kept reserved (turn grown errS err).1 := turn_kept reading
      rcases turn_cases grown reading with ⟨more, next, longer⟩ | ⟨last, captured⟩
      · obtain ⟨later, after, ends, captured, laterKept⟩ := ih next (by omega)
        refine ⟨(turn grown errS err).1 :: later, after, ?_, captured, ?_⟩
        · rw [read_loop_succ, if_pos more, ends, Option.map_some]
        · intro made inside
          rcases List.mem_cons.mp inside with rfl | inside
          · exact kept
          · exact laterKept made inside
      · refine ⟨[(turn grown errS err).1], (turn grown errS err).2.2, ?_, captured, ?_⟩
        · rw [read_loop_succ, if_neg (Bool.eq_false_iff.mp last)]
        · intro made inside
          rw [List.mem_singleton.mp inside]
          exact kept

theorem read_loop_read_err (grown : Nat → Nat → Nat) (written : Bytes) (room : 0 < reserved) :
    (readLoop grown reserved { rest := written, good := true }
        { bytes := [], capacity := reserved }).map (fun ending => ending.2.bytes) =
      some (readErr reserved written []) := by
  have reading : Reading written reserved { rest := written, good := true }
      { bytes := [], capacity := reserved } := ⟨rfl, rfl, rfl, room⟩
  obtain ⟨made, after, ends, captured, _⟩ :=
    read_loop_captures grown reserved reading (Nat.sub_le reserved 0)
  rw [ends, Option.map_some, captured.bytes, read_err_eq, List.nil_append, List.length_nil,
    Nat.sub_zero, Nat.min_comm, ← List.take_eq_take_min]

/-- What the child writes is captured from its start, as much as has been reserved. -/
theorem read_loop_exact (grown : Nat → Nat → Nat) (written : Bytes) (reserved : Nat)
    (sufficient : MAX_ERR_SIZE ≤ reserved) :
    ∃ turns made after,
      readLoop grown turns { rest := written, good := true } { bytes := [], capacity := reserved } =
        some (made, after) ∧
      after.bytes = written.take (min written.length reserved) ∧ after.capacity = reserved ∧
      ∀ turn ∈ made, 1 ≤ turn.request ∧ turn.request ≤ BUFSIZ ∧ turn.size ≤ reserved ∧
        turn.capacity = reserved := by
  have room : 0 < reserved := Nat.lt_of_lt_of_le (by decide) sufficient
  have reading : Reading written reserved { rest := written, good := true }
      { bytes := [], capacity := reserved } := ⟨rfl, rfl, rfl, room⟩
  obtain ⟨made, after, ends, captured, kept⟩ :=
    read_loop_captures grown reserved reading (Nat.sub_le reserved 0)
  refine ⟨reserved, made, after, ends, captured.bytes, captured.capacity, ?_⟩
  intro turn inside
  have within := kept turn inside
  exact ⟨within.positive, within.bounded, within.fits, within.capacity⟩

def longOutput : Bytes := List.replicate 9000 79

theorem read_loop_exact_two_turns : ∃ turns made after,
    readLoop (fun capacity size => max (2 * capacity) size) turns
        { rest := longOutput, good := true } { bytes := [], capacity := 10000 } =
      some (made, after) ∧
    after.bytes = longOutput ∧ after.capacity = 10000 ∧
    ∀ turn ∈ made, 1 ≤ turn.request ∧ turn.request ≤ BUFSIZ ∧ turn.size ≤ 10000 ∧
      turn.capacity = 10000 := by
  obtain ⟨turns, made, after, ends, bytes, kept⟩ :=
    read_loop_exact (fun capacity size => max (2 * capacity) size) longOutput 10000 (by decide)
  have whole : longOutput.length = 9000 := List.length_replicate
  refine ⟨turns, made, after, ends, ?_, kept⟩
  rw [bytes, List.take_of_length_le]
  omega

end Turns

end ContestSystem.Execution.ErrReading
