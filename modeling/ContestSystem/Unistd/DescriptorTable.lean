import Mathlib.Data.Finset.Basic
import ContestSystem.Unistd.DescriptorOwnership
import ContestSystem.Unistd.OpenFiles

/-!
# Descriptors and the open files of their process

A program gets numbers from the kernel, hands them in to descriptors, gets them back
by `release` and closes those that it holds itself; the descriptors close the rest.
What is closed and when is in the journal of the descriptors, so one invariant of
journal and table says that no file is closed by others, lost or left open.
-/

namespace ContestSystem.Unistd.Descriptors

open ContestSystem.Lib ContestSystem.Lib.Ownership ContestSystem.Lib.Run
open ContestSystem.Unistd.OpenFiles (FileTable)

set_option autoImplicit false

def handsIn : Action → List Fd
  | .construct _ fd => [fd]
  | .assign _ fd _ => [fd]
  | .pipe _ readFd writeFd => [writeFd, readFd]
  | .default _ | .moveConstruct _ _ _ | .moveAssign _ _ _ | .swap _ _ | .close _ _ | .release _
  | .destroy _ _ | .releaseEnd _ _ _ _ | .closeEnd _ _ _ | .destroyPipe _ _ _ => []

def handed (events : List FdEvent) : List Fd :=
  events.filterMap fun event =>
    match event with
    | .handedIn fd => some fd
    | .closed _ _ => none
    | .released _ => none

section Events

variable {state next : Descriptors} {answer : CloseAnswer} {place : Place}

theorem handed_append (later earlier : List FdEvent) :
    handed (later ++ earlier) = handed later ++ handed earlier :=
  List.filterMap_append

theorem handed_close (descriptor : Descriptor) :
    handed (descriptor.closeNoExcept answer).2 = [] := by
  obtain ⟨_ | fd⟩ := descriptor <;> rfl

/-- An action appends events that hand in `numbers`. -/
def Appends (state next : Descriptors) (numbers : List Fd) : Prop :=
  ∃ events, next.journal = events ++ state.journal ∧ handed events = numbers

theorem appends_trans {middle : Descriptors} {earlier later : List Fd}
    (first : Appends state middle earlier) (second : Appends middle next later) :
    Appends state next (later ++ earlier) := by
  obtain ⟨one, journal, rfl⟩ := first
  obtain ⟨two, journal', rfl⟩ := second
  exact ⟨two ++ one, by rw [journal', journal, List.append_assoc], handed_append two one⟩

theorem change_appends {call : Descriptor → Option (Descriptor × List FdEvent)}
    {numbers : List Fd}
    (hands : ∀ descriptor result, call descriptor = some result → handed result.2 = numbers)
    (stepped : state.change place call = some next) : Appends state next numbers := by
  obtain ⟨value, result, _, called, journal, _⟩ := Pool.change_cases stepped
  exact ⟨result.2, journal, hands value result called⟩

theorem close_appends
    (stepped : state.change place (some ∘ Descriptor.closeNoExcept answer) = some next) :
    Appends state next [] := by
  apply change_appends _ stepped
  intro descriptor result called
  cases called
  exact handed_close descriptor

theorem assign_appends {fd : Fd}
    (stepped : state.change place (some ∘ Descriptor.assign answer fd) = some next) :
    Appends state next [fd] := by
  apply change_appends _ stepped
  intro descriptor result called
  cases called
  exact congrArg (List.cons fd) (handed_close descriptor)

theorem destroy_appends
    (stepped : state.destroy place (Descriptor.destroy answer) = some next) :
    Appends state next [] := by
  obtain ⟨value, _, journal, _⟩ := Pool.destroy_cases stepped
  exact ⟨_, journal, handed_close value⟩

theorem move_construct_appends {source : Place}
    (stepped : state.constructFrom place source (Descriptor.moveConstruct answer) = some next) :
    Appends state next [] := by
  obtain ⟨value, _, _, _, journal, _⟩ := Pool.construct_from_cases stepped
  exact ⟨_, journal, rfl⟩

theorem construct_appends {descriptor : Descriptor} {events : List FdEvent}
    (stepped : state.construct place descriptor events = some next) :
    Appends state next (handed events) :=
  ⟨events, (Pool.construct_cases stepped).2.1, rfl⟩

theorem step_appends {action : Action} (stepped : step state action = some next) :
    Appends state next (handsIn action) := by
  cases action with
  | construct address fd =>
      simp only [step] at stepped
      split at stepped
      · cases stepped
      · exact construct_appends stepped
  | default address => exact construct_appends stepped
  | assign address fd answer =>
      simp only [step] at stepped
      split at stepped
      · cases stepped
      · exact assign_appends stepped
  | moveConstruct address source answer => exact move_construct_appends stepped
  | moveAssign target source answer =>
      simp only [step] at stepped
      split at stepped
      · exact close_appends stepped
      · obtain ⟨one, two, _, _, journal, _⟩ := Pool.change_two_cases stepped
        exact ⟨_, journal, handed_close _⟩
  | swap first second =>
      simp only [step] at stepped
      split at stepped
      · apply change_appends _ stepped
        intro descriptor result called
        cases called
        rfl
      · obtain ⟨one, two, _, _, journal, _⟩ := Pool.change_two_cases stepped
        exact ⟨_, journal, rfl⟩
  | close address answer => exact close_appends stepped
  | release address =>
      apply change_appends _ stepped
      intro descriptor result released
      obtain ⟨_ | fd⟩ := descriptor
      · cases released
      · cases released
        rfl
  | destroy address answer => exact destroy_appends stepped
  | pipe pipe readFd writeFd =>
      simp only [step] at stepped
      split at stepped
      · cases stepped
      · obtain ⟨both, made, assigned⟩ := Option.bind_eq_some_iff.mp stepped
        obtain ⟨one, madeRead, madeWrite⟩ := Option.bind_eq_some_iff.mp made
        obtain ⟨half, assignedRead, assignedWrite⟩ := Option.bind_eq_some_iff.mp assigned
        have constructed : Appends state both [] :=
          appends_trans (construct_appends madeRead) (construct_appends madeWrite)
        have numbered : Appends both next [writeFd, readFd] :=
          appends_trans (assign_appends assignedRead) (assign_appends assignedWrite)
        exact appends_trans constructed numbered
  | releaseEnd pipe end_ address answer => exact move_construct_appends stepped
  | closeEnd pipe end_ answer => exact close_appends stepped
  | destroyPipe pipe readAnswer writeAnswer =>
      obtain ⟨left, first, second⟩ := Option.bind_eq_some_iff.mp stepped
      exact appends_trans (destroy_appends first) (destroy_appends second)

theorem hands_in_nodup {action : Action} (stepped : step state action = some next) :
    (handsIn action).Nodup := by
  cases action with
  | pipe pipe readFd writeFd =>
      simp only [step] at stepped
      split at stepped
      · cases stepped
      next unowned =>
          obtain ⟨_, _, different⟩ : readFd ∉ owned state ∧ writeFd ∉ owned state ∧
              readFd ≠ writeFd := by
            simpa only [not_or] using unowned
          exact List.nodup_cons.mpr
            ⟨fun same => different (List.mem_singleton.mp same).symm, List.nodup_singleton readFd⟩
  | construct | assign => exact List.nodup_singleton _
  | default | moveConstruct | moveAssign | swap | close | release | destroy | releaseEnd | closeEnd
  | destroyPipe => exact List.nodup_nil

end Events

/-- `opened` is the file that was opened last under a number, `loose` are the numbers
that the program holds itself. -/
structure Files (File : Type) where
  table : FileTable File
  opened : Nat → Option File
  loose : Finset Fd

structure Process (File : Type) where
  descriptors : Descriptors
  files : Files File

namespace Files

variable {File : Type} (files : Files File)

/-- `::open`, `::dup` or `::epoll_create1` returns the number of a new file. -/
def openFile (file : File) : Files File :=
  { table := files.table.set files.table.lowest file
    opened := Function.update files.opened files.table.lowest (some file)
    loose := insert (files.table.lowest : Fd) files.loose }

def close (fd : Fd) : Files File :=
  { files with table := files.table.erase fd.toNat, loose := files.loose.erase fd }

def serve (event : FdEvent) (files : Files File) : Files File :=
  match event with
  | .handedIn fd => { files with loose := files.loose.erase fd }
  | .closed fd _ => { files with table := files.table.erase fd.toNat }
  | .released fd => { files with loose := insert fd files.loose }

def serveAll (events : List FdEvent) : Files File :=
  events.foldr serve files

end Files

namespace Process

variable {File : Type}

inductive Action (File : Type)
  | openFile (file : File)
  | close (fd : Fd)
  /-- An action of the descriptors, which hands in only what the program holds. -/
  | call (action : Descriptors.Action)

def start (table : FileTable File) : Process File :=
  { descriptors := Pool.start
    files := { table := table, opened := fun _ => none, loose := ∅ } }

/-- The events that the descriptors add to their journal reach the kernel. -/
def step (process : Process File) : Action File → Option (Process File)
  | .openFile file => some { process with files := process.files.openFile file }
  | .close fd =>
      if fd ∈ process.files.loose then
        some { process with files := process.files.close fd }
      else none
  | .call action =>
      if ∀ fd ∈ handsIn action, fd ∈ process.files.loose then
        (Descriptors.step process.descriptors action).map fun next =>
          { descriptors := next
            files := process.files.serveAll
              (next.journal.take (next.journal.length - process.descriptors.journal.length)) }
      else none

end Process

section Settled

variable {File : Type} {start : FileTable File} {files : Files File} {owned : Multiset Fd}

/-- A number that was free at the start and refers to the file last opened under it. -/
structure Bound (start table : FileTable File) (opened : Nat → Option File) (fd : Fd) : Prop where
  number : 0 ≤ fd
  fresh : start.slot fd.toNat = none
  file : ∃ file, table.slot fd.toNat = some file ∧ opened fd.toNat = some file

structure Settled (start : FileTable File) (owned : Multiset Fd) (files : Files File) : Prop where
  apart : ∀ fd ∈ owned, fd ∉ files.loose
  bound : ∀ fd, fd ∈ owned ∨ fd ∈ files.loose → Bound start files.table files.opened fd
  others : ∀ number : Nat, (number : Fd) ∉ owned → (number : Fd) ∉ files.loose →
    files.table.slot number = start.slot number

theorem to_nat_ne {fd other : Fd} (number : 0 ≤ fd) (otherNumber : 0 ≤ other)
    (different : other ≠ fd) : other.toNat ≠ fd.toNat := by
  intro same
  apply different
  rw [← Int.toNat_of_nonneg otherNumber, same, Int.toNat_of_nonneg number]

theorem settled_start (start : FileTable File) :
    Settled start 0 { table := start, opened := fun _ => none, loose := ∅ } where
  apart := fun fd inside => absurd inside (Multiset.notMem_zero fd)
  bound := fun fd held => by simp at held
  others := fun _ _ _ => rfl

theorem lowest_unheld (settled : Settled start owned files) :
    (files.table.lowest : Fd) ∉ owned ∧ (files.table.lowest : Fd) ∉ files.loose := by
  have unbound : ¬Bound start files.table files.opened files.table.lowest := by
    intro bound
    obtain ⟨file, taken, _⟩ := bound.file
    rw [Int.toNat_natCast, Slots.slot_lowest] at taken
    cases taken
  exact ⟨fun inside => unbound (settled.bound _ (.inl inside)),
    fun inside => unbound (settled.bound _ (.inr inside))⟩

theorem settled_open (settled : Settled start owned files) (file : File) :
    Settled start owned (files.openFile file) := by
  obtain ⟨unowned, unheld⟩ := lowest_unheld settled
  constructor
  · intro fd inside held
    rcases Finset.mem_insert.mp held with same | before
    · exact unowned (same ▸ inside)
    · exact settled.apart fd inside before
  · intro fd held
    by_cases same : fd = (files.table.lowest : Fd)
    · subst same
      refine ⟨Int.natCast_nonneg _, ?_, file, ?_, ?_⟩
      · rw [Int.toNat_natCast, ← settled.others _ unowned unheld, Slots.slot_lowest]
      · simp [Files.openFile]
      · simp [Files.openFile]
    · have before : fd ∈ owned ∨ fd ∈ files.loose :=
        held.imp_right fun inside => (Finset.mem_insert.mp inside).resolve_left same
      obtain ⟨number, fresh, old, taken, opened⟩ := settled.bound fd before
      have different : fd.toNat ≠ files.table.lowest :=
        to_nat_ne (Int.natCast_nonneg files.table.lowest) number same
      refine ⟨number, fresh, old, ?_, ?_⟩
      · simpa [Files.openFile, different] using taken
      · simpa [Files.openFile, different] using opened
  · intro number notOwned notLoose
    obtain ⟨different, before⟩ := not_or.mp (fun inside => notLoose (Finset.mem_insert.mpr inside))
    rw [← settled.others number notOwned before]
    have other : number ≠ files.table.lowest := fun same => different (congrArg _ same)
    simp [Files.openFile, other]

theorem bound_erase {fd other : Fd} (bound : Bound start files.table files.opened other)
    (different : other ≠ fd) (number : 0 ≤ fd) :
    Bound start (files.table.erase fd.toNat) files.opened other := by
  obtain ⟨otherNumber, fresh, file, taken, opened⟩ := bound
  have apart := to_nat_ne number otherNumber different
  exact ⟨otherNumber, fresh, file, by simpa [apart] using taken, opened⟩

theorem erased_fresh {fd : Fd} {number : Nat} (bound : Bound start files.table files.opened fd)
    (same : (number : Fd) = fd) :
    (files.table.erase fd.toNat).slot number = start.slot number := by
  have index : number = fd.toNat := by rw [← same, Int.toNat_natCast]
  rw [index, Slots.slot_erase, if_pos rfl, bound.fresh]

theorem erased_other {fd : Fd} {number : Nat} (positive : 0 ≤ fd) (different : (number : Fd) ≠ fd) :
    (files.table.erase fd.toNat).slot number = files.table.slot number := by
  have index : number ≠ fd.toNat := to_nat_ne positive (Int.natCast_nonneg number) different
  rw [Slots.slot_erase, if_neg index]

theorem settled_close (settled : Settled start owned files) {fd : Fd} (held : fd ∈ files.loose) :
    Settled start owned (files.close fd) := by
  have bound := settled.bound fd (.inr held)
  constructor
  · exact fun other inside heldAfter =>
      settled.apart other inside (Finset.mem_of_mem_erase heldAfter)
  · rintro other (inside | inside)
    · have different : other ≠ fd := fun same => settled.apart other inside (same ▸ held)
      exact bound_erase (settled.bound other (.inl inside)) different bound.number
    · obtain ⟨different, before⟩ := Finset.mem_erase.mp inside
      exact bound_erase (settled.bound other (.inr before)) different bound.number
  · intro number notOwned notLoose
    by_cases same : (number : Fd) = fd
    · exact erased_fresh bound same
    · have before : (number : Fd) ∉ files.loose :=
        fun inside => notLoose (Finset.mem_erase.mpr ⟨same, inside⟩)
      exact (erased_other bound.number same).trans (settled.others number notOwned before)

theorem settled_handed_in (settled : Settled start owned files) {fd : Fd} {answer : FdEvent}
    (event : answer = .handedIn fd) (held : fd ∈ files.loose) :
    Settled start (fd ::ₘ owned) (files.serve answer) := by
  subst event
  constructor
  · intro other inside heldAfter
    obtain ⟨different, before⟩ := Finset.mem_erase.mp heldAfter
    exact settled.apart other ((Multiset.mem_cons.mp inside).resolve_left different) before
  · rintro other (inside | inside)
    · rcases Multiset.mem_cons.mp inside with same | before
      · exact settled.bound other (.inr (same ▸ held))
      · exact settled.bound other (.inl before)
    · exact settled.bound other (.inr (Finset.mem_of_mem_erase inside))
  · intro number notOwned notLoose
    obtain ⟨different, before⟩ := not_or.mp fun inside => notOwned (Multiset.mem_cons.mpr inside)
    exact settled.others number before
      fun inside => notLoose (Finset.mem_erase.mpr ⟨different, inside⟩)

theorem settled_closed (settled : Settled start owned files) (nodup : owned.Nodup) {fd : Fd}
    {answer : CloseAnswer} (inside : fd ∈ owned) :
    Settled start (owned.erase fd) (files.serve (.closed fd answer)) := by
  have bound := settled.bound fd (.inl inside)
  constructor
  · exact fun other still => settled.apart other (Multiset.mem_of_mem_erase still)
  · rintro other (still | held)
    · obtain ⟨different, before⟩ := nodup.mem_erase_iff.mp still
      exact bound_erase (settled.bound other (.inl before)) different bound.number
    · have different : other ≠ fd := fun same => settled.apart fd inside (same ▸ held)
      exact bound_erase (settled.bound other (.inr held)) different bound.number
  · intro number notOwned notLoose
    by_cases same : (number : Fd) = fd
    · exact erased_fresh bound same
    · have before : (number : Fd) ∉ owned :=
        fun within => notOwned ((Multiset.mem_erase_of_ne same).mpr within)
      exact (erased_other bound.number same).trans (settled.others number before notLoose)

theorem settled_released (settled : Settled start owned files) (nodup : owned.Nodup) {fd : Fd}
    (inside : fd ∈ owned) :
    Settled start (owned.erase fd) (files.serve (.released fd)) := by
  constructor
  · intro other still heldAfter
    obtain ⟨different, before⟩ := nodup.mem_erase_iff.mp still
    exact settled.apart other before ((Finset.mem_insert.mp heldAfter).resolve_left different)
  · rintro other (still | held)
    · exact settled.bound other (.inl (Multiset.mem_of_mem_erase still))
    · rcases Finset.mem_insert.mp held with same | before
      · exact settled.bound other (.inl (same ▸ inside))
      · exact settled.bound other (.inr before)
  · intro number notOwned notLoose
    obtain ⟨different, before⟩ := not_or.mp fun held => notLoose (Finset.mem_insert.mpr held)
    exact settled.others number
      (fun within => notOwned ((Multiset.mem_erase_of_ne different).mpr within)) before

theorem settled_serve {event : FdEvent} {journal : List FdEvent}
    (honest : Honest FdEvent.effect (event :: journal))
    (exclusive : Exclusive FdEvent.effect (event :: journal))
    (held : ∀ fd, event = .handedIn fd → fd ∈ files.loose)
    (settled : Settled start (outstanding FdEvent.effect journal) files) :
    Settled start (outstanding FdEvent.effect (event :: journal)) (files.serve event) := by
  have nodup := outstanding_nodup exclusive.2
  cases event with
  | handedIn fd => exact settled_handed_in settled rfl (held fd rfl)
  | closed fd answer => exact settled_closed settled nodup (honest.1 fd rfl)
  | released fd => exact settled_released settled nodup (honest.1 fd rfl)

theorem loose_served {event : FdEvent} {fd : Fd} (held : fd ∈ files.loose)
    (stays : event ≠ .handedIn fd) : fd ∈ (files.serve event).loose := by
  cases event with
  | handedIn other =>
      exact Finset.mem_erase.mpr ⟨fun same => stays (congrArg FdEvent.handedIn same.symm), held⟩
  | closed other answer => exact held
  | released other => exact Finset.mem_insert_of_mem held

theorem settled_serve_all {events journal : List FdEvent}
    (honest : Honest FdEvent.effect (events ++ journal))
    (exclusive : Exclusive FdEvent.effect (events ++ journal)) (distinct : (handed events).Nodup)
    (held : ∀ fd ∈ handed events, fd ∈ files.loose)
    (settled : Settled start (outstanding FdEvent.effect journal) files) :
    Settled start (outstanding FdEvent.effect (events ++ journal)) (files.serveAll events) ∧
      ∀ fd ∈ files.loose, fd ∉ handed events → fd ∈ (files.serveAll events).loose := by
  induction events with
  | nil => exact ⟨settled, fun _ held _ => held⟩
  | cons event events ih =>
      have split : handed (event :: events) = handed [event] ++ handed events :=
        handed_append [event] events
      rw [split] at distinct held
      obtain ⟨before, kept⟩ := ih honest.2 exclusive.2 (List.nodup_append.mp distinct).2.1
        fun fd inside => held fd (List.mem_append_right _ inside)
      constructor
      · apply settled_serve honest exclusive _ before
        rintro fd rfl
        have fresh : fd ∉ handed events := (List.nodup_cons.mp distinct).1
        exact kept fd (held fd List.mem_cons_self) fresh
      · intro fd inside unhanded
        rw [split, List.mem_append, not_or] at unhanded
        apply loose_served (kept fd inside unhanded.2)
        rintro rfl
        exact unhanded.1 (List.mem_singleton_self fd)

end Settled

namespace Process

section Runs

variable {File : Type} {table : FileTable File} {process next : Process File}

/-- The accounts of the descriptors and what they say about the table. -/
structure Sound (table : FileTable File) (process : Process File) : Prop where
  accounted : Accounted process.descriptors
  settled : Settled table (owned process.descriptors) process.files

theorem call_sound {action : Descriptors.Action} {descriptors : Descriptors}
    (held : ∀ fd ∈ handsIn action, fd ∈ process.files.loose) (sound : Sound table process)
    (stepped : Descriptors.step process.descriptors action = some descriptors) :
    Sound table
      { descriptors := descriptors
        files := process.files.serveAll (descriptors.journal.take
          (descriptors.journal.length - process.descriptors.journal.length)) } := by
  have accounted := step_accounted sound.accounted stepped
  refine ⟨accounted, ?_⟩
  obtain ⟨events, journal, hands⟩ := step_appends stepped
  have added : descriptors.journal.take
      (descriptors.journal.length - process.descriptors.journal.length) = events := by
    rw [journal, List.length_append, Nat.add_sub_cancel]
    exact List.take_left
  have before := sound.settled
  have ownedBefore : owned process.descriptors =
      outstanding FdEvent.effect process.descriptors.journal := sound.accounted.balanced
  have ownedAfter : owned descriptors = outstanding FdEvent.effect descriptors.journal :=
    accounted.balanced
  rw [ownedBefore] at before
  rw [← hands] at held
  simp only [added, ownedAfter]
  have honest := accounted.honest
  have exclusive := accounted.exclusive
  rw [journal] at honest exclusive ⊢
  exact (settled_serve_all honest exclusive (hands ▸ hands_in_nodup stepped) held before).1

theorem step_sound {action : Action File} (sound : Sound table process)
    (stepped : step process action = some next) : Sound table next := by
  cases action with
  | openFile file =>
      cases stepped
      exact ⟨sound.accounted, settled_open sound.settled file⟩
  | close fd =>
      simp only [step] at stepped
      split at stepped
      next held =>
          cases stepped
          exact ⟨sound.accounted, settled_close sound.settled held⟩
      next => cases stepped
  | call action =>
      simp only [step] at stepped
      split at stepped
      next held =>
          obtain ⟨descriptors, called, rfl⟩ := Option.map_eq_some_iff.mp stepped
          exact call_sound held sound called
      next => cases stepped

theorem run_sound {actions : List (Action File)}
    (executed : run step (start table) actions = some process) : Sound table process := by
  have initial : Sound table (start table) := ⟨linear_empty, settled_start table⟩
  exact run_invariant (Sound table) (fun _ _ _ => step_sound) initial executed

end Runs

/-- What the descriptors of a process promise about the files that it started with
and those that it opens. -/
structure Keeps {File : Type} (table : FileTable File) (process : Process File) : Prop where
  /-- The number that a descriptor owns refers to the file opened last under it. -/
  refers : ∀ place descriptor fd, process.descriptors.store.lookup place = some descriptor →
    descriptor.fd_ = some fd → ∃ file, process.files.table.slot fd.toNat = some file ∧
      process.files.opened fd.toNat = some file
  /-- The number of the next file is owned by no descriptor. -/
  unowned : (process.files.table.lowest : Fd) ∉ owned process.descriptors
  inherited : ∀ number, table.slot number ≠ none →
    process.files.table.slot number = table.slot number
  /-- With no descriptor left and no number held, what has been opened is closed. -/
  closed : process.descriptors.store = ∅ → process.files.loose = ∅ →
    ∀ number, process.files.table.slot number = table.slot number

/-- In every run of a program that closes and hands in only numbers that it holds. -/
theorem descriptors_keep_files {File : Type} {table : FileTable File} {process : Process File}
    {actions : List (Action File)}
    (executed : run step (start table) actions = some process) : Keeps table process := by
  obtain ⟨accounted, settled⟩ := run_sound executed
  constructor
  · intro place descriptor fd found owns
    have inside : fd ∈ owned process.descriptors := by
      rw [owned, held_split found]
      exact Multiset.mem_add.mpr (.inl (holding_of_fd owns))
    exact (settled.bound fd (.inl inside)).file
  · exact (lowest_unheld settled).1
  · intro number taken
    have unbound : ¬Bound table process.files.table process.files.opened (number : Fd) :=
      fun bound => taken (by simpa using bound.fresh)
    exact settled.others number (fun inside => unbound (settled.bound _ (.inl inside)))
      fun inside => unbound (settled.bound _ (.inr inside))
  · intro empty none number
    have nothing : owned process.descriptors = 0 := by
      rw [owned, empty]
      rfl
    apply settled.others number
    · rw [nothing]
      exact Multiset.notMem_zero _
    · rw [none]
      exact Finset.notMem_empty _

def standardInput : FileTable Nat :=
  (Slots.empty Nat).set 0 0

/-- Number 1 is closed by an assignment that hands in 2, and then is used again. -/
def reusingRun : List (Action Nat) :=
  [.openFile 7, .call (.construct 0 1), .openFile 8, .call (.assign 0 2 (.error 5)), .openFile 9]

theorem descriptors_keep_files_reused_number :
    ∃ process, run step (start standardInput) reusingRun = some process ∧
      process.files.table.slot 1 = some 9 ∧ Keeps standardInput process := by
  have executed : ∃ process, run step (start standardInput) reusingRun = some process ∧
      process.files.table.slot 1 = some 9 := ⟨_, rfl, rfl⟩
  obtain ⟨process, ran, reused⟩ := executed
  exact ⟨process, ran, reused, descriptors_keep_files ran⟩

end Process

end ContestSystem.Unistd.Descriptors
