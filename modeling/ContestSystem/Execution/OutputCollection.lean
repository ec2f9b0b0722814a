import ContestSystem.Execution.AsyncProcess

/-!
# Results with all their output

`wait` and `poll` store the result before they read the two files into it, and
a later call returns whatever result there is. No child but its own writes to
the files of a value, so what has been read stays what was written. As long as
no step before the last one of the collection fails, except in a destructor,
every result that is returned has its output.
-/

namespace ContestSystem.Execution

open ContestSystem.Lib.Ownership ContestSystem.Lib.Run ContestSystem.Lib.Unordered
  ContestSystem.Unistd

set_option autoImplicit false

def OutComplete (kernel : Kernel) (process : AsyncProcess) : Prop :=
  ∀ result, process.result_ = some result → result.out = kernel.contents process.out_

def ErrComplete (kernel : Kernel) (process : AsyncProcess) : Prop :=
  ∀ result, process.result_ = some result → result.err = kernel.contents process.err_

/-- Every result that was returned holds what the child wrote to its two files. -/
def ResultsComplete (system : System) : Prop :=
  ∀ process, .returned process ∈ system.processes.journal →
    OutComplete system.kernel process ∧ ErrComplete system.kernel process

/-- A collection that fails there leaves no result without output behind. -/
def Control.harmless : Control → Bool
  | .collecting .removeErr _ => true
  | .collecting _ call => call = .destroy
  | _ => true

def CollectionGuard (system : System) : System.Action → Prop
  | .collect address (.error _) =>
      (system.processes.store.lookup address).all fun object => object.control.harmless
  | _ => True

instance (system : System) : ∀ action, Decidable (CollectionGuard system action)
  | .collect address (.error _) =>
      inferInstanceAs (Decidable
        ((system.processes.store.lookup address).all (fun object => object.control.harmless) =
          true))
  | .collect _ (.ok _) | .construct _ _ | .default _ | .moveConstruct _ _ | .moveAssign _ _
  | .swap _ _ | .begin _ _ | .waited _ _ | .polled _ _ | .killed _ _ | .write _ _ _
  | .exit _ _ => .isTrue trivial

section Files

variable {kernel next : Kernel} {process : AsyncProcess}

def Child.Touches (child : Child) (process : AsyncProcess) : Prop :=
  child.stdout = process.out_ ∨ child.stdout = process.err_ ∨
    child.stderr = process.out_ ∨ child.stderr = process.err_

/-- The files of a value exist, and only its own child writes to them, before
the value has its result. -/
structure FilesOwned (kernel : Kernel) (process : AsyncProcess) : Prop where
  out : process.out_ < kernel.fresh
  err : process.err_ < kernel.fresh
  writer : ∀ pid child, kernel.children.lookup pid = some child → child.Touches process →
    process.result_ = none ∧ process.pid_ = pid

/-- How the kernel may change while a value does nothing. -/
structure Evolves (kernel next : Kernel) : Prop where
  fresh : kernel.fresh ≤ next.fresh
  children : ∀ pid child, next.children.lookup pid = some child →
    (∃ old, kernel.children.lookup pid = some old ∧ old.stdout = child.stdout ∧
      old.stderr = child.stderr) ∨
    (kernel.fresh ≤ child.stdout ∧ kernel.fresh ≤ child.stderr ∧
      child.stdout < next.fresh ∧ child.stderr < next.fresh)
  contents : ∀ file, next.contents file = kernel.contents file ∨
    ∃ pid child, kernel.children.lookup pid = some child ∧
      (child.stdout = file ∨ child.stderr = file)

theorem evolves_refl (kernel : Kernel) : Evolves kernel kernel where
  fresh := Nat.le_refl _
  children := fun _ child found => .inl ⟨child, found, rfl, rfl⟩
  contents := fun _ => .inl rfl

theorem evolves_allocate (kernel : Kernel) : Evolves kernel kernel.allocate where
  fresh := Nat.le_add_right _ _
  children := fun _ child found => .inl ⟨child, found, rfl, rfl⟩
  contents := fun _ => .inl rfl

theorem evolves_remove (file : Tempfile) (kernel : Kernel) : Evolves kernel (kernel.remove file)
    where
  fresh := Nat.le_refl _
  children := fun _ child found => .inl ⟨child, found, rfl, rfl⟩
  contents := fun _ => .inl rfl

theorem lookup_reap {pid other : Pid} {child : Child}
    (found : (kernel.reap pid).children.lookup other = some child) :
    other ≠ pid ∧ kernel.children.lookup other = some child := by
  rw [Kernel.reap, lookup_erase_eq] at found
  split at found
  · cases found
  · rename_i different
    exact ⟨different, found⟩

theorem evolves_reap (pid : Pid) (kernel : Kernel) : Evolves kernel (kernel.reap pid) where
  fresh := Nat.le_refl _
  children := fun _ child found => .inl ⟨child, (lookup_reap found).2, rfl, rfl⟩
  contents := fun _ => .inl rfl

theorem evolves_append {pid : Pid} {child : Child} {file : Tempfile} (bytes : Bytes)
    (found : kernel.children.lookup pid = some child)
    (writes : child.stdout = file ∨ child.stderr = file) :
    Evolves kernel (kernel.append file bytes) where
  fresh := Nat.le_refl _
  children := fun _ child found => .inl ⟨child, found, rfl, rfl⟩
  contents := by
    intro other
    by_cases same : other = file
    · subst same
      exact .inr ⟨pid, child, found, writes⟩
    · exact .inl (Function.update_of_ne same _ _)

theorem evolves_exit {pid : Pid} {child : Child} (status : Option StatLoc)
    (found : kernel.children.lookup pid = some child) :
    Evolves kernel (kernel.addChild pid { child with status := status }) where
  fresh := Nat.le_refl _
  children := by
    intro other changed lookedUp
    rw [Kernel.addChild, lookup_insert_eq] at lookedUp
    split at lookedUp
    · rename_i same
      cases lookedUp
      exact .inl ⟨child, same ▸ found, rfl, rfl⟩
    · exact .inl ⟨changed, lookedUp, rfl, rfl⟩
  contents := fun _ => .inl rfl

theorem evolves_fork (pid : Pid) (kernel : Kernel) :
    Evolves kernel (kernel.allocate.addChild pid (AsyncProcess.forked pid kernel).child) where
  fresh := Nat.le_add_right _ _
  children := by
    intro other child lookedUp
    rw [Kernel.addChild, lookup_insert_eq] at lookedUp
    split at lookedUp
    · cases lookedUp
      refine .inr ⟨Nat.le_add_right _ _, Nat.le_add_right _ _, ?_, ?_⟩
      · exact Nat.add_lt_add_left (show 1 < 3 by decide) kernel.fresh
      · exact Nat.add_lt_add_left (show 2 < 3 by decide) kernel.fresh
    · exact .inl ⟨child, lookedUp, rfl, rfl⟩
  contents := fun _ => .inl rfl

theorem files_owned_evolves (evolves : Evolves kernel next) (owned : FilesOwned kernel process) :
    FilesOwned next process where
  out := Nat.lt_of_lt_of_le owned.out evolves.fresh
  err := Nat.lt_of_lt_of_le owned.err evolves.fresh
  writer := by
    intro pid child found touches
    rcases evolves.children pid child found with
      ⟨old, before, sameOut, sameErr⟩ | ⟨newOut, newErr, _⟩
    · apply owned.writer pid old before
      rw [Child.Touches, sameOut, sameErr]
      exact touches
    · rcases touches with same | same | same | same
      · exact absurd owned.out (Nat.not_lt.mpr (same ▸ newOut))
      · exact absurd owned.err (Nat.not_lt.mpr (same ▸ newOut))
      · exact absurd owned.out (Nat.not_lt.mpr (same ▸ newErr))
      · exact absurd owned.err (Nat.not_lt.mpr (same ▸ newErr))

theorem contents_evolves (evolves : Evolves kernel next) (owned : FilesOwned kernel process)
    {file : Tempfile} (own : file = process.out_ ∨ file = process.err_)
    (has : process.result_ ≠ none) : next.contents file = kernel.contents file := by
  rcases evolves.contents file with same | ⟨pid, child, found, writes⟩
  · exact same
  · have touches : child.Touches process := by
      unfold Child.Touches
      rcases writes with out | err
      · rw [out]
        rcases own with same | same
        · exact .inl same
        · exact .inr (.inl same)
      · rw [err]
        rcases own with same | same
        · exact .inr (.inr (.inl same))
        · exact .inr (.inr (.inr same))
    exact absurd (owned.writer pid child found touches).1 has

theorem out_complete_evolves (evolves : Evolves kernel next) (owned : FilesOwned kernel process)
    (complete : OutComplete kernel process) : OutComplete next process := by
  intro result has
  rw [contents_evolves evolves owned (.inl rfl) (AsyncProcess.result_ne_none has)]
  exact complete result has

theorem err_complete_evolves (evolves : Evolves kernel next) (owned : FilesOwned kernel process)
    (complete : ErrComplete kernel process) : ErrComplete next process := by
  intro result has
  rw [contents_evolves evolves owned (.inr rfl) (AsyncProcess.result_ne_none has)]
  exact complete result has

end Files

section OneValue

variable {kernel next : Kernel} {object : Object} {process : AsyncProcess} {control : Control}
  {call : Call}

/-- How much of the output a result has, by the step that is next. -/
def Progress (kernel : Kernel) (object : Object) : Prop :=
  match object.control with
  | .collecting .readOut _ =>
      ∀ result, object.process.result_ = some result → result.out = [] ∧ result.err = []
  | .collecting .removeOut _ | .collecting .readErr _ =>
      OutComplete kernel object.process ∧
        ∀ result, object.process.result_ = some result → result.err = []
  | _ => OutComplete kernel object.process ∧ ErrComplete kernel object.process

structure Collecting (kernel : Kernel) (object : Object) : Prop where
  files : FilesOwned kernel object.process
  progress : Progress kernel object
  valid : object.control ≠ .idle → object.process.pid_ ≠ 0

theorem complete_evolves (evolves : Evolves kernel next) (owned : FilesOwned kernel process)
    (complete : OutComplete kernel process ∧ ErrComplete kernel process) :
    OutComplete next process ∧ ErrComplete next process :=
  ⟨out_complete_evolves evolves owned complete.1, err_complete_evolves evolves owned complete.2⟩

theorem progress_evolves (evolves : Evolves kernel next)
    (owned : FilesOwned kernel object.process) (progress : Progress kernel object) :
    Progress next object := by
  obtain ⟨process, control⟩ := object
  cases control with
  | collecting stage call =>
      cases stage with
      | readOut => exact progress
      | removeOut => exact ⟨out_complete_evolves evolves owned progress.1, progress.2⟩
      | readErr => exact ⟨out_complete_evolves evolves owned progress.1, progress.2⟩
      | removeErr => exact complete_evolves evolves owned progress
  | idle => exact complete_evolves evolves owned progress
  | waiting call => exact complete_evolves evolves owned progress
  | polling call => exact complete_evolves evolves owned progress
  | killing call => exact complete_evolves evolves owned progress

theorem collecting_evolves (evolves : Evolves kernel next) (collecting : Collecting kernel object) :
    Collecting next object where
  files := files_owned_evolves evolves collecting.files
  progress := progress_evolves evolves collecting.files collecting.progress
  valid := collecting.valid

/-- What has been returned stays complete. -/
structure Settled (kernel : Kernel) (process : AsyncProcess) : Prop where
  files : FilesOwned kernel process
  out : OutComplete kernel process
  err : ErrComplete kernel process

theorem settled_evolves (evolves : Evolves kernel next) (settled : Settled kernel process) :
    Settled next process where
  files := files_owned_evolves evolves settled.files
  out := out_complete_evolves evolves settled.files settled.out
  err := err_complete_evolves evolves settled.files settled.err

theorem settled_idle (settled : Settled kernel process) :
    Collecting kernel { process := process } :=
  ⟨settled.files, ⟨settled.out, settled.err⟩, fun busy => absurd rfl busy⟩

/-- A step of one value with what it returns. -/
structure StepCollecting (kernel : Kernel) (step : AsyncProcess.Step) : Prop where
  evolves : Evolves kernel step.2.2
  value : ∀ object, step.1 = some object → Collecting step.2.2 object
  returned : ∀ process, .returned process ∈ step.2.1 → Settled step.2.2 process

theorem quiet_step {events : List ProcessEvent} (evolves : Evolves kernel next)
    (value : Collecting next object) (quiet : ∀ process, .returned process ∉ events) :
    StepCollecting kernel (some object, events, next) where
  evolves := evolves
  value := by
    intro other same
    cases same
    exact value
  returned := fun process member => absurd member (quiet process)

theorem gone_step {events : List ProcessEvent} (evolves : Evolves kernel next)
    (quiet : ∀ process, .returned process ∉ events) :
    StepCollecting kernel (none, events, next) where
  evolves := evolves
  value := nofun
  returned := fun process member => absurd member (quiet process)

theorem returning_step {events : List ProcessEvent} (settled : Settled kernel process)
    (only : ∀ other, .returned other ∈ events → other = process) :
    StepCollecting kernel (some { process := process }, events, kernel) where
  evolves := evolves_refl kernel
  value := by
    intro other same
    cases same
    exact settled_idle settled
  returned := fun other member => only other member ▸ settled

theorem complete_kernel (call : Call) (process : AsyncProcess) (kernel : Kernel) :
    (AsyncProcess.complete call process kernel).2.2 = kernel := by
  cases call <;> rfl

theorem complete_collecting (settled : Settled kernel process) :
    StepCollecting kernel (AsyncProcess.complete call process kernel) := by
  have returning : StepCollecting kernel
      (some { process := process }, [.returned process], kernel) := by
    apply returning_step settled
    intro other member
    cases List.mem_singleton.mp member
    rfl
  cases call with
  | wait => exact returning
  | poll => exact returning
  | stop => exact quiet_step (evolves_refl kernel) (settled_idle settled) nofun
  | destroy => exact gone_step (evolves_refl kernel) nofun

theorem throw_collecting (settled : call ≠ .destroy → Settled kernel process) :
    StepCollecting kernel (AsyncProcess.throw call process kernel) := by
  cases call with
  | wait => exact quiet_step (evolves_refl kernel) (settled_idle (settled nofun)) nofun
  | poll => exact quiet_step (evolves_refl kernel) (settled_idle (settled nofun)) nofun
  | stop => exact quiet_step (evolves_refl kernel) (settled_idle (settled nofun)) nofun
  | destroy => exact gone_step (evolves_refl kernel) nofun

variable {step : AsyncProcess.Step}

theorem StepCollecting.after_events {events : List ProcessEvent}
    (stepped : StepCollecting kernel step) (quiet : ∀ process, .returned process ∉ events) :
    StepCollecting kernel (step.1, step.2.1 ++ events, step.2.2) where
  evolves := stepped.evolves
  value := stepped.value
  returned := by
    intro process member
    rcases List.mem_append.mp member with own | earlier
    · exact stepped.returned process own
    · exact absurd earlier (quiet process)

theorem begin_collecting (collecting : Collecting kernel object)
    (called : AsyncProcess.begin call kernel object = some step) :
    StepCollecting kernel step := by
  obtain ⟨process, control⟩ := object
  unfold AsyncProcess.begin at called
  split at called
  · rename_i idle
    cases idle
    have settled : Settled kernel process :=
      ⟨collecting.files, collecting.progress.1, collecting.progress.2⟩
    split at called
    · split at called
      · cases called
        exact gone_step (evolves_refl kernel) nofun
      · cases called
    · rename_i valid
      split at called
      · cases called
        exact complete_collecting settled
      · cases called
        exact quiet_step (evolves_refl kernel)
          ⟨settled.files, ⟨settled.out, settled.err⟩, fun _ => valid⟩ nofun
      · cases called
        exact quiet_step (evolves_refl kernel)
          ⟨settled.files, ⟨settled.out, settled.err⟩, fun _ => valid⟩ nofun
  · cases called

/-- The child that is reaped was the only one to write to the files. -/
theorem reaped_collecting {noHang : Bool} {statLoc : StatLoc}
    (files : FilesOwned kernel process) (valid : process.pid_ ≠ 0)
    (called : AsyncProcess.reaped call noHang statLoc kernel process = some step) :
    StepCollecting kernel step := by
  obtain ⟨child, _, answered⟩ := Option.bind_eq_some_iff.mp called
  split at answered
  · cases answered
    apply quiet_step (evolves_reap process.pid_ kernel)
    · refine ⟨⟨files.out, files.err, ?_⟩, ?_, fun _ => valid⟩
      · intro pid other found touches
        obtain ⟨different, before⟩ := lookup_reap found
        exact absurd (files.writer pid other before touches).2.symm different
      · intro result has
        cases has
        exact ⟨rfl, rfl⟩
    · simp
  · cases answered

theorem waited_collecting {answer : Except Nat StatLoc} (collecting : Collecting kernel object)
    (called : AsyncProcess.waited answer kernel object = some step) :
    StepCollecting kernel step := by
  obtain ⟨process, control⟩ := object
  unfold AsyncProcess.waited at called
  split at called
  · rename_i call statLoc at_
    cases at_
    exact reaped_collecting collecting.files (collecting.valid nofun) called
  · rename_i call errno at_
    cases at_
    have settled : Settled kernel process :=
      ⟨collecting.files, collecting.progress.1, collecting.progress.2⟩
    split at called
    · cases called
      exact quiet_step (evolves_refl kernel) collecting (by simp)
    · cases called
      exact (throw_collecting fun _ => settled).after_events (by simp)
  · cases called

theorem polled_collecting {answer : Except Nat (Option StatLoc)}
    (collecting : Collecting kernel object)
    (called : AsyncProcess.polled answer kernel object = some step) :
    StepCollecting kernel step := by
  obtain ⟨process, control⟩ := object
  unfold AsyncProcess.polled at called
  split at called
  · rename_i call statLoc at_
    cases at_
    exact reaped_collecting collecting.files (collecting.valid nofun) called
  · rename_i call at_
    cases at_
    have settled : Settled kernel process :=
      ⟨collecting.files, collecting.progress.1, collecting.progress.2⟩
    have killing : Collecting kernel { process := process, control := .killing call } :=
      ⟨settled.files, ⟨settled.out, settled.err⟩, fun _ => collecting.valid nofun⟩
    split at called
    · split at called
      · cases called
        exact returning_step settled (by simp)
      · cases called
        exact returning_step settled (by simp)
      · cases called
        exact quiet_step (evolves_refl kernel) killing (by simp)
      · cases called
        exact quiet_step (evolves_refl kernel) killing (by simp)
    · cases called
  · rename_i call errno at_
    cases at_
    have settled : Settled kernel process :=
      ⟨collecting.files, collecting.progress.1, collecting.progress.2⟩
    cases called
    exact (throw_collecting fun _ => settled).after_events (by simp)
  · cases called

theorem killed_collecting {answer : Except Nat Unit} (collecting : Collecting kernel object)
    (called : AsyncProcess.killed answer kernel object = some step) :
    StepCollecting kernel step := by
  obtain ⟨process, control⟩ := object
  unfold AsyncProcess.killed at called
  split at called
  · rename_i call at_
    cases at_
    cases called
    have waiting : Collecting kernel { process := process, control := .waiting call } :=
      ⟨collecting.files, collecting.progress, fun _ => collecting.valid nofun⟩
    exact quiet_step (evolves_refl kernel) waiting (by simp)
  · cases called

theorem files_owned_result {result : Result} (other : Result) (files : FilesOwned kernel process)
    (has : process.result_ = some result) :
    FilesOwned kernel { process with result_ := some other } where
  out := files.out
  err := files.err
  writer := by
    intro pid child found touches
    have lacks := (files.writer pid child found touches).1
    rw [has] at lacks
    cases lacks

theorem stored_collecting {stage after : Stage} {result read : Result}
    (collecting : Collecting kernel { process := process, control := .collecting stage call })
    (has : process.result_ = some result)
    (progress : Progress kernel
      { process := { process with result_ := some read }, control := .collecting after call }) :
    StepCollecting kernel
      (some
        { process := { process with result_ := some read }
          control := .collecting after call }, [], kernel) := by
  have files := files_owned_result read collecting.files has
  exact quiet_step (evolves_refl kernel) ⟨files, progress, fun _ => collecting.valid nofun⟩ nofun

theorem out_removed_collecting
    (collecting : Collecting kernel { process := process, control := .collecting .removeOut call }) :
    StepCollecting kernel
      (some { process := process, control := .collecting .readErr call }, [],
        kernel.remove process.out_) := by
  have evolves := evolves_remove process.out_ kernel
  have later : Collecting kernel { process := process, control := .collecting .readErr call } :=
    ⟨collecting.files, collecting.progress, fun _ => collecting.valid nofun⟩
  exact quiet_step evolves (collecting_evolves evolves later) nofun

theorem err_removed_collecting
    (collecting : Collecting kernel { process := process, control := .collecting .removeErr call }) :
    StepCollecting kernel
      (AsyncProcess.complete call process (kernel.remove process.err_)) := by
  have evolves := evolves_remove process.err_ kernel
  have settled : Settled kernel process :=
    ⟨collecting.files, collecting.progress.1, collecting.progress.2⟩
  have done : StepCollecting (kernel.remove process.err_)
      (AsyncProcess.complete call process (kernel.remove process.err_)) :=
    complete_collecting (settled_evolves evolves settled)
  refine ⟨?_, done.value, done.returned⟩
  rw [complete_kernel]
  exact evolves

theorem harmless_settled {stage : Stage}
    (collecting : Collecting kernel { process := process, control := .collecting stage call })
    (harmless : (Control.collecting stage call).harmless = true) (kept : call ≠ .destroy) :
    Settled kernel process := by
  have last : stage = .removeErr := by
    cases stage <;> simp [Control.harmless, kept] at harmless ⊢
  subst last
  exact ⟨collecting.files, collecting.progress.1, collecting.progress.2⟩

theorem collect_collecting {answer : Except Nat Unit} (collecting : Collecting kernel object)
    (harmless : answer = .ok () ∨ object.control.harmless = true)
    (called : AsyncProcess.collect answer kernel object = some step) :
    StepCollecting kernel step := by
  obtain ⟨process, control⟩ := object
  unfold AsyncProcess.collect at called
  split at called
  · rename_i stage call result error at_ has
    cases called
    cases at_
    exact throw_collecting (harmless_settled collecting (harmless.resolve_left nofun))
  · rename_i call result at_ has
    cases at_
    split at called
    · cases called
    · cases called
      apply stored_collecting collecting has
      constructor
      · intro read same
        cases same
        rfl
      · intro read same
        cases same
        exact (collecting.progress result has).2
  · rename_i call result at_ has
    cases at_
    cases called
    exact out_removed_collecting collecting
  · rename_i call result at_ has
    cases at_
    split at called
    · cases called
    · cases called
      apply stored_collecting collecting has
      constructor
      · intro read same
        cases same
        exact collecting.progress.1 result has
      · intro read same
        cases same
        rfl
  · rename_i call result at_ has
    cases at_
    cases called
    exact err_removed_collecting collecting
  · cases called

end OneValue

section Programs

variable {system next : System} {action : System.Action}

structure Collected (system : System) : Prop where
  children : ∀ pid child, system.kernel.children.lookup pid = some child →
    child.stdout < system.kernel.fresh ∧ child.stderr < system.kernel.fresh
  values : ∀ address object, system.processes.store.lookup address = some object →
    Collecting system.kernel object
  returned : ∀ process, .returned process ∈ system.processes.journal →
    Settled system.kernel process

theorem collected_evolves (collected : Collected system)
    (evolves : Evolves system.kernel next.kernel)
    (values : next.processes.All fun object => Collecting next.kernel object ∨
      ∃ old, system.processes.store.lookup old = some object)
    (returned : ∀ process, .returned process ∈ next.processes.journal →
      Settled next.kernel process ∨ .returned process ∈ system.processes.journal) :
    Collected next where
  children := by
    intro pid child found
    rcases evolves.children pid child found with ⟨old, before, sameOut, sameErr⟩ | fresh
    · rw [← sameOut, ← sameErr]
      have bound := collected.children pid old before
      exact ⟨Nat.lt_of_lt_of_le bound.1 evolves.fresh, Nat.lt_of_lt_of_le bound.2 evolves.fresh⟩
    · exact fresh.2.2
  values := by
    intro address object found
    rcases values address object found with new | ⟨old, before⟩
    · exact new
    · exact collecting_evolves evolves (collected.values old object before)
  returned := by
    intro process member
    rcases returned process member with new | before
    · exact new
    · exact settled_evolves evolves (collected.returned process before)

theorem values_before (Good : Object → Prop) : system.processes.All fun object =>
    Good object ∨ ∃ old, system.processes.store.lookup old = some object :=
  fun address _ found => .inr ⟨address, found⟩

theorem new_files_untouched (collected : Collected system) {pid : Pid} {child : Child}
    (found : system.kernel.children.lookup pid = some child) :
    ¬child.Touches (AsyncProcess.invalid system.kernel) := by
  intro touches
  obtain ⟨out, err⟩ := collected.children pid child found
  have above : ∀ offset, ¬system.kernel.fresh + offset < system.kernel.fresh :=
    fun offset => Nat.not_lt.mpr (Nat.le_add_right _ offset)
  rcases touches with same | same | same | same
  · rw [same] at out
    exact above 1 out
  · rw [same] at out
    exact above 2 out
  · rw [same] at err
    exact above 1 err
  · rw [same] at err
    exact above 2 err

theorem invalid_settled (collected : Collected system) :
    Settled system.kernel.allocate (AsyncProcess.invalid system.kernel) where
  files :=
    { out := Nat.add_lt_add_left (show 1 < 3 by decide) system.kernel.fresh
      err := Nat.add_lt_add_left (show 2 < 3 by decide) system.kernel.fresh
      writer := fun _ _ found touches => absurd touches (new_files_untouched collected found) }
  out := nofun
  err := nofun

theorem act_collected {address : Address} {call : Kernel → Object → Option AsyncProcess.Step}
    (kept : ∀ object step, system.processes.store.lookup address = some object →
      Collecting system.kernel object → call system.kernel object = some step →
      StepCollecting system.kernel step)
    (collected : Collected system) (stepped : system.act address call = some next) :
    Collected next := by
  obtain ⟨object, step, found, called, kernel, journal, slots, _⟩ := System.act_cases stepped
  have stepCollecting := kept object step found (collected.values address object found) called
  apply collected_evolves collected
  · rw [kernel]
    exact stepCollecting.evolves
  · intro other value lookedUp
    rw [slots] at lookedUp
    split at lookedUp
    · left
      rw [kernel]
      exact stepCollecting.value value lookedUp
    · exact .inr ⟨other, lookedUp⟩
  · intro process member
    rw [journal] at member
    rcases List.mem_append.mp member with new | old
    · left
      rw [kernel]
      exact stepCollecting.returned process new
    · exact .inr old

theorem construct_collected {address : Address} {pid : Pid} (collected : Collected system)
    (stepped : System.step system (.construct address (.ok pid)) = some next) :
    Collected next := by
  simp only [System.step] at stepped
  split at stepped
  · cases stepped
  · obtain ⟨processes, constructed, rfl⟩ := Option.map_eq_some_iff.mp stepped
    obtain ⟨_, journal, _⟩ := Pool.construct_cases constructed
    have settled := invalid_settled collected
    apply collected_evolves collected (evolves_fork pid system.kernel)
    · apply Pool.construct_all _ (values_before _) constructed
      left
      refine ⟨⟨settled.files.out, settled.files.err, ?_⟩, ⟨nofun, nofun⟩,
        fun busy => absurd rfl busy⟩
      intro writer child found touches
      rw [Kernel.addChild, lookup_insert_eq] at found
      split at found
      · rename_i same
        exact ⟨rfl, same.symm⟩
      · exact absurd touches (new_files_untouched collected found)
    · intro process member
      rw [journal] at member
      rcases List.mem_append.mp member with new | old
      · cases List.mem_singleton.mp new
      · exact .inr old

theorem default_collected {address : Address} (collected : Collected system)
    (stepped : System.step system (.default address) = some next) : Collected next := by
  obtain ⟨processes, constructed, rfl⟩ := Option.map_eq_some_iff.mp stepped
  obtain ⟨_, journal, _⟩ := Pool.construct_cases constructed
  apply collected_evolves collected (evolves_allocate system.kernel)
  · have invalid := settled_idle (invalid_settled collected)
    exact Pool.construct_all (.inl invalid) (values_before _) constructed
  · intro process member
    rw [journal] at member
    exact .inr member

theorem move_construct_collected {address source : Address} (collected : Collected system)
    (stepped : System.step system (.moveConstruct address source) = some next) :
    Collected next := by
  simp only [System.step] at stepped
  split at stepped
  · obtain ⟨processes, constructed, rfl⟩ := Option.map_eq_some_iff.mp stepped
    obtain ⟨_, _, _, _, journal, _⟩ := Pool.construct_from_cases constructed
    apply collected_evolves collected (evolves_allocate system.kernel)
    · have invalid := settled_idle (invalid_settled collected)
      exact Pool.construct_from_all (fun _ moved => ⟨moved, .inl invalid⟩) (values_before _)
        constructed
    · intro process member
      rw [journal] at member
      exact .inr member
  · cases stepped

theorem swap_collected {first second : Address} (collected : Collected system)
    (stepped : system.swap first second = some next) : Collected next := by
  rcases System.swap_cases stepped with rfl | ⟨different, kernel, changed⟩
  · exact collected
  · obtain ⟨_, _, _, _, journal, _⟩ := Pool.change_two_cases changed
    apply collected_evolves collected
    · rw [kernel]
      exact evolves_refl system.kernel
    · exact Pool.change_two_all (fun _ _ one two => ⟨two, one⟩) (values_before _) changed
    · intro process member
      rw [journal] at member
      exact .inr member

theorem child_acts_collected {pid : Pid} {change : Child → Kernel → Kernel}
    (evolves : ∀ child, system.kernel.children.lookup pid = some child →
      Evolves system.kernel (change child system.kernel))
    (collected : Collected system) (stepped : system.childActs pid change = some next) :
    Collected next := by
  obtain ⟨child, found, _, rfl⟩ := System.child_acts_cases stepped
  exact collected_evolves collected (evolves child found)
    (values_before _) (fun process member => .inr member)

theorem collect_step_collected {address : Address} {answer : Except Nat Unit}
    (guard : CollectionGuard system (.collect address answer)) (collected : Collected system)
    (stepped : system.act address (AsyncProcess.collect answer) = some next) :
    Collected next := by
  apply act_collected _ collected stepped
  intro object step found collecting called
  apply collect_collecting collecting _ called
  cases answer with
  | ok done => exact .inl rfl
  | error errno =>
      right
      simpa only [CollectionGuard, found, Option.all_some] using guard

theorem step_collected (collected : Collected system) (guard : CollectionGuard system action)
    (stepped : System.step system action = some next) : Collected next := by
  cases action with
  | construct address answer =>
      cases answer with
      | ok pid => exact construct_collected collected stepped
      | error errno =>
          cases stepped
          exact collected_evolves collected (evolves_allocate system.kernel)
            (values_before _) (fun process member => .inr member)
  | default address => exact default_collected collected stepped
  | moveConstruct address source => exact move_construct_collected collected stepped
  | moveAssign target source => exact swap_collected collected stepped
  | swap first second => exact swap_collected collected stepped
  | begin address call =>
      exact act_collected (fun _ _ _ => begin_collecting) collected stepped
  | waited address answer =>
      exact act_collected (fun _ _ _ => waited_collecting) collected stepped
  | polled address answer =>
      exact act_collected (fun _ _ _ => polled_collecting) collected stepped
  | killed address answer =>
      exact act_collected (fun _ _ _ => killed_collecting) collected stepped
  | collect address answer => exact collect_step_collected guard collected stepped
  | write pid toErr bytes =>
      apply child_acts_collected _ collected stepped
      intro child found
      apply evolves_append bytes found
      cases toErr with
      | false => exact .inl rfl
      | true => exact .inr rfl
  | exit pid statLoc =>
      exact child_acts_collected (fun child found => evolves_exit (some statLoc) found) collected
        stepped

theorem start_collected : Collected System.start where
  children := by
    intro pid child found
    rw [show System.start.kernel.children = ∅ from rfl, AList.lookup_empty] at found
    cases found
  values := by
    intro address object found
    rw [show System.start.processes.store = ∅ from rfl, AList.lookup_empty] at found
    cases found
  returned := nofun

/-- Every program in which a collection that is not a destructor's fails, if at
all, only in removing the second file. -/
theorem results_complete {actions : List System.Action} {finish : System}
    (guarded : Guarded System.step CollectionGuard System.start actions)
    (executed : run System.step System.start actions = some finish) :
    ResultsComplete finish := by
  have collected : Collected finish :=
    guarded_invariant Collected (fun _ _ _ collected guard => step_collected collected guard)
      start_collected guarded executed
  intro process member
  have settled := collected.returned process member
  exact ⟨settled.out, settled.err⟩

/-- Both files are read; removing the second one fails, and the result is returned
by the next call. -/
theorem results_complete_second_removal :
    let actions : List System.Action :=
      [.construct 0 (.ok 10), .write 10 false [104], .begin 0 .poll, .polled 0 (.ok none),
        .write 10 true [33], .write 10 false [105], .begin 0 .wait, .exit 10 256,
        .waited 0 (.ok 256), .collect 0 (.ok ()), .collect 0 (.ok ()), .collect 0 (.ok ()),
        .collect 0 (.error 13), .begin 0 .poll]
    let process : AsyncProcess :=
      { in_ := 0, out_ := 1, err_ := 2, pid_ := 10
        result_ := some { exitStatus := some 1, out := [104, 105], err := [33] } }
    let finish : System :=
      { processes :=
          { store := (∅ : Store Address Object).insert 0 { process := process }
            journal := [.returned process, .waited 10 false (.ok (some 256)),
              .returned { in_ := 0, out_ := 1, err_ := 2, pid_ := 10 },
              .waited 10 true (.ok none), .forked 10] }
        kernel := (((Kernel.start.allocate.append 1 [104]).append 2 [33]).append 1 [105]).remove 1 }
    run System.step System.start actions = some finish ∧ ResultsComplete finish := by
  intro actions process finish
  have executed : run System.step System.start actions = some finish := by rfl
  exact ⟨executed, results_complete (by decide) executed⟩

/-- The first file cannot be read, and the next `wait` returns no output. -/
theorem unread_output_returned :
    let actions : List System.Action :=
      [.construct 0 (.ok 10), .write 10 false [104, 105], .begin 0 .wait, .exit 10 0,
        .waited 0 (.ok 0), .collect 0 (.error 5), .begin 0 .wait]
    ∃ finish, run System.step System.start actions = some finish ∧ ¬ResultsComplete finish := by
  intro actions
  let process : AsyncProcess :=
    { in_ := 0, out_ := 1, err_ := 2, pid_ := 10, result_ := some { exitStatus := some 0 } }
  let finish : System :=
    { processes :=
        { store := (∅ : Store Address Object).insert 0 { process := process }
          journal := [.returned process, .waited 10 false (.ok (some 0)), .forked 10] }
      kernel := Kernel.start.allocate.append 1 [104, 105] }
  refine ⟨finish, by rfl, ?_⟩
  intro complete
  have written := (complete process List.mem_cons_self).1 _ rfl
  revert written
  decide

theorem progress_err {kernel : Kernel} {process : AsyncProcess} {stage : Stage} {call : Call}
    {result : Result} (early : stage ≠ .removeErr) (has : process.result_ = some result)
    (progress : Progress kernel { process := process, control := .collecting stage call }) :
    result.err = [] := by
  cases stage with
  | readOut => exact (progress result has).2
  | removeOut => exact progress.2 result has
  | readErr => exact progress.2 result has
  | removeErr => exact absurd rfl early

theorem collect_error_cases {kernel : Kernel} {process : AsyncProcess} {control : Control}
    {errno : Nat} {step : AsyncProcess.Step}
    (called : AsyncProcess.collect (.error errno) kernel { process := process, control := control } =
      some step) :
    ∃ stage call result, control = .collecting stage call ∧ process.result_ = some result ∧
      step = AsyncProcess.throw call process kernel := by
  unfold AsyncProcess.collect at called
  cases control with
  | collecting stage call =>
      cases has : process.result_ with
      | none =>
          rw [has] at called
          cases stage <;> cases called
      | some result =>
          rw [has] at called
          cases called
          exact ⟨stage, call, result, rfl, rfl, rfl⟩
  | idle => cases called
  | waiting call => cases called
  | polling call => cases called
  | killing call => cases called

/-- After any other failure the next `wait` returns, with no standard error. -/
theorem failed_collection_returned {address : Address} {errno : Nat}
    (collected : Collected system)
    (unguarded : ¬CollectionGuard system (.collect address (.error errno)))
    (stepped : System.step system (.collect address (.error errno)) = some next) :
    ∃ after process result, System.step next (.begin address .wait) = some after ∧
      after.processes.journal = .returned process :: next.processes.journal ∧
      process.result_ = some result ∧ result.err = [] := by
  obtain ⟨⟨process, control⟩, step, found, called, kernel, journal, slots, _⟩ :=
    System.act_cases stepped
  have collecting := collected.values address _ found
  rw [CollectionGuard, found, Option.all_some] at unguarded
  obtain ⟨stage, call, result, rfl, has, rfl⟩ := collect_error_cases called
  have early : stage ≠ .removeErr := by
    intro last
    subst last
    exact unguarded rfl
  have kept : AsyncProcess.throw call process system.kernel =
      (some { process := process }, [], system.kernel) := by
    cases call with
    | destroy => cases stage <;> exact absurd rfl unguarded
    | wait => rfl
    | poll => rfl
    | stop => rfl
  have lookedUp := slots address
  rw [if_pos rfl, kept] at lookedUp
  have begun : AsyncProcess.begin .wait next.kernel { process := process } =
      some (AsyncProcess.complete .wait process next.kernel) := by
    unfold AsyncProcess.begin
    rw [if_pos rfl, if_neg (collecting.valid nofun), has]
  let after : System :=
    { processes :=
        { store := next.processes.store.insert address { process := process }
          journal := .returned process :: next.processes.journal }
      kernel := next.kernel }
  refine ⟨after, process, result, ?_, rfl, has, progress_err early has collecting.progress⟩
  rw [System.step, System.act, lookedUp, Option.bind_some, begun]
  rfl

end Programs

end ContestSystem.Execution
