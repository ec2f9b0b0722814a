import ContestSystem.Execution.ProcessOwnership

/-!
# A child writes to the files of its owner

A value that lacks its result has its child, running or not, and the child writes
to the two files that the value reads once it has been reaped. Values move and are
swapped, but the files go with the pid.
-/

namespace ContestSystem.Execution

open ContestSystem.Lib.Ownership ContestSystem.Lib.Run ContestSystem.Lib.Unordered
  ContestSystem.Unistd

set_option autoImplicit false

/-- The child of a value, unless the value is invalid or has its result. -/
def HasChild (kernel : Kernel) (object : Object) : Prop :=
  object.process.pid_ ≠ 0 → object.process.result_ = none →
    ∃ child, kernel.children.lookup object.process.pid_ = some child ∧
      child.stdout = object.process.out_ ∧ child.stderr = object.process.err_

section OneValue

variable {kernel next : Kernel} {object : Object} {process : AsyncProcess} {control : Control}
  {call : Call} {step : AsyncProcess.Step} {events : List ProcessEvent}

theorem has_child_kept (has : HasChild kernel object)
    (kept : ∀ pid child, kernel.children.lookup pid = some child →
      ∃ same, next.children.lookup pid = some same ∧ same.stdout = child.stdout ∧
        same.stderr = child.stderr) : HasChild next object := by
  intro valid lacks
  obtain ⟨child, found, out, err⟩ := has valid lacks
  obtain ⟨same, still, sameOut, sameErr⟩ := kept _ child found
  exact ⟨same, still, sameOut.trans out, sameErr.trans err⟩

theorem has_child_result (has : process.result_ ≠ none) :
    HasChild kernel { process := process, control := control } :=
  fun _ lacks => absurd lacks has

/-- A step takes no child but the one that its own value was waiting for. -/
structure StepLinked (kernel : Kernel) (process : AsyncProcess) (step : AsyncProcess.Step) :
    Prop where
  value : ∀ object, step.1 = some object → HasChild step.2.2 object
  others : ∀ pid child, kernel.children.lookup pid = some child →
    step.2.2.children.lookup pid = some child ∨
      (pid = process.pid_ ∧ process.pid_ ≠ 0 ∧ process.result_ = none)

theorem kept_linked {after : Object} (has : HasChild kernel after)
    (same : next.children = kernel.children) :
    StepLinked kernel process (some after, events, next) where
  value := by
    intro object known
    cases known
    apply has_child_kept has
    intro pid child found
    exact ⟨child, same ▸ found, rfl, rfl⟩
  others := by
    intro pid child found
    left
    rw [same]
    exact found

theorem gone_linked (same : next.children = kernel.children) :
    StepLinked kernel process (none, events, next) where
  value := nofun
  others := by
    intro pid child found
    left
    rw [same]
    exact found

theorem complete_linked (has : HasChild kernel { process := process, control := control })
    (same : next.children = kernel.children) :
    StepLinked kernel process (AsyncProcess.complete call process next) := by
  cases call with
  | wait => exact kept_linked has same
  | poll => exact kept_linked has same
  | stop => exact kept_linked has same
  | destroy => exact gone_linked same

theorem throw_linked (has : HasChild kernel { process := process, control := control })
    (events : List ProcessEvent) :
    StepLinked kernel process
      ((AsyncProcess.throw call process kernel).1,
        (AsyncProcess.throw call process kernel).2.1 ++ events,
        (AsyncProcess.throw call process kernel).2.2) := by
  cases call with
  | wait => exact kept_linked has rfl
  | poll => exact kept_linked has rfl
  | stop => exact kept_linked has rfl
  | destroy => exact gone_linked rfl

theorem begin_linked (has : HasChild kernel object)
    (called : AsyncProcess.begin call kernel object = some step) :
    StepLinked kernel object.process step := by
  unfold AsyncProcess.begin at called
  split at called
  · split at called
    · split at called
      · cases called
        exact gone_linked rfl
      · cases called
    · split at called
      · cases called
        exact complete_linked has rfl
      · cases called
        exact kept_linked has rfl
      · cases called
        exact kept_linked has rfl
  · cases called

theorem reaped_linked {noHang : Bool} {statLoc : StatLoc} (valid : process.pid_ ≠ 0)
    (lacks : process.result_ = none)
    (called : AsyncProcess.reaped call noHang statLoc kernel process = some step) :
    StepLinked kernel process step := by
  obtain ⟨child, _, answered⟩ := Option.bind_eq_some_iff.mp called
  split at answered
  · cases answered
    constructor
    · intro after same
      cases same
      exact has_child_result nofun
    · intro pid other found
      by_cases own : pid = process.pid_
      · exact .inr ⟨own, valid, lacks⟩
      · left
        rw [Kernel.reap, lookup_erase_eq, if_neg own]
        exact found
  · cases answered

theorem waited_linked {answer : Except Nat StatLoc} (phase : Phase object)
    (has : HasChild kernel object)
    (called : AsyncProcess.waited answer kernel object = some step) :
    StepLinked kernel object.process step := by
  obtain ⟨process, control⟩ := object
  unfold AsyncProcess.waited at called
  split at called
  · rename_i call statLoc at_
    cases at_
    exact reaped_linked phase.1 phase.2 called
  · split at called
    · cases called
      exact kept_linked has rfl
    · cases called
      exact throw_linked has _
  · cases called

theorem polled_linked {answer : Except Nat (Option StatLoc)} (phase : Phase object)
    (has : HasChild kernel object)
    (called : AsyncProcess.polled answer kernel object = some step) :
    StepLinked kernel object.process step := by
  obtain ⟨process, control⟩ := object
  unfold AsyncProcess.polled at called
  split at called
  · rename_i call statLoc at_
    cases at_
    exact reaped_linked phase.1 phase.2 called
  · split at called
    · split at called
      · cases called
        exact kept_linked has rfl
      · cases called
        exact kept_linked has rfl
      · cases called
        exact kept_linked has rfl
      · cases called
        exact kept_linked has rfl
    · cases called
  · cases called
    exact throw_linked has _
  · cases called

theorem killed_linked {answer : Except Nat Unit} (has : HasChild kernel object)
    (called : AsyncProcess.killed answer kernel object = some step) :
    StepLinked kernel object.process step := by
  unfold AsyncProcess.killed at called
  split at called
  · cases called
    exact kept_linked has rfl
  · cases called

theorem collect_linked {answer : Except Nat Unit} (has : HasChild kernel object)
    (called : AsyncProcess.collect answer kernel object = some step) :
    StepLinked kernel object.process step := by
  obtain ⟨process, control⟩ := object
  unfold AsyncProcess.collect at called
  split at called
  · cases called
    simpa only [List.append_nil] using throw_linked has []
  · split at called
    · cases called
    · cases called
      exact kept_linked (has_child_result nofun) rfl
  · cases called
    exact kept_linked has rfl
  · split at called
    · cases called
    · cases called
      exact kept_linked (has_child_result nofun) rfl
  · cases called
    exact complete_linked has rfl
  · cases called

end OneValue

section Programs

variable {system next : System} {action : System.Action}

def Linked (system : System) : Prop :=
  system.processes.All (HasChild system.kernel)

/-- No two values wait for the same child, so a step of one keeps the others'. -/
theorem act_linked {address : Address} {call : Kernel → Object → Option AsyncProcess.Step}
    (kept : ∀ object step, Phase object → HasChild system.kernel object →
      call system.kernel object = some step → StepLinked system.kernel object.process step)
    (owned : Owned system) (linked : Linked system)
    (stepped : system.act address call = some next) : Linked next := by
  obtain ⟨object, step, found, called, kernel, _, slots, _⟩ := System.act_cases stepped
  have stepLinked :=
    kept object step (owned.phases address object found) (linked address object found) called
  intro other value lookedUp
  rw [slots] at lookedUp
  rw [kernel]
  split at lookedUp
  · exact stepLinked.value value lookedUp
  · rename_i different
    intro valid lacks
    obtain ⟨child, known, files⟩ := linked other value lookedUp valid lacks
    rcases stepLinked.others value.process.pid_ child known with still | ⟨same, _, missing⟩
    · exact ⟨child, still, files⟩
    · have one : other = address :=
        owned_distinct_pids owned other address value object lookedUp found lacks missing valid same
      exact absurd one different

theorem construct_linked {address : Address} {pid : Pid} (linked : Linked system)
    (stepped : System.step system (.construct address (.ok pid)) = some next) :
    Linked next := by
  simp only [System.step] at stepped
  split at stepped
  · cases stepped
  · rename_i usable
    obtain ⟨_, unused⟩ := not_or.mp usable
    obtain ⟨processes, constructed, rfl⟩ := Option.map_eq_some_iff.mp stepped
    let child := (AsyncProcess.forked pid system.kernel).child
    have before :
        system.processes.All (HasChild (system.kernel.allocate.addChild pid child)) := by
      intro other value found
      apply has_child_kept (linked other value found)
      intro known other running
      refine ⟨other, ?_, rfl, rfl⟩
      rw [Kernel.addChild, lookup_insert_eq, if_neg]
      · exact running
      · intro same
        exact unused (AList.lookup_isSome.mp (by rw [← same, running]; rfl))
    apply Pool.construct_all _ before constructed
    intro _ _
    refine ⟨child, ?_, rfl, rfl⟩
    exact (lookup_insert_eq _ _ _ _).trans (if_pos rfl)

theorem invalid_has_child (kernel other : Kernel) :
    HasChild other { process := AsyncProcess.invalid kernel } :=
  fun valid _ => absurd rfl valid

theorem swap_linked {first second : Address} (linked : Linked system)
    (stepped : system.swap first second = some next) : Linked next := by
  rcases System.swap_cases stepped with rfl | ⟨_, kernel, changed⟩
  · exact linked
  · unfold Linked
    rw [kernel]
    exact Pool.change_two_all (fun _ _ one two => ⟨two, one⟩) linked changed

theorem child_acts_linked {pid : Pid} {change : Child → Kernel → Kernel}
    (kept : ∀ running, system.kernel.children.lookup pid = some running → ∀ other child,
      system.kernel.children.lookup other = some child →
        ∃ same, (change running system.kernel).children.lookup other = some same ∧
          same.stdout = child.stdout ∧ same.stderr = child.stderr)
    (linked : Linked system) (stepped : system.childActs pid change = some next) :
    Linked next := by
  obtain ⟨running, found, _, rfl⟩ := System.child_acts_cases stepped
  intro address object known
  exact has_child_kept (linked address object known) (kept running found)

theorem step_linked (owned : Owned system) (linked : Linked system)
    (stepped : System.step system action = some next) : Linked next := by
  cases action with
  | construct address answer =>
      cases answer with
      | ok pid => exact construct_linked linked stepped
      | error errno =>
          cases stepped
          exact linked
  | default address =>
      obtain ⟨processes, constructed, rfl⟩ := Option.map_eq_some_iff.mp stepped
      exact Pool.construct_all (invalid_has_child _ _) linked constructed
  | moveConstruct address source =>
      simp only [System.step] at stepped
      split at stepped
      · obtain ⟨processes, constructed, rfl⟩ := Option.map_eq_some_iff.mp stepped
        exact Pool.construct_from_all (fun _ moved => ⟨moved, invalid_has_child _ _⟩) linked
          constructed
      · cases stepped
  | moveAssign target source => exact swap_linked linked stepped
  | swap first second => exact swap_linked linked stepped
  | begin address call => exact act_linked (fun _ _ _ => begin_linked) owned linked stepped
  | waited address answer => exact act_linked (fun _ _ => waited_linked) owned linked stepped
  | polled address answer => exact act_linked (fun _ _ => polled_linked) owned linked stepped
  | killed address answer => exact act_linked (fun _ _ _ => killed_linked) owned linked stepped
  | collect address answer => exact act_linked (fun _ _ _ => collect_linked) owned linked stepped
  | write pid toErr bytes =>
      apply child_acts_linked _ linked stepped
      intro running _ other child found
      exact ⟨child, found, rfl, rfl⟩
  | exit pid statLoc =>
      apply child_acts_linked _ linked stepped
      intro running known other child found
      rw [Kernel.addChild, lookup_insert_eq]
      split
      · rename_i same
        rw [same, known] at found
        cases found
        exact ⟨_, rfl, rfl, rfl⟩
      · exact ⟨child, found, rfl, rfl⟩

theorem run_linked {actions : List System.Action} {finish : System}
    (executed : run System.step System.start actions = some finish) : Linked finish := by
  have nothing : Linked System.start := by
    intro address object found
    rw [show System.start.processes.store = ∅ from rfl, AList.lookup_empty] at found
    cases found
  have both : Owned finish ∧ Linked finish := by
    apply run_invariant (fun system => Owned system ∧ Linked system) _ ⟨start_owned, nothing⟩
      executed
    intro before action after invariant stepped
    exact ⟨step_owned invariant.1 stepped, step_linked invariant.1 invariant.2 stepped⟩
  exact both.2

theorem written_to_owner {actions : List System.Action} {bytes : Bytes} {toErr : Bool}
    {address : Address} {object : Object}
    (executed : run System.step System.start actions = some system)
    (found : system.processes.store.lookup address = some object)
    (valid : object.process.pid_ ≠ 0) (lacks : object.process.result_ = none)
    (stepped : System.step system (.write object.process.pid_ toErr bytes) = some next) :
    let file := if toErr then object.process.err_ else object.process.out_
    next.kernel = system.kernel.append file bytes := by
  obtain ⟨child, known, out, err⟩ := run_linked executed address object found valid lacks
  obtain ⟨writer, same, _, rfl⟩ := System.child_acts_cases stepped
  rw [known] at same
  cases same
  rw [← out, ← err]

end Programs

end ContestSystem.Execution
