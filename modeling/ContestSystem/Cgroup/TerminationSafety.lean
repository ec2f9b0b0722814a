import ContestSystem.Cgroup.Termination

/-!
# What terminate guarantees

`Move` says once what a step can do; every invariant is then a case analysis of
it. `Solid` holds of every run: from the end of the freeze to the thaw the
tasks of the freezer's member group are frozen. `Covered` says that no process
of the group has been missed; it holds of every run in which no process forks
out of sight of the listing, and of a single group there is no other run.
-/

namespace ContestSystem.Cgroup.Termination

open ContestSystem.Lib.Run

set_option autoImplicit false

inductive Phase
  | freezing
  | collecting
  /-- From the end of the kill loop on, with what it has counted. -/
  | terminated (count : Nat)
  /-- An exception has been thrown. -/
  | failed

namespace Control

def phase : Control → Phase
  | writeFrozen => .freezing
  | readFrozen => .freezing
  | checkFrozen => .freezing
  | listing _ _ => .collecting
  | killing _ _ => .collecting
  | writeThawed (.ok count) => .terminated count
  | readThawed (.ok count) => .terminated count
  | waiting count _ _ => .terminated count
  | returned count => .terminated count
  | writeThawed (.error _) => .failed
  | readThawed (.error _) => .failed
  | thrown _ => .failed
  | crashed => .failed

theorem caught_phase (error : Thrown) :
    (caught error).phase = .freezing ∨ (caught error).phase = .failed := by
  unfold caught
  split
  · exact .inl rfl
  · exact .inr rfl

theorem wait_from_phase (target : Target) (count : Nat) (left : Finset Nat)
    (found : Finset Pid) : (waitFrom target count left found).phase = .terminated count := by
  unfold waitFrom
  split
  · rfl
  · split <;> rfl

end Control

inductive Move (target : Target) (state : State) : Action → State → Prop
  | forked (parent child : Pid) : state.processes.Runs parent → child ∉ state.processes.alive →
      Move target state (.fork parent child)
        { state with processes := state.processes.fork parent child }
  | exited (pid : Pid) : pid ∈ state.processes.alive → pid ∉ state.processes.frozen →
      Move target state (.exit pid) { state with processes := state.processes.exit pid }
  | froze (pid : Pid) :
      Move target state (.freeze pid) { state with processes := state.processes.freeze pid }
  | woke (pid : Pid) :
      state.processes.freezing = false ∨ pid ∉ state.processes.tasks target.freezer →
      Move target state (.wake pid) { state with processes := state.processes.wake pid }
  | freezing (action : Action) (control : Control) (value : Bool) : state.control.phase = .freezing →
      control.phase = .freezing →
      Move target state action
        { control := control, processes := state.processes.setFreezing value }
  | failed (action : Action) (control : Control) (value : Bool) : control.phase = .failed →
      Move target state action
        { control := control, processes := state.processes.setFreezing value }
  | allFrozen : state.control = .checkFrozen → state.processes.Reads target.freezer .frozen →
      Move target state (.read (.ok .frozen))
        { state with control := listFrom target.members ∅ }
  | listed (member : Nat) (left : Finset Nat) (found : Finset Pid) :
      state.control = .listing left found → member ∈ left →
      Move target state (.tasks member (.ok ()))
        { state with
          control := listFrom (left.erase member) (found ∪ state.processes.tasks member) }
  | killed (pid : Pid) (left : Finset Pid) (count : Nat) :
      state.control = .killing left count → pid ∈ left → pid ∈ state.processes.alive →
      Move target state (.kill pid (.ok ()))
        { control := killFrom (left.erase pid) (count + 1)
          processes := state.processes.kill pid }
  | thawing (action : Action) (count : Nat) (control : Control) (value : Bool) :
      state.control.phase = .terminated count → control.phase = .terminated count →
      Move target state action
        { control := control, processes := state.processes.setFreezing value }

section Inversion

variable {target : Target} {state next : State}

theorem stay_freezing (action : Action) {control : Control} (before : state.control.phase = .freezing)
    (after : control.phase = .freezing) :
    Move target state action { state with control := control } :=
  .freezing action control state.processes.freezing before after

theorem stay_failed (action : Action) {control : Control} (after : control.phase = .failed) :
    Move target state action { state with control := control } :=
  .failed action control state.processes.freezing after

theorem stay_thawing (action : Action) (count : Nat) {control : Control}
    (before : state.control.phase = .terminated count) (after : control.phase = .terminated count) :
    Move target state action { state with control := control } :=
  .thawing action count control state.processes.freezing before after

theorem caught_move (action : Action) (before : state.control.phase = .freezing) (error : Thrown)
    (value : Bool) :
    Move target state action
      { control := caught error, processes := state.processes.setFreezing value } := by
  rcases Control.caught_phase error with again | failed
  · exact .freezing action _ value before again
  · exact .failed action _ value failed

theorem write_moves {answer : Except Thrown Unit} (written : write state answer = some next) :
    Move target state (.write answer) next := by
  unfold write at written
  split at written
  next at_ =>
      cases written
      exact .freezing _ _ true (congrArg Control.phase at_) rfl
  next error at_ =>
      cases written
      exact caught_move _ (congrArg Control.phase at_) error _
  next result at_ =>
      cases written
      cases result with
      | ok count => exact .thawing _ count _ false (congrArg Control.phase at_) rfl
      | error error => exact .failed _ _ false rfl
  next =>
      cases written
      exact stay_failed _ rfl
  next => cases written

theorem read_moves {answer : Except Thrown FreezerState}
    (read_ : read target state answer = some next) : Move target state (.read answer) next := by
  unfold read at read_
  split at read_
  next value =>
      split at read_
      next reads =>
          split at read_
          next at_ =>
              cases read_
              apply stay_freezing
              · exact congrArg Control.phase at_
              · split <;> rfl
          next at_ =>
              cases read_
              by_cases frozen : value = .frozen
              · rw [frozen, if_pos rfl]
                exact .allFrozen at_ (frozen ▸ reads)
              · rw [if_neg frozen]
                exact stay_freezing _ (congrArg Control.phase at_) rfl
          next result at_ =>
              cases read_
              cases result with
              | ok count =>
                  apply stay_thawing _ count
                  · exact congrArg Control.phase at_
                  · split
                    · exact Control.wait_from_phase target count _ _
                    · rfl
              | error error =>
                  apply stay_failed
                  split <;> rfl
          next => cases read_
      next => cases read_
  next error =>
      split at read_
      next at_ =>
          cases read_
          exact caught_move _ (congrArg Control.phase at_) error state.processes.freezing
      next =>
          cases read_
          exact stay_failed _ rfl
      next =>
          cases read_
          exact stay_failed _ rfl
      next => cases read_

theorem tasks_moves {member : Nat} {answer : Except Thrown Unit}
    (listed : tasks target state member answer = some next) :
    Move target state (.tasks member answer) next := by
  unfold tasks at listed
  split at listed
  next left found at_ =>
      split at listed
      next inside =>
          cases listed
          exact .listed member left found at_ inside
      next => cases listed
  next left found error at_ =>
      split at listed
      next =>
          cases listed
          exact stay_failed _ rfl
      next => cases listed
  next count left found at_ =>
      split at listed
      next =>
          cases listed
          exact stay_thawing _ count (congrArg Control.phase at_)
            (Control.wait_from_phase target count _ _)
      next => cases listed
  next =>
      split at listed
      next =>
          cases listed
          exact stay_failed _ rfl
      next => cases listed
  next => cases listed

theorem kill_moves {pid : Pid} {answer : Except Thrown Unit}
    (killed : kill state pid answer = some next) :
    Move target state (.kill pid answer) next := by
  unfold kill at killed
  split at killed
  next left count at_ =>
      split at killed
      next possible =>
          cases killed
          exact .killed pid left count at_ possible.1 possible.2
      next => cases killed
  next =>
      split at killed
      next =>
          cases killed
          exact stay_failed _ rfl
      next => cases killed
  next => cases killed

theorem step_moves {action : Action} (stepped : step target state action = some next) :
    Move target state action next := by
  cases action with
  | fork parent child =>
      simp only [step] at stepped
      split at stepped
      next possible =>
          cases stepped
          exact .forked parent child possible.1 possible.2
      next => cases stepped
  | exit pid =>
      simp only [step] at stepped
      split at stepped
      next possible =>
          cases stepped
          exact .exited pid possible.1 possible.2
      next => cases stepped
  | freeze pid =>
      simp only [step] at stepped
      split at stepped
      next =>
          cases stepped
          exact .froze pid
      next => cases stepped
  | wake pid =>
      simp only [step] at stepped
      split at stepped
      next possible =>
          cases stepped
          exact .woke pid possible
      next => cases stepped
  | write answer => exact write_moves stepped
  | read answer => exact read_moves stepped
  | tasks member answer => exact tasks_moves stepped
  | kill pid answer => exact kill_moves stepped

end Inversion

theorem fork_runs {target : Target} {state next : State} {parent child : Pid}
    (stepped : step target state (.fork parent child) = some next) :
    state.processes.Runs parent := by
  simp only [step] at stepped
  split at stepped
  next possible => exact possible.1
  next => cases stepped

section Tasks

variable {processes : Processes} {member : Nat} {pid : Pid}

theorem mem_tasks :
    pid ∈ processes.tasks member ↔ pid ∈ processes.alive ∧ member ∈ processes.groups pid :=
  Finset.mem_filter

theorem mem_tasks_fork {parent child : Pid} (fresh : child ∉ processes.alive) :
    pid ∈ (processes.fork parent child).tasks member ↔
      pid = child ∧ member ∈ processes.groups parent ∨ pid ∈ processes.tasks member := by
  rw [mem_tasks, mem_tasks]
  simp only [Processes.fork, Finset.mem_insert]
  by_cases isChild : pid = child
  · subst isChild
    simp [fresh]
  · simp [isChild]

theorem mem_tasks_exit {other : Pid} :
    other ∈ (processes.exit pid).tasks member ↔
      other ≠ pid ∧ other ∈ processes.tasks member := by
  rw [mem_tasks, mem_tasks]
  simp only [Processes.exit, Finset.mem_erase, and_assoc]

theorem task_ne_child {child : Pid} (fresh : child ∉ processes.alive)
    (inside : pid ∈ processes.tasks member) : pid ≠ child := by
  intro same
  exact fresh (same ▸ (mem_tasks.mp inside).1)

/-- While its group is frozen, no task forks. -/
theorem frozen_parent {parent : Pid} (reads : processes.Reads member .frozen)
    (runs : processes.Runs parent) : member ∉ processes.groups parent := by
  intro inside
  exact runs.2.1 (reads.2 (mem_tasks.mpr ⟨runs.1, inside⟩))

theorem tasks_fork_frozen {parent child : Pid} (reads : processes.Reads member .frozen)
    (runs : processes.Runs parent) (fresh : child ∉ processes.alive) :
    (processes.fork parent child).tasks member = processes.tasks member := by
  ext other
  rw [mem_tasks_fork fresh]
  simp [frozen_parent reads runs]

theorem tasks_exit_frozen (reads : processes.Reads member .frozen)
    (notFrozen : pid ∉ processes.frozen) :
    (processes.exit pid).tasks member = processes.tasks member := by
  ext other
  rw [mem_tasks_exit]
  constructor
  · exact fun both => both.2
  · intro inside
    exact ⟨fun same => notFrozen (same ▸ reads.2 inside), inside⟩

end Tasks

def Solid (target : Target) (state : State) : Prop :=
  state.control.phase = .collecting → state.processes.Reads target.freezer .frozen

theorem move_solid {target : Target} {state next : State} {action : Action}
    (solid : Solid target state) (move : Move target state action next) : Solid target next := by
  intro collecting
  cases move with
  | forked parent child runs fresh =>
      have reads := solid collecting
      refine ⟨reads.1, ?_⟩
      rw [tasks_fork_frozen reads runs fresh]
      intro pid inside
      exact Finset.mem_erase.mpr ⟨task_ne_child fresh inside, reads.2 inside⟩
  | exited pid _ notFrozen =>
      have reads := solid collecting
      refine ⟨reads.1, ?_⟩
      rw [tasks_exit_frozen reads notFrozen]
      exact reads.2
  | froze pid =>
      have reads := solid collecting
      exact ⟨reads.1, fun other inside => Finset.mem_insert_of_mem (reads.2 inside)⟩
  | woke pid possible =>
      have reads := solid collecting
      have elsewhere : pid ∉ state.processes.tasks target.freezer := by
        rcases possible with thawed | elsewhere
        · rw [reads.1] at thawed
          cases thawed
        · exact elsewhere
      refine ⟨reads.1, ?_⟩
      intro other inside
      have different : other ≠ pid := fun same => elsewhere (same ▸ inside)
      exact Finset.mem_erase.mpr ⟨different, reads.2 inside⟩
  | freezing _ control value _ inFreeze =>
      cases inFreeze.symm.trans collecting
  | failed _ control value failed => cases failed.symm.trans collecting
  | allFrozen _ reads => exact reads
  | listed member left found at_ _ => exact solid (congrArg Control.phase at_)
  | killed pid left count at_ _ _ =>
      have reads := solid (congrArg Control.phase at_)
      exact ⟨reads.1, reads.2⟩
  | thawing _ count control value _ terminated =>
      cases terminated.symm.trans collecting

/-- Once every task of a group is killed, none forks: whatever happens then,
the group gets no new task and every task of it stays killed. -/
theorem move_doomed {target : Target} {state next : State} {action : Action} {member : Nat}
    (doomed : state.processes.tasks member ⊆ state.processes.killed)
    (move : Move target state action next) :
    next.processes.tasks member ⊆ state.processes.tasks member ∧
      next.processes.tasks member ⊆ next.processes.killed := by
  cases move with
  | forked parent child runs fresh =>
      have noChild : member ∉ state.processes.groups parent := by
        intro inside
        exact runs.2.2 (doomed (mem_tasks.mpr ⟨runs.1, inside⟩))
      have old : ∀ pid ∈ (state.processes.fork parent child).tasks member,
          pid ∈ state.processes.tasks member := by
        intro pid inside
        rcases (mem_tasks_fork fresh).mp inside with isChild | before
        · exact absurd isChild.2 noChild
        · exact before
      constructor
      · exact old
      · intro pid inside
        have before := old pid inside
        exact Finset.mem_erase.mpr ⟨task_ne_child fresh before, doomed before⟩
  | exited pid _ _ =>
      have old : ∀ other ∈ (state.processes.exit pid).tasks member,
          other ∈ state.processes.tasks member := fun other inside => (mem_tasks_exit.mp inside).2
      exact ⟨old, fun other inside => doomed (old other inside)⟩
  | killed pid left count _ _ _ =>
      exact ⟨Finset.Subset.refl _, doomed.trans (Finset.subset_insert _ _)⟩
  | froze | woke | freezing | failed | allFrozen | listed | thawing =>
      exact ⟨Finset.Subset.refl _, doomed⟩

theorem run_doomed {target : Target} {state finish : State} {actions : List Action} {member : Nat}
    (doomed : state.processes.tasks member ⊆ state.processes.killed)
    (executed : run (step target) state actions = some finish) :
    finish.processes.tasks member ⊆ state.processes.tasks member ∧
      finish.processes.tasks member ⊆ finish.processes.killed := by
  apply run_invariant (fun reached : State =>
      reached.processes.tasks member ⊆ state.processes.tasks member ∧
        reached.processes.tasks member ⊆ reached.processes.killed) _
    ⟨Finset.Subset.refl _, doomed⟩ executed
  intro middle action next kept stepped
  have shrunk := move_doomed kept.2 (step_moves stepped)
  exact ⟨shrunk.1.trans kept.1, shrunk.2⟩

/-- A process of the group has been found, can still be found or is killed. -/
structure Accounted (state : State) (pid : Pid) : Prop where
  listing : ∀ left found, state.control = .listing left found →
    pid ∈ found ∨ ∃ other ∈ left, pid ∈ state.processes.tasks other
  killing : ∀ left count, state.control = .killing left count →
    pid ∈ left ∨ pid ∈ state.processes.killed
  killed : ∀ count, state.control.phase = .terminated count → pid ∈ state.processes.killed

def Covered (target : Target) (state : State) : Prop :=
  ∀ member ∈ target.members, ∀ pid ∈ state.processes.tasks member, Accounted state pid

/-- A process of the group does not fork when the child's members have all been
listed already; the child may only reuse the id of a process that was found. -/
def InSight (target : Target) (state : State) : Action → Prop
  | .fork parent child =>
      ∀ member ∈ target.members, member ∈ state.processes.groups parent →
        match state.control with
        | .listing left found =>
            child ∈ found ∨ ∃ other ∈ left, other ∈ state.processes.groups parent
        | .killing left _ => child ∈ left
        | _ => True
  | _ => True

instance (target : Target) (state : State) (action : Action) :
    Decidable (InSight target state action) :=
  match action with
  | .fork parent child => by
      unfold InSight
      have each : ∀ control : Control, Decidable (match control with
          | .listing left found =>
              child ∈ found ∨ ∃ other ∈ left, other ∈ state.processes.groups parent
          | .killing left _ => child ∈ left
          | _ => True) := by
        intro control
        split <;> infer_instance
      infer_instance
  | .exit _ | .freeze _ | .wake _ | .write _ | .read _ | .tasks _ _ | .kill _ _ =>
      .isTrue trivial

section Covered

variable {state next : State} {processes : Processes} {pid : Pid}

theorem accounted_of_phase (notCollecting : state.control.phase ≠ .collecting)
    (killed : ∀ count, state.control.phase = .terminated count → pid ∈ state.processes.killed) :
    Accounted state pid := by
  constructor
  · intro left found at_
    exact absurd (congrArg Control.phase at_) notCollecting
  · intro left count at_
    exact absurd (congrArg Control.phase at_) notCollecting
  · exact killed

theorem accounted_kill_from {left : Finset Pid} {count : Nat}
    (either : pid ∈ left ∨ pid ∈ processes.killed) :
    Accounted { control := killFrom left count, processes := processes } pid := by
  unfold killFrom
  split
  next empty =>
      have killed : pid ∈ processes.killed := by
        rcases either with inside | killed
        · rw [empty] at inside
          exact absurd inside (Finset.notMem_empty pid)
        · exact killed
      constructor
      · intro left' found at_
        cases at_
      · intro left' count' at_
        cases at_
      · intro count' at_
        exact killed
  next =>
      constructor
      · intro left' found at_
        cases at_
      · intro left' count' at_
        cases at_
        exact either
      · intro count' at_
        cases at_

theorem accounted_list_from {left : Finset Nat} {found : Finset Pid}
    (either : pid ∈ found ∨ ∃ other ∈ left, pid ∈ processes.tasks other) :
    Accounted { control := listFrom left found, processes := processes } pid := by
  unfold listFrom
  split
  next empty =>
      apply accounted_kill_from
      rcases either with inside | ⟨other, inside, _⟩
      · exact .inl inside
      · rw [empty] at inside
        exact absurd inside (Finset.notMem_empty other)
  next =>
      constructor
      · intro left' found' at_
        cases at_
        exact either
      · intro left' count' at_
        cases at_
      · intro count' at_
        cases at_

theorem accounted_kept {other : Processes} (accounted : Accounted state pid)
    (tasks : ∀ member, pid ∈ state.processes.tasks member → pid ∈ other.tasks member)
    (killed : pid ∈ state.processes.killed → pid ∈ other.killed) :
    Accounted { state with processes := other } pid := by
  constructor
  · intro left found at_
    rcases accounted.listing left found at_ with inside | ⟨member, unlisted, inside⟩
    · exact .inl inside
    · exact .inr ⟨member, unlisted, tasks member inside⟩
  · intro left count at_
    exact (accounted.killing left count at_).imp_right killed
  · intro count at_
    exact killed (accounted.killed count at_)

theorem child_accounted {target : Target} (covered : Covered target state) {parent child : Pid}
    (runs : state.processes.Runs parent) (fresh : child ∉ state.processes.alive)
    (inSight : InSight target state (.fork parent child)) {member : Nat}
    (isMember : member ∈ target.members) (inside : member ∈ state.processes.groups parent) :
    Accounted { state with processes := state.processes.fork parent child } child := by
  have sight := inSight member isMember inside
  constructor
  · intro left found at_
    simp only at at_
    simp only [at_] at sight
    rcases sight with reused | ⟨other, unlisted, here⟩
    · exact .inl reused
    · exact .inr ⟨other, unlisted, (mem_tasks_fork fresh).mpr (.inl ⟨rfl, here⟩)⟩
  · intro left count at_
    simp only at at_
    simp only [at_] at sight
    exact .inl sight
  · intro count at_
    have parentTask : parent ∈ state.processes.tasks member := mem_tasks.mpr ⟨runs.1, inside⟩
    exact absurd ((covered member isMember parent parentTask).killed count at_) runs.2.2

theorem move_covered {target : Target} {action : Action} (covered : Covered target state)
    (inSight : InSight target state action) (move : Move target state action next) :
    Covered target next := by
  intro member isMember pid inside
  cases move with
  | forked parent child runs fresh =>
      rcases (mem_tasks_fork fresh).mp inside with isChild | before
      · rw [isChild.1]
        exact child_accounted covered runs fresh inSight isMember isChild.2
      · apply accounted_kept (covered member isMember pid before)
        · exact fun other here => (mem_tasks_fork fresh).mpr (.inr here)
        · exact fun killed => Finset.mem_erase.mpr ⟨task_ne_child fresh before, killed⟩
  | exited other _ _ =>
      rcases mem_tasks_exit.mp inside with ⟨different, before⟩
      apply accounted_kept (covered member isMember pid before)
      · exact fun group here => mem_tasks_exit.mpr ⟨different, here⟩
      · exact id
  | froze other =>
      exact accounted_kept (covered member isMember pid inside) (fun _ here => here) id
  | woke other _ =>
      exact accounted_kept (covered member isMember pid inside) (fun _ here => here) id
  | freezing _ control value _ inFreeze =>
      apply accounted_of_phase
      · simp [inFreeze]
      · intro count at_
        cases inFreeze.symm.trans at_
  | failed _ control value failed =>
      apply accounted_of_phase
      · simp [failed]
      · intro count at_
        cases failed.symm.trans at_
  | allFrozen _ _ => exact accounted_list_from (.inr ⟨member, isMember, inside⟩)
  | listed listedMember left found at_ _ =>
      apply accounted_list_from
      rcases (covered member isMember pid inside).listing left found at_ with
        before | ⟨other, unlisted, here⟩
      · exact .inl (Finset.mem_union_left _ before)
      · by_cases now : other = listedMember
        · rw [now] at here
          exact .inl (Finset.mem_union_right _ here)
        · exact .inr ⟨other, Finset.mem_erase.mpr ⟨now, unlisted⟩, here⟩
  | killed victim left count at_ _ _ =>
      apply accounted_kill_from
      rcases (covered member isMember pid inside).killing left count at_ with still | killed
      · by_cases now : pid = victim
        · rw [now]
          exact .inr (Finset.mem_insert_self _ _)
        · exact .inl (Finset.mem_erase.mpr ⟨now, still⟩)
      · exact .inr (Finset.mem_insert_of_mem killed)
  | thawing _ count control value before after =>
      apply accounted_of_phase
      · simp [after]
      · intro _ _
        exact (covered member isMember pid inside).killed count before

end Covered

section Runs

variable {target : Target} {processes : Processes} {actions : List Action} {state : State}

theorem start_covered (target : Target) (processes : Processes) :
    Covered target (start processes) := by
  intro member isMember pid inside
  apply accounted_of_phase
  · simp [start, Control.phase]
  · intro count at_
    cases at_

theorem start_solid (target : Target) (processes : Processes) :
    Solid target (start processes) := by
  intro collecting
  cases collecting

theorem run_covered (guarded : Guarded (step target) (InSight target) (start processes) actions)
    (executed : run (step target) (start processes) actions = some state) :
    Covered target state :=
  guarded_invariant (Covered target)
    (fun _ _ _ covered inSight stepped => move_covered covered inSight (step_moves stepped))
    (start_covered target processes) guarded executed

theorem run_solid (executed : run (step target) (start processes) actions = some state) :
    Solid target state :=
  run_invariant (Solid target) (fun _ _ _ solid stepped => move_solid solid (step_moves stepped))
    (start_solid target processes) executed

end Runs

/-- What `attachTask` of the whole group leads to, and any single freezer group. -/
def Contained (target : Target) (state : State) : Prop :=
  ∀ member ∈ target.members,
    state.processes.tasks member ⊆ state.processes.tasks target.freezer

section Contained

variable {target : Target} {state next : State} {action : Action}

theorem move_contained (contained : Contained target state)
    (move : Move target state action next) : Contained target next := by
  intro member isMember pid inside
  have kept := contained member isMember
  cases move with
  | forked parent child runs fresh =>
      apply (mem_tasks_fork fresh).mpr
      rcases (mem_tasks_fork fresh).mp inside with ⟨isChild, here⟩ | before
      · have parentTask := kept (mem_tasks.mpr ⟨runs.1, here⟩)
        exact .inl ⟨isChild, (mem_tasks.mp parentTask).2⟩
      · exact .inr (kept before)
  | exited other _ _ =>
      rcases mem_tasks_exit.mp inside with ⟨different, before⟩
      exact mem_tasks_exit.mpr ⟨different, kept before⟩
  | froze | woke | freezing | failed | allFrozen | listed | killed | thawing => exact kept inside

/-- While such a group is frozen, whatever happens to it happens in sight. -/
theorem in_sight_of_solid (contained : Contained target state) (solid : Solid target state)
    (stepped : step target state action = some next) : InSight target state action := by
  cases action with
  | fork parent child =>
      have runs := fork_runs stepped
      intro member isMember inside
      have parentTask := contained member isMember (mem_tasks.mpr ⟨runs.1, inside⟩)
      have inFreezer := (mem_tasks.mp parentTask).2
      split
      next left found at_ =>
          exact absurd inFreezer (frozen_parent (solid (congrArg Control.phase at_)) runs)
      next left count at_ =>
          exact absurd inFreezer (frozen_parent (solid (congrArg Control.phase at_)) runs)
      next => trivial
  | exit | freeze | wake | write | read | tasks | kill => trivial

theorem contained_run_covered {processes : Processes} {actions : List Action}
    (contained : Contained target (start processes))
    (executed : run (step target) (start processes) actions = some state) :
    Covered target state := by
  have all := run_invariant
    (fun reached => Contained target reached ∧ Solid target reached ∧ Covered target reached)
    (fun _ _ _ kept stepped => ⟨move_contained kept.1 (step_moves stepped),
      move_solid kept.2.1 (step_moves stepped),
      move_covered kept.2.2 (in_sight_of_solid kept.1 kept.2.1 stepped) (step_moves stepped)⟩)
    ⟨contained, start_solid target processes, start_covered target processes⟩ executed
  exact all.2.2

end Contained

section Single

variable {freezer : Nat} {state next : State} {action : Action} {processes : Processes}

theorem single_contained (freezer : Nat) (state : State) : Contained (single freezer) state := by
  intro member isMember
  rw [Finset.mem_singleton.mp isMember]
  exact Finset.Subset.refl _

/-- `all` are the tasks at the end of the freeze, and what is left of them and
what has been killed add up. -/
structure Following (freezer : Nat) (all : Finset Pid) (state : State) : Prop where
  phase : state.control.phase ≠ .freezing
  same : state.control.phase = .collecting → state.processes.tasks freezer = all
  listing : ∀ left found, state.control = .listing left found → left = {freezer} ∧ found = ∅
  killing : ∀ left count, state.control = .killing left count →
    left ⊆ all ∧ count + left.card = all.card
  counted : ∀ count, state.control.phase = .terminated count → count = all.card

theorem following_kept {all : Finset Pid} {other : Processes}
    (following : Following freezer all state)
    (same : state.control.phase = .collecting →
      other.tasks freezer = state.processes.tasks freezer) :
    Following freezer all { state with processes := other } := by
  constructor
  · exact following.phase
  · exact fun collecting => (same collecting).trans (following.same collecting)
  · exact following.listing
  · exact following.killing
  · exact following.counted

theorem following_of_phase {all : Finset Pid} (notFreezing : state.control.phase ≠ .freezing)
    (notCollecting : state.control.phase ≠ .collecting)
    (counted : ∀ count, state.control.phase = .terminated count → count = all.card) :
    Following freezer all state := by
  constructor
  · exact notFreezing
  · exact fun collecting => absurd collecting notCollecting
  · intro left found at_
    exact absurd (congrArg Control.phase at_) notCollecting
  · intro left count at_
    exact absurd (congrArg Control.phase at_) notCollecting
  · exact counted

theorem following_kill_from {all left : Finset Pid} {count : Nat}
    (same : processes.tasks freezer = all) (within : left ⊆ all)
    (total : count + left.card = all.card) :
    Following freezer all { control := killFrom left count, processes := processes } := by
  unfold killFrom
  split
  next empty =>
      apply following_of_phase
      · exact fun at_ => nomatch at_
      · exact fun at_ => nomatch at_
      · intro count' at_
        cases at_
        rw [empty, Finset.card_empty] at total
        exact total
  next =>
      constructor
      · exact fun at_ => nomatch at_
      · exact fun _ => same
      · intro left' found at_
        cases at_
      · intro left' count' at_
        cases at_
        exact ⟨within, total⟩
      · intro count' at_
        cases at_

theorem move_following {all : Finset Pid} (solid : Solid (single freezer) state)
    (following : Following freezer all state) (move : Move (single freezer) state action next) :
    Following freezer all next := by
  cases move with
  | forked parent child runs fresh =>
      apply following_kept following
      exact fun collecting => tasks_fork_frozen (solid collecting) runs fresh
  | exited pid _ notFrozen =>
      apply following_kept following
      exact fun collecting => tasks_exit_frozen (solid collecting) notFrozen
  | froze pid => exact following_kept following fun _ => rfl
  | woke pid _ => exact following_kept following fun _ => rfl
  | freezing _ control value before _ => exact absurd before following.phase
  | failed _ control value failed =>
      apply following_of_phase
      · simp [failed]
      · simp [failed]
      · intro count at_
        cases failed.symm.trans at_
  | allFrozen at_ _ => exact absurd (congrArg Control.phase at_) following.phase
  | listed member left found at_ inside =>
      have same := following.same (congrArg Control.phase at_)
      rcases following.listing left found at_ with ⟨isFreezer, isEmpty⟩
      rw [isFreezer] at inside ⊢
      rw [Finset.mem_singleton.mp inside, isEmpty, Finset.erase_singleton, Finset.empty_union, same]
      exact following_kill_from same (Finset.Subset.refl _) (Nat.zero_add _)
  | killed pid left count at_ inside _ =>
      have same := following.same (congrArg Control.phase at_)
      rcases following.killing left count at_ with ⟨within, total⟩
      apply following_kill_from
      · exact same
      · exact (Finset.erase_subset pid left).trans within
      · have oneLess := Finset.card_erase_add_one inside
        omega
  | thawing _ count control value before after =>
      apply following_of_phase
      · simp [after]
      · simp [after]
      · intro count' at_
        rw [after] at at_
        cases at_
        exact following.counted count before

/-- In the state `middle` of the run `freeze` reads FROZEN for the last time. -/
def FreezeReturns (target : Target) (first : State) (actions : List Action) (middle : State) :
    Prop :=
  ∃ earlier later, actions = earlier ++ .read (.ok .frozen) :: later ∧
    run (step target) first earlier = some middle ∧ middle.control = .checkFrozen

/-- The freeze is over and no exception has been thrown. -/
def Past (state : State) : Prop :=
  state.control.phase = .collecting ∨ ∃ count, state.control.phase = .terminated count

theorem past_entered {target : Target} (before : ¬Past state) (after : Past next)
    (move : Move target state action next) :
    state.control = .checkFrozen ∧ action = .read (.ok .frozen) := by
  cases move with
  | forked | exited | froze | woke => exact absurd after before
  | freezing _ control value _ inFreeze =>
      rcases after with collecting | ⟨count, terminated⟩
      · cases inFreeze.symm.trans collecting
      · cases inFreeze.symm.trans terminated
  | failed _ control value failed =>
      rcases after with collecting | ⟨count, terminated⟩
      · cases failed.symm.trans collecting
      · cases failed.symm.trans terminated
  | allFrozen at_ _ => exact ⟨at_, rfl⟩
  | listed member left found at_ _ => exact absurd (.inl (congrArg Control.phase at_)) before
  | killed pid left count at_ _ _ => exact absurd (.inl (congrArg Control.phase at_)) before
  | thawing _ count control value terminated _ => exact absurd (.inr ⟨count, terminated⟩) before

theorem freeze_returns {target : Target} {actions : List Action}
    (executed : run (step target) (start processes) actions = some state) (past : Past state) :
    ∃ middle, FreezeReturns target (start processes) actions middle := by
  have outside : ¬Past (start processes) := by
    intro inside
    rcases inside with collecting | ⟨count, terminated⟩
    · cases collecting
    · cases terminated
  rcases run_enters Past outside past executed with
    ⟨earlier, action, later, middle, after, split, reached, before, stepped, entered, _⟩
  rcases past_entered before entered (step_moves stepped) with ⟨at_, isRead⟩
  exact ⟨middle, earlier, later, by rw [split, isRead], reached, at_⟩

theorem followed {actions : List Action} {middle : State}
    (executed : run (step (single freezer)) (start processes) actions = some state)
    (returns : FreezeReturns (single freezer) (start processes) actions middle) :
    Following freezer (middle.processes.tasks freezer) state := by
  rcases returns with ⟨earlier, later, split, reached, at_⟩
  rw [split, run_append, reached] at executed
  rcases run_cons_eq_some.mp executed with ⟨after, stepped, rest⟩
  have solid := move_solid (run_solid reached) (step_moves stepped)
  simp only [step, read, at_, if_true] at stepped
  split at stepped
  next =>
      cases stepped
      have listing : Following freezer (middle.processes.tasks freezer)
          { middle with control := .listing {freezer} ∅ } := by
        constructor
        · exact fun control => nomatch control
        · exact fun _ => rfl
        · intro left found control
          cases control
          exact ⟨rfl, rfl⟩
        · intro left count control
          cases control
        · intro count control
          cases control
      exact (run_invariant
        (fun reached => Solid (single freezer) reached ∧
          Following freezer (middle.processes.tasks freezer) reached)
        (fun _ _ _ kept stepped => ⟨move_solid kept.1 (step_moves stepped),
          move_following kept.1 kept.2 (step_moves stepped)⟩)
        ⟨solid, listing⟩ rest).2
  next => cases stepped

end Single

/-- What `terminate_` has achieved in `state`, where it thaws or has thawed a
single group after a kill loop that counted `count` processes. -/
structure KillsGroup (freezer : Nat) (processes : Processes) (actions : List Action)
    (state : State) (count : Nat) : Prop where
  killed : state.processes.tasks freezer ⊆ state.processes.killed
  afterwards : ∀ later final, run (step (single freezer)) state later = some final →
    final.processes.tasks freezer ⊆ state.processes.tasks freezer ∧
      ∀ pid ∈ final.processes.tasks freezer, ¬final.processes.Runs pid
  returns : ∃ middle, FreezeReturns (single freezer) (start processes) actions middle
  counted : ∀ middle, FreezeReturns (single freezer) (start processes) actions middle →
    count = (middle.processes.tasks freezer).card

/-- In every run on a single group of the freezer hierarchy no `kill` misses its
target, and from the thaw after the kill loop on every task of the group is killed. -/
theorem terminate_kills_frozen_group (freezer : Nat) (processes : Processes)
    (actions : List Action) (state : State)
    (executed : run (step (single freezer)) (start processes) actions = some state) :
    (∀ pid, step (single freezer) state (.kill pid (.error (.system ESRCH))) = none) ∧
      ∀ count, state.control.phase = .terminated count →
        KillsGroup freezer processes actions state count := by
  constructor
  · intro pid
    simp only [step, kill]
    split
    next impossible => cases impossible
    next left count error at_ isError =>
        rcases freeze_returns executed (.inl (congrArg Control.phase at_)) with ⟨middle, returns⟩
        have following := followed executed returns
        have same := following.same (congrArg Control.phase at_)
        rw [if_neg]
        intro ⟨inside, vanished⟩
        cases isError
        have task := (following.killing left count at_).1 inside
        rw [← same] at task
        exact vanished.mp rfl (mem_tasks.mp task).1
    next => rfl
  · intro count terminated
    have killed : state.processes.tasks freezer ⊆ state.processes.killed := by
      intro pid inside
      have covered := contained_run_covered (single_contained freezer _) executed
      exact (covered freezer (Finset.mem_singleton_self freezer) pid inside).killed count
        terminated
    constructor
    · exact killed
    · intro later final continued
      have doomed := run_doomed killed continued
      exact ⟨doomed.1, fun pid inside runs => runs.2.2 (doomed.2 inside)⟩
    · exact freeze_returns executed (.inr ⟨count, terminated⟩)
    · intro middle returns
      exact (followed executed returns).counted count terminated

/-- The first task forks while the group is being frozen, the second one keeps
the freeze busy, and both are killed. -/
def twoTasks : List Action :=
  [.write (.ok ()), .fork 1 2, .freeze 1, .read (.ok .freezing), .write (.error (.system EBUSY)),
    .read (.ok .freezing), .write (.ok ()), .freeze 2, .read (.ok .frozen), .read (.ok .frozen),
    .tasks 7 (.ok ()), .kill 2 (.ok ()), .kill 1 (.ok ()), .write (.ok ()), .wake 2, .exit 2]

def lone (members : Finset Nat) : Processes :=
  { alive := {1}, groups := fun _ => members, frozen := ∅, killed := ∅, freezing := false }

theorem terminate_kills_frozen_group_two_tasks :
    ∃ state, run (step (single 7)) (start (lone {7})) twoTasks = some state ∧
      state.processes.tasks 7 = {1} ∧ KillsGroup 7 (lone {7}) twoTasks state 2 :=
  ⟨_, rfl, by decide, (terminate_kills_frozen_group 7 (lone {7}) twoTasks _ rfl).2 2 rfl⟩

/-- Where every process of the group sits in the freezer's member, no run misses one. -/
theorem terminate_kills_contained_group (target : Target) (processes : Processes)
    (contained : Contained target (start processes)) (actions : List Action) (state : State)
    (executed : run (step target) (start processes) actions = some state) (count : Nat)
    (terminated : state.control.phase = .terminated count) (later : List Action) (final : State)
    (continued : run (step target) state later = some final) (member : Nat)
    (isMember : member ∈ target.members) :
    final.processes.tasks member ⊆ final.processes.killed := by
  apply (run_doomed _ continued).2
  intro pid inside
  exact (contained_run_covered contained executed member isMember pid inside).killed count
    terminated

/-- In every run on a group of several hierarchies in which no process of the
group forks out of sight before `terminate_` returns, from the kill loop's end
on every process that is or becomes a task of a member is killed. -/
theorem terminate_kills_processes_in_sight {Pointer : Type}
    (cgroup : MultipleControlGroup Pointer) (freezer : Nat) (processes : Processes)
    (actions : List Action) (state : State)
    (inSight : Guarded (step (multiple cgroup freezer)) (InSight (multiple cgroup freezer))
      (start processes) actions)
    (executed : run (step (multiple cgroup freezer)) (start processes) actions = some state)
    (count : Nat) (terminated : state.control.phase = .terminated count) (later : List Action)
    (final : State) (continued : run (step (multiple cgroup freezer)) state later = some final)
    (member : Nat) (isMember : member ∈ (multiple cgroup freezer).members) :
    final.processes.tasks member ⊆ final.processes.killed := by
  apply (run_doomed _ continued).2
  intro pid inside
  exact (run_covered inSight executed member isMember pid inside).killed count terminated

def cpuAndFreezer : MultipleControlGroup Nat :=
  { id2cgroup_ := AList.insert 3 0 (AList.insert 7 1 ∅), fieldName2path_ := ∅ }

def bothHierarchies : Target := multiple cpuAndFreezer 7

def inSightRun : List Action :=
  [.write (.ok ()), .fork 1 2, .freeze 1, .freeze 2, .read (.ok .frozen), .read (.ok .frozen),
    .tasks 3 (.ok ()), .tasks 7 (.ok ()), .kill 1 (.ok ()), .kill 2 (.ok ()), .write (.ok ()),
    .read (.ok .thawed)]

theorem terminate_kills_processes_in_sight_both :
    ∃ state final,
      run (step bothHierarchies) (start (lone {3, 7})) inSightRun = some state ∧
      state.control = .waiting 2 {3, 7} ∅ ∧
      run (step bothHierarchies) state [.wake 1, .exit 1] = some final ∧
      final.processes.tasks 3 = {2} ∧
      final.processes.tasks 3 ⊆ final.processes.killed := by
  refine ⟨_, _, rfl, ?_, rfl, ?_, ?_⟩
  · rfl
  · decide
  · exact terminate_kills_processes_in_sight cpuAndFreezer 7 (lone {3, 7}) inSightRun _
      (by decide) rfl 2 rfl [.wake 1, .exit 1] _ rfl 3 (by decide)

/-- The process sits in the cpu group only, so the freeze does not stop it, and
it forks between the listing and its kill. -/
def outOfSightRun : List Action :=
  [.write (.ok ()), .read (.ok .frozen), .read (.ok .frozen), .tasks 3 (.ok ()), .tasks 7 (.ok ()),
    .fork 1 2, .kill 1 (.ok ()), .write (.ok ()), .read (.ok .thawed), .exit 1, .tasks 3 (.ok ()),
    .tasks 7 (.ok ())]

/-- `terminate_` has returned and counted one process, and `waitEmpty_` starts
over because of process 2, which nobody has killed. -/
theorem forked_process_survives :
    ∃ state, run (step bothHierarchies) (start (lone {3})) outOfSightRun = some state ∧
      state.control = .waiting 1 {3, 7} ∅ ∧ 2 ∈ state.processes.tasks 3 ∧
      2 ∉ state.processes.killed := by
  refine ⟨_, rfl, ?_, ?_, ?_⟩
  · rfl
  · decide
  · decide

end ContestSystem.Cgroup.Termination
