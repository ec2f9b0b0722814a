import ContestSystem.Cgroup.TerminationOutcome

/-!
# Attaching tasks

`attachTask` of a group of several hierarchies writes the pid to the `tasks` file of
one member after another, in iteration order, while the processes of the system
fork and exit. A child starts in the groups its parent sits in at that moment. So
every process of the group sits in the freezer's member, as `terminate` needs it,
exactly where that member is written first or the process does not fork meanwhile.
-/

namespace ContestSystem.Cgroup.TaskAttachment

open ContestSystem.Lib.Run
open Termination (Pid)

set_option autoImplicit false

/-- In every hierarchy a process sits in one group. -/
structure Placement where
  alive : Finset Pid
  group : Nat → Pid → ControlGroupPath

namespace Placement

def fork (placement : Placement) (parent child : Pid) : Placement :=
  { alive := insert child placement.alive
    group := fun hierarchyId =>
      Function.update (placement.group hierarchyId) child (placement.group hierarchyId parent) }

def exit (placement : Placement) (pid : Pid) : Placement :=
  { placement with alive := placement.alive.erase pid }

/-- The pid is written to the `tasks` file of the group at `location`. -/
def attach (placement : Placement) (location : Location) (pid : Pid) : Placement :=
  { placement with
    group := Function.update placement.group location.hierarchyId
      (Function.update (placement.group location.hierarchyId) pid location.controlGroup) }

def Sits (placement : Placement) (pid : Pid) (member : Location) : Prop :=
  placement.group member.hierarchyId pid = member.controlGroup

instance (placement : Placement) (pid : Pid) (member : Location) :
    Decidable (placement.Sits pid member) :=
  inferInstanceAs (Decidable (_ = _))

def tasks (placement : Placement) (member : Location) : Finset Pid :=
  placement.alive.filter fun pid => placement.Sits pid member

end Placement

/-- `pid` is still to be attached to the members `left`; there are none while no
`attachTask` is under way. -/
structure State where
  placement : Placement
  pid : Pid
  left : List Location

inductive Action
  | fork (parent child : Pid)
  | exit (pid : Pid)
  /-- `attachTask` of a group with these members in iteration order. -/
  | attach (members : List Location) (pid : Pid)
  /-- The next write of the loop in `attachTask`. -/
  | write (answer : Except Errno Unit)

def step (state : State) : Action → Option State
  | .fork parent child =>
      if parent ∈ state.placement.alive ∧ child ∉ state.placement.alive then
        some { state with placement := state.placement.fork parent child }
      else none
  | .exit pid =>
      if pid ∈ state.placement.alive then
        some { state with placement := state.placement.exit pid }
      else none
  | .attach members pid =>
      if state.left = [] then some { state with pid := pid, left := members } else none
  | .write answer =>
      match state.left, answer with
      | location :: rest, .ok () =>
          if state.pid ∈ state.placement.alive then
            some { state with placement := state.placement.attach location state.pid, left := rest }
          else none
      | _ :: _, .error _ => some { state with left := [] }
      | [], _ => none

def locations {Pointer : Type} (location : Pointer → Location)
    (cgroup : MultipleControlGroup Pointer) : List Location :=
  cgroup.id2cgroup_.entries.map fun id_cgroup => location id_cgroup.2

section Placement

variable {placement : Placement} {pid other : Pid} {location member : Location}

theorem sits_attached : (placement.attach location pid).Sits pid location := by
  simp [Placement.Sits, Placement.attach]

theorem sits_attach_other (different : other ≠ pid) :
    (placement.attach location pid).Sits other member ↔ placement.Sits other member := by
  simp only [Placement.Sits, Placement.attach, Function.update_apply]
  by_cases same : member.hierarchyId = location.hierarchyId
  · rw [if_pos same, Function.update_of_ne different, same]
  · rw [if_neg same]

theorem sits_attach_elsewhere (different : member.hierarchyId ≠ location.hierarchyId) :
    (placement.attach location pid).Sits other member ↔ placement.Sits other member := by
  simp only [Placement.Sits, Placement.attach, Function.update_of_ne different]

theorem sits_child {parent child : Pid} :
    (placement.fork parent child).Sits child member ↔ placement.Sits parent member := by
  simp [Placement.Sits, Placement.fork]

theorem sits_fork_other {parent child : Pid} (different : other ≠ child) :
    (placement.fork parent child).Sits other member ↔ placement.Sits other member := by
  simp [Placement.Sits, Placement.fork, Function.update_of_ne different]

end Placement

/-- Every process that sits in a member sits in the freezer's. -/
def Contained (members : List Location) (freezer : Location) (placement : Placement) : Prop :=
  ∀ pid ∈ placement.alive, ∀ member ∈ members, placement.Sits pid member →
    placement.Sits pid freezer

section Contained

variable {members : List Location} {freezer : Location} {placement : Placement}

theorem contained_fork {parent child : Pid} (living : parent ∈ placement.alive)
    (contained : Contained members freezer placement) :
    Contained members freezer (placement.fork parent child) := by
  intro pid inside member isMember sits
  by_cases isChild : pid = child
  · rw [isChild, sits_child] at sits ⊢
    exact contained parent living member isMember sits
  · rw [sits_fork_other isChild] at sits ⊢
    have before : pid ∈ placement.alive := (Finset.mem_insert.mp inside).resolve_left isChild
    exact contained pid before member isMember sits

theorem contained_exit {pid : Pid} (contained : Contained members freezer placement) :
    Contained members freezer (placement.exit pid) :=
  fun other inside => contained other (Finset.mem_of_mem_erase inside)

/-- An attached process has to sit in the freezer's member afterwards. -/
theorem contained_attach {location : Location} {pid : Pid}
    (contained : Contained members freezer placement)
    (sits : (placement.attach location pid).Sits pid freezer) :
    Contained members freezer (placement.attach location pid) := by
  intro other inside member isMember here
  by_cases same : other = pid
  · rw [same]
    exact sits
  · rw [sits_attach_other same] at here ⊢
    exact contained other inside member isMember here

end Contained

/-- Processes are attached to this group only, and the id of one that is being
attached does not go to another process. -/
def AttachesTo (members : List Location) (state : State) : Action → Prop
  | .attach attached _ => attached = members
  | .fork _ child => state.left ≠ [] → child ≠ state.pid
  | .exit _ | .write _ => True

/-- Once the first write is done the process sits in the freezer's member. -/
structure Ahead (members : List Location) (freezer : Location) (state : State) : Prop where
  contained : Contained members freezer state.placement
  under : state.left = members ∨
    (∀ location ∈ state.left, location.hierarchyId ≠ freezer.hierarchyId) ∧
      (state.left ≠ [] → state.pid ∈ state.placement.alive →
        state.placement.Sits state.pid freezer)

section First

variable {members rest : List Location} {freezer : Location} {state next : State}

theorem write_ahead (others : ∀ location ∈ rest, location.hierarchyId ≠ freezer.hierarchyId)
    {answer : Except Errno Unit} (ahead : Ahead (freezer :: rest) freezer state)
    (stepped : step state (.write answer) = some next) : Ahead (freezer :: rest) freezer next := by
  simp only [step] at stepped
  split at stepped
  next location left at_ =>
      split at stepped
      next living =>
          cases stepped
          have sits : (state.placement.attach location state.pid).Sits state.pid freezer ∧
              ∀ other ∈ left, other.hierarchyId ≠ freezer.hierarchyId := by
            rcases ahead.under with all | ⟨elsewhere, after⟩
            · rw [at_] at all
              cases all
              exact ⟨sits_attached, others⟩
            · rw [at_] at elsewhere after
              have different := elsewhere location List.mem_cons_self
              constructor
              · rw [sits_attach_elsewhere (Ne.symm different)]
                exact after (List.cons_ne_nil _ _) living
              · exact fun other inside => elsewhere other (List.mem_cons_of_mem _ inside)
          exact ⟨contained_attach ahead.contained sits.1, .inr ⟨sits.2, fun _ _ => sits.1⟩⟩
      next => cases stepped
  next =>
      cases stepped
      exact ⟨ahead.contained, .inr ⟨nofun, fun some => absurd rfl some⟩⟩
  next => cases stepped

theorem step_ahead (others : ∀ location ∈ rest, location.hierarchyId ≠ freezer.hierarchyId)
    {action : Action} (ahead : Ahead (freezer :: rest) freezer state)
    (attaches : AttachesTo (freezer :: rest) state action)
    (stepped : step state action = some next) : Ahead (freezer :: rest) freezer next := by
  cases action with
  | fork parent child =>
      simp only [step] at stepped
      split at stepped
      next possible =>
          cases stepped
          refine ⟨contained_fork possible.1 ahead.contained, ?_⟩
          rcases ahead.under with all | ⟨elsewhere, after⟩
          · exact .inl all
          · refine .inr ⟨elsewhere, fun some living => ?_⟩
            have different : state.pid ≠ child := Ne.symm (attaches some)
            rw [sits_fork_other different]
            exact after some ((Finset.mem_insert.mp living).resolve_left different)
      next => cases stepped
  | exit pid =>
      simp only [step] at stepped
      split at stepped
      next =>
          cases stepped
          refine ⟨contained_exit ahead.contained, ?_⟩
          rcases ahead.under with all | ⟨elsewhere, after⟩
          · exact .inl all
          · exact .inr ⟨elsewhere, fun some living => after some (Finset.mem_of_mem_erase living)⟩
      next => cases stepped
  | attach attached pid =>
      simp only [step] at stepped
      split at stepped
      next =>
          cases stepped
          exact ⟨ahead.contained, .inl attaches⟩
      next => cases stepped
  | write answer => exact write_ahead others ahead stepped

theorem run_ahead (others : ∀ location ∈ rest, location.hierarchyId ≠ freezer.hierarchyId)
    {start finish : State} {actions : List Action} (idle : start.left = [])
    (contained : Contained (freezer :: rest) freezer start.placement)
    (guarded : Guarded step (AttachesTo (freezer :: rest)) start actions)
    (executed : run step start actions = some finish) : Ahead (freezer :: rest) freezer finish := by
  have initial : Ahead (freezer :: rest) freezer start := by
    refine ⟨contained, .inr ⟨?_, fun some => absurd idle some⟩⟩
    rw [idle]
    exact nofun
  exact guarded_invariant (Ahead (freezer :: rest) freezer)
    (fun _ _ _ ahead attaches stepped => step_ahead others ahead attaches stepped)
    initial guarded executed

end First

def outside (members : List Location) : ControlGroupPath :=
  (members.map Location.controlGroup).flatten ++ [{ text := "elsewhere", slashFree := by decide }]

theorem outside_ne {members : List Location} {member : Location} (isMember : member ∈ members) :
    outside members ≠ member.controlGroup := by
  intro same
  have inside : member.controlGroup ∈ members.map Location.controlGroup :=
    List.mem_map_of_mem isMember
  have short := (List.sublist_flatten_of_mem inside).length_le
  have lengths := congrArg List.length same
  rw [outside, List.length_append, List.length_singleton] at lengths
  omega

def lone (members : List Location) : State :=
  { placement := { alive := {1}, group := fun _ _ => outside members }, pid := 0, left := [] }

def attachAll (placement : Placement) (pid : Pid) (left : List Location) : Placement :=
  left.foldl (fun placement location => placement.attach location pid) placement

section Writes

variable {members left : List Location} {placement : Placement} {pid : Pid}

theorem alive_attach_all : (attachAll placement pid left).alive = placement.alive := by
  unfold attachAll
  induction left generalizing placement with
  | nil => rfl
  | cons location left ih =>
      rw [List.foldl_cons, ih]
      rfl

theorem sits_attach_all_other {other : Pid} {member : Location} (different : other ≠ pid) :
    (attachAll placement pid left).Sits other member ↔ placement.Sits other member := by
  unfold attachAll
  induction left generalizing placement with
  | nil => rfl
  | cons location left ih => rw [List.foldl_cons, ih, sits_attach_other different]

theorem run_writes (living : pid ∈ placement.alive) :
    run step { placement := placement, pid := pid, left := left }
        (List.replicate left.length (.write (.ok ()))) =
      some { placement := attachAll placement pid left, pid := pid, left := [] } := by
  induction left generalizing placement with
  | nil => rfl
  | cons location left ih =>
      have stepped : step { placement := placement, pid := pid, left := location :: left }
          (.write (.ok ())) =
            some { placement := placement.attach location pid, pid := pid, left := left } := by
        simp [step, living]
      rw [List.length_cons, List.replicate_succ]
      exact run_cons_eq_some.mpr ⟨_, stepped, ih living⟩

theorem guarded_writes (count : Nat) (state : State) :
    Guarded step (AttachesTo members) state (List.replicate count (.write (.ok ()))) := by
  induction count generalizing state with
  | zero => trivial
  | succ count ih => exact ⟨trivial, fun next _ => ih next⟩

end Writes

def forkingRun (members rest : List Location) : List Action :=
  [.attach members 1, .write (.ok ()), .fork 1 2] ++
    List.replicate rest.length (.write (.ok ()))

theorem forking_run_leaves_child {first freezer : Location} {rest : List Location}
    (isMember : freezer ∈ rest) (different : first.hierarchyId ≠ freezer.hierarchyId) :
    ∃ finish, Guarded step (AttachesTo (first :: rest)) (lone (first :: rest))
        (forkingRun (first :: rest) rest) ∧
      run step (lone (first :: rest)) (forkingRun (first :: rest) rest) = some finish ∧
      finish.left = [] ∧ ¬Contained (first :: rest) freezer finish.placement := by
  let attached : Placement := (lone (first :: rest)).placement.attach first 1
  have isChild : (2 : Pid) ≠ 1 := by decide
  have living : 1 ∈ (attached.fork 1 2).alive := by
    simp [attached, Placement.fork, Placement.attach, lone]
  have executed : run step (lone (first :: rest)) (forkingRun (first :: rest) rest) =
      some { placement := attachAll (attached.fork 1 2) 1 rest, pid := 1, left := [] } := by
    have forked : run step (lone (first :: rest))
        [.attach (first :: rest) 1, .write (.ok ()), .fork 1 2] =
          some { placement := attached.fork 1 2, pid := 1, left := rest } := rfl
    rw [forkingRun, run_append, forked]
    exact run_writes living
  refine ⟨_, ?_, executed, rfl, fun contained => ?_⟩
  · have guarded : Guarded step (AttachesTo (first :: rest))
        { placement := attached.fork 1 2, pid := 1, left := rest }
        (List.replicate rest.length (.write (.ok ()))) := guarded_writes rest.length _
    have forkGuard : AttachesTo (first :: rest) { placement := attached, pid := 1, left := rest }
        (.fork 1 2) := fun _ => isChild
    exact guarded_cons rfl rfl (guarded_cons trivial rfl (guarded_cons forkGuard rfl guarded))
  · have alive : 2 ∈ (attachAll (attached.fork 1 2) 1 rest).alive := by
      simp [alive_attach_all, Placement.fork]
    have sits : (attachAll (attached.fork 1 2) 1 rest).Sits 2 first := by
      rw [sits_attach_all_other isChild, sits_child]
      exact sits_attached
    have inside := contained 2 alive first List.mem_cons_self sits
    rw [sits_attach_all_other isChild, sits_child,
      sits_attach_elsewhere (Ne.symm different)] at inside
    exact outside_ne (List.mem_cons_of_mem first isMember) inside

/-- Every member is a group of the hierarchy it is stored for. -/
def Coherent {Pointer : Type} (location : Pointer → Location)
    (cgroup : MultipleControlGroup Pointer) : Prop :=
  ∀ entry ∈ cgroup.id2cgroup_.entries, (location entry.2).hierarchyId = entry.1

section Order

variable {Pointer : Type} {location : Pointer → Location} {cgroup : MultipleControlGroup Pointer}
  {freezer : Nat} {member : Pointer}

theorem locations_first (coherent : Coherent location cgroup)
    (found : cgroup.id2cgroup_.lookup freezer = some member)
    (first : cgroup.id2cgroup_.keys.head? = some freezer) :
    ∃ rest, locations location cgroup = location member :: rest ∧
      ∀ other ∈ rest, other.hierarchyId ≠ (location member).hierarchyId := by
  have listed : ⟨freezer, member⟩ ∈ cgroup.id2cgroup_.entries := AList.mem_lookup_iff.mp found
  have distinct : (cgroup.id2cgroup_.entries.map Sigma.fst).Nodup := cgroup.id2cgroup_.nodupKeys
  have sameKey := coherent _ listed
  simp only [AList.keys, List.keys] at first
  simp only [locations]
  cases order : cgroup.id2cgroup_.entries with
  | nil => simp [order] at first
  | cons entry entries =>
      rw [order, List.map_cons, List.nodup_cons] at distinct
      rw [order, List.map_cons, List.head?_cons, Option.some.injEq] at first
      have isFirst : entry = ⟨freezer, member⟩ := by
        rw [order] at listed
        refine ((List.mem_cons.mp listed).resolve_right fun later => ?_).symm
        rw [first] at distinct
        exact distinct.1 (List.mem_map_of_mem later)
      refine ⟨entries.map fun entry => location entry.2, by rw [isFirst]; rfl, ?_⟩
      intro other inside
      obtain ⟨entry', later, rfl⟩ := List.mem_map.mp inside
      have member' : entry' ∈ cgroup.id2cgroup_.entries := by
        rw [order]
        exact List.mem_cons_of_mem entry later
      rw [coherent entry' member', sameKey, ← first]
      intro same
      exact distinct.1 (same ▸ List.mem_map_of_mem later)

theorem locations_later (coherent : Coherent location cgroup)
    (found : cgroup.id2cgroup_.lookup freezer = some member)
    (notFirst : cgroup.id2cgroup_.keys.head? ≠ some freezer) :
    ∃ first rest, locations location cgroup = first :: rest ∧ location member ∈ rest ∧
      first.hierarchyId ≠ (location member).hierarchyId := by
  have listed : ⟨freezer, member⟩ ∈ cgroup.id2cgroup_.entries := AList.mem_lookup_iff.mp found
  have sameKey := coherent _ listed
  simp only [AList.keys, List.keys] at notFirst
  simp only [locations]
  cases order : cgroup.id2cgroup_.entries with
  | nil =>
      rw [order] at listed
      cases listed
  | cons entry entries =>
      rw [order, List.map_cons, List.head?_cons, ne_eq, Option.some.injEq] at notFirst
      have later : ⟨freezer, member⟩ ∈ entries := by
        rw [order] at listed
        refine (List.mem_cons.mp listed).resolve_left fun same => ?_
        rw [← same] at notFirst
        exact notFirst rfl
      have head : entry ∈ cgroup.id2cgroup_.entries := by
        rw [order]
        exact List.mem_cons_self
      refine ⟨location entry.2, entries.map fun entry => location entry.2, rfl, ?_, ?_⟩
      · exact List.mem_map.mpr ⟨_, later, rfl⟩
      · rw [coherent entry head, sameKey]
        exact notFirst

end Order

def processes (members : List Location) (placement : Placement) : Termination.Processes :=
  { alive := placement.alive
    groups := fun pid =>
      ((members.filter fun member => placement.Sits pid member).map Location.hierarchyId).toFinset
    frozen := ∅
    killed := ∅
    freezing := false }

/-- Whatever is attached to a group that was empty, a later `terminate` kills it. -/
def KillsAttached (members : List Location) (target : Termination.Target) : Prop :=
  ∀ (start : State) (attaching : List Action) (attached : State), start.left = [] →
    (∀ member ∈ members, start.placement.tasks member = ∅) →
    Guarded step (AttachesTo members) start attaching →
    run step start attaching = some attached → attached.left = [] →
    ∀ (terminating : List Termination.Action) (state : Termination.State) (count : Nat),
      run (Termination.step target) (Termination.start (processes members attached.placement))
        terminating = some state →
      state.control.phase = .terminated count →
      ∀ member ∈ target.members, state.processes.tasks member ⊆ state.processes.killed

section Terminating

variable {Pointer : Type} {location : Pointer → Location} {cgroup : MultipleControlGroup Pointer}
  {freezer : Nat} {member : Pointer} {placement : Placement}

theorem locations_ids (coherent : Coherent location cgroup) :
    (locations location cgroup).map Location.hierarchyId = cgroup.id2cgroup_.keys := by
  rw [locations, List.map_map]
  exact List.map_congr_left coherent

theorem mem_tasks_processes {members : List Location} {id : Nat} {pid : Pid} :
    pid ∈ (processes members placement).tasks id ↔
      pid ∈ placement.alive ∧ ∃ member ∈ members, placement.Sits pid member ∧
        member.hierarchyId = id := by
  simp only [Termination.mem_tasks, processes, List.mem_toFinset, List.mem_map, List.mem_filter,
    decide_eq_true_eq, and_assoc]

/-- The two notions of a contained group agree. -/
theorem contained_processes_iff (coherent : Coherent location cgroup)
    (found : cgroup.id2cgroup_.lookup freezer = some member) :
    Termination.Contained (Termination.multiple cgroup freezer)
        (Termination.start (processes (locations location cgroup) placement)) ↔
      Contained (locations location cgroup) (location member) placement := by
  have listed : ⟨freezer, member⟩ ∈ cgroup.id2cgroup_.entries := AList.mem_lookup_iff.mp found
  have sameKey : (location member).hierarchyId = freezer := coherent _ listed
  have isMember : location member ∈ locations location cgroup := List.mem_map.mpr ⟨_, listed, rfl⟩
  have distinct : ((locations location cgroup).map Location.hierarchyId).Nodup := by
    rw [locations_ids coherent]
    exact cgroup.id2cgroup_.keys_nodup
  constructor
  · intro contained pid living other isOther sits
    have isTarget : other.hierarchyId ∈ (Termination.multiple cgroup freezer).members := by
      rw [Termination.multiple, List.mem_toFinset, ← locations_ids coherent]
      exact List.mem_map_of_mem isOther
    have inside := contained other.hierarchyId isTarget
      (mem_tasks_processes.mpr ⟨living, other, isOther, sits, rfl⟩)
    obtain ⟨_, again, isAgain, here, same⟩ := mem_tasks_processes.mp inside
    have identical : again = location member :=
      List.inj_on_of_nodup_map distinct isAgain isMember (same.trans sameKey.symm)
    exact identical ▸ here
  · intro contained id _ pid inside
    obtain ⟨living, other, isOther, sits, _⟩ := mem_tasks_processes.mp inside
    exact mem_tasks_processes.mpr
      ⟨living, location member, isMember, contained pid living other isOther sits, sameKey⟩

theorem empty_contained {members : List Location} {location : Location}
    (empty : ∀ member ∈ members, placement.tasks member = ∅) :
    Contained members location placement := by
  intro pid living member isMember sits
  have inside : pid ∈ placement.tasks member := Finset.mem_filter.mpr ⟨living, by simpa using sits⟩
  rw [empty member isMember] at inside
  exact absurd inside (Finset.notMem_empty pid)

theorem lone_empty (members : List Location) :
    ∀ member ∈ members, (lone members).placement.tasks member = ∅ := by
  intro member isMember
  refine Finset.filter_eq_empty_iff.mpr fun pid _ => ?_
  simpa [Placement.Sits, lone] using outside_ne isMember

end Terminating

/-- `terminate` kills all that has been attached to a group of several hierarchies,
however attaching and forking interleave, exactly where the iteration over the
members starts with the freezer's. -/
theorem attached_tasks_killed_iff {Pointer : Type} (location : Pointer → Location)
    (cgroup : MultipleControlGroup Pointer) (coherent : Coherent location cgroup) (freezer : Nat)
    (member : Pointer) (found : cgroup.id2cgroup_.lookup freezer = some member) :
    KillsAttached (locations location cgroup) (Termination.multiple cgroup freezer) ↔
      cgroup.id2cgroup_.keys.head? = some freezer := by
  constructor
  · intro kills
    by_contra notFirst
    obtain ⟨first, rest, order, inside, different⟩ := locations_later coherent found notFirst
    obtain ⟨attached, guarded, executed, idle, outside⟩ :=
      forking_run_leaves_child inside different
    rw [← order] at guarded executed outside
    have uncontained : ¬Termination.Contained (Termination.multiple cgroup freezer)
        (Termination.start (processes (locations location cgroup) attached.placement)) := by
      rw [contained_processes_iff coherent found]
      exact outside
    obtain ⟨terminating, state, reached, count, terminated, id, isTarget, pid, task, runs⟩ :=
      Termination.uncontained_missed rfl uncontained
    have killed := kills (lone _) _ attached rfl (lone_empty _) guarded executed idle terminating
      state count reached terminated id isTarget task
    exact runs.2.2 killed
  · intro first start attaching attached idle empty guarded executed _ terminating state count
      reached terminated id isTarget pid task
    obtain ⟨rest, order, others⟩ := locations_first coherent found first
    have initially : Contained (locations location cgroup) (location member) start.placement :=
      empty_contained empty
    rw [order] at guarded initially
    have ahead := run_ahead others idle initially guarded executed
    have contained := (contained_processes_iff coherent found).mpr (order ▸ ahead.contained)
    have covered := Termination.contained_run_covered contained reached
    exact (covered id isTarget pid task).killed count terminated

def cpuOrFreezer (pointer : Nat) : Location :=
  { hierarchyId := if pointer = 0 then 3 else 7, mountpoint := [], controlGroup := [] }

theorem attached_tasks_killed_iff_cpu_first :
    ¬KillsAttached (locations cpuOrFreezer Termination.cpuAndFreezer)
      (Termination.multiple Termination.cpuAndFreezer 7) := by
  have coherent : Coherent cpuOrFreezer Termination.cpuAndFreezer := by
    unfold Coherent
    decide
  rw [attached_tasks_killed_iff cpuOrFreezer Termination.cpuAndFreezer coherent 7 1 rfl]
  decide

end ContestSystem.Cgroup.TaskAttachment
