import ContestSystem.Cgroup.Termination
import ContestSystem.Lib.Pool

/-!
# Guards that terminate their group

A `TerminationGuard` holds a pointer to a control group or nothing, and its
destructor terminates the group. The moves are those of the pointer. The
journal records the groups that are handed to a guard, those that are detached
from one, and every attempt to terminate one with its outcome, newest entry
first.
-/

namespace ContestSystem.Cgroup

open ContestSystem.Lib.Ownership ContestSystem.Lib.Run ContestSystem.Lib.Unordered

set_option autoImplicit false

inductive GuardEvent (Group : Type)
  | handed (group : Group)
  | detached (group : Group)
  | attempted (group : Group) (outcome : Except Termination.Thrown Nat)
deriving DecidableEq

structure TerminationGuard (Group : Type) where
  controlGroup_ : Option Group := none
deriving DecidableEq

namespace TerminationGuard

variable {Group : Type}

/-- `TerminationGuard(TerminationGuard &&)`: the new guard and the source. -/
def moveConstruct (source : TerminationGuard Group) :
    (TerminationGuard Group × TerminationGuard Group) × List (GuardEvent Group) :=
  (({ controlGroup_ := source.controlGroup_ }, { controlGroup_ := none }), [])

/-- `operator=(TerminationGuard &&)`: a temporary takes the source's pointer, is
swapped with the target and drops what the target held. -/
def moveAssign (_target source : TerminationGuard Group) :
    (TerminationGuard Group × TerminationGuard Group) × List (GuardEvent Group) :=
  (({ controlGroup_ := source.controlGroup_ }, { controlGroup_ := none }), [])

/-- From the guard itself, the temporary gives back what it took. -/
def moveAssignSelf (target : TerminationGuard Group) :
    TerminationGuard Group × List (GuardEvent Group) :=
  ({ controlGroup_ := target.controlGroup_ }, [])

def detach (guard : TerminationGuard Group) : TerminationGuard Group × List (GuardEvent Group) :=
  ({ controlGroup_ := none }, (guard.controlGroup_.map GuardEvent.detached).toList)

/-- `none` where there is no group to terminate. -/
def terminate (outcome : Except Termination.Thrown Nat) (guard : TerminationGuard Group) :
    Option (TerminationGuard Group × List (GuardEvent Group)) :=
  guard.controlGroup_.map fun group => (guard, [.attempted group outcome])

/-- The destructor, which logs what `terminate` throws. -/
def destroy (outcome : Except Termination.Thrown Nat) (guard : TerminationGuard Group) :
    List (GuardEvent Group) :=
  match guard.controlGroup_ with
  | some group => [.attempted group outcome]
  | none => []

end TerminationGuard

abbrev Guards (Group : Type) := Pool Nat (TerminationGuard Group) (GuardEvent Group)

namespace Guards

variable {Group : Type}

inductive Action (Group : Type)
  | default (address : Nat)
  | construct (address : Nat) (group : Group)
  | moveConstruct (address source : Nat)
  | moveAssign (target source : Nat)
  | detach (address : Nat)
  | terminate (address : Nat) (outcome : Except Termination.Thrown Nat)
  | destroy (address : Nat) (outcome : Except Termination.Thrown Nat)
deriving DecidableEq

def step (state : Guards Group) : Action Group → Option (Guards Group)
  | .default address => state.construct address {} []
  | .construct address group =>
      state.construct address { controlGroup_ := some group } [.handed group]
  | .moveConstruct address source =>
      state.constructFrom address source TerminationGuard.moveConstruct
  | .moveAssign target source =>
      if target = source then state.change target (some ∘ TerminationGuard.moveAssignSelf)
      else state.changeTwo target source TerminationGuard.moveAssign
  | .detach address => state.change address (some ∘ TerminationGuard.detach)
  | .terminate address outcome => state.change address (TerminationGuard.terminate outcome)
  | .destroy address outcome => state.destroy address (TerminationGuard.destroy outcome)

def groupAt (state : Guards Group) (address : Nat) : Option Group :=
  (state.store.lookup address).bind TerminationGuard.controlGroup_

/-- Where an action moves a group from and to. -/
def Action.moves : Action Group → Option (Nat × Nat)
  | .moveConstruct address source => some (source, address)
  | .moveAssign target source => some (source, target)
  | _ => none

/-- What a step adds to the journal has this entry. -/
def Records (state next : Guards Group) (event : GuardEvent Group) : Prop :=
  ∃ events, next.journal = events ++ state.journal ∧ event ∈ events

/-- A guard stops holding a group only when the step detaches it, moves it into
another guard, or attempts to terminate it. -/
def NeverSilent (state next : Guards Group) (action : Action Group) : Prop :=
  ∀ address group, groupAt state address = some group → groupAt next address ≠ some group →
    (action = .detach address ∧ Records state next (.detached group)) ∨
      (∃ target, action.moves = some (address, target) ∧ groupAt next target = some group) ∨
      ∃ outcome, Records state next (.attempted group outcome)

/-- Where the target of a move assignment holds a group, the same one is moved. -/
def Guard (state : Guards Group) : Action Group → Prop
  | .moveAssign target source =>
      target = source ∨ groupAt state target = none ∨
        groupAt state target = groupAt state source
  | _ => True

instance [DecidableEq Group] (state : Guards Group) : ∀ action, Decidable (Guard state action)
  | .moveAssign target source =>
      inferInstanceAs (Decidable (target = source ∨ groupAt state target = none ∨
        groupAt state target = groupAt state source))
  | .default _ | .construct _ _ | .moveConstruct _ _ | .detach _ | .terminate _ _
  | .destroy _ _ => .isTrue trivial

/-- What is expected of the groups after a run. -/
structure GroupsAttempted (actions : List (Action Group)) (finish : Guards Group) : Prop where
  neverSilent : ∀ earlier action before, actions = earlier ++ [action] →
    run step Pool.start earlier = some before → NeverSilent before finish action
  attempted : finish.store = ∅ → ∀ later group earlier,
    finish.journal = later ++ .handed group :: earlier → .detached group ∉ later →
      ∃ outcome, .attempted group outcome ∈ later

section Step

variable {state next : Guards Group} {action : Action Group} {address : Nat} {group : Group}

theorem group_at_of_lookup {guard : TerminationGuard Group}
    (found : state.store.lookup address = some guard) :
    groupAt state address = guard.controlGroup_ := by
  rw [groupAt, found]
  rfl

theorem group_at_same (same : next.store.lookup address = state.store.lookup address) :
    groupAt next address = groupAt state address := by
  rw [groupAt, same]
  rfl

theorem group_at_kept (same : next.store.lookup address = state.store.lookup address)
    (holds : groupAt state address = some group) : groupAt next address = some group := by
  rw [group_at_same same]
  exact holds

theorem holder_not_fresh {slot : Nat} (absent : state.store.lookup slot = none)
    (holds : groupAt state address = some group) : address ≠ slot := by
  intro same
  rw [groupAt, same, absent] at holds
  cases holds

theorem construct_never_silent {slot : Nat} {guard : TerminationGuard Group}
    {events : List (GuardEvent Group)}
    (stepped : state.construct slot guard events = some next) :
    NeverSilent state next action := by
  intro address group holds dropped
  obtain ⟨absent, _, slots⟩ := Pool.construct_cases stepped
  have kept := slots address
  rw [if_neg (holder_not_fresh absent holds)] at kept
  exact absurd (group_at_kept kept holds) dropped

theorem move_construct_never_silent {slot source : Nat}
    (stepped : step state (.moveConstruct slot source) = some next) :
    NeverSilent state next (.moveConstruct slot source) := by
  intro address group holds dropped
  obtain ⟨guard, absent, found, _, _, slots⟩ := Pool.construct_from_cases stepped
  have kept := slots address
  rw [if_neg (holder_not_fresh absent holds)] at kept
  by_cases moved : address = source
  · right
    left
    subst moved
    have into := slots slot
    rw [if_pos rfl] at into
    refine ⟨slot, rfl, ?_⟩
    rw [group_at_of_lookup into, ← holds, group_at_of_lookup found]
    rfl
  · rw [if_neg moved] at kept
    exact absurd (group_at_kept kept holds) dropped

theorem move_assign_groups {target source : Nat} (different : target ≠ source)
    (stepped : step state (.moveAssign target source) = some next) :
    groupAt next target = groupAt state source ∧ groupAt next source = none ∧
      next.journal = state.journal ∧
      ∀ other, other ≠ target → other ≠ source → groupAt next other = groupAt state other := by
  simp only [step, if_neg different] at stepped
  obtain ⟨one, two, foundTarget, foundSource, journal, slots⟩ := Pool.change_two_cases stepped
  have atTarget := slots target
  rw [if_neg different, if_pos rfl] at atTarget
  have atSource := slots source
  rw [if_pos rfl] at atSource
  refine ⟨?_, group_at_of_lookup atSource, journal, ?_⟩
  · rw [group_at_of_lookup atTarget, group_at_of_lookup foundSource]
    rfl
  · intro other notTarget notSource
    have kept := slots other
    rw [if_neg notSource, if_neg notTarget] at kept
    exact group_at_same kept

theorem move_assign_self_kept {target : Nat}
    (stepped : step state (.moveAssign target target) = some next) (address : Nat) :
    groupAt next address = groupAt state address := by
  simp only [step, if_pos] at stepped
  obtain ⟨guard, result, found, called, _, slots⟩ := Pool.change_cases stepped
  cases called
  have after := slots address
  by_cases same : address = target
  · subst same
    rw [if_pos rfl] at after
    rw [group_at_of_lookup after, group_at_of_lookup found]
    rfl
  · rw [if_neg same] at after
    exact group_at_same after

theorem move_assign_never_silent {target source : Nat}
    (guard : Guard state (.moveAssign target source))
    (stepped : step state (.moveAssign target source) = some next) :
    NeverSilent state next (.moveAssign target source) := by
  intro address group holds dropped
  by_cases different : target = source
  · subst different
    rw [move_assign_self_kept stepped] at dropped
    exact absurd holds dropped
  · obtain ⟨atTarget, atSource, _, elsewhere⟩ := move_assign_groups different stepped
    by_cases moved : address = source
    · right
      left
      subst moved
      exact ⟨target, rfl, atTarget.trans holds⟩
    · by_cases assigned : address = target
      · subst assigned
        rcases guard with same | empty | equal
        · exact absurd same different
        · rw [empty] at holds
          cases holds
        · rw [atTarget, ← equal] at dropped
          exact absurd holds dropped
      · rw [elsewhere address assigned moved] at dropped
        exact absurd holds dropped

theorem detach_never_silent {slot : Nat} (stepped : step state (.detach slot) = some next) :
    NeverSilent state next (.detach slot) := by
  intro address group holds dropped
  obtain ⟨guard, result, found, called, journal, slots⟩ := Pool.change_cases stepped
  cases called
  by_cases same : address = slot
  · left
    subst same
    rw [group_at_of_lookup found] at holds
    refine ⟨rfl, _, journal, ?_⟩
    simp [TerminationGuard.detach, holds]
  · have kept := slots address
    rw [if_neg same] at kept
    exact absurd (group_at_kept kept holds) dropped

theorem terminate_never_silent {slot : Nat} {outcome : Except Termination.Thrown Nat}
    (stepped : step state (.terminate slot outcome) = some next) :
    NeverSilent state next (.terminate slot outcome) := by
  intro address group holds dropped
  obtain ⟨guard, result, found, called, _, slots⟩ := Pool.change_cases stepped
  obtain ⟨held, _, rfl⟩ := Option.map_eq_some_iff.mp called
  have after := slots address
  by_cases same : address = slot
  · subst same
    rw [if_pos rfl] at after
    rw [group_at_of_lookup after, ← group_at_of_lookup found] at dropped
    exact absurd holds dropped
  · rw [if_neg same] at after
    exact absurd (group_at_kept after holds) dropped

theorem destroy_never_silent {slot : Nat} {outcome : Except Termination.Thrown Nat}
    (stepped : step state (.destroy slot outcome) = some next) :
    NeverSilent state next (.destroy slot outcome) := by
  intro address group holds dropped
  obtain ⟨guard, found, journal, slots⟩ := Pool.destroy_cases stepped
  by_cases same : address = slot
  · right
    right
    subst same
    rw [group_at_of_lookup found] at holds
    refine ⟨outcome, _, journal, ?_⟩
    simp [TerminationGuard.destroy, holds]
  · have kept := slots address
    rw [if_neg same] at kept
    exact absurd (group_at_kept kept holds) dropped

theorem step_never_silent (guard : Guard state action) (stepped : step state action = some next) :
    NeverSilent state next action := by
  cases action with
  | default slot => exact construct_never_silent stepped
  | construct slot group => exact construct_never_silent stepped
  | moveConstruct slot source => exact move_construct_never_silent stepped
  | moveAssign target source => exact move_assign_never_silent guard stepped
  | detach slot => exact detach_never_silent stepped
  | terminate slot outcome => exact terminate_never_silent stepped
  | destroy slot outcome => exact destroy_never_silent stepped

/-- A step is silent about no group exactly where it is guarded. -/
theorem guard_iff (stepped : step state action = some next) :
    Guard state action ↔ NeverSilent state next action := by
  constructor
  · intro guard
    exact step_never_silent guard stepped
  · intro neverSilent
    cases action with
    | moveAssign target source =>
        by_cases different : target = source
        · exact .inl different
        · obtain ⟨atTarget, atSource, journal, _⟩ := move_assign_groups different stepped
          cases held : groupAt state target with
          | none => exact .inr (.inl held)
          | some group =>
              by_cases dropped : groupAt next target = some group
              · right
                right
                rw [held, ← atTarget, dropped]
              · rcases neverSilent target group held dropped with
                  ⟨detached, _⟩ | ⟨other, moved, _⟩ | ⟨outcome, events, added, member⟩
                · cases detached
                · cases moved
                  exact absurd rfl different
                · rw [journal, List.self_eq_append_left] at added
                  rw [added] at member
                  cases member
    | default slot => trivial
    | construct slot group => trivial
    | moveConstruct slot source => trivial
    | detach slot => trivial
    | terminate slot outcome => trivial
    | destroy slot outcome => trivial

end Step

section Runs

variable {state next finish : Guards Group} {action : Action Group}
  {actions : List (Action Group)}

theorem step_journal (stepped : step state action = some next) :
    next.journal = state.journal ∨ ∃ event, next.journal = event :: state.journal ∧
      ∀ group, event = .handed group → ∃ address, groupAt next address = some group := by
  cases action with
  | default slot => exact .inl (Pool.construct_cases stepped).2.1
  | construct slot group =>
      obtain ⟨_, journal, slots⟩ := Pool.construct_cases stepped
      refine .inr ⟨.handed group, journal, ?_⟩
      intro other same
      cases same
      have after := slots slot
      rw [if_pos rfl] at after
      exact ⟨slot, group_at_of_lookup after⟩
  | moveConstruct slot source =>
      obtain ⟨guard, _, _, _, journal, _⟩ := Pool.construct_from_cases stepped
      exact .inl journal
  | moveAssign target source =>
      simp only [step] at stepped
      split at stepped
      · obtain ⟨guard, result, _, called, journal, _⟩ := Pool.change_cases stepped
        cases called
        exact .inl journal
      · obtain ⟨one, two, _, _, journal, _⟩ := Pool.change_two_cases stepped
        exact .inl journal
  | detach slot =>
      obtain ⟨⟨held⟩, result, _, called, journal, _⟩ := Pool.change_cases stepped
      cases called
      cases held with
      | none => exact .inl journal
      | some group => exact .inr ⟨.detached group, journal, by simp⟩
  | terminate slot outcome =>
      obtain ⟨guard, result, _, called, journal, _⟩ := Pool.change_cases stepped
      obtain ⟨group, _, rfl⟩ := Option.map_eq_some_iff.mp called
      exact .inr ⟨.attempted group outcome, journal, by simp⟩
  | destroy slot outcome =>
      obtain ⟨⟨held⟩, _, journal, _⟩ := Pool.destroy_cases stepped
      cases held with
      | none => exact .inl journal
      | some group => exact .inr ⟨.attempted group outcome, journal, by simp⟩

/-- What became of a group by the entries since it was handed in. -/
def Watched (state : Guards Group) (group : Group) (later : List (GuardEvent Group)) : Prop :=
  (∃ address, groupAt state address = some group) ∨ .detached group ∈ later ∨
    ∃ outcome, .attempted group outcome ∈ later

def AllWatched (state : Guards Group) : Prop :=
  ∀ later group earlier, state.journal = later ++ .handed group :: earlier →
    Watched state group later

theorem records_added {event added : GuardEvent Group}
    (recorded : Records state next event) (journal : next.journal = added :: state.journal) :
    event = added := by
  obtain ⟨events, appended, member⟩ := recorded
  have single : [added] = events := by
    apply List.append_cancel_right
    rw [← appended, journal]
    rfl
  rw [← single] at member
  exact List.mem_singleton.mp member

theorem not_records_same {event : GuardEvent Group} (journal : next.journal = state.journal) :
    ¬Records state next event := by
  intro ⟨events, appended, member⟩
  rw [journal, List.self_eq_append_left] at appended
  rw [appended] at member
  cases member

theorem watched_step {group : Group} {later added : List (GuardEvent Group)}
    (neverSilent : NeverSilent state next action)
    (recorded : ∀ event, Records state next event → event ∈ added)
    (watched : Watched state group later) : Watched next group (added ++ later) := by
  rcases watched with ⟨address, holds⟩ | detached | ⟨outcome, attempted⟩
  · by_cases dropped : groupAt next address = some group
    · exact .inl ⟨address, dropped⟩
    · rcases neverSilent address group holds dropped with
        ⟨_, detached⟩ | ⟨target, _, into⟩ | ⟨outcome, attempted⟩
      · exact .inr (.inl (List.mem_append_left _ (recorded _ detached)))
      · exact .inl ⟨target, into⟩
      · exact .inr (.inr ⟨outcome, List.mem_append_left _ (recorded _ attempted)⟩)
  · exact .inr (.inl (List.mem_append_right _ detached))
  · exact .inr (.inr ⟨outcome, List.mem_append_right _ attempted⟩)

theorem step_watched (all : AllWatched state) (guard : Guard state action)
    (stepped : step state action = some next) : AllWatched next := by
  have neverSilent := step_never_silent guard stepped
  intro later group earlier split
  rcases step_journal stepped with same | ⟨event, added, handed⟩
  · have recorded : ∀ event, Records state next event → event ∈ ([] : List (GuardEvent Group)) :=
      fun _ records => absurd records (not_records_same same)
    rw [same] at split
    exact watched_step neverSilent recorded (all later group earlier split)
  · rw [added] at split
    cases later with
    | nil =>
        cases split
        exact .inl (handed group rfl)
    | cons first later =>
        have recorded : ∀ other, Records state next other → other ∈ [event] :=
          fun other records => List.mem_singleton.mpr (records_added records added)
        obtain ⟨same, rest⟩ := List.cons.inj split
        rw [← same]
        exact watched_step neverSilent recorded (all later group earlier rest)

theorem run_watched (guarded : Guarded step Guard Pool.start actions)
    (executed : run step Pool.start actions = some finish) : AllWatched finish := by
  have initial : AllWatched (Pool.start : Guards Group) := by
    intro later group earlier split
    have empty : ([] : List (GuardEvent Group)) = later ++ .handed group :: earlier := split
    simp at empty
  exact guarded_invariant AllWatched (fun _ _ _ all guard => step_watched all guard) initial
    guarded executed

/-- Every program that assigns to a guard only where the guard holds nothing, or
holds the group that is moved. -/
theorem groups_attempted (guarded : Guarded step Guard Pool.start actions)
    (executed : run step Pool.start actions = some finish) : GroupsAttempted actions finish := by
  refine ⟨?_, ?_⟩
  · intro earlier action before split reached
    subst split
    obtain ⟨last, reachedToo, guard, stepped⟩ := guarded_last guarded executed
    rw [reached] at reachedToo
    cases reachedToo
    exact step_never_silent guard stepped
  · intro empty later group earlier split undetached
    rcases run_watched guarded executed later group earlier split with
      ⟨address, holds⟩ | detached | attempted
    · rw [groupAt, empty, AList.lookup_empty] at holds
      cases holds
    · exact absurd detached undetached
    · exact attempted

/-- The group of a guard that has been moved twice, and one that is detached. -/
theorem groups_attempted_moved :
    let actions : List (Action Nat) :=
      [.construct 0 7, .moveConstruct 1 0, .moveAssign 0 1, .moveAssign 0 0, .construct 2 8,
        .terminate 2 (.ok 1), .detach 2, .destroy 2 (.ok 0), .destroy 1 (.ok 0),
        .destroy 0 (.error .other)]
    let finish : Guards Nat :=
      { store := ∅
        journal := [.attempted 7 (.error .other), .detached 8, .attempted 8 (.ok 1), .handed 8,
          .handed 7] }
    run step Pool.start actions = some finish ∧ GroupsAttempted actions finish := by
  intro actions finish
  have executed : run step Pool.start actions = some finish := by rfl
  exact ⟨executed, groups_attempted (by decide) executed⟩

/-- The group of the guard that is assigned to is dropped. -/
theorem assigned_guard_drops_group :
    ∃ finish, run step Pool.start
        [.construct 0 7, .construct 1 8, .moveAssign 0 1, .destroy 1 (.ok 0), .destroy 0 (.ok 2)] =
          some finish ∧
      ¬GroupsAttempted
        [.construct 0 7, .construct 1 8, .moveAssign 0 1, .destroy 1 (.ok 0), .destroy 0 (.ok 2)]
        finish := by
  let finish : Guards Nat :=
    { store := ∅, journal := [.attempted 8 (.ok 2), .handed 8, .handed 7] }
  refine ⟨finish, by rfl, ?_⟩
  intro accounted
  obtain ⟨outcome, member⟩ :=
    accounted.attempted rfl [.attempted 8 (.ok 2), .handed 8] 7 [] rfl (by simp)
  simp at member

end Runs

end Guards

end ContestSystem.Cgroup
