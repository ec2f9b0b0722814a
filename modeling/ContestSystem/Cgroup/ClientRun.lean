import ContestSystem.Cgroup.Trees
import ContestSystem.Lib.Run

/-!
# Clients of control group objects

A client obtains pointers from `root` and `attach`, calls members of the
objects it points to, copies pointers and drops them. Between its calls the
rest of the system may change the kernel state and `SystemInfo::instance` in
any way. Every reachable client is sound, so the registries are exact, calls
stay in their tree and no assertion about a registry fails.
-/

namespace ContestSystem.Cgroup.ClientRun

open ContestSystem.Lib.Forest ContestSystem.Lib.Run
open SingleControlGroup Registry Construction Transition Population Members Refinement Trees

set_option autoImplicit false

variable {σ : Type}

inductive Action (σ : Type)
  | refresh (instance_ : SystemInfoPointer)
  | outside (state : σ)
  | root (hierarchyId : Nat)
  | attach (hierarchyId : Nat) (controlGroup : BoostPath)
  | attachChild (self : ObjectId) (childControlGroup : BoostPath)
  | createChild (self : ObjectId) (childControlGroup : BoostPath) (mode : Mode)
  | parent (self : ObjectId)
  | copy (self : ObjectId)
  | drop (self : ObjectId)

/-- A returned pointer is held; a call that threw returned none. -/
def settle (held : Multiset ObjectId) :
    EStateM.Result Failure (World σ) ObjectId → Client σ
  | .ok id after => ⟨after, id ::ₘ held⟩
  | .error _ after => ⟨after, held⟩

def settleParent (held : Multiset ObjectId) :
    EStateM.Result Failure (World σ) (Option ObjectId) → Client σ
  | .ok (some id) after => ⟨after, id ::ₘ held⟩
  | .ok none after => ⟨after, held⟩
  | .error _ after => ⟨after, held⟩

/-- Only a held pointer can be used. -/
def step (kernel : Kernel σ) (client : Client σ) : Action σ → Option (Client σ)
  | .refresh instance_ => some { client with world := { client.world with instance_ } }
  | .outside state => some { client with world := client.world.asked state }
  | .root hierarchyId => some (settle client.held (root kernel hierarchyId client.world))
  | .attach hierarchyId controlGroup =>
      some (settle client.held (attach kernel hierarchyId controlGroup client.world))
  | .attachChild self childControlGroup =>
      if self ∈ client.held then
        some (settle client.held (attachChild kernel self childControlGroup client.world))
      else none
  | .createChild self childControlGroup mode =>
      if self ∈ client.held then
        some (settle client.held (createChild kernel self childControlGroup mode client.world))
      else none
  | .parent self =>
      if self ∈ client.held then
        some (settleParent client.held (parent self client.world))
      else none
  | .copy self =>
      if self ∈ client.held then some (settle client.held (pointer self client.world)) else none
  | .drop self =>
      if self ∈ client.held then
        some ⟨release kernel self client.world, client.held.erase self⟩
      else none

def start (instance_ : SystemInfoPointer) (state : σ) : Client σ :=
  { world :=
      { objects := fun _ => none
        fresh := 0
        instance_ := instance_
        kernel := state
        journal := [] }
    held := 0 }

theorem start_sound (instance_ : SystemInfoPointer) (state : σ) :
    ClientSound (start instance_ state) := sound_empty

section Step

variable {kernel : Kernel σ} {client next : Client σ}

/-- What the rest of the system does leaves the objects alone. -/
structure Unrelated (client next : Client σ) : Prop where
  objects : next.world.objects = client.world.objects
  fresh : next.world.fresh = client.world.fresh
  journal : next.world.journal = client.world.journal
  held : next.held = client.held

theorem settled_transitions {call : Call σ ObjectId}
    (refines : Refines kernel call client.world client.held) :
    Transitions kernel client (settle client.held (call client.world)) := by
  cases called : call client.world with
  | ok id after => exact refines.returned id after called
  | error failure after => exact (refines.thrown failure after called).1

theorem parent_transitions (sound : ClientSound client) {self : ObjectId}
    {group : SingleControlGroup} (live : client.world.objects self = some group) :
    Transitions kernel client (settleParent client.held (parent self client.world)) := by
  have cases := parent_cases live
  cases parentAt : group.parent_ with
  | none =>
      rw [cases.1 parentAt]
      exact .refl
  | some up =>
      rcases sound.linked self group up live parentAt with ⟨_, above, _, upLive, _⟩
      rw [cases.2 up above parentAt upLive]
      exact .single (.retained client up above upLive)

theorem step_cases (sound : ClientSound client) {action : Action σ}
    (stepped : step kernel client action = some next) :
    Unrelated client next ∨ Transitions kernel client next := by
  have whenHeld : ∀ (self : ObjectId) (result : Client σ),
      (if self ∈ client.held then some result else none) = some next →
        self ∈ client.held ∧ result = next := by
    intro self result found
    split at found
    next member => exact ⟨member, Option.some.inj found⟩
    next => cases found
  cases action with
  | refresh instance_ =>
      cases stepped
      exact .inl ⟨rfl, rfl, rfl, rfl⟩
  | outside state =>
      cases stepped
      exact .inl ⟨rfl, rfl, rfl, rfl⟩
  | root hierarchyId =>
      cases stepped
      exact .inr (settled_transitions (root_refines kernel client.world client.held hierarchyId))
  | attach hierarchyId controlGroup =>
      cases stepped
      exact .inr (settled_transitions (attach_refines sound hierarchyId controlGroup))
  | attachChild self childControlGroup =>
      rcases whenHeld self _ stepped with ⟨member, rfl⟩
      rcases sound.heldLive self member with ⟨group, live⟩
      exact .inr (settled_transitions (attach_child_refines sound live childControlGroup))
  | createChild self childControlGroup mode =>
      rcases whenHeld self _ stepped with ⟨member, rfl⟩
      rcases sound.heldLive self member with ⟨group, live⟩
      exact .inr (settled_transitions (create_child_refines sound live childControlGroup mode))
  | parent self =>
      rcases whenHeld self _ stepped with ⟨member, rfl⟩
      rcases sound.heldLive self member with ⟨group, live⟩
      exact .inr (parent_transitions sound live)
  | copy self =>
      rcases whenHeld self _ stepped with ⟨member, rfl⟩
      rcases sound.heldLive self member with ⟨group, live⟩
      rw [pointer_eq live]
      exact .inr (.single (.retained client self group live))
  | drop self =>
      rcases whenHeld self _ stepped with ⟨member, rfl⟩
      exact .inr (release_transitions kernel sound member)

theorem step_sound (sound : ClientSound client) {action : Action σ}
    (stepped : step kernel client action = some next) : ClientSound next := by
  rcases step_cases sound stepped with unrelated | steps
  · show Sound next.world.objects next.world.fresh next.held
    rw [unrelated.objects, unrelated.fresh, unrelated.held]
    exact sound
  · exact transitions_sound sound steps

theorem run_sound {instance_ : SystemInfoPointer} {state : σ} {actions : List (Action σ)}
    (executed : run (step kernel) (start instance_ state) actions = some client) :
    ClientSound client :=
  run_invariant (fun client => ClientSound client)
    (fun _ _ _ sound stepped => step_sound sound stepped) (start_sound instance_ state) executed

end Step

/-- `children_` lists the live children and nothing else, and a tree has at
most one live object for a path. -/
structure RegistryExact (objects : Heap) : Prop where
  lists : ∀ id group name child, objects id = some group →
    (group.children_.lookup name = some child ↔
      ∃ below, objects child = some below ∧ below.parent_ = some id ∧
        below.filename = some name ∧ below.controlGroup_ = group.controlGroup_ ++ [name])
  complete : ∀ id below parent, objects id = some below → below.parent_ = some parent →
    ∃ group name, objects parent = some group ∧ group.children_.lookup name = some id
  unique : ∀ root left right, Alive objects left → Alive objects right →
    InTree (parentOf objects) root left → InTree (parentOf objects) root right →
      pathOf objects left = pathOf objects right → left = right

/-- Calls on a held object stay in its tree and report no error of the library itself. -/
structure MembersSafe (kernel : Kernel σ) (client : Client σ) : Prop where
  rootThrows : ∀ hierarchyId failure after,
    root kernel hierarchyId client.world = .error failure after → External failure
  attachThrows : ∀ hierarchyId path failure after,
    attach kernel hierarchyId path client.world = .error failure after → External failure
  attachChildThrows : ∀ self ∈ client.held, ∀ path failure after,
    attachChild kernel self path client.world = .error failure after → External failure
  createChildThrows : ∀ self ∈ client.held, ∀ path mode failure after,
    createChild kernel self path mode client.world = .error failure after → External failure
  attachChildTree : ∀ self ∈ client.held, ∀ path result after,
    attachChild kernel self path client.world = .ok result after →
      SameTree after.objects self result
  createChildTree : ∀ self ∈ client.held, ∀ path mode result after,
    createChild kernel self path mode client.world = .ok result after →
      SameTree after.objects self result
  parentReturns : ∀ self ∈ client.held, ∃ result after,
    parent self client.world = .ok result after ∧
      ∀ up, result = some up → SameTree after.objects self up

theorem registry_exact_of_sound {objects : Heap} {fresh : ObjectId} {held : Multiset ObjectId}
    (sound : Sound objects fresh held) : RegistryExact objects := by
  constructor
  · intro id group name child live
    rw [registered_iff sound live]
    constructor
    · intro ⟨below, childLive, parentAt, named⟩
      rcases sound.linked child below id childLive parentAt with
        ⟨_, above, last, aboveLive, extends_, _⟩
      have sameGroup := Option.some.inj (live.symm.trans aboveLive)
      have sameName := Option.some.inj ((extends_filename extends_).symm.trans named)
      refine ⟨below, childLive, parentAt, named, ?_⟩
      rw [sameGroup, ← sameName]
      exact extends_.controlGroup
    · intro ⟨below, childLive, parentAt, named, _⟩
      exact ⟨below, childLive, parentAt, named⟩
  · intro id below parent live parentAt
    rcases sound.linked id below parent live parentAt with ⟨_, above, name, aboveLive, _, listed⟩
    exact ⟨above, name, aboveLive, listed⟩
  · intro root left right leftAlive rightAlive leftInside rightInside samePath
    exact node_unique (labelled_of_sound sound) leftAlive rightAlive leftInside rightInside
      samePath

theorem checked_walk_tree {kernel : Kernel σ} {client : Client σ}
    {direct : ObjectId → Component → Call σ ObjectId} (refines : StepRefines kernel direct)
    (lands : StepLands direct) (sound : ClientSound client) {self result : ObjectId}
    (member : self ∈ client.held) {path : BoostPath} {after : World σ}
    (returned : (do
        checkChildControlGroup path
        walk kernel direct self path.components : Call σ ObjectId) client.world =
      .ok result after) : SameTree after.objects self result := by
  rcases sound.heldLive self member with ⟨group, live⟩
  cases absolute : path.isAbsolute with
  | true =>
      rw [absolute_refused direct absolute] at returned
      cases returned
  | false =>
      rw [relative_walks direct absolute] at returned
      exact (walk_reaches refines lands sound member live returned).sameTree

theorem attach_step_lands (kernel : Kernel σ) : StepLands (attachDirectChild kernel) := by
  intro world held current next above name after sound live returned
  exact attach_direct_child_lands sound live returned

theorem create_step_lands (kernel : Kernel σ) (mode : Mode) :
    StepLands fun current i => createDirectChild kernel current i mode := by
  intro world held current next above name after sound live returned
  exact create_direct_child_lands sound live returned

theorem members_safe_of_sound {kernel : Kernel σ} {client : Client σ}
    (sound : ClientSound client) : MembersSafe kernel client := by
  constructor
  · intro hierarchyId failure after thrown
    exact ((root_refines kernel client.world client.held hierarchyId).thrown _ _ thrown).2
  · intro hierarchyId path failure after thrown
    exact ((attach_refines sound hierarchyId path).thrown _ _ thrown).2
  · intro self member path failure after thrown
    rcases sound.heldLive self member with ⟨group, live⟩
    exact ((attach_child_refines sound live path).thrown _ _ thrown).2
  · intro self member path mode failure after thrown
    rcases sound.heldLive self member with ⟨group, live⟩
    exact ((create_child_refines sound live path mode).thrown _ _ thrown).2
  · intro self member path result after returned
    exact checked_walk_tree (attach_step_refines kernel) (attach_step_lands kernel) sound member
      returned
  · intro self member path mode result after returned
    exact checked_walk_tree (create_step_refines kernel mode) (create_step_lands kernel mode)
      sound member returned
  · intro self member
    rcases sound.heldLive self member with ⟨group, live⟩
    have cases := parent_cases live
    cases parentAt : group.parent_ with
    | none => exact ⟨none, client.world, cases.1 parentAt, by simp⟩
    | some up =>
        rcases sound.linked self group up live parentAt with ⟨_, above, _, upLive, _⟩
        refine ⟨some up, _, cases.2 up above parentAt upLive, ?_⟩
        intro other same
        rw [← Option.some.inj same]
        have retained := retained_sound sound upLive
        have selfAlive := retained.heldLive self (Multiset.mem_cons_of_mem member)
        apply same_tree_of_adjacent retained selfAlive
        right
        left
        rw [retain_parent, parent_of_live live, parentAt]

/-- In every run of a client, over any kernel and whatever the rest of the
system does in between, the registries are exact and calls keep to their tree. -/
theorem registry_exact_in_every_run (kernel : Kernel σ) (instance_ : SystemInfoPointer)
    (state : σ) (actions : List (Action σ)) (client : Client σ)
    (executed : run (step kernel) (start instance_ state) actions = some client) :
    RegistryExact client.world.objects ∧ MembersSafe kernel client := by
  have sound := run_sound executed
  exact ⟨registry_exact_of_sound sound, members_safe_of_sound sound⟩

/-- A kernel whose state lists the control groups below the roots of the hierarchies. -/
def directoryKernel : Kernel (List Group) where
  symlinkStatus path := fun groups =>
    if path.entries = [] ∧
        (path.location.controlGroup = [] ∨ path.location.group ∈ groups) then
      .ok .directoryFile groups
    else .ok .fileNotFound groups
  isDirectory path := fun groups =>
    .ok (path.entries = [] ∧
      (path.location.controlGroup = [] ∨ path.location.group ∈ groups)) groups
  mkdir location _ := fun groups =>
    if location.group ∈ groups ∨ ∃ group ∈ groups, group.StrictlyBelow location.group then
      .error EEXIST groups
    else .ok () (location.group :: groups)
  remove location := fun groups =>
    if ∃ group ∈ groups, group.StrictlyBelow location.group then .error ENOTEMPTY groups
    else .ok (location.group ∈ groups) (groups.filter (· ≠ location.group))
  read _ := fun groups => .ok "" groups
  write _ _ := fun groups => .ok () groups

def cpuHierarchy : HierarchyInfo :=
  { id := 3, subsystems := ["cpu"], mountpoint := some [⟨"cpu", by decide⟩] }

def cpuSystem : SystemInfoPointer where
  info :=
    { id2hierarchy_ := AList.insert 3 cpuHierarchy ∅
      mountpoint2id_ := AList.insert [⟨"cpu", by decide⟩] 3 ∅
      subsystem2id_ := AList.insert "cpu" 3 ∅ }
  keyed := by
    intro id hierarchyInfo found
    by_cases same : id = 3
    · subst same
      simp only [AList.lookup_insert, Option.some.injEq] at found
      rw [← found]
      rfl
    · rw [AList.lookup_insert_ne same] at found
      cases found

def jobs : Component := ⟨"jobs", by decide⟩

def task : Component := ⟨"task", by decide⟩

def up : Component := ⟨"..", by decide⟩

/-- Two nested groups are created, the outer pointer is dropped and the outer
group is reached again from the inner one. -/
def nestedRun : List (Action (List Group)) :=
  [.root 3, .createChild 0 (.relative [jobs]) 0o777, .createChild 1 (.relative [task]) 0o777,
    .drop 1, .attachChild 2 (.relative [up, up, jobs])]

theorem registry_exact_in_nested_run :
    ∃ client, run (step directoryKernel) (start cpuSystem []) nestedRun = some client ∧
      client.held = {1, 2, 0} ∧
      RegistryExact client.world.objects ∧ MembersSafe directoryKernel client :=
  ⟨_, rfl, by decide, registry_exact_in_every_run directoryKernel cpuSystem [] nestedRun _ rfl⟩

end ContestSystem.Cgroup.ClientRun
