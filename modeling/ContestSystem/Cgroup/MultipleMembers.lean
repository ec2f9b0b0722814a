import ContestSystem.Cgroup.AttachWalk
import ContestSystem.Cgroup.CreateRollback

/-!
# Members of all hierarchies at once

`attachChild`, `createChild` and `parent` of a `MultipleControlGroup` call the
function of every member and collect the returned pointers in a new map, whose
destructor drops them when a later member throws or has no parent. A loop that
returns has therefore added one pointer for every hierarchy, to the object of
the member's tree that the same walk leads to, and one that does not return a
map has left the held pointers as they were.
-/

namespace ContestSystem.Cgroup

open ContestSystem.Lib.Throwing ContestSystem.Lib.Unordered

set_option autoImplicit false

namespace MultipleControlGroup

variable {σ : Type} (kernel : Kernel σ)

/-- The loop body of `attachChild` and of `createChild`, with the function of the member. -/
def gatherMember (order : HashOrder Nat) (call : ObjectId → Call σ ObjectId)
    (child : MultipleControlGroup ObjectId) (id_cgroup : (_ : Nat) × ObjectId) :
    Call σ (MultipleControlGroup ObjectId) := do
  let gathered ← unwinding (call id_cgroup.2) (releaseAll kernel order child)
  return { child with id2cgroup_ := child.id2cgroup_.insert id_cgroup.1 gathered }

def attachMember (order : HashOrder Nat) (childControlGroup : BoostPath) :
    MultipleControlGroup ObjectId → (_ : Nat) × ObjectId →
      Call σ (MultipleControlGroup ObjectId) :=
  gatherMember kernel order fun member =>
    SingleControlGroup.attachChild kernel member childControlGroup

def attachChild (order : HashOrder Nat) (group : MultipleControlGroup ObjectId)
    (childControlGroup : BoostPath) : Call σ (MultipleControlGroup ObjectId) :=
  group.id2cgroup_.entries.foldlM (attachMember kernel order childControlGroup) (empty ObjectId)

/-- The loop of `parent`, which destroys `child` also where it returns the null pointer. -/
def parentMembers (order : HashOrder Nat) :
    List ((_ : Nat) × ObjectId) → MultipleControlGroup ObjectId →
      Call σ (Option (MultipleControlGroup ObjectId))
  | [], child => return some child
  | id_cgroup :: rest, child => do
      let parent ← unwinding (SingleControlGroup.parent id_cgroup.2)
        (releaseAll kernel order child)
      match parent with
      | none => do
          modify (releaseAll kernel order child)
          return none
      | some parent =>
          parentMembers order rest
            { child with id2cgroup_ := child.id2cgroup_.insert id_cgroup.1 parent }

def parent (order : HashOrder Nat) (group : MultipleControlGroup ObjectId) :
    Call σ (Option (MultipleControlGroup ObjectId)) :=
  parentMembers kernel order group.id2cgroup_.entries (empty ObjectId)

end MultipleControlGroup

namespace MultipleMembers

open ContestSystem.Lib.Forest
open SingleControlGroup Registry Construction Transition Population Members Refinement Trees
open ClientRun AttachWalk CreateRollback

variable {σ : Type} {kernel : Kernel σ} {origin : Client σ} {world : World σ}
  {held : Multiset ObjectId}

theorem pointers_empty : pointers (MultipleControlGroup.empty ObjectId) = 0 := rfl

theorem release_all_transitions (kernel : Kernel σ) (order : HashOrder Nat)
    {child : MultipleControlGroup ObjectId}
    (sound : ClientSound ⟨world, pointers child + held⟩) :
    Transitions kernel ⟨world, pointers child + held⟩
      ⟨MultipleControlGroup.releaseAll kernel order child world, held⟩ := by
  have listed : pointers child = (iterate order child.id2cgroup_ : List ObjectId) :=
    (Multiset.coe_eq_coe.mpr (iterate_perm order child.id2cgroup_)).symm
  rw [listed] at sound ⊢
  unfold MultipleControlGroup.releaseAll
  generalize iterate order child.id2cgroup_ = dropped at sound
  induction dropped generalizing world with
  | nil =>
      simp only [Multiset.coe_nil, zero_add, List.foldl_nil]
      exact .refl
  | cons id dropped ih =>
      rw [← Multiset.cons_coe, Multiset.cons_add] at sound ⊢
      have released := release_transitions kernel sound (Multiset.mem_cons_self id _)
      simp only [Multiset.erase_cons_head] at released
      exact released.trans (ih (transitions_sound sound released))

theorem held_persists {client next : Client σ} (sound : ClientSound client)
    (persists : Persists client next) {id : ObjectId} {old new : SingleControlGroup}
    (oldLive : client.world.objects id = some old) (newLive : next.world.objects id = some new) :
    SameIdentity old new := by
  rcases persists.old id new newLive (sound.bounded id old oldLive) with
    ⟨original, originally, same⟩
  rw [Option.some.inj (oldLive.symm.trans originally)]
  exact same

/-- Every member stands under the id of its own hierarchy. -/
def Keyed (objects : Heap) (group : MultipleControlGroup ObjectId) : Prop :=
  ∀ id member object, group.id2cgroup_.lookup id = some member →
    objects member = some object → object.hierarchyId = id

theorem identity_hierarchy {old new : SingleControlGroup} (same : SameIdentity old new) :
    new.hierarchyId = old.hierarchyId := by
  rw [same]
  rfl

theorem keyed_carried {client next : Client σ} (sound : ClientSound client)
    (persists : Persists client next) {group : MultipleControlGroup ObjectId}
    (isHeld : ∀ member ∈ pointers group, member ∈ client.held)
    (keyed : Keyed client.world.objects group) : Keyed next.world.objects group := by
  intro id member object listed live
  rcases sound.heldLive member (isHeld member ((mem_pointers_iff group member).mpr ⟨id, listed⟩))
    with ⟨old, oldLive⟩
  rcases persists.old member object live (sound.bounded member old oldLive) with
    ⟨original, originally, same⟩
  rw [identity_hierarchy same]
  exact keyed id member original listed originally

theorem same_tree_hierarchy {objects : Heap} {fresh : ObjectId} (sound : Sound objects fresh held)
    {left right : ObjectId} (same : SameTree objects left right)
    {leftGroup rightGroup : SingleControlGroup} (leftLive : objects left = some leftGroup)
    (rightLive : objects right = some rightGroup) :
    rightGroup.hierarchyId = leftGroup.hierarchyId := by
  have located := location_in_tree sound same leftLive rightLive
  rw [← (sound.wired left leftGroup leftLive).locatedHierarchy,
    ← (sound.wired right rightGroup rightLive).locatedHierarchy, located]

/-- A function that leads from an object to one of its tree, at a path that
depends on the object's path alone. -/
structure MemberCall (kernel : Kernel σ) (call : ObjectId → Call σ ObjectId)
    (target : ControlGroupPath → ControlGroupPath) : Prop where
  refines : ∀ world held self, ClientSound ⟨world, held⟩ → self ∈ held →
    Refines kernel (call self) world held
  lands : ∀ world held self result after, ClientSound ⟨world, held⟩ → self ∈ held →
    call self world = .ok result after →
      SameTree after.objects self result ∧
        pathOf after.objects result = target (pathOf world.objects self)

theorem checked_walk_member_call {direct : ObjectId → Component → Call σ ObjectId}
    (refines : StepRefines kernel direct) (lands : StepLands direct) (path : BoostPath) :
    MemberCall kernel
      (fun self => do
        checkChildControlGroup path
        walk kernel direct self path.components)
      (fun start => lexicalPath start path.components) := by
  constructor
  · intro world held self sound member
    rcases sound.heldLive self member with ⟨group, live⟩
    exact checked_walk_refines refines sound live path
  · intro world held self result after sound member returned
    rcases sound.heldLive self member with ⟨group, live⟩
    cases absolute : path.isAbsolute with
    | true =>
        simp only [absolute_refused direct absolute] at returned
        cases returned
    | false =>
        simp only [relative_walks direct absolute] at returned
        have reached := walk_reaches refines lands sound member live returned
        rw [path_of_live live]
        exact ⟨reached.sameTree, reached.path⟩

theorem attach_child_member_call (kernel : Kernel σ) (path : BoostPath) :
    MemberCall kernel (fun member => SingleControlGroup.attachChild kernel member path)
      (fun start => lexicalPath start path.components) :=
  checked_walk_member_call (attach_step_refines kernel) (attach_step_lands kernel) path

theorem create_child_member_call (kernel : Kernel σ) (path : BoostPath) (mode : Mode) :
    MemberCall kernel (fun member => SingleControlGroup.createChild kernel member path mode)
      (fun start => lexicalPath start path.components) :=
  checked_walk_member_call (create_step_refines kernel mode) (create_step_lands kernel mode) path

variable {cgroup : MultipleControlGroup ObjectId}
  {target : ControlGroupPath → ControlGroupPath}

/-- The loop has filled `child` for the members `before`. -/
structure Gathered (kernel : Kernel σ) (origin : Client σ)
    (target : ControlGroupPath → ControlGroupPath) (child : MultipleControlGroup ObjectId)
    (before : List ((_ : Nat) × ObjectId)) (middle : World σ) : Prop where
  steps : Transitions kernel origin ⟨middle, pointers child + origin.held⟩
  placed : ∀ id_cgroup ∈ before, ∃ result,
    child.id2cgroup_.lookup id_cgroup.1 = some result ∧
      SameTree middle.objects id_cgroup.2 result ∧
      pathOf middle.objects result = target (pathOf origin.world.objects id_cgroup.2)
  only : ∀ id result, child.id2cgroup_.lookup id = some result →
    ∃ id_cgroup ∈ before, id_cgroup.1 = id

theorem gathered_start (origin : Client σ) :
    Gathered kernel origin target (MultipleControlGroup.empty ObjectId) [] origin.world := by
  constructor
  · rw [pointers_empty, zero_add]
  · intro id_cgroup inside
    cases inside
  · intro id result found
    cases found

theorem gathered_path {child : MultipleControlGroup ObjectId}
    {before : List ((_ : Nat) × ObjectId)} {middle : World σ} (originSound : ClientSound origin)
    (gathered : Gathered kernel origin target child before middle) {self : ObjectId}
    (member : self ∈ origin.held) :
    pathOf middle.objects self = pathOf origin.world.objects self := by
  have sound := transitions_sound originSound gathered.steps
  exact path_carried originSound (transitions_persist originSound gathered.steps)
    (originSound.heldLive self member) (sound.heldLive self (Multiset.mem_add.mpr (.inr member)))

theorem gathered_step (originSound : ClientSound origin) (isHeld : MembersHeld origin cgroup)
    {child : MultipleControlGroup ObjectId} {before : List ((_ : Nat) × ObjectId)}
    {id_cgroup : (_ : Nat) × ObjectId} {middle after : World σ} {result : ObjectId}
    (gathered : Gathered kernel origin target child before middle)
    (whole : before ++ [id_cgroup] <+: cgroup.id2cgroup_.entries)
    (steps : Transitions kernel ⟨middle, pointers child + origin.held⟩
      ⟨after, result ::ₘ (pointers child + origin.held)⟩)
    (sameTree : SameTree after.objects id_cgroup.2 result)
    (path : pathOf after.objects result = target (pathOf origin.world.objects id_cgroup.2)) :
    Gathered kernel origin target
      { child with id2cgroup_ := child.id2cgroup_.insert id_cgroup.1 result }
      (before ++ [id_cgroup]) after := by
  have sound := transitions_sound originSound gathered.steps
  have sound' := transitions_sound sound steps
  have persists := transitions_persist sound steps
  have unvisited := unvisited_entry cgroup whole
  have absent : child.id2cgroup_.lookup id_cgroup.1 = none := by
    cases found : child.id2cgroup_.lookup id_cgroup.1 with
    | none => rfl
    | some other =>
        rcases gathered.only _ other found with ⟨earlier, inside, same⟩
        exact absurd same (unvisited earlier inside)
  constructor
  · rw [pointers_insert absent, Multiset.cons_add]
    exact gathered.steps.trans steps
  · intro other inside
    rcases List.mem_append.mp inside with earlier | last
    · rcases gathered.placed other earlier with ⟨found, listed, tree, otherPath⟩
      have foundHeld : found ∈ pointers child + origin.held :=
        Multiset.mem_add.mpr (.inl ((mem_pointers_iff child found).mpr ⟨_, listed⟩))
      have otherListed : cgroup.id2cgroup_.lookup other.1 = some other.2 :=
        AList.mem_lookup_iff.mpr (whole.subset inside)
      have otherHeld : other.2 ∈ pointers child + origin.held :=
        Multiset.mem_add.mpr (.inr (isHeld.held _ _ otherListed))
      have foundAlive := sound.heldLive found foundHeld
      have foundStill := sound'.heldLive found (Multiset.mem_cons_of_mem foundHeld)
      refine ⟨found, ?_, ?_, ?_⟩
      · rw [lookup_insert_eq, if_neg (unvisited other earlier)]
        exact listed
      · exact same_tree_carried sound sound' persists (sound.heldLive _ otherHeld)
          (sound'.heldLive _ (Multiset.mem_cons_of_mem otherHeld)) foundAlive foundStill tree
      · rw [path_carried sound persists foundAlive foundStill, otherPath]
    · rw [List.mem_singleton.mp last]
      refine ⟨result, ?_, sameTree, path⟩
      rw [lookup_insert_eq, if_pos rfl]
  · intro id other found
    rw [lookup_insert_eq] at found
    split at found
    next same => exact ⟨id_cgroup, List.mem_append_right _ (List.mem_singleton_self _), same.symm⟩
    next =>
        rcases gathered.only id other found with ⟨earlier, inside, same⟩
        exact ⟨earlier, List.mem_append_left _ inside, same⟩

/-- One pointer for every member, or the held pointers of before. -/
theorem gather_cases (originSound : ClientSound origin) (isHeld : MembersHeld origin cgroup)
    {call : ObjectId → Call σ ObjectId} (memberCall : MemberCall kernel call target)
    (order : HashOrder Nat) :
    (∀ child after,
      cgroup.id2cgroup_.entries.foldlM (MultipleControlGroup.gatherMember kernel order call)
        (MultipleControlGroup.empty ObjectId) origin.world = .ok child after →
      Gathered kernel origin target child cgroup.id2cgroup_.entries after) ∧
    (∀ failure after,
      cgroup.id2cgroup_.entries.foldlM (MultipleControlGroup.gatherMember kernel order call)
        (MultipleControlGroup.empty ObjectId) origin.world = .error failure after →
      Transitions kernel origin ⟨after, origin.held⟩ ∧ External failure) := by
  have memberHeld : ∀ {child : MultipleControlGroup ObjectId} {id_cgroup},
      id_cgroup ∈ cgroup.id2cgroup_.entries → id_cgroup.2 ∈ pointers child + origin.held :=
    fun inside => Multiset.mem_add.mpr (.inr (isHeld.held _ _ (AList.mem_lookup_iff.mpr inside)))
  have preserved : ∀ child before id_cgroup middle next finish,
      (before <+: cgroup.id2cgroup_.entries →
        Gathered kernel origin target child before middle) →
      MultipleControlGroup.gatherMember kernel order call child id_cgroup middle =
        .ok next finish →
      before ++ [id_cgroup] <+: cgroup.id2cgroup_.entries →
        Gathered kernel origin target next (before ++ [id_cgroup]) finish := by
    intro child before id_cgroup middle next finish invariant returned whole
    rcases bind_eq_ok.mp returned with ⟨result, last, called, stored⟩
    cases stored
    have gathered := invariant ((List.prefix_append before [id_cgroup]).trans whole)
    have inside : id_cgroup ∈ cgroup.id2cgroup_.entries :=
      whole.subset (List.mem_append_right before (List.mem_singleton_self _))
    have sound := transitions_sound originSound gathered.steps
    have isMember : id_cgroup.2 ∈ pointers child + origin.held := memberHeld inside
    have called' := unwinding_eq_ok.mp called
    have landed := memberCall.lands _ _ _ result finish sound isMember called'
    rw [gathered_path originSound gathered
      (isHeld.held _ _ (AList.mem_lookup_iff.mpr inside))] at landed
    exact gathered_step originSound isHeld gathered whole
      ((memberCall.refines _ _ _ sound isMember).returned result finish called') landed.1 landed.2
  have loop := fold_cases _ preserved (MultipleControlGroup.empty ObjectId) []
    cgroup.id2cgroup_.entries origin.world fun _ => gathered_start origin
  constructor
  · intro child after returned
    exact loop.1 child after returned List.prefix_rfl
  · intro failure after thrown
    rcases loop.2 failure after thrown with
      ⟨done, id_cgroup, rest, child, middle, split, invariant, failed⟩
    have gathered := invariant (split ▸ List.prefix_append done (id_cgroup :: rest))
    have inside : id_cgroup ∈ cgroup.id2cgroup_.entries := by
      rw [split]
      exact List.mem_append_right _ List.mem_cons_self
    have sound := transitions_sound originSound gathered.steps
    rcases bind_eq_error.mp failed with raised | ⟨_, _, _, impossible⟩
    · rcases unwinding_eq_error.mp raised with ⟨last, called, same⟩
      have refused := (memberCall.refines _ _ _ sound (memberHeld inside)).thrown failure last
        called
      have released := release_all_transitions kernel order
        (transitions_sound sound refused.1)
      rw [same]
      exact ⟨gathered.steps.trans (refused.1.trans released), refused.2⟩
    · cases impossible

theorem gathered_keyed (originSound : ClientSound origin) (isHeld : MembersHeld origin cgroup)
    {child : MultipleControlGroup ObjectId} {after : World σ}
    (gathered : Gathered kernel origin target child cgroup.id2cgroup_.entries after) :
    Keyed after.objects child := by
  intro id result object found live
  have sound := transitions_sound originSound gathered.steps
  have persists := transitions_persist originSound gathered.steps
  rcases gathered.only id result found with ⟨id_cgroup, inside, sameId⟩
  have listed := AList.mem_lookup_iff.mpr inside
  have isMember := isHeld.held _ _ listed
  rcases gathered.placed id_cgroup inside with ⟨other, otherFound, sameTree, _⟩
  rw [sameId, found] at otherFound
  cases otherFound
  rcases sound.heldLive _ (Multiset.mem_add.mpr (.inr isMember)) with ⟨now, nowLive⟩
  have keyed : Keyed after.objects cgroup := by
    apply keyed_carried originSound persists _ isHeld.keyed
    intro member inside
    rcases (mem_pointers_iff cgroup member).mp inside with ⟨id, listed⟩
    exact isHeld.held id member listed
  rw [same_tree_hierarchy sound sameTree nowLive live, keyed _ _ now listed nowLive, sameId]

theorem parent_of_eq_none_iff {objects : Heap} {fresh : ObjectId} (sound : Sound objects fresh held)
    {id : ObjectId} {group : SingleControlGroup} (live : objects id = some group) :
    group.parent_ = none ↔ group.controlGroup_ = [] := by
  constructor
  · exact sound.top id group live
  · intro isRoot
    cases parentAt : group.parent_ with
    | none => rfl
    | some up =>
        rcases sound.linked id group up live parentAt with ⟨_, above, name, _, extends_, _⟩
        have nonempty : above.controlGroup_ ++ [name] = [] := extends_.controlGroup ▸ isRoot
        simp at nonempty

theorem parent_lands (kernel : Kernel σ) (sound : ClientSound ⟨world, held⟩) {self up : ObjectId}
    {group : SingleControlGroup} (isHeld : self ∈ held) (live : world.objects self = some group)
    (parentAt : group.parent_ = some up) :
    SingleControlGroup.parent self world = .ok (some up) (world.retain up) ∧
      Transitions kernel ⟨world, held⟩ ⟨world.retain up, up ::ₘ held⟩ ∧
      SameTree (world.retain up).objects self up ∧
      pathOf (world.retain up).objects up = group.controlGroup_.dropLast := by
  rcases sound.linked self group up live parentAt with ⟨_, above, name, upLive, extends_, _⟩
  have retained := retained_sound sound upLive
  refine ⟨(parent_cases live).2 up above parentAt upLive,
    .single (.retained ⟨world, held⟩ up above upLive), ?_, ?_⟩
  · apply same_tree_of_adjacent retained (retained.heldLive self (Multiset.mem_cons_of_mem isHeld))
    right
    left
    rw [retain_parent, parent_of_live live, parentAt]
  · rw [retain_path, path_of_live upLive, extends_.controlGroup, List.dropLast_concat]

/-- What the loop of `parent` returns: null where it met a root, and then the
held pointers are those of before, or the parents of all members. -/
inductive Parents (kernel : Kernel σ) (origin : Client σ)
    (cgroup : MultipleControlGroup ObjectId) :
    Option (MultipleControlGroup ObjectId) → World σ → Prop
  | null (after : World σ) (steps : Transitions kernel origin ⟨after, origin.held⟩)
      (id_cgroup : (_ : Nat) × ObjectId) (inside : id_cgroup ∈ cgroup.id2cgroup_.entries)
      (isRoot : pathOf origin.world.objects id_cgroup.2 = []) :
      Parents kernel origin cgroup none after
  | found (child : MultipleControlGroup ObjectId) (after : World σ)
      (gathered : Gathered kernel origin List.dropLast child cgroup.id2cgroup_.entries after)
      (below : ∀ id_cgroup ∈ cgroup.id2cgroup_.entries,
        pathOf origin.world.objects id_cgroup.2 ≠ []) :
      Parents kernel origin cgroup (some child) after

theorem parent_members_cases (originSound : ClientSound origin)
    (isHeld : MembersHeld origin cgroup) (order : HashOrder Nat)
    (before rest : List ((_ : Nat) × ObjectId)) (child : MultipleControlGroup ObjectId)
    (middle : World σ) (split : cgroup.id2cgroup_.entries = before ++ rest)
    (gathered : Gathered kernel origin List.dropLast child before middle)
    (below : ∀ id_cgroup ∈ before, pathOf origin.world.objects id_cgroup.2 ≠ []) :
    ∃ result after,
      MultipleControlGroup.parentMembers kernel order rest child middle = .ok result after ∧
        Parents kernel origin cgroup result after := by
  induction rest generalizing before child middle with
  | nil =>
      have complete : before = cgroup.id2cgroup_.entries := by rw [split, List.append_nil]
      rw [complete] at gathered below
      exact ⟨some child, middle, rfl, .found child middle gathered below⟩
  | cons id_cgroup rest ih =>
      have inside : id_cgroup ∈ cgroup.id2cgroup_.entries := by
        rw [split]
        exact List.mem_append_right _ List.mem_cons_self
      have isMember := isHeld.held _ _ (AList.mem_lookup_iff.mpr inside)
      have sound := transitions_sound originSound gathered.steps
      have stillMember : id_cgroup.2 ∈ pointers child + origin.held :=
        Multiset.mem_add.mpr (.inr isMember)
      rcases sound.heldLive _ stillMember with ⟨group, live⟩
      have samePath := gathered_path originSound gathered isMember
      rw [path_of_live live] at samePath
      cases parentAt : group.parent_ with
      | none =>
          have called : unwinding (SingleControlGroup.parent id_cgroup.2)
              (MultipleControlGroup.releaseAll kernel order child) middle = .ok none middle :=
            unwinding_eq_ok.mpr ((parent_cases live).1 parentAt)
          refine ⟨none, MultipleControlGroup.releaseAll kernel order child middle,
            bind_of_ok called, ?_⟩
          apply Parents.null _ _ id_cgroup inside
          · exact samePath.symm.trans ((parent_of_eq_none_iff sound live).mp parentAt)
          · exact gathered.steps.trans (release_all_transitions kernel order sound)
      | some up =>
          rcases parent_lands kernel sound stillMember live parentAt with
            ⟨returns, steps, sameTree, path⟩
          have called : unwinding (SingleControlGroup.parent id_cgroup.2)
              (MultipleControlGroup.releaseAll kernel order child) middle =
                .ok (some up) (middle.retain up) := unwinding_eq_ok.mpr returns
          have whole : before ++ [id_cgroup] <+: cgroup.id2cgroup_.entries := by
            rw [split]
            exact ⟨rest, by simp⟩
          have notRoot : pathOf origin.world.objects id_cgroup.2 ≠ [] := by
            intro isRoot
            rw [(parent_of_eq_none_iff sound live).mpr (samePath.trans isRoot)] at parentAt
            cases parentAt
          have next := gathered_step originSound isHeld gathered whole steps sameTree
            (samePath ▸ path)
          have unfolded : MultipleControlGroup.parentMembers kernel order (id_cgroup :: rest)
              child middle = _ := bind_of_ok called
          rw [unfolded]
          refine ih (before ++ [id_cgroup]) _ _ (by rw [split]; simp) next ?_
          intro other among
          rcases List.mem_append.mp among with earlier | last
          · exact below other earlier
          · exact List.mem_singleton.mp last ▸ notRoot

theorem parent_quiet {self up : ObjectId} {after : World σ}
    (returned : SingleControlGroup.parent self world = .ok (some up) after) :
    after.kernel = world.kernel ∧ after.journal = world.journal := by
  rcases bind_eq_ok.mp returned with ⟨group, reached, found, rest⟩
  unfold deref at found
  split at found
  · cases found
    cases parentAt : group.parent_ with
    | none =>
        rw [parentAt] at rest
        cases rest
    | some above =>
        rw [parentAt] at rest
        simp only [Functor.map, EStateM.map] at rest
        split at rest
        next pointed =>
            cases rest
            rcases bind_eq_ok.mp pointed with ⟨target, same, live, retained⟩
            unfold deref at live
            split at live
            · cases live
              cases retained
              exact ⟨rfl, rfl⟩
            · cases live
        next => cases rest
  · cases found

theorem parent_members_quiet {order : HashOrder Nat} {rest : List ((_ : Nat) × ObjectId)}
    {child above : MultipleControlGroup ObjectId} {middle after : World σ}
    (returned : MultipleControlGroup.parentMembers kernel order rest child middle =
      .ok (some above) after) :
    after.kernel = middle.kernel ∧ after.journal = middle.journal := by
  induction rest generalizing child middle with
  | nil =>
      cases returned
      exact ⟨rfl, rfl⟩
  | cons id_cgroup rest ih =>
      rcases bind_eq_ok.mp returned with ⟨parent, reached, called, continued⟩
      cases parent with
      | none => cases continued
      | some up =>
          have here := parent_quiet (unwinding_eq_ok.mp called)
          have later := ih continued
          exact ⟨later.1.trans here.1, later.2.trans here.2⟩

/-- Further pointers keep alive what is above them and change nothing else. -/
theorem population_of_extra (sound : ClientSound origin) {extra : Multiset ObjectId}
    {after : World σ} (steps : Transitions kernel origin ⟨after, extra + origin.held⟩)
    (id : ObjectId) :
    Alive after.objects id ↔ Alive origin.world.objects id ∨
      ∃ low ∈ extra, AtOrBelow (parentOf after.objects) low id := by
  have sound' := transitions_sound sound steps
  have persists := transitions_persist sound steps
  constructor
  · intro alive
    rcases (alive_iff_held sound' id).mp alive with ⟨low, member, isBelow⟩
    rcases Multiset.mem_add.mp member with new | inside
    · exact .inr ⟨low, new, isBelow⟩
    · left
      have back : ∀ node, Alive after.objects node → Alive origin.world.objects node →
          parentOf after.objects node = parentOf origin.world.objects node :=
        fun node still before => (persists_agree sound persists node before still).symm
      exact (below_carried (kept_of_sound sound') (kept_of_sound sound) back
        (sound'.heldLive low member) (sound.heldLive low inside) isBelow).1
  · intro split
    rcases split with before | ⟨low, new, isBelow⟩
    · exact alive_of_still_held sound sound' persists
        (fun other inside => sound'.heldLive other (Multiset.mem_add.mpr (.inr inside))) id before
    · exact above_alive (kept_of_sound sound') isBelow
        (sound'.heldLive low (Multiset.mem_add.mpr (.inl new)))

theorem recounted_of_extra (sound : ClientSound origin) {extra : Multiset ObjectId}
    {after : World σ} (steps : Transitions kernel origin ⟨after, extra + origin.held⟩)
    (known : ∀ low ∈ extra, Alive origin.world.objects low) (id : ObjectId) :
    after.objects id = (origin.world.objects id).map fun object =>
      { object with references := object.references + extra.count id } := by
  have sound' := transitions_sound sound steps
  have persists := transitions_persist sound steps
  have back : ∀ id new, after.objects id = some new →
      ∃ object, origin.world.objects id = some object ∧ SameIdentity object new := by
    intro id new newLive
    have before : Alive origin.world.objects id := by
      rcases (population_of_extra sound steps id).mp ⟨new, newLive⟩ with
        old | ⟨low, inside, isBelow⟩
      · exact old
      · have agree : ∀ node, Alive after.objects node → Alive origin.world.objects node →
            parentOf after.objects node = parentOf origin.world.objects node :=
          fun node still old => (persists_agree sound persists node old still).symm
        exact (below_carried (kept_of_sound sound') (kept_of_sound sound) agree
          (sound'.heldLive low (Multiset.mem_add.mpr (.inl inside))) (known low inside) isBelow).1
    rcases before with ⟨object, live⟩
    exact persists.old id new newLive (sound.bounded id object live)
  have forth : ∀ id object, origin.world.objects id = some object →
      ∃ new, after.objects id = some new ∧ SameIdentity object new := by
    intro id object live
    rcases (population_of_extra sound steps id).mpr (.inl ⟨object, live⟩) with ⟨new, newLive⟩
    exact ⟨new, newLive, held_persists sound persists live newLive⟩
  cases live : origin.world.objects id with
  | none =>
      cases newLive : after.objects id with
      | none => rfl
      | some new =>
          rcases back id new newLive with ⟨object, live', _⟩
          rw [live] at live'
          cases live'
  | some object =>
      rcases forth id object live with ⟨new, newLive, same⟩
      have children := children_eq_of_same_alive sound sound'
        (fun id => ⟨forth id, back id⟩) live newLive
      have references : new.references = object.references + extra.count id := by
        rw [sound'.counted id new newLive, sound.counted id object live, ← children,
          Multiset.count_add]
        omega
      rw [newLive, Option.map_some, same, references, ← children]

/-- `child` maps the hierarchies of `cgroup`, each to the only live object of
its tree at the member's target. -/
structure Counterparts (target : ControlGroupPath → ControlGroupPath) (origin : Client σ)
    (cgroup child : MultipleControlGroup ObjectId) (after : World σ) : Prop where
  keys : ∀ id, (child.id2cgroup_.lookup id).isSome ↔ (cgroup.id2cgroup_.lookup id).isSome
  placed : ∀ id member result, cgroup.id2cgroup_.lookup id = some member →
    child.id2cgroup_.lookup id = some result →
      SameTree after.objects member result ∧
        pathOf after.objects result = target (pathOf origin.world.objects member)
  only : ∀ id member result other, cgroup.id2cgroup_.lookup id = some member →
    child.id2cgroup_.lookup id = some result → Alive after.objects other →
    SameTree after.objects member other →
    pathOf after.objects other = target (pathOf origin.world.objects member) → other = result

theorem counterparts_of_gathered (originSound : ClientSound origin)
    {child : MultipleControlGroup ObjectId} {after : World σ}
    (gathered : Gathered kernel origin target child cgroup.id2cgroup_.entries after) :
    Counterparts target origin cgroup child after := by
  have sound := transitions_sound originSound gathered.steps
  have placed : ∀ id member result, cgroup.id2cgroup_.lookup id = some member →
      child.id2cgroup_.lookup id = some result →
        SameTree after.objects member result ∧
          pathOf after.objects result = target (pathOf origin.world.objects member) := by
    intro id member result listed found
    rcases gathered.placed ⟨id, member⟩ (AList.mem_lookup_iff.mp listed) with
      ⟨other, otherFound, sameTree, path⟩
    cases found.symm.trans otherFound
    exact ⟨sameTree, path⟩
  refine ⟨?_, placed, ?_⟩
  · intro id
    constructor
    · intro present
      rcases Option.isSome_iff_exists.mp present with ⟨result, found⟩
      rcases gathered.only id result found with ⟨id_cgroup, inside, same⟩
      rw [← same, AList.mem_lookup_iff.mpr inside]
      rfl
    · intro present
      rcases Option.isSome_iff_exists.mp present with ⟨member, listed⟩
      rcases gathered.placed ⟨id, member⟩ (AList.mem_lookup_iff.mp listed) with
        ⟨result, found, _⟩
      rw [found]
      rfl
  · intro id member result other listed found alive sameTree path
    have resultHeld : result ∈ pointers child + origin.held :=
      Multiset.mem_add.mpr (.inl ((mem_pointers_iff child result).mpr ⟨id, found⟩))
    have landed := placed id member result listed found
    exact unique_in_tree sound alive (sound.heldLive result resultHeld) sameTree landed.1
      (path.trans landed.2.symm)

theorem gathered_members_held (originSound : ClientSound origin)
    (isHeld : MembersHeld origin cgroup) {child : MultipleControlGroup ObjectId} {after : World σ}
    (gathered : Gathered kernel origin target child cgroup.id2cgroup_.entries after) :
    MembersHeld ⟨after, pointers child + origin.held⟩ child := by
  constructor
  · intro id member listed
    exact Multiset.mem_add.mpr (.inl ((mem_pointers_iff child member).mpr ⟨id, listed⟩))
  · exact gathered_keyed originSound isHeld gathered

end MultipleMembers

end ContestSystem.Cgroup
