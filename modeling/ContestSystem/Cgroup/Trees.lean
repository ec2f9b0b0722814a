import ContestSystem.Cgroup.Refinement

/-!
# Where member functions lead

The object a direct step returns is the current one, its parent or one of its
children, and its path is the lexical result of the step. A walk therefore
stays in the tree of the object it starts from and ends at the lexical result
of the whole path, whatever it destroys and creates on the way.
-/

namespace ContestSystem.Cgroup.Trees

open ContestSystem.Lib.Forest
open SingleControlGroup Registry Construction Transition Population Members Refinement

set_option autoImplicit false

variable {σ : Type} {kernel : Kernel σ} {world : World σ} {held : Multiset ObjectId}

/-- Both objects belong to one root object. -/
def SameTree (objects : Heap) (left right : ObjectId) : Prop :=
  ∃ root, InTree (parentOf objects) root left ∧ InTree (parentOf objects) root right

def Adjacent (objects : Heap) (left right : ObjectId) : Prop :=
  right = left ∨ parentOf objects left = some right ∨ parentOf objects right = some left

theorem same_tree_of_adjacent {objects : Heap} {fresh : ObjectId} (sound : Sound objects fresh held)
    {left right : ObjectId} (leftAlive : Alive objects left)
    (adjacent : Adjacent objects left right) : SameTree objects left right := by
  rcases root_exists (kept_of_sound sound) left leftAlive with ⟨root, _, inside⟩
  rcases adjacent with same | up | down
  · exact ⟨root, inside, same ▸ inside⟩
  · exact ⟨root, inside, in_tree_up inside up⟩
  · exact ⟨root, inside, in_tree_down inside down⟩

theorem at_or_below_hierarchy {objects : Heap} {fresh : ObjectId}
    (sound : Sound objects fresh held) {low high : ObjectId}
    (isBelow : AtOrBelow (parentOf objects) low high) {lower upper : SingleControlGroup}
    (lowLive : objects low = some lower) (highLive : objects high = some upper) :
    lower.hierarchyInfo_ = upper.hierarchyInfo_ := by
  induction isBelow generalizing upper with
  | refl => rw [Option.some.inj (lowLive.symm.trans highLive)]
  | tail _ edge ih =>
      rcases parent_of_eq_some.mp edge with ⟨group, live, parentAt⟩
      rcases sound.linked _ group _ live parentAt with ⟨_, above, _, aboveLive, extends_, _⟩
      have sameUpper := Option.some.inj (aboveLive.symm.trans highLive)
      rw [ih live, extends_.hierarchyInfo, sameUpper]

theorem location_in_tree {objects : Heap} {fresh : ObjectId} (sound : Sound objects fresh held)
    {left right : ObjectId} (same : SameTree objects left right)
    {leftGroup rightGroup : SingleControlGroup} (leftLive : objects left = some leftGroup)
    (rightLive : objects right = some rightGroup) :
    rightGroup.location_ =
      { leftGroup.location_ with controlGroup := rightGroup.controlGroup_ } := by
  rcases same with ⟨root, leftInside, rightInside⟩
  have rootAlive := above_alive (kept_of_sound sound) leftInside.below ⟨leftGroup, leftLive⟩
  rcases rootAlive with ⟨rootGroup, rootLive⟩
  have sameHierarchy : leftGroup.hierarchyInfo_ = rightGroup.hierarchyInfo_ :=
    (at_or_below_hierarchy sound leftInside.below leftLive rootLive).trans
      (at_or_below_hierarchy sound rightInside.below rightLive rootLive).symm
  have leftWired := sound.wired left leftGroup leftLive
  have rightWired := sound.wired right rightGroup rightLive
  have sameMountpoint : rightGroup.location_.mountpoint = leftGroup.location_.mountpoint := by
    have mounted := leftWired.mounted
    rw [sameHierarchy, rightWired.mounted] at mounted
    exact Option.some.inj mounted
  have sameId : rightGroup.location_.hierarchyId = leftGroup.location_.hierarchyId := by
    rw [rightWired.locatedHierarchy, leftWired.locatedHierarchy, hierarchyId, hierarchyId,
      sameHierarchy]
  rw [Location.mk.injEq]
  exact ⟨sameId, sameMountpoint, rightWired.locatedGroup⟩

theorem same_tree_trans {objects : Heap} {first second third : ObjectId}
    (left : SameTree objects first second) (right : SameTree objects second third) :
    SameTree objects first third := by
  rcases left with ⟨root, firstInside, secondInside⟩
  rcases right with ⟨other, secondAlso, thirdInside⟩
  have same := in_tree_root_unique secondInside secondAlso
  exact ⟨root, firstInside, same ▸ thirdInside⟩

theorem same_tree_carried {client next : Client σ} (sound : ClientSound client)
    (sound' : ClientSound next) (persists : Persists client next) {left right : ObjectId}
    (leftAlive : Alive client.world.objects left) (leftStill : Alive next.world.objects left)
    (rightAlive : Alive client.world.objects right) (rightStill : Alive next.world.objects right)
    (same : SameTree client.world.objects left right) :
    SameTree next.world.objects left right := by
  rcases same with ⟨root, leftInside, rightInside⟩
  have agree := persists_agree sound persists
  exact ⟨root,
    in_tree_carried (kept_of_sound sound) (kept_of_sound sound') agree leftAlive leftStill
      leftInside,
    in_tree_carried (kept_of_sound sound) (kept_of_sound sound') agree rightAlive rightStill
      rightInside⟩

theorem path_carried {client next : Client σ} (sound : ClientSound client)
    (persists : Persists client next) {id : ObjectId}
    (alive : Alive client.world.objects id) (still : Alive next.world.objects id) :
    pathOf next.world.objects id = pathOf client.world.objects id := by
  rcases alive with ⟨group, live⟩
  rcases still with ⟨new, newLive⟩
  rcases persists.old id new newLive (sound.bounded id group live) with ⟨original, found, same⟩
  rw [path_of_live newLive, path_of_live found, identity_path same]

theorem retain_parent (world : World σ) (id other : ObjectId) :
    parentOf (world.retain id).objects other = parentOf world.objects other := by
  simp only [parentOf, World.retain, World.modify, Function.update_apply]
  split
  next same =>
      rw [same]
      cases world.objects id <;> rfl
  next => rfl

theorem retain_path (world : World σ) (id other : ObjectId) :
    pathOf (world.retain id).objects other = pathOf world.objects other := by
  simp only [pathOf, World.retain, World.modify, Function.update_apply]
  split
  next same =>
      rw [same]
      cases world.objects id <;> rfl
  next => rfl

/-- What a returned direct step tells about its result. -/
structure Lands (objects : Heap) (current next : ObjectId) (path : ControlGroupPath)
    (name : Component) : Prop where
  adjacent : Adjacent objects current next
  path : pathOf objects next = lexicalStep path name

theorem adopt_lands (world : World σ) (name : Component) (kind : Kind) {self : ObjectId}
    {above : SingleControlGroup} (live : world.objects self = some above)
    (selfOld : self ≠ world.fresh) (ordinary : name.IsOrdinary) :
    Lands (world.adopt self name (childOf kind self above name)).objects self world.fresh
      above.controlGroup_ name := by
  have adopted : (world.adopt self name (childOf kind self above name)).objects world.fresh = _ :=
    adopt_adopted world name live rfl selfOld
  constructor
  · exact .inr (.inr (parent_of_live adopted))
  · rw [path_of_live adopted, lexical_step_ordinary _ ordinary]
    rfl

theorem attach_direct_child_lands (sound : ClientSound ⟨world, held⟩) {self next : ObjectId}
    {above : SingleControlGroup} (live : world.objects self = some above) {name : Component}
    {after : World σ} (returned : attachDirectChild kernel self name world = .ok next after) :
    Lands after.objects self next above.controlGroup_ name := by
  rcases attach_direct_child_cases kernel sound live name with
    ⟨id, group, finds, equation⟩ | ⟨ordinary, _, equation⟩
  · rw [equation] at returned
    cases returned
    constructor
    · rcases finds.adjacent with same | isParent | isChild
      · exact .inl same
      · right
        left
        rw [retain_parent, parent_of_live live, isParent]
      · right
        right
        rw [retain_parent, parent_of_live finds.live, isChild]
    · rw [retain_path, path_of_live finds.live, finds.path]
  · have selfOld := Nat.ne_of_lt (sound.bounded self above live)
    rw [equation] at returned
    split at returned
    next after opened =>
        cases returned
        exact adopt_lands (world.asked after) name .attached live selfOld ordinary
    next => cases returned

theorem create_direct_child_returns (sound : ClientSound ⟨world, held⟩) {self next : ObjectId}
    {above : SingleControlGroup} (live : world.objects self = some above) {name : Component}
    {mode : Mode} {after : World σ}
    (returned : createDirectChild kernel self name mode world = .ok next after) :
    name.IsOrdinary ∧ above.children_.lookup name = none ∧ next = world.fresh ∧
      ∃ made final, makeDirectory kernel self above name mode world.kernel = .ok () made ∧
        setUpCpuSet kernel world.instance_ (childOf .created self above name) made =
          .ok () final ∧
        after = ((world.asked made).adopt self name (childOf .created self above name)).asked
          final := by
  rcases create_direct_child_cases kernel sound live name mode with
    ⟨failure, _, throws⟩ | ⟨ordinary, absent, equation⟩
  · rw [throws] at returned
    cases returned
  rw [equation] at returned
  split at returned
  next => cases returned
  next made madeAt =>
      simp only at returned
      split at returned
      next final finished =>
          cases returned
          exact ⟨ordinary, absent, rfl, made, final, madeAt, finished, rfl⟩
      next => cases returned

theorem create_direct_child_lands (sound : ClientSound ⟨world, held⟩) {self next : ObjectId}
    {above : SingleControlGroup} (live : world.objects self = some above) {name : Component}
    {mode : Mode} {after : World σ}
    (returned : createDirectChild kernel self name mode world = .ok next after) :
    Lands after.objects self next above.controlGroup_ name := by
  rcases create_direct_child_returns sound live returned with
    ⟨ordinary, _, rfl, made, final, _, _, rfl⟩
  have selfOld := Nat.ne_of_lt (sound.bounded self above live)
  exact adopt_lands (world.asked made) name .created live selfOld ordinary

abbrev StepLands (direct : ObjectId → Component → Call σ ObjectId) : Prop :=
  ∀ (world : World σ) (held : Multiset ObjectId) (current next : ObjectId)
    (above : SingleControlGroup) (name : Component) (after : World σ),
    ClientSound ⟨world, held⟩ → world.objects current = some above →
    direct current name world = .ok next after →
      Lands after.objects current next above.controlGroup_ name

/-- The walk has reached `current` in the tree of `origin`, at the lexical path. -/
structure Reached (objects : Heap) (origin current : ObjectId) (start : ControlGroupPath)
    (done : List Component) : Prop where
  sameTree : SameTree objects origin current
  path : pathOf objects current = lexicalPath start done

theorem lexical_path_concat (start : ControlGroupPath) (done : List Component)
    (name : Component) :
    lexicalPath start (done ++ [name]) = lexicalStep (lexicalPath start done) name := by
  simp [lexicalPath, List.foldl_append]

theorem reached_step {direct : ObjectId → Component → Call σ ObjectId}
    (refines : StepRefines kernel direct) (lands : StepLands direct) {self current next : ObjectId}
    {start : ControlGroupPath} {done : List Component} {name : Component} {after : World σ}
    (sound : ClientSound ⟨world, current ::ₘ held⟩) (selfHeld : self ∈ held)
    (reached : Reached world.objects self current start done)
    (called : direct current name world = .ok next after) :
    Reached (release kernel current after).objects self next start (done ++ [name]) := by
  rcases sound.heldLive current (Multiset.mem_cons_self _ _) with ⟨above, live⟩
  have selfMember : self ∈ current ::ₘ held := Multiset.mem_cons_of_mem selfHeld
  have stepped := (refines world (current ::ₘ held) current above name sound live).returned
    next after called
  have soundAfter := transitions_sound sound stepped
  have landed := lands world (current ::ₘ held) current next above name after sound live called
  have whole := (walk_step refines sound).1 next after called
  have soundWhole := transitions_sound sound whole
  have released : Transitions kernel ⟨after, next ::ₘ current ::ₘ held⟩
      ⟨release kernel current after, next ::ₘ held⟩ := by
    have step := release_transitions kernel soundAfter
      (Multiset.mem_cons_of_mem (Multiset.mem_cons_self current held))
    simp only [Multiset.cons_swap next current, Multiset.erase_cons_head] at step
    exact Multiset.cons_swap next current held ▸ step
  have persistsStep := transitions_persist sound stepped
  have persistsRelease := transitions_persist soundAfter released
  have selfAfter : Alive after.objects self :=
    soundAfter.heldLive self (Multiset.mem_cons_of_mem selfMember)
  have currentAfter : Alive after.objects current :=
    soundAfter.heldLive current (Multiset.mem_cons_of_mem (Multiset.mem_cons_self _ _))
  have nextAfter : Alive after.objects next :=
    soundAfter.heldLive next (Multiset.mem_cons_self _ _)
  have selfEnd : Alive (release kernel current after).objects self :=
    soundWhole.heldLive self (Multiset.mem_cons_of_mem selfHeld)
  have nextEnd : Alive (release kernel current after).objects next :=
    soundWhole.heldLive next (Multiset.mem_cons_self _ _)
  constructor
  · have toCurrent : SameTree after.objects self current :=
      same_tree_carried sound soundAfter persistsStep (sound.heldLive self selfMember) selfAfter
        ⟨above, live⟩ currentAfter reached.sameTree
    have toNext := same_tree_trans toCurrent
      (same_tree_of_adjacent soundAfter currentAfter landed.adjacent)
    exact same_tree_carried soundAfter soundWhole persistsRelease selfAfter selfEnd nextAfter
      nextEnd toNext
  · have kept : pathOf (release kernel current after).objects next = pathOf after.objects next :=
      path_carried soundAfter persistsRelease nextAfter nextEnd
    rw [kept, landed.path, lexical_path_concat, ← reached.path, path_of_live live]

theorem walk_reaches {direct : ObjectId → Component → Call σ ObjectId}
    (refines : StepRefines kernel direct) (lands : StepLands direct) {self result : ObjectId}
    {group : SingleControlGroup} {names : List Component} {after : World σ}
    (sound : ClientSound ⟨world, held⟩) (selfHeld : self ∈ held)
    (live : world.objects self = some group)
    (returned : walk kernel direct self names world = .ok result after) :
    Reached after.objects self result group.controlGroup_ names := by
  have initial : Reached (world.retain self).objects self self group.controlGroup_ [] := by
    have retained := retained_sound sound live
    have alive := retained.heldLive self (Multiset.mem_cons_self self held)
    refine ⟨same_tree_of_adjacent retained alive (.inl rfl), ?_⟩
    rw [retain_path, path_of_live live]
    rfl
  have cases := walk_cases refines sound live
    (fun current done middle => Reached middle.objects self current group.controlGroup_ done)
    initial
    (fun current done name middle next last steps reached called =>
      reached_step refines lands (transitions_sound sound steps) selfHeld reached called)
    names
  exact (cases.1 result after returned).2

end ContestSystem.Cgroup.Trees
