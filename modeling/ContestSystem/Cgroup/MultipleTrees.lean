import ContestSystem.Cgroup.MultipleRun

/-!
# Trees of several hierarchies

In a reachable session `root` and `attach` give one member for every hierarchy,
and `attachChild` and `parent` lead from each member to the live object of its
own tree that the path names, so that `parent` leads back from a child to the
very objects it was attached to. A call that throws, or meets a root, leaves
the heap as it was.
-/

namespace ContestSystem.Cgroup.MultipleTrees

open ContestSystem.Lib.Forest ContestSystem.Lib.Run ContestSystem.Lib.Unordered
open SingleControlGroup Registry Construction Transition Population Members Refinement Trees
open ClientRun AttachWalk CreateRollback MultipleMembers MultipleSession MultipleRun

set_option autoImplicit false

variable {σ : Type} {kernel : Kernel σ} {origin : Client σ}
  {cgroup : MultipleControlGroup ObjectId} {target : ControlGroupPath → ControlGroupPath}

/-- The hierarchies of a returned map. -/
def keysOf :
    EStateM.Result Failure (World σ) (MultipleControlGroup ObjectId) → Option (List Nat)
  | .ok child _ => some child.id2cgroup_.keys
  | .error _ _ => none

theorem objects_unchanged (sound : ClientSound origin) {after : World σ}
    (steps : Transitions kernel origin ⟨after, origin.held⟩) :
    after.objects = origin.world.objects :=
  objects_eq_of_same_held sound (transitions_sound sound steps) (transitions_persist sound steps)
    rfl

/-- One member for every hierarchy of the `SystemInfo` in use, at the hierarchy's path;
a hierarchy that is not mounted has no member, so the call throws. -/
structure OneForEach (origin : Client σ) (path : Nat → ControlGroupPath)
    (result : EStateM.Result Failure (World σ) (MultipleControlGroup ObjectId)) : Prop where
  thrown : ∀ failure after, result = .error failure after →
    after.objects = origin.world.objects ∧ External failure
  keys : ∀ made after, result = .ok made after → ∀ id,
    (made.id2cgroup_.lookup id).isSome ↔
      (origin.world.instance_.info.id2hierarchy_.lookup id).isSome
  members : ∀ made after, result = .ok made after → ∀ id member,
    made.id2cgroup_.lookup id = some member → ∃ object, after.objects member = some object ∧
      origin.world.instance_.info.id2hierarchy_.lookup id = some object.hierarchyInfo_ ∧
      object.hierarchyInfo_.mountpoint = some object.location_.mountpoint ∧
      object.controlGroup_ = path id
  population : ∀ made after, result = .ok made after → ∀ id,
    Alive after.objects id ↔ Alive origin.world.objects id ∨
      ∃ member ∈ pointers made, AtOrBelow (parentOf after.objects) member id

theorem acquired_one_for_each {acquire : Nat → Call σ ObjectId} {path : Nat → ControlGroupPath}
    (acquires : Acquires kernel acquire path) (sound : ClientSound origin) (orders : Orders) :
    OneForEach origin path (MultipleControlGroup.acquireAll kernel orders.listing orders.order
      orders.rehash acquire origin.world) := by
  have cases := acquire_all_cases acquires sound orders.listing orders.order orders.rehash
  have keyed := origin.world.instance_.keyed
  have listed : ∀ {id hierarchyInfo},
      origin.world.instance_.info.id2hierarchy_.lookup id = some hierarchyInfo ↔
        hierarchyInfo ∈ iterate orders.listing origin.world.instance_.info.id2hierarchy_ ∧
          hierarchyInfo.id = id := by
    intro id hierarchyInfo
    rw [mem_iterate_iff]
    constructor
    · intro found
      exact ⟨⟨id, found⟩, keyed id hierarchyInfo found⟩
    · intro ⟨⟨key, found⟩, same⟩
      rw [← same, keyed key hierarchyInfo found]
      exact found
  -- The entry of a hierarchy is the member placed for it.
  have entry : ∀ made after, MultipleControlGroup.acquireAll kernel orders.listing orders.order
      orders.rehash acquire origin.world = .ok made after → ∀ id member,
      made.id2cgroup_.lookup id = some member → ∃ object, after.objects member = some object ∧
        origin.world.instance_.info.id2hierarchy_.lookup id = some object.hierarchyInfo_ ∧
        object.controlGroup_ = path id := by
    intro made after returned id member found
    have acquired := cases.1 made after returned
    rcases acquired.only id member found with ⟨hierarchyInfo, inside, sameId⟩
    rcases acquired.placed hierarchyInfo inside with
      ⟨other, object, otherFound, live, info, atPath⟩
    rw [sameId, found] at otherFound
    cases otherFound
    exact ⟨object, live, listed.mpr ⟨info ▸ inside, info ▸ sameId⟩, sameId ▸ atPath⟩
  constructor
  · intro failure after thrown
    have refused := cases.2 failure after thrown
    exact ⟨objects_unchanged sound refused.1, refused.2⟩
  · intro made after returned id
    constructor
    · intro present
      rcases Option.isSome_iff_exists.mp present with ⟨member, found⟩
      rcases entry made after returned id member found with ⟨object, _, known, _⟩
      rw [known]
      rfl
    · intro present
      rcases Option.isSome_iff_exists.mp present with ⟨hierarchyInfo, known⟩
      rcases listed.mp known with ⟨inside, sameId⟩
      rcases (cases.1 made after returned).placed hierarchyInfo inside with ⟨member, _, found, _⟩
      rw [← sameId, found]
      rfl
  · intro made after returned id member found
    rcases entry made after returned id member found with ⟨object, live, known, atPath⟩
    have ended := transitions_sound sound (cases.1 made after returned).united.steps
    exact ⟨object, live, known, (ended.wired member object live).mounted, atPath⟩
  · intro made after returned id
    exact population_of_extra sound (cases.1 made after returned).united.steps id

/-- `root()` and `attach()` of every reachable session. -/
theorem all_hierarchies_attached (kernel : Kernel σ) (orders : Orders)
    (instance_ : SystemInfoPointer) (state : σ) (actions : List (MultipleRun.Action σ))
    (session : Session σ)
    (executed : run (Session.step kernel orders) (begin instance_ state) actions =
      some session) :
    OneForEach session.client (fun _ => []) (MultipleControlGroup.root kernel orders.listing
      orders.order orders.rehash session.world) ∧
    ∀ path : BoostPath, OneForEach session.client (fun _ => lexicalPath [] path.components)
      (MultipleControlGroup.attach kernel orders.listing orders.order orders.rehash path
        session.world) := by
  have sound := (run_sound executed).sound
  constructor
  · exact acquired_one_for_each (root_acquires kernel) sound orders
  · intro path
    exact acquired_one_for_each (attach_acquires kernel path) sound orders

theorem all_hierarchies_attached_two :
    ∃ session, run (Session.step directoryKernel insertionOrders) (begin twoHierarchies [])
        twoHierarchyRun = some session ∧
      keysOf (MultipleControlGroup.attach directoryKernel insertionOrders.listing
        insertionOrders.order insertionOrders.rehash ⟨true, [jobs]⟩ session.world) =
          some [3, 7] ∧
      OneForEach session.client (fun _ => lexicalPath [] [jobs])
        (MultipleControlGroup.attach directoryKernel insertionOrders.listing
          insertionOrders.order insertionOrders.rehash ⟨true, [jobs]⟩ session.world) := by
  have outcome : (run (Session.step directoryKernel insertionOrders) (begin twoHierarchies [])
      twoHierarchyRun).map (fun session =>
        keysOf (MultipleControlGroup.attach directoryKernel insertionOrders.listing
          insertionOrders.order insertionOrders.rehash ⟨true, [jobs]⟩ session.world)) =
      some (some [3, 7]) := by
    decide +kernel
  rcases Option.map_eq_some_iff.mp outcome with ⟨session, executed, keys⟩
  exact ⟨session, executed, keys, (all_hierarchies_attached directoryKernel insertionOrders
    twoHierarchies [] twoHierarchyRun session executed).2 ⟨true, [jobs]⟩⟩

/-- Either every member has its counterpart and nothing else is alive that was
not, or the heap is as it was. -/
structure LeadsTo (origin : Client σ) (cgroup : MultipleControlGroup ObjectId)
    (target : ControlGroupPath → ControlGroupPath)
    (result : EStateM.Result Failure (World σ) (MultipleControlGroup ObjectId)) : Prop where
  thrown : ∀ failure after, result = .error failure after →
    after.objects = origin.world.objects ∧ External failure
  returned : ∀ child after, result = .ok child after →
    Counterparts target origin cgroup child after
  population : ∀ child after, result = .ok child after → ∀ id,
    Alive after.objects id ↔ Alive origin.world.objects id ∨
      ∃ member ∈ pointers child, AtOrBelow (parentOf after.objects) member id

theorem gathered_leads_to (sound : ClientSound origin) (isHeld : MembersHeld origin cgroup)
    {call : ObjectId → Call σ ObjectId} (memberCall : MemberCall kernel call target)
    (order : HashOrder Nat) :
    LeadsTo origin cgroup target
      (cgroup.id2cgroup_.entries.foldlM (MultipleControlGroup.gatherMember kernel order call)
        (MultipleControlGroup.empty ObjectId) origin.world) := by
  have cases := gather_cases sound isHeld memberCall order
  constructor
  · intro failure after thrown
    have refused := cases.2 failure after thrown
    exact ⟨objects_unchanged sound refused.1, refused.2⟩
  · intro child after returned
    exact counterparts_of_gathered sound (cases.1 child after returned)
  · intro child after returned
    exact population_of_extra sound (cases.1 child after returned).steps

/-- `attachChild()` of every map of every reachable session. -/
theorem children_attached (kernel : Kernel σ) (orders : Orders)
    (instance_ : SystemInfoPointer) (state : σ) (actions : List (MultipleRun.Action σ))
    (session : Session σ)
    (executed : run (Session.step kernel orders) (begin instance_ state) actions =
      some session) :
    ∀ group ∈ session.groups, ∀ path : BoostPath,
      LeadsTo session.client group (fun start => lexicalPath start path.components)
        (MultipleControlGroup.attachChild kernel orders.order group path session.world) := by
  intro group inside path
  have sessionSound := run_sound executed
  exact gathered_leads_to sessionSound.sound (members_held sessionSound inside)
    (attach_child_member_call kernel path) orders.order

/-- A map of both roots, one of both "/jobs", and one of a root and a "/jobs". -/
def mixedRun : List (MultipleRun.Action (List Group)) :=
  [.root, .createChild 0 (.relative [jobs]) 0o777, .attachChild 0 (.relative []), .find 1 7,
    .replace 2 3]

/-- "/jobs" is reached through ".." from itself and directly from the root. -/
theorem children_attached_two :
    ∃ session, run (Session.step directoryKernel insertionOrders) (begin twoHierarchies [])
        mixedRun = some session ∧
      session.groups.map (fun group => keysOf (MultipleControlGroup.attachChild directoryKernel
        insertionOrders.order group (.relative [up, jobs]) session.world)) =
          [some [7, 3], some [3, 7], some [3, 7]] ∧
      ∀ group ∈ session.groups,
        LeadsTo session.client group (fun start => lexicalPath start [up, jobs])
          (MultipleControlGroup.attachChild directoryKernel insertionOrders.order group
            (.relative [up, jobs]) session.world) := by
  have outcome : (run (Session.step directoryKernel insertionOrders) (begin twoHierarchies [])
      mixedRun).map (fun session =>
        session.groups.map fun group => keysOf (MultipleControlGroup.attachChild directoryKernel
          insertionOrders.order group (.relative [up, jobs]) session.world)) =
      some [some [7, 3], some [3, 7], some [3, 7]] := by
    decide +kernel
  rcases Option.map_eq_some_iff.mp outcome with ⟨session, executed, keys⟩
  exact ⟨session, executed, keys, fun group inside => children_attached directoryKernel
    insertionOrders twoHierarchies [] mixedRun session executed group inside
    (.relative [up, jobs])⟩

/-- `parent()` is null exactly where a member is a root, and then it leaves no
pointer behind; otherwise it points to the parents of all members. -/
structure LeadsUp (kernel : Kernel σ) (origin : Client σ)
    (cgroup : MultipleControlGroup ObjectId) (order : HashOrder Nat) : Prop where
  null : (∃ id member, cgroup.id2cgroup_.lookup id = some member ∧
      pathOf origin.world.objects member = []) →
    ∃ after, MultipleControlGroup.parent kernel order cgroup origin.world = .ok none after ∧
      after.objects = origin.world.objects
  found : (∀ id member, cgroup.id2cgroup_.lookup id = some member →
      pathOf origin.world.objects member ≠ []) →
    ∃ above after,
      MultipleControlGroup.parent kernel order cgroup origin.world = .ok (some above) after ∧
      (∀ id, above.id2cgroup_.lookup id =
        (cgroup.id2cgroup_.lookup id).bind (parentOf origin.world.objects)) ∧
      (∀ id, after.objects id = (origin.world.objects id).map fun object =>
        { object with references := object.references + (pointers above).count id }) ∧
      after.kernel = origin.world.kernel ∧ after.journal = origin.world.journal

theorem parent_cases (kernel : Kernel σ) (sound : ClientSound origin)
    (isHeld : MembersHeld origin cgroup) (order : HashOrder Nat) :
    ∃ result after, MultipleControlGroup.parent kernel order cgroup origin.world =
      .ok result after ∧ Parents kernel origin cgroup result after :=
  parent_members_cases sound isHeld order [] cgroup.id2cgroup_.entries
    (MultipleControlGroup.empty ObjectId) origin.world rfl (gathered_start origin)
    fun _ absurdly => by cases absurdly

theorem gathered_parents (sound : ClientSound origin) (isHeld : MembersHeld origin cgroup)
    {above : MultipleControlGroup ObjectId} {after : World σ}
    (gathered : Gathered kernel origin List.dropLast above cgroup.id2cgroup_.entries after)
    (below : ∀ id_cgroup ∈ cgroup.id2cgroup_.entries,
      pathOf origin.world.objects id_cgroup.2 ≠ []) (id : Nat) :
    above.id2cgroup_.lookup id =
      (cgroup.id2cgroup_.lookup id).bind (parentOf origin.world.objects) := by
  have counterparts := counterparts_of_gathered sound gathered
  cases listed : cgroup.id2cgroup_.lookup id with
  | none =>
      cases found : above.id2cgroup_.lookup id with
      | none => rfl
      | some up =>
          have present := (counterparts.keys id).mp (by rw [found]; rfl)
          rw [listed] at present
          cases present
  | some member =>
      have sound' := transitions_sound sound gathered.steps
      have persists := transitions_persist sound gathered.steps
      have isMember := isHeld.held id member listed
      have still : ∀ {other}, Alive origin.world.objects other → Alive after.objects other :=
        fun alive => (population_of_extra sound gathered.steps _).mpr (.inl alive)
      rcases sound.heldLive member isMember with ⟨object, live⟩
      have present := (counterparts.keys id).mpr (by rw [listed]; rfl)
      rcases Option.isSome_iff_exists.mp present with ⟨result, found⟩
      cases parentAt : object.parent_ with
      | none =>
          have isRoot := (parent_of_eq_none_iff sound live).mp parentAt
          have notRoot := below ⟨id, member⟩ (AList.mem_lookup_iff.mp listed)
          exact absurd ((path_of_live live).trans isRoot) notRoot
      | some up =>
          rcases sound.linked member object up live parentAt with
            ⟨_, upper, name, upLive, extends_, _⟩
          have edge : parentOf origin.world.objects member = some up := by
            rw [parent_of_live live, parentAt]
          have sameTree : SameTree after.objects member up :=
            same_tree_carried sound sound' persists ⟨object, live⟩ (still ⟨object, live⟩)
              ⟨upper, upLive⟩ (still ⟨upper, upLive⟩)
              (same_tree_of_adjacent sound ⟨object, live⟩ (.inr (.inl edge)))
          have path : pathOf after.objects up =
              (pathOf origin.world.objects member).dropLast := by
            rw [path_carried sound persists ⟨upper, upLive⟩ (still ⟨upper, upLive⟩),
              path_of_live upLive, path_of_live live, extends_.controlGroup, List.dropLast_concat]
          rw [found, Option.bind_some, edge]
          exact congrArg some
            (counterparts.only id member result up listed found (still ⟨upper, upLive⟩) sameTree
              path).symm

theorem leads_up (kernel : Kernel σ) (sound : ClientSound origin)
    (isHeld : MembersHeld origin cgroup) (order : HashOrder Nat) :
    LeadsUp kernel origin cgroup order := by
  rcases parent_cases kernel sound isHeld order with
    ⟨result, after, returned, parents⟩
  cases parents with
  | null _ steps id_cgroup inside isRoot =>
      constructor
      · intro _
        exact ⟨after, returned, objects_unchanged sound steps⟩
      · intro below
        exact absurd isRoot (below _ _ (AList.mem_lookup_iff.mpr inside))
  | found above _ gathered below =>
      constructor
      · intro ⟨id, member, listed, isRoot⟩
        exact absurd isRoot (below ⟨id, member⟩ (AList.mem_lookup_iff.mp listed))
      · intro _
        have parents := gathered_parents sound isHeld gathered below
        refine ⟨above, after, returned, parents, ?_, parent_members_quiet returned⟩
        apply recounted_of_extra sound gathered.steps
        intro low inside
        rcases (mem_pointers_iff above low).mp inside with ⟨id, found⟩
        rw [parents id] at found
        rcases Option.bind_eq_some_iff.mp found with ⟨member, listed, edge⟩
        exact (kept_of_sound sound).parent_alive member
          (sound.heldLive member (isHeld.held id member listed)) low edge

/-- `parent()` of every map of every reachable session. -/
theorem parents_exact (kernel : Kernel σ) (orders : Orders)
    (instance_ : SystemInfoPointer) (state : σ) (actions : List (MultipleRun.Action σ))
    (session : Session σ)
    (executed : run (Session.step kernel orders) (begin instance_ state) actions =
      some session) :
    ∀ group ∈ session.groups, LeadsUp kernel session.client group orders.order := by
  intro group inside
  have sessionSound := run_sound executed
  exact leads_up kernel sessionSound.sound (members_held sessionSound inside) orders.order

/-- Only the map without a root has a parent; the mixed one has its root behind a member that has
a parent. -/
theorem parents_exact_two :
    ∃ session, run (Session.step directoryKernel insertionOrders) (begin twoHierarchies [])
        mixedRun = some session ∧
      session.groups.map (fun group =>
        group.id2cgroup_.entries.map fun id_cgroup =>
          (pathOf session.world.objects id_cgroup.2).length) = [[0, 0], [1, 1], [1, 0]] ∧
      ∀ group ∈ session.groups,
        LeadsUp directoryKernel session.client group insertionOrders.order := by
  have outcome : (run (Session.step directoryKernel insertionOrders) (begin twoHierarchies [])
      mixedRun).map (fun session => session.groups.map fun group =>
        group.id2cgroup_.entries.map fun id_cgroup =>
          (pathOf session.world.objects id_cgroup.2).length) = some [[0, 0], [1, 1], [1, 0]] := by
    decide +kernel
  rcases Option.map_eq_some_iff.mp outcome with ⟨session, executed, lengths⟩
  exact ⟨session, executed, lengths, parents_exact directoryKernel insertionOrders twoHierarchies
    [] mixedRun session executed⟩

/-- `parent()` of a map returned for a path with a last name points where the
path without that name leads, and for a single name to the very same objects. -/
structure ComesBack (kernel : Kernel σ) (origin : Client σ)
    (cgroup : MultipleControlGroup ObjectId) (order : HashOrder Nat) (names : List Component)
    (result : EStateM.Result Failure (World σ) (MultipleControlGroup ObjectId)) : Prop where
  upper : ∀ child after, result = .ok child after → ∃ above final,
    MultipleControlGroup.parent kernel order child after = .ok (some above) final ∧
      Counterparts (fun start => lexicalPath start names) origin cgroup above final ∧
      (names = [] → ∀ id, above.id2cgroup_.lookup id = cgroup.id2cgroup_.lookup id)

theorem lexical_path_drop_last (start : ControlGroupPath) (names : List Component)
    {last : Component} (ordinary : last.IsOrdinary) :
    lexicalPath start (names ++ [last]) = lexicalPath start names ++ [last] := by
  rw [lexical_path_concat, lexical_step_ordinary _ ordinary]

theorem gathered_comes_back (sound : ClientSound origin) (isHeld : MembersHeld origin cgroup)
    {call : ObjectId → Call σ ObjectId} {names : List Component} {last : Component}
    (ordinary : last.IsOrdinary)
    (memberCall : MemberCall kernel call fun start => lexicalPath start (names ++ [last]))
    (order : HashOrder Nat) :
    ComesBack kernel origin cgroup order names
      (cgroup.id2cgroup_.entries.foldlM (MultipleControlGroup.gatherMember kernel order call)
        (MultipleControlGroup.empty ObjectId) origin.world) := by
  constructor
  intro child after returned
  have gathered := (gather_cases sound isHeld memberCall order).1 child after returned
  have childHeld := gathered_members_held sound isHeld gathered
  have sound' := transitions_sound sound gathered.steps
  have down := counterparts_of_gathered sound gathered
  rcases parent_cases kernel sound' childHeld order with ⟨result, final, climbed, parents⟩
  cases parents with
  | null _ steps id_cgroup inside isRoot =>
      -- The path of a child ends with `last`.
      have found := AList.mem_lookup_iff.mpr inside
      rcases Option.isSome_iff_exists.mp ((down.keys id_cgroup.1).mp (by rw [found]; rfl)) with
        ⟨member, listed⟩
      have path := (down.placed id_cgroup.1 member id_cgroup.2 listed found).2
      rw [isRoot, lexical_path_drop_last _ _ ordinary] at path
      simp at path
  | found above _ climb below =>
      have up := counterparts_of_gathered sound' climb
      have ended := transitions_sound sound' climb.steps
      have persists := transitions_persist sound' climb.steps
      have keys : ∀ id, (above.id2cgroup_.lookup id).isSome ↔
          (cgroup.id2cgroup_.lookup id).isSome :=
        fun id => (up.keys id).trans (down.keys id)
      have placed : ∀ id member result, cgroup.id2cgroup_.lookup id = some member →
          above.id2cgroup_.lookup id = some result →
            SameTree final.objects member result ∧
              pathOf final.objects result =
                lexicalPath (pathOf origin.world.objects member) names := by
        intro id member result listed found
        rcases Option.isSome_iff_exists.mp ((up.keys id).mp (by rw [found]; rfl)) with
          ⟨middle, between⟩
        rcases down.placed id member middle listed between with ⟨downTree, downPath⟩
        rcases up.placed id middle result between found with ⟨upTree, upPath⟩
        have memberHeld : member ∈ pointers child + origin.held :=
          Multiset.mem_add.mpr (.inr (isHeld.held id member listed))
        have middleHeld := childHeld.held id middle between
        have carried := same_tree_carried sound' ended persists (sound'.heldLive _ memberHeld)
          (ended.heldLive _ (Multiset.mem_add.mpr (.inr memberHeld))) (sound'.heldLive _ middleHeld)
          (ended.heldLive _ (Multiset.mem_add.mpr (.inr middleHeld))) downTree
        refine ⟨same_tree_trans carried upTree, ?_⟩
        rw [upPath, downPath, lexical_path_drop_last _ _ ordinary, List.dropLast_concat]
      have only : ∀ id member result other, cgroup.id2cgroup_.lookup id = some member →
          above.id2cgroup_.lookup id = some result → Alive final.objects other →
          SameTree final.objects member other →
          pathOf final.objects other = lexicalPath (pathOf origin.world.objects member) names →
            other = result := by
        intro id member result other listed found alive sameTree path
        have landed := placed id member result listed found
        have resultHeld : result ∈ pointers above + (pointers child + origin.held) :=
          Multiset.mem_add.mpr (.inl ((mem_pointers_iff above result).mpr ⟨id, found⟩))
        exact unique_in_tree ended alive (ended.heldLive result resultHeld) sameTree landed.1
          (path.trans landed.2.symm)
      refine ⟨above, final, climbed, ⟨keys, placed, only⟩, ?_⟩
      intro single id
      cases listed : cgroup.id2cgroup_.lookup id with
      | none =>
          cases found : above.id2cgroup_.lookup id with
          | none => rfl
          | some result =>
              have present := (keys id).mp (by rw [found]; rfl)
              rw [listed] at present
              cases present
      | some member =>
          rcases Option.isSome_iff_exists.mp ((keys id).mpr (by rw [listed]; rfl)) with
            ⟨result, found⟩
          have memberHeld : member ∈ pointers child + origin.held :=
            Multiset.mem_add.mpr (.inr (isHeld.held id member listed))
          have memberAlive := ended.heldLive member (Multiset.mem_add.mpr (.inr memberHeld))
          have samePath : pathOf final.objects member =
              lexicalPath (pathOf origin.world.objects member) names := by
            rw [single, lexical_path_nil, path_carried sound' persists
              (sound'.heldLive member memberHeld) memberAlive,
              gathered_path sound gathered (isHeld.held id member listed)]
          rw [found, only id member result member listed found memberAlive
            (same_tree_of_adjacent ended memberAlive (.inl rfl)) samePath]

/-- `parent()` undoes `attachChild()` and `createChild()` in every reachable session. -/
theorem parent_undoes_child (kernel : Kernel σ) (orders : Orders)
    (instance_ : SystemInfoPointer) (state : σ) (actions : List (MultipleRun.Action σ))
    (session : Session σ)
    (executed : run (Session.step kernel orders) (begin instance_ state) actions =
      some session) :
    ∀ group ∈ session.groups, ∀ (names : List Component) (last : Component), last.IsOrdinary →
      ComesBack kernel session.client group orders.order names
        (MultipleControlGroup.attachChild kernel orders.order group
          (.relative (names ++ [last])) session.world) ∧
      ∀ mode, ComesBack kernel session.client group orders.order names
        (MultipleControlGroup.createChild kernel orders.order group
          (.relative (names ++ [last])) mode session.world) := by
  intro group inside names last ordinary
  have sessionSound := run_sound executed
  have isHeld := members_held sessionSound inside
  constructor
  · exact gathered_comes_back sessionSound.sound isHeld ordinary
      (attach_child_member_call kernel (.relative (names ++ [last]))) orders.order
  · intro mode
    exact gathered_comes_back sessionSound.sound isHeld ordinary
      (create_child_member_call kernel (.relative (names ++ [last])) mode) orders.order

theorem parent_undoes_child_two :
    ∃ session, run (Session.step directoryKernel insertionOrders) (begin twoHierarchies [])
        mixedRun = some session ∧
      session.groups.map (fun group => keysOf (MultipleControlGroup.createChild directoryKernel
        insertionOrders.order group (.relative [task]) 0o777 session.world)) =
          [some [7, 3], some [3, 7], some [3, 7]] ∧
      ∀ group ∈ session.groups,
        ComesBack directoryKernel session.client group insertionOrders.order []
          (MultipleControlGroup.createChild directoryKernel insertionOrders.order group
            (.relative [task]) 0o777 session.world) := by
  have outcome : (run (Session.step directoryKernel insertionOrders) (begin twoHierarchies [])
      mixedRun).map (fun session =>
        session.groups.map fun group => keysOf (MultipleControlGroup.createChild directoryKernel
          insertionOrders.order group (.relative [task]) 0o777 session.world)) =
      some [some [7, 3], some [3, 7], some [3, 7]] := by
    decide +kernel
  rcases Option.map_eq_some_iff.mp outcome with ⟨session, executed, keys⟩
  exact ⟨session, executed, keys, fun group inside => (parent_undoes_child directoryKernel
    insertionOrders twoHierarchies [] mixedRun session executed group inside [] task
    (by decide)).2 0o777⟩

end ContestSystem.Cgroup.MultipleTrees
