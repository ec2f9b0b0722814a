import ContestSystem.Cgroup.ClientRun
import ContestSystem.Cgroup.GroupDirectories
import ContestSystem.Cgroup.MultipleControlGroup

/-!
# Creating children is all or nothing

Wherever `createChild` throws, in whichever hierarchy, the pointers that go out
of scope take the objects and the directories of the call with them. When it
returns, the returned objects keep exactly the new directories, one for every
prefix of the path and every member.
-/

namespace ContestSystem.Cgroup.CreateRollback

open ContestSystem.Lib.Forest ContestSystem.Lib.Run ContestSystem.Lib.Throwing
open ContestSystem.Lib.Unordered
open SingleControlGroup Registry Construction Transition Population Members Refinement Trees
open ClientRun GroupDirectories

set_option autoImplicit false

variable {σ : Type} {kernel : Kernel σ} {groups populated : σ → Set Group}
  {members : Set ObjectId} {origin : Client σ} {world : World σ} {held : Multiset ObjectId}

theorem create_direct_child_tracked
    (laws : DirectoryLaws kernel (InUse origin.world.objects) groups populated)
    (originSound : ClientSound origin) (apart : Apart members origin)
    (tracked : Tracked groups populated members origin ⟨world, held⟩) {self : ObjectId}
    {above : SingleControlGroup} (live : world.objects self = some above)
    (inTree : ∃ member ∈ members, SameTree world.objects member self)
    (still : ∀ other ∈ origin.held, other ∈ held) (name : Component) (mode : Mode) :
    (∀ next after, createDirectChild kernel self name mode world = .ok next after →
      Tracked groups populated members origin ⟨after, next ::ₘ held⟩) ∧
    (∀ failure after, createDirectChild kernel self name mode world = .error failure after →
      Tracked groups populated members origin ⟨after, held⟩) := by
  have sound := tracked.sound
  rcases create_direct_child_cases kernel sound live name mode with
    ⟨failure, _, throws⟩ | ⟨ordinary, absent, equation⟩
  · rw [throws]
    constructor
    · intro next after returned
      cases returned
    · intro other after thrown
      cases thrown
      exact tracked
  rw [equation]
  have directory := make_directory_cases kernel self above name mode world.kernel
  have setUp := asked_set_up_cpu_set kernel world.instance_ (childOf .created self above name)
  cases made : makeDirectory kernel self above name mode world.kernel with
  | error failure after =>
      constructor
      · intro next final returned
        cases returned
      · intro other final thrown
        cases thrown
        exact tracked_asked laws apart tracked (directory.2 failure after made).1
  | ok value after =>
      rcases directory.1 after made with ⟨middle, answered, created⟩
      have looked := tracked_asked laws apart tracked answered
      have adopted : Tracked groups populated members origin
          ⟨(world.asked after).adopt self name (childOf .created self above name),
            world.fresh ::ₘ held⟩ :=
        tracked_made laws originSound apart looked live ordinary absent inTree created
      simp only
      cases finished : setUpCpuSet kernel world.instance_ (childOf .created self above name)
          after with
      | ok value final =>
          constructor
          · intro next last returned
            cases returned
            exact tracked_asked laws apart adopted (setUp.returned _ _ _ finished)
          · intro other last thrown
            cases thrown
      | error failure final =>
          constructor
          · intro next last returned
            cases returned
          · intro other last thrown
            cases thrown
            have ended := tracked_asked laws apart adopted (setUp.thrown _ _ _ finished).1
            exact tracked_release laws originSound apart ended still

/-- The loop of `createChild` stands at `current`, having made what `done` names. -/
structure Creating (groups populated : σ → Set Group) (members : Set ObjectId)
    (origin : Client σ) (held : Multiset ObjectId) (start : ObjectId)
    (group : SingleControlGroup) (current : ObjectId) (done : List Component)
    (middle : World σ) : Prop where
  tracked : Tracked groups populated members origin ⟨middle, current ::ₘ held⟩
  reached : Reached middle.objects start current group.controlGroup_ done
  ordinary : ∀ name ∈ done, name.IsOrdinary

section Walk

variable {self : ObjectId} {group : SingleControlGroup}

theorem creating_current (laws : DirectoryLaws kernel (InUse origin.world.objects) groups populated)
    (originSound : ClientSound origin) (apart : Apart members origin) (isMember : self ∈ members)
    (still : ∀ other ∈ origin.held, other ∈ held) {current : ObjectId} {done : List Component}
    {middle : World σ}
    (creating : Creating groups populated members origin held self group current done middle)
    (name : Component) (mode : Mode) :
    (∀ next after, createDirectChild kernel current name mode middle = .ok next after →
      Tracked groups populated members origin ⟨after, next ::ₘ current ::ₘ held⟩) ∧
    (∀ failure after, createDirectChild kernel current name mode middle = .error failure after →
      Tracked groups populated members origin ⟨after, current ::ₘ held⟩) := by
  rcases creating.tracked.sound.heldLive current (Multiset.mem_cons_self _ _) with ⟨above, live⟩
  exact create_direct_child_tracked laws originSound apart creating.tracked live
    ⟨self, isMember, creating.reached.sameTree⟩
    (fun other inside => Multiset.mem_cons_of_mem (still other inside)) name mode

theorem creating_step (laws : DirectoryLaws kernel (InUse origin.world.objects) groups populated)
    (originSound : ClientSound origin) (apart : Apart members origin) (isMember : self ∈ members)
    (selfHeld : self ∈ held) (still : ∀ other ∈ origin.held, other ∈ held)
    {current next : ObjectId} {done : List Component} {name : Component} {mode : Mode}
    {middle after : World σ}
    (creating : Creating groups populated members origin held self group current done middle)
    (called : createDirectChild kernel current name mode middle = .ok next after) :
    Creating groups populated members origin held self group next (done ++ [name])
      (release kernel current after) := by
  have sound := creating.tracked.sound
  rcases sound.heldLive current (Multiset.mem_cons_self _ _) with ⟨above, live⟩
  have made := (creating_current laws originSound apart isMember still creating name mode).1 next
    after called
  rw [Multiset.cons_swap] at made
  constructor
  · exact tracked_release laws originSound apart made
      fun other inside => Multiset.mem_cons_of_mem (still other inside)
  · exact reached_step (create_step_refines kernel mode) (create_step_lands kernel mode) sound
      selfHeld creating.reached called
  · intro other inside
    rcases List.mem_append.mp inside with before | last
    · exact creating.ordinary other before
    · rw [List.mem_singleton.mp last]
      exact (create_direct_child_returns sound live called).1

theorem create_child_tracked
    (laws : DirectoryLaws kernel (InUse origin.world.objects) groups populated)
    (originSound : ClientSound origin) (apart : Apart members origin) (isMember : self ∈ members)
    (selfHeld : self ∈ held) (still : ∀ other ∈ origin.held, other ∈ held)
    (tracked : Tracked groups populated members origin ⟨world, held⟩)
    (live : world.objects self = some group) (path : BoostPath) (mode : Mode) :
    (∀ result after, createChild kernel self path mode world = .ok result after →
      Creating groups populated members origin held self group result path.components after) ∧
    (∀ failure after, createChild kernel self path mode world = .error failure after →
      Tracked groups populated members origin ⟨after, held⟩) := by
  cases absolute : path.isAbsolute with
  | true =>
      have refused : createChild kernel self path mode world = _ :=
        absolute_refused (fun current i => createDirectChild kernel current i mode) absolute
      rw [refused]
      constructor
      · intro result after returned
        cases returned
      · intro failure after thrown
        cases thrown
        exact tracked
  | false =>
      have walks : createChild kernel self path mode world = _ :=
        relative_walks (fun current i => createDirectChild kernel current i mode) absolute
      have initial : Creating groups populated members origin held self group self []
          (world.retain self) := by
        have sound' := retained_sound tracked.sound live
        constructor
        · have step : Transition kernel ⟨world, held⟩ ⟨world.retain self, self ::ₘ held⟩ :=
            .retained _ self group live
          exact tracked_kept apart tracked sound' (transition_persists tracked.sound step) rfl
            (fun _ alive => modify_alive world self _ alive) rfl rfl
        · refine ⟨same_tree_of_adjacent sound'
            (sound'.heldLive self (Multiset.mem_cons_self _ _)) (.inl rfl), ?_⟩
          rw [retain_path, path_of_live live]
          rfl
        · intro name inside
          cases inside
      have cases := walk_cases (create_step_refines kernel mode) tracked.sound live
        (Creating groups populated members origin held self group) initial
        (fun current done name middle next after _ creating called =>
          creating_step laws originSound apart isMember selfHeld still creating called)
        path.components
      rw [walks]
      constructor
      · intro result after returned
        exact (cases.1 result after returned).2
      · intro failure after thrown
        rcases (cases.2 failure after thrown).2.2 with
          ⟨done, name, rest, current, middle, last, _, _, creating, called, same⟩
        have refused := (creating_current laws originSound apart isMember still creating name
          mode).2 failure last called
        rw [same]
        exact tracked_release laws originSound apart refused still

theorem first_unregistered (sound : ClientSound ⟨world, held⟩)
    (live : world.objects self = some group) {path : BoostPath} {name : Component}
    {rest : List Component} (split : path.components = name :: rest) {mode : Mode}
    {result : ObjectId} {after : World σ}
    (returned : createChild kernel self path mode world = .ok result after) :
    group.children_.lookup name = none := by
  cases absolute : path.isAbsolute with
  | true =>
      have refused : createChild kernel self path mode world = _ :=
        absolute_refused (fun current i => createDirectChild kernel current i mode) absolute
      rw [refused] at returned
      cases returned
  | false =>
      have walks : createChild kernel self path mode world = _ :=
        relative_walks (fun current i => createDirectChild kernel current i mode) absolute
      rw [walks, split] at returned
      rcases bind_eq_ok.mp returned with ⟨current, middle, pointed, loop⟩
      rw [pointer_eq live] at pointed
      cases pointed
      rcases bind_eq_ok.mp loop with ⟨next, last, advanced, _⟩
      rcases bind_eq_ok.mp advanced with ⟨child, final, created, _⟩
      have retained : (world.retain self).objects self =
          some { group with references := group.references + 1 } := by
        simp [World.retain, World.modify, live]
      exact (create_direct_child_returns (retained_sound sound live) retained
        (unwinding_eq_ok.mp created)).2.1

end Walk

/-- `result` lies below `member` at the end of `names`; a created object that is
not older than `limit` holds the group of every prefix on the way. -/
structure Provided (limit : ObjectId) (objects : Heap) (member result : ObjectId)
    (group : SingleControlGroup) (names : List Component) : Prop where
  below : AtOrBelow (parentOf objects) result member
  path : pathOf objects result = group.controlGroup_ ++ names
  prefixes : ∀ rest, rest ≠ [] → rest <+: names → ∃ id object, objects id = some object ∧
    AtOrBelow (parentOf objects) result id ∧ limit ≤ id ∧ object.kind = .created ∧
    object.location_ = { group.location_ with controlGroup := group.controlGroup_ ++ rest }

theorem same_tree_of_below {objects : Heap} {fresh : ObjectId} (sound : Sound objects fresh held)
    {low high : ObjectId} (highAlive : Alive objects high)
    (isBelow : AtOrBelow (parentOf objects) low high) : SameTree objects high low := by
  rcases root_exists (kept_of_sound sound) high highAlive with ⟨root, _, inside⟩
  exact ⟨root, inside, in_tree_below inside isBelow⟩

theorem provided_carried {client next : Client σ} (sound : ClientSound client)
    (sound' : ClientSound next) (persists : Persists client next) {limit : ObjectId}
    {member result : ObjectId} {group : SingleControlGroup} {names : List Component}
    (alive : Alive client.world.objects result) (still : Alive next.world.objects result)
    (provided : Provided limit client.world.objects member result group names) :
    Provided limit next.world.objects member result group names := by
  have carry : ∀ {high}, AtOrBelow (parentOf client.world.objects) result high →
      Alive next.world.objects high ∧ AtOrBelow (parentOf next.world.objects) result high :=
    fun path => below_carried (kept_of_sound sound) (kept_of_sound sound')
      (persists_agree sound persists) alive still path
  constructor
  · exact (carry provided.below).2
  · rw [path_carried sound persists alive still, provided.path]
  · intro rest nonempty isPrefix
    rcases provided.prefixes rest nonempty isPrefix with
      ⟨id, object, live, isBelow, new, created, located⟩
    rcases carry isBelow with ⟨⟨now, nowLive⟩, isBelow'⟩
    rcases persists.old id now nowLive (sound.bounded id object live) with ⟨other, otherLive, same⟩
    have sameObject := Option.some.inj (otherLive.symm.trans live)
    rw [sameObject] at same
    refine ⟨id, now, nowLive, isBelow', new, ?_, ?_⟩
    · rw [identity_kind same, created]
    · rw [identity_location same, located]

section Provide

variable {self : ObjectId} {group : SingleControlGroup}

theorem constructed_by_call (sound : ClientSound ⟨world, held⟩)
    (live : world.objects self = some group) {path : BoostPath} {mode : Mode} {result : ObjectId}
    {after : World σ} (returned : createChild kernel self path mode world = .ok result after)
    (ends : pathOf after.objects result = group.controlGroup_ ++ path.components) {id : ObjectId}
    (towards : AtOrBelow (parentOf after.objects) result id)
    (isBelow : AtOrBelow (parentOf after.objects) id self) (different : id ≠ self) :
    world.fresh ≤ id := by
  have steps := (create_child_refines sound live path mode).returned result after returned
  have sound' := transitions_sound sound steps
  have persists := transitions_persist sound steps
  have resultAlive := sound'.heldLive result (Multiset.mem_cons_self _ _)
  by_contra older
  have bounded := Nat.lt_of_not_le older
  -- The object was alive before the call, and so was the child of `self` above it.
  have idAlive := above_alive (kept_of_sound sound') towards resultAlive
  rcases idAlive with ⟨now, nowLive⟩
  rcases persists.old id now nowLive bounded with ⟨object, objectLive, _⟩
  have before : AtOrBelow (parentOf world.objects) id self :=
    (below_carried (kept_of_sound sound') (kept_of_sound sound)
      (fun node inside outside => (persists_agree sound persists node outside inside).symm)
      ⟨now, nowLive⟩ ⟨object, objectLive⟩ isBelow).2
  rcases Relation.ReflTransGen.cases_tail before with same | ⟨child, toChild, edge⟩
  · exact different same.symm
  · rcases parent_of_eq_some.mp edge with ⟨below, childLive, parentAt⟩
    rcases sound.linked child below self childLive parentAt with
      ⟨_, above, name, selfLive, extends_, listed⟩
    have sameGroup := Option.some.inj (selfLive.symm.trans live)
    rw [sameGroup] at extends_ listed
    have onWay := path_prefix_of_below (labelled_of_sound sound) ⟨object, objectLive⟩ toChild
    have toEnd := path_prefix_of_below (labelled_of_sound sound') resultAlive towards
    rw [path_of_live childLive, extends_.controlGroup] at onWay
    have samePath : pathOf after.objects id = pathOf world.objects id :=
      path_carried sound persists ⟨object, objectLive⟩ ⟨now, nowLive⟩
    have first : group.controlGroup_ ++ [name] <+: group.controlGroup_ ++ path.components := by
      rw [← ends]
      exact onWay.2.trans (samePath ▸ toEnd.2)
    rcases (List.prefix_append_right_inj _).mp first with ⟨rest, split⟩
    have absent := first_unregistered sound live split.symm returned
    rw [absent] at listed
    cases listed

theorem lexical_path_ordinary (start : ControlGroupPath) (names : List Component)
    (ordinary : ∀ name ∈ names, name.IsOrdinary) : lexicalPath start names = start ++ names := by
  induction names generalizing start with
  | nil => simp
  | cons name names ih =>
      have rest := ih (start ++ [name])
        fun other inside => ordinary other (List.mem_cons_of_mem _ inside)
      rw [lexical_path_cons, lexical_step_ordinary start (ordinary name List.mem_cons_self), rest,
        List.append_assoc, List.singleton_append]

theorem create_child_provides
    (laws : DirectoryLaws kernel (InUse origin.world.objects) groups populated)
    (originSound : ClientSound origin) (apart : Apart members origin) (isMember : self ∈ members)
    (selfHeld : self ∈ held) (still : ∀ other ∈ origin.held, other ∈ held)
    (tracked : Tracked groups populated members origin ⟨world, held⟩)
    (live : world.objects self = some group) {path : BoostPath} {mode : Mode} {result : ObjectId}
    {after : World σ} (returned : createChild kernel self path mode world = .ok result after) :
    Tracked groups populated members origin ⟨after, result ::ₘ held⟩ ∧
      Provided origin.world.fresh after.objects self result group path.components := by
  have creating := (create_child_tracked laws originSound apart isMember selfHeld still tracked
    live path mode).1 result after returned
  have trackedAfter := creating.tracked
  have sound' := trackedAfter.sound
  have resultAlive := sound'.heldLive result (Multiset.mem_cons_self _ _)
  have selfAlive := sound'.heldLive self (Multiset.mem_cons_of_mem selfHeld)
  have ends : pathOf after.objects result = group.controlGroup_ ++ path.components := by
    rw [creating.reached.path, lexical_path_ordinary _ _ creating.ordinary]
  have steps := (create_child_refines tracked.sound live path mode).returned result after returned
  have persists := transitions_persist tracked.sound steps
  have selfPath : pathOf after.objects self = group.controlGroup_ := by
    have kept : pathOf after.objects self = pathOf world.objects self :=
      path_carried tracked.sound persists ⟨group, live⟩ selfAlive
    rw [kept, path_of_live live]
  rcases creating.reached.sameTree with ⟨root, selfInside, resultInside⟩
  have tree := labelled_of_sound sound'
  have below : AtOrBelow (parentOf after.objects) result self := by
    apply below_of_prefix tree resultAlive selfAlive resultInside selfInside
    rw [ends, selfPath]
    exact List.prefix_append _ _
  refine ⟨trackedAfter, below, ends, ?_⟩
  intro rest nonempty isPrefix
  have toPrefix : group.controlGroup_ ++ rest <+: pathOf after.objects result := by
    rw [ends]
    exact (List.prefix_append_right_inj _).mpr isPrefix
  rcases ancestor_at_prefix tree resultAlive toPrefix with ⟨id, ⟨object, objectLive⟩, isAbove, idPath⟩
  have different : id ≠ self := by
    intro same
    rw [same, selfPath] at idPath
    exact nonempty (by simpa using idPath)
  have isBelow : AtOrBelow (parentOf after.objects) id self := by
    rcases ancestors_comparable isAbove below with down | up
    · exact down
    · have shorter := (path_prefix_of_below tree selfAlive up).2.length_le
      rw [idPath, selfPath, List.length_append] at shorter
      exact absurd (List.length_eq_zero_iff.mp (by omega)) nonempty
  have constructed := constructed_by_call tracked.sound live returned ends isAbove isBelow different
  have new : origin.world.fresh ≤ id := Nat.le_trans tracked.persists.later constructed
  rcases selfAlive with ⟨now, nowLive⟩
  rcases persists.old self now nowLive (tracked.sound.bounded self group live) with
    ⟨original, originally, same⟩
  rw [Option.some.inj (originally.symm.trans live)] at same
  have located := location_in_tree sound' (same_tree_of_below sound' ⟨now, nowLive⟩ isBelow)
    nowLive objectLive
  rw [identity_location same] at located
  rw [path_of_live objectLive] at idPath
  rw [idPath] at located
  exact ⟨id, object, objectLive, isAbove, new,
    (trackedAfter.accounted id object objectLive new).created, located⟩

end Provide

/-- The groups on the way down from a location. -/
def prefixGroups (location : Location) (names : List Component) : Set Group :=
  { group | ∃ rest, rest ≠ [] ∧ rest <+: names ∧
    group = ⟨location.hierarchyId, location.controlGroup ++ rest⟩ }

/-- The objects, their registries and the groups are what they were. -/
structure Unchanged (groups : σ → Set Group) (before after : World σ) : Prop where
  objects : after.objects = before.objects
  groups : groups after.kernel = groups before.kernel

/-- `made` are new groups, and no other group has changed. -/
structure Extended (groups : σ → Set Group) (before after : World σ) (made : Set Group) :
    Prop where
  new : ∀ group ∈ made, group ∉ groups before.kernel
  exactly : groups after.kernel = groups before.kernel ∪ made

theorem unchanged_of_tracked (originSound : ClientSound origin)
    (tracked : Tracked groups populated members origin ⟨world, origin.held⟩) :
    Unchanged groups origin.world world := by
  have objects : world.objects = origin.world.objects :=
    objects_eq_of_same_held originSound tracked.sound tracked.persists rfl
  refine ⟨objects, ?_⟩
  ext group
  rw [show group ∈ groups world.kernel ↔ _ from tracked.exactly group]
  constructor
  · intro either
    rcases either with before | ⟨id, object, live, new, _⟩
    · exact before
    · change world.objects id = some object at live
      rw [objects] at live
      exact absurd (originSound.bounded id object live) (Nat.not_lt.mpr new)
  · exact .inl

/-- A new object that a result keeps alive holds the group of a prefix of the path. -/
theorem new_object_in_prefixes (originSound : ClientSound origin)
    (tracked : Tracked groups populated members origin ⟨world, held⟩) {member low id : ObjectId}
    {above object : SingleControlGroup} {names : List Component}
    (aboveLive : origin.world.objects member = some above)
    (provided : Provided origin.world.fresh world.objects member low above names)
    (lowAlive : Alive world.objects low) (isAbove : AtOrBelow (parentOf world.objects) low id)
    (objectLive : world.objects id = some object) (new : origin.world.fresh ≤ id) :
    object.location_.group ∈ prefixGroups above.location_ names := by
  have sound := tracked.sound
  have tree := labelled_of_sound sound
  have idAlive : Alive world.objects id := ⟨object, objectLive⟩
  have memberOld := originSound.bounded member above aboveLive
  rcases tracked.survive member ⟨above, aboveLive⟩ with ⟨now, nowLive⟩
  have nowAlive : Alive world.objects member := ⟨now, nowLive⟩
  have different : id ≠ member := by
    intro isSame
    rw [isSame] at new
    exact Nat.not_lt.mpr new memberOld
  have isBelow : AtOrBelow (parentOf world.objects) id member := by
    rcases ancestors_comparable isAbove provided.below with down | up
    · exact down
    · have younger := age_of_below (kept_of_sound sound) nowAlive up
      exact absurd (Nat.lt_of_le_of_lt younger memberOld) (Nat.not_lt.mpr new)
  have inTree := same_tree_of_below sound nowAlive isBelow
  have memberPath : now.controlGroup_ = above.controlGroup_ := by
    rcases tracked.persists.old member now nowLive memberOld with ⟨original, originally, identity⟩
    rw [identity_path identity, Option.some.inj (originally.symm.trans aboveLive)]
  rcases (path_prefix_of_below tree idAlive isBelow).2 with ⟨rest, idPath⟩
  have toEnd := (path_prefix_of_below tree lowAlive isAbove).2
  rw [provided.path, ← idPath, path_of_live nowLive, memberPath] at toEnd
  rw [path_of_live nowLive, path_of_live objectLive, memberPath] at idPath
  have nonempty : rest ≠ [] := by
    intro empty
    rcases inTree with ⟨root, high, low⟩
    apply different
    apply node_unique tree idAlive nowAlive low high
    rw [path_of_live objectLive, path_of_live nowLive, memberPath, ← idPath, empty,
      List.append_nil]
  refine ⟨rest, nonempty, (List.prefix_append_right_inj _).mp toEnd, ?_⟩
  have location := location_in_tree sound inTree nowLive objectLive
  rcases location_kept originSound tracked.persists nowLive ⟨above, aboveLive⟩ with
    ⟨original, originally, kept⟩
  rw [Option.some.inj (originally.symm.trans aboveLive)] at kept
  rw [location, kept, ← idPath, (originSound.wired member above aboveLive).locatedGroup]
  rfl

theorem kept_by_old_pointer (originSound : ClientSound origin)
    (sound : ClientSound ⟨world, held⟩) {low id : ObjectId} (before : low ∈ origin.held)
    (lowAlive : Alive world.objects low) (isAbove : AtOrBelow (parentOf world.objects) low id) :
    id < origin.world.fresh := by
  rcases originSound.heldLive low before with ⟨known, knownLive⟩
  exact Nat.lt_of_le_of_lt (age_of_below (kept_of_sound sound) lowAlive isAbove)
    (originSound.bounded low known knownLive)

/-- The groups of the members a call went through, each with a result that is held. -/
theorem extended_of_provided (originSound : ClientSound origin)
    (tracked : Tracked groups populated members origin ⟨world, held⟩)
    (Member : ObjectId → SingleControlGroup → Prop) (names : List Component)
    (live : ∀ member group, Member member group → origin.world.objects member = some group)
    (covered : ∀ low ∈ held, low ∈ origin.held ∨ ∃ member group, Member member group ∧
      Provided origin.world.fresh world.objects member low group names)
    (complete : ∀ member group, Member member group → ∃ result,
      Provided origin.world.fresh world.objects member result group names) :
    Extended groups origin.world world
      { group | ∃ member object, Member member object ∧
        group ∈ prefixGroups object.location_ names } := by
  have sound' := tracked.sound
  have provides : ∀ group, (∃ member object, Member member object ∧
      group ∈ prefixGroups object.location_ names) →
      ∃ id object, world.objects id = some object ∧ origin.world.fresh ≤ id ∧
        object.location_.group = group := by
    intro group ⟨member, above, isMember, rest, nonempty, isPrefix, same⟩
    rcases complete member above isMember with ⟨result, provided⟩
    rcases provided.prefixes rest nonempty isPrefix with
      ⟨id, object, objectLive, _, new, _, located⟩
    have wired := originSound.wired member above (live member above isMember)
    refine ⟨id, object, objectLive, new, ?_⟩
    rw [located, same, ← wired.locatedGroup]
    rfl
  constructor
  · intro group made
    rcases provides group made with ⟨id, object, objectLive, new, same⟩
    exact same ▸ (tracked.accounted id object objectLive new).absent
  · ext group
    rw [show group ∈ groups world.kernel ↔ _ from tracked.exactly group]
    constructor
    · intro either
      rcases either with before | ⟨id, object, objectLive, new, same⟩
      · exact .inl before
      · right
        rcases (alive_iff_held sound' id).mp ⟨object, objectLive⟩ with ⟨low, lowHeld, isAbove⟩
        have lowAlive : Alive world.objects low := sound'.heldLive low lowHeld
        rcases covered low lowHeld with before | ⟨member, above, isMember, provided⟩
        · exact absurd (kept_by_old_pointer originSound sound' before lowAlive isAbove)
            (Nat.not_lt.mpr new)
        · exact ⟨member, above, isMember, same ▸ new_object_in_prefixes originSound tracked
            (live member above isMember) provided lowAlive isAbove objectLive new⟩
    · intro either
      rcases either with before | made
      · exact .inl before
      · exact .inr (provides group made)

section Multiple

def pointers (group : MultipleControlGroup ObjectId) : Multiset ObjectId :=
  (group.id2cgroup_.entries.map Sigma.snd : List ObjectId)

theorem mem_pointers_iff (group : MultipleControlGroup ObjectId) (member : ObjectId) :
    member ∈ pointers group ↔ ∃ id, group.id2cgroup_.lookup id = some member := by
  simp only [pointers, Multiset.mem_coe, List.mem_map]
  constructor
  · intro ⟨id_cgroup, inside, same⟩
    rw [← same]
    exact ⟨id_cgroup.1, AList.mem_lookup_iff.mpr inside⟩
  · intro ⟨id, listed⟩
    exact ⟨⟨id, member⟩, AList.mem_lookup_iff.mp listed, rfl⟩

theorem pointers_insert {child : MultipleControlGroup ObjectId} {id : Nat}
    (absent : child.id2cgroup_.lookup id = none) (created : ObjectId) :
    pointers { child with id2cgroup_ := child.id2cgroup_.insert id created } =
      created ::ₘ pointers child := by
  have notIn : id ∉ child.id2cgroup_ := AList.lookup_eq_none.mp absent
  simp only [pointers, AList.insert_of_notMem notIn]
  rfl

theorem release_all_tracked
    (laws : DirectoryLaws kernel (InUse origin.world.objects) groups populated)
    (originSound : ClientSound origin) (apart : Apart members origin) (order : HashOrder Nat)
    {child : MultipleControlGroup ObjectId}
    (tracked : Tracked groups populated members origin ⟨world, pointers child + origin.held⟩) :
    Tracked groups populated members origin
      ⟨MultipleControlGroup.releaseAll kernel order child world, origin.held⟩ := by
  have listed : pointers child = (iterate order child.id2cgroup_ : List ObjectId) :=
    (Multiset.coe_eq_coe.mpr (iterate_perm order child.id2cgroup_)).symm
  rw [listed] at tracked
  unfold MultipleControlGroup.releaseAll
  generalize iterate order child.id2cgroup_ = dropped at tracked
  induction dropped generalizing world with
  | nil => simpa using tracked
  | cons id dropped ih =>
      rw [← Multiset.cons_coe, Multiset.cons_add] at tracked
      exact ih (tracked_release laws originSound apart tracked
        fun other inside => Multiset.mem_add.mpr (.inr inside))

theorem provided_identity {limit : ObjectId} {objects : Heap} {member result : ObjectId}
    {old new : SingleControlGroup} {names : List Component} (same : SameIdentity old new)
    (provided : Provided limit objects member result new names) :
    Provided limit objects member result old names := by
  rcases provided with ⟨below, path, prefixes⟩
  rw [identity_path same] at path
  rw [identity_path same, identity_location same] at prefixes
  exact ⟨below, path, prefixes⟩

/-- The pointers of a client to the objects of a group, one for a hierarchy. -/
structure MembersHeld (client : Client σ) (cgroup : MultipleControlGroup ObjectId) : Prop where
  held : ∀ id member, cgroup.id2cgroup_.lookup id = some member → member ∈ client.held
  keyed : ∀ id member object, cgroup.id2cgroup_.lookup id = some member →
    client.world.objects member = some object → object.hierarchyId = id

/-- The loop over the members has filled `child` for those `before`. -/
structure Collected (groups populated : σ → Set Group) (cgroup : MultipleControlGroup ObjectId)
    (origin : Client σ) (names : List Component) (child : MultipleControlGroup ObjectId)
    (before : List ((_ : Nat) × ObjectId)) (middle : World σ) : Prop where
  tracked : Tracked groups populated { member | member ∈ pointers cgroup } origin
    ⟨middle, pointers child + origin.held⟩
  provided : ∀ id_cgroup ∈ before, ∃ result object,
    child.id2cgroup_.lookup id_cgroup.1 = some result ∧
      origin.world.objects id_cgroup.2 = some object ∧
      Provided origin.world.fresh middle.objects id_cgroup.2 result object names
  only : ∀ id result, child.id2cgroup_.lookup id = some result →
    ∃ id_cgroup ∈ before, id_cgroup.1 = id

variable {cgroup : MultipleControlGroup ObjectId}

theorem members_apart (originSound : ClientSound origin) (isHeld : MembersHeld origin cgroup) :
    Apart { member | member ∈ pointers cgroup } origin := by
  constructor
  · intro member inside
    rcases (mem_pointers_iff cgroup member).mp inside with ⟨id, listed⟩
    exact originSound.heldLive member (isHeld.held id member listed)
  · intro left leftInside right rightInside leftObject rightObject leftLive rightLive same
    rcases (mem_pointers_iff cgroup left).mp leftInside with ⟨leftId, leftListed⟩
    rcases (mem_pointers_iff cgroup right).mp rightInside with ⟨rightId, rightListed⟩
    have leftKey := isHeld.keyed leftId left leftObject leftListed leftLive
    have rightKey := isHeld.keyed rightId right rightObject rightListed rightLive
    rw [(originSound.wired left leftObject leftLive).locatedHierarchy,
      (originSound.wired right rightObject rightLive).locatedHierarchy, leftKey, rightKey] at same
    rw [same] at leftListed
    exact Option.some.inj (leftListed.symm.trans rightListed)

theorem collected_step (laws : DirectoryLaws kernel (InUse origin.world.objects) groups populated)
    (originSound : ClientSound origin) (isHeld : MembersHeld origin cgroup) {path : BoostPath}
    {mode : Mode} {child : MultipleControlGroup ObjectId}
    {before : List ((_ : Nat) × ObjectId)} {id_cgroup : (_ : Nat) × ObjectId}
    {middle after : World σ} {created : ObjectId}
    (collected : Collected groups populated cgroup origin path.components child before middle)
    (member : id_cgroup ∈ cgroup.id2cgroup_.entries)
    (unvisited : ∀ other ∈ before, other.1 ≠ id_cgroup.1)
    (called : createChild kernel id_cgroup.2 path mode middle = .ok created after) :
    Collected groups populated cgroup origin path.components
      { child with id2cgroup_ := child.id2cgroup_.insert id_cgroup.1 created }
      (before ++ [id_cgroup]) after := by
  have apart := members_apart originSound isHeld
  have sound := collected.tracked.sound
  have listed : cgroup.id2cgroup_.lookup id_cgroup.1 = some id_cgroup.2 :=
    AList.mem_lookup_iff.mpr member
  have isMember : id_cgroup.2 ∈ pointers cgroup :=
    (mem_pointers_iff cgroup _).mpr ⟨_, listed⟩
  have memberHeld := isHeld.held _ _ listed
  have stillHeld : ∀ other ∈ origin.held, other ∈ pointers child + origin.held :=
    fun other inside => Multiset.mem_add.mpr (.inr inside)
  rcases originSound.heldLive _ memberHeld with ⟨object, live⟩
  rcases sound.heldLive _ (stillHeld _ memberHeld) with ⟨now, nowLive⟩
  have identity : SameIdentity object now := by
    rcases collected.tracked.persists.old _ now nowLive
      (originSound.bounded _ object live) with ⟨original, originally, same⟩
    rw [Option.some.inj (originally.symm.trans live)] at same
    exact same
  have made := create_child_provides laws originSound apart isMember
    (stillHeld _ memberHeld) stillHeld collected.tracked nowLive called
  have steps := (create_child_refines sound nowLive path mode).returned created after called
  have persists := transitions_persist sound steps
  have sound' := made.1.sound
  have absent : child.id2cgroup_.lookup id_cgroup.1 = none := by
    cases found : child.id2cgroup_.lookup id_cgroup.1 with
    | none => rfl
    | some result =>
        rcases collected.only _ result found with ⟨other, inside, same⟩
        exact absurd same (unvisited other inside)
  constructor
  · rw [pointers_insert absent, Multiset.cons_add]
    exact made.1
  · intro other inside
    rcases List.mem_append.mp inside with earlier | last
    · rcases collected.provided other earlier with
        ⟨result, otherObject, otherListed, otherLive, provided⟩
      have resultHeld : result ∈ pointers child + origin.held :=
        Multiset.mem_add.mpr (.inl ((mem_pointers_iff child result).mpr ⟨_, otherListed⟩))
      refine ⟨result, otherObject, ?_, otherLive, ?_⟩
      · rw [lookup_insert_eq, if_neg (unvisited other earlier)]
        exact otherListed
      · exact provided_carried sound sound' persists (sound.heldLive result resultHeld)
          (sound'.heldLive result (Multiset.mem_cons_of_mem resultHeld)) provided
    · rw [List.mem_singleton.mp last]
      refine ⟨created, object, ?_, live, provided_identity identity made.2⟩
      rw [lookup_insert_eq, if_pos rfl]
  · intro id result found
    rw [lookup_insert_eq] at found
    split at found
    next same => exact ⟨id_cgroup, List.mem_append_right _ (List.mem_singleton_self _), same.symm⟩
    next =>
        rcases collected.only id result found with ⟨other, inside, same⟩
        exact ⟨other, List.mem_append_left _ inside, same⟩

theorem unvisited_entry (cgroup : MultipleControlGroup ObjectId)
    {before : List ((_ : Nat) × ObjectId)} {id_cgroup : (_ : Nat) × ObjectId}
    (whole : before ++ [id_cgroup] <+: cgroup.id2cgroup_.entries) :
    ∀ other ∈ before, other.1 ≠ id_cgroup.1 := by
  have distinct : (cgroup.id2cgroup_.entries.map Sigma.fst).Nodup := cgroup.id2cgroup_.nodupKeys
  have part := distinct.sublist (whole.sublist.map Sigma.fst)
  rw [List.map_append] at part
  intro other inside same
  exact (List.nodup_append.mp part).2.2 other.1 (List.mem_map_of_mem inside) id_cgroup.1
    (List.mem_singleton_self _) same

theorem multiple_create_child_cases
    (laws : DirectoryLaws kernel (InUse origin.world.objects) groups populated)
    (originSound : ClientSound origin) (isHeld : MembersHeld origin cgroup)
    (order : HashOrder Nat) (path : BoostPath) (mode : Mode) :
    (∀ child after,
      MultipleControlGroup.createChild kernel order cgroup path mode origin.world =
        .ok child after →
      Collected groups populated cgroup origin path.components child cgroup.id2cgroup_.entries
        after) ∧
    (∀ failure after,
      MultipleControlGroup.createChild kernel order cgroup path mode origin.world =
        .error failure after →
      Tracked groups populated { member | member ∈ pointers cgroup } origin
        ⟨after, origin.held⟩) := by
  have apart := members_apart originSound isHeld
  -- What was visited is a part of the entries, whose keys are distinct.
  have preserved : ∀ child before id_cgroup middle next finish,
      (before <+: cgroup.id2cgroup_.entries →
        Collected groups populated cgroup origin path.components child before middle) →
      MultipleControlGroup.createMember kernel order path mode child id_cgroup middle =
        .ok next finish →
      before ++ [id_cgroup] <+: cgroup.id2cgroup_.entries →
        Collected groups populated cgroup origin path.components next (before ++ [id_cgroup])
          finish := by
    intro child before id_cgroup middle next finish invariant returned whole
    rcases bind_eq_ok.mp returned with ⟨created, last, called, stored⟩
    cases stored
    have shorter : before <+: cgroup.id2cgroup_.entries :=
      (List.prefix_append before [id_cgroup]).trans whole
    have member : id_cgroup ∈ cgroup.id2cgroup_.entries :=
      whole.subset (List.mem_append_right before (List.mem_singleton_self _))
    exact collected_step laws originSound isHeld (invariant shorter) member
      (unvisited_entry cgroup whole) (unwinding_eq_ok.mp called)
  have initial : Collected groups populated cgroup origin path.components
      (MultipleControlGroup.empty ObjectId) [] origin.world := by
    have none : pointers (MultipleControlGroup.empty ObjectId) + origin.held = origin.held := by
      simp [pointers, MultipleControlGroup.empty]
    constructor
    · rw [none]
      exact tracked_start originSound
    · intro id_cgroup inside
      cases inside
    · intro id result found
      cases found
  have loop := fold_cases _ preserved (MultipleControlGroup.empty ObjectId) []
    cgroup.id2cgroup_.entries origin.world fun _ => initial
  constructor
  · intro child after returned
    exact loop.1 child after returned List.prefix_rfl
  · intro failure after thrown
    rcases loop.2 failure after thrown with
      ⟨done, id_cgroup, rest, child, middle, split, invariant, failed⟩
    have collected := invariant (split ▸ List.prefix_append done (id_cgroup :: rest))
    have member : id_cgroup ∈ cgroup.id2cgroup_.entries := by
      rw [split]
      exact List.mem_append_right _ List.mem_cons_self
    have listed : cgroup.id2cgroup_.lookup id_cgroup.1 = some id_cgroup.2 :=
      AList.mem_lookup_iff.mpr member
    have stillHeld : ∀ other ∈ origin.held, other ∈ pointers child + origin.held :=
      fun other inside => Multiset.mem_add.mpr (.inr inside)
    have memberHeld := stillHeld _ (isHeld.held _ _ listed)
    rcases collected.tracked.sound.heldLive _ memberHeld with ⟨now, nowLive⟩
    rcases bind_eq_error.mp failed with raised | ⟨_, _, _, impossible⟩
    · rcases unwinding_eq_error.mp raised with ⟨last, called, same⟩
      have refused := (create_child_tracked laws originSound apart
        ((mem_pointers_iff cgroup _).mpr ⟨_, listed⟩) memberHeld stillHeld collected.tracked
        nowLive path mode).2 failure last called
      rw [same]
      exact release_all_tracked laws originSound apart order refused
    · cases impossible

end Multiple

def IsMember (cgroup : MultipleControlGroup ObjectId) (client : Client σ) (member : ObjectId)
    (object : SingleControlGroup) : Prop :=
  (∃ id, cgroup.id2cgroup_.lookup id = some member) ∧ client.world.objects member = some object

/-- `createChild` of a single group either changes nothing or makes exactly the
groups of the path's prefixes, which created objects above the result hold. -/
structure SingleAllOrNothing (kernel : Kernel σ) (groups : σ → Set Group) (client : Client σ)
    (target : ObjectId) (group : SingleControlGroup) (path : BoostPath) (mode : Mode) : Prop where
  thrown : ∀ failure after, createChild kernel target path mode client.world =
    .error failure after → Unchanged groups client.world after
  returned : ∀ result after, createChild kernel target path mode client.world = .ok result after →
    Provided client.world.fresh after.objects target result group path.components ∧
      Extended groups client.world after (prefixGroups group.location_ path.components)

structure MultipleAllOrNothing (kernel : Kernel σ) (groups : σ → Set Group) (client : Client σ)
    (order : HashOrder Nat) (cgroup : MultipleControlGroup ObjectId) (path : BoostPath)
    (mode : Mode) : Prop where
  thrown : ∀ failure after,
    MultipleControlGroup.createChild kernel order cgroup path mode client.world =
      .error failure after → Unchanged groups client.world after
  returned : ∀ child after,
    MultipleControlGroup.createChild kernel order cgroup path mode client.world = .ok child after →
      (∀ id, (child.id2cgroup_.lookup id).isSome ↔ (cgroup.id2cgroup_.lookup id).isSome) ∧
      (∀ id member object, cgroup.id2cgroup_.lookup id = some member →
        client.world.objects member = some object → ∃ result,
          child.id2cgroup_.lookup id = some result ∧
          Provided client.world.fresh after.objects member result object path.components) ∧
      Extended groups client.world after
        { group | ∃ member object, IsMember cgroup client member object ∧
          group ∈ prefixGroups object.location_ path.components }

theorem single_all_or_nothing
    (laws : DirectoryLaws kernel (InUse origin.world.objects) groups populated)
    (sound : ClientSound origin) {target : ObjectId} (isHeld : target ∈ origin.held)
    {group : SingleControlGroup} (live : origin.world.objects target = some group)
    (path : BoostPath) (mode : Mode) :
    SingleAllOrNothing kernel groups origin target group path mode := by
  have apart : Apart {target} origin := by
    constructor
    · intro member inside
      rw [Set.mem_singleton_iff.mp inside]
      exact ⟨group, live⟩
    · intro left leftInside right rightInside _ _ _ _ _
      exact (Set.mem_singleton_iff.mp leftInside).trans (Set.mem_singleton_iff.mp rightInside).symm
  have start : Tracked groups populated {target} origin ⟨origin.world, origin.held⟩ :=
    tracked_start sound
  have isMember : target ∈ ({target} : Set ObjectId) := Set.mem_singleton target
  constructor
  · intro failure after thrown
    exact unchanged_of_tracked sound ((create_child_tracked laws sound apart isMember isHeld
      (fun _ inside => inside) start live path mode).2 failure after thrown)
  · intro result after returned
    have made := create_child_provides laws sound apart isMember isHeld (fun _ inside => inside)
      start live returned
    refine ⟨made.2, ?_⟩
    have extended := extended_of_provided sound made.1
      (fun member object => member = target ∧ object = group) path.components
      (fun member object isTarget => by rw [isTarget.1, isTarget.2]; exact live)
      (fun low lowHeld => by
        rcases Multiset.mem_cons.mp lowHeld with isResult | before
        · exact .inr ⟨target, group, ⟨rfl, rfl⟩, isResult ▸ made.2⟩
        · exact .inl before)
      (fun member object isTarget => ⟨result, by rw [isTarget.1, isTarget.2]; exact made.2⟩)
    have onlyTarget : { made | ∃ member object, (member = target ∧ object = group) ∧
        made ∈ prefixGroups object.location_ path.components } =
        prefixGroups group.location_ path.components := by
      ext made
      simp
    exact onlyTarget ▸ extended

theorem multiple_all_or_nothing
    (laws : DirectoryLaws kernel (InUse origin.world.objects) groups populated)
    (sound : ClientSound origin) (order : HashOrder Nat) {cgroup : MultipleControlGroup ObjectId}
    (isHeld : MembersHeld origin cgroup) (path : BoostPath) (mode : Mode) :
    MultipleAllOrNothing kernel groups origin order cgroup path mode := by
  have cases := multiple_create_child_cases laws sound isHeld order path mode
  constructor
  · intro failure after thrown
    exact unchanged_of_tracked sound (cases.2 failure after thrown)
  · intro child after returned
    have collected := cases.1 child after returned
    have provided : ∀ id member object, cgroup.id2cgroup_.lookup id = some member →
        origin.world.objects member = some object → ∃ result,
          child.id2cgroup_.lookup id = some result ∧
          Provided origin.world.fresh after.objects member result object path.components := by
      intro id member object listed live
      rcases collected.provided ⟨id, member⟩ (AList.mem_lookup_iff.mp listed) with
        ⟨result, other, found, otherLive, provided⟩
      rw [Option.some.inj (otherLive.symm.trans live)] at provided
      exact ⟨result, found, provided⟩
    refine ⟨?_, provided, ?_⟩
    · intro id
      constructor
      · intro present
        rcases Option.isSome_iff_exists.mp present with ⟨result, found⟩
        rcases collected.only id result found with ⟨id_cgroup, inside, same⟩
        rw [← same, AList.mem_lookup_iff.mpr inside]
        rfl
      · intro present
        rcases Option.isSome_iff_exists.mp present with ⟨member, listed⟩
        rcases sound.heldLive member (isHeld.held id member listed) with ⟨object, live⟩
        rcases provided id member object listed live with ⟨result, found, _⟩
        rw [found]
        rfl
    · apply extended_of_provided sound collected.tracked
      · intro member object isMember
        exact isMember.2
      · intro low lowHeld
        rcases Multiset.mem_add.mp lowHeld with isResult | before
        · right
          rcases (mem_pointers_iff child low).mp isResult with ⟨id, found⟩
          rcases collected.only id low found with ⟨id_cgroup, inside, same⟩
          have listed : cgroup.id2cgroup_.lookup id = some id_cgroup.2 :=
            same ▸ AList.mem_lookup_iff.mpr inside
          rcases sound.heldLive _ (isHeld.held id _ listed) with ⟨object, live⟩
          rcases provided id _ object listed live with ⟨result, otherwise, isProvided⟩
          rw [Option.some.inj (otherwise.symm.trans found)] at isProvided
          exact ⟨id_cgroup.2, object, ⟨⟨id, listed⟩, live⟩, isProvided⟩
        · exact .inl before
      · intro member object ⟨⟨id, listed⟩, live⟩
        rcases provided id member object listed live with ⟨result, _, isProvided⟩
        exact ⟨result, isProvided⟩

/-- For every client, path, mode and order, over a kernel that makes and
removes the directories of the client's hierarchies as `DirectoryLaws` says. -/
theorem create_child_all_or_nothing (kernel : Kernel σ) (groups populated : σ → Set Group)
    (instance_ : SystemInfoPointer) (state : σ) (actions : List (Action σ)) (client : Client σ)
    (executed : run (step kernel) (start instance_ state) actions = some client)
    (laws : DirectoryLaws kernel (InUse client.world.objects) groups populated) :
    (∀ target ∈ client.held, ∀ group, client.world.objects target = some group →
      ∀ path mode, SingleAllOrNothing kernel groups client target group path mode) ∧
    (∀ cgroup, MembersHeld client cgroup →
      ∀ order path mode, MultipleAllOrNothing kernel groups client order cgroup path mode) := by
  have sound := run_sound executed
  constructor
  · intro target isHeld group live path mode
    exact single_all_or_nothing laws sound isHeld live path mode
  · intro cgroup isHeld order path mode
    exact multiple_all_or_nothing laws sound order isHeld path mode

def listed (state : List Group) : Set Group := { group | group ∈ state }

theorem directory_kernel_consulted {state after : List Group}
    (consulted : Consulted directoryKernel state after) : after = state := by
  cases consulted with
  | statusRead path _ _ type answered =>
      simp only [directoryKernel] at answered
      split at answered <;> cases answered <;> rfl
  | statusFailed path _ _ code failed =>
      simp only [directoryKernel] at failed
      split at failed <;> cases failed
  | directoryRead path _ _ answer answered =>
      cases answered
      rfl
  | directoryFailed path _ _ code failed => cases failed
  | fieldRead path _ _ data answered =>
      cases answered
      rfl
  | fieldReadFailed path _ _ code failed => cases failed
  | cpuSetWritten location field data _ _ answered =>
      cases answered
      rfl
  | cpuSetWriteFailed location field data _ _ code failed => cases failed
  | mkdirFailed location mode _ _ code failed =>
      simp only [directoryKernel] at failed
      split at failed
      · cases failed
        rfl
      · cases failed

theorem directory_kernel_laws (used : Set Location) :
    DirectoryLaws directoryKernel used listed fun _ => ∅ := by
  constructor
  · intro state after consulted
    rw [directory_kernel_consulted consulted]
    exact ⟨rfl, rfl⟩
  · intro location _ mode state after made
    simp only [directoryKernel] at made
    split at made
    next => cases made
    next free =>
        cases made
        rcases not_or.mp free with ⟨absent, leaf⟩
        refine ⟨absent, fun inside => inside, ?_, ?_, rfl⟩
        · exact fun group inside isBelow => leaf ⟨group, inside, isBelow⟩
        · ext group
          simp [listed]
  · intro location _ state present _ leaf
    have noneBelow : ¬∃ group ∈ state, group.StrictlyBelow location.group :=
      fun ⟨group, inside, isBelow⟩ => leaf group inside isBelow
    have isThere : location.group ∈ state := present
    refine ⟨state.filter (· ≠ location.group), ?_, ?_, rfl⟩
    · simp only [directoryKernel, if_neg noneBelow, isThere, decide_true]
    · ext group
      simp [listed]

def freezerHierarchy : HierarchyInfo :=
  { id := 7, subsystems := ["freezer"], mountpoint := some [⟨"freezer", by decide⟩] }

def twoHierarchies : SystemInfoPointer where
  info :=
    { id2hierarchy_ := AList.insert 7 freezerHierarchy cpuSystem.info.id2hierarchy_
      mountpoint2id_ := AList.insert [⟨"freezer", by decide⟩] 7 cpuSystem.info.mountpoint2id_
      subsystem2id_ := AList.insert "freezer" 7 cpuSystem.info.subsystem2id_ }
  keyed := by
    intro id hierarchyInfo found
    rw [lookup_insert_eq] at found
    split at found
    next same =>
        cases found
        exact same.symm
    next => exact cpuSystem.keyed id hierarchyInfo found

/-- Both roots are attached, and the freezer hierarchy has a group "/jobs". -/
def oneJobs : List (Action (List Group)) :=
  [.root 3, .root 7, .createChild 1 (.relative [jobs]) 0o777]

def bothRoots : MultipleControlGroup ObjectId :=
  { id2cgroup_ := (AList.insert 3 0 (AList.insert 7 1 ∅)), fieldName2path_ := ∅ }

def groupsAfter {α : Type} : EStateM.Result Failure (World (List Group)) α → Option (List Group)
  | .ok _ after => some after.kernel
  | .error _ _ => none

theorem both_roots_held {client : Client (List Group)}
    (executed : run (step directoryKernel) (start twoHierarchies []) oneJobs = some client) :
    MembersHeld client bothRoots := by
  cases executed
  have entry : ∀ id member, bothRoots.id2cgroup_.lookup id = some member →
      (id = 3 ∧ member = 0) ∨ (id = 7 ∧ member = 1) := by
    intro id member found
    have inside : (⟨id, member⟩ : (_ : Nat) × ObjectId) ∈ bothRoots.id2cgroup_.entries :=
      AList.mem_lookup_iff.mp found
    simpa [bothRoots] using inside
  constructor
  · intro id member found
    rcases entry id member found with ⟨_, same⟩ | ⟨_, same⟩ <;> rw [same] <;> decide
  · intro id member object found live
    rcases entry id member found with ⟨sameId, same⟩ | ⟨sameId, same⟩ <;>
      (subst sameId; subst same; cases live; rfl)

/-- "/jobs" exists in the second hierarchy, so the first one's is removed again;
"/task/jobs" is made in both. -/
theorem create_child_all_or_nothing_both_roots :
    ∃ client, run (step directoryKernel) (start twoHierarchies []) oneJobs = some client ∧
      (∃ failure after,
        MultipleControlGroup.createChild directoryKernel insertionOrder bothRoots
          (.relative [jobs]) 0o777 client.world = .error failure after ∧
        Unchanged listed client.world after) ∧
      ∃ child after,
        MultipleControlGroup.createChild directoryKernel insertionOrder bothRoots
          (.relative [task, jobs]) 0o777 client.world = .ok child after ∧
        after.kernel = [⟨7, [task, jobs]⟩, ⟨7, [task]⟩, ⟨3, [task, jobs]⟩, ⟨3, [task]⟩,
          ⟨7, [jobs]⟩] ∧
        Extended listed client.world after
          { group | ∃ member object, IsMember bothRoots client member object ∧
            group ∈ prefixGroups object.location_ [task, jobs] } := by
  have outcomes : (run (step directoryKernel) (start twoHierarchies []) oneJobs).map
      (fun client =>
        (groupsAfter (MultipleControlGroup.createChild directoryKernel insertionOrder bothRoots
            (.relative [jobs]) 0o777 client.world),
          groupsAfter (MultipleControlGroup.createChild directoryKernel insertionOrder bothRoots
            (.relative [task, jobs]) 0o777 client.world))) =
      some (none, some [⟨7, [task, jobs]⟩, ⟨7, [task]⟩, ⟨3, [task, jobs]⟩, ⟨3, [task]⟩,
        ⟨7, [jobs]⟩]) := by
    decide +kernel
  rcases Option.map_eq_some_iff.mp outcomes with ⟨client, executed, results⟩
  rcases Prod.mk.inj results with ⟨throws, returns⟩
  have general := (create_child_all_or_nothing directoryKernel listed (fun _ => ∅)
    twoHierarchies [] oneJobs client executed (directory_kernel_laws _)).2 bothRoots
      (both_roots_held executed) insertionOrder
  refine ⟨client, executed, ?_, ?_⟩
  · have whole := (general (.relative [jobs]) 0o777).thrown
    cases called : MultipleControlGroup.createChild directoryKernel insertionOrder bothRoots
        (.relative [jobs]) 0o777 client.world with
    | ok child after =>
        rw [called] at throws
        cases throws
    | error failure after => exact ⟨failure, after, rfl, whole failure after called⟩
  · have whole := (general (.relative [task, jobs]) 0o777).returned
    cases called : MultipleControlGroup.createChild directoryKernel insertionOrder bothRoots
        (.relative [task, jobs]) 0o777 client.world with
    | ok child after =>
        rw [called] at returns
        exact ⟨child, after, rfl, Option.some.inj returns, (whole child after called).2.2⟩
    | error failure after =>
        rw [called] at returns
        cases returns

end ContestSystem.Cgroup.CreateRollback
