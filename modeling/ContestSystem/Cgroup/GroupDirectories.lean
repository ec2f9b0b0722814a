import Mathlib.Data.Set.Insert
import ContestSystem.Cgroup.Trees

/-!
# Directories that calls make and remove

`DirectoryLaws` is what the library relies on when it makes and removes the
directories of groups. `Tracked` accounts for every directory that appeared
since an earlier client: each belongs to a live created object, all of them
without tasks and without subdirectories of others. A released object then
takes its directory with it.
-/

namespace ContestSystem.Cgroup.GroupDirectories

open ContestSystem.Lib.Forest
open SingleControlGroup Registry Construction Transition Population Members Refinement Trees

set_option autoImplicit false

variable {σ : Type}

/-- The locations below the mount points that live objects were built for. -/
def InUse (objects : Heap) : Set Location :=
  { location | ∃ id object, objects id = some object ∧
    location = { object.location_ with controlGroup := location.controlGroup } }

/-- `groups` are the existing control groups and `populated` those with tasks.
Nothing but a successful `mkdir` or `remove` changes them, and at the locations
that are used these two change the group of the location. -/
structure DirectoryLaws (kernel : Kernel σ) (used : Set Location)
    (groups populated : σ → Set Group) : Prop where
  consulted : ∀ state after, Consulted kernel state after →
    groups after = groups state ∧ populated after = populated state
  made : ∀ location ∈ used, ∀ mode state after,
    kernel.mkdir location mode state = .ok () after →
      location.group ∉ groups state ∧ location.group ∉ populated state ∧
        (∀ group ∈ groups state, ¬group.StrictlyBelow location.group) ∧
        groups after = insert location.group (groups state) ∧ populated after = populated state
  removed : ∀ location ∈ used, ∀ state, location.group ∈ groups state →
    location.group ∉ populated state →
    (∀ group ∈ groups state, ¬group.StrictlyBelow location.group) →
      ∃ after, kernel.remove location state = .ok true after ∧
        groups after = groups state \ {location.group} ∧ populated after = populated state

/-- At most one of the objects belongs to a hierarchy. -/
structure Apart (members : Set ObjectId) (origin : Client σ) : Prop where
  alive : ∀ member ∈ members, Alive origin.world.objects member
  separate : ∀ left ∈ members, ∀ right ∈ members, ∀ leftObject rightObject,
    origin.world.objects left = some leftObject →
    origin.world.objects right = some rightObject →
    leftObject.location_.hierarchyId = rightObject.location_.hierarchyId → left = right

/-- A directory that appeared after `origin` without tasks and subdirectories,
for an object in the tree of a member. -/
structure Accounted (groups populated : σ → Set Group) (members : Set ObjectId)
    (origin : Client σ) (objects : Heap) (id : ObjectId) (object : SingleControlGroup) :
    Prop where
  created : object.kind = .created
  inTree : ∃ member ∈ members, SameTree objects member id
  absent : object.location_.group ∉ groups origin.world.kernel
  untasked : object.location_.group ∉ populated origin.world.kernel
  leaf : ∀ group ∈ groups origin.world.kernel, ¬group.StrictlyBelow object.location_.group

structure Tracked (groups populated : σ → Set Group) (members : Set ObjectId)
    (origin client : Client σ) : Prop where
  sound : ClientSound client
  persists : Persists origin client
  survive : ∀ id, Alive origin.world.objects id → Alive client.world.objects id
  accounted : ∀ id object, client.world.objects id = some object → origin.world.fresh ≤ id →
    Accounted groups populated members origin client.world.objects id object
  exactly : ∀ group, group ∈ groups client.world.kernel ↔
    group ∈ groups origin.world.kernel ∨
      ∃ id object, client.world.objects id = some object ∧ origin.world.fresh ≤ id ∧
        object.location_.group = group
  tasks : populated client.world.kernel = populated origin.world.kernel

variable {kernel : Kernel σ} {used : Set Location} {groups populated : σ → Set Group}
  {members : Set ObjectId} {origin client next : Client σ}

theorem asked_keeps (laws : DirectoryLaws kernel used groups populated) {state after : σ}
    (asked : Asked kernel state after) :
    groups after = groups state ∧ populated after = populated state := by
  induction asked with
  | refl => exact ⟨rfl, rfl⟩
  | tail _ step ih =>
      have kept := laws.consulted _ _ step
      exact ⟨kept.1.trans ih.1, kept.2.trans ih.2⟩

theorem tracked_start (sound : ClientSound origin) :
    Tracked groups populated members origin origin := by
  have noNew : ∀ id object, origin.world.objects id = some object →
      ¬origin.world.fresh ≤ id := by
    intro id object live
    exact Nat.not_le.mpr (sound.bounded id object live)
  constructor
  · exact sound
  · exact persists_refl origin
  · exact fun _ alive => alive
  · intro id object live new
    exact absurd new (noNew id object live)
  · intro group
    constructor
    · exact .inl
    · intro either
      rcases either with before | ⟨id, object, live, new, _⟩
      · exact before
      · exact absurd new (noNew id object live)
  · rfl

section Trees

theorem same_tree_symm {objects : Heap} {left right : ObjectId}
    (same : SameTree objects left right) : SameTree objects right left := by
  rcases same with ⟨root, leftInside, rightInside⟩
  exact ⟨root, rightInside, leftInside⟩

theorem identity_location {old new : SingleControlGroup} (same : SameIdentity old new) :
    new.location_ = old.location_ := by
  rw [same]

theorem identity_kind {old new : SingleControlGroup} (same : SameIdentity old new) :
    new.kind = old.kind := by
  rw [same]

theorem location_before (persists : Persists client next) {id : ObjectId}
    {new : SingleControlGroup} (newLive : next.world.objects id = some new)
    (older : id < client.world.fresh) :
    ∃ object, client.world.objects id = some object ∧ new.location_ = object.location_ := by
  rcases persists.old id new newLive older with ⟨object, live, same⟩
  exact ⟨object, live, identity_location same⟩

theorem location_after (sound : ClientSound client) (persists : Persists client next)
    {id : ObjectId} {object : SingleControlGroup} (live : client.world.objects id = some object)
    (alive : Alive next.world.objects id) :
    ∃ new, next.world.objects id = some new ∧ new.location_ = object.location_ := by
  rcases alive with ⟨new, newLive⟩
  rcases location_before persists newLive (sound.bounded id object live) with
    ⟨original, originally, located⟩
  rw [Option.some.inj (originally.symm.trans live)] at located
  exact ⟨new, newLive, located⟩

theorem new_group_after (sound : ClientSound client) (persists : Persists client next)
    {id : ObjectId} {object : SingleControlGroup} (live : client.world.objects id = some object)
    (alive : Alive next.world.objects id) (isNew : origin.world.fresh ≤ id) :
    ∃ id new, next.world.objects id = some new ∧ origin.world.fresh ≤ id ∧
      new.location_.group = object.location_.group := by
  rcases location_after sound persists live alive with ⟨new, newLive, located⟩
  exact ⟨id, new, newLive, isNew, congrArg Location.group located⟩

theorem location_kept (sound : ClientSound origin) (persists : Persists origin client)
    {id : ObjectId} {object : SingleControlGroup} (live : client.world.objects id = some object)
    (before : Alive origin.world.objects id) :
    ∃ original, origin.world.objects id = some original ∧
      object.location_ = original.location_ := by
  rcases before with ⟨known, knownLive⟩
  exact location_before persists live (sound.bounded id known knownLive)

variable {left right : ObjectId} {leftObject rightObject : SingleControlGroup}

theorem new_objects_same_tree (originSound : ClientSound origin) (apart : Apart members origin)
    (tracked : Tracked groups populated members origin client)
    (leftLive : client.world.objects left = some leftObject)
    (leftNew : origin.world.fresh ≤ left)
    (rightLive : client.world.objects right = some rightObject)
    (rightNew : origin.world.fresh ≤ right)
    (sameHierarchy : leftObject.location_.hierarchyId = rightObject.location_.hierarchyId) :
    SameTree client.world.objects left right := by
  have memberOf : ∀ id object, client.world.objects id = some object →
      origin.world.fresh ≤ id → ∃ member ∈ members, ∃ original,
        origin.world.objects member = some original ∧
        original.location_.hierarchyId = object.location_.hierarchyId ∧
        SameTree client.world.objects member id := by
    intro id object live new
    rcases (tracked.accounted id object live new).inTree with ⟨member, inside, same⟩
    have before := apart.alive member inside
    rcases tracked.survive member before with ⟨now, nowLive⟩
    rcases location_kept originSound tracked.persists nowLive before with
      ⟨original, originally, located⟩
    have location := location_in_tree tracked.sound same nowLive live
    refine ⟨member, inside, original, originally, ?_, same⟩
    rw [location, ← located]
  rcases memberOf left leftObject leftLive leftNew with
    ⟨member, inside, original, originally, leftId, leftSame⟩
  rcases memberOf right rightObject rightLive rightNew with
    ⟨other, otherInside, otherOriginal, otherOriginally, rightId, rightSame⟩
  have sameMember := apart.separate member inside other otherInside original otherOriginal
    originally otherOriginally (leftId.trans (sameHierarchy.trans rightId.symm))
  rw [← sameMember] at rightSame
  exact same_tree_trans (same_tree_symm leftSame) rightSame

theorem path_of_location (sound : ClientSound client) {id : ObjectId}
    {object : SingleControlGroup} (live : client.world.objects id = some object) :
    pathOf client.world.objects id = object.location_.controlGroup := by
  rw [path_of_live live, (sound.wired id object live).locatedGroup]

theorem new_object_unique (originSound : ClientSound origin) (apart : Apart members origin)
    (tracked : Tracked groups populated members origin client)
    (leftLive : client.world.objects left = some leftObject)
    (leftNew : origin.world.fresh ≤ left)
    (rightLive : client.world.objects right = some rightObject)
    (rightNew : origin.world.fresh ≤ right)
    (sameGroup : leftObject.location_.group = rightObject.location_.group) : left = right := by
  have sameHierarchy := congrArg Group.hierarchyId sameGroup
  have samePath : pathOf client.world.objects left = pathOf client.world.objects right := by
    rw [path_of_location tracked.sound leftLive, path_of_location tracked.sound rightLive]
    exact congrArg Group.controlGroup sameGroup
  rcases new_objects_same_tree originSound apart tracked leftLive leftNew rightLive rightNew
    sameHierarchy with ⟨root, leftInside, rightInside⟩
  exact node_unique (labelled_of_sound tracked.sound) ⟨leftObject, leftLive⟩
    ⟨rightObject, rightLive⟩ leftInside rightInside samePath

theorem new_object_below (originSound : ClientSound origin) (apart : Apart members origin)
    (tracked : Tracked groups populated members origin client)
    (leftLive : client.world.objects left = some leftObject)
    (leftNew : origin.world.fresh ≤ left)
    (rightLive : client.world.objects right = some rightObject)
    (rightNew : origin.world.fresh ≤ right)
    (isBelow : leftObject.location_.group.StrictlyBelow rightObject.location_.group) :
    AtOrBelow (parentOf client.world.objects) left right ∧ left ≠ right := by
  rcases isBelow with ⟨sameHierarchy, isPrefix, different⟩
  rcases new_objects_same_tree originSound apart tracked leftLive leftNew rightLive rightNew
    sameHierarchy with ⟨root, leftInside, rightInside⟩
  constructor
  · apply below_of_prefix (labelled_of_sound tracked.sound) ⟨leftObject, leftLive⟩
      ⟨rightObject, rightLive⟩ leftInside rightInside
    rw [path_of_location tracked.sound leftLive, path_of_location tracked.sound rightLive]
    exact isPrefix
  · intro same
    rw [same, rightLive] at leftLive
    rw [Option.some.inj leftLive] at different
    exact different rfl

/-- What is built in the tree of a member stays below the member's mount point. -/
theorem in_use_of_tree (originSound : ClientSound origin) (apart : Apart members origin)
    (tracked : Tracked groups populated members origin client) {id : ObjectId}
    {object : SingleControlGroup} (live : client.world.objects id = some object)
    (inTree : ∃ member ∈ members, SameTree client.world.objects member id)
    (controlGroup : ControlGroupPath) :
    { object.location_ with controlGroup := controlGroup } ∈ InUse origin.world.objects := by
  rcases inTree with ⟨member, inside, same⟩
  have before := apart.alive member inside
  rcases tracked.survive member before with ⟨now, nowLive⟩
  rcases location_kept originSound tracked.persists nowLive before with
    ⟨original, originally, located⟩
  have location := location_in_tree tracked.sound same nowLive live
  exact ⟨member, original, originally, by rw [location, located]⟩

end Trees

section Steps

theorem accounted_object (apart : Apart members origin)
    (tracked : Tracked groups populated members origin client) (sound' : ClientSound next)
    (persists : Persists client next)
    (survive : ∀ id, Alive origin.world.objects id → Alive next.world.objects id)
    {id : ObjectId} {new : SingleControlGroup} (newLive : next.world.objects id = some new)
    (older : id < client.world.fresh) (isNew : origin.world.fresh ≤ id) :
    Accounted groups populated members origin next.world.objects id new := by
  rcases persists.old id new newLive older with ⟨object, live, same⟩
  have located := identity_location same
  rcases tracked.accounted id object live isNew with ⟨created, inTree, absent, untasked, leaf⟩
  constructor
  · rw [identity_kind same]
    exact created
  · rcases inTree with ⟨member, inside, sameTree⟩
    have before := apart.alive member inside
    exact ⟨member, inside, same_tree_carried tracked.sound sound' persists
      (tracked.survive member before) (survive member before) ⟨object, live⟩ ⟨new, newLive⟩
      sameTree⟩
  · exact located ▸ absent
  · exact located ▸ untasked
  · exact located ▸ leaf

theorem tracked_kept (apart : Apart members origin)
    (tracked : Tracked groups populated members origin client) (sound' : ClientSound next)
    (persists : Persists client next) (sameFresh : next.world.fresh = client.world.fresh)
    (alive : ∀ id, Alive client.world.objects id → Alive next.world.objects id)
    (sameGroups : groups next.world.kernel = groups client.world.kernel)
    (samePopulated : populated next.world.kernel = populated client.world.kernel) :
    Tracked groups populated members origin next := by
  have survive : ∀ id, Alive origin.world.objects id → Alive next.world.objects id :=
    fun id before => alive id (tracked.survive id before)
  have older : ∀ id new, next.world.objects id = some new → id < client.world.fresh :=
    fun id new newLive => sameFresh ▸ sound'.bounded id new newLive
  constructor
  · exact sound'
  · exact persists_trans tracked.persists persists
  · exact survive
  · intro id new newLive isNew
    exact accounted_object apart tracked sound' persists survive newLive (older id new newLive)
      isNew
  · intro group
    rw [sameGroups, tracked.exactly group]
    constructor
    · intro either
      rcases either with before | ⟨id, object, live, isNew, same⟩
      · exact .inl before
      · rw [← same]
        exact .inr (new_group_after tracked.sound persists live (alive id ⟨object, live⟩) isNew)
    · intro either
      rcases either with before | ⟨id, new, newLive, isNew, same⟩
      · exact .inl before
      · rcases location_before persists newLive (older id new newLive) with
          ⟨object, live, located⟩
        exact .inr ⟨id, object, live, isNew, located ▸ same⟩
  · rw [samePopulated, tracked.tasks]

theorem tracked_asked (laws : DirectoryLaws kernel (InUse origin.world.objects) groups populated)
    (apart : Apart members origin) {world : World σ} {held : Multiset ObjectId} {after : σ}
    (tracked : Tracked groups populated members origin ⟨world, held⟩)
    (asked : Asked kernel world.kernel after) :
    Tracked groups populated members origin ⟨world.asked after, held⟩ := by
  have kept := asked_keeps laws asked
  exact tracked_kept apart tracked tracked.sound
    (transition_persists tracked.sound (.asked _ after asked)) rfl (fun _ alive => alive)
    kept.1 kept.2

/-- The directory of a destroyed object is empty and is removed. -/
theorem tracked_destroyed
    (laws : DirectoryLaws kernel (InUse origin.world.objects) groups populated)
    (originSound : ClientSound origin) (apart : Apart members origin)
    (tracked : Tracked groups populated members origin client) {id : ObjectId}
    {group : SingleControlGroup} (live : client.world.objects id = some group)
    (member : id ∈ client.held) (last : group.references = 1) {held : Multiset ObjectId}
    (sound' : ClientSound ⟨destroy kernel id group client.world, held⟩)
    (persists : Persists client ⟨destroy kernel id group client.world, held⟩)
    (survive : ∀ other, Alive origin.world.objects other →
      Alive (destroy kernel id group client.world).objects other) :
    Tracked groups populated members origin ⟨destroy kernel id group client.world, held⟩ := by
  have selfDead : ∀ new, (destroy kernel id group client.world).objects id ≠ some new := by
    intro new found
    exact (destroy_identity kernel client.world found).1 rfl
  have isNew : origin.world.fresh ≤ id := by
    by_contra older
    have bounded := Nat.lt_of_not_le older
    rcases tracked.persists.old id group live bounded with ⟨original, originally, _⟩
    rcases survive id ⟨original, originally⟩ with ⟨new, newLive⟩
    exact selfDead new newLive
  have account := tracked.accounted id group live isNew
  have present : group.location_.group ∈ groups client.world.kernel :=
    (tracked.exactly _).mpr (.inr ⟨id, group, live, isNew, rfl⟩)
  have empty : group.location_.group ∉ populated client.world.kernel := by
    rw [tracked.tasks]
    exact account.untasked
  have nothingBelow : ∀ other ∈ groups client.world.kernel,
      ¬other.StrictlyBelow group.location_.group := by
    intro other inside isBelow
    rcases (tracked.exactly other).mp inside with before | ⟨low, object, lowLive, lowNew, same⟩
    · exact account.leaf other before isBelow
    · rw [← same] at isBelow
      rcases new_object_below originSound apart tracked lowLive lowNew live isNew isBelow with
        ⟨path, different⟩
      exact different (lowest_of_last_reference tracked.sound live member last path)
  have isUsed : group.location_ ∈ InUse origin.world.objects :=
    in_use_of_tree originSound apart tracked live account.inTree group.location_.controlGroup
  rcases laws.removed group.location_ isUsed client.world.kernel present empty nothingBelow with
    ⟨after, answered, removed, samePopulated⟩
  have kernelAt : (destroy kernel id group client.world).kernel = after := by
    rw [(destroy_created kernel id client.world account.created).1, removal_ok answered]
  have older : ∀ other new, (destroy kernel id group client.world).objects other = some new →
      other < client.world.fresh := by
    intro other new newLive
    have bounded := sound'.bounded other new newLive
    rw [destroy_fresh] at bounded
    exact bounded
  constructor
  · exact sound'
  · exact persists_trans tracked.persists persists
  · exact survive
  · intro other new newLive otherNew
    exact accounted_object apart tracked sound' persists survive newLive (older other new newLive)
      otherNew
  · intro other
    show other ∈ groups (destroy kernel id group client.world).kernel ↔ _
    rw [kernelAt, removed, Set.mem_sdiff, Set.mem_singleton_iff, tracked.exactly other]
    constructor
    · intro ⟨either, different⟩
      rcases either with before | ⟨low, object, lowLive, lowNew, same⟩
      · exact .inl before
      · have notSelf : low ≠ id := by
          intro isSelf
          rw [isSelf, live] at lowLive
          rw [← Option.some.inj lowLive] at same
          exact different same.symm
        have alive := destroy_alive kernel id group client.world notSelf ⟨object, lowLive⟩
        rw [← same]
        exact .inr (new_group_after tracked.sound persists lowLive alive lowNew)
    · intro either
      rcases either with before | ⟨low, new, newLive, lowNew, same⟩
      · refine ⟨.inl before, ?_⟩
        intro isRemoved
        exact account.absent (isRemoved ▸ before)
      · rcases location_before persists newLive (older low new newLive) with
          ⟨object, lowLive, located⟩
        rw [located] at same
        refine ⟨.inr ⟨low, object, lowLive, lowNew, same⟩, ?_⟩
        intro isRemoved
        have isSelf : low = id := new_object_unique originSound apart tracked lowLive lowNew
          live isNew (same.trans isRemoved)
        exact selfDead new (isSelf ▸ newLive)
  · show populated (destroy kernel id group client.world).kernel = _
    rw [kernelAt, samePopulated, tracked.tasks]

theorem tracked_made (laws : DirectoryLaws kernel (InUse origin.world.objects) groups populated)
    (originSound : ClientSound origin) (apart : Apart members origin)
    (tracked : Tracked groups populated members origin client) {self : ObjectId}
    {above : SingleControlGroup} {name : Component} {mode : Mode} {after : σ}
    (live : client.world.objects self = some above) (ordinary : name.IsOrdinary)
    (unregistered : above.children_.lookup name = none)
    (inTree : ∃ member ∈ members, SameTree client.world.objects member self)
    (made : kernel.mkdir (childOf .created self above name).location_ mode client.world.kernel =
      .ok () after) :
    Tracked groups populated members origin
      ⟨(client.world.asked after).adopt self name (childOf .created self above name),
        client.world.fresh ::ₘ client.held⟩ := by
  have step : Transition kernel client
      ⟨(client.world.asked after).adopt self name (childOf .created self above name),
        client.world.fresh ::ₘ client.held⟩ :=
    .created client self above name mode after live ordinary unregistered made
  have sound' := transition_sound tracked.sound step
  have persists := transition_persists tracked.sound step
  have selfOld : self ≠ client.world.fresh := Nat.ne_of_lt (tracked.sound.bounded self above live)
  have isUsed :=
    in_use_of_tree originSound apart tracked live inTree (above.controlGroup_ ++ [name])
  rcases laws.made _ isUsed mode _ after made with
    ⟨absent, untasked, leaf, inserted, samePopulated⟩
  have alive : ∀ id, Alive client.world.objects id →
      Alive ((client.world.asked after).adopt self name
        (childOf .created self above name)).objects id :=
    fun _ => adopt_alive (client.world.asked after) name live rfl selfOld
  have survive : ∀ id, Alive origin.world.objects id →
      Alive ((client.world.asked after).adopt self name
        (childOf .created self above name)).objects id :=
    fun id before => alive id (tracked.survive id before)
  have freshLive : ((client.world.asked after).adopt self name
      (childOf .created self above name)).objects client.world.fresh =
        some { childOf .created self above name with references := 1 } :=
    adopt_adopted (client.world.asked after) name live rfl selfOld
  have older : ∀ id new, ((client.world.asked after).adopt self name
      (childOf .created self above name)).objects id = some new → id ≠ client.world.fresh →
        id < client.world.fresh := by
    intro id new newLive notFresh
    exact Nat.lt_of_le_of_ne (Nat.lt_succ_iff.mp (sound'.bounded id new newLive)) notFresh
  have before : ∀ group ∈ groups origin.world.kernel, group ∈ groups client.world.kernel :=
    fun group inside => (tracked.exactly group).mpr (.inl inside)
  constructor
  · exact sound'
  · exact persists_trans tracked.persists persists
  · exact survive
  · intro id new newLive isNew
    by_cases isFresh : id = client.world.fresh
    · rw [isFresh] at newLive ⊢
      have same := Option.some.inj (freshLive.symm.trans newLive)
      rw [← same]
      refine ⟨rfl, ?_, ?_, ?_, ?_⟩
      · rcases inTree with ⟨member, inside, sameTree⟩
        have memberBefore := apart.alive member inside
        have carried := same_tree_carried tracked.sound sound' persists
          (tracked.survive member memberBefore) (survive member memberBefore)
          ⟨above, live⟩ (alive self ⟨above, live⟩) sameTree
        have adjacent : Adjacent _ self client.world.fresh :=
          .inr (.inr (parent_of_live freshLive))
        have toFresh := same_tree_of_adjacent sound' (alive self ⟨above, live⟩) adjacent
        exact ⟨member, inside, same_tree_trans carried toFresh⟩
      · exact fun inside => absent (before _ inside)
      · rw [← tracked.tasks]
        exact untasked
      · exact fun group inside => leaf group (before group inside)
    · exact accounted_object apart tracked sound' persists survive newLive
        (older id new newLive isFresh) isNew
  · intro group
    show group ∈ groups after ↔ _
    rw [inserted, Set.mem_insert_iff, tracked.exactly group]
    constructor
    · intro either
      rcases either with isMade | inside | ⟨id, object, objectLive, isNew, same⟩
      · exact .inr ⟨client.world.fresh, _, freshLive, tracked.persists.later, isMade.symm⟩
      · exact .inl inside
      · have remains := alive id ⟨object, objectLive⟩
        rw [← same]
        exact .inr (new_group_after tracked.sound persists objectLive remains isNew)
    · intro either
      rcases either with inside | ⟨id, new, newLive, isNew, same⟩
      · exact .inr (.inl inside)
      · by_cases isFresh : id = client.world.fresh
        · rw [isFresh] at newLive
          have isChild := Option.some.inj (freshLive.symm.trans newLive)
          rw [← isChild] at same
          exact .inl same.symm
        · rcases location_before persists newLive (older id new newLive isFresh) with
            ⟨object, objectLive, located⟩
          exact .inr (.inr ⟨id, object, objectLive, isNew, located ▸ same⟩)
  · show populated after = _
    rw [samePopulated, tracked.tasks]

theorem tracked_dropping (laws : DirectoryLaws kernel (InUse origin.world.objects) groups populated)
    (originSound : ClientSound origin) (apart : Apart members origin)
    (tracked : Tracked groups populated members origin client)
    (step : Transition kernel client next) (sameFresh : next.world.fresh = client.world.fresh)
    (survive : ∀ id, Alive origin.world.objects id → Alive next.world.objects id) :
    Tracked groups populated members origin next := by
  have sound' := transition_sound tracked.sound step
  have persists := transition_persists tracked.sound step
  have grown : client.world.fresh + 1 ≠ client.world.fresh := Nat.succ_ne_self _
  cases step with
  | asked after answered => exact tracked_asked laws apart tracked answered
  | retained id group live =>
      exact tracked_kept apart tracked sound' persists rfl
        (fun _ alive => modify_alive client.world id _ alive) rfl rfl
  | rooted hierarchyId group object => exact absurd sameFresh grown
  | attached self above name live ordinary unregistered => exact absurd sameFresh grown
  | created self above name mode after live ordinary unregistered made =>
      exact absurd sameFresh grown
  | yielded id group live member several =>
      exact tracked_kept apart tracked sound' persists rfl
        (fun _ alive => modify_alive client.world id _ alive) rfl rfl
  | destroyed id group live member last =>
      exact tracked_destroyed laws originSound apart tracked live member last sound' persists
        survive

/-- Transitions that construct nothing keep the account as long as they leave
the objects of `origin` alive. -/
theorem tracked_transitions
    (laws : DirectoryLaws kernel (InUse origin.world.objects) groups populated)
    (originSound : ClientSound origin) (apart : Apart members origin)
    (tracked : Tracked groups populated members origin client)
    (steps : Transitions kernel client next) (sameFresh : next.world.fresh = client.world.fresh)
    (survive : ∀ id, Alive origin.world.objects id → Alive next.world.objects id) :
    Tracked groups populated members origin next := by
  induction steps with
  | refl => exact tracked
  | @tail middle finish steps step ih =>
      have middleSound := transitions_sound tracked.sound steps
      have first := transitions_persist tracked.sound steps
      have second := transition_persists middleSound step
      have middleFresh := Nat.le_antisymm (sameFresh ▸ second.later) first.later
      have spared : ∀ id, Alive origin.world.objects id → Alive middle.world.objects id := by
        intro id before
        rcases survive id before with ⟨new, newLive⟩
        have bounded := (transition_sound middleSound step).bounded id new newLive
        rw [sameFresh, ← middleFresh] at bounded
        rcases second.old id new newLive bounded with ⟨object, live, _⟩
        exact ⟨object, live⟩
      exact tracked_dropping laws originSound apart (ih middleFresh spared) step
        (sameFresh.trans middleFresh.symm) survive

theorem tracked_release (laws : DirectoryLaws kernel (InUse origin.world.objects) groups populated)
    (originSound : ClientSound origin) (apart : Apart members origin) {world : World σ}
    {held : Multiset ObjectId} {id : ObjectId}
    (tracked : Tracked groups populated members origin ⟨world, id ::ₘ held⟩)
    (still : ∀ other ∈ origin.held, other ∈ held) :
    Tracked groups populated members origin ⟨release kernel id world, held⟩ := by
  have steps := release_transitions kernel tracked.sound (Multiset.mem_cons_self id held)
  rw [Multiset.erase_cons_head] at steps
  have sound' := transitions_sound tracked.sound steps
  have persists := persists_trans tracked.persists (transitions_persist tracked.sound steps)
  apply tracked_transitions laws originSound apart tracked steps (release_fresh kernel id world)
  exact alive_of_still_held originSound sound' persists
    fun other member => sound'.heldLive other (still other member)

end Steps

end ContestSystem.Cgroup.GroupDirectories
