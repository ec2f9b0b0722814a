import ContestSystem.Cgroup.FieldPathCache
import ContestSystem.Cgroup.Lifetime
import ContestSystem.Cgroup.MultipleMembers

/-!
# Clients of several hierarchies

A session holds single pointers and whole maps of pointers. It obtains maps
from `root`, `attach` and `unite`, changes them with `add`, `replace` and
`remove` and derives new ones with `attachChild`, `createChild` and `parent`.
Each call is a run of transitions that accounts for every pointer a map holds,
also where the call throws after a part of its members.
-/

namespace ContestSystem.Cgroup

open ContestSystem.Lib.Throwing ContestSystem.Lib.Unordered

set_option autoImplicit false

namespace MultipleControlGroup

variable {σ : Type} (kernel : Kernel σ)

/-- `add` of a pointer that the caller keeps: a map that accepts it holds a copy. -/
def addPointer (rehash : Rehash ObjectId) (group : MultipleControlGroup ObjectId)
    (cgroup : ObjectId) :
    Call σ (EStateM.Result Failure (MultipleControlGroup ObjectId) Unit) := do
  let object ← SingleControlGroup.deref cgroup
  let added := add (fun _ => object.hierarchyId) rehash cgroup group
  match added with
  | .ok _ _ => modify fun world => world.retain cgroup
  | .error _ _ => pure ()
  return added

/-- The map under construction is destroyed where `add` has thrown. -/
def unlessThrown (order : HashOrder Nat) :
    EStateM.Result Failure (MultipleControlGroup ObjectId) Unit →
      Call σ (MultipleControlGroup ObjectId)
  | .ok _ next => return next
  | .error failure last => do
      modify (releaseAll kernel order last)
      throw failure

def unite (order : HashOrder Nat) (rehash : Rehash ObjectId) (cgroups : List ObjectId) :
    Call σ (MultipleControlGroup ObjectId) :=
  cgroups.foldlM
    (fun cgroup pointer => do
      let added ← addPointer rehash cgroup pointer
      unlessThrown kernel order added)
    (empty ObjectId)

/-- The loop body of `root` and `attach`, which give `add` a temporary pointer. -/
def acquireMember (order : HashOrder Nat) (rehash : Rehash ObjectId)
    (acquire : Nat → Call σ ObjectId) (cgroup : MultipleControlGroup ObjectId)
    (hierarchyInfo : HierarchyInfo) : Call σ (MultipleControlGroup ObjectId) := do
  let temporary ← unwinding (acquire hierarchyInfo.id) (releaseAll kernel order cgroup)
  let added ← addPointer rehash cgroup temporary
  modify (SingleControlGroup.release kernel temporary)
  unlessThrown kernel order added

/-- The loop over the hierarchies of `*SystemInfo::instance()`. -/
def acquireAll (listing order : HashOrder Nat) (rehash : Rehash ObjectId)
    (acquire : Nat → Call σ ObjectId) : Call σ (MultipleControlGroup ObjectId) := do
  let world ← get
  (iterate listing world.instance_.info.id2hierarchy_).foldlM
    (acquireMember kernel order rehash acquire) (empty ObjectId)

def root (listing order : HashOrder Nat) (rehash : Rehash ObjectId) :
    Call σ (MultipleControlGroup ObjectId) :=
  acquireAll kernel listing order rehash (SingleControlGroup.root kernel)

def attach (listing order : HashOrder Nat) (rehash : Rehash ObjectId)
    (controlGroup : BoostPath) : Call σ (MultipleControlGroup ObjectId) :=
  acquireAll kernel listing order rehash fun hierarchyId =>
    SingleControlGroup.attach kernel hierarchyId controlGroup

end MultipleControlGroup

namespace MultipleSession

open ContestSystem.Lib.Forest ContestSystem.Lib.Run
open SingleControlGroup Registry Construction Transition Population Members Refinement Trees
open ClientRun Lifetime CreateRollback MultipleMembers FieldPathCache

variable {σ : Type} {kernel : Kernel σ} {origin : Client σ} {world : World σ}
  {held : Multiset ObjectId}

/-- The pointers of a map depend on what it finds and not on its iteration order. -/
theorem pointers_congr {left right : MultipleControlGroup ObjectId}
    (same : ∀ id, left.id2cgroup_.lookup id = right.id2cgroup_.lookup id) :
    pointers left = pointers right := by
  have entries : left.id2cgroup_.entries.Perm right.id2cgroup_.entries :=
    List.lookup_ext left.id2cgroup_.nodupKeys right.id2cgroup_.nodupKeys fun id member => by
      have found := same id
      simp only [AList.lookup] at found
      rw [found]
  exact Multiset.coe_eq_coe.mpr (entries.map Sigma.snd)

theorem arrange_lookup (rehash : Rehash ObjectId) (map : AList fun _ : Nat => ObjectId)
    (id : Nat) : (rehash.arrange map).lookup id = map.lookup id :=
  AList.perm_lookup (rehash.perm map)

theorem pointers_added (rehash : Rehash ObjectId) {group next : MultipleControlGroup ObjectId}
    {id : Nat} (absent : group.id2cgroup_.lookup id = none) (cgroup : ObjectId)
    (map : next.id2cgroup_ = rehash.arrange (group.id2cgroup_.insert id cgroup)) :
    pointers next = cgroup ::ₘ pointers group := by
  rw [← pointers_insert absent]
  apply pointers_congr
  intro probe
  rw [map, arrange_lookup]

theorem pointers_erased {group next : MultipleControlGroup ObjectId} {id : Nat} {ret : ObjectId}
    (found : group.id2cgroup_.lookup id = some ret)
    (map : next.id2cgroup_ = group.id2cgroup_.erase id) :
    pointers group = ret ::ₘ pointers next := by
  have absent : next.id2cgroup_.lookup id = none := by
    rw [map, lookup_erase_eq, if_pos rfl]
  rw [← pointers_insert absent]
  apply pointers_congr
  intro probe
  rw [lookup_insert_eq, map, lookup_erase_eq]
  split
  next same => rw [same, found]
  next => rfl

theorem pointers_replaced {group next : MultipleControlGroup ObjectId} {id : Nat}
    {ret cgroup : ObjectId} (found : group.id2cgroup_.lookup id = some ret)
    (map : next.id2cgroup_ = group.id2cgroup_.replace id cgroup) :
    cgroup ::ₘ pointers group = ret ::ₘ pointers next := by
  let without : MultipleControlGroup ObjectId :=
    { group with id2cgroup_ := group.id2cgroup_.erase id }
  have nextFound : next.id2cgroup_.lookup id = some cgroup := by
    rw [map, lookup_replace_eq, if_pos rfl, found]
    rfl
  have sameRest : pointers next = cgroup ::ₘ pointers without := by
    have absent : without.id2cgroup_.lookup id = none := by
      rw [lookup_erase_eq, if_pos rfl]
    rw [← pointers_insert absent]
    apply pointers_congr
    intro probe
    rw [lookup_insert_eq, map, lookup_replace_eq, found, lookup_erase_eq]
    split <;> rfl
  have erased : pointers group = ret ::ₘ pointers without := pointers_erased found rfl
  rw [erased, sameRest, Multiset.cons_swap]

/-- A map that was filled by `add`. -/
structure United (kernel : Kernel σ) (origin : Client σ)
    (cgroup : MultipleControlGroup ObjectId) (middle : World σ) : Prop where
  steps : Transitions kernel origin ⟨middle, pointers cgroup + origin.held⟩
  keyed : Keyed middle.objects cgroup

theorem united_start (origin : Client σ) :
    United kernel origin (MultipleControlGroup.empty ObjectId) origin.world := by
  constructor
  · rw [pointers_empty, zero_add]
  · intro id member object listed
    cases listed

theorem keyed_added {objects : Heap} {group next : MultipleControlGroup ObjectId}
    (keyed : Keyed objects group) (rehash : Rehash ObjectId) {cgroup : ObjectId}
    {object : SingleControlGroup} (live : objects cgroup = some object)
    (map : next.id2cgroup_ = rehash.arrange (group.id2cgroup_.insert object.hierarchyId cgroup)) :
    Keyed objects next := by
  intro id member other listed otherLive
  rw [map, arrange_lookup, lookup_insert_eq] at listed
  split at listed
  next same =>
      cases listed
      rw [Option.some.inj (otherLive.symm.trans live), same]
  next => exact keyed id member other listed otherLive

/-- What `add` does to the map and the heap: nothing but the cache, or one entry more. -/
inductive AddOutcome (rehash : Rehash ObjectId) (group : MultipleControlGroup ObjectId)
    (cgroup : ObjectId) (object : SingleControlGroup) (world : World σ) :
    EStateM.Result Failure (MultipleControlGroup ObjectId) Unit → World σ → Prop
  | conflict (present : (group.id2cgroup_.lookup object.hierarchyId).isSome) :
      AddOutcome rehash group cgroup object world
        (.error
          { kind := .multipleControlGroupHierarchyConflict
            hierarchyId := some object.hierarchyId } (uncached group)) world
  | added (absent : group.id2cgroup_.lookup object.hierarchyId = none) :
      AddOutcome rehash group cgroup object world
        (.ok ()
          { id2cgroup_ := rehash.arrange (group.id2cgroup_.insert object.hierarchyId cgroup)
            fieldName2path_ := ∅ }) (world.retain cgroup)

theorem add_pointer_cases (rehash : Rehash ObjectId) (group : MultipleControlGroup ObjectId)
    {cgroup : ObjectId} {object : SingleControlGroup} (live : world.objects cgroup = some object) :
    ∃ added after,
      MultipleControlGroup.addPointer rehash group cgroup world = .ok added after ∧
        AddOutcome rehash group cgroup object world added after := by
  have equation : MultipleControlGroup.add (fun _ : ObjectId => object.hierarchyId) rehash cgroup
      group = _ := add_eq rehash cgroup group
  have read : deref cgroup world = .ok object world := by
    simp [deref, live]
  unfold MultipleControlGroup.addPointer
  rw [bind_of_ok read, equation]
  cases present : group.id2cgroup_.lookup object.hierarchyId with
  | some member =>
      refine ⟨_, _, rfl, ?_⟩
      exact .conflict (by rw [present]; rfl)
  | none => exact ⟨_, _, rfl, .added present⟩

theorem retain_live {id : ObjectId} {object : SingleControlGroup}
    (live : world.objects id = some object) :
    (world.retain id).objects id =
      some { object with references := object.references + 1 } := by
  simp [World.retain, World.modify, live]

theorem retained_united {cgroup next : MultipleControlGroup ObjectId} {middle : World σ}
    (originSound : ClientSound origin) (united : United kernel origin cgroup middle)
    {pointer : ObjectId} {object : SingleControlGroup}
    (live : middle.objects pointer = some object) (rehash : Rehash ObjectId)
    (absent : cgroup.id2cgroup_.lookup object.hierarchyId = none)
    (map : next.id2cgroup_ =
      rehash.arrange (cgroup.id2cgroup_.insert object.hierarchyId pointer)) :
    United kernel origin next (middle.retain pointer) := by
  have sound := transitions_sound originSound united.steps
  have step : Transition kernel ⟨middle, pointers cgroup + origin.held⟩
      ⟨middle.retain pointer, pointer ::ₘ (pointers cgroup + origin.held)⟩ :=
    .retained _ pointer object live
  constructor
  · rw [pointers_added rehash absent pointer map, Multiset.cons_add]
    exact united.steps.tail step
  · exact keyed_added
      (keyed_carried sound (transition_persists sound step)
        (fun member inside => Multiset.mem_add.mpr (.inl inside)) united.keyed)
      rehash (retain_live live) map

theorem unite_cases (kernel : Kernel σ) (originSound : ClientSound origin) (order : HashOrder Nat)
    (rehash : Rehash ObjectId) {cgroups : List ObjectId}
    (isHeld : ∀ pointer ∈ cgroups, pointer ∈ origin.held) :
    (∀ cgroup after,
      MultipleControlGroup.unite kernel order rehash cgroups origin.world = .ok cgroup after →
        United kernel origin cgroup after) ∧
    (∀ failure after,
      MultipleControlGroup.unite kernel order rehash cgroups origin.world = .error failure after →
        Transitions kernel origin ⟨after, origin.held⟩ ∧ External failure) := by
  have outcome : ∀ {cgroup : MultipleControlGroup ObjectId} {middle : World σ} {pointer},
      United kernel origin cgroup middle → pointer ∈ cgroups →
      ∃ object added after, middle.objects pointer = some object ∧
        MultipleControlGroup.addPointer rehash cgroup pointer middle = .ok added after ∧
        AddOutcome rehash cgroup pointer object middle added after := by
    intro cgroup middle pointer united inside
    have sound := transitions_sound originSound united.steps
    rcases sound.heldLive pointer (Multiset.mem_add.mpr (.inr (isHeld pointer inside))) with
      ⟨object, live⟩
    rcases add_pointer_cases rehash cgroup live with ⟨added, after, called, outcome⟩
    exact ⟨object, added, after, live, called, outcome⟩
  have preserved : ∀ cgroup before pointer middle next finish,
      (before <+: cgroups → United kernel origin cgroup middle) →
      (do
        let added ← MultipleControlGroup.addPointer rehash cgroup pointer
        MultipleControlGroup.unlessThrown kernel order added) middle = .ok next finish →
      before ++ [pointer] <+: cgroups → United kernel origin next finish := by
    intro cgroup before pointer middle next finish invariant returned whole
    have united := invariant ((List.prefix_append before [pointer]).trans whole)
    have inside : pointer ∈ cgroups :=
      whole.subset (List.mem_append_right before (List.mem_singleton_self _))
    rcases outcome united inside with ⟨object, added, after, live, called, outcome⟩
    rw [bind_of_ok called] at returned
    cases outcome with
    | conflict present => cases returned
    | added absent =>
        cases returned
        exact retained_united originSound united live rehash absent rfl
  have loop := fold_cases _ preserved (MultipleControlGroup.empty ObjectId) [] cgroups
    origin.world fun _ => united_start origin
  constructor
  · intro cgroup after returned
    exact loop.1 cgroup after returned List.prefix_rfl
  · intro failure after thrown
    rcases loop.2 failure after thrown with
      ⟨done, pointer, rest, cgroup, middle, split, invariant, failed⟩
    have united := invariant (split ▸ List.prefix_append done (pointer :: rest))
    have inside : pointer ∈ cgroups := by
      rw [split]
      exact List.mem_append_right _ List.mem_cons_self
    rcases outcome united inside with ⟨object, added, last, live, called, outcome⟩
    rw [bind_of_ok called] at failed
    cases outcome with
    | conflict present =>
        have released := release_all_transitions kernel order
          (transitions_sound originSound united.steps)
        cases failed
        exact ⟨united.steps.trans released, trivial⟩
    | added absent => cases failed

theorem destroy_instance (kernel : Kernel σ) (id : ObjectId) (group : SingleControlGroup)
    (world : World σ) : (destroy kernel id group world).instance_ = world.instance_ := by
  have base : ∀ world : World σ, (destroyBase group world).instance_ = world.instance_ := by
    intro world
    unfold destroyBase
    split <;> rfl
  unfold destroy
  cases group.kind with
  | attached => exact base world
  | created =>
      simp only [base, removeDirectory]
      split <;> rfl

theorem insert_instance (world : World σ) (group : SingleControlGroup) :
    (world.insert group).instance_ = world.instance_ := by
  unfold World.insert
  cases group.parent_ <;> rfl

theorem adopt_instance (world : World σ) (self : ObjectId) (name : Component)
    (child : SingleControlGroup) : (world.adopt self name child).instance_ = world.instance_ :=
  insert_instance world child

theorem transitions_instance {client next : Client σ} (steps : Transitions kernel client next) :
    next.world.instance_ = client.world.instance_ := by
  induction steps with
  | refl => rfl
  | tail _ step ih =>
      rw [← ih]
      cases step with
      | asked after answered => rfl
      | retained id group live => rfl
      | rooted hierarchyId group object => exact insert_instance _ _
      | attached self above name live ordinary unregistered => exact adopt_instance _ _ _ _
      | created self above name mode after live ordinary unregistered made =>
          exact adopt_instance _ _ _ _
      | yielded id group live member several => rfl
      | destroyed id group live member last => exact destroy_instance kernel _ _ _

/-- A function that leads to the object of `path id` in the hierarchy `id`. -/
structure Acquires (kernel : Kernel σ) (acquire : Nat → Call σ ObjectId)
    (path : Nat → ControlGroupPath) : Prop where
  refines : ∀ id world held, ClientSound ⟨world, held⟩ →
    Refines kernel (acquire id) world held
  lands : ∀ id world held result after, ClientSound ⟨world, held⟩ →
    acquire id world = .ok result after → ∃ object, after.objects result = some object ∧
      world.instance_.info.byHierarchyId id = .ok object.hierarchyInfo_ ∧
      object.controlGroup_ = path id

theorem root_acquires (kernel : Kernel σ) :
    Acquires kernel (SingleControlGroup.root kernel) fun _ => [] := by
  constructor
  · intro id world held sound
    exact root_refines kernel world held id
  · intro id world held result after sound returned
    change EStateM.bind (consult (rootGroup kernel world.instance_ id)) _ world = _ at returned
    cases constructed : rootGroup kernel world.instance_ id world.kernel with
    | error failure last =>
        simp only [EStateM.bind, consult, constructed] at returned
        cases returned
    | ok group last =>
        simp only [EStateM.bind, consult, constructed] at returned
        cases returned
        have object := root_group_eq_ok constructed
        refine ⟨{ group with references := 1 }, ?_, ?_, object.controlGroup⟩
        · simp [World.insert, object.parent]
        · have found := object.wired.hierarchy
          rw [object.systemInfo, object.hierarchy] at found
          exact found

theorem identity_hierarchy_info {old new : SingleControlGroup} (same : SameIdentity old new) :
    new.hierarchyInfo_ = old.hierarchyInfo_ := by
  rw [same]

theorem attach_acquires (kernel : Kernel σ) (path : BoostPath) :
    Acquires kernel (fun id => SingleControlGroup.attach kernel id path)
      fun _ => lexicalPath [] path.components := by
  constructor
  · intro id world held sound
    exact attach_refines sound id path
  · intro id world held result after sound returned
    unfold SingleControlGroup.attach at returned
    by_cases absolute : path.isAbsolute = true
    · rw [if_pos absolute] at returned
      rcases bind_eq_ok.mp returned with ⟨root_, middle, made, rest⟩
      rcases bind_eq_ok.mp rest with ⟨value, last, called, finish⟩
      cases finish
      have rooted := (root_refines kernel world held id).returned root_ middle made
      have sound' := transitions_sound sound rooted
      have rootHeld : root_ ∈ root_ ::ₘ held := Multiset.mem_cons_self _ _
      have memberCall := attach_child_member_call kernel (.relative path.components)
      have called' := unwinding_eq_ok.mp called
      have steps := (memberCall.refines middle (root_ ::ₘ held) root_ sound' rootHeld).returned
        result last called'
      have landed := memberCall.lands middle (root_ ::ₘ held) root_ result last sound' rootHeld
        called'
      have sound'' := transitions_sound sound' steps
      have released := release_transitions kernel sound''
        (Multiset.mem_cons_of_mem rootHeld)
      have ended := transitions_sound sound'' released
      rcases (root_acquires kernel).lands id world held root_ middle sound made with
        ⟨rootObject, rootLive, info, isRoot⟩
      rcases sound''.heldLive root_ (Multiset.mem_cons_of_mem rootHeld) with ⟨root', rootLive'⟩
      rcases sound''.heldLive result (Multiset.mem_cons_self _ _) with ⟨object, live⟩
      have stillHeld : result ∈ (result ::ₘ root_ ::ₘ held).erase root_ := by
        rw [Multiset.cons_swap, Multiset.erase_cons_head]
        exact Multiset.mem_cons_self _ _
      rcases ended.heldLive result stillHeld with ⟨final, finalLive⟩
      have rootSame := held_persists sound' (transitions_persist sound' steps) rootLive rootLive'
      have finalSame := held_persists sound'' (transitions_persist sound'' released) live finalLive
      have sameInfo : object.hierarchyInfo_ = root'.hierarchyInfo_ := by
        rcases landed.1 with ⟨top, rootInside, resultInside⟩
        rcases above_alive (kept_of_sound sound'') rootInside.below ⟨root', rootLive'⟩ with
          ⟨topObject, topLive⟩
        exact (at_or_below_hierarchy sound'' resultInside.below live topLive).trans
          (at_or_below_hierarchy sound'' rootInside.below rootLive' topLive).symm
      refine ⟨final, finalLive, ?_, ?_⟩
      · rw [identity_hierarchy_info finalSame, sameInfo, identity_hierarchy_info rootSame]
        exact info
      · have ends := landed.2
        rw [path_of_live live, path_of_live rootLive, isRoot] at ends
        rw [identity_path finalSame]
        exact ends
    · rw [if_neg absolute] at returned
      cases returned

/-- The loop over the hierarchies has filled the map for those `before`. -/
structure Acquired (kernel : Kernel σ) (origin : Client σ) (path : Nat → ControlGroupPath)
    (cgroup : MultipleControlGroup ObjectId) (before : List HierarchyInfo)
    (middle : World σ) : Prop where
  united : United kernel origin cgroup middle
  placed : ∀ hierarchyInfo ∈ before, ∃ member object,
    cgroup.id2cgroup_.lookup hierarchyInfo.id = some member ∧
      middle.objects member = some object ∧ object.hierarchyInfo_ = hierarchyInfo ∧
      object.controlGroup_ = path hierarchyInfo.id
  only : ∀ id member, cgroup.id2cgroup_.lookup id = some member →
    ∃ hierarchyInfo ∈ before, hierarchyInfo.id = id

theorem temporary_dropped (kernel : Kernel σ) {middle : World σ} {others : Multiset ObjectId}
    {temporary : ObjectId} {object : SingleControlGroup}
    (sound : ClientSound ⟨middle, temporary ::ₘ others⟩)
    (live : middle.objects temporary = some object) :
    Transitions kernel ⟨middle, temporary ::ₘ others⟩
      ⟨release kernel temporary (middle.retain temporary), temporary ::ₘ others⟩ := by
  have step : Transition kernel ⟨middle, temporary ::ₘ others⟩
      ⟨middle.retain temporary, temporary ::ₘ temporary ::ₘ others⟩ :=
    .retained _ temporary object live
  have released := release_transitions kernel (transition_sound sound step)
    (Multiset.mem_cons_self temporary _)
  simp only [Multiset.erase_cons_head] at released
  exact (Relation.ReflTransGen.single step).trans released

theorem acquired_absent {path : Nat → ControlGroupPath} {cgroup : MultipleControlGroup ObjectId}
    {before : List HierarchyInfo} {middle : World σ}
    (acquired : Acquired kernel origin path cgroup before middle) {hierarchyInfo : HierarchyInfo}
    (unvisited : ∀ earlier ∈ before, earlier.id ≠ hierarchyInfo.id) :
    cgroup.id2cgroup_.lookup hierarchyInfo.id = none := by
  cases listed : cgroup.id2cgroup_.lookup hierarchyInfo.id with
  | none => rfl
  | some member =>
      rcases acquired.only _ member listed with ⟨earlier, inside, same⟩
      exact absurd same (unvisited earlier inside)

theorem acquired_step {path : Nat → ControlGroupPath} {cgroup next : MultipleControlGroup ObjectId}
    {before : List HierarchyInfo} {middle after : World σ} (originSound : ClientSound origin)
    (rehash : Rehash ObjectId) (acquired : Acquired kernel origin path cgroup before middle)
    {hierarchyInfo : HierarchyInfo}
    (unvisited : ∀ earlier ∈ before, earlier.id ≠ hierarchyInfo.id) {acquiredPointer : ObjectId}
    {object : SingleControlGroup}
    (steps : Transitions kernel ⟨middle, pointers cgroup + origin.held⟩
      ⟨after, acquiredPointer ::ₘ (pointers cgroup + origin.held)⟩)
    (live : after.objects acquiredPointer = some object)
    (info : object.hierarchyInfo_ = hierarchyInfo)
    (atPath : object.controlGroup_ = path hierarchyInfo.id)
    (map : next.id2cgroup_ =
      rehash.arrange (cgroup.id2cgroup_.insert object.hierarchyId acquiredPointer)) :
    Acquired kernel origin path next (before ++ [hierarchyInfo]) after := by
  have sound := transitions_sound originSound acquired.united.steps
  have sound' := transitions_sound sound steps
  have persists := transitions_persist sound steps
  have sameId : object.hierarchyId = hierarchyInfo.id := by
    rw [SingleControlGroup.hierarchyId, info]
  have absent : cgroup.id2cgroup_.lookup object.hierarchyId = none :=
    sameId ▸ acquired_absent acquired unvisited
  refine ⟨⟨?_, ?_⟩, ?_, ?_⟩
  · rw [pointers_added rehash absent acquiredPointer map, Multiset.cons_add]
    exact acquired.united.steps.trans steps
  · exact keyed_added (keyed_carried sound persists
      (fun member inside => Multiset.mem_add.mpr (.inl inside)) acquired.united.keyed) rehash live
      map
  · intro other inside
    rcases List.mem_append.mp inside with earlier | last
    · rcases acquired.placed other earlier with
        ⟨member, old, listed, oldLive, oldInfo, oldPath⟩
      have memberHeld : member ∈ acquiredPointer ::ₘ (pointers cgroup + origin.held) :=
        Multiset.mem_cons_of_mem (Multiset.mem_add.mpr
          (.inl ((mem_pointers_iff cgroup member).mpr ⟨_, listed⟩)))
      rcases sound'.heldLive member memberHeld with ⟨new, newLive⟩
      have same := held_persists sound persists oldLive newLive
      refine ⟨member, new, ?_, newLive, ?_, ?_⟩
      · rw [map, arrange_lookup, lookup_insert_eq, if_neg (sameId ▸ unvisited other earlier)]
        exact listed
      · rw [identity_hierarchy_info same, oldInfo]
      · rw [identity_path same, oldPath]
    · rw [List.mem_singleton.mp last]
      refine ⟨acquiredPointer, object, ?_, live, info, atPath⟩
      rw [map, arrange_lookup, lookup_insert_eq, if_pos sameId.symm]
  · intro id member listed
    rw [map, arrange_lookup, lookup_insert_eq] at listed
    split at listed
    next same =>
        exact ⟨hierarchyInfo, List.mem_append_right _ (List.mem_singleton_self _),
          (same.trans sameId).symm⟩
    next =>
        rcases acquired.only id member listed with ⟨earlier, inside, same⟩
        exact ⟨earlier, List.mem_append_left _ inside, same⟩

theorem acquire_member_cases {acquire : Nat → Call σ ObjectId} {path : Nat → ControlGroupPath}
    (acquires : Acquires kernel acquire path) (originSound : ClientSound origin)
    (order : HashOrder Nat) (rehash : Rehash ObjectId)
    {cgroup : MultipleControlGroup ObjectId} {before : List HierarchyInfo} {middle : World σ}
    (acquired : Acquired kernel origin path cgroup before middle) {hierarchyInfo : HierarchyInfo}
    (found : origin.world.instance_.info.id2hierarchy_.lookup hierarchyInfo.id =
      some hierarchyInfo)
    (unvisited : ∀ earlier ∈ before, earlier.id ≠ hierarchyInfo.id) :
    (∀ next after,
      MultipleControlGroup.acquireMember kernel order rehash acquire cgroup hierarchyInfo middle =
        .ok next after →
      Acquired kernel origin path next (before ++ [hierarchyInfo]) after) ∧
    (∀ failure after,
      MultipleControlGroup.acquireMember kernel order rehash acquire cgroup hierarchyInfo middle =
        .error failure after →
      Transitions kernel origin ⟨after, origin.held⟩ ∧ External failure) := by
  have sound := transitions_sound originSound acquired.united.steps
  have refines := acquires.refines hierarchyInfo.id middle _ sound
  cases called : acquire hierarchyInfo.id middle with
  | error failure last =>
      have raised : MultipleControlGroup.acquireMember kernel order rehash acquire cgroup
          hierarchyInfo middle =
            .error failure (MultipleControlGroup.releaseAll kernel order cgroup last) :=
        bind_eq_error.mpr (.inl (unwinding_eq_error.mpr ⟨last, called, rfl⟩))
      have refused := refines.thrown failure last called
      have released := release_all_transitions kernel order (transitions_sound sound refused.1)
      rw [raised]
      constructor
      · intro next after returned
        cases returned
      · intro other after thrown
        cases thrown
        exact ⟨acquired.united.steps.trans (refused.1.trans released), refused.2⟩
  | ok temporary last =>
      have steps := refines.returned temporary last called
      have sound' := transitions_sound sound steps
      rcases acquires.lands hierarchyInfo.id middle _ temporary last sound called with
        ⟨object, live, info, atPath⟩
      rw [transitions_instance acquired.united.steps, SystemInfo.by_hierarchy_id_eq_ok,
        found] at info
      have sameInfo : object.hierarchyInfo_ = hierarchyInfo := (Option.some.inj info).symm
      have dropped := temporary_dropped kernel sound' live
      rcases (transitions_sound sound' dropped).heldLive temporary
        (Multiset.mem_cons_self _ _) with ⟨final, finalLive⟩
      have same := held_persists sound' (transitions_persist sound' dropped) live finalLive
      rcases add_pointer_cases rehash cgroup live with ⟨added, counted, adds, outcome⟩
      have returns : MultipleControlGroup.acquireMember kernel order rehash acquire cgroup
          hierarchyInfo middle =
            MultipleControlGroup.unlessThrown kernel order added
              (release kernel temporary counted) := by
        unfold MultipleControlGroup.acquireMember
        rw [bind_of_ok (unwinding_eq_ok.mpr called), bind_of_ok adds]
        rfl
      have absent := acquired_absent acquired unvisited
      rw [← sameInfo] at absent
      rw [returns]
      cases outcome with
      | conflict present =>
          have impossible := Option.isSome_iff_exists.mp present
          rw [SingleControlGroup.hierarchyId, absent] at impossible
          rcases impossible with ⟨_, occupied⟩
          cases occupied
      | added notThere =>
          constructor
          · intro next after returned
            cases returned
            refine acquired_step originSound rehash acquired unvisited (steps.trans dropped)
              finalLive ?_ ?_ ?_
            · rw [identity_hierarchy_info same, sameInfo]
            · rw [identity_path same, atPath]
            · rw [identity_hierarchy same]
          · intro failure after thrown
            cases thrown

theorem acquire_all_cases {acquire : Nat → Call σ ObjectId} {path : Nat → ControlGroupPath}
    (acquires : Acquires kernel acquire path) (originSound : ClientSound origin)
    (listing order : HashOrder Nat) (rehash : Rehash ObjectId) :
    (∀ cgroup after,
      MultipleControlGroup.acquireAll kernel listing order rehash acquire origin.world =
        .ok cgroup after →
      Acquired kernel origin path cgroup
        (iterate listing origin.world.instance_.info.id2hierarchy_) after) ∧
    (∀ failure after,
      MultipleControlGroup.acquireAll kernel listing order rehash acquire origin.world =
        .error failure after →
      Transitions kernel origin ⟨after, origin.held⟩ ∧ External failure) := by
  have keyed := origin.world.instance_.keyed
  have distinct := iterate_map_nodup listing origin.world.instance_.info.id2hierarchy_
    HierarchyInfo.id keyed
  have listed : ∀ hierarchyInfo ∈ iterate listing origin.world.instance_.info.id2hierarchy_,
      origin.world.instance_.info.id2hierarchy_.lookup hierarchyInfo.id =
        some hierarchyInfo := by
    intro hierarchyInfo inside
    rcases (mem_iterate_iff listing _ hierarchyInfo).mp inside with ⟨id, found⟩
    rw [keyed id hierarchyInfo found]
    exact found
  generalize iterated : iterate listing origin.world.instance_.info.id2hierarchy_ = hierarchies
    at distinct listed
  have unvisited : ∀ before hierarchyInfo, before ++ [hierarchyInfo] <+: hierarchies →
      ∀ earlier ∈ before, earlier.id ≠ hierarchyInfo.id := by
    intro before hierarchyInfo whole earlier inside same
    have part := distinct.sublist (whole.sublist.map HierarchyInfo.id)
    rw [List.map_append] at part
    exact (List.nodup_append.mp part).2.2 earlier.id (List.mem_map_of_mem inside)
      hierarchyInfo.id (List.mem_singleton_self _) same
  have atMember : ∀ {cgroup before hierarchyInfo middle},
      Acquired kernel origin path cgroup before middle →
      before ++ [hierarchyInfo] <+: hierarchies → _ :=
    fun {cgroup before hierarchyInfo middle} acquired whole =>
      acquire_member_cases acquires originSound order rehash acquired
        (listed hierarchyInfo (whole.subset (List.mem_append_right _ (List.mem_singleton_self _))))
        (unvisited before hierarchyInfo whole)
  have initial : Acquired kernel origin path (MultipleControlGroup.empty ObjectId) []
      origin.world := by
    refine ⟨united_start origin, ?_, ?_⟩
    · intro hierarchyInfo inside
      cases inside
    · intro id member found
      cases found
  have loop := fold_cases
    (fun cgroup before middle => before <+: hierarchies →
      Acquired kernel origin path cgroup before middle)
    (fun cgroup before hierarchyInfo middle next finish invariant returned whole =>
      (atMember (invariant ((List.prefix_append before [hierarchyInfo]).trans whole)) whole).1
        next finish returned)
    (MultipleControlGroup.empty ObjectId) [] hierarchies origin.world fun _ => initial
  have unfolded : MultipleControlGroup.acquireAll kernel listing order rehash acquire
      origin.world =
        hierarchies.foldlM (MultipleControlGroup.acquireMember kernel order rehash acquire)
          (MultipleControlGroup.empty ObjectId) origin.world := by
    rw [← iterated]
    rfl
  rw [unfolded]
  constructor
  · intro cgroup after returned
    exact loop.1 cgroup after returned List.prefix_rfl
  · intro failure after thrown
    rcases loop.2 failure after thrown with
      ⟨done, hierarchyInfo, rest, cgroup, middle, split, invariant, failed⟩
    have whole : done ++ [hierarchyInfo] <+: hierarchies := by
      rw [split]
      exact ⟨rest, by simp⟩
    exact (atMember (invariant ((List.prefix_append done [hierarchyInfo]).trans whole)) whole).2
      failure after failed

end MultipleSession

end ContestSystem.Cgroup
