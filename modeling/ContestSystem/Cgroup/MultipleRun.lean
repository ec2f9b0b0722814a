import ContestSystem.Cgroup.MultipleSession

/-!
# Runs of sessions

Whatever a session does, and whatever the rest of the system does in between,
the objects that are alive are those that its single pointers and its maps
keep alive, every member of a map stands under the id of its own hierarchy,
and a directory the session created is removed once, when the last of these
pointers at or below it goes.
-/

namespace ContestSystem.Cgroup.MultipleRun

open ContestSystem.Lib.Forest ContestSystem.Lib.Run ContestSystem.Lib.Throwing
open ContestSystem.Lib.Unordered
open SingleControlGroup Registry Construction Transition Population Members Refinement Trees
open ClientRun Lifetime CreateRollback MultipleMembers MultipleSession FieldPathCache

set_option autoImplicit false

variable {σ : Type}

/-- The iteration orders of the unordered maps. One `rehash` serves a whole run: maps with
the same entries in the same order are rearranged alike, whatever buckets they had before. -/
structure Orders where
  listing : HashOrder Nat
  order : HashOrder Nat
  rehash : Rehash ObjectId

structure Session (σ : Type) where
  world : World σ
  held : Multiset ObjectId
  groups : List (MultipleControlGroup ObjectId)

def mapped (groups : List (MultipleControlGroup ObjectId)) : Multiset ObjectId :=
  (groups.map pointers).sum

def Session.client (session : Session σ) : Client σ :=
  ⟨session.world, mapped session.groups + session.held⟩

/-- Maps are named by their position; `single` is a call on a single pointer. -/
inductive Action (σ : Type)
  | single (action : ClientRun.Action σ)
  | unite (cgroups : List ObjectId)
  | root
  | attach (controlGroup : BoostPath)
  | add (self : Nat) (cgroup : ObjectId)
  | replace (self : Nat) (cgroup : ObjectId)
  | remove (self : Nat) (hierarchyId : Nat)
  | find (self : Nat) (hierarchyId : Nat)
  | attachChild (self : Nat) (childControlGroup : BoostPath)
  | createChild (self : Nat) (childControlGroup : BoostPath) (mode : Mode)
  | parent (self : Nat)
  | drop (self : Nat)

def FromOutside : Action σ → Prop
  | .single (.refresh _) => True
  | .single (.outside _) => True
  | _ => False

namespace Session

variable (kernel : Kernel σ) (orders : Orders) (session : Session σ)

/-- The iteration order of a returned map is that of its insertions. -/
def keep (child : MultipleControlGroup ObjectId) (after : World σ) : Session σ :=
  { session with
    world := after
    groups := session.groups ++
      [{ child with id2cgroup_ := orders.rehash.arrange child.id2cgroup_ }] }

def settle : EStateM.Result Failure (World σ) (MultipleControlGroup ObjectId) → Session σ
  | .ok child after => session.keep orders child after
  | .error _ after => { session with world := after }

def settleParent :
    EStateM.Result Failure (World σ) (Option (MultipleControlGroup ObjectId)) → Session σ
  | .ok (some above) after => session.keep orders above after
  | .ok none after => { session with world := after }
  | .error _ after => { session with world := after }

/-- The map `self` after `add`. -/
def settleAdded (self : Nat) :
    EStateM.Result Failure (World σ)
      (EStateM.Result Failure (MultipleControlGroup ObjectId) Unit) → Session σ
  | .ok (.ok _ next) after =>
      { session with world := after, groups := session.groups.set self next }
  | .ok (.error _ next) after =>
      { session with world := after, groups := session.groups.set self next }
  | .error _ after => { session with world := after }

/-- The map `self` after `remove` or `replace`, which hand their pointer to the caller. -/
def settleTaken (self : Nat) (after : World σ) :
    EStateM.Result Failure (MultipleControlGroup ObjectId) ObjectId → Session σ
  | .ok ret next =>
      { world := after, held := ret ::ₘ session.held, groups := session.groups.set self next }
  | .error _ next => { session with groups := session.groups.set self next }

/-- `replace` copies the pointer into the map and moves the old one out of it. -/
def replace (self : Nat) (group : MultipleControlGroup ObjectId) (cgroup : ObjectId) : Session σ :=
  match session.world.objects cgroup with
  | none => session
  | some object =>
      session.settleTaken self (session.world.retain cgroup)
        (MultipleControlGroup.replace (fun _ => object.hierarchyId) cgroup group)

def find (group : MultipleControlGroup ObjectId) (hierarchyId : Nat) : Session σ :=
  match MultipleControlGroup.find hierarchyId group with
  | .ok (some ret) _ =>
      { session with world := session.world.retain ret, held := ret ::ₘ session.held }
  | _ => session

/-- Only held pointers and existing maps can be used. -/
def step : Action σ → Option (Session σ)
  | .single action =>
      (ClientRun.step kernel ⟨session.world, session.held⟩ action).map fun next =>
        { session with world := next.world, held := next.held }
  | .unite cgroups =>
      if ∀ pointer ∈ cgroups, pointer ∈ session.held then
        some (session.settle orders
          (MultipleControlGroup.unite kernel orders.order orders.rehash cgroups session.world))
      else none
  | .root =>
      some (session.settle orders
        (MultipleControlGroup.root kernel orders.listing orders.order orders.rehash session.world))
  | .attach controlGroup =>
      some (session.settle orders
        (MultipleControlGroup.attach kernel orders.listing orders.order orders.rehash controlGroup
          session.world))
  | .add self cgroup =>
      if cgroup ∈ session.held then
        session.groups[self]?.map fun group =>
          session.settleAdded self
            (MultipleControlGroup.addPointer orders.rehash group cgroup session.world)
      else none
  | .replace self cgroup =>
      if cgroup ∈ session.held then
        session.groups[self]?.map fun group => session.replace self group cgroup
      else none
  | .remove self hierarchyId =>
      session.groups[self]?.map fun group =>
        session.settleTaken self session.world (MultipleControlGroup.remove hierarchyId group)
  | .find self hierarchyId => session.groups[self]?.map fun group => session.find group hierarchyId
  | .attachChild self childControlGroup =>
      session.groups[self]?.map fun group =>
        session.settle orders
          (MultipleControlGroup.attachChild kernel orders.order group childControlGroup
            session.world)
  | .createChild self childControlGroup mode =>
      session.groups[self]?.map fun group =>
        session.settle orders
          (MultipleControlGroup.createChild kernel orders.order group childControlGroup mode
            session.world)
  | .parent self =>
      session.groups[self]?.map fun group =>
        session.settleParent orders
          (MultipleControlGroup.parent kernel orders.order group session.world)
  | .drop self =>
      session.groups[self]?.map fun group =>
        { session with
          world := MultipleControlGroup.releaseAll kernel orders.order group session.world
          groups := session.groups.eraseIdx self }

end Session

def begin (instance_ : SystemInfoPointer) (state : σ) : Session σ :=
  { world := (start instance_ state).world, held := 0, groups := [] }

section Pointers

variable {groups : List (MultipleControlGroup ObjectId)}
  {group next : MultipleControlGroup ObjectId}

theorem mapped_append (groups : List (MultipleControlGroup ObjectId))
    (child : MultipleControlGroup ObjectId) :
    mapped (groups ++ [child]) = pointers child + mapped groups := by
  simp only [mapped, List.map_append, List.map_cons, List.map_nil, List.sum_append,
    List.sum_singleton]
  exact add_comm _ _

theorem mapped_erase {self : Nat} (found : groups[self]? = some group) :
    mapped groups = pointers group + mapped (groups.eraseIdx self) := by
  induction groups generalizing self with
  | nil => cases found
  | cons first groups ih =>
      cases self with
      | zero =>
          cases found
          simp [mapped]
      | succ self =>
          have rest : mapped groups = pointers group + mapped (groups.eraseIdx self) := ih found
          simp only [mapped, List.map_cons, List.sum_cons, List.eraseIdx_cons_succ] at rest ⊢
          rw [rest]
          exact add_left_comm _ _ _

theorem mapped_set {self : Nat} (found : groups[self]? = some group) :
    mapped (groups.set self next) = pointers next + mapped (groups.eraseIdx self) := by
  have bound : self < groups.length := (List.getElem?_eq_some_iff.mp found).1
  have replaced : (groups.set self next)[self]? = some next := by
    rw [List.getElem?_set_self bound]
  rw [mapped_erase replaced, List.eraseIdx_set_eq]

theorem mem_mapped_iff (groups : List (MultipleControlGroup ObjectId)) (member : ObjectId) :
    member ∈ mapped groups ↔ ∃ group ∈ groups, member ∈ pointers group := by
  induction groups with
  | nil => simp [mapped]
  | cons first groups ih =>
      have split : mapped (first :: groups) = pointers first + mapped groups := rfl
      rw [split, Multiset.mem_add, ih, List.exists_mem_cons_iff]

theorem pointers_le_mapped (inside : group ∈ groups) {member : ObjectId}
    (listed : member ∈ pointers group) : member ∈ mapped groups :=
  (mem_mapped_iff groups member).mpr ⟨group, inside, listed⟩

theorem pointers_arranged (rehash : Rehash ObjectId) (child : MultipleControlGroup ObjectId) :
    pointers { child with id2cgroup_ := rehash.arrange child.id2cgroup_ } = pointers child :=
  pointers_congr fun id => arrange_lookup rehash child.id2cgroup_ id

theorem keyed_arranged {objects : Heap} (rehash : Rehash ObjectId)
    {child : MultipleControlGroup ObjectId} (keyed : Keyed objects child) :
    Keyed objects { child with id2cgroup_ := rehash.arrange child.id2cgroup_ } := by
  intro id member object listed live
  rw [arrange_lookup] at listed
  exact keyed id member object listed live

end Pointers

structure SessionSound (session : Session σ) : Prop where
  sound : ClientSound session.client
  keyed : ∀ group ∈ session.groups, Keyed session.world.objects group

section Step

variable {kernel : Kernel σ} {session next : Session σ}

theorem members_held (sessionSound : SessionSound session)
    {group : MultipleControlGroup ObjectId} (inside : group ∈ session.groups) :
    MembersHeld session.client group := by
  constructor
  · intro id member listed
    exact Multiset.mem_add.mpr
      (.inl (pointers_le_mapped inside ((mem_pointers_iff group member).mpr ⟨id, listed⟩)))
  · exact sessionSound.keyed group inside

/-- Either the rest of the system acted or the session's pointers went through transitions. -/
structure Stepped (kernel : Kernel σ) (session next : Session σ) : Prop where
  moved : Unrelated session.client next.client ∨
    Transitions kernel session.client next.client
  keyed : ∀ group ∈ next.groups, Keyed next.world.objects group

theorem stepped_sound (sessionSound : SessionSound session)
    (stepped : Stepped kernel session next) : SessionSound next := by
  constructor
  · rcases stepped.moved with unrelated | steps
    · show Sound next.client.world.objects next.client.world.fresh next.client.held
      rw [unrelated.objects, unrelated.fresh, unrelated.held]
      exact sessionSound.sound
    · exact transitions_sound sessionSound.sound steps
  · exact stepped.keyed

theorem groups_keyed (sessionSound : SessionSound session) {after : Client σ}
    (steps : Transitions kernel session.client after) :
    ∀ group ∈ session.groups, Keyed after.world.objects group := by
  intro group inside
  apply keyed_carried sessionSound.sound (transitions_persist sessionSound.sound steps) _
    (sessionSound.keyed group inside)
  intro member listed
  exact Multiset.mem_add.mpr (.inl (pointers_le_mapped inside listed))

/-- A call: the session's pointers went through transitions. -/
structure Called (kernel : Kernel σ) (session next : Session σ) : Prop where
  steps : Transitions kernel session.client next.client
  keyed : ∀ group ∈ next.groups, Keyed next.world.objects group

theorem Called.stepped (called : Called kernel session next) : Stepped kernel session next :=
  ⟨.inr called.steps, called.keyed⟩

theorem thrown_called (sessionSound : SessionSound session) {after : World σ}
    (steps : Transitions kernel session.client ⟨after, session.client.held⟩) :
    Called kernel session { session with world := after } :=
  ⟨steps, groups_keyed sessionSound steps⟩

theorem kept_called (sessionSound : SessionSound session) (orders : Orders)
    {child : MultipleControlGroup ObjectId} {after : World σ}
    (steps : Transitions kernel session.client
      ⟨after, pointers child + session.client.held⟩)
    (keyed : Keyed after.objects child) :
    Called kernel session (session.keep orders child after) := by
  have sameHeld : (session.keep orders child after).client =
      ⟨after, pointers child + session.client.held⟩ := by
    simp only [Session.client, Session.keep, mapped_append, pointers_arranged, add_assoc]
  constructor
  · rw [sameHeld]
    exact steps
  · intro group inside
    rcases List.mem_append.mp inside with before | last
    · exact groups_keyed sessionSound steps group before
    · rw [List.mem_singleton.mp last]
      exact keyed_arranged orders.rehash keyed

theorem set_called (sessionSound : SessionSound session) {self : Nat}
    {group changed : MultipleControlGroup ObjectId} (found : session.groups[self]? = some group)
    {after : World σ} {held : Multiset ObjectId}
    (steps : Transitions kernel session.client
      ⟨after, pointers changed + (mapped (session.groups.eraseIdx self) + held)⟩)
    (keyed : Keyed after.objects changed) :
    Called kernel session
      { world := after, held := held, groups := session.groups.set self changed } := by
  constructor
  · have sameHeld : Session.client
        { world := after, held := held, groups := session.groups.set self changed } =
          ⟨after, pointers changed + (mapped (session.groups.eraseIdx self) + held)⟩ := by
      simp only [Session.client, mapped_set found, add_assoc]
    rw [sameHeld]
    exact steps
  · intro other inside
    rcases List.mem_or_eq_of_mem_set inside with before | same
    · exact groups_keyed sessionSound steps other before
    · rw [same]
      exact keyed

theorem single_framed {world : World σ} {held extra : Multiset ObjectId}
    {action : ClientRun.Action σ} {after : Client σ}
    (stepped : ClientRun.step kernel ⟨world, held⟩ action = some after) :
    ClientRun.step kernel ⟨world, extra + held⟩ action =
      some ⟨after.world, extra + after.held⟩ := by
  have settled : ∀ result : EStateM.Result Failure (World σ) ObjectId,
      ClientRun.settle (extra + held) result =
        ⟨(ClientRun.settle held result).world, extra + (ClientRun.settle held result).held⟩ := by
    intro result
    cases result with
    | ok id last => simp [ClientRun.settle]
    | error failure last => rfl
  have settledParent : ∀ result : EStateM.Result Failure (World σ) (Option ObjectId),
      ClientRun.settleParent (extra + held) result =
        ⟨(ClientRun.settleParent held result).world,
          extra + (ClientRun.settleParent held result).held⟩ := by
    intro result
    cases result with
    | ok id last => cases id <;> simp [ClientRun.settleParent]
    | error failure last => rfl
  have whenHeld : ∀ (self : ObjectId) (result : Client σ),
      (if self ∈ held then some result else none) = some after →
        self ∈ held ∧ self ∈ extra + held ∧ result = after := by
    intro self result found
    split at found
    next member =>
        exact ⟨member, Multiset.mem_add.mpr (.inr member), Option.some.inj found⟩
    next => cases found
  cases action with
  | refresh instance_ =>
      cases stepped
      rfl
  | outside state =>
      cases stepped
      rfl
  | root hierarchyId =>
      cases stepped
      exact congrArg some (settled _)
  | attach hierarchyId controlGroup =>
      cases stepped
      exact congrArg some (settled _)
  | attachChild self childControlGroup =>
      rcases whenHeld self _ stepped with ⟨_, member, same⟩
      rw [← same, ClientRun.step, if_pos member, settled]
  | createChild self childControlGroup mode =>
      rcases whenHeld self _ stepped with ⟨_, member, same⟩
      rw [← same, ClientRun.step, if_pos member, settled]
  | parent self =>
      rcases whenHeld self _ stepped with ⟨_, member, same⟩
      rw [← same, ClientRun.step, if_pos member, settledParent]
  | copy self =>
      rcases whenHeld self _ stepped with ⟨_, member, same⟩
      rw [← same, ClientRun.step, if_pos member, settled]
  | drop self =>
      rcases whenHeld self _ stepped with ⟨own, member, same⟩
      rw [← same, ClientRun.step, if_pos member, Multiset.erase_add_right_pos extra own]

theorem single_transitions {client after : Client σ} (sound : ClientSound client)
    {action : ClientRun.Action σ} (call : ¬FromOutside (.single action))
    (stepped : ClientRun.step kernel client action = some after) :
    Transitions kernel client after := by
  have whenHeld : ∀ (self : ObjectId) (result : Client σ),
      (if self ∈ client.held then some result else none) = some after →
        self ∈ client.held ∧ result = after := by
    intro self result found
    split at found
    next member => exact ⟨member, Option.some.inj found⟩
    next => cases found
  cases action with
  | refresh instance_ => exact absurd trivial call
  | outside state => exact absurd trivial call
  | root hierarchyId =>
      cases stepped
      exact settled_transitions (root_refines kernel client.world client.held hierarchyId)
  | attach hierarchyId controlGroup =>
      cases stepped
      exact settled_transitions (attach_refines sound hierarchyId controlGroup)
  | attachChild self childControlGroup =>
      rcases whenHeld self _ stepped with ⟨member, rfl⟩
      rcases sound.heldLive self member with ⟨group, live⟩
      exact settled_transitions (attach_child_refines sound live childControlGroup)
  | createChild self childControlGroup mode =>
      rcases whenHeld self _ stepped with ⟨member, rfl⟩
      rcases sound.heldLive self member with ⟨group, live⟩
      exact settled_transitions (create_child_refines sound live childControlGroup mode)
  | parent self =>
      rcases whenHeld self _ stepped with ⟨member, rfl⟩
      rcases sound.heldLive self member with ⟨group, live⟩
      exact parent_transitions sound live
  | copy self =>
      rcases whenHeld self _ stepped with ⟨member, rfl⟩
      rcases sound.heldLive self member with ⟨group, live⟩
      rw [pointer_eq live]
      exact .single (.retained client self group live)
  | drop self =>
      rcases whenHeld self _ stepped with ⟨member, rfl⟩
      exact release_transitions kernel sound member

theorem single_called (sessionSound : SessionSound session) {action : ClientRun.Action σ}
    (call : ¬FromOutside (.single action)) {after : Client σ}
    (stepped : ClientRun.step kernel ⟨session.world, session.held⟩ action = some after) :
    Called kernel session { session with world := after.world, held := after.held } := by
  have framed : ClientRun.step kernel session.client action =
      some ⟨after.world, mapped session.groups + after.held⟩ := single_framed stepped
  have steps := single_transitions sessionSound.sound call framed
  have keyed := groups_keyed sessionSound steps
  exact ⟨steps, keyed⟩

theorem settled_called (sessionSound : SessionSound session) (orders : Orders)
    {result : EStateM.Result Failure (World σ) (MultipleControlGroup ObjectId)}
    (returned : ∀ child after, result = .ok child after →
      Transitions kernel session.client ⟨after, pointers child + session.client.held⟩ ∧
        Keyed after.objects child)
    (thrown : ∀ failure after, result = .error failure after →
      Transitions kernel session.client ⟨after, session.client.held⟩) :
    Called kernel session (session.settle orders result) := by
  cases result with
  | ok child after =>
      have kept := returned child after rfl
      exact kept_called sessionSound orders kept.1 kept.2
  | error failure after => exact thrown_called sessionSound (thrown failure after rfl)

theorem acquired_called (sessionSound : SessionSound session) (orders : Orders)
    {acquire : Nat → Call σ ObjectId} {path : Nat → ControlGroupPath}
    (acquires : Acquires kernel acquire path) :
    Called kernel session (session.settle orders
      (MultipleControlGroup.acquireAll kernel orders.listing orders.order orders.rehash acquire
        session.world)) := by
  have cases := acquire_all_cases acquires sessionSound.sound orders.listing orders.order
    orders.rehash
  apply settled_called sessionSound orders
  · intro child after returned
    have acquired := cases.1 child after returned
    exact ⟨acquired.united.steps, acquired.united.keyed⟩
  · intro failure after thrown
    exact (cases.2 failure after thrown).1

theorem gathered_called (sessionSound : SessionSound session) (orders : Orders)
    {group : MultipleControlGroup ObjectId} (inside : group ∈ session.groups)
    {call : ObjectId → Call σ ObjectId} {target : ControlGroupPath → ControlGroupPath}
    (memberCall : MemberCall kernel call target) :
    Called kernel session (session.settle orders
      (group.id2cgroup_.entries.foldlM
        (MultipleControlGroup.gatherMember kernel orders.order call)
        (MultipleControlGroup.empty ObjectId) session.world)) := by
  have isHeld := members_held sessionSound inside
  have cases := gather_cases sessionSound.sound isHeld memberCall orders.order
  apply settled_called sessionSound orders
  · intro child after returned
    have gathered := cases.1 child after returned
    exact ⟨gathered.steps, gathered_keyed sessionSound.sound isHeld gathered⟩
  · intro failure after thrown
    exact (cases.2 failure after thrown).1

theorem parent_called (sessionSound : SessionSound session) (orders : Orders)
    {group : MultipleControlGroup ObjectId} (inside : group ∈ session.groups) :
    Called kernel session (session.settleParent orders
      (MultipleControlGroup.parent kernel orders.order group session.world)) := by
  have isHeld := members_held sessionSound inside
  rcases parent_members_cases sessionSound.sound isHeld orders.order [] group.id2cgroup_.entries
    (MultipleControlGroup.empty ObjectId) session.world rfl (gathered_start session.client)
    (fun _ absurdly => by cases absurdly) with ⟨result, after, returned, parents⟩
  have unfolded : MultipleControlGroup.parent kernel orders.order group session.world =
      .ok result after := returned
  rw [unfolded]
  cases parents with
  | null _ steps id_cgroup listed isRoot => exact thrown_called sessionSound steps
  | found child _ gathered below =>
      exact kept_called sessionSound orders gathered.steps
        (gathered_keyed sessionSound.sound isHeld gathered)

theorem pointers_uncached (group : MultipleControlGroup ObjectId) :
    pointers (uncached group) = pointers group := rfl

theorem client_split {self : Nat} {group : MultipleControlGroup ObjectId}
    (found : session.groups[self]? = some group) :
    session.client.held =
      pointers group + (mapped (session.groups.eraseIdx self) + session.held) := by
  rw [Session.client, mapped_erase found, add_assoc]

theorem uncached_called (sessionSound : SessionSound session) {self : Nat}
    {group : MultipleControlGroup ObjectId} (found : session.groups[self]? = some group) :
    Called kernel session
      { session with groups := session.groups.set self (uncached group) } := by
  apply set_called sessionSound found
  · rw [pointers_uncached, ← client_split found]
    exact .refl
  · exact sessionSound.keyed group (List.mem_of_getElem? found)

theorem added_called (sessionSound : SessionSound session) (orders : Orders) {self : Nat}
    {group : MultipleControlGroup ObjectId} (found : session.groups[self]? = some group)
    {cgroup : ObjectId} (isHeld : cgroup ∈ session.held) :
    Called kernel session (session.settleAdded self
      (MultipleControlGroup.addPointer orders.rehash group cgroup session.world)) := by
  have sound := sessionSound.sound
  rcases sound.heldLive cgroup (Multiset.mem_add.mpr (.inr isHeld)) with ⟨object, live⟩
  have live' : session.world.objects cgroup = some object := live
  rcases add_pointer_cases orders.rehash group live' with ⟨added, after, called, outcome⟩
  rw [called]
  cases outcome with
  | conflict present => exact uncached_called sessionSound found
  | added absent =>
      have step : Transition kernel session.client
          ⟨session.world.retain cgroup, cgroup ::ₘ session.client.held⟩ :=
        .retained session.client cgroup object live
      apply set_called sessionSound found
      · rw [pointers_added orders.rehash absent cgroup rfl, Multiset.cons_add,
          ← client_split found]
        exact .single step
      · have keyed := groups_keyed sessionSound (.single step) group (List.mem_of_getElem? found)
        exact keyed_added keyed orders.rehash (retain_live live') rfl

theorem keyed_replaced {objects : Heap} {group next : MultipleControlGroup ObjectId}
    (keyed : Keyed objects group) {cgroup : ObjectId} {object : SingleControlGroup}
    (live : objects cgroup = some object)
    (map : next.id2cgroup_ = group.id2cgroup_.replace object.hierarchyId cgroup) :
    Keyed objects next := by
  intro id member other listed otherLive
  rw [map, lookup_replace_eq] at listed
  split at listed
  next same =>
      rcases Option.map_eq_some_iff.mp listed with ⟨_, _, isMember⟩
      rw [← isMember] at otherLive
      rw [Option.some.inj (otherLive.symm.trans live), same]
  next => exact keyed id member other listed otherLive

theorem replaced_called (sessionSound : SessionSound session) {self : Nat}
    {group : MultipleControlGroup ObjectId} (found : session.groups[self]? = some group)
    {cgroup : ObjectId} (isHeld : cgroup ∈ session.held) :
    Called kernel session (session.replace self group cgroup) := by
  have sound := sessionSound.sound
  rcases sound.heldLive cgroup (Multiset.mem_add.mpr (.inr isHeld)) with ⟨object, live⟩
  have live' : session.world.objects cgroup = some object := live
  have equation : MultipleControlGroup.replace (fun _ : ObjectId => object.hierarchyId) cgroup
      group = _ := replace_eq cgroup group
  simp only [Session.replace, live', equation]
  cases present : group.id2cgroup_.lookup object.hierarchyId with
  | none => exact uncached_called sessionSound found
  | some ret =>
      have step : Transition kernel session.client
          ⟨session.world.retain cgroup, cgroup ::ₘ session.client.held⟩ :=
        .retained session.client cgroup object live
      apply set_called sessionSound found
      · let replaced : MultipleControlGroup ObjectId :=
          { id2cgroup_ := group.id2cgroup_.replace object.hierarchyId cgroup
            fieldName2path_ := ∅ }
        have swapped : cgroup ::ₘ pointers group = ret ::ₘ pointers replaced :=
          pointers_replaced present rfl
        rw [Multiset.add_cons, Multiset.add_cons, ← Multiset.cons_add, ← swapped,
          Multiset.cons_add, ← client_split found]
        exact .single step
      · have keyed := groups_keyed sessionSound (.single step) group (List.mem_of_getElem? found)
        exact keyed_replaced keyed (retain_live live') rfl

theorem removed_called (sessionSound : SessionSound session) {self : Nat}
    {group : MultipleControlGroup ObjectId} (found : session.groups[self]? = some group)
    (hierarchyId : Nat) :
    Called kernel session (session.settleTaken self session.world
      (MultipleControlGroup.remove hierarchyId group)) := by
  rw [remove_eq]
  cases present : group.id2cgroup_.lookup hierarchyId with
  | none => exact uncached_called sessionSound found
  | some ret =>
      let next : MultipleControlGroup ObjectId :=
        { id2cgroup_ := group.id2cgroup_.erase hierarchyId, fieldName2path_ := ∅ }
      have taken : pointers group = ret ::ₘ pointers next := pointers_erased present rfl
      apply set_called sessionSound found
      · rw [Multiset.add_cons, Multiset.add_cons, ← Multiset.cons_add, ← taken,
          ← client_split found]
        exact .refl
      · intro id member object listed live
        rw [lookup_erase_eq] at listed
        split at listed
        next => cases listed
        next =>
            exact sessionSound.keyed group (List.mem_of_getElem? found) id member object listed
              live

theorem found_called (sessionSound : SessionSound session) {self : Nat}
    {group : MultipleControlGroup ObjectId} (found : session.groups[self]? = some group)
    (hierarchyId : Nat) : Called kernel session (session.find group hierarchyId) := by
  have answer : MultipleControlGroup.find hierarchyId group =
      .ok (group.id2cgroup_.lookup hierarchyId) group := rfl
  rw [Session.find, answer]
  cases present : group.id2cgroup_.lookup hierarchyId with
  | none => exact ⟨.refl, sessionSound.keyed⟩
  | some ret =>
      have inside := List.mem_of_getElem? found
      rcases sessionSound.sound.heldLive ret
        ((members_held sessionSound inside).held _ _ present) with ⟨object, live⟩
      have steps : Transitions kernel session.client
          ⟨session.world.retain ret, ret ::ₘ session.client.held⟩ :=
        .single (.retained session.client ret object live)
      refine ⟨?_, groups_keyed sessionSound steps⟩
      have sameHeld : mapped session.groups + ret ::ₘ session.held =
          ret ::ₘ session.client.held := Multiset.add_cons ret _ _
      rw [← sameHeld] at steps
      exact steps

theorem dropped_called (sessionSound : SessionSound session) (order : HashOrder Nat)
    {self : Nat} {group : MultipleControlGroup ObjectId}
    (found : session.groups[self]? = some group) :
    Called kernel session
      { session with
        world := MultipleControlGroup.releaseAll kernel order group session.world
        groups := session.groups.eraseIdx self } := by
  have sound : ClientSound ⟨session.world,
      pointers group + (mapped (session.groups.eraseIdx self) + session.held)⟩ := by
    rw [← client_split found]
    exact sessionSound.sound
  have steps : Transitions kernel session.client
      ⟨MultipleControlGroup.releaseAll kernel order group session.world,
        mapped (session.groups.eraseIdx self) + session.held⟩ := by
    have released := release_all_transitions kernel order sound
    rw [← client_split found] at released
    exact released
  refine ⟨steps, ?_⟩
  intro other inside
  exact groups_keyed sessionSound steps other (List.mem_of_mem_eraseIdx inside)

theorem step_called (sessionSound : SessionSound session) (orders : Orders) {action : Action σ}
    (call : ¬FromOutside action) (stepped : session.step kernel orders action = some next) :
    Called kernel session next := by
  cases action with
  | single action =>
      rcases Option.map_eq_some_iff.mp stepped with ⟨after, single, same⟩
      rw [← same]
      exact single_called sessionSound call single
  | unite cgroups =>
      rw [Session.step] at stepped
      split at stepped
      next allHeld =>
          cases stepped
          have isHeld : ∀ pointer ∈ cgroups, pointer ∈ session.client.held :=
            fun pointer inside => Multiset.mem_add.mpr (.inr (allHeld pointer inside))
          have cases := unite_cases kernel sessionSound.sound orders.order orders.rehash isHeld
          apply settled_called sessionSound orders
          · intro child after returned
            exact ⟨(cases.1 child after returned).steps, (cases.1 child after returned).keyed⟩
          · intro failure after thrown
            exact (cases.2 failure after thrown).1
      next => cases stepped
  | root =>
      cases stepped
      exact acquired_called sessionSound orders (root_acquires kernel)
  | attach controlGroup =>
      cases stepped
      exact acquired_called sessionSound orders (attach_acquires kernel controlGroup)
  | add self cgroup =>
      rw [Session.step] at stepped
      split at stepped
      next isHeld =>
          rcases Option.map_eq_some_iff.mp stepped with ⟨group, found, same⟩
          rw [← same]
          exact added_called sessionSound orders found isHeld
      next => cases stepped
  | replace self cgroup =>
      rw [Session.step] at stepped
      split at stepped
      next isHeld =>
          rcases Option.map_eq_some_iff.mp stepped with ⟨group, found, same⟩
          rw [← same]
          exact replaced_called sessionSound found isHeld
      next => cases stepped
  | remove self hierarchyId =>
      rcases Option.map_eq_some_iff.mp stepped with ⟨group, found, same⟩
      rw [← same]
      exact removed_called sessionSound found hierarchyId
  | find self hierarchyId =>
      rcases Option.map_eq_some_iff.mp stepped with ⟨group, found, same⟩
      rw [← same]
      exact found_called sessionSound found hierarchyId
  | attachChild self childControlGroup =>
      rcases Option.map_eq_some_iff.mp stepped with ⟨group, found, same⟩
      rw [← same]
      exact gathered_called sessionSound orders (List.mem_of_getElem? found)
        (attach_child_member_call kernel childControlGroup)
  | createChild self childControlGroup mode =>
      rcases Option.map_eq_some_iff.mp stepped with ⟨group, found, same⟩
      rw [← same]
      exact gathered_called sessionSound orders (List.mem_of_getElem? found)
        (create_child_member_call kernel childControlGroup mode)
  | parent self =>
      rcases Option.map_eq_some_iff.mp stepped with ⟨group, found, same⟩
      rw [← same]
      exact parent_called sessionSound orders (List.mem_of_getElem? found)
  | drop self =>
      rcases Option.map_eq_some_iff.mp stepped with ⟨group, found, same⟩
      rw [← same]
      exact dropped_called sessionSound orders.order found

theorem outside_unrelated {orders : Orders} {action : Action σ} (outside : FromOutside action)
    (stepped : session.step kernel orders action = some next) :
    Unrelated session.client next.client ∧ next.groups = session.groups ∧
      (next.world.kernel = session.world.kernel ∨
        action = .single (.outside next.world.kernel)) := by
  cases action with
  | single action =>
      cases action with
      | refresh instance_ =>
          cases stepped
          exact ⟨⟨rfl, rfl, rfl, rfl⟩, rfl, .inl rfl⟩
      | outside state =>
          cases stepped
          exact ⟨⟨rfl, rfl, rfl, rfl⟩, rfl, .inr rfl⟩
      | _ => cases outside
  | _ => cases outside

theorem step_stepped (sessionSound : SessionSound session) (orders : Orders) {action : Action σ}
    (stepped : session.step kernel orders action = some next) : Stepped kernel session next := by
  by_cases outside : FromOutside action
  · rcases outside_unrelated outside stepped with ⟨unrelated, sameGroups, _⟩
    refine ⟨.inl unrelated, ?_⟩
    have same : next.world.objects = session.world.objects := unrelated.objects
    rw [sameGroups, same]
    exact sessionSound.keyed
  · exact (step_called sessionSound orders outside stepped).stepped

theorem begin_sound (instance_ : SystemInfoPointer) (state : σ) :
    SessionSound (begin instance_ state) := by
  constructor
  · exact start_sound instance_ state
  · intro group inside
    cases inside

theorem run_sound {orders : Orders} {instance_ : SystemInfoPointer} {state : σ}
    {actions : List (Action σ)}
    (executed : run (Session.step kernel orders) (begin instance_ state) actions =
      some session) : SessionSound session := by
  apply run_invariant SessionSound _ (begin_sound instance_ state) executed
  intro session action next sessionSound stepped
  exact stepped_sound sessionSound (step_stepped sessionSound orders stepped)

theorem stepped_chronicle (sessionSound : SessionSound session)
    (chronicle : ClientChronicle session.client) (stepped : Stepped kernel session next) :
    ClientChronicle next.client := by
  rcases stepped.moved with unrelated | steps
  · show Chronicle next.client.world.objects next.client.world.fresh next.client.world.journal
    rw [unrelated.objects, unrelated.fresh, unrelated.journal]
    exact chronicle
  · exact transitions_chronicle sessionSound.sound chronicle steps

theorem run_chronicle {orders : Orders} {instance_ : SystemInfoPointer} {state : σ}
    {actions : List (Action σ)}
    (executed : run (Session.step kernel orders) (begin instance_ state) actions =
      some session) : ClientChronicle session.client := by
  have kept := run_invariant
    (fun session => SessionSound session ∧ ClientChronicle session.client) ?_ ?_ executed
  · exact kept.2
  · intro session action next ⟨sessionSound, chronicle⟩ taken
    have stepped := step_stepped sessionSound orders taken
    exact ⟨stepped_sound sessionSound stepped,
      stepped_chronicle sessionSound chronicle stepped⟩
  · exact ⟨begin_sound instance_ state, chronicle_start instance_ state⟩

end Step

section Runs

variable {session : Session σ}

/-- The session itself or one of its maps points to the object. -/
def Session.PointsTo (session : Session σ) (low : ObjectId) : Prop :=
  low ∈ session.held ∨
    ∃ group ∈ session.groups, ∃ id, group.id2cgroup_.lookup id = some low

theorem client_holds_iff (session : Session σ) (low : ObjectId) :
    low ∈ session.client.held ↔ session.PointsTo low := by
  simp only [Session.client, Multiset.mem_add, mem_mapped_iff, mem_pointers_iff,
    Session.PointsTo]
  exact or_comm

/-- The heap is what the session's pointers make of it. -/
structure SessionExact (session : Session σ) : Prop where
  alive : ∀ id, Alive session.world.objects id ↔
    ∃ low, session.PointsTo low ∧ AtOrBelow (parentOf session.world.objects) low id
  counted : ∀ id object, session.world.objects id = some object →
    object.references = session.held.count id + (mapped session.groups).count id +
      object.children_.keys.card
  keyed : ∀ group ∈ session.groups, ∀ id member, group.id2cgroup_.lookup id = some member →
    ∃ object, session.world.objects member = some object ∧ object.hierarchyId = id
  registry : RegistryExact session.world.objects

theorem session_exact_of_sound (sessionSound : SessionSound session) : SessionExact session := by
  have sound := sessionSound.sound
  constructor
  · intro id
    have population := alive_iff_held sound id
    simp only [client_holds_iff] at population
    exact population
  · intro id object live
    have counted := sound.counted id object live
    rw [Session.client, Multiset.count_add] at counted
    omega
  · intro group inside id member listed
    rcases sound.heldLive member ((members_held sessionSound inside).held id member listed) with
      ⟨object, live⟩
    exact ⟨object, live, sessionSound.keyed group inside id member object listed live⟩
  · exact registry_exact_of_sound sound

end Runs

def insertionOrders : Orders :=
  { listing := insertionOrder, order := insertionOrder, rehash := Rehash.newestFirst ObjectId }

/-- "/jobs" is created in both hierarchies and its map loses a member; the second
attempt to create it throws, and its parents outlive the map of the roots. -/
def twoHierarchyRun : List (Action (List Group)) :=
  [.root, .createChild 0 (.relative [jobs]) 0o777, .createChild 0 (.relative [jobs]) 0o777,
    .remove 1 7, .parent 1, .drop 0]

end ContestSystem.Cgroup.MultipleRun
