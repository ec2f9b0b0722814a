import ContestSystem.Cgroup.Transition

/-!
# The objects that held pointers keep alive

The heap is a forest whose edges are the `parent_` pointers. An object is
alive exactly when a pointer to it or to one of its descendants is held. Since
transitions never change what identifies an object and never reuse its
address, two heaps on one run that are held by the same pointers are equal.
-/

namespace ContestSystem.Cgroup.Population

open ContestSystem.Lib.Forest
open SingleControlGroup Registry Construction Transition

set_option autoImplicit false

variable {σ : Type}

def Alive (objects : Heap) (id : ObjectId) : Prop := ∃ group, objects id = some group

def parentOf (objects : Heap) (id : ObjectId) : Option ObjectId :=
  (objects id).bind SingleControlGroup.parent_

def pathOf (objects : Heap) (id : ObjectId) : ControlGroupPath :=
  ((objects id).map SingleControlGroup.controlGroup_).getD []

section Lookups

variable {objects : Heap} {id : ObjectId} {group : SingleControlGroup}

theorem parent_of_live (live : objects id = some group) :
    parentOf objects id = group.parent_ := by
  simp [parentOf, live]

theorem path_of_live (live : objects id = some group) :
    pathOf objects id = group.controlGroup_ := by
  simp [pathOf, live]

theorem parent_of_eq_some {parent : ObjectId} :
    parentOf objects id = some parent ↔
      ∃ group, objects id = some group ∧ group.parent_ = some parent := by
  simp [parentOf, Option.bind_eq_some_iff]

end Lookups

section Sound

variable {objects : Heap} {fresh : ObjectId} {held : Multiset ObjectId}

theorem kept_of_sound (sound : Sound objects fresh held) :
    Kept (Alive objects) (parentOf objects) held (fun id => id) fresh := by
  constructor
  · exact sound.heldLive
  · intro id _ parent edge
    obtain ⟨group, live, parentAt⟩ := parent_of_eq_some.mp edge
    obtain ⟨_, above, _, aboveLive, _⟩ := sound.linked id group parent live parentAt
    exact ⟨above, aboveLive⟩
  · rintro id ⟨group, live⟩
    by_cases member : id ∈ held
    · exact .inl member
    · have counted := sound.counted id group live
      have positive := sound.positive id group live
      rw [Multiset.count_eq_zero_of_notMem member] at counted
      have nonempty : group.children_.keys.Nonempty := Finset.card_pos.mp (by omega)
      obtain ⟨name, key⟩ := nonempty
      obtain ⟨child, listed⟩ := Finmap.mem_iff.mp (Finmap.mem_keys.mp key)
      obtain ⟨below, belowLive, parentAt, _⟩ := sound.registered id group name child live listed
      exact .inr ⟨child, ⟨below, belowLive⟩, parent_of_eq_some.mpr ⟨below, belowLive, parentAt⟩⟩
  · intro id _ parent edge
    obtain ⟨group, live, parentAt⟩ := parent_of_eq_some.mp edge
    exact (sound.linked id group parent live parentAt).1
  · rintro id ⟨group, live⟩
    exact sound.bounded id group live

theorem labelled_of_sound (sound : Sound objects fresh held) :
    Labelled (Alive objects) (parentOf objects) (pathOf objects) := by
  constructor
  · rintro id ⟨group, live⟩ atTop
    rw [parent_of_live live] at atTop
    rw [path_of_live live]
    exact sound.top id group live atTop
  · intro id _ parent edge
    obtain ⟨group, live, parentAt⟩ := parent_of_eq_some.mp edge
    obtain ⟨_, above, name, aboveLive, extends_, _⟩ :=
      sound.linked id group parent live parentAt
    rw [path_of_live live, path_of_live aboveLive]
    exact ⟨⟨above, aboveLive⟩, name, extends_.controlGroup⟩
  · intro left right parent _ _ leftEdge rightEdge samePath
    obtain ⟨leftGroup, leftLive, leftParent⟩ := parent_of_eq_some.mp leftEdge
    obtain ⟨rightGroup, rightLive, rightParent⟩ := parent_of_eq_some.mp rightEdge
    obtain ⟨_, above, leftName, aboveLive, leftExtends, leftListed⟩ :=
      sound.linked left leftGroup parent leftLive leftParent
    obtain ⟨_, above', rightName, aboveLive', rightExtends, rightListed⟩ :=
      sound.linked right rightGroup parent rightLive rightParent
    obtain rfl := Option.some.inj (aboveLive.symm.trans aboveLive')
    rw [path_of_live leftLive, path_of_live rightLive, leftExtends.controlGroup,
      rightExtends.controlGroup] at samePath
    have sameName : leftName = rightName := by simpa using samePath
    subst sameName
    exact Option.some.inj (leftListed.symm.trans rightListed)

theorem alive_iff_held (sound : Sound objects fresh held) (id : ObjectId) :
    Alive objects id ↔ ∃ low ∈ held, AtOrBelow (parentOf objects) low id :=
  alive_iff_held_below (kept_of_sound sound) id

/-- Nothing is alive below an object whose last pointer is held. -/
theorem lowest_of_last_reference (sound : Sound objects fresh held) {id low : ObjectId}
    {group : SingleControlGroup} (live : objects id = some group) (member : id ∈ held)
    (last : group.references = 1) (isBelow : AtOrBelow (parentOf objects) low id) : low = id := by
  rcases Relation.ReflTransGen.cases_tail isBelow with same | ⟨child, _, edge⟩
  · exact same.symm
  · rcases parent_of_eq_some.mp edge with ⟨below, childLive, parentAt⟩
    exact absurd parentAt
      ((childless_of_last_reference sound live member last).2 child below childLive)

theorem modify_alive (world : World σ) (id : ObjectId)
    (change : SingleControlGroup → SingleControlGroup) {other : ObjectId}
    (alive : Alive world.objects other) : Alive (world.modify id change).objects other := by
  rcases alive with ⟨group, live⟩
  by_cases same : other = id
  · rw [same] at live ⊢
    exact ⟨change group, by simp [World.modify, live]⟩
  · exact ⟨group, by simp [World.modify, same, live]⟩

theorem destroy_alive (kernel : Kernel σ) (id : ObjectId) (group : SingleControlGroup)
    (world : World σ) {other : ObjectId} (different : other ≠ id)
    (alive : Alive world.objects other) : Alive (destroy kernel id group world).objects other := by
  have base : Alive (destroyBase group world).objects other := by
    unfold destroyBase
    split
    · exact modify_alive world _ _ alive
    · exact alive
  rcases base with ⟨new, newLive⟩
  refine ⟨new, ?_⟩
  rw [destroy_objects, Function.update_of_ne different]
  exact newLive

theorem adopt_adopted (world : World σ) (name : Component) {self : ObjectId}
    {above child : SingleControlGroup} (live : world.objects self = some above)
    (parentAt : child.parent_ = some self) (selfOld : self ≠ world.fresh) :
    (world.adopt self name child).objects world.fresh = some { child with references := 1 } := by
  rw [adopt_objects world name live parentAt selfOld, if_neg selfOld.symm, if_pos rfl]

theorem adopt_alive (world : World σ) (name : Component) {self : ObjectId}
    {above child : SingleControlGroup} (live : world.objects self = some above)
    (parentAt : child.parent_ = some self) (selfOld : self ≠ world.fresh) {id : ObjectId}
    (alive : Alive world.objects id) : Alive (world.adopt self name child).objects id := by
  rcases alive with ⟨group, groupLive⟩
  rw [Alive, adopt_objects world name live parentAt selfOld]
  split
  · exact ⟨_, rfl⟩
  · split
    · exact ⟨_, rfl⟩
    · exact ⟨group, groupLive⟩

end Sound

/-- Only the reference count and the registry of an object ever change. -/
def SameIdentity (old new : SingleControlGroup) : Prop :=
  new = { old with references := new.references, children_ := new.children_ }

theorem same_identity_refl (group : SingleControlGroup) : SameIdentity group group := rfl

theorem same_identity_trans {first second third : SingleControlGroup}
    (left : SameIdentity first second) (right : SameIdentity second third) :
    SameIdentity first third := by
  unfold SameIdentity at left right ⊢
  rw [right, left]

/-- Live objects of `next` with old addresses are those of `client`. -/
structure Persists (client next : Client σ) : Prop where
  later : client.world.fresh ≤ next.world.fresh
  old : ∀ id new, next.world.objects id = some new → id < client.world.fresh →
    ∃ group, client.world.objects id = some group ∧ SameIdentity group new

theorem persists_refl (client : Client σ) : Persists client client :=
  ⟨Nat.le_refl _, fun _ new live _ => ⟨new, live, same_identity_refl new⟩⟩

theorem persists_trans {first second third : Client σ} (left : Persists first second)
    (right : Persists second third) : Persists first third := by
  refine ⟨Nat.le_trans left.later right.later, ?_⟩
  intro id new live older
  obtain ⟨middle, middleLive, sameRight⟩ :=
    right.old id new live (Nat.lt_of_lt_of_le older left.later)
  obtain ⟨group, groupLive, sameLeft⟩ := left.old id middle middleLive older
  exact ⟨group, groupLive, same_identity_trans sameLeft sameRight⟩

theorem modify_identity (world : World σ) (id : ObjectId)
    {change : SingleControlGroup → SingleControlGroup}
    (identity : ∀ group, SameIdentity group (change group)) {other : ObjectId}
    {new : SingleControlGroup} (live : (world.modify id change).objects other = some new) :
    ∃ group, world.objects other = some group ∧ SameIdentity group new := by
  simp only [World.modify, Function.update_apply] at live
  split at live
  next same =>
      obtain ⟨group, groupLive, rfl⟩ := Option.map_eq_some_iff.mp live
      exact ⟨group, same ▸ groupLive, identity group⟩
  next => exact ⟨new, live, same_identity_refl new⟩

theorem destroy_identity (kernel : Kernel σ) {id : ObjectId} {group : SingleControlGroup}
    (world : World σ) {other : ObjectId} {new : SingleControlGroup}
    (live : (destroy kernel id group world).objects other = some new) :
    other ≠ id ∧ ∃ original, world.objects other = some original ∧
      SameIdentity original new := by
  rw [destroy_objects, Function.update_apply] at live
  split at live
  next => cases live
  next different =>
      refine ⟨different, ?_⟩
      unfold destroyBase at live
      split at live
      next =>
          refine modify_identity world _ ?_ live
          exact fun _ => rfl
      next => exact ⟨new, live, same_identity_refl new⟩

variable {kernel : Kernel σ} {client next : Client σ}

theorem adopt_persists (sound : ClientSound client) {self : ObjectId}
    {above child : SingleControlGroup} {name : Component} {held : Multiset ObjectId}
    (live : client.world.objects self = some above) (parentAt : child.parent_ = some self) :
    Persists client ⟨client.world.adopt self name child, held⟩ := by
  have selfOld : self ≠ client.world.fresh := Nat.ne_of_lt (sound.bounded self above live)
  refine ⟨by simp, ?_⟩
  intro id new newLive older
  simp only [adopt_objects client.world name live parentAt selfOld] at newLive
  split at newLive
  next same =>
      cases newLive
      exact ⟨above, same ▸ live, rfl⟩
  next =>
      rw [if_neg (Nat.ne_of_lt older)] at newLive
      exact ⟨new, newLive, same_identity_refl new⟩

theorem transition_persists (sound : ClientSound client)
    (step : Transition kernel client next) : Persists client next := by
  cases step with
  | asked after answered => exact ⟨Nat.le_refl _, (persists_refl client).old⟩
  | retained id group live =>
      refine ⟨Nat.le_refl _, fun other new newLive _ => ?_⟩
      refine modify_identity client.world id ?_ newLive
      exact fun _ => rfl
  | rooted hierarchyId group object =>
      refine ⟨Nat.le_succ _, ?_⟩
      intro id new newLive older
      simp only [World.insert, object.parent,
        Function.update_of_ne (Nat.ne_of_lt older)] at newLive
      exact ⟨new, newLive, same_identity_refl new⟩
  | attached self above name live ordinary unregistered =>
      exact adopt_persists sound live rfl
  | created self above name mode after live ordinary unregistered made =>
      have asked : ClientSound ⟨client.world.asked after, client.held⟩ := sound
      have persists : Persists ⟨client.world.asked after, client.held⟩
          ⟨(client.world.asked after).adopt self name (childOf .created self above name),
            client.world.fresh ::ₘ client.held⟩ := adopt_persists asked live rfl
      exact ⟨persists.later, persists.old⟩
  | yielded id group live member several =>
      refine ⟨Nat.le_refl _, fun other new newLive _ => ?_⟩
      refine modify_identity client.world id ?_ newLive
      exact fun _ => rfl
  | destroyed id group live member last =>
      refine ⟨by simp, ?_⟩
      intro other new newLive _
      exact (destroy_identity kernel client.world newLive).2

theorem transitions_persist (sound : ClientSound client)
    (steps : Transitions kernel client next) : Persists client next := by
  induction steps with
  | refl => exact persists_refl client
  | tail steps step ih =>
      exact persists_trans ih (transition_persists (transitions_sound sound steps) step)

theorem identity_parent {old new : SingleControlGroup} (same : SameIdentity old new) :
    new.parent_ = old.parent_ := by
  rw [same]

theorem identity_path {old new : SingleControlGroup} (same : SameIdentity old new) :
    new.controlGroup_ = old.controlGroup_ := by
  rw [same]

theorem persists_agree (sound : ClientSound client) (persists : Persists client next)
    (id : ObjectId) (alive : Alive client.world.objects id)
    (alive' : Alive next.world.objects id) :
    parentOf client.world.objects id = parentOf next.world.objects id := by
  obtain ⟨group, live⟩ := alive
  obtain ⟨new, newLive⟩ := alive'
  obtain ⟨original, originally, same⟩ :=
    persists.old id new newLive (sound.bounded id group live)
  rw [parent_of_live originally, parent_of_live newLive, identity_parent same]

theorem alive_of_still_held (sound : ClientSound client) (sound' : ClientSound next)
    (persists : Persists client next)
    (survive : ∀ id ∈ client.held, Alive next.world.objects id) (id : ObjectId)
    (alive : Alive client.world.objects id) : Alive next.world.objects id :=
  alive_of_held_alive (kept_of_sound sound) (kept_of_sound sound')
    (persists_agree sound persists) survive id alive

theorem children_eq_of_same_alive {objects objects' : Heap} {fresh fresh' : ObjectId}
    {held held' : Multiset ObjectId} (sound : Sound objects fresh held)
    (sound' : Sound objects' fresh' held')
    (same : ∀ id, (∀ group, objects id = some group →
        ∃ new, objects' id = some new ∧ SameIdentity group new) ∧
      (∀ new, objects' id = some new → ∃ group, objects id = some group ∧
        SameIdentity group new))
    {id : ObjectId} {group new : SingleControlGroup} (live : objects id = some group)
    (newLive : objects' id = some new) : group.children_ = new.children_ := by
  apply Finmap.ext_lookup
  intro name
  apply Option.ext
  intro child
  rw [registered_iff sound live, registered_iff sound' newLive]
  constructor
  · rintro ⟨below, belowLive, parentAt, named⟩
    obtain ⟨below', belowLive', sameBelow⟩ := (same child).1 below belowLive
    refine ⟨below', belowLive', (identity_parent sameBelow).trans parentAt, ?_⟩
    rw [filename, identity_path sameBelow]
    exact named
  · rintro ⟨below', belowLive', parentAt, named⟩
    obtain ⟨below, belowLive, sameBelow⟩ := (same child).2 below' belowLive'
    refine ⟨below, belowLive, (identity_parent sameBelow).symm.trans parentAt, ?_⟩
    rw [filename, identity_path sameBelow] at named
    exact named

/-- On one run the same held pointers mean the same heap. -/
theorem objects_eq_of_same_held (sound : ClientSound client) (sound' : ClientSound next)
    (persists : Persists client next) (sameHeld : next.held = client.held) :
    next.world.objects = client.world.objects := by
  have kept' : Kept (Alive next.world.objects) (parentOf next.world.objects) client.held
      (fun id => id) next.world.fresh := sameHeld ▸ kept_of_sound sound'
  have aliveIff : ∀ id, Alive client.world.objects id ↔ Alive next.world.objects id :=
    alive_iff_of_same_held (kept_of_sound sound) kept' (persists_agree sound persists)
  have back : ∀ id new, next.world.objects id = some new →
      ∃ group, client.world.objects id = some group ∧ SameIdentity group new := by
    intro id new newLive
    obtain ⟨group, live⟩ := (aliveIff id).mpr ⟨new, newLive⟩
    exact persists.old id new newLive (sound.bounded id group live)
  have forth : ∀ id group, client.world.objects id = some group →
      ∃ new, next.world.objects id = some new ∧ SameIdentity group new := by
    intro id group live
    obtain ⟨new, newLive⟩ := (aliveIff id).mp ⟨group, live⟩
    obtain ⟨original, originally, same⟩ := back id new newLive
    obtain rfl := Option.some.inj (live.symm.trans originally)
    exact ⟨new, newLive, same⟩
  funext id
  cases live : client.world.objects id with
  | none =>
      cases newLive : next.world.objects id with
      | none => rfl
      | some new =>
          obtain ⟨group, live', _⟩ := back id new newLive
          rw [live] at live'
          cases live'
  | some group =>
      obtain ⟨new, newLive, same⟩ := forth id group live
      have children := children_eq_of_same_alive sound sound'
        (fun id => ⟨forth id, back id⟩) live newLive
      have references : new.references = group.references := by
        rw [sound.counted id group live, sound'.counted id new newLive, sameHeld, children]
      rw [newLive, same, references, ← children]

end ContestSystem.Cgroup.Population
