import ContestSystem.Cgroup.Construction

/-!
# Indivisible changes of the heap

A member function is a sequence of transitions: calls that only ask the
kernel, a pointer copied, an object registered below its parent, a pointer
dropped, an object destroyed. A dropped pointer turns into the pointer of the
destroyed object to its parent, so that `held` always accounts for every
pointer outside the heap. Objects never change what construction settled, and
therefore `held` alone determines the heap that transitions lead to.
-/

namespace ContestSystem.Cgroup

open ContestSystem.Lib.Forest
open SingleControlGroup Registry Construction

set_option autoImplicit false

variable {σ : Type}

/-- A world and the pointers that are held outside its heap. -/
structure Client (σ : Type) where
  world : World σ
  held : Multiset ObjectId

namespace World

def asked (world : World σ) (after : σ) : World σ := { world with kernel := after }

/-- The object enters the heap and the registry of its parent. -/
def adopt (world : World σ) (self : ObjectId) (name : Component) (child : SingleControlGroup) :
    World σ :=
  (world.insert child).modify self fun group =>
    { group with children_ := group.children_.insert name world.fresh }

end World

namespace Transition

def passed (group : SingleControlGroup) (held : Multiset ObjectId) : Multiset ObjectId :=
  match group.parent_ with
  | none => held
  | some parent => parent ::ₘ held

end Transition

open Transition

inductive Transition (kernel : Kernel σ) : Client σ → Client σ → Prop
  | asked (client : Client σ) (after : σ) (answered : Asked kernel client.world.kernel after) :
      Transition kernel client ⟨client.world.asked after, client.held⟩
  | retained (client : Client σ) (id : ObjectId) (group : SingleControlGroup)
      (live : client.world.objects id = some group) :
      Transition kernel client ⟨client.world.retain id, id ::ₘ client.held⟩
  | rooted (client : Client σ) (hierarchyId : Nat) (group : SingleControlGroup)
      (object : RootObject client.world.instance_ hierarchyId group) :
      Transition kernel client
        ⟨client.world.insert group, client.world.fresh ::ₘ client.held⟩
  | attached (client : Client σ) (self : ObjectId) (above : SingleControlGroup)
      (name : Component) (live : client.world.objects self = some above)
      (ordinary : name.IsOrdinary) (unregistered : above.children_.lookup name = none) :
      Transition kernel client
        ⟨client.world.adopt self name (childOf .attached self above name),
          client.world.fresh ::ₘ client.held⟩
  | created (client : Client σ) (self : ObjectId) (above : SingleControlGroup)
      (name : Component) (mode : Mode) (after : σ)
      (live : client.world.objects self = some above)
      (ordinary : name.IsOrdinary) (unregistered : above.children_.lookup name = none)
      (made : kernel.mkdir (childOf .created self above name).location_ mode
        client.world.kernel = .ok () after) :
      Transition kernel client
        ⟨(client.world.asked after).adopt self name (childOf .created self above name),
          client.world.fresh ::ₘ client.held⟩
  | yielded (client : Client σ) (id : ObjectId) (group : SingleControlGroup)
      (live : client.world.objects id = some group) (member : id ∈ client.held)
      (several : group.references ≠ 1) :
      Transition kernel client
        ⟨client.world.modify id fun group => { group with references := group.references - 1 },
          client.held.erase id⟩
  | destroyed (client : Client σ) (id : ObjectId) (group : SingleControlGroup)
      (live : client.world.objects id = some group) (member : id ∈ client.held)
      (last : group.references = 1) :
      Transition kernel client
        ⟨destroy kernel id group client.world, passed group (client.held.erase id)⟩

abbrev Transitions (kernel : Kernel σ) : Client σ → Client σ → Prop :=
  Relation.ReflTransGen (Transition kernel)

namespace Transition

abbrev ClientSound (client : Client σ) : Prop :=
  Sound client.world.objects client.world.fresh client.held

theorem modify_objects (world : World σ) (id : ObjectId)
    (change : SingleControlGroup → SingleControlGroup) {group : SingleControlGroup}
    (live : world.objects id = some group) :
    (world.modify id change).objects =
      Function.update world.objects id (some (change group)) := by
  simp [World.modify, live]

theorem modify_same (world : World σ) (id : ObjectId) {group : SingleControlGroup}
    (live : world.objects id = some group)
    {change : SingleControlGroup → SingleControlGroup} (same : change group = group) :
    world.modify id change = world := by
  have objects : Function.update world.objects id (some group) = world.objects := by
    rw [← live, Function.update_eq_self]
  simp [World.modify, live, same, objects]

theorem adopt_objects (world : World σ) (name : Component) {self : ObjectId}
    {above child : SingleControlGroup} (live : world.objects self = some above)
    (parentAt : child.parent_ = some self) (selfOld : self ≠ world.fresh) (other : ObjectId) :
    (world.adopt self name child).objects other =
      if other = self then
        some { above with
          references := above.references + 1
          children_ := above.children_.insert name world.fresh }
      else if other = world.fresh then some { child with references := 1 }
      else world.objects other := by
  simp only [World.adopt, World.insert, World.modify, World.retain, parentAt,
    Function.update_apply, live]
  by_cases isSelf : other = self
  · subst isSelf
    simp [selfOld]
  · by_cases isFresh : other = world.fresh <;> simp [isSelf, isFresh, selfOld.symm]

@[simp] theorem adopt_fresh (world : World σ) (self : ObjectId) (name : Component)
    (child : SingleControlGroup) : (world.adopt self name child).fresh = world.fresh + 1 := by
  simp only [World.adopt, World.insert, World.modify]

theorem destroy_objects (kernel : Kernel σ) (id : ObjectId) (group : SingleControlGroup)
    (world : World σ) :
    (destroy kernel id group world).objects =
      Function.update (destroyBase group world).objects id none := by
  cases kind : group.kind with
  | attached => simp only [destroy, kind]
  | created =>
      simp only [destroy, kind, removeDirectory, destroyBase]
      split <;> split <;> rfl

@[simp] theorem destroy_fresh (kernel : Kernel σ) (id : ObjectId) (group : SingleControlGroup)
    (world : World σ) : (destroy kernel id group world).fresh = world.fresh := by
  cases kind : group.kind with
  | attached =>
      simp only [destroy, kind, destroyBase]
      split <;> rfl
  | created =>
      simp only [destroy, kind, removeDirectory, destroyBase]
      split <;> split <;> rfl

theorem destroy_base_same (group : SingleControlGroup) (world : World σ) :
    (destroyBase group world).kernel = world.kernel ∧
      (destroyBase group world).journal = world.journal := by
  unfold destroyBase
  split <;> exact ⟨rfl, rfl⟩

theorem destroy_attached_kernel (kernel : Kernel σ) (id : ObjectId) {group : SingleControlGroup}
    (world : World σ) (attached : group.kind = .attached) :
    (destroy kernel id group world).kernel = world.kernel := by
  simp only [destroy, attached]
  exact (destroy_base_same group world).1

theorem destroy_attached_journal (kernel : Kernel σ) (id : ObjectId)
    {group : SingleControlGroup} (world : World σ) (attached : group.kind = .attached) :
    (destroy kernel id group world).journal = world.journal := by
  simp only [destroy, attached]
  exact (destroy_base_same group world).2

def removal (kernel : Kernel σ) (location : Location) (state : σ) : Except Errno Bool × σ :=
  match kernel.remove location state with
  | .ok removed after => (.ok removed, after)
  | .error code after => (.error code, after)

theorem removal_ok {kernel : Kernel σ} {location : Location} {state after : σ} {removed : Bool}
    (answered : kernel.remove location state = .ok removed after) :
    removal kernel location state = (.ok removed, after) := by
  simp only [removal, answered]

/-- The journal gets the answer that the kernel gives to the destructor. -/
theorem destroy_created (kernel : Kernel σ) (id : ObjectId) {group : SingleControlGroup}
    (world : World σ) (created : group.kind = .created) :
    let outcome := removal kernel group.location_ world.kernel
    (destroy kernel id group world).kernel = outcome.2 ∧
      (destroy kernel id group world).journal =
        .removal id group.location_ outcome.1 :: world.journal := by
  cases answered : kernel.remove group.location_ world.kernel <;>
    simp [destroy, created, destroy_base_same, removeDirectory, removal, answered]

variable {kernel : Kernel σ} {client next : Client σ}

theorem retained_sound (sound : ClientSound client) {id : ObjectId}
    {group : SingleControlGroup} (live : client.world.objects id = some group) :
    ClientSound ⟨client.world.retain id, id ::ₘ client.held⟩ := by
  have counted := sound.counted id group live
  have objects := modify_objects client.world id
    (fun group => { group with references := group.references + 1 }) live
  show Sound (client.world.retain id).objects _ _
  rw [World.retain, objects]
  refine sound_recount sound live ?_ (Nat.succ_pos _) ?_
  · rw [Multiset.count_cons_self]
    omega
  · intro other different
    exact Multiset.count_cons_of_ne different _

theorem yielded_sound (sound : ClientSound client) {id : ObjectId}
    {group : SingleControlGroup} (live : client.world.objects id = some group)
    (member : id ∈ client.held) (several : group.references ≠ 1) :
    ClientSound
      ⟨client.world.modify id fun group => { group with references := group.references - 1 },
        client.held.erase id⟩ := by
  have counted := sound.counted id group live
  have positive := sound.positive id group live
  have once : 0 < client.held.count id := Multiset.count_pos.mpr member
  have objects := modify_objects client.world id
    (fun group => { group with references := group.references - 1 }) live
  show Sound (client.world.modify id _).objects _ _
  rw [objects]
  refine sound_recount sound live ?_ (by omega) ?_
  · rw [Multiset.count_erase_self]
    omega
  · intro other different
    exact Multiset.count_erase_of_ne different _

theorem rooted_sound (sound : ClientSound client) {hierarchyId : Nat}
    {group : SingleControlGroup}
    (object : RootObject client.world.instance_ hierarchyId group) :
    ClientSound ⟨client.world.insert group, client.world.fresh ::ₘ client.held⟩ := by
  have inserted : (client.world.insert group).objects =
      Function.update client.world.objects client.world.fresh
        (some { group with references := 1 }) := by
    simp only [World.insert, object.parent]
  show Sound (client.world.insert group).objects (client.world.fresh + 1) _
  rw [inserted]
  exact sound_insert_root sound (wired_recount object.wired 1) object.parent
    object.controlGroup object.children rfl

theorem adopted_sound (sound : ClientSound client) {self : ObjectId}
    {above : SingleControlGroup} {name : Component}
    (live : client.world.objects self = some above) (ordinary : name.IsOrdinary)
    (unregistered : above.children_.lookup name = none) (kind : Kind) :
    ClientSound ⟨client.world.adopt self name (childOf kind self above name),
      client.world.fresh ::ₘ client.held⟩ := by
  have selfOld : self ≠ client.world.fresh := Nat.ne_of_lt (sound.bounded self above live)
  have objects : ∀ other, (client.world.adopt self name (childOf kind self above name)).objects
      other = _ := adopt_objects client.world name live rfl selfOld
  show Sound (client.world.adopt self name _).objects (client.world.adopt self name _).fresh _
  rw [adopt_fresh]
  have wired := wired_recount (wired_child (sound.wired self above live) kind self ordinary) 1
  have adoption : Adoption client.world.objects
      (client.world.adopt self name (childOf kind self above name)).objects client.world.fresh
      self above { childOf kind self above name with references := 1 } name := by
    constructor
    · exact live
    · exact unregistered
    · exact ⟨rfl, rfl, rfl⟩
    · rfl
    · rfl
    · rw [objects, if_neg selfOld.symm, if_pos rfl]
    · rw [objects, if_pos rfl]
    · intro other notFresh notSelf
      rw [objects, if_neg notSelf, if_neg notFresh]
  exact sound_adopt sound adoption wired rfl

theorem destroyed_sound (sound : ClientSound client) {id : ObjectId}
    {group : SingleControlGroup} (live : client.world.objects id = some group)
    (member : id ∈ client.held) (last : group.references = 1) :
    ClientSound ⟨destroy kernel id group client.world,
      passed group (client.held.erase id)⟩ := by
  show Sound (destroy kernel id group client.world).objects
    (destroy kernel id group client.world).fresh _
  rw [destroy_fresh, destroy_objects]
  cases parentAt : group.parent_ with
  | none =>
      simp only [destroyBase, passed, parentAt]
      exact sound_destroy_root sound live member last parentAt
  | some parent =>
      obtain ⟨older, above, name, aboveLive, extends_, listed⟩ :=
        sound.linked id group parent live parentAt
      have parentOther : parent ≠ id := Nat.ne_of_lt older
      simp only [destroyBase, passed, parentAt, extends_filename extends_]
      rw [modify_objects client.world parent _ aboveLive]
      have removal : Removal client.world.objects
          (Function.update (Function.update client.world.objects parent
            (some { above with children_ := above.children_.erase name })) id none)
          id parent group above name := by
        constructor
        · exact live
        · exact parentAt
        · exact aboveLive
        · exact listed
        · exact Function.update_self _ _ _
        · rw [Function.update_of_ne parentOther, Function.update_self]
        · intro other notSelf notParent
          rw [Function.update_of_ne notSelf, Function.update_of_ne notParent]
      exact sound_destroy_child sound removal member last

theorem transition_sound (sound : ClientSound client)
    (step : Transition kernel client next) : ClientSound next := by
  cases step with
  | asked after answered => exact sound
  | retained id group live => exact retained_sound sound live
  | rooted hierarchyId group object => exact rooted_sound sound object
  | attached self above name live ordinary unregistered =>
      exact adopted_sound sound live ordinary unregistered .attached
  | created self above name mode after live ordinary unregistered made =>
      have asked : ClientSound ⟨client.world.asked after, client.held⟩ := sound
      exact adopted_sound asked live ordinary unregistered .created
  | yielded id group live member several => exact yielded_sound sound live member several
  | destroyed id group live member last => exact destroyed_sound sound live member last

theorem transitions_sound (sound : ClientSound client)
    (steps : Transitions kernel client next) : ClientSound next := by
  induction steps with
  | refl => exact sound
  | tail _ step ih => exact transition_sound ih step

end Transition

end ContestSystem.Cgroup
