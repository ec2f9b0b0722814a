import ContestSystem.Cgroup.Population

/-!
# Member functions as transitions

In a sound heap every member function has an equation in terms of its kernel
calls, in which destructors of half-built objects no longer appear: erasing a
name that was never registered changes nothing, and destroying an object
before it is registered is destroying it right after. From the equations every
member function is a sequence of transitions, whether it returns or throws.
-/

namespace ContestSystem.Cgroup.Members

open ContestSystem.Lib.Throwing
open SingleControlGroup Registry Construction Transition Population

set_option autoImplicit false

variable {σ : Type}

theorem pointer_eq {world : World σ} {id : ObjectId} {group : SingleControlGroup}
    (live : world.objects id = some group) :
    pointer id world = .ok id (world.retain id) := by
  change EStateM.bind (deref id) _ world = _
  simp only [EStateM.bind, deref, live]
  rfl

theorem erase_absent {Value : Type} (children : Finmap fun _ : Component => Value)
    {name : Component} (absent : children.lookup name = none) :
    children.erase name = children := by
  apply Finmap.ext_lookup
  intro probe
  by_cases same : probe = name
  · rw [same, Finmap.lookup_erase, absent]
  · rw [Finmap.lookup_erase_ne same]

theorem erase_insert_absent {Value : Type} (children : Finmap fun _ : Component => Value)
    {name : Component} (value : Value) (absent : children.lookup name = none) :
    (children.insert name value).erase name = children := by
  apply Finmap.ext_lookup
  intro probe
  by_cases same : probe = name
  · rw [same, Finmap.lookup_erase, absent]
  · rw [Finmap.lookup_erase_ne same, Finmap.lookup_insert_of_ne _ same]

/-- The destructor of a base whose derived constructor threw changes nothing. -/
theorem destroy_base_unregistered (world : World σ) (kind : Kind) {self : ObjectId}
    {above : SingleControlGroup} {name : Component}
    (live : world.objects self = some above) (absent : above.children_.lookup name = none) :
    destroyBase (childOf kind self above name) world = world := by
  have named : (childOf kind self above name).filename = some name := by
    simp [filename, childOf]
  unfold destroyBase
  simp only [childOf] at named ⊢
  rw [named]
  exact modify_same world self live (by rw [erase_absent _ absent])

@[simp] theorem insert_kernel (world : World σ) (group : SingleControlGroup) :
    (world.insert group).kernel = world.kernel := by
  simp only [World.insert]
  split <;> rfl

theorem insert_parent {world : World σ} {self : ObjectId} {above : SingleControlGroup}
    (kind : Kind) (name : Component) (live : world.objects self = some above)
    (selfOld : self ≠ world.fresh) :
    (world.insert (childOf kind self above name)).objects self =
      some { above with references := above.references + 1 } := by
  simp only [World.insert, childOf, World.retain, World.modify, live, Option.map_some]
  rw [Function.update_of_ne selfOld, Function.update_self]

theorem emplace_inserted (world : World σ) (kind : Kind) {self : ObjectId}
    {above : SingleControlGroup} {name : Component} (live : world.objects self = some above)
    (selfOld : self ≠ world.fresh) (absent : above.children_.lookup name = none) (after : σ) :
    emplace self name world.fresh ((world.insert (childOf kind self above name)).asked after) =
      .ok () ((world.adopt self name (childOf kind self above name)).asked after) := by
  have parentLive : ((world.insert (childOf kind self above name)).asked after).objects self =
      some { above with references := above.references + 1 } :=
    insert_parent kind name live selfOld
  change EStateM.bind (deref self) _ _ = _
  simp only [EStateM.bind, deref, parentLive, absent]
  rfl

/-- An object destroyed before it is registered leaves what it would leave
when destroyed right after. -/
theorem destroy_unregistered (kernel : Kernel σ) (world : World σ) {self : ObjectId}
    {above : SingleControlGroup} {name : Component} (live : world.objects self = some above)
    (selfOld : self ≠ world.fresh)
    (absent : above.children_.lookup name = none) (after : σ) (group : SingleControlGroup)
    (parentAt : group.parent_ = some self) (named : group.filename = some name)
    (child : SingleControlGroup) (childParent : child.parent_ = some self) :
    destroy kernel world.fresh group ((world.insert child).asked after) =
      destroy kernel world.fresh group ((world.adopt self name child).asked after) := by
  have insertedObjects : ∀ other, other ≠ world.fresh →
      (world.insert child).objects other =
        if other = self then some { above with references := above.references + 1 }
        else world.objects other := by
    intro other notFresh
    simp only [World.insert, childParent, World.retain, World.modify, live, Option.map_some]
    rw [Function.update_of_ne notFresh, Function.update_apply]
  have objects : (destroy kernel world.fresh group ((world.insert child).asked after)).objects =
      (destroy kernel world.fresh group
        ((world.adopt self name child).asked after)).objects := by
    rw [destroy_objects, destroy_objects]
    funext other
    by_cases isFresh : other = world.fresh
    · rw [isFresh, Function.update_self, Function.update_self]
    · rw [Function.update_of_ne isFresh, Function.update_of_ne isFresh]
      simp only [destroyBase, parentAt, named, World.modify, World.asked,
        Function.update_apply, adopt_objects world name live childParent selfOld,
        insertedObjects other isFresh, insertedObjects self selfOld]
      by_cases isSelf : other = self
      · simp [isSelf, erase_absent _ absent, erase_insert_absent _ _ absent]
      · simp [isSelf, isFresh]
  cases kind : group.kind with
  | attached =>
      simp only [destroy, kind, destroyBase, parentAt, named] at objects ⊢
      rw [World.mk.injEq]
      exact ⟨objects, rfl, rfl, rfl, rfl⟩
  | created =>
      simp only [destroy, kind, removeDirectory, destroyBase, parentAt, named] at objects ⊢
      have sameKernel : ((world.insert child).asked after).kernel =
          ((world.adopt self name child).asked after).kernel := rfl
      rw [sameKernel] at objects ⊢
      split at objects
      all_goals
        rw [World.mk.injEq]
        exact ⟨objects, rfl, rfl, rfl, rfl⟩

theorem release_unregistered (kernel : Kernel σ) (world : World σ) (kind : Kind)
    {self : ObjectId} {above : SingleControlGroup} {name : Component}
    (live : world.objects self = some above) (selfOld : self ≠ world.fresh)
    (absent : above.children_.lookup name = none) (after : σ) :
    release kernel world.fresh ((world.insert (childOf kind self above name)).asked after) =
      release kernel world.fresh
        ((world.adopt self name (childOf kind self above name)).asked after) := by
  have inserted : ((world.insert (childOf kind self above name)).asked after).objects
      world.fresh = some { childOf kind self above name with references := 1 } :=
    Function.update_self _ _ _
  have adopted : ((world.adopt self name (childOf kind self above name)).asked after).objects
      world.fresh = some { childOf kind self above name with references := 1 } := by
    refine (adopt_objects world name live rfl selfOld world.fresh).trans ?_
    rw [if_neg selfOld.symm, if_pos rfl]
  have same := destroy_unregistered kernel world live selfOld absent after
    { childOf kind self above name with references := 1 } rfl (by simp [filename, childOf])
    (childOf kind self above name) rfl
  simp only [release, inserted, adopted, releaseUpTo, if_true, same]

/-- The kernel calls of `attachDirectChild`. -/
def openDirectory (kernel : Kernel σ) (self : ObjectId) (above : SingleControlGroup)
    (name : Component) : EStateM Failure σ Unit := do
  let child := childOf .attached self above name
  (checkStatus kernel child.location_).adaptExcept
    (Failure.inControlGroup above.hierarchyId (above.controlGroup_ ++ [name]) child.location_)
  attachedBody kernel above.hierarchyId child

/-- The kernel calls of `createDirectChild` up to the construction of the child. -/
def makeDirectory (kernel : Kernel σ) (self : ObjectId) (above : SingleControlGroup)
    (name : Component) (mode : Mode) : EStateM Failure σ Unit := do
  let child := childOf .created self above name
  (checkStatus kernel child.location_).adaptExcept
    (Failure.inControlGroup above.hierarchyId (above.controlGroup_ ++ [name]) child.location_)
  createdBody kernel above.hierarchyId mode child

section Equations

variable (kernel : Kernel σ) {world : World σ} {self : ObjectId} {above : SingleControlGroup}
  {name : Component}

theorem attach_direct_child_here (live : world.objects self = some above)
    (here : name.text = "" ∨ name.text = ".") :
    attachDirectChild kernel self name world = .ok self (world.retain self) := by
  change EStateM.bind (deref self) _ world = _
  simp only [EStateM.bind, deref, live, if_pos here]
  exact pointer_eq live

theorem attach_direct_child_known (live : world.objects self = some above)
    (ordinary : name.IsOrdinary) {child : ObjectId}
    (listed : above.children_.lookup name = some child) {below : SingleControlGroup}
    (childLive : world.objects child = some below) :
    attachDirectChild kernel self name world = .ok child (world.retain child) := by
  obtain ⟨notEmpty, notDot, notDots⟩ := ordinary
  change EStateM.bind (deref self) _ world = _
  simp only [EStateM.bind, deref, live, notEmpty, notDot, notDots, or_self, if_false, listed]
  exact pointer_eq childLive

theorem attach_direct_child_open (wired : Wired above) (live : world.objects self = some above)
    (selfOld : self ≠ world.fresh)
    (ordinary : name.IsOrdinary) (absent : above.children_.lookup name = none) :
    attachDirectChild kernel self name world =
      match openDirectory kernel self above name world.kernel with
      | .ok () after =>
          .ok world.fresh ((world.asked after).adopt self name (childOf .attached self above name))
      | .error failure after => .error failure (world.asked after) := by
  obtain ⟨notEmpty, notDot, notDots⟩ := ordinary
  change EStateM.bind (deref self) _ world = _
  simp only [EStateM.bind, deref, live, notEmpty, notDot, notDots, or_self, if_false, absent,
    construct_child wired]
  simp only [openDirectory, bind, EStateM.bind, consult]
  cases (checkStatus kernel (childOf .attached self above name).location_).adaptExcept
      (Failure.inControlGroup above.hierarchyId (above.controlGroup_ ++ [name])
        (childOf .attached self above name).location_) world.kernel with
  | error failure after => rfl
  | ok value after =>
      simp only [pure, EStateM.pure, unwinding, consult]
      cases attachedBody kernel above.hierarchyId (childOf .attached self above name) after with
      | error failure after =>
          exact congrArg (EStateM.Result.error failure)
            (destroy_base_unregistered (world.asked after) .attached live absent)
      | ok value after =>
          have emplaced : emplace self name world.fresh
              ((world.asked after).insert (childOf .attached self above name)) =
                .ok () ((world.asked after).adopt self name (childOf .attached self above name)) :=
            emplace_inserted (world.asked after) .attached live selfOld absent after
          simp only [World.asked] at emplaced ⊢
          simp only [get_apply, modify_apply, emplaced]

theorem create_direct_child_refused (live : world.objects self = some above)
    (refused : ¬name.IsOrdinary ∨ (above.children_.lookup name).isSome) (mode : Mode) :
    ∃ failure, External failure ∧
      createDirectChild kernel self name mode world = .error failure world := by
  change ∃ failure, External failure ∧ EStateM.bind (deref self) _ world = _
  simp only [EStateM.bind, deref, live]
  by_cases dots : name.text = "." ∨ name.text = ".."
  · rw [if_pos dots]
    exact ⟨_, by trivial, rfl⟩
  · rw [if_neg dots]
    by_cases empty : name.text = ""
    · rw [if_pos empty]
      exact ⟨_, by trivial, rfl⟩
    · rw [if_neg empty]
      rcases refused with notOrdinary | present
      · obtain ⟨notDot, notDots⟩ := not_or.mp dots
        exact absurd ⟨empty, notDot, notDots⟩ notOrdinary
      · rw [if_pos present]
        exact ⟨_, by trivial, rfl⟩

theorem attach_direct_child_up_root (live : world.objects self = some above)
    (up : name.text = "..") (atTop : above.parent_ = none) :
    attachDirectChild kernel self name world = .ok self (world.retain self) := by
  change EStateM.bind (deref self) _ world = _
  simp only [EStateM.bind, deref, live, up, atTop]
  exact pointer_eq live

theorem attach_direct_child_up (live : world.objects self = some above)
    (up : name.text = "..") {parent : ObjectId} (parentAt : above.parent_ = some parent)
    {upper : SingleControlGroup} (parentLive : world.objects parent = some upper) :
    attachDirectChild kernel self name world = .ok parent (world.retain parent) := by
  change EStateM.bind (deref self) _ world = _
  simp only [EStateM.bind, deref, live, up, parentAt]
  exact pointer_eq parentLive

theorem create_direct_child_make (wired : Wired above) (live : world.objects self = some above)
    (selfOld : self ≠ world.fresh) (ordinary : name.IsOrdinary)
    (absent : above.children_.lookup name = none) (mode : Mode) :
    createDirectChild kernel self name mode world =
      match makeDirectory kernel self above name mode world.kernel with
      | .error failure after => .error failure (world.asked after)
      | .ok () after =>
          let adopted :=
            (world.asked after).adopt self name (childOf .created self above name)
          match setUpCpuSet kernel world.instance_ (childOf .created self above name) after with
          | .ok () final => .ok world.fresh (adopted.asked final)
          | .error failure final =>
              .error failure (release kernel world.fresh (adopted.asked final)) := by
  obtain ⟨notEmpty, notDot, notDots⟩ := ordinary
  change EStateM.bind (deref self) _ world = _
  simp only [EStateM.bind, deref, live, notEmpty, notDot, notDots, or_self, if_false, absent,
    Option.isSome_none, Bool.false_eq_true, construct_child wired]
  simp only [makeDirectory, bind, EStateM.bind, consult]
  cases (checkStatus kernel (childOf .created self above name).location_).adaptExcept
      (Failure.inControlGroup above.hierarchyId (above.controlGroup_ ++ [name])
        (childOf .created self above name).location_) world.kernel with
  | error failure after => rfl
  | ok value after =>
      simp only [pure, EStateM.pure, unwinding, consult]
      cases createdBody kernel above.hierarchyId mode (childOf .created self above name)
          after with
      | error failure after =>
          exact congrArg (EStateM.Result.error failure)
            (destroy_base_unregistered (world.asked after) .created live absent)
      | ok value after =>
          simp only [get_apply, modify_apply, insert_kernel]
          cases setUpCpuSet kernel world.instance_ (childOf .created self above name) after with
          | error failure final =>
              have released := release_unregistered kernel (world.asked after) .created live
                selfOld absent final
              simp only [World.asked] at released ⊢
              rw [released]
          | ok value final =>
              have emplaced := emplace_inserted (world.asked after) .created live selfOld
                absent final
              simp only [World.asked] at emplaced ⊢
              rw [emplaced]

/-- `attachDirectChild` finds an object that is already there. -/
structure Finds (objects : Heap) (start : ObjectId) (above : SingleControlGroup)
    (name : Component) (id : ObjectId) (group : SingleControlGroup) : Prop where
  live : objects id = some group
  adjacent : id = start ∨ above.parent_ = some id ∨ group.parent_ = some start
  path : group.controlGroup_ = lexicalStep above.controlGroup_ name

theorem attach_direct_child_cases {held : Multiset ObjectId}
    (sound : ClientSound ⟨world, held⟩) (live : world.objects self = some above)
    (name : Component) :
    (∃ id group, Finds world.objects self above name id group ∧
      attachDirectChild kernel self name world = .ok id (world.retain id)) ∨
    (name.IsOrdinary ∧ above.children_.lookup name = none ∧
      attachDirectChild kernel self name world =
        match openDirectory kernel self above name world.kernel with
        | .ok () after =>
            .ok world.fresh
              ((world.asked after).adopt self name (childOf .attached self above name))
        | .error failure after => .error failure (world.asked after)) := by
  by_cases here : name.text = "" ∨ name.text = "."
  · have stays : lexicalStep above.controlGroup_ name = above.controlGroup_ := by
      rw [lexicalStep, if_pos here]
    exact .inl ⟨self, above, ⟨live, .inl rfl, stays.symm⟩,
      attach_direct_child_here kernel live here⟩
  by_cases up : name.text = ".."
  · have rises : lexicalStep above.controlGroup_ name = above.controlGroup_.dropLast := by
      rw [lexicalStep, if_neg here, if_pos up]
    cases parentAt : above.parent_ with
    | none =>
        have stays : above.controlGroup_ = lexicalStep above.controlGroup_ name := by
          rw [rises, sound.top self above live parentAt]
          rfl
        exact .inl ⟨self, above, ⟨live, .inl rfl, stays⟩,
          attach_direct_child_up_root kernel live up parentAt⟩
    | some parent =>
        rcases sound.linked self above parent live parentAt with
          ⟨_, upper, last, parentLive, extends_, _⟩
        have path : upper.controlGroup_ = lexicalStep above.controlGroup_ name := by
          rw [rises, extends_.controlGroup, List.dropLast_concat]
        exact .inl ⟨parent, upper, ⟨parentLive, .inr (.inl parentAt), path⟩,
          attach_direct_child_up kernel live up parentAt parentLive⟩
  rcases not_or.mp here with ⟨notEmpty, notDot⟩
  have ordinary : name.IsOrdinary := ⟨notEmpty, notDot, up⟩
  cases listed : above.children_.lookup name with
  | some child =>
      rcases sound.registered self above name child live listed with
        ⟨below, childLive, childParent, named⟩
      rcases sound.linked child below self childLive childParent with
        ⟨_, above', last, selfLive, extends_, _⟩
      have sameAbove := Option.some.inj (live.symm.trans selfLive)
      rw [← sameAbove] at extends_
      have sameName := Option.some.inj ((extends_filename extends_).symm.trans named)
      have path : below.controlGroup_ = lexicalStep above.controlGroup_ name := by
        rw [lexical_step_ordinary _ ordinary, extends_.controlGroup, sameName]
      exact .inl ⟨child, below, ⟨childLive, .inr (.inr childParent), path⟩,
        attach_direct_child_known kernel live ordinary listed childLive⟩
  | none =>
      have selfOld := Nat.ne_of_lt (sound.bounded self above live)
      exact .inr ⟨ordinary, rfl, attach_direct_child_open kernel (sound.wired self above live)
        live selfOld ordinary listed⟩

theorem create_direct_child_cases {held : Multiset ObjectId}
    (sound : ClientSound ⟨world, held⟩) (live : world.objects self = some above)
    (name : Component) (mode : Mode) :
    (∃ failure, External failure ∧
      createDirectChild kernel self name mode world = .error failure world) ∨
    (name.IsOrdinary ∧ above.children_.lookup name = none ∧
      createDirectChild kernel self name mode world =
        match makeDirectory kernel self above name mode world.kernel with
        | .error failure after => .error failure (world.asked after)
        | .ok () after =>
            let adopted :=
              (world.asked after).adopt self name (childOf .created self above name)
            match setUpCpuSet kernel world.instance_ (childOf .created self above name) after with
            | .ok () final => .ok world.fresh (adopted.asked final)
            | .error failure final =>
                .error failure (release kernel world.fresh (adopted.asked final))) := by
  by_cases refused : ¬name.IsOrdinary ∨ (above.children_.lookup name).isSome
  · exact .inl (create_direct_child_refused kernel live refused mode)
  rcases not_or.mp refused with ⟨ordinary, unregistered⟩
  replace ordinary := not_not.mp ordinary
  have absent : above.children_.lookup name = none := by simpa using unregistered
  have selfOld := Nat.ne_of_lt (sound.bounded self above live)
  exact .inr ⟨ordinary, absent, create_direct_child_make kernel (sound.wired self above live)
    live selfOld ordinary absent mode⟩

end Equations

theorem release_up_to_fresh (kernel : Kernel σ) (fuel : Nat) (id : ObjectId) (world : World σ) :
    (releaseUpTo kernel fuel id world).fresh = world.fresh := by
  induction fuel generalizing id world with
  | zero => rfl
  | succ fuel ih =>
      simp only [releaseUpTo]
      split
      · rfl
      · split
        · split
          · exact destroy_fresh ..
          · rw [ih, destroy_fresh]
        · rfl

theorem release_fresh (kernel : Kernel σ) (id : ObjectId) (world : World σ) :
    (release kernel id world).fresh = world.fresh := by
  unfold release
  split
  · rfl
  · exact release_up_to_fresh ..

theorem release_up_to_transitions (kernel : Kernel σ) (fuel : Nat) (client : Client σ)
    (sound : ClientSound client) (id : ObjectId) (group : SingleControlGroup)
    (live : client.world.objects id = some group) (member : id ∈ client.held)
    (enough : group.controlGroup_.length < fuel) :
    Transitions kernel client ⟨releaseUpTo kernel fuel id client.world, client.held.erase id⟩ := by
  induction fuel generalizing client id group with
  | zero => exact absurd enough (Nat.not_lt_zero _)
  | succ fuel ih =>
      simp only [releaseUpTo, live]
      by_cases last : group.references = 1
      · rw [if_pos last]
        have step : Transition kernel client _ :=
          Transition.destroyed client id group live member last
        have sound' := transition_sound sound step
        cases parentAt : group.parent_ with
        | none =>
            simp only [passed, parentAt] at step
            exact .single step
        | some parent =>
            simp only [passed, parentAt] at step sound'
            have parentMember : parent ∈ parent ::ₘ client.held.erase id :=
              Multiset.mem_cons_self _ _
            obtain ⟨above, aboveLive⟩ := sound'.heldLive parent parentMember
            -- The parent's path is one component shorter.
            have shorter : above.controlGroup_.length < fuel := by
              obtain ⟨_, _, originally, same⟩ := destroy_identity kernel client.world aboveLive
              obtain ⟨_, above', name, aboveLive', extends_, _⟩ :=
                sound.linked id group parent live parentAt
              obtain rfl := Option.some.inj (originally.symm.trans aboveLive')
              rw [identity_path same]
              simp only [extends_.controlGroup, List.length_append, List.length_singleton]
                at enough
              omega
            have rest := ih ⟨destroy kernel id group client.world,
              parent ::ₘ client.held.erase id⟩ sound' parent above aboveLive parentMember shorter
            rw [Multiset.erase_cons_head] at rest
            exact .head step rest
      · rw [if_neg last]
        exact .single (.yielded client id group live member last)

theorem release_transitions (kernel : Kernel σ) {client : Client σ}
    (sound : ClientSound client) {id : ObjectId} (member : id ∈ client.held) :
    Transitions kernel client ⟨release kernel id client.world, client.held.erase id⟩ := by
  obtain ⟨group, live⟩ := sound.heldLive id member
  simp only [release, live]
  exact release_up_to_transitions kernel _ client sound id group live member (Nat.lt_succ_self _)

end ContestSystem.Cgroup.Members
