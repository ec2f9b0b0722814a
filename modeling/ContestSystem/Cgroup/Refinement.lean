import ContestSystem.Cgroup.Members

/-!
# Every member function is a run of transitions

A call that returns adds the returned pointer to the held ones; a call that
throws leaves the held pointers as they were. By `objects_eq_of_same_held` the
heap is then also as it was before the call. No call fails an assertion or
follows a dangling pointer.
-/

namespace ContestSystem.Cgroup.Refinement

open ContestSystem.Lib.Throwing
open SingleControlGroup Registry Construction Transition Population Members

set_option autoImplicit false

variable {σ : Type} {kernel : Kernel σ} {world : World σ} {held : Multiset ObjectId}

structure Refines (kernel : Kernel σ) (call : Call σ ObjectId) (world : World σ)
    (held : Multiset ObjectId) : Prop where
  returned : ∀ result after, call world = .ok result after →
    Transitions kernel ⟨world, held⟩ ⟨after, result ::ₘ held⟩
  thrown : ∀ failure after, call world = .error failure after →
    Transitions kernel ⟨world, held⟩ ⟨after, held⟩ ∧ External failure

theorem asked_transitions {after : σ} (answered : Asked kernel world.kernel after) :
    Transitions kernel ⟨world, held⟩ ⟨world.asked after, held⟩ :=
  .single (.asked ⟨world, held⟩ after answered)

theorem refines_of_eq_ok {call : Call σ ObjectId} {result : ObjectId} {after : World σ}
    (returns : call world = .ok result after)
    (steps : Transitions kernel ⟨world, held⟩ ⟨after, result ::ₘ held⟩) :
    Refines kernel call world held := by
  constructor
  · intro other final returned
    rw [returns] at returned
    cases returned
    exact steps
  · intro failure final thrown
    rw [returns] at thrown
    cases thrown

theorem refines_of_eq_error {call : Call σ ObjectId} {failure : Failure} {after : World σ}
    (throws : call world = .error failure after)
    (steps : Transitions kernel ⟨world, held⟩ ⟨after, held⟩) (external : External failure) :
    Refines kernel call world held := by
  constructor
  · intro result final returned
    rw [throws] at returned
    cases returned
  · intro other final thrown
    rw [throws] at thrown
    cases thrown
    exact ⟨steps, external⟩

theorem retained_refines {call : Call σ ObjectId} {id : ObjectId} {group : SingleControlGroup}
    (live : world.objects id = some group) (returns : call world = .ok id (world.retain id)) :
    Refines kernel call world held :=
  refines_of_eq_ok returns (.single (.retained ⟨world, held⟩ id group live))

section Direct

variable {self : ObjectId} {above : SingleControlGroup}

theorem open_directory_asked (kernel : Kernel σ) (self : ObjectId) (above : SingleControlGroup)
    (name : Component) :
    AskedWithin kernel External (openDirectory kernel self above name) := by
  refine asked_bind kernel (asked_adapt kernel ?_ (asked_check_status kernel _))
    fun _ => asked_attached_body kernel _ _
  exact fun _ => rfl

theorem make_directory_cases (kernel : Kernel σ) (self : ObjectId)
    (above : SingleControlGroup) (name : Component) (mode : Mode) (state : σ) :
    (∀ after, makeDirectory kernel self above name mode state = .ok () after →
      ∃ middle, Asked kernel state middle ∧
        kernel.mkdir (childOf .created self above name).location_ mode middle =
          .ok () after) ∧
    (∀ failure after, makeDirectory kernel self above name mode state = .error failure after →
      Asked kernel state after ∧ External failure) := by
  have checked : AskedWithin kernel External
      ((checkStatus kernel (childOf .created self above name).location_).adaptExcept
        (Failure.inControlGroup above.hierarchyId (above.controlGroup_ ++ [name])
          (childOf .created self above name).location_)) := by
    refine asked_adapt kernel ?_ (asked_check_status kernel _)
    exact fun _ => rfl
  constructor
  · intro after made
    obtain ⟨_, middle, found, created⟩ := bind_eq_ok.mp made
    exact ⟨middle, checked.returned _ _ _ found, created_body_eq_ok kernel created⟩
  · intro failure after refused
    rcases bind_eq_error.mp refused with failed | ⟨_, middle, found, failed⟩
    · exact checked.thrown _ _ _ failed
    · obtain ⟨asked, external⟩ := created_body_eq_error kernel failed
      exact ⟨(checked.returned _ _ _ found).trans asked, external⟩

theorem attach_direct_child_refines (sound : ClientSound ⟨world, held⟩)
    (live : world.objects self = some above) (name : Component) :
    Refines kernel (attachDirectChild kernel self name) world held := by
  rcases attach_direct_child_cases kernel sound live name with
    ⟨id, group, finds, equation⟩ | ⟨ordinary, absent, equation⟩
  · exact retained_refines finds.live equation
  · have asked := open_directory_asked kernel self above name
    cases opened : openDirectory kernel self above name world.kernel with
    | error failure after =>
        rw [opened] at equation
        rcases asked.thrown _ _ _ opened with ⟨answered, external⟩
        exact refines_of_eq_error equation (asked_transitions answered) external
    | ok value after =>
        rw [opened] at equation
        have answered := asked.returned _ _ _ opened
        exact refines_of_eq_ok equation ((asked_transitions answered).tail
          (.attached ⟨world.asked after, held⟩ self above name live ordinary absent))

theorem create_direct_child_refines (sound : ClientSound ⟨world, held⟩)
    (live : world.objects self = some above) (name : Component) (mode : Mode) :
    Refines kernel (fun world => createDirectChild kernel self name mode world) world held := by
  rcases create_direct_child_cases kernel sound live name mode with
    ⟨failure, external, throws⟩ | ⟨ordinary, absent, equation⟩
  · exact refines_of_eq_error throws .refl external
  obtain ⟨making, refusing⟩ := make_directory_cases kernel self above name mode world.kernel
  cases made : makeDirectory kernel self above name mode world.kernel with
  | error failure after =>
      rw [made] at equation
      obtain ⟨answered, external⟩ := refusing failure after made
      exact refines_of_eq_error equation (asked_transitions answered) external
  | ok value after =>
      obtain ⟨middle, answered, created⟩ := making after made
      have adopted : Transitions kernel ⟨world, held⟩
          ⟨(world.asked after).adopt self name (childOf .created self above name),
            world.fresh ::ₘ held⟩ :=
        (asked_transitions answered).tail
          (.created ⟨world.asked middle, held⟩ self above name mode after live ordinary absent
            created)
      have setUp := asked_set_up_cpu_set kernel world.instance_ (childOf .created self above name)
      have kernelAt :
          ((world.asked after).adopt self name (childOf .created self above name)).kernel =
            after := rfl
      cases finished : setUpCpuSet kernel world.instance_ (childOf .created self above name)
          after with
      | ok value final =>
          simp only [made, finished] at equation
          exact refines_of_eq_ok equation
            (adopted.trans (asked_transitions (kernelAt ▸ setUp.returned _ _ _ finished)))
      | error failure final =>
          simp only [made, finished] at equation
          obtain ⟨answeredSetUp, external⟩ := setUp.thrown _ _ _ finished
          have steps : Transitions kernel ⟨world, held⟩
              ⟨((world.asked after).adopt self name (childOf .created self above name)).asked
                final, world.fresh ::ₘ held⟩ :=
            adopted.trans (asked_transitions (kernelAt ▸ answeredSetUp))
          have released := release_transitions kernel
            (transitions_sound sound steps) (Multiset.mem_cons_self world.fresh held)
          rw [Multiset.erase_cons_head] at released
          exact refines_of_eq_error equation (steps.trans released) external

end Direct

section Walk

variable {direct : ObjectId → Component → Call σ ObjectId} {self : ObjectId}

/-- Each step of a walk refines transitions from any sound state. -/
abbrev StepRefines (kernel : Kernel σ) (direct : ObjectId → Component → Call σ ObjectId) : Prop :=
  ∀ (world : World σ) (held : Multiset ObjectId) (current : ObjectId)
    (above : SingleControlGroup) (name : Component), ClientSound ⟨world, held⟩ →
    world.objects current = some above → Refines kernel (direct current name) world held

/-- The loop body: the next object is obtained, then the current one released. -/
theorem walk_step (refines : StepRefines kernel direct) {current : ObjectId} {name : Component}
    (sound : ClientSound ⟨world, current ::ₘ held⟩) :
    (∀ next after, direct current name world = .ok next after →
      Transitions kernel ⟨world, current ::ₘ held⟩
        ⟨release kernel current after, next ::ₘ held⟩) ∧
    (∀ failure after, direct current name world = .error failure after →
      Transitions kernel ⟨world, current ::ₘ held⟩ ⟨release kernel current after, held⟩ ∧
        External failure) := by
  obtain ⟨above, live⟩ := sound.heldLive current (Multiset.mem_cons_self _ _)
  have step := refines world (current ::ₘ held) current above name sound live
  constructor
  · intro next after returned
    have steps := step.returned next after returned
    have released := release_transitions kernel (transitions_sound sound steps)
      (Multiset.mem_cons_of_mem (Multiset.mem_cons_self current held))
    simp only [Multiset.cons_swap next current, Multiset.erase_cons_head] at released
    exact steps.trans (Multiset.cons_swap next current held ▸ released)
  · intro failure after thrown
    obtain ⟨steps, external⟩ := step.thrown failure after thrown
    have released := release_transitions kernel (transitions_sound sound steps)
      (Multiset.mem_cons_self current held)
    rw [Multiset.erase_cons_head] at released
    exact ⟨steps.trans released, external⟩

theorem walk_cases (refines : StepRefines kernel direct) (sound : ClientSound ⟨world, held⟩)
    {group : SingleControlGroup} (live : world.objects self = some group)
    (Invariant : ObjectId → List Component → World σ → Prop)
    (initial : Invariant self [] (world.retain self))
    (preserved : ∀ current done name middle next after,
      Transitions kernel ⟨world, held⟩ ⟨middle, current ::ₘ held⟩ →
      Invariant current done middle → direct current name middle = .ok next after →
        Invariant next (done ++ [name]) (release kernel current after))
    (names : List Component) :
    (∀ result after, walk kernel direct self names world = .ok result after →
      Transitions kernel ⟨world, held⟩ ⟨after, result ::ₘ held⟩ ∧
        Invariant result names after) ∧
    (∀ failure after, walk kernel direct self names world = .error failure after →
      Transitions kernel ⟨world, held⟩ ⟨after, held⟩ ∧ External failure ∧
        ∃ done name rest current middle last, names = done ++ name :: rest ∧
          Transitions kernel ⟨world, held⟩ ⟨middle, current ::ₘ held⟩ ∧
          Invariant current done middle ∧
          direct current name middle = .error failure last ∧
          after = release kernel current last) := by
  have start : Transitions kernel ⟨world, held⟩ ⟨world.retain self, self ::ₘ held⟩ :=
    .single (.retained ⟨world, held⟩ self group live)
  have kept : ∀ current done name middle next finish,
      (Transitions kernel ⟨world, held⟩ ⟨middle, current ::ₘ held⟩ ∧
        Invariant current done middle) →
      advance kernel direct current name middle = .ok next finish →
        Transitions kernel ⟨world, held⟩ ⟨finish, next ::ₘ held⟩ ∧
          Invariant next (done ++ [name]) finish := by
    rintro current done name middle next finish ⟨steps, invariant⟩ returned
    obtain ⟨value, after, stepped, rest⟩ := bind_eq_ok.mp returned
    have called := unwinding_eq_ok.mp stepped
    cases rest
    exact ⟨steps.trans ((walk_step refines (transitions_sound sound steps)).1 _ _ called),
      preserved current done name middle _ after steps invariant called⟩
  have loop := fold_cases
    (fun current done middle => Transitions kernel ⟨world, held⟩ ⟨middle, current ::ₘ held⟩ ∧
      Invariant current done middle) kept self [] names (world.retain self) ⟨start, initial⟩
  have unfolded : walk kernel direct self names world =
      (names.foldlM (advance kernel direct) self : Call σ ObjectId) (world.retain self) := by
    change EStateM.bind (pointer self) _ world = _
    simp only [EStateM.bind, pointer_eq live]
  constructor
  · intro result after returned
    rw [unfolded] at returned
    simpa using loop.1 result after returned
  · intro failure after thrown
    rw [unfolded] at thrown
    obtain ⟨done, name, rest, current, middle, split, ⟨steps, invariant⟩, failed⟩ :=
      loop.2 failure after thrown
    rw [List.nil_append] at invariant
    rcases bind_eq_error.mp failed with raised | ⟨next, last, stepped, impossible⟩
    · obtain ⟨last, called, rfl⟩ := unwinding_eq_error.mp raised
      obtain ⟨unwound, external⟩ :=
        (walk_step refines (transitions_sound sound steps)).2 _ _ called
      exact ⟨steps.trans unwound, external, done, name, rest, current, middle, last, split,
        steps, invariant, called, rfl⟩
    · cases impossible

theorem walk_refines (refines : StepRefines kernel direct) (sound : ClientSound ⟨world, held⟩)
    {group : SingleControlGroup} (live : world.objects self = some group)
    (names : List Component) : Refines kernel (walk kernel direct self names) world held := by
  obtain ⟨returns, throws⟩ := walk_cases refines sound live (fun _ _ _ => True) trivial
    (fun _ _ _ _ _ _ _ _ _ => trivial) names
  exact ⟨fun result after returned => (returns result after returned).1,
    fun failure after thrown =>
      ⟨(throws failure after thrown).1, (throws failure after thrown).2.1⟩⟩

end Walk

theorem attach_step_refines (kernel : Kernel σ) :
    StepRefines kernel (attachDirectChild kernel) := by
  intro world held current above name sound live
  exact attach_direct_child_refines sound live name

theorem create_step_refines (kernel : Kernel σ) (mode : Mode) :
    StepRefines kernel fun current i => createDirectChild kernel current i mode := by
  intro world held current above name sound live
  exact create_direct_child_refines sound live name mode

section Public

variable {self : ObjectId} {group : SingleControlGroup}

theorem absolute_refused (direct : ObjectId → Component → Call σ ObjectId) {path : BoostPath}
    (absolute : path.isAbsolute = true) :
    (do
        checkChildControlGroup path
        walk kernel direct self path.components : Call σ ObjectId) world =
      .error
        { kind := .singleControlGroupAbsoluteControlGroupPath
          controlGroupPath := some path } world := by
  simp only [checkChildControlGroup, if_pos absolute]
  rfl

theorem relative_walks (direct : ObjectId → Component → Call σ ObjectId) {path : BoostPath}
    (relative : path.isAbsolute = false) :
    (do
        checkChildControlGroup path
        walk kernel direct self path.components : Call σ ObjectId) world =
      walk kernel direct self path.components world := by
  simp only [checkChildControlGroup, relative, Bool.false_eq_true, if_false]
  rfl

theorem checked_walk_refines {direct : ObjectId → Component → Call σ ObjectId}
    (refines : StepRefines kernel direct) (sound : ClientSound ⟨world, held⟩)
    (live : world.objects self = some group) (path : BoostPath) :
    Refines kernel
      (do
        checkChildControlGroup path
        walk kernel direct self path.components) world held := by
  cases absolute : path.isAbsolute with
  | true =>
      apply refines_of_eq_error (absolute_refused direct absolute) .refl
      trivial
  | false =>
      have walked := walk_refines refines sound live path.components
      constructor
      · intro result after returned
        rw [relative_walks direct absolute] at returned
        exact walked.returned result after returned
      · intro failure after thrown
        rw [relative_walks direct absolute] at thrown
        exact walked.thrown failure after thrown

theorem attach_child_refines (sound : ClientSound ⟨world, held⟩)
    (live : world.objects self = some group) (path : BoostPath) :
    Refines kernel (attachChild kernel self path) world held :=
  checked_walk_refines (attach_step_refines kernel) sound live path

theorem create_child_refines (sound : ClientSound ⟨world, held⟩)
    (live : world.objects self = some group) (path : BoostPath) (mode : Mode) :
    Refines kernel (createChild kernel self path mode) world held :=
  checked_walk_refines (create_step_refines kernel mode) sound live path

theorem root_refines (kernel : Kernel σ) (world : World σ) (held : Multiset ObjectId)
    (hierarchyId : Nat) : Refines kernel (root kernel hierarchyId) world held := by
  have asked := asked_root_group kernel world.instance_ hierarchyId
  cases constructed : rootGroup kernel world.instance_ hierarchyId world.kernel with
  | ok object after =>
      have returns : root kernel hierarchyId world =
          .ok world.fresh ((world.asked after).insert object) := by
        change EStateM.bind (consult (rootGroup kernel world.instance_ hierarchyId)) _ world = _
        simp only [EStateM.bind, consult, constructed]
        rfl
      have answered := asked.returned _ _ _ constructed
      exact refines_of_eq_ok returns ((asked_transitions answered).tail
        (.rooted ⟨world.asked after, held⟩ hierarchyId object (root_group_eq_ok constructed)))
  | error failure after =>
      have throws : root kernel hierarchyId world = .error failure (world.asked after) := by
        change EStateM.bind (consult (rootGroup kernel world.instance_ hierarchyId)) _ world = _
        simp only [EStateM.bind, consult, constructed]
        rfl
      have refused := asked.thrown _ _ _ constructed
      exact refines_of_eq_error throws (asked_transitions refused.1) refused.2

theorem attach_refines (sound : ClientSound ⟨world, held⟩) (hierarchyId : Nat)
    (path : BoostPath) : Refines kernel (attach kernel hierarchyId path) world held := by
  by_cases absolute : path.isAbsolute = true
  · have rooted := root_refines kernel world held hierarchyId
    have unfolded : attach kernel hierarchyId path = (do
        let root_ ← root kernel hierarchyId
        let result ← unwinding
          (attachChild kernel root_ (BoostPath.relative path.components))
          (release kernel root_)
        modify (release kernel root_)
        return result) := by
      unfold attach
      rw [if_pos absolute]
    have below : ∀ root_ middle, root kernel hierarchyId world = .ok root_ middle →
        ClientSound ⟨middle, root_ ::ₘ held⟩ ∧
          Refines kernel (attachChild kernel root_ (BoostPath.relative path.components))
            middle (root_ ::ₘ held) := by
      intro root_ middle made
      have sound' := transitions_sound sound (rooted.returned root_ middle made)
      rcases sound'.heldLive root_ (Multiset.mem_cons_self _ _) with ⟨object, rootLive⟩
      exact ⟨sound', attach_child_refines sound' rootLive _⟩
    rw [unfolded]
    constructor
    · intro result after returned
      rcases bind_eq_ok.mp returned with ⟨root_, middle, made, rest⟩
      rcases bind_eq_ok.mp rest with ⟨value, last, called, finish⟩
      rcases below root_ middle made with ⟨sound', child⟩
      have steps := child.returned value last (unwinding_eq_ok.mp called)
      have released := release_transitions kernel (transitions_sound sound' steps)
        (Multiset.mem_cons_of_mem (Multiset.mem_cons_self root_ held))
      simp only [Multiset.cons_swap value root_, Multiset.erase_cons_head] at released
      cases finish
      exact (rooted.returned root_ middle made).trans
        (steps.trans (Multiset.cons_swap result root_ held ▸ released))
    · intro failure after thrown
      rcases bind_eq_error.mp thrown with failed | ⟨root_, middle, made, rest⟩
      · exact rooted.thrown failure after failed
      · rcases below root_ middle made with ⟨sound', child⟩
        rcases bind_eq_error.mp rest with raised | ⟨value, last, called, impossible⟩
        · rcases unwinding_eq_error.mp raised with ⟨last, failed, rfl⟩
          have unwound := child.thrown failure last failed
          have released := release_transitions kernel (transitions_sound sound' unwound.1)
            (Multiset.mem_cons_self root_ held)
          rw [Multiset.erase_cons_head] at released
          exact ⟨(rooted.returned root_ middle made).trans (unwound.1.trans released), unwound.2⟩
        · cases impossible
  · have throws : attach kernel hierarchyId path world =
        .error
          { kind := .singleControlGroupRelativeControlGroup
            controlGroupPath := some path } world := by
      unfold attach
      rw [if_neg absolute]
      rfl
    apply refines_of_eq_error throws .refl
    trivial

theorem parent_cases (live : world.objects self = some group) :
    (group.parent_ = none → parent self world = .ok none world) ∧
    (∀ up above, group.parent_ = some up → world.objects up = some above →
      parent self world = .ok (some up) (world.retain up)) := by
  constructor
  · intro atTop
    change EStateM.bind (deref self) _ world = _
    simp only [EStateM.bind, deref, live, atTop]
    rfl
  · intro up above parentAt upLive
    change EStateM.bind (deref self) _ world = _
    simp only [EStateM.bind, deref, live, parentAt]
    simp only [Functor.map, EStateM.map, pointer_eq upLive]

end Public

end ContestSystem.Cgroup.Refinement
