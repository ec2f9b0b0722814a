import ContestSystem.Cgroup.ClientRun

/-!
# Attaching resolves paths lexically

While file statuses do not change, `attachChild` ends at the lexical result of
its path or throws at the first prefix that is neither registered nor a
directory. The walk destroys only objects it attached itself, so it never
reaches the kernel with anything but questions.
-/

namespace ContestSystem.Cgroup.AttachWalk

open ContestSystem.Lib.Forest ContestSystem.Lib.Run ContestSystem.Lib.Throwing
open SingleControlGroup Registry Construction Transition Population Members Refinement Trees
open ClientRun

set_option autoImplicit false

variable {σ : Type} {kernel : Kernel σ} {world : World σ} {held : Multiset ObjectId}

def IsDirectory (kernel : Kernel σ) (state : σ) (location : Location) : Prop :=
  kernel.symlinkStatus location.directory state = .ok .directoryFile state

/-- Asking for a file's type has no effect, and `is_directory` agrees with
`symlink_status` about directories and missing files. -/
structure SteadyAnswers (kernel : Kernel σ) (state : σ) : Prop where
  statusRead : ∀ path type after,
    kernel.symlinkStatus path state = .ok type after → after = state
  directory : ∀ path, kernel.symlinkStatus path state = .ok .directoryFile state →
    kernel.isDirectory path state = .ok true state
  missing : ∀ path after, kernel.symlinkStatus path state = .ok .fileNotFound state →
    kernel.isDirectory path state ≠ .ok true after

section Open

variable {self : ObjectId} {above : SingleControlGroup} {name : Component} {state : σ}

theorem open_directory_of_directory (steady : SteadyAnswers kernel state)
    (directory : IsDirectory kernel state (childOf .attached self above name).location_) :
    openDirectory kernel self above name state = .ok () state := by
  have answered := steady.directory _ directory
  have checked : (checkStatus kernel (childOf .attached self above name).location_).adaptExcept
      (Failure.inControlGroup above.hierarchyId (above.controlGroup_ ++ [name])
        (childOf .attached self above name).location_) state = .ok () state := by
    rw [adapt_eq_ok]
    exact bind_eq_ok.mpr ⟨.directoryFile, state, adapt_eq_ok.mpr directory, rfl⟩
  have attached : attachedBody kernel above.hierarchyId (childOf .attached self above name)
      state = .ok () state := by
    unfold attachedBody
    rw [adapt_eq_ok]
    exact bind_eq_ok.mpr ⟨true, state, adapt_eq_ok.mpr answered, rfl⟩
  exact bind_eq_ok.mpr ⟨(), state, checked, attached⟩

theorem directory_of_open (steady : SteadyAnswers kernel state) {after : σ}
    (opened : openDirectory kernel self above name state = .ok () after) :
    after = state ∧ IsDirectory kernel state (childOf .attached self above name).location_ := by
  rcases bind_eq_ok.mp opened with ⟨_, middle, checked, attached⟩
  rcases bind_eq_ok.mp (adapt_eq_ok.mp checked) with ⟨type, asked, status, decided⟩
  have statusAt := adapt_eq_ok.mp status
  have same := steady.statusRead _ type asked statusAt
  rw [same] at statusAt decided
  unfold attachedBody at attached
  rcases bind_eq_ok.mp (adapt_eq_ok.mp attached) with ⟨answer, last, answered, verdict⟩
  have answeredAt := adapt_eq_ok.mp answered
  cases answer with
  | false => cases verdict
  | true =>
      cases verdict
      cases type with
      | fileNotFound =>
          cases decided
          exact absurd answeredAt (steady.missing _ _ statusAt)
      | regularFile => cases decided
      | other => cases decided
      | directoryFile =>
          cases decided
          have expected := steady.directory _ statusAt
          rw [expected] at answeredAt
          cases answeredAt
          exact ⟨rfl, statusAt⟩

theorem open_directory_names_location {failure : Failure} {after : σ}
    (refused : openDirectory kernel self above name state = .error failure after) :
    failure.path = some (childOf .attached self above name).location_.directory ∧
      failure.controlGroupPath =
        some (ControlGroupPath.boostPath (above.controlGroup_ ++ [name])) := by
  rcases bind_eq_error.mp refused with failed | ⟨_, middle, _, failed⟩
  · rcases adapt_eq_error.mp failed with ⟨original, _, rfl⟩
    exact ⟨rfl, rfl⟩
  · rcases adapt_eq_error.mp failed with ⟨original, _, rfl⟩
    exact ⟨rfl, rfl⟩

end Open

/-- A live object of `objects` was live before or is an attached directory. -/
def OnlyDirectories (kernel : Kernel σ) (state : σ) (before objects : Heap) : Prop :=
  ∀ id group, objects id = some group → ¬Alive before id →
    group.kind = .attached ∧ IsDirectory kernel state group.location_

theorem only_directories_identity {state : σ} {before objects objects' : Heap}
    (directories : OnlyDirectories kernel state before objects)
    (identity : ∀ id new, objects' id = some new →
      ∃ group, objects id = some group ∧ SameIdentity group new) :
    OnlyDirectories kernel state before objects' := by
  intro id new newLive notBefore
  rcases identity id new newLive with ⟨group, live, same⟩
  have known := directories id group live notBefore
  rw [same]
  exact known

theorem retain_identity (world : World σ) (id other : ObjectId) (new : SingleControlGroup)
    (live : (world.retain id).objects other = some new) :
    ∃ group, world.objects other = some group ∧ SameIdentity group new := by
  refine modify_identity world id ?_ live
  exact fun _ => rfl

theorem attach_direct_child_directories (sound : ClientSound ⟨world, held⟩)
    (steady : SteadyAnswers kernel world.kernel) {before : Heap}
    (directories : OnlyDirectories kernel world.kernel before world.objects)
    {self next : ObjectId} {above : SingleControlGroup} (live : world.objects self = some above)
    {name : Component} {after : World σ}
    (returned : attachDirectChild kernel self name world = .ok next after) :
    after.kernel = world.kernel ∧
      OnlyDirectories kernel world.kernel before after.objects := by
  have retained : ∀ id, OnlyDirectories kernel world.kernel before (world.retain id).objects :=
    fun id => only_directories_identity directories (retain_identity world id)
  rcases attach_direct_child_cases kernel sound live name with
    ⟨id, group, _, equation⟩ | ⟨_, _, equation⟩
  · rw [equation] at returned
    cases returned
    exact ⟨rfl, retained next⟩
  · have selfOld := Nat.ne_of_lt (sound.bounded self above live)
    rw [equation] at returned
    split at returned
    next middle opened =>
        cases returned
        rcases directory_of_open steady opened with ⟨same, directory⟩
        refine ⟨same, ?_⟩
        intro id new newLive notBefore
        rw [adopt_objects (world.asked middle) name live rfl selfOld] at newLive
        split at newLive
        next isSelf =>
            cases newLive
            exact directories self above live (isSelf ▸ notBefore)
        next notSelf =>
            split at newLive
            next isFresh =>
                cases newLive
                exact ⟨rfl, directory⟩
            next notFresh => exact directories id new newLive notBefore
    next => cases returned

theorem release_up_to_dead (kernel : Kernel σ) (fuel : Nat) (id other : ObjectId)
    (world : World σ) (dead : world.objects other = none) :
    (releaseUpTo kernel fuel id world).objects other = none := by
  induction fuel generalizing id world with
  | zero => exact dead
  | succ fuel ih =>
      have stillDead : ∀ group, (destroy kernel id group world).objects other = none := by
        intro group
        cases found : (destroy kernel id group world).objects other with
        | none => rfl
        | some new =>
            rcases destroy_identity kernel world found with ⟨_, original, originally, _⟩
            rw [dead] at originally
            cases originally
      simp only [releaseUpTo]
      cases live : world.objects id with
      | none => exact dead
      | some group =>
          simp only
          split
          · split
            · exact stillDead group
            · exact ih _ _ (stillDead group)
          · simp only [World.modify, Function.update_apply]
            split
            next same =>
                rw [same] at dead
                rw [dead]
                rfl
            next => exact dead

/-- Releasing reaches the kernel only to remove the directory of a created
object, which then is no longer alive. -/
theorem release_up_to_kernel (kernel : Kernel σ) (fuel : Nat) (id : ObjectId) (world : World σ) :
    (releaseUpTo kernel fuel id world).kernel = world.kernel ∨
      ∃ other group, world.objects other = some group ∧ group.kind = .created ∧
        (releaseUpTo kernel fuel id world).objects other = none := by
  induction fuel generalizing id world with
  | zero => exact .inl rfl
  | succ fuel ih =>
      simp only [releaseUpTo]
      cases live : world.objects id with
      | none => exact .inl rfl
      | some group =>
          have selfDead : (destroy kernel id group world).objects id = none := by
            rw [destroy_objects, Function.update_self]
          simp only
          split
          · cases kind : group.kind with
            | created =>
                right
                refine ⟨id, group, live, kind, ?_⟩
                split
                · exact selfDead
                · exact release_up_to_dead kernel fuel _ id _ selfDead
            | attached =>
                have quiet := destroy_attached_kernel kernel id world kind
                split
                · exact .inl quiet
                · next parent _ =>
                  rcases ih parent (destroy kernel id group world) with same | died
                  · exact .inl (same.trans quiet)
                  · rcases died with ⟨other, new, newLive, created, dead⟩
                    rcases destroy_identity kernel world newLive with
                      ⟨_, original, originally, same⟩
                    rw [same] at created
                    exact .inr ⟨other, original, originally, created, dead⟩
          · exact .inl rfl

theorem release_kernel (kernel : Kernel σ) (id : ObjectId) (world : World σ)
    (spared : ∀ other group, world.objects other = some group → group.kind = .created →
      Alive (release kernel id world).objects other) :
    (release kernel id world).kernel = world.kernel := by
  cases live : world.objects id with
  | none => simp only [release, live]
  | some group =>
      simp only [release, live] at spared ⊢
      rcases release_up_to_kernel kernel (group.controlGroup_.length + 1) id world with
        same | died
      · exact same
      · rcases died with ⟨other, created, createdLive, kind, dead⟩
        rcases spared other created createdLive kind with ⟨_, alive⟩
        rw [dead] at alive
        cases alive

/-- No live object of the tree has the path, and its location is not a directory. -/
structure Offending (kernel : Kernel σ) (client : Client σ) (origin : ObjectId)
    (group : SingleControlGroup) (path : ControlGroupPath) : Prop where
  unregistered : ∀ id, Alive client.world.objects id → SameTree client.world.objects origin id →
    pathOf client.world.objects id ≠ path
  notDirectory : ¬IsDirectory kernel client.world.kernel
    { group.location_ with controlGroup := path }

structure WalkState (kernel : Kernel σ) (client : Client σ) (origin : ObjectId)
    (group : SingleControlGroup) (current : ObjectId) (done : List Component)
    (middle : World σ) : Prop where
  reached : Reached middle.objects origin current group.controlGroup_ done
  unchanged : middle.kernel = client.world.kernel
  directories : OnlyDirectories kernel client.world.kernel client.world.objects middle.objects
  clear : ∀ first name rest, done = first ++ name :: rest →
    ¬Offending kernel client origin group (lexicalPath group.controlGroup_ (first ++ [name]))

section Walk

variable {client : Client σ} {origin : ObjectId} {group : SingleControlGroup}

theorem not_offending_of_reached (sound : ClientSound client) {middle : World σ}
    {current : ObjectId} {done : List Component}
    (steps : Transitions kernel client ⟨middle, current ::ₘ client.held⟩)
    (member : origin ∈ client.held) (live : client.world.objects origin = some group)
    (reached : Reached middle.objects origin current group.controlGroup_ done)
    (directories : OnlyDirectories kernel client.world.kernel client.world.objects
      middle.objects) :
    ¬Offending kernel client origin group (lexicalPath group.controlGroup_ done) := by
  intro offending
  have sound' := transitions_sound sound steps
  have persists := transitions_persist sound steps
  have originAlive := sound'.heldLive origin (Multiset.mem_cons_of_mem member)
  have currentAlive := sound'.heldLive current (Multiset.mem_cons_self _ _)
  by_cases before : Alive client.world.objects current
  · -- The object was there before the call, in the same tree and at the same path.
    have agree := persists_agree sound persists
    rcases reached.sameTree with ⟨root, originInside, currentInside⟩
    have back : ∀ node, Alive middle.objects node → Alive client.world.objects node →
        parentOf middle.objects node = parentOf client.world.objects node :=
      fun node after before => (agree node before after).symm
    have sameTree : SameTree client.world.objects origin current :=
      ⟨root,
        in_tree_carried (kept_of_sound sound') (kept_of_sound sound) back originAlive
          ⟨group, live⟩ originInside,
        in_tree_carried (kept_of_sound sound') (kept_of_sound sound) back currentAlive
          before currentInside⟩
    have samePath : pathOf middle.objects current = pathOf client.world.objects current :=
      path_carried sound persists before currentAlive
    exact offending.unregistered current before sameTree (samePath.symm.trans reached.path)
  · rcases currentAlive with ⟨new, newLive⟩
    rcases originAlive with ⟨originGroup, originLive⟩
    rcases persists.old origin originGroup originLive (sound.bounded origin group live) with
      ⟨original, originally, same⟩
    have sameOrigin := Option.some.inj (live.symm.trans originally)
    have located := location_in_tree sound' reached.sameTree originLive newLive
    have directory := (directories current new newLive before).2
    rw [located, ← path_of_live newLive, reached.path, same, ← sameOrigin] at directory
    exact offending.notDirectory directory

theorem walk_state_step (sound : ClientSound client)
    (steady : SteadyAnswers kernel client.world.kernel) (member : origin ∈ client.held)
    (live : client.world.objects origin = some group) {current next : ObjectId}
    {done : List Component} {name : Component} {middle after : World σ}
    (steps : Transitions kernel client ⟨middle, current ::ₘ client.held⟩)
    (state : WalkState kernel client origin group current done middle)
    (called : attachDirectChild kernel current name middle = .ok next after) :
    WalkState kernel client origin group next (done ++ [name])
      (release kernel current after) := by
  have sound' := transitions_sound sound steps
  rcases sound'.heldLive current (Multiset.mem_cons_self _ _) with ⟨above, aboveLive⟩
  have reached := reached_step (attach_step_refines kernel) (attach_step_lands kernel) sound'
    member state.reached called
  have whole := steps.trans ((walk_step (attach_step_refines kernel) sound').1 next after called)
  have steady' : SteadyAnswers kernel middle.kernel := by
    rw [state.unchanged]
    exact steady
  have directories' : OnlyDirectories kernel middle.kernel client.world.objects
      middle.objects := by
    rw [state.unchanged]
    exact state.directories
  have stepped := attach_direct_child_directories sound' steady' directories' aboveLive called
  rw [state.unchanged] at stepped
  have directories : OnlyDirectories kernel client.world.kernel client.world.objects
      (release kernel current after).objects := by
    have soundAfter := transitions_sound sound' ((attach_step_refines kernel middle
      (current ::ₘ client.held) current above name sound' aboveLive).returned next after called)
    have released := release_transitions kernel soundAfter
      (Multiset.mem_cons_of_mem (Multiset.mem_cons_self current client.held))
    have persists := transitions_persist soundAfter released
    have soundEnd := transitions_sound soundAfter released
    have kept := release_fresh kernel current after
    apply only_directories_identity stepped.2
    intro id new newLive
    exact persists.old id new newLive (kept ▸ soundEnd.bounded id new newLive)
  -- Created objects were there before the call and are still held.
  have quiet : (release kernel current after).kernel = after.kernel := by
    apply release_kernel
    intro other otherGroup otherLive created
    have before : Alive client.world.objects other := by
      by_contra absent
      have attached := (stepped.2 other otherGroup otherLive absent).1
      rw [attached] at created
      cases created
    exact alive_of_still_held sound (transitions_sound sound whole)
      (transitions_persist sound whole)
      (fun id inside => (transitions_sound sound whole).heldLive id
        (Multiset.mem_cons_of_mem inside)) other before
  refine ⟨reached, quiet.trans stepped.1, directories, ?_⟩
  intro first last rest split
  rcases List.eq_nil_or_concat rest with empty | ⟨init, final, rfl⟩
  · subst empty
    have same : done = first ∧ name = last := by simpa using split
    rw [← same.1, ← same.2]
    exact not_offending_of_reached sound whole member live reached directories
  · have same : done = first ++ last :: init := by
      have shifted : done ++ [name] = (first ++ last :: init) ++ [final] := by
        simpa using split
      exact (List.append_inj' shifted rfl).1
    exact state.clear first last init same

theorem attach_direct_child_throws {middle last : World σ} {current : ObjectId}
    {above : SingleControlGroup} {name : Component} {failure : Failure}
    (sound : ClientSound ⟨middle, held⟩) (live : middle.objects current = some above)
    (steady : SteadyAnswers kernel middle.kernel)
    (thrown : attachDirectChild kernel current name middle = .error failure last) :
    name.IsOrdinary ∧ above.children_.lookup name = none ∧
      ¬IsDirectory kernel middle.kernel (childOf .attached current above name).location_ ∧
      failure.path = some (childOf .attached current above name).location_.directory := by
  rcases attach_direct_child_cases kernel sound live name with
    ⟨id, group, _, equation⟩ | ⟨ordinary, absent, equation⟩
  · rw [equation] at thrown
    cases thrown
  · rw [equation] at thrown
    refine ⟨ordinary, absent, ?_, ?_⟩
    · intro directory
      rw [open_directory_of_directory steady directory] at thrown
      cases thrown
    · split at thrown
      next => cases thrown
      next refused =>
          cases thrown
          exact (open_directory_names_location refused).1

/-- A step that throws throws at an offending prefix and names its location. -/
theorem offending_of_throw (sound : ClientSound client)
    (steady : SteadyAnswers kernel client.world.kernel) (member : origin ∈ client.held)
    (live : client.world.objects origin = some group) {current : ObjectId}
    {done : List Component} {name : Component} {middle last : World σ} {failure : Failure}
    (steps : Transitions kernel client ⟨middle, current ::ₘ client.held⟩)
    (state : WalkState kernel client origin group current done middle)
    (thrown : attachDirectChild kernel current name middle = .error failure last) :
    Offending kernel client origin group
        (lexicalPath group.controlGroup_ (done ++ [name])) ∧
      failure.path = some (Location.directory { group.location_ with
        controlGroup := lexicalPath group.controlGroup_ (done ++ [name]) }) := by
  have sound' := transitions_sound sound steps
  have persists := transitions_persist sound steps
  have tree := labelled_of_sound sound'
  rcases sound'.heldLive current (Multiset.mem_cons_self _ _) with ⟨above, aboveLive⟩
  have steady' : SteadyAnswers kernel middle.kernel := by
    rw [state.unchanged]
    exact steady
  rcases attach_direct_child_throws sound' aboveLive steady' thrown with
    ⟨ordinary, absent, notDirectory, named⟩
  rcases sound'.heldLive origin (Multiset.mem_cons_of_mem member) with
    ⟨originGroup, originLive⟩
  rcases persists.old origin originGroup originLive (sound.bounded origin group live) with
    ⟨original, originally, same⟩
  have sameOrigin := Option.some.inj (live.symm.trans originally)
  have target : lexicalPath group.controlGroup_ (done ++ [name]) =
      above.controlGroup_ ++ [name] := by
    rw [lexical_path_concat, ← state.reached.path, path_of_live aboveLive,
      lexical_step_ordinary _ ordinary]
  have located := location_in_tree sound' state.reached.sameTree originLive aboveLive
  have place : (childOf .attached current above name).location_ =
      { group.location_ with
        controlGroup := lexicalPath group.controlGroup_ (done ++ [name]) } := by
    rw [target]
    simp only [childOf]
    rw [located, same, ← sameOrigin]
  rw [place] at notDirectory named
  refine ⟨⟨?_, state.unchanged ▸ notDirectory⟩, named⟩
  intro id before sameTree atTarget
  -- Such an object would be the registered child of the current one.
  have survives : Alive middle.objects id := alive_of_still_held sound sound' persists
    (fun other inside => sound'.heldLive other (Multiset.mem_cons_of_mem inside)) id before
  have sameTree' := same_tree_carried sound sound' persists ⟨group, live⟩
    ⟨originGroup, originLive⟩ before survives sameTree
  have path' : pathOf middle.objects id = pathOf client.world.objects id :=
    path_carried sound persists before survives
  rcases state.reached.sameTree with ⟨root, originInside, currentInside⟩
  rcases sameTree' with ⟨root', originInside', inside⟩
  have sameRoot := in_tree_root_unique originInside' originInside
  rw [sameRoot] at inside
  rcases parent_of_nonempty_path tree survives ((path'.trans atTarget).trans target) with
    ⟨parent, edge, parentAlive, parentPath⟩
  have isCurrent : parent = current := node_unique tree parentAlive ⟨above, aboveLive⟩
    (in_tree_up inside edge) currentInside (parentPath.trans (path_of_live aboveLive).symm)
  rw [isCurrent] at edge
  rcases parent_of_eq_some.mp edge with ⟨lower, lowerLive, lowerParent⟩
  rcases sound'.linked id lower current lowerLive lowerParent with
    ⟨_, upper, label, upperLive, extends_, listed⟩
  have sameUpper := Option.some.inj (aboveLive.symm.trans upperLive)
  have lowerPath := (path_of_live lowerLive).symm.trans ((path'.trans atTarget).trans target)
  rw [extends_.controlGroup, ← sameUpper] at lowerPath
  have sameLabel : label = name := by simpa using lowerPath
  rw [sameLabel, ← sameUpper, absent] at listed
  cases listed

theorem walk_state_start (sound : ClientSound client)
    (live : client.world.objects origin = some group) :
    WalkState kernel client origin group origin [] (client.world.retain origin) := by
  have retained := retained_sound sound live
  have alive := retained.heldLive origin (Multiset.mem_cons_self origin client.held)
  constructor
  · refine ⟨same_tree_of_adjacent retained alive (.inl rfl), ?_⟩
    rw [retain_path, path_of_live live]
    rfl
  · rfl
  · intro id new newLive notBefore
    rcases retain_identity client.world origin id new newLive with ⟨original, originally, _⟩
    exact absurd ⟨original, originally⟩ notBefore
  · intro first name rest split
    simp at split

end Walk

structure AttachReturned (client : Client σ) (origin : ObjectId) (target : ControlGroupPath)
    (result : ObjectId) (after : World σ) : Prop where
  alive : Alive after.objects result
  sameTree : SameTree after.objects origin result
  path : pathOf after.objects result = target
  unique : ∀ other, Alive after.objects other → SameTree after.objects origin other →
    pathOf after.objects other = target → other = result
  reused : ∀ other, Alive client.world.objects other →
    SameTree client.world.objects origin other →
    pathOf client.world.objects other = target → result = other
  population : ∀ id, Alive after.objects id ↔
    Alive client.world.objects id ∨ AtOrBelow (parentOf after.objects) result id

theorem unique_in_tree {objects : Heap} {fresh : ObjectId} (sound : Sound objects fresh held)
    {origin left right : ObjectId} (leftAlive : Alive objects left)
    (rightAlive : Alive objects right) (leftSame : SameTree objects origin left)
    (rightSame : SameTree objects origin right)
    (samePath : pathOf objects left = pathOf objects right) : left = right := by
  rcases leftSame with ⟨root, originInside, leftInside⟩
  rcases rightSame with ⟨root', originInside', rightInside⟩
  have sameRoot := in_tree_root_unique originInside' originInside
  exact node_unique (labelled_of_sound sound) leftAlive rightAlive leftInside
    (sameRoot ▸ rightInside) samePath

theorem population_of_return {client : Client σ} (sound : ClientSound client)
    {result : ObjectId} {after : World σ}
    (steps : Transitions kernel client ⟨after, result ::ₘ client.held⟩) (id : ObjectId) :
    Alive after.objects id ↔
      Alive client.world.objects id ∨ AtOrBelow (parentOf after.objects) result id := by
  have sound' := transitions_sound sound steps
  have persists := transitions_persist sound steps
  constructor
  · intro alive
    rcases (alive_iff_held sound' id).mp alive with ⟨low, member, isBelow⟩
    rcases Multiset.mem_cons.mp member with same | inside
    · exact .inr (same ▸ isBelow)
    · left
      have back : ∀ node, Alive after.objects node → Alive client.world.objects node →
          parentOf after.objects node = parentOf client.world.objects node :=
        fun node still before => (persists_agree sound persists node before still).symm
      exact (below_carried (kept_of_sound sound') (kept_of_sound sound) back
        (sound'.heldLive low member) (sound.heldLive low inside) isBelow).1
  · intro split
    rcases split with before | isBelow
    · exact alive_of_still_held sound sound' persists
        (fun other inside => sound'.heldLive other (Multiset.mem_cons_of_mem inside)) id before
    · exact above_alive (kept_of_sound sound') isBelow
        (sound'.heldLive result (Multiset.mem_cons_self _ _))

theorem attach_child_returned {client : Client σ} (sound : ClientSound client)
    {origin result : ObjectId} (member : origin ∈ client.held) {group : SingleControlGroup}
    (live : client.world.objects origin = some group) {names : List Component}
    {after : World σ}
    (returned : attachChild kernel origin (.relative names) client.world = .ok result after) :
    AttachReturned client origin (lexicalPath group.controlGroup_ names) result after := by
  have steps := (attach_child_refines sound live (.relative names)).returned result after returned
  have sound' := transitions_sound sound steps
  have persists := transitions_persist sound steps
  have walked : walk kernel (attachDirectChild kernel) origin names client.world =
      .ok result after :=
    (relative_walks (attachDirectChild kernel) rfl).symm.trans returned
  have reached := walk_reaches (attach_step_refines kernel) (attach_step_lands kernel) sound
    member live walked
  have alive := sound'.heldLive result (Multiset.mem_cons_self _ _)
  refine ⟨alive, reached.sameTree, reached.path, ?_, ?_, population_of_return sound steps⟩
  · intro other otherAlive sameTree samePath
    exact unique_in_tree sound' otherAlive alive sameTree reached.sameTree
      (samePath.trans reached.path.symm)
  · intro other before sameTree samePath
    have still : Alive after.objects other := (population_of_return sound steps other).mpr
      (.inl before)
    have sameTree' := same_tree_carried sound sound' persists ⟨group, live⟩
      (sound'.heldLive origin (Multiset.mem_cons_of_mem member)) before still sameTree
    have path' : pathOf after.objects other = pathOf client.world.objects other :=
      path_carried sound persists before still
    exact unique_in_tree sound' alive still reached.sameTree sameTree'
      (reached.path.trans (path'.trans samePath).symm)

theorem attach_child_throws_iff {client : Client σ} (sound : ClientSound client)
    (steady : SteadyAnswers kernel client.world.kernel) {origin : ObjectId}
    (member : origin ∈ client.held) {group : SingleControlGroup}
    (live : client.world.objects origin = some group) (names : List Component) :
    (∀ failure after,
      attachChild kernel origin (.relative names) client.world = .error failure after →
        ∃ first name rest, names = first ++ name :: rest ∧
          Offending kernel client origin group
            (lexicalPath group.controlGroup_ (first ++ [name])) ∧
          (∀ earlier label later, first = earlier ++ label :: later →
            ¬Offending kernel client origin group
              (lexicalPath group.controlGroup_ (earlier ++ [label]))) ∧
          failure.path = some (Location.directory { group.location_ with
            controlGroup := lexicalPath group.controlGroup_ (first ++ [name]) })) ∧
    ((∃ first name rest, names = first ++ name :: rest ∧
        Offending kernel client origin group
          (lexicalPath group.controlGroup_ (first ++ [name]))) →
      ∃ failure after,
        attachChild kernel origin (.relative names) client.world = .error failure after) := by
  have walked : attachChild kernel origin (.relative names) client.world =
      walk kernel (attachDirectChild kernel) origin names client.world :=
    relative_walks (attachDirectChild kernel) rfl
  have cases := walk_cases (attach_step_refines kernel) sound live
    (WalkState kernel client origin group) (walk_state_start sound live)
    (fun _ _ _ _ _ _ steps state called =>
      walk_state_step sound steady member live steps state called) names
  rw [walked]
  constructor
  · intro failure after thrown
    rcases (cases.2 failure after thrown).2.2 with
      ⟨first, name, rest, current, middle, last, split, steps, state, failed, _⟩
    have offending := offending_of_throw sound steady member live steps state failed
    exact ⟨first, name, rest, split, offending.1, state.clear, offending.2⟩
  · intro ⟨first, name, rest, split, offending⟩
    cases called : walk kernel (attachDirectChild kernel) origin names client.world with
    | error failure after => exact ⟨failure, after, rfl⟩
    | ok result after =>
        have state := (cases.1 result after called).2
        exact absurd offending (state.clear first name rest split)

/-- In every reachable state `attachChild` resolves a relative path lexically:
the object it returns is the only one of the tree at the lexical result, the
heap grows by its ancestors only and does not change when the call throws; with
steady file statuses it throws exactly if some prefix is offending, naming the
first one. -/
theorem attach_child_resolves_lexically (kernel : Kernel σ) (instance_ : SystemInfoPointer)
    (state : σ) (actions : List (Action σ)) (client : Client σ)
    (executed : run (step kernel) (start instance_ state) actions = some client)
    (origin : ObjectId) (member : origin ∈ client.held) (group : SingleControlGroup)
    (live : client.world.objects origin = some group) (names : List Component) :
    (∀ id object, client.world.objects id = some object →
      (∀ name ∈ object.controlGroup_, name.IsOrdinary) ∧
        ∃ mountpoint, object.hierarchyInfo_.mountpoint = some mountpoint ∧
          object.location_.path = mountpoint ++ object.controlGroup_) ∧
    (∀ result after,
      attachChild kernel origin (.relative names) client.world = .ok result after →
        AttachReturned client origin (lexicalPath group.controlGroup_ names) result after) ∧
    (∀ failure after,
      attachChild kernel origin (.relative names) client.world = .error failure after →
        after.objects = client.world.objects) ∧
    (SteadyAnswers kernel client.world.kernel →
      (∀ failure after,
        attachChild kernel origin (.relative names) client.world = .error failure after →
          ∃ first name rest, names = first ++ name :: rest ∧
            Offending kernel client origin group
              (lexicalPath group.controlGroup_ (first ++ [name])) ∧
            (∀ earlier label later, first = earlier ++ label :: later →
              ¬Offending kernel client origin group
                (lexicalPath group.controlGroup_ (earlier ++ [label]))) ∧
            failure.path = some (Location.directory { group.location_ with
              controlGroup := lexicalPath group.controlGroup_ (first ++ [name]) })) ∧
      ((∃ first name rest, names = first ++ name :: rest ∧
          Offending kernel client origin group
            (lexicalPath group.controlGroup_ (first ++ [name]))) →
        ∃ failure after,
          attachChild kernel origin (.relative names) client.world = .error failure after)) := by
  have sound := run_sound executed
  refine ⟨?_, ?_, ?_, ?_⟩
  · intro id object objectLive
    have wired := sound.wired id object objectLive
    refine ⟨wired.ordinary, object.location_.mountpoint, wired.mounted, ?_⟩
    rw [Location.path, wired.locatedGroup]
  · intro result after returned
    exact attach_child_returned sound member live returned
  · intro failure after thrown
    have steps := ((attach_child_refines sound live (.relative names)).thrown _ _ thrown).1
    exact objects_eq_of_same_held sound (transitions_sound sound steps)
      (transitions_persist sound steps) rfl
  · intro steady
    exact attach_child_throws_iff sound steady member live names

theorem directory_kernel_steady (groups : List Group) :
    SteadyAnswers directoryKernel groups := by
  constructor
  · intro path type after asked
    simp only [directoryKernel] at asked
    split at asked <;> cases asked <;> rfl
  · intro path directory
    simp only [directoryKernel] at directory ⊢
    split at directory
    next present => rw [decide_eq_true present]
    next => cases directory
  · intro path after missing answered
    simp only [directoryKernel] at missing answered
    split at missing
    next => cases missing
    next absent =>
        rw [decide_eq_false absent] at answered
        cases answered

def nestedCreation : List (Action (List Group)) :=
  [.root 3, .createChild 0 (.relative [jobs]) 0o777, .createChild 1 (.relative [task]) 0o777,
    .drop 1]

/-- From the inner group, "../../jobs" leads to the outer one and "jobs" throws. -/
theorem attach_child_resolves_lexically_nested :
    ∃ client group, run (step directoryKernel) (start cpuSystem []) nestedCreation = some client ∧
      client.world.objects 2 = some group ∧
      (∃ result after,
        attachChild directoryKernel 2 (.relative [up, up, jobs]) client.world = .ok result after ∧
          AttachReturned client 2 (lexicalPath group.controlGroup_ [up, up, jobs]) result after) ∧
      ∃ first name rest, [jobs] = first ++ name :: rest ∧
        Offending directoryKernel client 2 group
          (lexicalPath group.controlGroup_ (first ++ [name])) := by
  refine ⟨_, _, rfl, rfl, ⟨_, _, rfl, ?_⟩, ?_⟩
  · exact (attach_child_resolves_lexically directoryKernel cpuSystem [] nestedCreation _ rfl 2
      (by decide) _ rfl [up, up, jobs]).2.1 _ _ rfl
  · have throws := ((attach_child_resolves_lexically directoryKernel cpuSystem [] nestedCreation _
      rfl 2 (by decide) _ rfl [jobs]).2.2.2 (directory_kernel_steady _)).1 _ _ rfl
    rcases throws with ⟨first, name, rest, split, offending, _⟩
    exact ⟨first, name, rest, split, offending⟩

end ContestSystem.Cgroup.AttachWalk
