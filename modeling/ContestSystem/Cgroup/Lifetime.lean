import ContestSystem.Cgroup.ClientRun

/-!
# Lifetime of created directories

The journal of a world lists every construction and every removal attempt.
`Chronicle` relates it to the heap: an object of a created directory has had
no removal attempt while it is alive and exactly one afterwards, and when its
attempt was made every directory created below it through its tree had been
attempted before. Each transition extends the journal by at most one event.
-/

namespace ContestSystem.Cgroup.Lifetime

open ContestSystem.Lib.Forest ContestSystem.Lib.Run
open SingleControlGroup Registry Construction Transition Population Members ClientRun

set_option autoImplicit false

variable {σ : Type} {kernel : Kernel σ} {client next : Client σ}

def isRemovalOf (object : ObjectId) : Event → Bool
  | .constructed _ _ _ _ => false
  | .removal other _ _ => other = object

/-- The removal attempts for the directory of the object. -/
def attempts (journal : List Event) (object : ObjectId) : Nat :=
  journal.countP (isRemovalOf object)

/-- `low` was constructed below `high`, directly or through other objects. -/
abbrev Lineage (journal : List Event) : ObjectId → ObjectId → Prop :=
  Relation.ReflTransGen fun low up =>
    ∃ kind location, .constructed low kind (some up) location ∈ journal

/-- `Before` holds of what happened before each removal attempt. -/
def Preceded (Before : List Event → ObjectId → Location → Prop) (journal : List Event) : Prop :=
  ∀ newer older object location answer,
    journal = newer ++ .removal object location answer :: older → Before older object location

/-- Only directories that the object itself created are removed. -/
abbrev OwnDirectories : List Event → Prop :=
  Preceded fun older object location =>
    ∃ parent, .constructed object .created parent location ∈ older

/-- A directory is removed after the directories created below it. -/
abbrev BottomUp : List Event → Prop :=
  Preceded fun older object _ =>
    ∀ low parent lowLocation, .constructed low .created parent lowLocation ∈ older →
      Lineage older low object → low ≠ object →
        ∃ lowAnswer, .removal low lowLocation lowAnswer ∈ older

structure Chronicle (objects : Heap) (fresh : ObjectId) (journal : List Event) : Prop where
  old : ∀ object kind parent location,
    .constructed object kind parent location ∈ journal → object < fresh
  live : ∀ object group, objects object = some group →
    .constructed object group.kind group.parent_ group.location_ ∈ journal
  unique : ∀ object kind parent location kind' parent' location',
    .constructed object kind parent location ∈ journal →
    .constructed object kind' parent' location' ∈ journal →
      kind = kind' ∧ parent = parent' ∧ location = location'
  own : OwnDirectories journal
  pending : ∀ object, Alive objects object → attempts journal object = 0
  done : ∀ object parent location, .constructed object .created parent location ∈ journal →
    ¬Alive objects object → attempts journal object = 1
  bottomUp : BottomUp journal

abbrev ClientChronicle (client : Client σ) : Prop :=
  Chronicle client.world.objects client.world.fresh client.world.journal

theorem chronicle_start (instance_ : SystemInfoPointer) (state : σ) :
    ClientChronicle (start instance_ state) := by
  constructor
  · intro object kind parent location member
    cases member
  · intro object group live
    cases live
  · intro object kind parent location kind' parent' location' member
    cases member
  · intro newer older object location answer split
    simp [start] at split
  · intro object alive
    rfl
  · intro object parent location member
    cases member
  · intro newer older object location answer split
    simp [start] at split

section Facts

variable {objects : Heap} {fresh : ObjectId} {journal : List Event} {held : Multiset ObjectId}

theorem attempts_removal (journal : List Event) (object other : ObjectId) (location : Location)
    (answer : Except Errno Bool) :
    attempts (.removal object location answer :: journal) other =
      attempts journal other + if other = object then 1 else 0 := by
  by_cases same : other = object
  · simp [attempts, isRemovalOf, same]
  · have different : object ≠ other := fun equal => same equal.symm
    simp [attempts, isRemovalOf, same, different]

theorem attempts_constructed (journal : List Event) (object other : ObjectId) (kind : Kind)
    (parent : Option ObjectId) (location : Location) :
    attempts (.constructed object kind parent location :: journal) other =
      attempts journal other := by
  simp [attempts, isRemovalOf]

theorem removal_of_attempted {object : ObjectId} (attempted : attempts journal object = 1) :
    ∃ location answer, .removal object location answer ∈ journal := by
  have positive : 0 < journal.countP (isRemovalOf object) := by
    rw [attempts] at attempted
    omega
  rcases List.countP_pos_iff.mp positive with ⟨event, member, isRemoval⟩
  cases event with
  | constructed other kind parent location => cases isRemoval
  | removal other location answer =>
      have same : other = object := by simpa [isRemovalOf] using isRemoval
      exact ⟨location, answer, same ▸ member⟩

theorem preceded_removal {Before : List Event → ObjectId → Location → Prop}
    (preceded : Preceded Before journal) {object : ObjectId} {location : Location}
    {answer : Except Errno Bool} (now : Before journal object location) :
    Preceded Before (.removal object location answer :: journal) := by
  intro newer older other otherLocation otherAnswer split
  cases newer with
  | nil =>
      cases split
      exact now
  | cons event newer =>
      cases split
      exact preceded newer older other otherLocation otherAnswer rfl

theorem preceded_constructed {Before : List Event → ObjectId → Location → Prop}
    (preceded : Preceded Before journal) {object : ObjectId} {kind : Kind}
    {parent : Option ObjectId} {location : Location} :
    Preceded Before (.constructed object kind parent location :: journal) := by
  intro newer older other otherLocation otherAnswer split
  cases newer with
  | nil => cases split
  | cons event newer =>
      cases split
      exact preceded newer older other otherLocation otherAnswer rfl

theorem created_of_removed (own : OwnDirectories journal) {object : ObjectId}
    {location : Location} {answer : Except Errno Bool}
    (member : .removal object location answer ∈ journal) :
    ∃ parent, .constructed object .created parent location ∈ journal := by
  rcases List.append_of_mem member with ⟨newer, older, split⟩
  rcases own newer older object location answer split with ⟨parent, made⟩
  have inside : .constructed object .created parent location ∈
      newer ++ .removal object location answer :: older :=
    List.mem_append_right _ (List.mem_cons_of_mem _ made)
  exact ⟨parent, split ▸ inside⟩

/-- For a live object the journal and the heap name the same ancestors. -/
theorem below_of_lineage (sound : Sound objects fresh held)
    (chronicle : Chronicle objects fresh journal) {low high : ObjectId}
    (alive : Alive objects low) (lineage : Lineage journal low high) :
    AtOrBelow (parentOf objects) low high := by
  have climb : AtOrBelow (parentOf objects) low high ∧ Alive objects high := by
    induction lineage with
    | refl => exact ⟨.refl, alive⟩
    | tail _ edge ih =>
        rcases ih with ⟨isBelow, group, live⟩
        rcases edge with ⟨kind, location, recorded⟩
        have known := chronicle.live _ group live
        have parentAt := (chronicle.unique _ _ _ _ _ _ _ known recorded).2.1
        have step : parentOf objects _ = some _ := (parent_of_live live).trans parentAt
        exact ⟨isBelow.tail step,
          (kept_of_sound sound).parent_alive _ ⟨group, live⟩ _ step⟩
  exact climb.1

theorem dead_below_last (sound : Sound objects fresh held)
    (chronicle : Chronicle objects fresh journal) {id low : ObjectId}
    {group : SingleControlGroup} (live : objects id = some group) (member : id ∈ held)
    (last : group.references = 1) (lineage : Lineage journal low id) (different : low ≠ id) :
    ¬Alive objects low := by
  intro alive
  have isBelow := below_of_lineage sound chronicle alive lineage
  exact different (lowest_of_last_reference sound live member last isBelow)

end Facts

section Changes

variable {objects objects' : Heap} {fresh fresh' : ObjectId} {journal : List Event}

theorem chronicle_same (chronicle : Chronicle objects fresh journal)
    (identity : ∀ id new, objects' id = some new →
      ∃ group, objects id = some group ∧ SameIdentity group new)
    (survive : ∀ id, Alive objects id → Alive objects' id) (later : fresh ≤ fresh') :
    Chronicle objects' fresh' journal := by
  constructor
  · intro object kind parent location member
    exact Nat.lt_of_lt_of_le (chronicle.old object kind parent location member) later
  · intro object new newLive
    rcases identity object new newLive with ⟨group, live, same⟩
    have known := chronicle.live object group live
    rw [same]
    exact known
  · exact chronicle.unique
  · exact chronicle.own
  · intro object ⟨new, newLive⟩
    rcases identity object new newLive with ⟨group, live, _⟩
    exact chronicle.pending object ⟨group, live⟩
  · intro object parent location member dead
    exact chronicle.done object parent location member fun alive => dead (survive object alive)
  · exact chronicle.bottomUp

theorem chronicle_constructed (chronicle : Chronicle objects fresh journal)
    {group : SingleControlGroup}
    (atFresh : objects' fresh = some { group with references := 1 })
    (identity : ∀ id new, id ≠ fresh → objects' id = some new →
      ∃ group, objects id = some group ∧ SameIdentity group new)
    (survive : ∀ id, Alive objects id → Alive objects' id) :
    Chronicle objects' (fresh + 1)
      (.constructed fresh group.kind group.parent_ group.location_ :: journal) := by
  constructor
  · intro object kind parent location member
    rcases List.mem_cons.mp member with new | inside
    · cases new
      exact Nat.lt_succ_self _
    · exact Nat.lt_succ_of_lt (chronicle.old object kind parent location inside)
  · intro object new newLive
    by_cases isFresh : object = fresh
    · rw [isFresh, atFresh] at newLive
      cases newLive
      rw [isFresh]
      exact List.mem_cons_self
    · rcases identity object new isFresh newLive with ⟨original, live, same⟩
      have known := chronicle.live object original live
      rw [same]
      exact List.mem_cons_of_mem _ known
  · intro object kind parent location kind' parent' location' member member'
    rcases List.mem_cons.mp member with new | inside
    · rcases List.mem_cons.mp member' with new' | inside'
      · cases new
        cases new'
        exact ⟨rfl, rfl, rfl⟩
      · cases new
        exact absurd (chronicle.old _ _ _ _ inside') (Nat.lt_irrefl _)
    · rcases List.mem_cons.mp member' with new' | inside'
      · cases new'
        exact absurd (chronicle.old _ _ _ _ inside) (Nat.lt_irrefl _)
      · exact chronicle.unique _ _ _ _ _ _ _ inside inside'
  · exact preceded_constructed chronicle.own
  · intro object ⟨new, newLive⟩
    rw [attempts_constructed]
    by_cases isFresh : object = fresh
    · -- A removal of a new address would need an older construction of it.
      rw [attempts, List.countP_eq_zero]
      intro event member isRemoval
      cases event with
      | constructed other kind parent location => cases isRemoval
      | removal other location answer =>
          have same : other = object := by simpa [isRemovalOf] using isRemoval
          rcases created_of_removed chronicle.own member with ⟨parent, made⟩
          have older := chronicle.old other _ _ _ made
          rw [same, isFresh] at older
          exact Nat.lt_irrefl _ older
    · rcases identity object new isFresh newLive with ⟨original, live, _⟩
      exact chronicle.pending object ⟨original, live⟩
  · intro object parent location member dead
    rw [attempts_constructed]
    rcases List.mem_cons.mp member with new | inside
    · have isFresh := (Event.constructed.inj new).1
      rw [isFresh] at dead
      exact absurd ⟨_, atFresh⟩ dead
    · exact chronicle.done object parent location inside fun alive =>
        dead (survive object alive)
  · exact preceded_constructed chronicle.bottomUp

theorem chronicle_destroyed_attached (chronicle : Chronicle objects fresh journal)
    {id : ObjectId} {group : SingleControlGroup} (live : objects id = some group)
    (attached : group.kind = .attached)
    (identity : ∀ other new, objects' other = some new →
      other ≠ id ∧ ∃ group, objects other = some group ∧ SameIdentity group new)
    (survive : ∀ other, other ≠ id → Alive objects other → Alive objects' other) :
    Chronicle objects' fresh journal := by
  constructor
  · exact chronicle.old
  · intro object new newLive
    rcases identity object new newLive with ⟨_, original, originally, same⟩
    have known := chronicle.live object original originally
    rw [same]
    exact known
  · exact chronicle.unique
  · exact chronicle.own
  · intro object ⟨new, newLive⟩
    rcases identity object new newLive with ⟨_, original, originally, _⟩
    exact chronicle.pending object ⟨original, originally⟩
  · intro object parent location member dead
    apply chronicle.done object parent location member
    intro alive
    by_cases same : object = id
    · have known := chronicle.live id group live
      rw [← same] at known
      have kinds := (chronicle.unique _ _ _ _ _ _ _ known member).1
      rw [attached] at kinds
      cases kinds
    · exact dead (survive object same alive)
  · exact chronicle.bottomUp

theorem chronicle_destroyed_created {held : Multiset ObjectId}
    (sound : Sound objects fresh held) (chronicle : Chronicle objects fresh journal)
    {id : ObjectId} {group : SingleControlGroup} (live : objects id = some group)
    (member : id ∈ held) (last : group.references = 1) (created : group.kind = .created)
    (answer : Except Errno Bool)
    (identity : ∀ other new, objects' other = some new →
      other ≠ id ∧ ∃ group, objects other = some group ∧ SameIdentity group new)
    (survive : ∀ other, other ≠ id → Alive objects other → Alive objects' other) :
    Chronicle objects' fresh (.removal id group.location_ answer :: journal) := by
  have known := chronicle.live id group live
  rw [created] at known
  constructor
  · intro object kind parent location inside
    rcases List.mem_cons.mp inside with new | inside
    · cases new
    · exact chronicle.old object kind parent location inside
  · intro object new newLive
    rcases identity object new newLive with ⟨_, original, originally, same⟩
    have recorded := chronicle.live object original originally
    rw [same]
    exact List.mem_cons_of_mem _ recorded
  · intro object kind parent location kind' parent' location' inside inside'
    rcases List.mem_cons.mp inside with new | inside
    · cases new
    · rcases List.mem_cons.mp inside' with new | inside'
      · cases new
      · exact chronicle.unique _ _ _ _ _ _ _ inside inside'
  · exact preceded_removal chronicle.own ⟨group.parent_, known⟩
  · intro object ⟨new, newLive⟩
    rcases identity object new newLive with ⟨different, original, originally, _⟩
    rw [attempts_removal, if_neg different]
    exact chronicle.pending object ⟨original, originally⟩
  · intro object parent location inside dead
    rcases List.mem_cons.mp inside with new | inside
    · cases new
    · rw [attempts_removal]
      by_cases same : object = id
      · rw [if_pos same, same, chronicle.pending id ⟨group, live⟩]
      · rw [if_neg same]
        exact chronicle.done object parent location inside fun alive =>
          dead (survive object same alive)
  · apply preceded_removal chronicle.bottomUp
    intro low parent lowLocation made lineage different
    have dead := dead_below_last sound chronicle live member last lineage different
    have attempted := chronicle.done low parent lowLocation made dead
    rcases removal_of_attempted attempted with ⟨location, lowAnswer, removed⟩
    rcases created_of_removed chronicle.own removed with ⟨parent', made'⟩
    have sameLocation := (chronicle.unique _ _ _ _ _ _ _ made' made).2.2
    exact ⟨lowAnswer, sameLocation ▸ removed⟩

end Changes

section Steps

theorem modify_chronicle (chronicle : ClientChronicle client) (id : ObjectId)
    {change : SingleControlGroup → SingleControlGroup} (held : Multiset ObjectId)
    (identity : ∀ group, SameIdentity group (change group)) :
    ClientChronicle ⟨client.world.modify id change, held⟩ :=
  chronicle_same chronicle
    (fun _ _ live => modify_identity client.world id identity live)
    (fun _ alive => modify_alive client.world id change alive) (Nat.le_refl _)

theorem adopted_chronicle (sound : ClientSound client) (chronicle : ClientChronicle client)
    {self : ObjectId} {above child : SingleControlGroup} {name : Component}
    {held : Multiset ObjectId} (live : client.world.objects self = some above)
    (parentAt : child.parent_ = some self) :
    ClientChronicle ⟨client.world.adopt self name child, held⟩ := by
  have selfOld : self ≠ client.world.fresh := Nat.ne_of_lt (sound.bounded self above live)
  have objects := adopt_objects client.world name live parentAt selfOld
  have extended : Chronicle (client.world.adopt self name child).objects
      (client.world.fresh + 1)
      (.constructed client.world.fresh child.kind child.parent_ child.location_ ::
        client.world.journal) := by
    apply chronicle_constructed chronicle
    · exact adopt_adopted client.world name live parentAt selfOld
    · intro id new notFresh newLive
      rw [objects, if_neg notFresh] at newLive
      split at newLive
      next same =>
          cases newLive
          exact ⟨above, same ▸ live, rfl⟩
      next => exact ⟨new, newLive, same_identity_refl new⟩
    · intro id alive
      exact adopt_alive client.world name live parentAt selfOld alive
  exact extended

theorem rooted_chronicle (sound : ClientSound client) (chronicle : ClientChronicle client)
    {hierarchyId : Nat} {group : SingleControlGroup} {held : Multiset ObjectId}
    (object : RootObject client.world.instance_ hierarchyId group) :
    ClientChronicle ⟨client.world.insert group, held⟩ := by
  have objects : (client.world.insert group).objects =
      Function.update client.world.objects client.world.fresh
        (some { group with references := 1 }) := by
    simp only [World.insert, object.parent]
  have atFresh : (client.world.insert group).objects client.world.fresh =
      some { group with references := 1 } := by
    rw [objects, Function.update_self]
  apply chronicle_constructed chronicle atFresh
  · intro id new notFresh newLive
    change (client.world.insert group).objects id = _ at newLive
    rw [objects, Function.update_of_ne notFresh] at newLive
    exact ⟨new, newLive, same_identity_refl new⟩
  · intro id alive
    rcases alive with ⟨other, otherLive⟩
    have notFresh := Nat.ne_of_lt (sound.bounded id other otherLive)
    show Alive (client.world.insert group).objects id
    rw [Alive, objects, Function.update_of_ne notFresh]
    exact ⟨other, otherLive⟩

theorem destroyed_chronicle (sound : ClientSound client) (chronicle : ClientChronicle client)
    {id : ObjectId} {group : SingleControlGroup} {held : Multiset ObjectId}
    (live : client.world.objects id = some group) (member : id ∈ client.held)
    (last : group.references = 1) :
    ClientChronicle ⟨destroy kernel id group client.world, held⟩ := by
  show Chronicle (destroy kernel id group client.world).objects
    (destroy kernel id group client.world).fresh (destroy kernel id group client.world).journal
  have identity : ∀ other new, (destroy kernel id group client.world).objects other = some new →
      other ≠ id ∧ ∃ group, client.world.objects other = some group ∧ SameIdentity group new :=
    fun _ _ newLive => destroy_identity kernel client.world newLive
  have survive : ∀ other, other ≠ id → Alive client.world.objects other →
      Alive (destroy kernel id group client.world).objects other :=
    fun _ different alive => destroy_alive kernel id group client.world different alive
  rw [destroy_fresh]
  cases kind : group.kind with
  | attached =>
      rw [destroy_attached_journal kernel id _ kind]
      exact chronicle_destroyed_attached chronicle live kind identity survive
  | created =>
      rw [(destroy_created kernel id client.world kind).2]
      exact chronicle_destroyed_created sound chronicle live member last kind _ identity survive

theorem transition_chronicle (sound : ClientSound client) (chronicle : ClientChronicle client)
    (step : Transition kernel client next) : ClientChronicle next := by
  cases step with
  | asked after answered => exact chronicle
  | retained id group live =>
      apply modify_chronicle chronicle id
      exact fun _ => rfl
  | rooted hierarchyId group object => exact rooted_chronicle sound chronicle object
  | attached self above name live ordinary unregistered =>
      exact adopted_chronicle sound chronicle live rfl
  | created self above name mode after live ordinary unregistered made =>
      have askedSound : ClientSound ⟨client.world.asked after, client.held⟩ := sound
      have asked : ClientChronicle ⟨client.world.asked after, client.held⟩ := chronicle
      exact adopted_chronicle askedSound asked live rfl
  | yielded id group live member several =>
      apply modify_chronicle chronicle id
      exact fun _ => rfl
  | destroyed id group live member last =>
      exact destroyed_chronicle sound chronicle live member last

theorem transitions_chronicle (sound : ClientSound client) (chronicle : ClientChronicle client)
    (steps : Transitions kernel client next) : ClientChronicle next := by
  induction steps with
  | refl => exact chronicle
  | tail steps step ih => exact transition_chronicle (transitions_sound sound steps) ih step

theorem transition_journal (step : Transition kernel client next) :
    client.world.journal <:+ next.world.journal := by
  cases step with
  | asked after answered => exact List.suffix_refl _
  | retained id group live => exact List.suffix_refl _
  | rooted hierarchyId group object => exact List.suffix_cons _ _
  | attached self above name live ordinary unregistered => exact List.suffix_cons _ _
  | created self above name mode after live ordinary unregistered made =>
      exact List.suffix_cons _ _
  | yielded id group live member several => exact List.suffix_refl _
  | destroyed id group live member last =>
      cases kind : group.kind with
      | attached =>
          show _ <:+ (destroy kernel id group client.world).journal
          rw [destroy_attached_journal kernel id _ kind]
      | created =>
          show _ <:+ (destroy kernel id group client.world).journal
          rw [(destroy_created kernel id client.world kind).2]
          exact List.suffix_cons _ _

/-- A removal enters the journal where the kernel was asked for it and answered. -/
structure Removed (kernel : Kernel σ) (before after : Client σ) (object : ObjectId)
    (location : Location) (answer : Except Errno Bool) : Prop where
  called : removal kernel location before.world.kernel = (answer, after.world.kernel)
  recorded : after.world.journal = .removal object location answer :: before.world.journal

theorem transition_removal (step : Transition kernel client next) {object : ObjectId}
    {location : Location} {answer : Except Errno Bool} {older : List Event}
    (absent : ¬.removal object location answer :: older <:+ client.world.journal)
    (present : .removal object location answer :: older <:+ next.world.journal) :
    Removed kernel client next object location answer ∧ client.world.journal = older := by
  have added : ∀ event, next.world.journal = event :: client.world.journal →
      Event.removal object location answer = event ∧ older = client.world.journal := by
    intro event extended
    rw [extended] at present
    rcases List.suffix_cons_iff.mp present with same | before
    · exact List.cons.inj same
    · exact absurd before absent
  cases step with
  | asked after answered => exact absurd present absent
  | retained id group live => exact absurd present absent
  | rooted hierarchyId group object => cases (added _ rfl).1
  | attached self above name live ordinary unregistered => cases (added _ rfl).1
  | created self above name mode after live ordinary unregistered made => cases (added _ rfl).1
  | yielded id group live member several => exact absurd present absent
  | destroyed id group live member last =>
      cases kind : group.kind with
      | attached =>
          have same : (destroy kernel id group client.world).journal = client.world.journal :=
            destroy_attached_journal kernel id client.world kind
          exact absurd (same ▸ present) absent
      | created =>
          have outcome := destroy_created kernel id client.world kind
          rcases added _ outcome.2 with ⟨same, before⟩
          cases same
          exact ⟨⟨Prod.ext rfl outcome.1.symm, outcome.2⟩, before.symm⟩

theorem transitions_removal (steps : Transitions kernel client next) {object : ObjectId}
    {location : Location} {answer : Except Errno Bool} {older : List Event}
    (absent : ¬.removal object location answer :: older <:+ client.world.journal)
    (present : .removal object location answer :: older <:+ next.world.journal) :
    ∃ before after, Transitions kernel client before ∧ Transitions kernel after next ∧
      Removed kernel before after object location answer ∧ before.world.journal = older := by
  induction steps with
  | refl => exact absurd present absent
  | @tail middle finish steps step ih =>
      by_cases already : .removal object location answer :: older <:+ middle.world.journal
      · rcases ih already with ⟨before, after, first, rest, removed⟩
        exact ⟨before, after, first, rest.tail step, removed⟩
      · exact ⟨middle, finish, steps, .refl, transition_removal step already present⟩

theorem transitions_journal (steps : Transitions kernel client next) :
    client.world.journal <:+ next.world.journal := by
  induction steps with
  | refl => exact List.suffix_refl _
  | tail _ step ih => exact ih.trans (transition_journal step)

end Steps

section Runs

theorem step_chronicle (sound : ClientSound client) (chronicle : ClientChronicle client)
    {action : Action σ} (stepped : step kernel client action = some next) :
    ClientChronicle next ∧ client.world.journal <:+ next.world.journal := by
  rcases step_cases sound stepped with unrelated | steps
  · constructor
    · show Chronicle next.world.objects next.world.fresh next.world.journal
      rw [unrelated.objects, unrelated.fresh, unrelated.journal]
      exact chronicle
    · rw [unrelated.journal]
  · exact ⟨transitions_chronicle sound chronicle steps, transitions_journal steps⟩

theorem run_chronicle {instance_ : SystemInfoPointer} {state : σ} {actions : List (Action σ)}
    (executed : run (step kernel) (start instance_ state) actions = some client) :
    ClientSound client ∧ ClientChronicle client := by
  apply run_invariant (fun client => ClientSound client ∧ ClientChronicle client) _ _ executed
  · intro client action next kept stepped
    exact ⟨step_sound kept.1 stepped, (step_chronicle kept.1 kept.2 stepped).1⟩
  · exact ⟨start_sound instance_ state, chronicle_start instance_ state⟩

theorem run_journal (sound : ClientSound client) (chronicle : ClientChronicle client)
    {actions : List (Action σ)} (executed : run (step kernel) client actions = some next) :
    client.world.journal <:+ next.world.journal := by
  have kept := run_invariant
    (fun later => (ClientSound later ∧ ClientChronicle later) ∧
      client.world.journal <:+ later.world.journal)
    (fun _ _ _ kept stepped =>
      have extended := step_chronicle kept.1.1 kept.1.2 stepped
      ⟨⟨step_sound kept.1.1 stepped, extended.1⟩, kept.2.trans extended.2⟩)
    ⟨⟨sound, chronicle⟩, List.suffix_refl _⟩ executed
  exact kept.2

/-- Every removal that the journal lists is a call of `remove` in the run, with its answer. -/
theorem removals_called {instance_ : SystemInfoPointer} {state : σ} {actions : List (Action σ)}
    (executed : run (step kernel) (start instance_ state) actions = some client)
    {newer older : List Event} {object : ObjectId} {location : Location}
    {answer : Except Errno Bool}
    (split : client.world.journal = newer ++ .removal object location answer :: older) :
    ∃ earlier action later middle next before after, actions = earlier ++ action :: later ∧
      run (step kernel) (start instance_ state) earlier = some middle ∧
      step kernel middle action = some next ∧ Transitions kernel middle before ∧
      Transitions kernel after next ∧ Removed kernel before after object location answer ∧
      before.world.journal = older := by
  have empty : ¬.removal object location answer :: older <:+
      (start instance_ state).world.journal := by
    simp [start]
  rcases run_enters (fun client => .removal object location answer :: older <:+
      client.world.journal) empty ⟨newer, split.symm⟩ executed with
    ⟨earlier, action, later, middle, next, actionsAre, reached, absent, stepped, present, _⟩
  rcases step_cases (run_chronicle reached).1 stepped with unrelated | steps
  · rw [unrelated.journal] at present
    exact absurd present absent
  · rcases transitions_removal steps absent present with
      ⟨before, after, first, rest, removed, journal⟩
    exact ⟨earlier, action, later, middle, next, before, after, actionsAre, reached, stepped,
      first, rest, removed, journal⟩

/-- A directory created below the object's has not been removed. -/
def HeldBack (older : List Event) (object : ObjectId) : Prop :=
  ∃ low parent location, .constructed low .created parent location ∈ older ∧
    Lineage older low object ∧ low ≠ object ∧
      ∀ removed, .removal low location (.ok removed) ∉ older

/-- All the removals tried below the object's directory succeeded. -/
def BelowRemoved (older : List Event) (object : ObjectId) : Prop :=
  ∀ low location answer, .removal low location answer ∈ older → Lineage older low object →
    low ≠ object → ∃ removed, answer = .ok removed

structure RemovedInTime (client : Client σ) : Prop where
  pending : ∀ object,
    (∃ low ∈ client.held, AtOrBelow (parentOf client.world.objects) low object) →
      attempts client.world.journal object = 0
  done : ∀ object parent location,
    .constructed object .created parent location ∈ client.world.journal →
      (¬∃ low ∈ client.held, AtOrBelow (parentOf client.world.objects) low object) →
        attempts client.world.journal object = 1
  own : OwnDirectories client.world.journal
  bottomUp : BottomUp client.world.journal
  released : Preceded (fun older object _ => BelowRemoved older object → ¬HeldBack older object)
    client.world.journal

theorem removed_in_time_of_chronicle (sound : ClientSound client)
    (chronicle : ClientChronicle client) : RemovedInTime client := by
  constructor
  · intro object isHeld
    exact chronicle.pending object ((alive_iff_held sound object).mpr isHeld)
  · intro object parent location made notHeld
    apply chronicle.done object parent location made
    intro alive
    exact notHeld ((alive_iff_held sound object).mp alive)
  · exact chronicle.own
  · exact chronicle.bottomUp
  · intro newer older object location answer split succeeded heldBack
    rcases heldBack with ⟨low, parent, lowLocation, made, lineage, different, standing⟩
    rcases chronicle.bottomUp newer older object location answer split low parent lowLocation
      made lineage different with ⟨lowAnswer, removal⟩
    rcases succeeded low lowLocation lowAnswer removal lineage different with ⟨removed, answered⟩
    exact standing removed (answered ▸ removal)

/-- The outer group of `nestedRun` outlives its own pointer until the pointers
below it are gone; then both directories are removed, the inner one first. -/
def unnesting : List (Action (List Group)) := [.drop 1, .drop 0, .drop 2]

end Runs

end ContestSystem.Cgroup.Lifetime
