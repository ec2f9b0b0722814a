import ContestSystem.Cgroup.MultipleRun
import ContestSystem.Lib.Ownership

/-!
# What a program leaves in the hierarchies

A directory that `createChild` made is removed by the destructor of its object,
which ignores every error. `Accounts` keeps the groups of a region in balance
with the journal: what exists was there before or stands because its object
lives or its removal was refused. A removal is refused exactly where another
directory stands below, so a program that nests its groups through one tree
and lets them go without tasks leaves nothing behind.
-/

namespace ContestSystem.Cgroup.DirectoryAccounts

open ContestSystem.Lib.Forest ContestSystem.Lib.Ownership ContestSystem.Lib.Run
open SingleControlGroup Registry Construction Transition Population GroupDirectories Lifetime
open CreateRollback MultipleRun
open ClientRun (directoryKernel cpuSystem jobs task)

set_option autoImplicit false

variable {σ : Type}

/-- The group exists without tasks and without groups below it. -/
def Vacant (groups populated : σ → Set Group) (state : σ) (group : Group) : Prop :=
  group ∈ groups state ∧ group ∉ populated state ∧
    ∀ other ∈ groups state, ¬other.StrictlyBelow group

/-- A directory that is not vacant stays. -/
structure RemovalLaws (kernel : Kernel σ) (used : Set Location)
    (groups populated : σ → Set Group) : Prop
    extends DirectoryLaws kernel used groups populated where
  refused : ∀ location ∈ used, ∀ state, ¬Vacant groups populated state location.group →
    (removal kernel location state).1 ≠ .ok true ∧
      groups (removal kernel location state).2 = groups state ∧
      populated (removal kernel location state).2 = populated state

/-- Groups among which nobody else makes or removes directories. -/
structure Region where
  groups : Set Group
  closed : ∀ group ∈ groups, ∀ other, other.StrictlyBelow group → other ∈ groups

def madeAt (journal : List Event) : Set Location :=
  { location | ∃ object parent, .constructed object .created parent location ∈ journal }

/-- The object made the group's directory and has not removed it. -/
def Standing (journal : List Event) (object : ObjectId) (group : Group) : Prop :=
  ∃ parent location, .constructed object .created parent location ∈ journal ∧
    location.group = group ∧ .removal object location (.ok true) ∉ journal

/-- No directory that the program made stands below the group. -/
def Bare (journal : List Event) (group : Group) : Prop :=
  ∀ low other, Standing journal low other → ¬other.StrictlyBelow group

/-- A removal succeeds exactly where nothing stands below. -/
abbrev Answered (region : Region) : List Event → Prop :=
  Accounted fun older event => ∀ object location answer,
    event = .removal object location answer → location.group ∈ region.groups →
      (answer = .ok true ↔ Bare older location.group)

structure Accounts (groups : σ → Set Group) (region : Region) (original : Set Group)
    (client : Client σ) : Prop where
  exactly : ∀ group ∈ region.groups, group ∈ groups client.world.kernel ↔
    group ∈ original ∨ ∃ object, Standing client.world.journal object group
  once : ∀ left right group, group ∈ region.groups →
    Standing client.world.journal left group → Standing client.world.journal right group →
      left = right
  clear : ∀ object parent location,
    .constructed object .created parent location ∈ client.world.journal →
      location.group ∈ region.groups → location.group ∉ original ∧
        ∀ other ∈ original, ¬other.StrictlyBelow location.group
  answered : Answered region client.world.journal

variable {kernel : Kernel σ} {used : Set Location} {groups populated : σ → Set Group}
  {region : Region} {original : Set Group} {origin client next : Client σ}

section Journal

variable {journal : List Event} {objects : Heap} {fresh object : ObjectId} {group : Group}

theorem standing_attached (id : ObjectId) (parent : Option ObjectId) (location : Location) :
    Standing (.constructed id .attached parent location :: journal) object group ↔
      Standing journal object group := by
  simp [Standing]

theorem made_at_mono {older newer : List Event} (extended : older <:+ newer) :
    madeAt older ⊆ madeAt newer :=
  fun _ ⟨object, parent, made⟩ => ⟨object, parent, extended.subset made⟩

theorem standing_created (chronicle : Chronicle objects fresh journal)
    (parent : Option ObjectId) (location : Location) :
    Standing (.constructed fresh .created parent location :: journal) object group ↔
      Standing journal object group ∨ object = fresh ∧ location.group = group := by
  have unused : ∀ other answer, .removal fresh other answer ∉ journal := by
    intro other answer member
    rcases created_of_removed chronicle.own member with ⟨above, made⟩
    exact absurd (chronicle.old _ _ _ _ made) (Nat.lt_irrefl _)
  constructor
  · rintro ⟨above, other, made, same, stands⟩
    have unremoved := fun member => stands (List.mem_cons_of_mem _ member)
    rcases List.mem_cons.mp made with new | inside
    · cases new
      exact .inr ⟨rfl, same⟩
    · exact .inl ⟨above, other, inside, same, unremoved⟩
  · rintro (⟨above, other, inside, same, stands⟩ | ⟨rfl, same⟩)
    · exact ⟨above, other, List.mem_cons_of_mem _ inside, same, by simpa using stands⟩
    · exact ⟨parent, location, List.mem_cons_self, same, by simpa using unused location (.ok true)⟩

theorem standing_removed (chronicle : Chronicle objects fresh journal) {id : ObjectId}
    {parent : Option ObjectId} {location : Location}
    (made : .constructed id .created parent location ∈ journal) (answer : Except Errno Bool) :
    Standing (.removal id location answer :: journal) object group ↔
      Standing journal object group ∧ (object = id → answer ≠ .ok true) := by
  constructor
  · rintro ⟨above, other, inside, same, stands⟩
    rcases List.mem_cons.mp inside with new | before
    · cases new
    · refine ⟨⟨above, other, before, same, fun member => stands (by simp [member])⟩, ?_⟩
      rintro rfl rfl
      rw [(chronicle.unique _ _ _ _ _ _ _ before made).2.2] at stands
      exact stands List.mem_cons_self
  · rintro ⟨⟨above, other, before, same, stands⟩, refused⟩
    refine ⟨above, other, List.mem_cons_of_mem _ before, same, ?_⟩
    intro member
    rcases List.mem_cons.mp member with new | inside
    · cases new
      exact refused rfl rfl
    · exact stands inside

end Journal

theorem strictly_below_irrefl (group : Group) : ¬group.StrictlyBelow group :=
  fun isBelow => isBelow.2.2 rfl

theorem removal_cases (laws : RemovalLaws kernel used groups populated) {location : Location}
    (isUsed : location ∈ used) (state : σ) :
    let outcome := removal kernel location state
    populated outcome.2 = populated state ∧
      (Vacant groups populated state location.group ∧ outcome.1 = .ok true ∧
          groups outcome.2 = groups state \ {location.group} ∨
        ¬Vacant groups populated state location.group ∧ outcome.1 ≠ .ok true ∧
          groups outcome.2 = groups state) := by
  by_cases vacant : Vacant groups populated state location.group
  · rcases laws.removed location isUsed state vacant.1 vacant.2.1 vacant.2.2 with
      ⟨after, answered, removed, samePopulated⟩
    rw [removal_ok answered]
    exact ⟨samePopulated, .inl ⟨vacant, rfl, removed⟩⟩
  · have refused := laws.refused location isUsed state vacant
    exact ⟨refused.2.2, .inr ⟨vacant, refused.1, refused.2.1⟩⟩

theorem live_standing (chronicle : ClientChronicle client) {id : ObjectId}
    {group : SingleControlGroup} (live : client.world.objects id = some group)
    (created : group.kind = .created) :
    Standing client.world.journal id group.location_.group := by
  have known := chronicle.live id group live
  rw [created] at known
  refine ⟨group.parent_, group.location_, known, rfl, ?_⟩
  intro member
  have pending := chronicle.pending id ⟨group, live⟩
  rw [attempts, List.countP_eq_zero] at pending
  exact pending _ member (by simp [isRemovalOf])

theorem Accounts.same (accounts : Accounts groups region original client)
    (journal : next.world.journal = client.world.journal)
    (unchanged : ∀ group ∈ region.groups,
      group ∈ groups next.world.kernel ↔ group ∈ groups client.world.kernel) :
    Accounts groups region original next := by
  constructor
  · intro group inside
    rw [unchanged group inside, journal]
    exact accounts.exactly group inside
  · rw [journal]
    exact accounts.once
  · rw [journal]
    exact accounts.clear
  · rw [journal]
    exact accounts.answered

theorem Accounts.attached (accounts : Accounts groups region original client) {id : ObjectId}
    {parent : Option ObjectId} {location : Location}
    (journal : next.world.journal = .constructed id .attached parent location ::
      client.world.journal)
    (kernelAt : next.world.kernel = client.world.kernel) :
    Accounts groups region original next := by
  constructor
  · intro group inside
    rw [kernelAt, journal, accounts.exactly group inside]
    simp only [standing_attached]
  · rw [journal]
    simp only [standing_attached]
    exact accounts.once
  · rw [journal]
    intro object above other made
    rcases List.mem_cons.mp made with new | before
    · cases new
    · exact accounts.clear object above other before
  · rw [journal]
    exact ⟨nofun, accounts.answered⟩

theorem Accounts.made (laws : RemovalLaws kernel used groups populated)
    (accounts : Accounts groups region original client) (chronicle : ClientChronicle client)
    {parent : Option ObjectId} {location : Location} (isUsed : location ∈ used) {mode : Mode}
    {after : σ}
    (made : kernel.mkdir location mode client.world.kernel = .ok () after)
    (journal : next.world.journal = .constructed client.world.fresh .created parent location ::
      client.world.journal)
    (kernelAt : next.world.kernel = after) : Accounts groups region original next := by
  rcases laws.made location isUsed mode _ after made with ⟨absent, _, leaf, inserted, _⟩
  have newOnly : ∀ object group, group ∈ region.groups → location.group = group →
      ¬Standing client.world.journal object group := by
    rintro object group inside rfl stands
    exact absent ((accounts.exactly _ inside).mpr (.inr ⟨object, stands⟩))
  constructor
  · intro group inside
    rw [kernelAt, journal, inserted, Set.mem_insert_iff, accounts.exactly group inside]
    simp only [standing_created chronicle]
    constructor
    · rintro (same | old | ⟨object, stands⟩)
      · exact .inr ⟨_, .inr ⟨rfl, same.symm⟩⟩
      · exact .inl old
      · exact .inr ⟨object, .inl stands⟩
    · rintro (old | ⟨object, stands | ⟨_, same⟩⟩)
      · exact .inr (.inl old)
      · exact .inr (.inr ⟨object, stands⟩)
      · exact .inl same.symm
  · rw [journal]
    intro left right group inside
    simp only [standing_created chronicle]
    rintro (first | ⟨rfl, isNew⟩) (second | ⟨rfl, isNew'⟩)
    · exact accounts.once left right group inside first second
    · exact absurd first (newOnly left group inside isNew')
    · exact absurd second (newOnly right group inside isNew)
    · rfl
  · rw [journal]
    intro object above other isMade inside
    rcases List.mem_cons.mp isMade with new | before
    · cases new
      refine ⟨fun old => absent ((accounts.exactly _ inside).mpr (.inl old)), ?_⟩
      intro below old isBelow
      have belowInside := region.closed _ inside below isBelow
      exact leaf below ((accounts.exactly below belowInside).mpr (.inl old)) isBelow
    · exact accounts.clear object above other before inside
  · rw [journal]
    exact ⟨nofun, accounts.answered⟩

/-- Where the object's group has no tasks, only a directory below it keeps it. -/
theorem vacant_iff_bare (accounts : Accounts groups region original client)
    (chronicle : ClientChronicle client) {id : ObjectId} {group : SingleControlGroup}
    (live : client.world.objects id = some group) (created : group.kind = .created)
    (inside : group.location_.group ∈ region.groups)
    (untasked : group.location_.group ∉ populated client.world.kernel) :
    Vacant groups populated client.world.kernel group.location_.group ↔
      Bare client.world.journal group.location_.group := by
  have known := chronicle.live id group live
  rw [created] at known
  constructor
  · intro ⟨_, _, leaf⟩ low other stands isBelow
    have otherInside := region.closed _ inside other isBelow
    exact leaf other ((accounts.exactly other otherInside).mpr (.inr ⟨low, stands⟩)) isBelow
  · intro bare
    refine ⟨(accounts.exactly _ inside).mpr (.inr ⟨id, live_standing chronicle live created⟩),
      untasked, ?_⟩
    intro other present isBelow
    have otherInside := region.closed _ inside other isBelow
    rcases (accounts.exactly other otherInside).mp present with old | ⟨low, stands⟩
    · exact (accounts.clear id _ _ known inside).2 other old isBelow
    · exact bare low other stands isBelow

/-- The directory goes with its object or is refused and stands from then on. -/
theorem Accounts.removed (laws : RemovalLaws kernel used groups populated)
    (accounts : Accounts groups region original client) (chronicle : ClientChronicle client)
    {id : ObjectId} {group : SingleControlGroup} (live : client.world.objects id = some group)
    (created : group.kind = .created) (isUsed : group.location_ ∈ used)
    (untasked : group.location_.group ∈ region.groups →
      group.location_.group ∉ populated client.world.kernel)
    (journal : next.world.journal =
      .removal id group.location_ (removal kernel group.location_ client.world.kernel).1 ::
        client.world.journal)
    (kernelAt : next.world.kernel = (removal kernel group.location_ client.world.kernel).2) :
    Accounts groups region original next := by
  have known := chronicle.live id group live
  rw [created] at known
  have stands := live_standing chronicle live created
  have outcome := (removal_cases laws isUsed client.world.kernel).2
  constructor
  · intro other inside
    rw [kernelAt, journal]
    simp only [standing_removed chronicle known]
    rcases outcome with ⟨_, answered, removed⟩ | ⟨_, refused, unchanged⟩
    · rw [removed, Set.mem_sdiff, Set.mem_singleton_iff, accounts.exactly other inside, answered]
      constructor
      · rintro ⟨old | ⟨object, otherStands⟩, different⟩
        · exact .inl old
        · refine .inr ⟨object, otherStands, fun same => absurd ?_ different⟩
          rcases otherStands with ⟨parent, location, made, sameGroup, _⟩
          rw [← sameGroup]
          rw [same] at made
          rw [(chronicle.unique _ _ _ _ _ _ _ made known).2.2]
      · rintro (old | ⟨object, otherStands, different⟩)
        · refine ⟨.inl old, ?_⟩
          rintro rfl
          exact (accounts.clear id _ _ known inside).1 old
        · refine ⟨.inr ⟨object, otherStands⟩, ?_⟩
          rintro rfl
          exact different (accounts.once object id _ inside otherStands stands) rfl
    · rw [unchanged, accounts.exactly other inside]
      simp only [ne_eq, refused, not_false_eq_true, implies_true, and_true]
  · rw [journal]
    intro left right other inside
    simp only [standing_removed chronicle known]
    rintro ⟨first, _⟩ ⟨second, _⟩
    exact accounts.once left right other inside first second
  · rw [journal]
    intro object parent location made
    rcases List.mem_cons.mp made with new | before
    · cases new
    · exact accounts.clear object parent location before
  · rw [journal]
    refine ⟨?_, accounts.answered⟩
    intro object location answer event inside
    cases event
    rw [← vacant_iff_bare accounts chronicle live created inside (untasked inside)]
    rcases outcome with ⟨vacant, answered, _⟩ | ⟨occupied, refused, _⟩
    · exact iff_of_true answered vacant
    · exact iff_of_false refused occupied

/-- The objects that go between two clients have no tasks in their groups. -/
def Vacated (populated : σ → Set Group) (region : Region) (origin next : Client σ) : Prop :=
  ∀ id object, origin.world.objects id = some object → object.kind = .created →
    object.location_.group ∈ region.groups → ¬Alive next.world.objects id →
      object.location_.group ∉ populated origin.world.kernel

/-- The accounts in the middle of a step that began at `origin`. -/
structure Underway (groups populated : σ → Set Group) (region : Region) (original : Set Group)
    (origin client : Client σ) : Prop where
  accounts : Accounts groups region original client
  tasks : populated client.world.kernel = populated origin.world.kernel
  untasked : ∀ id object, client.world.objects id = some object → object.kind = .created →
    origin.world.fresh ≤ id → object.location_.group ∉ populated origin.world.kernel

theorem Underway.untasked_next
    (underway : Underway groups populated region original origin client)
    (sound' : ClientSound next) (persists : Persists client next)
    (grown : next.world.fresh ≤ client.world.fresh + 1)
    (last : ∀ object, next.world.objects client.world.fresh = some object →
      object.kind = .created → object.location_.group ∉ populated origin.world.kernel)
    (id : ObjectId) (object : SingleControlGroup) (live : next.world.objects id = some object)
    (created : object.kind = .created) (isNew : origin.world.fresh ≤ id) :
    object.location_.group ∉ populated origin.world.kernel := by
  have bounded := sound'.bounded id object live
  rcases Nat.lt_or_ge id client.world.fresh with older | newest
  · rcases persists.old id object live older with ⟨before, beforeLive, same⟩
    rw [identity_location same]
    rw [identity_kind same] at created
    exact underway.untasked id before beforeLive created isNew
  · have isFresh : id = client.world.fresh :=
      Nat.le_antisymm (Nat.lt_succ_iff.mp (Nat.lt_of_lt_of_le bounded grown)) newest
    rw [isFresh] at live
    exact last object live created

theorem Underway.untasked_same
    (underway : Underway groups populated region original origin client)
    (sound' : ClientSound next) (persists : Persists client next)
    (sameFresh : next.world.fresh = client.world.fresh) (id : ObjectId)
    (object : SingleControlGroup) (live : next.world.objects id = some object)
    (created : object.kind = .created) (isNew : origin.world.fresh ≤ id) :
    object.location_.group ∉ populated origin.world.kernel := by
  apply underway.untasked_next sound' persists (Nat.le_succ_of_le sameFresh.le) _ id object live
    created isNew
  intro other newLive
  exact absurd (sound'.bounded _ other newLive) (Nat.not_lt.mpr sameFresh.le)

theorem Underway.untasked_destroyed
    (underway : Underway groups populated region original origin client)
    (persists : Persists origin client) {id : ObjectId} {group : SingleControlGroup}
    (live : client.world.objects id = some group) (created : group.kind = .created)
    (dead : ¬Alive next.world.objects id) (vacated : Vacated populated region origin next)
    (inside : group.location_.group ∈ region.groups) :
    group.location_.group ∉ populated client.world.kernel := by
  rw [underway.tasks]
  rcases Nat.lt_or_ge id origin.world.fresh with older | isNew
  · rcases persists.old id group live older with ⟨before, beforeLive, same⟩
    rw [identity_location same] at inside ⊢
    rw [identity_kind same] at created
    exact vacated id before beforeLive created inside dead
  · exact underway.untasked id group live created isNew

theorem destroyed_underway (laws : RemovalLaws kernel used groups populated)
    (chronicle : ClientChronicle client) (persists : Persists origin client)
    (underway : Underway groups populated region original origin client) {id : ObjectId}
    {group : SingleControlGroup} (live : client.world.objects id = some group)
    {held : Multiset ObjectId}
    (vacated : Vacated populated region origin ⟨destroy kernel id group client.world, held⟩)
    (within : madeAt (destroy kernel id group client.world).journal ⊆ used)
    (untasked : ∀ other object,
      (destroy kernel id group client.world).objects other = some object →
        object.kind = .created → origin.world.fresh ≤ other →
          object.location_.group ∉ populated origin.world.kernel) :
    Underway groups populated region original origin
      ⟨destroy kernel id group client.world, held⟩ := by
  have accounts := underway.accounts
  have dead : ¬Alive (destroy kernel id group client.world).objects id := by
    rintro ⟨new, newLive⟩
    exact (destroy_identity kernel client.world newLive).1 rfl
  cases kind : group.kind with
  | attached =>
      have kernelAt := destroy_attached_kernel kernel id client.world kind
      refine ⟨accounts.same (destroy_attached_journal kernel id _ kind) ?_, ?_, untasked⟩
      · intro other _
        show other ∈ groups (destroy kernel id group client.world).kernel ↔ _
        rw [kernelAt]
      · show populated (destroy kernel id group client.world).kernel = _
        rw [kernelAt, underway.tasks]
  | created =>
      have outcome := destroy_created kernel id client.world kind
      have isUsed : group.location_ ∈ used := by
        apply within
        refine ⟨id, group.parent_, ?_⟩
        rw [outcome.2, ← kind]
        exact List.mem_cons_of_mem _ (chronicle.live id group live)
      refine ⟨?_, ?_, untasked⟩
      · exact accounts.removed laws chronicle live kind isUsed
          (underway.untasked_destroyed persists live kind dead vacated) outcome.2 outcome.1
      · show populated (destroy kernel id group client.world).kernel = _
        rw [outcome.1, (removal_cases laws isUsed _).1, underway.tasks]

theorem transition_underway (laws : RemovalLaws kernel used groups populated)
    (sound : ClientSound client) (chronicle : ClientChronicle client)
    (persists : Persists origin client)
    (underway : Underway groups populated region original origin client)
    (vacated : Vacated populated region origin next)
    (within : madeAt next.world.journal ⊆ used) (step : Transition kernel client next) :
    Underway groups populated region original origin next := by
  have sound' := transition_sound sound step
  have onward := transition_persists sound step
  have accounts := underway.accounts
  cases step with
  | asked after answered =>
      have kept := asked_keeps laws.toDirectoryLaws answered
      refine ⟨accounts.same rfl ?_, kept.2.trans underway.tasks,
        underway.untasked_same sound' onward rfl⟩
      intro group _
      show group ∈ groups after ↔ _
      rw [kept.1]
  | retained id group live =>
      exact ⟨accounts.same rfl fun _ _ => Iff.rfl, underway.tasks,
        underway.untasked_same sound' onward rfl⟩
  | yielded id group live member several =>
      exact ⟨accounts.same rfl fun _ _ => Iff.rfl, underway.tasks,
        underway.untasked_same sound' onward rfl⟩
  | rooted hierarchyId group object =>
      have journal : (client.world.insert group).journal =
          .constructed client.world.fresh .attached none group.location_ ::
            client.world.journal := by
        simp only [World.insert, object.parent, object.kind]
      have kernelAt : (client.world.insert group).kernel = client.world.kernel := by
        simp only [World.insert, object.parent]
      refine ⟨accounts.attached journal kernelAt, kernelAt ▸ underway.tasks, ?_⟩
      refine underway.untasked_next sound' onward (Nat.le_refl _) ?_
      intro new newLive created
      simp only [World.insert, object.parent, Function.update_self, Option.some.injEq] at newLive
      rw [← newLive, object.kind] at created
      cases created
  | attached self above name live ordinary unregistered =>
      have selfOld : self ≠ client.world.fresh := Nat.ne_of_lt (sound.bounded self above live)
      refine ⟨accounts.attached rfl rfl, underway.tasks, ?_⟩
      refine underway.untasked_next sound' onward (by simp) ?_
      intro new newLive created
      have adopted : (client.world.adopt self name (childOf .attached self above name)).objects
          client.world.fresh = _ := adopt_adopted client.world name live rfl selfOld
      rw [← Option.some.inj (adopted.symm.trans newLive)] at created
      cases created
  | created self above name mode after live ordinary unregistered made =>
      have selfOld : self ≠ client.world.fresh := Nat.ne_of_lt (sound.bounded self above live)
      have isUsed := within ⟨_, _, List.mem_cons_self⟩
      rcases laws.made _ isUsed mode _ after made with ⟨_, untasked, _, _, samePopulated⟩
      refine ⟨accounts.made laws chronicle isUsed made rfl rfl,
        samePopulated.trans underway.tasks, ?_⟩
      refine underway.untasked_next sound' onward (by simp [World.asked]) ?_
      intro new newLive _
      have adopted : ((client.world.asked after).adopt self name
          (childOf .created self above name)).objects client.world.fresh = _ :=
        adopt_adopted (client.world.asked after) name live rfl selfOld
      rw [← Option.some.inj (adopted.symm.trans newLive), ← underway.tasks]
      exact untasked
  | destroyed id group live member last =>
      exact destroyed_underway laws chronicle persists underway live vacated within
        (underway.untasked_same sound' onward (destroy_fresh kernel id group _))

theorem transitions_underway (laws : RemovalLaws kernel used groups populated)
    (sound : ClientSound origin) (chronicle : ClientChronicle origin)
    (accounts : Accounts groups region original origin) (steps : Transitions kernel origin next)
    (vacated : Vacated populated region origin next) (within : madeAt next.world.journal ⊆ used) :
    Underway groups populated region original origin next := by
  induction steps with
  | refl =>
      refine ⟨accounts, rfl, ?_⟩
      intro id object live _ isNew
      exact absurd (sound.bounded id object live) (Nat.not_lt.mpr isNew)
  | @tail middle finish steps step ih =>
      have middleSound := transitions_sound sound steps
      have persists := transitions_persist sound steps
      have onward := transition_persists middleSound step
      -- An object that is gone in the middle does not come back.
      have vacatedBefore : Vacated populated region origin middle := by
        intro id object live created inside dead
        apply vacated id object live created inside
        rintro ⟨new, newLive⟩
        have older := Nat.lt_of_lt_of_le (sound.bounded id object live) persists.later
        rcases onward.old id new newLive older with ⟨group, groupLive, _⟩
        exact dead ⟨group, groupLive⟩
      have withinBefore := (made_at_mono (transition_journal step)).trans within
      exact transition_underway laws middleSound (transitions_chronicle sound chronicle steps)
        persists (ih vacatedBefore withinBefore) vacated within step

/-- The rest of the system leaves the directories of the region alone, and the
session lets no object go while its group has tasks. -/
structure Undisturbed (kernel : Kernel σ) (orders : Orders) (groups populated : σ → Set Group)
    (region : Region) (session : Session σ) (action : Action σ) : Prop where
  spared : ∀ state, action = .single (.outside state) → ∀ group ∈ region.groups,
    group ∈ groups state ↔ group ∈ groups session.world.kernel
  vacated : ∀ next, session.step kernel orders action = some next →
    Vacated populated region session.client next.client

theorem accounts_start (groups : σ → Set Group) (region : Region)
    (instance_ : SystemInfoPointer) (state : σ) :
    Accounts groups region (groups state) (begin instance_ state).client := by
  have none : ∀ object group,
      ¬Standing (begin instance_ state).client.world.journal object group := by
    rintro object group ⟨parent, location, made, _⟩
    cases made
  constructor
  · intro group _
    simp only [none, exists_false, or_false]
    exact Iff.rfl
  · intro left right group _ stands
    exact absurd stands (none left group)
  · intro object parent location made
    cases made
  · trivial

theorem step_accounts (laws : RemovalLaws kernel used groups populated) {orders : Orders}
    {session next : Session σ} {action : Action σ} (sessionSound : SessionSound session)
    (chronicle : ClientChronicle session.client)
    (accounts : Accounts groups region original session.client)
    (undisturbed : Undisturbed kernel orders groups populated region session action)
    (within : madeAt next.world.journal ⊆ used)
    (stepped : session.step kernel orders action = some next) :
    Accounts groups region original next.client := by
  by_cases outside : FromOutside action
  · rcases outside_unrelated outside stepped with ⟨unrelated, _, idle | acted⟩
    · apply accounts.same unrelated.journal
      intro group _
      rw [show next.client.world.kernel = session.client.world.kernel from idle]
    · exact accounts.same unrelated.journal (undisturbed.spared _ acted)
  · have called := step_called sessionSound orders outside stepped
    exact (transitions_underway laws sessionSound.sound chronicle accounts called.steps
      (undisturbed.vacated next stepped) within).accounts

/-- Where a directory is removed, those that stand below it were made through its tree. -/
abbrev NestedInOneTree (region : Region) : List Event → Prop :=
  Preceded fun older object location => location.group ∈ region.groups →
    ∀ low other, Standing older low other → other.StrictlyBelow location.group →
      Lineage older low object

/-- Below the first removal that was refused a directory would stand whose own
removal came before, and was refused too. -/
theorem removals_succeed {objects : Heap} {fresh : ObjectId} {journal : List Event}
    (chronicle : Chronicle objects fresh journal) (answered : Answered region journal)
    (nested : NestedInOneTree region journal) (newer older : List Event) (object : ObjectId)
    (location : Location) (answer : Except Errno Bool)
    (split : journal = newer ++ .removal object location answer :: older)
    (inside : location.group ∈ region.groups) : answer = .ok true := by
  induction sized : older.length using Nat.strong_induction_on
    generalizing newer older object location answer with
  | _ size ih =>
      apply (accounted_at (split ▸ answered) object location answer rfl inside).mpr
      intro low other stands isBelow
      have lineage := nested newer older object location answer split inside low other stands
        isBelow
      rcases stands with ⟨parent, lowLocation, made, same, standing⟩
      have recorded : ∀ event ∈ older, event ∈ journal := by
        intro event member
        rw [split]
        exact List.mem_append_right _ (List.mem_cons_of_mem _ member)
      have different : low ≠ object := by
        rintro rfl
        rcases chronicle.own newer older low location answer split with ⟨above, made'⟩
        have sameLocation :=
          (chronicle.unique _ _ _ _ _ _ _ (recorded _ made) (recorded _ made')).2.2
        rw [← same, sameLocation] at isBelow
        exact strictly_below_irrefl _ isBelow
      rcases chronicle.bottomUp newer older object location answer split low parent lowLocation
        made lineage different with ⟨lowAnswer, removed⟩
      rcases List.append_of_mem removed with ⟨between, oldest, splitOlder⟩
      have earlier : journal = (newer ++ .removal object location answer :: between) ++
          .removal low lowLocation lowAnswer :: oldest := by
        rw [split, splitOlder, List.append_assoc, List.cons_append]
      have shorter : oldest.length < size := by
        rw [← sized, splitOlder, List.length_append, List.length_cons]
        omega
      have lowInside : lowLocation.group ∈ region.groups := by
        rw [same]
        exact region.closed _ inside other isBelow
      have succeeded := ih oldest.length shorter _ oldest low lowLocation lowAnswer earlier
        lowInside rfl
      rw [succeeded] at removed
      exact standing removed

/-- What exists in the region, what the destructors were answered, and that a
session without pointers has left nothing where it nested in one tree. -/
structure Balanced (groups : σ → Set Group) (region : Region) (state : σ)
    (session : Session σ) : Prop where
  exactly : ∀ group ∈ region.groups, group ∈ groups session.world.kernel ↔
    group ∈ groups state ∨ ∃ object, Standing session.world.journal object group
  kept : ∀ id object, session.world.objects id = some object → object.kind = .created →
    object.location_.group ∈ region.groups →
      object.location_.group ∈ groups session.world.kernel
  answered : ∀ newer older object location answer,
    session.world.journal = newer ++ .removal object location answer :: older →
      location.group ∈ region.groups → (answer = .ok true ↔ Bare older location.group)
  nothingLeft : (∀ low, ¬session.PointsTo low) →
    NestedInOneTree region session.world.journal →
      ∀ group ∈ region.groups, group ∈ groups session.world.kernel ↔ group ∈ groups state

theorem balanced_of_accounts {session : Session σ} {state : σ}
    (sound : ClientSound session.client) (chronicle : ClientChronicle session.client)
    (accounts : Accounts groups region (groups state) session.client) :
    Balanced groups region state session := by
  constructor
  · exact accounts.exactly
  · intro id object live created inside
    exact (accounts.exactly _ inside).mpr (.inr ⟨id, live_standing chronicle live created⟩)
  · intro newer older object location answer split inside
    have answered : Answered region session.world.journal := accounts.answered
    rw [split] at answered
    exact accounted_at answered object location answer rfl inside
  · intro released nested group inside
    have exactly := accounts.exactly group inside
    refine exactly.trans (or_iff_left ?_)
    rintro ⟨object, parent, location, made, rfl, standing⟩
    have dead : ¬Alive session.client.world.objects object := by
      intro alive
      rcases (alive_iff_held sound object).mp alive with ⟨low, isHeld, _⟩
      exact released low ((client_holds_iff session low).mp isHeld)
    have attempted := chronicle.done object parent location made dead
    rcases removal_of_attempted attempted with ⟨other, answer, removed⟩
    rcases created_of_removed chronicle.own removed with ⟨above, made'⟩
    rw [(chronicle.unique _ _ _ _ _ _ _ made' made).2.2] at removed
    rcases List.append_of_mem removed with ⟨newer, older, split⟩
    have succeeded := removals_succeed chronicle accounts.answered nested newer older object
      location answer split inside
    rw [succeeded] at removed
    exact standing removed

theorem stepped_journal {session next : Session σ} (stepped : Stepped kernel session next) :
    session.world.journal <:+ next.world.journal := by
  rcases stepped.moved with unrelated | steps
  · exact unrelated.journal ▸ List.suffix_refl _
  · exact transitions_journal steps

/-- In every run, over every region that the rest of the system leaves alone;
the kernel keeps to the laws wherever the program has made directories. -/
theorem directories_balanced (kernel : Kernel σ) (groups populated : σ → Set Group)
    (region : Region) (orders : Orders) (instance_ : SystemInfoPointer) (state : σ)
    (actions : List (Action σ)) (session : Session σ)
    (undisturbed : Guarded (Session.step kernel orders)
      (Undisturbed kernel orders groups populated region) (begin instance_ state) actions)
    (executed : run (Session.step kernel orders) (begin instance_ state) actions =
      some session)
    (laws : RemovalLaws kernel (madeAt session.world.journal) groups populated) :
    Balanced groups region state session := by
  -- The laws cover a middle of the run because the journal only grows.
  have kept := guarded_invariant
    (fun middle => SessionSound middle ∧ ClientChronicle middle.client ∧
      (madeAt middle.world.journal ⊆ madeAt session.world.journal →
        Accounts groups region (groups state) middle.client)) ?_ ?_ undisturbed executed
  · exact balanced_of_accounts kept.1.sound kept.2.1 (kept.2.2 Set.Subset.rfl)
  · intro middle action next ⟨sessionSound, chronicle, accounts⟩ guard taken
    have stepped := step_stepped sessionSound orders taken
    refine ⟨stepped_sound sessionSound stepped, stepped_chronicle sessionSound chronicle stepped,
      fun within => ?_⟩
    have before := accounts ((made_at_mono (stepped_journal stepped)).trans within)
    exact step_accounts laws sessionSound chronicle before guard within taken
  · exact ⟨begin_sound instance_ state, chronicle_start instance_ state,
      fun _ => accounts_start groups region instance_ state⟩

theorem directory_kernel_removal_laws (used : Set Location) :
    RemovalLaws directoryKernel used listed fun _ => ∅ where
  toDirectoryLaws := directory_kernel_laws used
  refused := by
    intro location _ state occupied
    by_cases below : ∃ group ∈ state, group.StrictlyBelow location.group
    · have outcome : removal directoryKernel location state = (.error ENOTEMPTY, state) := by
        simp only [removal, directoryKernel, if_pos below]
      rw [outcome]
      exact ⟨by simp, rfl, rfl⟩
    · have absent : location.group ∉ state := by
        intro present
        exact occupied ⟨present, Set.notMem_empty _,
          fun other inside isBelow => below ⟨other, inside, isBelow⟩⟩
      have spared : state.filter (· ≠ location.group) = state := by
        apply List.filter_eq_self.mpr
        intro group inside
        exact decide_eq_true fun same => absent (same ▸ inside)
      have outcome : removal directoryKernel location state = (.ok false, state) := by
        simp only [removal, directoryKernel, if_neg below, absent, decide_false, spared]
      rw [outcome]
      exact ⟨by simp, rfl, rfl⟩

def everywhere : Region where
  groups := Set.univ
  closed := fun _ _ _ _ => trivial

/-- Two objects stand for the root. "/jobs" is created below one of them and
"/jobs/task" below the other, and the pointer to "/jobs" goes first. -/
def twoTrees : List (Action (List Group)) :=
  [.single (.root 3), .single (.root 3), .single (.createChild 0 (.relative [jobs]) 0o777),
    .single (.attachChild 1 (.relative [jobs])),
    .single (.createChild 3 (.relative [task]) 0o777), .single (.drop 2), .single (.drop 4),
    .single (.drop 3), .single (.drop 1), .single (.drop 0)]

theorem two_trees_undisturbed :
    Guarded (Session.step directoryKernel insertionOrders)
      (Undisturbed directoryKernel insertionOrders listed (fun _ => ∅) everywhere)
      (begin cpuSystem []) twoTrees := by
  apply guarded_of_reached
  intro earlier action later middle split _
  refine ⟨?_, fun _ _ _ _ _ _ _ _ => Set.notMem_empty _⟩
  rintro state rfl
  have member : (.single (.outside state) : Action (List Group)) ∈ twoTrees := by
    rw [split]
    exact List.mem_append_right _ List.mem_cons_self
  simp [twoTrees] at member

/-- The program is left without pointers, and "/jobs" with nobody to remove it. -/
theorem directories_balanced_two_trees :
    ∃ session, run (Session.step directoryKernel insertionOrders) (begin cpuSystem []) twoTrees =
        some session ∧
      (∀ low, ¬session.PointsTo low) ∧ session.world.kernel = [⟨3, [jobs]⟩] ∧
      ¬NestedInOneTree everywhere session.world.journal ∧
      Balanced listed everywhere [] session := by
  have outcome : (run (Session.step directoryKernel insertionOrders) (begin cpuSystem [])
      twoTrees).map (fun session =>
        (session.groups.length, session.held.card, session.world.kernel)) =
      some (0, 0, [⟨3, [jobs]⟩]) := by
    decide +kernel
  rcases Option.map_eq_some_iff.mp outcome with ⟨session, executed, results⟩
  rcases Prod.mk.inj results with ⟨noGroups, rest⟩
  rcases Prod.mk.inj rest with ⟨noneHeld, directories⟩
  have balanced := directories_balanced directoryKernel listed (fun _ => ∅) everywhere
    insertionOrders cpuSystem [] twoTrees session two_trees_undisturbed executed
    (directory_kernel_removal_laws _)
  have released : ∀ low, ¬session.PointsTo low := by
    rintro low (isHeld | ⟨group, inside, _⟩)
    · rw [Multiset.card_eq_zero.mp noneHeld] at isHeld
      exact absurd isHeld (Multiset.notMem_zero low)
    · rw [List.length_eq_zero_iff.mp noGroups] at inside
      cases inside
  refine ⟨session, executed, released, directories, ?_, balanced⟩
  intro nested
  have left : (⟨3, [jobs]⟩ : Group) ∈ listed session.world.kernel := by
    rw [directories]
    exact List.mem_singleton_self _
  have nothing := (balanced.nothingLeft released nested _ trivial).mp left
  cases nothing

end ContestSystem.Cgroup.DirectoryAccounts
