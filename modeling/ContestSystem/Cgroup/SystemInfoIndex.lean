import Mathlib.Data.Finset.Basic
import Mathlib.Data.Finset.Disjoint
import ContestSystem.Cgroup.SystemInfo
import ContestSystem.Lib.FallibleFold

/-!
# What the constructor of `SystemInfo` accepts

The two loops fill three maps while they check them against each other. One
relation, `Indexed`, says what the maps contain after a prefix of both files;
each loop body either throws for a reason that can be read off the files or
extends that relation by one entry. The representative `*subsystems.begin()`
does not matter because the subsystem sets are disjoint.
-/

namespace ContestSystem.Cgroup.SystemInfoIndex

open ContestSystem.Lib.Unordered ContestSystem.Lib.FallibleFold
open SystemInfo

set_option autoImplicit false

variable {cgroup : List ProcPidCgroupEntry} {fstab : List MountEntry} {info : SystemInfo}

/-- Some line of `/proc/self/cgroup` lists the subsystem. -/
def Known (cgroup : List ProcPidCgroupEntry) (subsystem : String) : Prop :=
  ∃ entry ∈ cgroup, subsystem ∈ entry.subsystems

instance (cgroup : List ProcPidCgroupEntry) (subsystem : String) :
    Decidable (Known cgroup subsystem) :=
  inferInstanceAs (Decidable (∃ entry ∈ cgroup, subsystem ∈ entry.subsystems))

def mountedSubsystems (cgroup : List ProcPidCgroupEntry) (mount : MountEntry) : Finset String :=
  ((split mount.opts).filter fun opt => Known cgroup opt).toFinset

/-- The mount entry is a mount of the entry's hierarchy. -/
def Names (cgroup : List ProcPidCgroupEntry) (mount : MountEntry)
    (entry : ProcPidCgroupEntry) : Prop :=
  mount.type = "cgroup" ∧ mountedSubsystems cgroup mount ≠ ∅ ∧
    mountedSubsystems cgroup mount = entry.subsystems.toFinset

instance (cgroup : List ProcPidCgroupEntry) (mount : MountEntry) (entry : ProcPidCgroupEntry) :
    Decidable (Names cgroup mount entry) :=
  inferInstanceAs (Decidable (_ ∧ _ ∧ _))

def lastMount (cgroup : List ProcPidCgroupEntry) (fstab : List MountEntry)
    (entry : ProcPidCgroupEntry) : Option MountEntry :=
  (fstab.filter fun mount => Names cgroup mount entry).getLast?

def lastMountAt (fstab : List MountEntry) (dir : Directory) : Option MountEntry :=
  (fstab.filter fun mount => mount.type = "cgroup" ∧ mount.dir = dir).getLast?

def hierarchyOf (cgroup : List ProcPidCgroupEntry) (fstab : List MountEntry)
    (entry : ProcPidCgroupEntry) : HierarchyInfo :=
  { id := entry.hierarchyId
    subsystems := entry.subsystems
    mountpoint := (lastMount cgroup fstab entry).map MountEntry.dir }

def Apart (left right : ProcPidCgroupEntry) : Prop :=
  left.hierarchyId ≠ right.hierarchyId ∧
    Disjoint left.subsystems.toFinset right.subsystems.toFinset

structure Separate (cgroup : List ProcPidCgroupEntry) : Prop where
  distinctIds : (cgroup.map ProcPidCgroupEntry.hierarchyId).Nodup
  disjointSubsystems : cgroup.Pairwise fun left right =>
    Disjoint left.subsystems.toFinset right.subsystems.toFinset

/-- Every `cgroup` mount lists the subsystems of one hierarchy, among other options. -/
structure Consistent (cgroup : List ProcPidCgroupEntry) (fstab : List MountEntry) : Prop
    extends Separate cgroup where
  namedMounts : ∀ mount ∈ fstab, mount.type = "cgroup" →
    mountedSubsystems cgroup mount ≠ ∅ ∧
      ∃ entry ∈ cgroup, mountedSubsystems cgroup mount = entry.subsystems.toFinset

/-- The contents of the maps after the entries of `cgroup` and `fstab`. -/
structure Indexed (cgroup : List ProcPidCgroupEntry) (fstab : List MountEntry)
    (info : SystemInfo) : Prop where
  subsystems : ∀ subsystem id, info.subsystem2id_.lookup subsystem = some id ↔
    ∃ entry ∈ cgroup, entry.hierarchyId = id ∧ subsystem ∈ entry.subsystems
  hierarchies : ∀ id hierarchyInfo, info.id2hierarchy_.lookup id = some hierarchyInfo ↔
    ∃ entry ∈ cgroup, entry.hierarchyId = id ∧ hierarchyInfo = hierarchyOf cgroup fstab entry
  mountpoints : ∀ dir id, info.mountpoint2id_.lookup dir = some id ↔
    ∃ mount, lastMountAt fstab dir = some mount ∧
      ∃ entry ∈ cgroup, entry.hierarchyId = id ∧ Names cgroup mount entry

theorem indexed_empty : Indexed [] [] SystemInfo.empty := by
  constructor <;> intros <;> simp [SystemInfo.empty, lastMountAt]

theorem indexed_known_iff (indexed : Indexed cgroup fstab info) (subsystem : String) :
    subsystem ∈ info.subsystem2id_ ↔ Known cgroup subsystem := by
  rw [← AList.lookup_isSome, Option.isSome_iff_exists]
  simp only [indexed.subsystems, Known]
  constructor
  · rintro ⟨id, entry, member, _, listed⟩
    exact ⟨entry, member, listed⟩
  · rintro ⟨entry, member, listed⟩
    exact ⟨entry.hierarchyId, entry, member, rfl, listed⟩

theorem indexed_keyed (indexed : Indexed cgroup fstab info) : info.Keyed := by
  intro id hierarchyInfo found
  obtain ⟨entry, _, sameId, rfl⟩ := (indexed.hierarchies id hierarchyInfo).mp found
  exact sameId

theorem load_subsystems_eq_ok (hierarchyId : Nat) (names : List String)
    (distinct : names.Nodup) (info finish : SystemInfo) :
    names.foldlM (loadSubsystem hierarchyId) info = .ok finish ↔
      (∀ name ∈ names, name ∉ info.subsystem2id_) ∧
        finish = { info with
          subsystem2id_ := names.foldl (fun map name => map.insert name hierarchyId)
            info.subsystem2id_ } := by
  induction names generalizing info with
  | nil => simp [List.foldlM_nil, pure, Except.pure, eq_comm]
  | cons name names ih =>
      obtain ⟨fresh, rest⟩ := List.nodup_cons.mp distinct
      rw [fold_cons_eq_ok]
      by_cases present : name ∈ info.subsystem2id_
      · simp [loadSubsystem, present]
      · simp only [loadSubsystem, if_neg present, Except.ok.injEq, exists_eq_left', ih rest,
          List.mem_cons, forall_eq_or_imp, List.foldl_cons, AList.mem_insert]
        constructor
        · rintro ⟨absent, rfl⟩
          exact ⟨⟨present, fun other member inside => absent other member (.inr inside)⟩, rfl⟩
        · rintro ⟨⟨_, absent⟩, rfl⟩
          refine ⟨?_, rfl⟩
          rintro other member (rfl | inside)
          · exact fresh member
          · exact absent other member inside

theorem lookup_inserted_subsystems (hierarchyId : Nat) (names : List String)
    (map : AList fun _ : String => Nat) (probe : String) :
    (names.foldl (fun map name => map.insert name hierarchyId) map).lookup probe =
      if probe ∈ names then some hierarchyId else map.lookup probe := by
  induction names generalizing map with
  | nil => simp
  | cons name names ih =>
      rw [List.foldl_cons, ih, lookup_insert_eq]
      by_cases inside : probe ∈ names
      · simp [inside]
      · by_cases same : probe = name <;> simp [inside, same]

theorem load_hierarchy_eq_ok (order : HashOrder String) (entry : ProcPidCgroupEntry)
    (info next : SystemInfo) :
    loadHierarchy order info entry = .ok next ↔
      entry.hierarchyId ∉ info.id2hierarchy_ ∧
        (∀ name ∈ entry.subsystems, name ∉ info.subsystem2id_) ∧
        next = { info with
          id2hierarchy_ := info.id2hierarchy_.insert entry.hierarchyId
            { id := entry.hierarchyId, subsystems := entry.subsystems, mountpoint := none }
          subsystem2id_ := (order.arrange entry.subsystems).foldl
            (fun map name => map.insert name entry.hierarchyId) info.subsystem2id_ } := by
  unfold loadHierarchy
  by_cases present : entry.hierarchyId ∈ info.id2hierarchy_
  · simp [present]
  · rw [if_neg present, load_subsystems_eq_ok _ _ (order.nodup _)]
    simp only [order.mem_iff, present, not_false_eq_true, true_and]

theorem load_hierarchy_returns_iff (order : HashOrder String)
    (indexed : Indexed cgroup [] info) (entry : ProcPidCgroupEntry) :
    (∃ next, loadHierarchy order info entry = .ok next) ↔
      ∀ earlier ∈ cgroup, Apart earlier entry := by
  have idPresent : entry.hierarchyId ∈ info.id2hierarchy_ ↔
      ∃ earlier ∈ cgroup, earlier.hierarchyId = entry.hierarchyId := by
    rw [← AList.lookup_isSome, Option.isSome_iff_exists]
    simp only [indexed.hierarchies]
    constructor
    · rintro ⟨_, earlier, member, sameId, _⟩
      exact ⟨earlier, member, sameId⟩
    · rintro ⟨earlier, member, sameId⟩
      exact ⟨_, earlier, member, sameId, rfl⟩
  simp only [load_hierarchy_eq_ok, indexed_known_iff indexed, idPresent, Known]
  constructor
  · rintro ⟨_, freshId, freshNames, _⟩ earlier member
    refine ⟨fun sameId => freshId ⟨earlier, member, sameId⟩, ?_⟩
    rw [Finset.disjoint_left]
    intro name inEarlier inEntry
    exact freshNames name (List.mem_toFinset.mp inEntry)
      ⟨earlier, member, List.mem_toFinset.mp inEarlier⟩
  · intro apart
    refine ⟨_, ?_, ?_, rfl⟩
    · rintro ⟨earlier, member, sameId⟩
      exact (apart earlier member).1 sameId
    · rintro name inEntry ⟨earlier, member, inEarlier⟩
      exact Finset.disjoint_left.mp (apart earlier member).2
        (List.mem_toFinset.mpr inEarlier) (List.mem_toFinset.mpr inEntry)

theorem load_hierarchy_indexed (order : HashOrder String) (indexed : Indexed cgroup [] info)
    {entry : ProcPidCgroupEntry} {next : SystemInfo}
    (returned : loadHierarchy order info entry = .ok next) :
    Indexed (cgroup ++ [entry]) [] next := by
  obtain ⟨freshId, freshNames, rfl⟩ := (load_hierarchy_eq_ok order entry info next).mp returned
  constructor
  · intro subsystem id
    simp only [lookup_inserted_subsystems, order.mem_iff, List.mem_append, List.mem_singleton,
      or_and_right, exists_or, exists_eq_left]
    by_cases listed : subsystem ∈ entry.subsystems
    · have unknown : ¬Known cgroup subsystem := by
        rw [← indexed_known_iff indexed]
        exact freshNames subsystem listed
      rw [if_pos listed]
      constructor
      · intro same
        exact .inr ⟨Option.some.inj same, listed⟩
      · rintro (⟨earlier, member, _, inEarlier⟩ | ⟨rfl, _⟩)
        · exact absurd ⟨earlier, member, inEarlier⟩ unknown
        · rfl
    · rw [if_neg listed, indexed.subsystems]
      simp [listed]
  · intro id hierarchyInfo
    rw [lookup_insert_eq]
    simp only [hierarchyOf, lastMount, List.filter_nil, List.getLast?_nil, Option.map_none,
      List.mem_append, List.mem_singleton, or_and_right, exists_or, exists_eq_left]
    have earlierIff := indexed.hierarchies id hierarchyInfo
    simp only [hierarchyOf, lastMount, List.filter_nil, List.getLast?_nil,
      Option.map_none] at earlierIff
    by_cases same : id = entry.hierarchyId
    · subst same
      have absent : info.id2hierarchy_.lookup entry.hierarchyId = none :=
        AList.lookup_eq_none.mpr freshId
      rw [absent] at earlierIff
      rw [if_pos rfl]
      constructor
      · intro found
        exact .inr ⟨rfl, (Option.some.inj found).symm⟩
      · rintro (old | ⟨_, rfl⟩)
        · exact absurd (earlierIff.mpr old) (by simp)
        · rfl
    · rw [if_neg same, earlierIff]
      simp [Ne.symm same]
  · intro dir id
    have empty := indexed.mountpoints dir id
    simpa [lastMountAt] using empty

theorem separate_iff_pairwise_apart : Separate cgroup ↔ cgroup.Pairwise Apart := by
  constructor
  · intro separate
    exact (List.pairwise_map.mp separate.distinctIds).and separate.disjointSubsystems
  · intro apart
    exact ⟨List.pairwise_map.mpr (apart.imp And.left), apart.imp And.right⟩

theorem load_hierarchies_returns_iff (order : HashOrder String) :
    (∃ info, loadHierarchies order cgroup SystemInfo.empty = .ok info) ↔ Separate cgroup := by
  unfold loadHierarchies
  rw [fold_returns_iff (fun info before => Indexed before [] info)
    (fun before entry => ∀ earlier ∈ before, Apart earlier entry)
    (fun _ _ _ _ indexed returned => load_hierarchy_indexed order indexed returned)
    (fun _ _ entry indexed => load_hierarchy_returns_iff order indexed entry)
    indexed_empty, accept_all_pairwise_iff, separate_iff_pairwise_apart]
  simp

theorem load_hierarchies_indexed (order : HashOrder String)
    (returned : loadHierarchies order cgroup SystemInfo.empty = .ok info) :
    Indexed cgroup [] info :=
  fold_invariant (fun info before => Indexed before [] info)
    (fun _ _ _ _ indexed stepped => load_hierarchy_indexed order indexed stepped)
    indexed_empty returned

theorem entry_of_id_unique (separate : Separate cgroup) {left right : ProcPidCgroupEntry}
    (leftMember : left ∈ cgroup) (rightMember : right ∈ cgroup)
    (sameId : left.hierarchyId = right.hierarchyId) : left = right :=
  List.inj_on_of_nodup_map separate.distinctIds leftMember rightMember sameId

theorem entry_of_subsystem_unique (separate : Separate cgroup)
    {left right : ProcPidCgroupEntry} (leftMember : left ∈ cgroup)
    (rightMember : right ∈ cgroup) {subsystem : String}
    (inLeft : subsystem ∈ left.subsystems) (inRight : subsystem ∈ right.subsystems) :
    left = right := by
  by_contra different
  have symmetric : Std.Symm fun left right : ProcPidCgroupEntry =>
      Disjoint left.subsystems.toFinset right.subsystems.toFinset := ⟨fun _ _ apart => apart.symm⟩
  have disjoint := separate.disjointSubsystems.forall leftMember rightMember different
  exact Finset.disjoint_left.mp disjoint (List.mem_toFinset.mpr inLeft)
    (List.mem_toFinset.mpr inRight)

theorem named_entry_unique (separate : Separate cgroup) {left right : ProcPidCgroupEntry}
    {mount : MountEntry} (leftMember : left ∈ cgroup) (rightMember : right ∈ cgroup)
    (namesLeft : Names cgroup mount left) (namesRight : Names cgroup mount right) :
    left = right := by
  obtain ⟨subsystem, mounted⟩ := Finset.nonempty_iff_ne_empty.mpr namesLeft.2.1
  have inLeft := namesLeft.2.2 ▸ mounted
  have inRight := namesRight.2.2 ▸ mounted
  exact entry_of_subsystem_unique separate leftMember rightMember
    (List.mem_toFinset.mp inLeft) (List.mem_toFinset.mp inRight)

/-- What one iteration of `loadMountpoints` does with a `cgroup` mount. The
entry that decides is the one whose hierarchy the chosen subsystem belongs to. -/
theorem load_mountpoint_cases (order : HashOrder String) (indexed : Indexed cgroup fstab info)
    (mount : MountEntry) (isCgroup : mount.type = "cgroup") :
    (mountedSubsystems cgroup mount = ∅ ∧
      loadMountpoint order info mount = .error (.noSubsystems wrappedPath mount)) ∨
    ∃ subsystem ∈ mountedSubsystems cgroup mount, ∃ entry ∈ cgroup,
      subsystem ∈ entry.subsystems ∧
      loadMountpoint order info mount =
        if mountedSubsystems cgroup mount = entry.subsystems.toFinset then
          .ok { info with
            id2hierarchy_ := info.id2hierarchy_.insert entry.hierarchyId
              { hierarchyOf cgroup fstab entry with mountpoint := some mount.dir }
            mountpoint2id_ := info.mountpoint2id_.insert mount.dir entry.hierarchyId }
        else
          .error (.inconsistency
            "subsystems from /proc/mounts are not equal to subsystems from /proc/self/cgroup"
            wrappedPath mount) := by
  have sameFilter : (split mount.opts).filter (fun opt => opt ∈ info.subsystem2id_) =
      (split mount.opts).filter (fun opt => Known cgroup opt) := by
    simp only [indexed_known_iff indexed]
  unfold loadMountpoint
  simp only [if_pos isCgroup, sameFilter]
  split
  next empty =>
      have noneKnown := (arrange_eq_nil_iff order _).mp empty
      exact .inl ⟨by rw [mountedSubsystems, noneKnown, List.toFinset_nil], rfl⟩
  next subsystem rest arranged =>
      have mounted : subsystem ∈ mountedSubsystems cgroup mount := by
        rw [mountedSubsystems, List.mem_toFinset, ← order.mem_iff, arranged]
        exact List.mem_cons_self
      have known : Known cgroup subsystem := by
        simpa using (List.mem_filter.mp (List.mem_toFinset.mp mounted)).2
      obtain ⟨entry, member, listed⟩ := known
      have subsystemAt := (indexed.subsystems subsystem entry.hierarchyId).mpr
        ⟨entry, member, rfl, listed⟩
      have hierarchyAt := (indexed.hierarchies entry.hierarchyId _).mpr ⟨entry, member, rfl, rfl⟩
      refine .inr ⟨subsystem, mounted, entry, member, listed, ?_⟩
      simp only [subsystemAt, hierarchyAt]
      rfl

theorem load_mountpoint_returns_iff (order : HashOrder String) (separate : Separate cgroup)
    (indexed : Indexed cgroup fstab info) (mount : MountEntry) :
    (∃ next, loadMountpoint order info mount = .ok next) ↔
      (mount.type = "cgroup" → mountedSubsystems cgroup mount ≠ ∅ ∧
        ∃ entry ∈ cgroup, mountedSubsystems cgroup mount = entry.subsystems.toFinset) := by
  by_cases isCgroup : mount.type = "cgroup"
  · rcases load_mountpoint_cases order indexed mount isCgroup with
      ⟨empty, thrown⟩ | ⟨subsystem, mounted, entry, member, listed, result⟩
    · simp [thrown, empty, isCgroup]
    · have nonempty := Finset.ne_empty_of_mem mounted
      by_cases same : mountedSubsystems cgroup mount = entry.subsystems.toFinset
      · rw [result, if_pos same]
        exact ⟨fun _ _ => ⟨nonempty, entry, member, same⟩, fun _ => ⟨_, rfl⟩⟩
      · rw [result, if_neg same]
        refine ⟨fun returned => by simp at returned, fun accepted => ?_⟩
        obtain ⟨_, other, otherMember, sameOther⟩ := accepted isCgroup
        have inOther := List.mem_toFinset.mp (sameOther ▸ mounted)
        have sameEntry := entry_of_subsystem_unique separate member otherMember listed inOther
        exact absurd (sameEntry ▸ sameOther) same
  · simp [loadMountpoint, isCgroup]

theorem last_mount_concat (cgroup : List ProcPidCgroupEntry) (fstab : List MountEntry)
    (mount : MountEntry) (entry : ProcPidCgroupEntry) :
    lastMount cgroup (fstab ++ [mount]) entry =
      if Names cgroup mount entry then some mount else lastMount cgroup fstab entry := by
  by_cases names : Names cgroup mount entry <;>
    simp [lastMount, List.filter_append, names]

theorem last_mount_at_concat (fstab : List MountEntry) (mount : MountEntry) (dir : Directory) :
    lastMountAt (fstab ++ [mount]) dir =
      if mount.type = "cgroup" ∧ mount.dir = dir then some mount
      else lastMountAt fstab dir := by
  by_cases here : mount.type = "cgroup" ∧ mount.dir = dir
  · simp [lastMountAt, List.filter_append, here]
  · have dropped : [mount].filter
        (fun mount => decide (mount.type = "cgroup" ∧ mount.dir = dir)) = [] := by
      simp only [List.filter_cons, List.filter_nil, decide_eq_true_eq, if_neg here]
    rw [lastMountAt, List.filter_append, dropped, List.append_nil, if_neg here, lastMountAt]

theorem load_mountpoint_indexed (order : HashOrder String) (separate : Separate cgroup)
    (indexed : Indexed cgroup fstab info) {mount : MountEntry} {next : SystemInfo}
    (returned : loadMountpoint order info mount = .ok next) :
    Indexed cgroup (fstab ++ [mount]) next := by
  by_cases isCgroup : mount.type = "cgroup"
  · rcases load_mountpoint_cases order indexed mount isCgroup with
      ⟨_, thrown⟩ | ⟨subsystem, mounted, entry, member, listed, result⟩
    · simp [thrown] at returned
    · by_cases same : mountedSubsystems cgroup mount = entry.subsystems.toFinset
      · have names : Names cgroup mount entry :=
          ⟨isCgroup, Finset.ne_empty_of_mem mounted, same⟩
        rw [result, if_pos same] at returned
        cases returned
        refine ⟨indexed.subsystems, ?_, ?_⟩
        · intro id hierarchyInfo
          rw [lookup_insert_eq]
          constructor
          · intro found
            by_cases sameId : id = entry.hierarchyId
            · rw [if_pos sameId] at found
              refine ⟨entry, member, sameId.symm, (Option.some.inj found).symm.trans ?_⟩
              simp [hierarchyOf, last_mount_concat, names]
            · rw [if_neg sameId] at found
              obtain ⟨other, otherMember, otherId, rfl⟩ :=
                (indexed.hierarchies id hierarchyInfo).mp found
              have notNamed : ¬Names cgroup mount other := by
                intro namesOther
                have sameEntry :=
                  named_entry_unique separate member otherMember names namesOther
                exact sameId (sameEntry ▸ otherId.symm)
              refine ⟨other, otherMember, otherId, ?_⟩
              simp [hierarchyOf, last_mount_concat, notNamed]
          · rintro ⟨other, otherMember, otherId, rfl⟩
            by_cases sameId : id = entry.hierarchyId
            · have sameEntry := entry_of_id_unique separate otherMember member
                (otherId.trans sameId)
              subst sameEntry
              simp [sameId, hierarchyOf, last_mount_concat, names]
            · have notNamed : ¬Names cgroup mount other := by
                intro namesOther
                have sameEntry :=
                  named_entry_unique separate member otherMember names namesOther
                exact sameId (sameEntry ▸ otherId.symm)
              rw [if_neg sameId]
              refine (indexed.hierarchies id _).mpr ⟨other, otherMember, otherId, ?_⟩
              simp [hierarchyOf, last_mount_concat, notNamed]
        · intro dir id
          rw [lookup_insert_eq, last_mount_at_concat]
          by_cases sameDir : dir = mount.dir
          · subst sameDir
            simp only [if_true, isCgroup, and_self, Option.some.injEq, exists_eq_left']
            constructor
            · rintro rfl
              exact ⟨entry, member, rfl, names⟩
            · rintro ⟨other, otherMember, otherId, namesOther⟩
              rw [named_entry_unique separate member otherMember names namesOther]
              exact otherId
          · rw [if_neg sameDir, if_neg (fun here => sameDir here.2.symm)]
            exact indexed.mountpoints dir id
      · simp [result, same] at returned
  · have unchanged : next = info := by
      simpa [loadMountpoint, isCgroup, eq_comm] using returned
    subst unchanged
    have notNamed : ∀ entry, ¬Names cgroup mount entry := fun _ names => isCgroup names.1
    refine ⟨indexed.subsystems, ?_, ?_⟩
    · intro id hierarchyInfo
      simpa [hierarchyOf, last_mount_concat, notNamed] using indexed.hierarchies id hierarchyInfo
    · intro dir id
      simpa [last_mount_at_concat, isCgroup] using indexed.mountpoints dir id

theorem load_mountpoints_returns_iff (order : HashOrder String) (separate : Separate cgroup)
    (indexed : Indexed cgroup [] info) :
    (∃ finish, loadMountpoints order fstab info = .ok finish) ↔
      ∀ mount ∈ fstab, mount.type = "cgroup" → mountedSubsystems cgroup mount ≠ ∅ ∧
        ∃ entry ∈ cgroup, mountedSubsystems cgroup mount = entry.subsystems.toFinset := by
  unfold loadMountpoints
  rw [fold_returns_iff (fun info before => Indexed cgroup before info) _
    (fun _ _ _ _ indexed returned => load_mountpoint_indexed order separate indexed returned)
    (fun _ _ mount indexed => load_mountpoint_returns_iff order separate indexed mount)
    indexed, accept_all_forall_iff]

theorem load_mountpoints_indexed (order : HashOrder String) (separate : Separate cgroup)
    (indexed : Indexed cgroup [] info) {finish : SystemInfo}
    (returned : loadMountpoints order fstab info = .ok finish) :
    Indexed cgroup fstab finish :=
  fold_invariant (fun info before => Indexed cgroup before info)
    (fun _ _ _ _ indexed stepped => load_mountpoint_indexed order separate indexed stepped)
    indexed returned

theorem construct_eq_ok_iff (order : HashOrder String) :
    construct order cgroup fstab = .ok info ↔
      ∃ middle, loadHierarchies order cgroup SystemInfo.empty = .ok middle ∧
        loadMountpoints order fstab middle = .ok info := by
  unfold construct
  cases loadHierarchies order cgroup SystemInfo.empty <;> simp [Except.bind]

theorem construct_indexed (order : HashOrder String)
    (returned : construct order cgroup fstab = .ok info) :
    Separate cgroup ∧ Indexed cgroup fstab info := by
  obtain ⟨middle, loaded, mounted⟩ := (construct_eq_ok_iff order).mp returned
  have separate := (load_hierarchies_returns_iff order).mp ⟨middle, loaded⟩
  exact ⟨separate,
    load_mountpoints_indexed order separate (load_hierarchies_indexed order loaded) mounted⟩

theorem construct_returns_iff (order : HashOrder String) :
    (∃ info, construct order cgroup fstab = .ok info) ↔ Consistent cgroup fstab := by
  simp only [construct_eq_ok_iff]
  constructor
  · rintro ⟨info, middle, loaded, mounted⟩
    have separate := (load_hierarchies_returns_iff order).mp ⟨middle, loaded⟩
    exact ⟨separate, (load_mountpoints_returns_iff order separate
      (load_hierarchies_indexed order loaded)).mp ⟨info, mounted⟩⟩
  · intro consistent
    have separate := consistent.toSeparate
    obtain ⟨middle, loaded⟩ := (load_hierarchies_returns_iff order).mpr separate
    obtain ⟨info, mounted⟩ := (load_mountpoints_returns_iff order separate
      (load_hierarchies_indexed order loaded)).mpr consistent.namedMounts
    exact ⟨info, middle, loaded, mounted⟩

/-- Neither a failed assertion nor the first of the two inconsistency messages. -/
def Anticipated : SystemInfoError → Prop
  | .assertion _ => False
  | .inconsistency message _ _ =>
      message ≠ "/proc/mounts is not consistent with /proc/self/cgroup"
  | _ => True

theorem load_hierarchy_error_anticipated (order : HashOrder String)
    (entry : ProcPidCgroupEntry) {error : SystemInfoError}
    (thrown : loadHierarchy order info entry = .error error) : Anticipated error := by
  unfold loadHierarchy at thrown
  by_cases present : entry.hierarchyId ∈ info.id2hierarchy_
  · rw [if_pos present] at thrown
    cases thrown
    trivial
  · rw [if_neg present] at thrown
    refine fold_error (fun _ _ => True) Anticipated (fun _ _ _ _ _ _ => trivial) ?_
      [] trivial thrown
    intro state before name raised _ failed
    unfold loadSubsystem at failed
    split at failed <;> cases failed
    trivial

theorem load_mountpoint_error_anticipated (order : HashOrder String)
    (indexed : Indexed cgroup fstab info) (mount : MountEntry) {error : SystemInfoError}
    (thrown : loadMountpoint order info mount = .error error) : Anticipated error := by
  by_cases isCgroup : mount.type = "cgroup"
  · rcases load_mountpoint_cases order indexed mount isCgroup with
      ⟨_, result⟩ | ⟨_, _, entry, _, _, result⟩
    · rw [result] at thrown
      cases thrown
      trivial
    · rw [result] at thrown
      split at thrown <;> cases thrown
      simp [Anticipated]
  · simp [loadMountpoint, isCgroup] at thrown

theorem construct_error_anticipated (order : HashOrder String) {error : SystemInfoError}
    (thrown : construct order cgroup fstab = .error error) : Anticipated error := by
  cases loaded : loadHierarchies order cgroup SystemInfo.empty with
  | error raised =>
      have same : raised = error := by simpa [construct, loaded, Except.bind] using thrown
      refine same ▸ fold_error (fun _ _ => True) Anticipated (fun _ _ _ _ _ _ => trivial)
        (fun _ _ entry _ _ failed => load_hierarchy_error_anticipated order entry failed)
        [] trivial loaded
  | ok middle =>
      have failed : loadMountpoints order fstab middle = .error error := by
        simpa [construct, loaded, Except.bind] using thrown
      have separate := (load_hierarchies_returns_iff order).mp ⟨middle, loaded⟩
      exact fold_error (fun info before => Indexed cgroup before info) Anticipated
        (fun _ _ _ _ indexed stepped => load_mountpoint_indexed order separate indexed stepped)
        (fun _ _ mount _ indexed failed =>
          load_mountpoint_error_anticipated order indexed mount failed)
        _ (load_hierarchies_indexed order loaded) failed

/-- What the lookups of a constructed object return, in terms of the two files. -/
structure Agrees (cgroup : List ProcPidCgroupEntry) (fstab : List MountEntry)
    (info : SystemInfo) : Prop where
  iteration : ∀ order : HashOrder Nat,
    (iterate order info.id2hierarchy_).Perm (cgroup.map (hierarchyOf cgroup fstab))
  byHierarchyId : ∀ id hierarchyInfo, info.byHierarchyId id = .ok hierarchyInfo ↔
    ∃ entry ∈ cgroup, entry.hierarchyId = id ∧ hierarchyInfo = hierarchyOf cgroup fstab entry
  byHierarchyIdThrows : ∀ id,
    info.byHierarchyId id = .error (.unknownHierarchy (.hierarchyId id)) ↔
      ∀ entry ∈ cgroup, entry.hierarchyId ≠ id
  ownerUnique : ∀ subsystem, ∀ left ∈ cgroup, ∀ right ∈ cgroup,
    subsystem ∈ left.subsystems → subsystem ∈ right.subsystems → left = right
  bySubsystem : ∀ subsystem hierarchyInfo, info.bySubsystem subsystem = .ok hierarchyInfo ↔
    ∃ entry ∈ cgroup, subsystem ∈ entry.subsystems ∧
      hierarchyInfo = hierarchyOf cgroup fstab entry
  bySubsystemThrows : ∀ subsystem,
    info.bySubsystem subsystem = .error (.unknownHierarchy (.subsystem subsystem)) ↔
      ∀ entry ∈ cgroup, subsystem ∉ entry.subsystems
  noAssertion : ∀ expression,
    (∀ subsystem, info.bySubsystem subsystem ≠ .error (.assertion expression)) ∧
    ∀ mountpoint, info.byMountpoint mountpoint ≠ .error (.assertion expression)

theorem iteration_perm (separate : Separate cgroup) (indexed : Indexed cgroup fstab info)
    (order : HashOrder Nat) :
    (iterate order info.id2hierarchy_).Perm (cgroup.map (hierarchyOf cgroup fstab)) := by
  have visited : (iterate order info.id2hierarchy_).Nodup :=
    (iterate_map_nodup order info.id2hierarchy_ HierarchyInfo.id
      (indexed_keyed indexed)).of_map
  have listed : (cgroup.map (hierarchyOf cgroup fstab)).Nodup := by
    refine List.Nodup.of_map HierarchyInfo.id ?_
    simpa [Function.comp_def, hierarchyOf] using separate.distinctIds
  refine (List.perm_ext_iff_of_nodup visited listed).mpr ?_
  intro hierarchyInfo
  simp only [mem_iterate_iff, indexed.hierarchies, List.mem_map]
  constructor
  · rintro ⟨_, entry, member, _, rfl⟩
    exact ⟨entry, member, rfl⟩
  · rintro ⟨entry, member, rfl⟩
    exact ⟨entry.hierarchyId, entry, member, rfl, rfl⟩

theorem by_id_no_fail_of_entry (indexed : Indexed cgroup fstab info)
    {entry : ProcPidCgroupEntry} (member : entry ∈ cgroup) :
    info.byIdNoFail entry.hierarchyId = .ok (hierarchyOf cgroup fstab entry) :=
  by_id_no_fail_eq_ok.mpr ((indexed.hierarchies _ _).mpr ⟨entry, member, rfl, rfl⟩)

theorem by_subsystem_of_entry (indexed : Indexed cgroup fstab info)
    {entry : ProcPidCgroupEntry} (member : entry ∈ cgroup) {subsystem : String}
    (listed : subsystem ∈ entry.subsystems) :
    info.bySubsystem subsystem = .ok (hierarchyOf cgroup fstab entry) := by
  have found := (indexed.subsystems subsystem entry.hierarchyId).mpr
    ⟨entry, member, rfl, listed⟩
  simp only [bySubsystem, found, by_id_no_fail_of_entry indexed member]

theorem by_subsystem_of_unlisted (indexed : Indexed cgroup fstab info) {subsystem : String}
    (unlisted : ∀ entry ∈ cgroup, subsystem ∉ entry.subsystems) :
    info.bySubsystem subsystem = .error (.unknownHierarchy (.subsystem subsystem)) := by
  have absent : info.subsystem2id_.lookup subsystem = none := by
    rw [AList.lookup_eq_none, indexed_known_iff indexed]
    rintro ⟨entry, member, listed⟩
    exact unlisted entry member listed
  simp only [bySubsystem, absent]

theorem by_mountpoint_no_assertion (indexed : Indexed cgroup fstab info)
    (mountpoint : Directory) (expression : String) :
    info.byMountpoint mountpoint ≠ .error (.assertion expression) := by
  unfold byMountpoint
  split
  next => simp
  next id found =>
      obtain ⟨_, _, entry, member, rfl, _⟩ := (indexed.mountpoints mountpoint id).mp found
      simp [by_id_no_fail_of_entry indexed member]

theorem indexed_agrees (separate : Separate cgroup) (indexed : Indexed cgroup fstab info) :
    Agrees cgroup fstab info := by
  refine ⟨iteration_perm separate indexed, ?_, ?_, ?_, ?_, ?_, ?_⟩
  · intro id hierarchyInfo
    rw [by_hierarchy_id_eq_ok, indexed.hierarchies]
  · intro id
    have absentIff : info.byHierarchyId id = .error (.unknownHierarchy (.hierarchyId id)) ↔
        info.id2hierarchy_.lookup id = none := by
      unfold SystemInfo.byHierarchyId
      cases info.id2hierarchy_.lookup id <;> simp
    rw [absentIff, Option.eq_none_iff_forall_ne_some]
    simp only [ne_eq, indexed.hierarchies, not_exists, not_and]
    constructor
    · intro absent entry member sameId
      exact absent _ entry member sameId rfl
    · intro unlisted _ entry member sameId
      exact absurd sameId (unlisted entry member)
  · intro subsystem left leftMember right rightMember inLeft inRight
    exact entry_of_subsystem_unique separate leftMember rightMember inLeft inRight
  · intro subsystem hierarchyInfo
    constructor
    · intro found
      by_cases known : Known cgroup subsystem
      · obtain ⟨entry, member, listed⟩ := known
        rw [by_subsystem_of_entry indexed member listed] at found
        exact ⟨entry, member, listed, (Except.ok.inj found).symm⟩
      · rw [by_subsystem_of_unlisted indexed
          (fun entry member listed => known ⟨entry, member, listed⟩)] at found
        cases found
    · rintro ⟨entry, member, listed, rfl⟩
      exact by_subsystem_of_entry indexed member listed
  · intro subsystem
    constructor
    · intro thrown entry member listed
      rw [by_subsystem_of_entry indexed member listed] at thrown
      cases thrown
    · exact by_subsystem_of_unlisted indexed
  · intro expression
    refine ⟨?_, fun mountpoint => by_mountpoint_no_assertion indexed mountpoint expression⟩
    intro subsystem
    by_cases known : Known cgroup subsystem
    · obtain ⟨entry, member, listed⟩ := known
      simp [by_subsystem_of_entry indexed member listed]
    · rw [by_subsystem_of_unlisted indexed
        (fun entry member listed => known ⟨entry, member, listed⟩)]
      simp

/-- The constructor succeeds exactly on consistent files, its lookups then
agree with each other and with the files, and the branches the source marks
as impossible are not taken. -/
theorem construct_accepts_consistent_files (order : HashOrder String)
    (cgroup : List ProcPidCgroupEntry) (fstab : List MountEntry) :
    ((∃ info, construct order cgroup fstab = .ok info) ↔ Consistent cgroup fstab) ∧
      (∀ info, construct order cgroup fstab = .ok info → Agrees cgroup fstab info) ∧
      ∀ error, construct order cgroup fstab = .error error → Anticipated error := by
  refine ⟨construct_returns_iff order, ?_, ?_⟩
  · intro info returned
    obtain ⟨separate, indexed⟩ := construct_indexed order returned
    exact indexed_agrees separate indexed
  · intro error thrown
    exact construct_error_anticipated order thrown

end ContestSystem.Cgroup.SystemInfoIndex
