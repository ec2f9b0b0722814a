import ContestSystem.Cgroup.SystemInfoIndex

/-!
# Forward and reverse mountpoint index

`loadMountpoints` records a mount twice: in the hierarchy's `mountpoint` and
in `mountpoint2id_`. A later mount on the same directory overwrites the second
entry and leaves the first one of the hierarchy mounted there before. The two
indexes therefore agree on every system whose `cgroup` mounts do not cover
each other, and only there.
-/

namespace ContestSystem.Cgroup.MountpointIndex

open ContestSystem.Lib.Unordered
open SystemInfo SystemInfoIndex

set_option autoImplicit false

variable {cgroup : List ProcPidCgroupEntry} {fstab : List MountEntry} {info : SystemInfo}

/-- The reverse lookup inverts the forward field, hierarchies do not share a
mountpoint, and their groups do not share a location. -/
structure MountpointsAgree (info : SystemInfo) : Prop where
  reverse : ∀ order : HashOrder Nat, ∀ hierarchy ∈ iterate order info.id2hierarchy_,
    ∀ mountpoint, hierarchy.mountpoint = some mountpoint →
      info.byMountpoint mountpoint = .ok hierarchy
  distinct : ∀ order : HashOrder Nat, ∀ left ∈ iterate order info.id2hierarchy_,
    ∀ right ∈ iterate order info.id2hierarchy_, left ≠ right →
      ∀ mountpoint, left.mountpoint = some mountpoint → right.mountpoint ≠ some mountpoint
  locations : ∀ order : HashOrder Nat, ∀ left ∈ iterate order info.id2hierarchy_,
    ∀ right ∈ iterate order info.id2hierarchy_, left ≠ right →
      ∀ leftMountpoint, left.mountpoint = some leftMountpoint →
      ∀ rightMountpoint, right.mountpoint = some rightMountpoint →
      ∀ leftGroup rightGroup,
        Location.path ⟨left.id, leftMountpoint, leftGroup⟩ ≠
          Location.path ⟨right.id, rightMountpoint, rightGroup⟩

/-- After the last mount of some hierarchy another `cgroup` mount covers its directory. -/
def MountedOver (cgroup : List ProcPidCgroupEntry) (fstab : List MountEntry) : Prop :=
  ∃ entry ∈ cgroup, ∃ before mount after, fstab = before ++ mount :: after ∧
    Names cgroup mount entry ∧ (∀ later ∈ after, ¬Names cgroup later entry) ∧
    ∃ later ∈ after, later.type = "cgroup" ∧ later.dir = mount.dir

/-- Some hierarchy was last mounted in a proper subdirectory of another one's mountpoint. -/
def MountedInside (cgroup : List ProcPidCgroupEntry) (fstab : List MountEntry) : Prop :=
  ∃ outer ∈ cgroup, ∃ inner ∈ cgroup, outer ≠ inner ∧
    ∃ outerMount, lastMount cgroup fstab outer = some outerMount ∧
    ∃ innerMount, lastMount cgroup fstab inner = some innerMount ∧
    ∃ component rest, innerMount.dir = outerMount.dir ++ component :: rest

theorem filter_get_last_split {Item : Type*} (keep : Item → Bool) {items : List Item}
    {last : Item} (found : (items.filter keep).getLast? = some last) :
    ∃ before after, items = before ++ last :: after ∧ keep last = true ∧
      ∀ later ∈ after, keep later = false := by
  induction items using List.reverseRecOn with
  | nil => simp at found
  | append_singleton items item ih =>
      cases kept : keep item with
      | true =>
          rw [List.filter_append, List.filter_cons_of_pos kept, List.filter_nil,
            List.getLast?_append] at found
          simp only [List.getLast?_singleton, Option.some_or, Option.some.injEq] at found
          subst found
          exact ⟨items, [], rfl, kept, by simp⟩
      | false =>
          have dropped : [item].filter keep = [] := by simp [kept]
          rw [List.filter_append, dropped, List.append_nil] at found
          obtain ⟨before, after, rfl, lastKept, rest⟩ := ih found
          refine ⟨before, after ++ [item], by simp, lastKept, ?_⟩
          intro later member
          rcases List.mem_append.mp member with inside | new
          · exact rest later inside
          · exact List.mem_singleton.mp new ▸ kept

theorem get_last_filter_append_cons {Item : Type*} (keep : Item → Bool)
    (before after : List Item) (item : Item) (kept : keep item = true) :
    ((before ++ item :: after).filter keep).getLast? =
      some (((after.filter keep).getLast?).getD item) := by
  rw [List.filter_append, List.filter_cons_of_pos kept, List.getLast?_append,
    List.getLast?_cons]
  rfl

theorem yields_iff (indexed : Indexed cgroup fstab info) (order : HashOrder Nat)
    (hierarchy : HierarchyInfo) :
    hierarchy ∈ iterate order info.id2hierarchy_ ↔
      ∃ entry ∈ cgroup, hierarchy = hierarchyOf cgroup fstab entry := by
  simp only [mem_iterate_iff, indexed.hierarchies]
  constructor
  · rintro ⟨_, entry, member, _, rfl⟩
    exact ⟨entry, member, rfl⟩
  · rintro ⟨entry, member, rfl⟩
    exact ⟨entry.hierarchyId, entry, member, rfl, rfl⟩

theorem by_mountpoint_of_last (indexed : Indexed cgroup fstab info) {dir : Directory}
    {mount : MountEntry} (last : lastMountAt fstab dir = some mount)
    {entry : ProcPidCgroupEntry} (member : entry ∈ cgroup)
    (names : Names cgroup mount entry) :
    info.byMountpoint dir = .ok (hierarchyOf cgroup fstab entry) := by
  have found := (indexed.mountpoints dir entry.hierarchyId).mpr
    ⟨mount, last, entry, member, rfl, names⟩
  simp only [byMountpoint, found, by_id_no_fail_of_entry indexed member]

/-- Unless a mount is covered, the last mount on its directory is one of the same hierarchy. -/
theorem reverse_of_not_mounted_over (indexed : Indexed cgroup fstab info)
    (uncovered : ¬MountedOver cgroup fstab)
    {entry : ProcPidCgroupEntry} (member : entry ∈ cgroup) {mount : MountEntry}
    (last : lastMount cgroup fstab entry = some mount) :
    info.byMountpoint mount.dir = .ok (hierarchyOf cgroup fstab entry) := by
  obtain ⟨before, after, split, kept, rest⟩ := filter_get_last_split _ last
  have names : Names cgroup mount entry := by simpa using kept
  have unnamed : ∀ later ∈ after, ¬Names cgroup later entry := by
    intro later inside
    simpa using rest later inside
  have alone : ∀ later ∈ after, ¬(later.type = "cgroup" ∧ later.dir = mount.dir) := by
    intro later inside here
    exact uncovered ⟨entry, member, before, mount, after, split, names, unnamed,
      later, inside, here⟩
  have lastAt : lastMountAt fstab mount.dir = some mount := by
    have none : after.filter
        (fun later => decide (later.type = "cgroup" ∧ later.dir = mount.dir)) = [] := by
      simpa [List.filter_eq_nil_iff] using alone
    rw [lastMountAt, split, get_last_filter_append_cons _ _ _ _ (by simp [names.1]), none]
    rfl
  exact by_mountpoint_of_last indexed lastAt member names

theorem reverse_fails_of_mounted_over (separate : Separate cgroup)
    (indexed : Indexed cgroup fstab info)
    (named : ∀ mount ∈ fstab, mount.type = "cgroup" →
      ∃ entry ∈ cgroup, Names cgroup mount entry)
    (covered : MountedOver cgroup fstab) : ¬MountpointsAgree info := by
  intro agree
  obtain ⟨entry, member, before, mount, after, split, names, unnamed,
    later, inside, laterCgroup, laterDir⟩ := covered
  have last : lastMount cgroup fstab entry = some mount := by
    have none : after.filter (fun later => decide (Names cgroup later entry)) = [] := by
      simpa [List.filter_eq_nil_iff] using unnamed
    rw [lastMount, split, get_last_filter_append_cons _ _ _ _ (by simpa using names), none]
    rfl
  have lastInside : ∃ cover ∈ after, lastMountAt fstab mount.dir = some cover := by
    rw [lastMountAt, split, get_last_filter_append_cons _ _ _ _ (by simp [names.1])]
    have nonempty : after.filter
        (fun later => decide (later.type = "cgroup" ∧ later.dir = mount.dir)) ≠ [] := by
      apply List.ne_nil_of_mem (a := later)
      simp [List.mem_filter, inside, laterCgroup, laterDir]
    refine ⟨_, List.mem_of_mem_filter (List.getLast_mem nonempty), ?_⟩
    rw [List.getLast?_eq_some_getLast nonempty]
    rfl
  obtain ⟨cover, coverInside, coverLast⟩ := lastInside
  have coverCgroup : cover.type = "cgroup" := by
    obtain ⟨_, _, _, coverKept, _⟩ := filter_get_last_split _ coverLast
    simp only [decide_eq_true_eq] at coverKept
    exact coverKept.1
  have coverMember : cover ∈ fstab := by
    rw [split]
    exact List.mem_append_right _ (List.mem_cons_of_mem _ coverInside)
  obtain ⟨owner, ownerMember, ownerNames⟩ := named cover coverMember coverCgroup
  have reverse := agree.reverse insertionOrder (hierarchyOf cgroup fstab entry)
    ((yields_iff indexed _ _).mpr ⟨entry, member, rfl⟩) mount.dir (by simp [hierarchyOf, last])
  rw [by_mountpoint_of_last indexed coverLast ownerMember ownerNames] at reverse
  have sameEntry := entry_of_id_unique separate ownerMember member
    (congrArg HierarchyInfo.id (Except.ok.inj reverse))
  exact unnamed cover coverInside (sameEntry ▸ ownerNames)

theorem locations_shared_of_mounted_inside (separate : Separate cgroup)
    (indexed : Indexed cgroup fstab info)
    (nested : MountedInside cgroup fstab) : ¬MountpointsAgree info := by
  intro agree
  obtain ⟨outer, outerMember, inner, innerMember, different, outerMount, outerLast,
    innerMount, innerLast, component, rest, below⟩ := nested
  have differentHierarchies :
      hierarchyOf cgroup fstab outer ≠ hierarchyOf cgroup fstab inner := by
    intro same
    exact different (entry_of_id_unique separate outerMember innerMember
      (congrArg HierarchyInfo.id same))
  refine agree.locations insertionOrder
    _ ((yields_iff indexed _ _).mpr ⟨outer, outerMember, rfl⟩)
    _ ((yields_iff indexed _ _).mpr ⟨inner, innerMember, rfl⟩) differentHierarchies
    outerMount.dir (by simp [hierarchyOf, outerLast])
    innerMount.dir (by simp [hierarchyOf, innerLast]) (component :: rest) [] ?_
  simp [Location.path, below]

theorem mountpoint_eq_some_iff {entry : ProcPidCgroupEntry} {dir : Directory} :
    (hierarchyOf cgroup fstab entry).mountpoint = some dir ↔
      ∃ mount, lastMount cgroup fstab entry = some mount ∧ mount.dir = dir := by
  simp [hierarchyOf, Option.map_eq_some_iff]

theorem agree_of_apart (indexed : Indexed cgroup fstab info)
    (uncovered : ¬MountedOver cgroup fstab) (apart : ¬MountedInside cgroup fstab) :
    MountpointsAgree info := by
  have reverse : ∀ order : HashOrder Nat, ∀ hierarchy ∈ iterate order info.id2hierarchy_,
      ∀ mountpoint, hierarchy.mountpoint = some mountpoint →
        info.byMountpoint mountpoint = .ok hierarchy := by
    intro order hierarchy yielded mountpoint mounted
    obtain ⟨entry, member, rfl⟩ := (yields_iff indexed order hierarchy).mp yielded
    obtain ⟨mount, last, rfl⟩ := mountpoint_eq_some_iff.mp mounted
    exact reverse_of_not_mounted_over indexed uncovered member last
  have distinct : ∀ order : HashOrder Nat, ∀ left ∈ iterate order info.id2hierarchy_,
      ∀ right ∈ iterate order info.id2hierarchy_, left ≠ right →
        ∀ mountpoint, left.mountpoint = some mountpoint →
          right.mountpoint ≠ some mountpoint := by
    intro order left leftYielded right rightYielded different mountpoint leftAt rightAt
    have leftFound := reverse order left leftYielded mountpoint leftAt
    have rightFound := reverse order right rightYielded mountpoint rightAt
    exact different (Except.ok.inj (leftFound.symm.trans rightFound))
  refine ⟨reverse, distinct, ?_⟩
  intro order left leftYielded right rightYielded different leftMountpoint leftAt
    rightMountpoint rightAt leftGroup rightGroup shared
  obtain ⟨outer, outerMember, rfl⟩ := (yields_iff indexed order left).mp leftYielded
  obtain ⟨inner, innerMember, rfl⟩ := (yields_iff indexed order right).mp rightYielded
  obtain ⟨outerMount, outerLast, rfl⟩ := mountpoint_eq_some_iff.mp leftAt
  obtain ⟨innerMount, innerLast, rfl⟩ := mountpoint_eq_some_iff.mp rightAt
  have entriesDiffer : outer ≠ inner := fun same => different (same ▸ rfl)
  have dirsDiffer : outerMount.dir ≠ innerMount.dir := by
    intro same
    exact distinct order _ leftYielded _ rightYielded different _ leftAt (same ▸ rightAt)
  -- A shared location makes one mountpoint a prefix of the other.
  rcases List.append_eq_append_iff.mp shared with ⟨rest, below, _⟩ | ⟨rest, below, _⟩
  · cases rest with
    | nil => exact dirsDiffer (by simpa using below.symm)
    | cons component rest =>
        exact apart ⟨outer, outerMember, inner, innerMember, entriesDiffer, outerMount,
          outerLast, innerMount, innerLast, component, rest, below⟩
  · cases rest with
    | nil => exact dirsDiffer (by simpa using below)
    | cons component rest =>
        exact apart ⟨inner, innerMember, outer, outerMember, entriesDiffer.symm, innerMount,
          innerLast, outerMount, outerLast, component, rest, below⟩

/-- The indexes and the locations agree exactly when no `cgroup` mount covers
or lies inside the last mount of another hierarchy. -/
theorem mountpoints_agree_iff (order : HashOrder String) (cgroup : List ProcPidCgroupEntry)
    (fstab : List MountEntry) (info : SystemInfo)
    (returned : construct order cgroup fstab = .ok info) :
    MountpointsAgree info ↔ ¬MountedOver cgroup fstab ∧ ¬MountedInside cgroup fstab := by
  obtain ⟨separate, indexed⟩ := construct_indexed order returned
  have consistent := (construct_returns_iff order).mp ⟨info, returned⟩
  have named : ∀ mount ∈ fstab, mount.type = "cgroup" →
      ∃ entry ∈ cgroup, Names cgroup mount entry := by
    intro mount member isCgroup
    obtain ⟨nonempty, entry, entryMember, same⟩ :=
      consistent.namedMounts mount member isCgroup
    exact ⟨entry, entryMember, isCgroup, nonempty, same⟩
  constructor
  · intro agree
    exact ⟨fun covered => reverse_fails_of_mounted_over separate indexed named covered agree,
      fun nested => locations_shared_of_mounted_inside separate indexed nested agree⟩
  · rintro ⟨uncovered, apart⟩
    exact agree_of_apart indexed uncovered apart

def mountDirectory : Directory := [⟨"sys", by decide⟩, ⟨"cgroup", by decide⟩]

def freezerEntry : ProcPidCgroupEntry := { hierarchyId := 7, subsystems := ["freezer"] }

def cpuEntry : ProcPidCgroupEntry := { hierarchyId := 3, subsystems := ["cpu"] }

def freezerMount (dir : Directory) : MountEntry :=
  { dir := dir, type := "cgroup", opts := "rw,freezer" }

def cpuMount (dir : Directory) : MountEntry := { dir := dir, type := "cgroup", opts := "rw,cpu" }

def twoHierarchies (freezerDir cpuDir : Directory) : SystemInfo :=
  { id2hierarchy_ :=
      (((AList.insert 7 ⟨7, ["freezer"], none⟩ ∅).insert 3 ⟨3, ["cpu"], none⟩).insert 7
        ⟨7, ["freezer"], some freezerDir⟩).insert 3 ⟨3, ["cpu"], some cpuDir⟩
    mountpoint2id_ := (AList.insert freezerDir 7 ∅).insert cpuDir 3
    subsystem2id_ := (AList.insert "freezer" 7 ∅).insert "cpu" 3 }

/-- `cpu` mounted over `freezer`: the freezer hierarchy still reports the
directory, the reverse lookup returns the cpu hierarchy. -/
theorem mounted_over_disagrees :
    construct insertionOrder [freezerEntry, cpuEntry]
        [freezerMount mountDirectory, cpuMount mountDirectory] =
      .ok (twoHierarchies mountDirectory mountDirectory) ∧
    ¬MountpointsAgree (twoHierarchies mountDirectory mountDirectory) := by
  refine ⟨rfl, fun agree => ?_⟩
  have reverse := agree.reverse insertionOrder ⟨7, ["freezer"], some mountDirectory⟩
    (by decide) mountDirectory rfl
  revert reverse
  decide

/-- Two hierarchies mounted side by side. -/
theorem mountpoints_agree_iff_side_by_side :
    construct insertionOrder [freezerEntry, cpuEntry]
        [freezerMount [⟨"freezer", by decide⟩], cpuMount [⟨"cpu", by decide⟩]] =
      .ok (twoHierarchies [⟨"freezer", by decide⟩] [⟨"cpu", by decide⟩]) ∧
    (MountpointsAgree (twoHierarchies [⟨"freezer", by decide⟩] [⟨"cpu", by decide⟩]) ↔
      ¬MountedOver [freezerEntry, cpuEntry]
          [freezerMount [⟨"freezer", by decide⟩], cpuMount [⟨"cpu", by decide⟩]] ∧
        ¬MountedInside [freezerEntry, cpuEntry]
          [freezerMount [⟨"freezer", by decide⟩], cpuMount [⟨"cpu", by decide⟩]]) :=
  ⟨rfl, mountpoints_agree_iff insertionOrder _ _ _ rfl⟩

end ContestSystem.Cgroup.MountpointIndex
