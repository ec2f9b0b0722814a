import ContestSystem.Cgroup.ProcPidCgroup
import ContestSystem.Cgroup.SystemInfoIndex

/-!
# The hierarchies of a process

A lookup in `ProcessInfo` goes through two indexes: `SystemInfo` finds the hierarchy
of an id, a subsystem or a mountpoint, and the file of the process tells the control
group in it. Iterating goes the other way, from the entries of the process to their
hierarchies.
-/

namespace ContestSystem.Cgroup.ProcPidCgroup

open ContestSystem.Lib.Decimal ContestSystem.Lib.FallibleFold ContestSystem.Lib.Unordered
open SystemInfoIndex

set_option autoImplicit false

structure ProcessHierarchyInfo where
  hierarchy : HierarchyInfo
  controlGroup : Text
deriving DecidableEq

inductive ProcessLookupError
  | systemInfo (error : SystemInfoError)
  | inconsistency (message : String) (hierarchyId : Nat)
deriving DecidableEq

namespace ProcessInfo

def unableToFind : String := "Unable to find cgroup for hierarchy's id."

def getProcessHierarchyInfo (processInfo : ProcessInfo) (hierarchyInfo : HierarchyInfo) :
    Except ProcessLookupError ProcessHierarchyInfo :=
  match processInfo.id2controlGroup_.lookup (UInt64.ofNat hierarchyInfo.id) with
  | none => .error (.inconsistency unableToFind hierarchyInfo.id)
  | some controlGroup => .ok { hierarchy := hierarchyInfo, controlGroup := controlGroup }

/-- The lookups differ in what they ask `SystemInfo`. -/
def ofHierarchy (processInfo : ProcessInfo) :
    Except SystemInfoError HierarchyInfo → Except ProcessLookupError ProcessHierarchyInfo
  | .error error => .error (.systemInfo error)
  | .ok hierarchyInfo => processInfo.getProcessHierarchyInfo hierarchyInfo

def byHierarchyId (processInfo : ProcessInfo) (info : SystemInfo) (hierarchyId : Nat) :
    Except ProcessLookupError ProcessHierarchyInfo :=
  processInfo.ofHierarchy (info.byHierarchyId hierarchyId)

def bySubsystem (processInfo : ProcessInfo) (info : SystemInfo) (subsystem : String) :
    Except ProcessLookupError ProcessHierarchyInfo :=
  processInfo.ofHierarchy (info.bySubsystem subsystem)

def byMountpoint (processInfo : ProcessInfo) (info : SystemInfo) (mountpoint : Directory) :
    Except ProcessLookupError ProcessHierarchyInfo :=
  processInfo.ofHierarchy (info.byMountpoint mountpoint)

/-- `IteratorConverter`. -/
def convert (info : SystemInfo) (value : (_ : UInt64) × Text) :
    Except ProcessLookupError ProcessHierarchyInfo :=
  match info.byHierarchyId value.1.toNat with
  | .error error => .error (.systemInfo error)
  | .ok hierarchyInfo => .ok { hierarchy := hierarchyInfo, controlGroup := value.2 }

def visit (info : SystemInfo) (seen : List ProcessHierarchyInfo) (value : (_ : UInt64) × Text) :
    Except ProcessLookupError (List ProcessHierarchyInfo) :=
  match convert info value with
  | .error error => .error error
  | .ok processHierarchyInfo => .ok (seen ++ [processHierarchyInfo])

/-- What a loop over a `ProcessInfo` sees whose map is iterated as `values`. -/
def iterated (info : SystemInfo) (values : List ((_ : UInt64) × Text)) :
    Except ProcessLookupError (List ProcessHierarchyInfo) :=
  values.foldlM (visit info) []

end ProcessInfo

/-- What the file of the process has for a hierarchy. -/
def joined (entries : List Entry) (hierarchyInfo : HierarchyInfo) :
    Except ProcessLookupError ProcessHierarchyInfo :=
  match entries.find? fun entry => entry.hierarchyId = UInt64.ofNat hierarchyInfo.id with
  | none => .error (.inconsistency ProcessInfo.unableToFind hierarchyInfo.id)
  | some entry => .ok { hierarchy := hierarchyInfo, controlGroup := entry.controlGroup }

section Lookups

variable {cgroup : List ProcPidCgroupEntry} {fstab : List MountEntry} {info : SystemInfo}
  {entries : List Entry} {processInfo : ProcessInfo}

theorem get_process_hierarchy_info (indexes : Indexes processInfo entries)
    (hierarchyInfo : HierarchyInfo) :
    processInfo.getProcessHierarchyInfo hierarchyInfo = joined entries hierarchyInfo := by
  unfold ProcessInfo.getProcessHierarchyInfo joined
  cases found : entries.find? fun entry => entry.hierarchyId = UInt64.ofNat hierarchyInfo.id with
  | none =>
      have absent : processInfo.id2controlGroup_.lookup (UInt64.ofNat hierarchyInfo.id) = none := by
        rw [AList.lookup_eq_none, indexed_iff_known indexes]
        rintro ⟨entry, member, same⟩
        have different := List.find?_eq_none.mp found entry member
        exact different (decide_eq_true same)
      rw [absent]
  | some entry =>
      have member := List.mem_of_find?_eq_some found
      have same : entry.hierarchyId = UInt64.ofNat hierarchyInfo.id := by
        simpa only [decide_eq_true_eq] using List.find?_some found
      rw [(indexes _ entry.controlGroup).mpr ⟨entry, member, same, rfl⟩]

theorem by_mountpoint_of_entry (indexed : Indexed cgroup fstab info) {dir : Directory}
    {mount : MountEntry} {hierarchy : ProcPidCgroupEntry}
    (last : lastMountAt fstab dir = some mount) (member : hierarchy ∈ cgroup)
    (names : Names cgroup mount hierarchy) :
    info.byMountpoint dir = .ok (hierarchyOf cgroup fstab hierarchy) := by
  have found := (indexed.mountpoints dir hierarchy.hierarchyId).mpr
    ⟨mount, last, hierarchy, member, rfl, names⟩
  simp only [SystemInfo.byMountpoint, found, by_id_no_fail_of_entry indexed member]

theorem by_mountpoint_of_unmounted (indexed : Indexed cgroup fstab info) {dir : Directory}
    (unmounted : lastMountAt fstab dir = none) :
    info.byMountpoint dir = .error (.unknownHierarchy (.mountpoint dir)) := by
  have absent : info.mountpoint2id_.lookup dir = none := by
    apply Option.eq_none_iff_forall_ne_some.mpr
    intro id found
    obtain ⟨mount, last, _⟩ := (indexed.mountpoints dir id).mp found
    rw [unmounted] at last
    cases last
  simp only [SystemInfo.byMountpoint, absent]

end Lookups

section Iteration

variable {info : SystemInfo} {values : List ((_ : UInt64) × Text)}

theorem visit_eq_ok {seen next : List ProcessHierarchyInfo} {value : (_ : UInt64) × Text} :
    ProcessInfo.visit info seen value = .ok next ↔
      ∃ answer, ProcessInfo.convert info value = .ok answer ∧ next = seen ++ [answer] := by
  unfold ProcessInfo.visit
  cases ProcessInfo.convert info value <;> simp [eq_comm]

theorem convert_eq_ok {value : (_ : UInt64) × Text} {answer : ProcessHierarchyInfo} :
    ProcessInfo.convert info value = .ok answer ↔
      info.byHierarchyId value.1.toNat = .ok answer.hierarchy ∧
        answer.controlGroup = value.2 := by
  unfold ProcessInfo.convert
  cases info.byHierarchyId value.1.toNat with
  | error error => simp
  | ok hierarchyInfo =>
      cases answer
      simp [eq_comm]

theorem iterated_returns_iff :
    (∃ answers, ProcessInfo.iterated info values = .ok answers) ↔
      ∀ value ∈ values, ∃ hierarchyInfo, info.byHierarchyId value.1.toNat = .ok hierarchyInfo := by
  rw [← accept_all_forall_iff _ [] values]
  refine fold_returns_iff (fun _ _ => True) _ (fun _ _ _ _ _ _ => trivial) ?_ trivial
  intro seen before value _
  constructor
  · rintro ⟨next, visited⟩
    obtain ⟨answer, converted, _⟩ := visit_eq_ok.mp visited
    exact ⟨answer.hierarchy, (convert_eq_ok.mp converted).1⟩
  · rintro ⟨hierarchyInfo, found⟩
    exact ⟨_, visit_eq_ok.mpr ⟨⟨hierarchyInfo, value.2⟩, convert_eq_ok.mpr ⟨found, rfl⟩, rfl⟩⟩

theorem iterated_converts {answers : List ProcessHierarchyInfo}
    (returned : ProcessInfo.iterated info values = .ok answers) :
    values.map (ProcessInfo.convert info) = answers.map .ok := by
  have preserved : ∀ seen (before : List ((_ : UInt64) × Text)) value next,
      before.map (ProcessInfo.convert info) = seen.map .ok →
      ProcessInfo.visit info seen value = .ok next →
        (before ++ [value]).map (ProcessInfo.convert info) = next.map .ok := by
    intro seen before value next converted visited
    obtain ⟨answer, last, rfl⟩ := visit_eq_ok.mp visited
    rw [List.map_append, List.map_append, converted, List.map_singleton, List.map_singleton, last]
  have initial : ([] : List ((_ : UInt64) × Text)).map (ProcessInfo.convert info) = [].map .ok :=
    rfl
  exact fold_invariant (fun seen before => before.map (ProcessInfo.convert info) = seen.map .ok)
    preserved initial returned

theorem mem_iterated_iff {answers : List ProcessHierarchyInfo}
    (returned : ProcessInfo.iterated info values = .ok answers) (answer : ProcessHierarchyInfo) :
    answer ∈ answers ↔ ∃ value ∈ values, ProcessInfo.convert info value = .ok answer := by
  have injective : Function.Injective
      (Except.ok : ProcessHierarchyInfo → Except ProcessLookupError ProcessHierarchyInfo) :=
    fun _ _ same => Except.ok.inj same
  rw [← List.mem_map_of_injective injective, ← iterated_converts returned, List.mem_map]

theorem iterated_ids (keyed : info.Keyed) {answers : List ProcessHierarchyInfo}
    (returned : ProcessInfo.iterated info values = .ok answers) :
    answers.map (fun answer => answer.hierarchy.id) = values.map fun value => value.1.toNat := by
  have converts := iterated_converts returned
  clear returned
  induction values generalizing answers with
  | nil =>
      rw [List.map_nil] at converts
      rw [List.map_eq_nil_iff.mp converts.symm]
      rfl
  | cons value values ih =>
      cases answers with
      | nil => cases converts
      | cons answer answers =>
          obtain ⟨head, tail⟩ := List.cons.inj converts
          have found := SystemInfo.by_hierarchy_id_eq_ok.mp (convert_eq_ok.mp head).1
          rw [List.map_cons, List.map_cons, ih tail, keyed _ _ found]

theorem iterated_throws {error : ProcessLookupError}
    (thrown : ProcessInfo.iterated info values = .error error) :
    ∃ id : UInt64, ∃ raised, info.byHierarchyId id.toNat = .error raised ∧
      error = .systemInfo raised := by
  refine fold_error (fun _ _ => True) (fun error => ∃ id : UInt64, ∃ raised,
    info.byHierarchyId id.toNat = .error raised ∧ error = .systemInfo raised)
    (fun _ _ _ _ _ _ => trivial) ?_ [] trivial thrown
  intro seen before value error _ failed
  simp only [ProcessInfo.visit, ProcessInfo.convert] at failed
  cases found : info.byHierarchyId value.1.toNat with
  | error raised =>
      rw [found] at failed
      cases failed
      exact ⟨value.1, raised, found, rfl⟩
  | ok hierarchyInfo =>
      rw [found] at failed
      cases failed

end Iteration

section Joins

variable {cgroup : List ProcPidCgroupEntry} {fstab : List MountEntry} {info : SystemInfo}
  {entries : List Entry} {processInfo : ProcessInfo}

/-- Every lookup answers with what the two files have for one hierarchy, and a loop
sees what the lookups by id find, or throws at an id that `SystemInfo` does not have. -/
structure Joins (cgroup : List ProcPidCgroupEntry) (fstab : List MountEntry)
    (info : SystemInfo) (entries : List Entry) (processInfo : ProcessInfo) : Prop where
  byHierarchyId : ∀ hierarchy ∈ cgroup,
    processInfo.byHierarchyId info hierarchy.hierarchyId =
      joined entries (hierarchyOf cgroup fstab hierarchy)
  bySubsystem : ∀ hierarchy ∈ cgroup, ∀ subsystem ∈ hierarchy.subsystems,
    processInfo.bySubsystem info subsystem = joined entries (hierarchyOf cgroup fstab hierarchy)
  byMountpoint : ∀ dir mount, lastMountAt fstab dir = some mount →
    ∃ hierarchy ∈ cgroup, Names cgroup mount hierarchy ∧
      processInfo.byMountpoint info dir = joined entries (hierarchyOf cgroup fstab hierarchy)
  unknownId : ∀ id, (∀ hierarchy ∈ cgroup, hierarchy.hierarchyId ≠ id) →
    processInfo.byHierarchyId info id =
      .error (.systemInfo (.unknownHierarchy (.hierarchyId id)))
  unknownSubsystem : ∀ subsystem, (∀ hierarchy ∈ cgroup, subsystem ∉ hierarchy.subsystems) →
    processInfo.bySubsystem info subsystem =
      .error (.systemInfo (.unknownHierarchy (.subsystem subsystem)))
  unknownMountpoint : ∀ dir, lastMountAt fstab dir = none →
    processInfo.byMountpoint info dir =
      .error (.systemInfo (.unknownHierarchy (.mountpoint dir)))
  iteration : ∀ values, values.Perm processInfo.id2controlGroup_.entries →
    ∀ answers, ProcessInfo.iterated info values = .ok answers →
      (answers.map fun answer => answer.hierarchy.id).Nodup ∧
      ∀ answer, answer ∈ answers ↔ ∃ id, processInfo.byHierarchyId info id = .ok answer
  iterationReturns : ∀ values, values.Perm processInfo.id2controlGroup_.entries →
    ((∃ answers, ProcessInfo.iterated info values = .ok answers) ↔
      ∀ entry ∈ entries, ∃ hierarchy ∈ cgroup,
        hierarchy.hierarchyId = entry.hierarchyId.toNat)
  iterationThrows : ∀ values error, ProcessInfo.iterated info values = .error error →
    ∃ id : UInt64, (∀ hierarchy ∈ cgroup, hierarchy.hierarchyId ≠ id.toNat) ∧
      error = .systemInfo (.unknownHierarchy (.hierarchyId id.toNat))

theorem mem_entries_iff (indexes : Indexes processInfo entries)
    {values : List ((_ : UInt64) × Text)}
    (iterates : values.Perm processInfo.id2controlGroup_.entries) (id : UInt64)
    (controlGroup : Text) :
    ⟨id, controlGroup⟩ ∈ values ↔
      ∃ entry ∈ entries, entry.hierarchyId = id ∧ entry.controlGroup = controlGroup := by
  rw [iterates.mem_iff, ← AList.mem_lookup_iff]
  exact indexes id controlGroup

theorem by_hierarchy_id_answers (processInfo : ProcessInfo) (info : SystemInfo) (id : Nat)
    (answer : ProcessHierarchyInfo) :
    processInfo.byHierarchyId info id = .ok answer ↔
      info.byHierarchyId id = .ok answer.hierarchy ∧
        processInfo.id2controlGroup_.lookup (UInt64.ofNat answer.hierarchy.id) =
          some answer.controlGroup := by
  unfold ProcessInfo.byHierarchyId ProcessInfo.ofHierarchy
  cases info.byHierarchyId id with
  | error error => simp
  | ok hierarchyInfo =>
      simp only [ProcessInfo.getProcessHierarchyInfo]
      cases answer with
      | mk hierarchy controlGroup =>
          simp only [Except.ok.injEq]
          constructor
          · intro answered
            split at answered
            next => cases answered
            next found listed =>
                cases answered
                exact ⟨rfl, listed⟩
          · rintro ⟨rfl, listed⟩
            rw [listed]

theorem iterated_answers (keyed : info.Keyed)
    (sized : ∀ id hierarchyInfo, info.byHierarchyId id = .ok hierarchyInfo → id < 2 ^ 64)
    {values : List ((_ : UInt64) × Text)}
    (iterates : values.Perm processInfo.id2controlGroup_.entries)
    {answers : List ProcessHierarchyInfo}
    (returned : ProcessInfo.iterated info values = .ok answers) (answer : ProcessHierarchyInfo) :
    answer ∈ answers ↔ ∃ id, processInfo.byHierarchyId info id = .ok answer := by
  have sameId : ∀ {id hierarchyInfo}, info.byHierarchyId id = .ok hierarchyInfo →
      hierarchyInfo.id = id :=
    fun found => keyed _ _ (SystemInfo.by_hierarchy_id_eq_ok.mp found)
  rw [mem_iterated_iff returned]
  constructor
  · rintro ⟨⟨id, controlGroup⟩, visited, converted⟩
    obtain ⟨found, same⟩ := convert_eq_ok.mp converted
    have listed := AList.mem_lookup_iff.mpr (iterates.mem_iff.mp visited)
    refine ⟨id.toNat, (by_hierarchy_id_answers _ _ _ _).mpr ⟨found, ?_⟩⟩
    rw [sameId found, UInt64.ofNat_toNat, same]
    exact listed
  · rintro ⟨id, answered⟩
    obtain ⟨found, listed⟩ := (by_hierarchy_id_answers _ _ _ _).mp answered
    have whole : (UInt64.ofNat id).toNat = id := UInt64.toNat_ofNat_of_lt' (sized id _ found)
    rw [sameId found] at listed
    refine ⟨⟨UInt64.ofNat id, answer.controlGroup⟩,
      iterates.mem_iff.mpr (AList.mem_lookup_iff.mp listed), ?_⟩
    refine convert_eq_ok.mpr ⟨?_, rfl⟩
    change info.byHierarchyId (UInt64.ofNat id).toNat = _
    rw [whole]
    exact found

theorem from_rendered_file {path contents : Text} (wellFormed : ∀ entry ∈ entries, WellFormed entry)
    (rendered : RendersFile entries contents) :
    fromFile path (.ok contents) =
      entries.foldlM (addEntry path) { id2controlGroup_ := ∅ } := by
  obtain ⟨texts, each, joined⟩ := rendered
  have loaded : load path (.ok contents) = .ok entries := by
    simpa [load, rendered_lines wellFormed each joined] using
      load_rendered path wellFormed each []
  rw [fromFile, loaded]

theorem indexes_of_rendered {path contents : Text}
    (wellFormed : ∀ entry ∈ entries, WellFormed entry)
    (rendered : RendersFile entries contents)
    (returned : fromFile path (.ok contents) = .ok processInfo) : Indexes processInfo entries := by
  rw [from_rendered_file wellFormed rendered] at returned
  rcases add_entries_cases path entries with ⟨_, other, added, indexes⟩ | ⟨_, id, thrown⟩
  · rw [returned] at added
    cases added
    exact indexes
  · rw [returned] at thrown
    cases thrown

/-- The lookups and loops of a process read from its file, over a `SystemInfo` read from the
two files of the system. -/
theorem process_info_joins (order : HashOrder String) (cgroup : List ProcPidCgroupEntry)
    (fstab : List MountEntry) (info : SystemInfo)
    (constructed : SystemInfo.construct order cgroup fstab = .ok info)
    (sized : ∀ hierarchy ∈ cgroup, hierarchy.hierarchyId < 2 ^ 64)
    (path contents : Text) (entries : List Entry) (processInfo : ProcessInfo)
    (wellFormed : ∀ entry ∈ entries, WellFormed entry)
    (rendered : RendersFile entries contents)
    (returned : fromFile path (.ok contents) = .ok processInfo) :
    Joins cgroup fstab info entries processInfo := by
  have indexes := indexes_of_rendered wellFormed rendered returned
  have consistent := (construct_returns_iff order).mp ⟨info, constructed⟩
  obtain ⟨separate, indexed⟩ := construct_indexed order constructed
  have agrees := indexed_agrees separate indexed
  have known : ∀ id, (∃ hierarchyInfo, info.byHierarchyId id = .ok hierarchyInfo) ↔
      ∃ hierarchy ∈ cgroup, hierarchy.hierarchyId = id := by
    intro id
    constructor
    · rintro ⟨hierarchyInfo, found⟩
      obtain ⟨hierarchy, member, same, _⟩ := (agrees.byHierarchyId id hierarchyInfo).mp found
      exact ⟨hierarchy, member, same⟩
    · rintro ⟨hierarchy, member, same⟩
      exact ⟨_, (agrees.byHierarchyId id _).mpr ⟨hierarchy, member, same, rfl⟩⟩
  constructor
  · intro hierarchy member
    have found := (agrees.byHierarchyId hierarchy.hierarchyId _).mpr ⟨hierarchy, member, rfl, rfl⟩
    rw [ProcessInfo.byHierarchyId, found]
    exact get_process_hierarchy_info indexes _
  · intro hierarchy member subsystem listed
    rw [ProcessInfo.bySubsystem, by_subsystem_of_entry indexed member listed]
    exact get_process_hierarchy_info indexes _
  · intro dir mount last
    obtain ⟨isCgroup, _⟩ := of_decide_eq_true
      (List.mem_filter.mp (List.mem_of_getLast? last)).2
    have mounted := (List.mem_filter.mp (List.mem_of_getLast? last)).1
    obtain ⟨filled, hierarchy, member, same⟩ := consistent.namedMounts mount mounted isCgroup
    have names : Names cgroup mount hierarchy := ⟨isCgroup, filled, same⟩
    refine ⟨hierarchy, member, names, ?_⟩
    rw [ProcessInfo.byMountpoint, by_mountpoint_of_entry indexed last member names]
    exact get_process_hierarchy_info indexes _
  · intro id unlisted
    rw [ProcessInfo.byHierarchyId, (agrees.byHierarchyIdThrows id).mpr unlisted]
    rfl
  · intro subsystem unlisted
    rw [ProcessInfo.bySubsystem, by_subsystem_of_unlisted indexed unlisted]
    rfl
  · intro dir unmounted
    rw [ProcessInfo.byMountpoint, by_mountpoint_of_unmounted indexed unmounted]
    rfl
  · intro values iterates answers returned
    have keyed := indexed_keyed indexed
    have small : ∀ id hierarchyInfo, info.byHierarchyId id = .ok hierarchyInfo → id < 2 ^ 64 := by
      intro id hierarchyInfo found
      obtain ⟨hierarchy, member, same⟩ := (known id).mp ⟨hierarchyInfo, found⟩
      exact same ▸ sized hierarchy member
    refine ⟨?_, iterated_answers keyed small iterates returned⟩
    have keys : (values.map Sigma.fst).Nodup :=
      (iterates.map Sigma.fst).nodup_iff.mpr processInfo.id2controlGroup_.nodupKeys
    rw [iterated_ids keyed returned]
    have distinct := keys.map (f := UInt64.toNat) fun _ _ same => UInt64.toNat_inj.mp same
    rwa [List.map_map] at distinct
  · intro values iterates
    rw [iterated_returns_iff]
    constructor
    · intro each entry member
      exact (known _).mp (each _ ((mem_entries_iff indexes iterates _ _).mpr
        ⟨entry, member, rfl, rfl⟩))
    · rintro each ⟨id, controlGroup⟩ visited
      obtain ⟨entry, member, same, _⟩ := (mem_entries_iff indexes iterates _ _).mp visited
      exact (known _).mpr (same ▸ each entry member)
  · intro values error thrown
    obtain ⟨id, raised, failed, same⟩ := iterated_throws thrown
    have unlisted : ∀ hierarchy ∈ cgroup, hierarchy.hierarchyId ≠ id.toNat := by
      intro hierarchy member sameId
      obtain ⟨hierarchyInfo, found⟩ := (known id.toNat).mpr ⟨hierarchy, member, sameId⟩
      rw [failed] at found
      cases found
    rw [(agrees.byHierarchyIdThrows id.toNat).mpr unlisted] at failed
    cases failed
    exact ⟨id, unlisted, same⟩

def twoSubsystems : List ProcPidCgroupEntry := [⟨2, ["cpu", "cpuacct"]⟩, ⟨7, ["freezer"]⟩]

def frozen : Component := ⟨"frozen", by decide⟩

def freezerMount : List MountEntry :=
  [⟨[frozen], "cgroup", "rw,freezer"⟩, ⟨[], "tmpfs", "rw"⟩]

def freezerEntry : Entry :=
  { hierarchyId := 7, subsystems := {ascii "freezer"}, controlGroup := ascii "/a:b::c" }

/-- A process that has no group in the first hierarchy. -/
theorem process_info_joins_freezer :
    ∃ info processInfo,
      SystemInfo.construct insertionOrder twoSubsystems freezerMount = .ok info ∧
      fromFile (ascii "cgroup") (.ok (ascii "7:freezer:/a:b::c")) = .ok processInfo ∧
      Joins twoSubsystems freezerMount info [freezerEntry] processInfo ∧
      processInfo.bySubsystem info "freezer" =
        .ok ⟨⟨7, ["freezer"], some [frozen]⟩, ascii "/a:b::c"⟩ ∧
      processInfo.bySubsystem info "cpuacct" =
        .error (.inconsistency ProcessInfo.unableToFind 2) := by
  have consistent : Consistent twoSubsystems freezerMount := by
    refine ⟨⟨by decide, by decide⟩, ?_⟩
    intro mount member isCgroup
    simp only [freezerMount, List.mem_cons, List.not_mem_nil, or_false] at member
    rcases member with rfl | rfl
    · exact ⟨by decide, by decide⟩
    · exact absurd isCgroup (by decide)
  have wellFormed : ∀ entry ∈ [freezerEntry], WellFormed entry := by
    intro entry member
    rw [List.mem_singleton.mp member]
    exact ⟨by decide, by decide, by decide⟩
  have rendered : RendersFile [freezerEntry] (ascii "7:freezer:/a:b::c") :=
    ⟨[ascii "7:freezer:/a:b::c"],
      .cons ⟨[ascii "freezer"], by decide, by decide, rfl⟩ .nil, .inr rfl⟩
  obtain ⟨info, constructed⟩ := (construct_returns_iff insertionOrder).mpr consistent
  have returned : fromFile (ascii "cgroup") (.ok (ascii "7:freezer:/a:b::c")) = .ok _ :=
    (from_rendered_file wellFormed rendered).trans rfl
  have joins := process_info_joins insertionOrder twoSubsystems freezerMount info constructed
    (by decide) (ascii "cgroup") _ [freezerEntry] _ wellFormed rendered returned
  refine ⟨info, _, constructed, returned, joins, ?_, ?_⟩
  · exact joins.bySubsystem ⟨7, ["freezer"]⟩ (by simp [twoSubsystems]) "freezer" (by decide)
  · exact joins.bySubsystem ⟨2, ["cpu", "cpuacct"]⟩ (by simp [twoSubsystems]) "cpuacct"
      (by decide)

end Joins

end ContestSystem.Cgroup.ProcPidCgroup
