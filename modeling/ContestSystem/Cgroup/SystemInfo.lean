import Mathlib.Data.Finset.Dedup
import Mathlib.Data.List.AList
import ContestSystem.Cgroup.Path
import ContestSystem.Lib.Unordered

/-!
# The system's hierarchies

`SystemInfo` reads `/proc/self/cgroup` and `/proc/mounts` and indexes the
mounted hierarchies by id, by subsystem and by mountpoint. The files arrive
here as the entries their parsers produce. A set of names is the sequence of
names inserted into it; the order in which it is iterated, and so the element
`*subsystems.begin()`, is any `HashOrder`.
-/

namespace ContestSystem.Cgroup

open ContestSystem.Lib.Unordered

set_option autoImplicit false

/-- `ProcPidCgroup::Entry`, without the control group path, which is not read here. -/
structure ProcPidCgroupEntry where
  hierarchyId : Nat
  subsystems : List String

/-- The fields of `unistd::MountEntry` that `loadMountpoints` reads. -/
structure MountEntry where
  dir : Directory
  type : String
  opts : String
deriving DecidableEq

structure HierarchyInfo where
  id : Nat
  subsystems : List String
  mountpoint : Option Directory
deriving DecidableEq

inductive HierarchyKey
  | hierarchyId (hierarchyId : Nat)
  | subsystem (subsystem : String)
  | mountpoint (mountpoint : Directory)
deriving DecidableEq

inductive SystemInfoError
  | duplicateHierarchies (hierarchyId : Nat)
  | duplicateSubsystems (hierarchyId : Nat) (subsystem : String)
  | noSubsystems (path : String) (mountEntry : MountEntry)
  | inconsistency (message path : String) (mountEntry : MountEntry)
  | unknownHierarchy (key : HierarchyKey)
  | assertion (expression : String)
deriving DecidableEq

structure SystemInfo where
  id2hierarchy_ : AList fun _ : Nat => HierarchyInfo
  mountpoint2id_ : AList fun _ : Directory => Nat
  subsystem2id_ : AList fun _ : String => Nat

namespace SystemInfo

def empty : SystemInfo :=
  { id2hierarchy_ := ∅, mountpoint2id_ := ∅, subsystem2id_ := ∅ }

def loadSubsystem (hierarchyId : Nat) (info : SystemInfo) (subsystem : String) :
    Except SystemInfoError SystemInfo :=
  if subsystem ∈ info.subsystem2id_ then
    .error (.duplicateSubsystems hierarchyId subsystem)
  else
    .ok { info with subsystem2id_ := info.subsystem2id_.insert subsystem hierarchyId }

def loadHierarchy (order : HashOrder String) (info : SystemInfo)
    (entry : ProcPidCgroupEntry) : Except SystemInfoError SystemInfo :=
  if entry.hierarchyId ∈ info.id2hierarchy_ then
    .error (.duplicateHierarchies entry.hierarchyId)
  else
    let hierarchyInfo : HierarchyInfo :=
      { id := entry.hierarchyId, subsystems := entry.subsystems, mountpoint := none }
    (order.arrange hierarchyInfo.subsystems).foldlM (loadSubsystem hierarchyInfo.id)
      { info with id2hierarchy_ := info.id2hierarchy_.insert entry.hierarchyId hierarchyInfo }

def loadHierarchies (order : HashOrder String) (cgroup : List ProcPidCgroupEntry)
    (info : SystemInfo) : Except SystemInfoError SystemInfo :=
  cgroup.foldlM (loadHierarchy order) info

/-- `boost::algorithm::split` at commas: adjacent separators delimit an empty token. -/
def split (text : String) : List String :=
  (text.toList.splitOn ',').map String.ofList

/-- The file a wrapped error names; the loader attaches this path to both kinds. -/
def wrappedPath : String := "/proc/self/cgroup"

def loadMountpoint (order : HashOrder String) (info : SystemInfo)
    (entry : MountEntry) : Except SystemInfoError SystemInfo :=
  if entry.type = "cgroup" then
    let opts := split entry.opts
    let subsystems := opts.filter fun opt => opt ∈ info.subsystem2id_
    match order.arrange subsystems with
    | [] => .error (.noSubsystems wrappedPath entry)
    | subsystem :: _ =>
        match info.subsystem2id_.lookup subsystem with
        | none =>
            .error (.inconsistency "/proc/mounts is not consistent with /proc/self/cgroup"
              wrappedPath entry)
        | some id =>
            match info.id2hierarchy_.lookup id with
            | none => .error (.assertion "iter2 != id2hierarchy_.end()")
            | some hierarchyInfo =>
                if subsystems.toFinset = hierarchyInfo.subsystems.toFinset then
                  .ok { info with
                    id2hierarchy_ := info.id2hierarchy_.insert id
                      { hierarchyInfo with mountpoint := some entry.dir }
                    mountpoint2id_ := info.mountpoint2id_.insert entry.dir hierarchyInfo.id }
                else
                  .error (.inconsistency "subsystems from /proc/mounts are not equal to subsystems from /proc/self/cgroup"
                    wrappedPath entry)
  else
    .ok info

def loadMountpoints (order : HashOrder String) (fstab : List MountEntry)
    (info : SystemInfo) : Except SystemInfoError SystemInfo :=
  fstab.foldlM (loadMountpoint order) info

def construct (order : HashOrder String) (cgroup : List ProcPidCgroupEntry)
    (fstab : List MountEntry) : Except SystemInfoError SystemInfo :=
  (loadHierarchies order cgroup empty).bind (loadMountpoints order fstab)

def byIdNoFail (info : SystemInfo) (id : Nat) : Except SystemInfoError HierarchyInfo :=
  match info.id2hierarchy_.lookup id with
  | none => .error (.assertion "iter != id2hierarchy_.end()")
  | some hierarchyInfo => .ok hierarchyInfo

def byHierarchyId (info : SystemInfo) (hierarchyId : Nat) :
    Except SystemInfoError HierarchyInfo :=
  match info.id2hierarchy_.lookup hierarchyId with
  | none => .error (.unknownHierarchy (.hierarchyId hierarchyId))
  | some hierarchyInfo => .ok hierarchyInfo

def bySubsystem (info : SystemInfo) (subsystem : String) :
    Except SystemInfoError HierarchyInfo :=
  match info.subsystem2id_.lookup subsystem with
  | none => .error (.unknownHierarchy (.subsystem subsystem))
  | some id => info.byIdNoFail id

def byMountpoint (info : SystemInfo) (mountpoint : Directory) :
    Except SystemInfoError HierarchyInfo :=
  match info.mountpoint2id_.lookup mountpoint with
  | none => .error (.unknownHierarchy (.mountpoint mountpoint))
  | some id => info.byIdNoFail id

/-- Every hierarchy is stored under its own id. -/
def Keyed (info : SystemInfo) : Prop :=
  ∀ id hierarchyInfo, info.id2hierarchy_.lookup id = some hierarchyInfo →
    hierarchyInfo.id = id

theorem by_hierarchy_id_eq_ok {info : SystemInfo} {hierarchyId : Nat}
    {hierarchyInfo : HierarchyInfo} :
    info.byHierarchyId hierarchyId = .ok hierarchyInfo ↔
      info.id2hierarchy_.lookup hierarchyId = some hierarchyInfo := by
  unfold byHierarchyId
  cases info.id2hierarchy_.lookup hierarchyId <;> simp

theorem by_id_no_fail_eq_ok {info : SystemInfo} {id : Nat} {hierarchyInfo : HierarchyInfo} :
    info.byIdNoFail id = .ok hierarchyInfo ↔
      info.id2hierarchy_.lookup id = some hierarchyInfo := by
  unfold byIdNoFail
  cases info.id2hierarchy_.lookup id <;> simp

end SystemInfo

/-- A `SystemInfo` that a constructor call produced: hierarchies sit under their ids. -/
structure SystemInfoPointer where
  info : SystemInfo
  keyed : info.Keyed

end ContestSystem.Cgroup
