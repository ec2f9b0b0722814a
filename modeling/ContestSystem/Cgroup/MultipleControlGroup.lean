import ContestSystem.Cgroup.SingleControlGroup
import ContestSystem.Lib.Unordered

/-!
# Control groups of several hierarchies

A `MultipleControlGroup` maps hierarchy ids to pointers, at most one for a
hierarchy, and remembers where it found which field. Its members see an object
behind a pointer only through `hierarchyId()` and `location()`, which never
change, so pointers may be of any type. The entries of `id2cgroup_` stand in
iteration order, which an insertion may change for all of them.
-/

namespace ContestSystem.Cgroup

open ContestSystem.Lib.Throwing ContestSystem.Lib.Unordered
open ControlGroup

set_option autoImplicit false
set_option linter.style.nameCheck false

structure MultipleControlGroup (Pointer : Type) where
  id2cgroup_ : AList fun _ : Nat => Pointer
  fieldName2path_ : AList fun _ : String => Path

/-- What `symlink_status` answers while the file system stays as it is. -/
abbrev Contents := Path → Except Errno FileType

def Contents.symlinkStatus {σ : Type} (contents : Contents) (path : Path) :
    EStateM Errno σ FileType :=
  match contents path with
  | .ok type => pure type
  | .error code => throw code

/-- The iteration order after an insertion into an unordered map. -/
structure Rehash (Value : Type) where
  arrange : (AList fun _ : Nat => Value) → AList fun _ : Nat => Value
  perm : ∀ map, (arrange map).entries.Perm map.entries

def Rehash.newestFirst (Value : Type) : Rehash Value where
  arrange map := map
  perm _ := List.Perm.refl _

namespace MultipleControlGroup

variable {Pointer : Type} (hierarchyId : Pointer → Nat) (location : Pointer → Location)

abbrev Member (Pointer α : Type) := EStateM Failure (MultipleControlGroup Pointer) α

def empty (Pointer : Type) : MultipleControlGroup Pointer :=
  { id2cgroup_ := ∅, fieldName2path_ := ∅ }

def clearCache : Member Pointer Unit :=
  modify fun group => { group with fieldName2path_ := ∅ }

def add (rehash : Rehash Pointer) (cgroup : Pointer) : Member Pointer Unit := do
  clearCache
  let group ← get
  let id := hierarchyId cgroup
  if (group.id2cgroup_.lookup id).isSome then
    throw { kind := .multipleControlGroupHierarchyConflict, hierarchyId := some id }
  else
    set { group with id2cgroup_ := rehash.arrange (group.id2cgroup_.insert id cgroup) }

def replace (cgroup : Pointer) : Member Pointer Pointer := do
  clearCache
  let group ← get
  let id := hierarchyId cgroup
  match group.id2cgroup_.lookup id with
  | none => throw { kind := .multipleControlGroupHierarchyNotFound, hierarchyId := some id }
  | some ret =>
      set { group with id2cgroup_ := group.id2cgroup_.replace id cgroup }
      return ret

def remove (id : Nat) : Member Pointer Pointer := do
  clearCache
  let group ← get
  match group.id2cgroup_.lookup id with
  | none => throw { kind := .multipleControlGroupHierarchyNotFound, hierarchyId := some id }
  | some ret =>
      set { group with id2cgroup_ := group.id2cgroup_.erase id }
      return ret

def find (id : Nat) : Member Pointer (Option Pointer) := do
  let group ← get
  return group.id2cgroup_.lookup id

/-- The search over the members; only `ControlGroupFieldDoesNotExistError` is caught. -/
def searchField (contents : Contents) (fieldName : String) :
    List ((_ : Nat) × Pointer) → Member Pointer Path
  | [] => throw { kind := .controlGroupFieldDoesNotExist, fieldName := some fieldName }
  | id_cgroup :: rest =>
      tryCatch
        (do
          let path ← ControlGroup.fieldPath contents.symlinkStatus
            (singleFieldPath (location id_cgroup.2)) fieldName
          modify fun group =>
            { group with fieldName2path_ := group.fieldName2path_.insert fieldName path }
          return path)
        fun failure =>
          if failure.kind = .controlGroupFieldDoesNotExist then
            searchField contents fieldName rest
          else throw failure

def fieldPath__ (contents : Contents) (fieldName : String) : Member Pointer Path := do
  let group ← get
  match group.fieldName2path_.lookup fieldName with
  | none => searchField location contents fieldName group.id2cgroup_.entries
  | some path => return path

def fieldPath (contents : Contents) (fieldName : String) : Member Pointer Path :=
  ControlGroup.fieldPath contents.symlinkStatus (fieldPath__ location contents) fieldName

section Children

variable {σ : Type} (kernel : Kernel σ)

/-- The pointers of a map that is destroyed are dropped in iteration order. -/
def releaseAll (order : HashOrder Nat) (group : MultipleControlGroup ObjectId)
    (world : World σ) : World σ :=
  (iterate order group.id2cgroup_).foldl
    (fun world id => SingleControlGroup.release kernel id world) world

/-- The loop body of `createChild`; an exception destroys the half-built `child`. -/
def createMember (order : HashOrder Nat) (childControlGroup : BoostPath) (mode : Mode)
    (child : MultipleControlGroup ObjectId) (id_cgroup : (_ : Nat) × ObjectId) :
    Call σ (MultipleControlGroup ObjectId) := do
  let created ← unwinding
    (SingleControlGroup.createChild kernel id_cgroup.2 childControlGroup mode)
    (releaseAll kernel order child)
  return { child with id2cgroup_ := child.id2cgroup_.insert id_cgroup.1 created }

def createChild (order : HashOrder Nat) (group : MultipleControlGroup ObjectId)
    (childControlGroup : BoostPath) (mode : Mode) : Call σ (MultipleControlGroup ObjectId) :=
  group.id2cgroup_.entries.foldlM (createMember kernel order childControlGroup mode)
    (empty ObjectId)

end Children

end MultipleControlGroup

end ContestSystem.Cgroup
