import ContestSystem.Cgroup.SystemInfo
import ContestSystem.Lib.Throwing

/-!
# The kernel seen through file system calls

The library reaches control groups only through a few file system calls. A
`Kernel` answers them from a state of its own, so that everything outside the
library is an arbitrary value of that state. What a caller may assume about
the answers is stated where a result needs it.
-/

namespace ContestSystem.Cgroup

set_option autoImplicit false

abbrev Errno := Nat

abbrev Mode := Nat

def EEXIST : Errno := 17

def ENOTEMPTY : Errno := 39

/-- `boost::filesystem::file_type`; the types not told apart here are `other`. -/
inductive FileType
  | fileNotFound
  | regularFile
  | directoryFile
  | other
deriving DecidableEq

/-- An error is the code of the thrown `filesystem_error`, of `errno` or of the stream. -/
structure Kernel (σ : Type) where
  symlinkStatus : Path → EStateM Errno σ FileType
  isDirectory : Path → EStateM Errno σ Bool
  mkdir : Location → Mode → EStateM Errno σ Unit
  /-- `false` when there is nothing to remove. -/
  remove : Location → EStateM Errno σ Bool
  read : Path → EStateM Errno σ String
  write : Path → String → EStateM Errno σ Unit

inductive FailureKind
  | systemInfo (error : SystemInfoError)
  | singleControlGroupNotMounted
  | singleControlGroupPathToField
  | singleControlGroupPathToUnknown
  | singleControlGroupNotExists
  | singleControlGroupExists
  | singleControlGroupPath
  | singleControlGroupEmptyControlGroupPath
  | singleControlGroupAbsoluteControlGroupPath
  | singleControlGroupRelativeControlGroup
  | controlGroupInvalidFieldName
  | controlGroupFieldDoesNotExist
  | controlGroupInvalidFieldFile
  | multipleControlGroupHierarchyConflict
  | multipleControlGroupHierarchyNotFound
  | filesystem (code : Errno)
  | system (code : Errno)
  | stream (code : Errno)
  | assertion (expression : String)
  | dangling
deriving DecidableEq

/-- An exception with the error infos attached to it. -/
structure Failure where
  kind : FailureKind
  message : Option String := none
  hierarchyId : Option Nat := none
  controlGroupPath : Option BoostPath := none
  path : Option Path := none
  mode : Option Mode := none
  fieldName : Option String := none
  fieldPath : Option Path := none
deriving DecidableEq

/-- The infos `BUNSAN_EXCEPTIONS_WRAP_END_ERROR_INFO` adds in the constructors. -/
def Failure.inControlGroup (hierarchyId : Nat) (controlGroup : ControlGroupPath)
    (location : Location) (failure : Failure) : Failure :=
  { failure with
    hierarchyId := some hierarchyId
    controlGroupPath := some controlGroup.boostPath
    path := some location.directory }

variable {σ : Type}

def createDirectory (kernel : Kernel σ) (location : Location) (mode : Mode) :
    EStateM Failure σ Bool := fun state =>
  match kernel.mkdir location mode state with
  | .ok () after => .ok true after
  | .error code after =>
      if code = EEXIST then .ok false after
      else .error
        { kind := .system code, path := some location.directory, mode := some mode } after

end ContestSystem.Cgroup
