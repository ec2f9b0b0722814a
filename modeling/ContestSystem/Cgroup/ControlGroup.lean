import ContestSystem.Cgroup.Kernel

/-!
# Fields of a control group

A field is a file of the group's directory. `fieldPath` checks the name, asks
the concrete class for the path and checks the file; reading and writing go
through it.
-/

namespace ContestSystem.Cgroup.ControlGroup

set_option autoImplicit false

variable {σ : Type}

/-- The characters that follow two leading slashes. -/
def networkName : List Char → Option (List Char)
  | '/' :: '/' :: name => some name
  | _ => none

/-- `!name.is_absolute() && name.filename() == name`: the name has no slash, or
it is "//" or a name of two or more characters after two slashes. -/
def isFieldName (fieldName : String) : Bool :=
  '/' ∉ fieldName.toList ||
    match networkName fieldName.toList with
    | none => false
    | some name => '/' ∉ name && name.length ≠ 1

/-- What `directory / fieldName` appends to the directory's components. -/
def fieldEntries (fieldName : String) : List String :=
  let name := (networkName fieldName.toList).getD fieldName.toList
  if name = [] then [] else [String.ofList name]

def checkField (symlinkStatus : Path → EStateM Errno σ FileType) (path : Path) :
    EStateM Failure σ Unit := do
  match ← (symlinkStatus path).adaptExcept fun code => { kind := .filesystem code } with
  | .regularFile => pure ()
  | .fileNotFound => throw { kind := .controlGroupFieldDoesNotExist }
  | _ => throw { kind := .controlGroupInvalidFieldFile }

/-- `ControlGroup::fieldPath`; the virtual `fieldPath__` is an argument. -/
def fieldPath (symlinkStatus : Path → EStateM Errno σ FileType)
    (fieldPath__ : String → EStateM Failure σ Path) (fieldName : String) :
    EStateM Failure σ Path := do
  if isFieldName fieldName then
    let path ← fieldPath__ fieldName
    (checkField symlinkStatus path).adaptExcept fun failure =>
      { failure with fieldName := some fieldName, fieldPath := some path }
    return path
  else
    throw { kind := .controlGroupInvalidFieldName, fieldName := some fieldName }

def singleFieldPath (location : Location) (fieldName : String) : EStateM Failure σ Path :=
  return { location := location, entries := fieldEntries fieldName }

def readField (kernel : Kernel σ) (location : Location) (fieldName : String) :
    EStateM Failure σ String := do
  let fpath ← fieldPath kernel.symlinkStatus (singleFieldPath location) fieldName
  (kernel.read fpath).adaptExcept fun code => { kind := .stream code, path := some fpath }

def writeField (kernel : Kernel σ) (location : Location) (fieldName data : String) :
    EStateM Failure σ Unit := do
  let fpath ← fieldPath kernel.symlinkStatus (singleFieldPath location) fieldName
  (kernel.write fpath data).adaptExcept fun code => { kind := .stream code, path := some fpath }

end ContestSystem.Cgroup.ControlGroup
