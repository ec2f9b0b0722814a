import ContestSystem.Cgroup.ControlGroup

/-!
# The cpuset subsystem
-/

namespace ContestSystem.Cgroup.CpuSet

open ControlGroup

set_option autoImplicit false

variable {σ : Type} (kernel : Kernel σ) (location : Location)

def subsystemName : String := "cpuset"

def fieldName (fieldName_ : String) : String := subsystemName ++ "." ++ fieldName_

def cpus : EStateM Failure σ String := readField kernel location (fieldName "cpus")

def setCpus (cpus : String) : EStateM Failure σ Unit :=
  writeField kernel location (fieldName "cpus") cpus

def mems : EStateM Failure σ String := readField kernel location (fieldName "mems")

def setMems (mems : String) : EStateM Failure σ Unit :=
  writeField kernel location (fieldName "mems") mems

end ContestSystem.Cgroup.CpuSet
