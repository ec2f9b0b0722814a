import Mathlib.Data.BitVec

/-!
# How a process ended

`waitpid` answers with a status word, from which `ProcessResult` takes the exit
status or the signal. A `Result` adds what the process wrote.
-/

namespace ContestSystem.Unistd

set_option autoImplicit false

abbrev Pid := Nat

abbrev Bytes := List UInt8

abbrev StatLoc := BitVec 32

def EINTR : Nat := 4

def WTERMSIG (statLoc : StatLoc) : Nat := (statLoc &&& 0x7f).toNat

def WEXITSTATUS (statLoc : StatLoc) : Nat := ((statLoc &&& 0xff00) >>> 8).toNat

def WIFEXITED (statLoc : StatLoc) : Bool := WTERMSIG statLoc == 0

/-- The macro adds one and shifts a `signed char`, so that 0x7f is no signal. -/
def WIFSIGNALED (statLoc : StatLoc) : Bool :=
  0 < (((statLoc &&& 0x7f) + 1).setWidth 8 |>.sshiftRight 1).toInt

structure ProcessResult where
  exitStatus : Option Nat := none
  termSig : Option Nat := none
deriving DecidableEq

def ProcessResult.assign (statLoc : StatLoc) (result : ProcessResult) : ProcessResult :=
  { exitStatus := if WIFEXITED statLoc then some (WEXITSTATUS statLoc) else result.exitStatus
    termSig := if WIFSIGNALED statLoc then some (WTERMSIG statLoc) else result.termSig }

structure Result extends ProcessResult where
  out : Bytes := []
  err : Bytes := []
deriving DecidableEq

def Result.assign (statLoc : StatLoc) (result : Result) : Result :=
  { result with toProcessResult := result.toProcessResult.assign statLoc }

end ContestSystem.Unistd
