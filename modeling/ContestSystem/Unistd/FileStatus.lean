import Mathlib.Data.BitVec
import Mathlib.Tactic.Common

/-!
# File types

`type` takes four bits of the mode, which are a code for the type. The predicates
test for bits of their code one by one instead of comparing the four bits, so that a
type answers to every predicate whose code has a bit in common with its own.
-/

namespace ContestSystem.Unistd

set_option autoImplicit false

abbrev Mode := BitVec 32

def S_IFMT : Mode := 0o170000

def S_IFSOCK : Mode := 0o140000

def S_IFLNK : Mode := 0o120000

def S_IFREG : Mode := 0o100000

def S_IFBLK : Mode := 0o060000

def S_IFDIR : Mode := 0o040000

def S_IFCHR : Mode := 0o020000

def S_IFIFO : Mode := 0o010000

def permissionBits : Mode := 0o7777

structure FileStatus where
  mode : Mode

namespace FileStatus

variable (status : FileStatus)

def type : Mode := status.mode &&& S_IFMT

/-- A bit mask converted to `bool`. -/
def has (bits : Mode) : Bool := status.mode &&& bits ≠ 0

def isFifo : Bool := status.has S_IFIFO

def isCharDevice : Bool := status.has S_IFCHR

def isDirectory : Bool := status.has S_IFDIR

def isBlockDevice : Bool := status.has S_IFBLK

def isRegularFile : Bool := status.has S_IFREG

def isSymbolicLink : Bool := status.has S_IFLNK

def isSocket : Bool := status.has S_IFSOCK

def predicates : List Bool :=
  [status.isFifo, status.isCharDevice, status.isDirectory, status.isBlockDevice,
    status.isRegularFile, status.isSymbolicLink, status.isSocket]

/-- What is expected of the predicates. -/
structure TypesAgree : Prop where
  fifo : status.isFifo = true ↔ status.type = S_IFIFO
  charDevice : status.isCharDevice = true ↔ status.type = S_IFCHR
  directory : status.isDirectory = true ↔ status.type = S_IFDIR
  blockDevice : status.isBlockDevice = true ↔ status.type = S_IFBLK
  regularFile : status.isRegularFile = true ↔ status.type = S_IFREG
  symbolicLink : status.isSymbolicLink = true ↔ status.type = S_IFLNK
  socket : status.isSocket = true ↔ status.type = S_IFSOCK
  atMostOne : status.predicates.count true ≤ 1
  unaffected : ∀ other : FileStatus, other.mode &&& ~~~permissionBits =
    status.mode &&& ~~~permissionBits → other.predicates = status.predicates

def code : BitVec 4 := status.mode.extractLsb' 12 4

def placed (code : BitVec 4) : Mode := code.setWidth 32 <<< 12

theorem placed_inj : ∀ first second : BitVec 4, placed first = placed second ↔ first = second := by
  decide

theorem mode_and_placed (bits : BitVec 4) :
    status.mode &&& placed bits = placed (status.code &&& bits) := by
  apply BitVec.eq_of_getLsbD_eq
  intro position bound
  simp only [placed, code, BitVec.getLsbD_and, BitVec.getLsbD_shiftLeft, BitVec.getLsbD_setWidth,
    BitVec.getLsbD_extractLsb']
  by_cases low : position < 12
  · simp [low]
  · have back : 12 + (position - 12) = position := by omega
    rw [back]
    by_cases high : position - 12 < 4
    · have within : position - 12 < 32 := by omega
      simp [low, high, bound, within]
    · have beyond : bits.getLsbD (position - 12) = false :=
        BitVec.getLsbD_of_ge bits _ (Nat.le_of_not_lt high)
      simp [beyond]

theorem type_eq : status.type = placed status.code := by
  have mask : S_IFMT = placed 15 := by decide
  have whole : ∀ code : BitVec 4, code &&& 15 = code := by decide
  rw [type, mask, mode_and_placed, whole]

theorem has_placed (bits : BitVec 4) :
    status.has (placed bits) = decide (status.code &&& bits ≠ 0) := by
  have zero : (0 : Mode) = placed 0 := by decide
  rw [has, mode_and_placed, zero]
  simp only [ne_eq, placed_inj]

def codes : List (BitVec 4) := [1, 2, 4, 6, 8, 10, 12]

theorem constants_placed :
    [S_IFIFO, S_IFCHR, S_IFDIR, S_IFBLK, S_IFREG, S_IFLNK, S_IFSOCK] = codes.map placed := by
  decide

theorem predicates_eq :
    status.predicates = codes.map fun bits => decide (status.code &&& bits ≠ 0) := by
  have each : status.predicates = (codes.map placed).map status.has := by
    rw [← constants_placed]
    rfl
  rw [each, List.map_map]
  apply List.map_congr_left
  intro bits _
  exact has_placed status bits

theorem agrees_iff (bits : BitVec 4) :
    (status.has (placed bits) = true ↔ status.type = placed bits) ↔
      (status.code &&& bits ≠ 0 ↔ status.code = bits) := by
  rw [has_placed, type_eq, placed_inj, decide_eq_true_iff]

/-- Only without any of the three upper bits a code answers to no other predicate. -/
theorem code_agrees_iff : ∀ code : BitVec 4,
    (∀ bits ∈ codes, code &&& bits ≠ 0 ↔ code = bits) ↔ code &&& 14 = 0 := by
  decide

theorem code_count : ∀ code : BitVec 4, code &&& 14 = 0 →
    (codes.map fun bits => decide (code &&& bits ≠ 0)).count true ≤ 1 := by
  decide

theorem upper_bits_iff : status.mode &&& 0o160000 = 0 ↔ status.code &&& 14 = 0 := by
  have mask : (0o160000 : Mode) = placed 14 := by decide
  have zero : (0 : Mode) = placed 0 := by decide
  rw [mask, mode_and_placed, zero, placed_inj]

theorem code_eq_of_upper {other : FileStatus}
    (same : other.mode &&& ~~~permissionBits = status.mode &&& ~~~permissionBits) :
    other.code = status.code := by
  have inside : ~~~permissionBits &&& S_IFMT = S_IFMT := by decide
  have sameType : other.type = status.type := by
    rw [type, type, ← inside, ← BitVec.and_assoc, same, BitVec.and_assoc]
  rwa [type_eq, type_eq, placed_inj] at sameType

/-- The predicates agree with the type exactly for FIFOs and where there is no type. -/
theorem types_agree_iff : status.TypesAgree ↔ status.mode &&& 0o160000 = 0 := by
  rw [upper_bits_iff, ← code_agrees_iff]
  constructor
  · intro agree bits inside
    simp only [codes, List.mem_cons, List.not_mem_nil, or_false] at inside
    apply (agrees_iff status bits).mp
    rcases inside with rfl | rfl | rfl | rfl | rfl | rfl | rfl
    · exact agree.fifo
    · exact agree.charDevice
    · exact agree.directory
    · exact agree.blockDevice
    · exact agree.regularFile
    · exact agree.symbolicLink
    · exact agree.socket
  · intro agree
    have each : ∀ bits ∈ codes, status.has (placed bits) = true ↔ status.type = placed bits :=
      fun bits inside => (agrees_iff status bits).mpr (agree bits inside)
    have lone := code_count status.code ((code_agrees_iff status.code).mp agree)
    refine ⟨each 1 (by decide), each 2 (by decide), each 4 (by decide), each 6 (by decide),
      each 8 (by decide), each 10 (by decide), each 12 (by decide), ?_, ?_⟩
    · rw [predicates_eq]
      exact lone
    · intro other same
      rw [predicates_eq, predicates_eq, code_eq_of_upper status same]

/-- A regular file that everyone may read answers to `isSymbolicLink` too. -/
theorem regular_file_is_symbolic_link : ¬TypesAgree { mode := 0o100644 } := by
  intro agree
  have link : ({ mode := 0o100644 } : FileStatus).type = S_IFLNK :=
    agree.symbolicLink.mp (by decide)
  exact absurd link (by decide)

end FileStatus

end ContestSystem.Unistd
