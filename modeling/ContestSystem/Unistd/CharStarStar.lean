import ContestSystem.Lib.Arrays
import ContestSystem.Lib.Decimal

/-!
# Arrays of C strings

`CharStarStar` keeps one byte vector for each string of a container and, next to
them, an array of pointers to their first bytes which a null pointer ends. The C side
reads the array to that pointer and each string to its terminator.
-/

namespace ContestSystem.Unistd

open ContestSystem.Lib.Arrays
open ContestSystem.Lib.Decimal (Byte Text)

set_option autoImplicit false

def nul : Byte := 0

/-- What is read of a string that a terminator follows. -/
def cString (text : Text) : Text := text.takeWhile fun byte => byte ≠ nul

theorem c_string_plain {text : Text} (plain : nul ∉ text) : cString text = text := by
  have read := up_to_plain [] plain
  rw [up_to_terminated] at read
  exact Option.some.inj read

/-- `undefined` stands for a failed assertion and for what C++ does not define. -/
inductive ArrayError
  | invalidEnvironmentKey (key : Text) (message : String)
  | undefined
deriving DecidableEq

/-- A pointer is null or points to the first byte of a vector of `vvc_`. -/
structure CharStarStar where
  vvc_ : List Text
  vcs_ : List (Option Nat)

namespace CharStarStar

def resize {Item : Type} (size : Nat) (filler : Item) (items : List Item) : List Item :=
  items.take size ++ List.replicate (size - items.length) filler

def vchar2charStar (v : Text × Nat) : Except ArrayError (Option Nat) :=
  if v.1.isEmpty then .error .undefined else .ok (some v.2)

def construct {Item : Type} (container : List Item) (op : Item → Except ArrayError Text) :
    Except ArrayError CharStarStar := do
  let vvc_ : List Text := List.replicate container.length []
  let vcs_ : List (Option Nat) := List.replicate (container.length + 1) none
  let vvc_ ← transformTo .undefined op container 0 vvc_
  let vcs_ := resize (vvc_.length + 1) none vcs_
  let vcs_ ← transformTo .undefined vchar2charStar vvc_.zipIdx 0 vcs_
  let vcs_ := vcs_.set vvc_.length none
  return { vvc_, vcs_ }

def stringToVectorChar (s : Text) : Except ArrayError Text := do
  let v := List.replicate (s.length + 1) nul
  let (v, _) ← copyTo .undefined s 0 v
  return v

/-- What C reads from `get()`; `none` where it leaves an array. -/
def read (wrapper : CharStarStar) : Option (List Text) := do
  let pointers ← upTo none wrapper.vcs_
  pointers.mapM fun pointer => do
    let index ← pointer
    let bytes ← wrapper.vvc_[index]?
    upTo nul bytes

theorem string_to_vector_char_eq (s : Text) : stringToVectorChar s = .ok (s ++ [nul]) := by
  have copied : copyTo ArrayError.undefined s 0 (List.replicate s.length nul ++ [nul]) =
      .ok (s ++ [nul], s.length) :=
    copy_to_append ArrayError.undefined [] [nul] List.length_replicate
  rw [stringToVectorChar, List.replicate_succ', copied]
  rfl

def pointers (count : Nat) : List (Option Nat) :=
  (List.range count).map some ++ [none]

theorem vchar_pointers {vectors : List Text} (filled : ∀ v ∈ vectors, v ≠ []) :
    vectors.zipIdx.mapM vchar2charStar = .ok ((List.range vectors.length).map some) := by
  have each : ∀ v ∈ vectors.zipIdx, vchar2charStar v = .ok (some v.2) := by
    intro v inside
    have nonempty := filled v.1 (List.fst_mem_of_mem_zipIdx inside)
    simp [vchar2charStar, nonempty]
  have numbers : vectors.zipIdx.map (fun v => some v.2) = (List.range vectors.length).map some := by
    rw [List.range_eq_range', ← List.zipIdx_map_snd 0 vectors, List.map_map]
    rfl
  rw [map_returns each, numbers]
  rfl

theorem construct_returns {Item : Type} {container : List Item}
    {op : Item → Except ArrayError Text} {encoded : Item → Text}
    (each : ∀ item ∈ container, op item = .ok (encoded item))
    (filled : ∀ item, encoded item ≠ []) :
    construct container op =
      .ok { vvc_ := container.map encoded, vcs_ := pointers container.length } := by
  have strings : transformTo ArrayError.undefined op container 0
      (List.replicate container.length []) = .ok (container.map encoded) := by
    rw [transform_to_all _ _ List.length_replicate, map_returns each]
    rfl
  have size : (container.map encoded).length = container.length := List.length_map encoded
  have resized : resize (container.length + 1) none (List.replicate (container.length + 1) none) =
      List.replicate container.length (none : Option Nat) ++ [none] := by
    rw [resize, List.length_replicate, Nat.sub_self, List.take_of_length_le (by simp),
      List.replicate_zero, List.append_nil, List.replicate_succ']
  have filledAll : ∀ v ∈ container.map encoded, v ≠ [] := by
    intro v inside
    obtain ⟨item, _, rfl⟩ := List.mem_map.mp inside
    exact filled item
  have addresses : transformTo ArrayError.undefined vchar2charStar (container.map encoded).zipIdx 0
      (List.replicate container.length none ++ [none]) = .ok (pointers container.length) := by
    have written := transform_to_append ArrayError.undefined vchar2charStar [] [none]
      (show (List.replicate container.length none).length =
        (container.map encoded).zipIdx.length by simp)
    rw [vchar_pointers filledAll, size] at written
    exact written
  have ended : (pointers container.length).set container.length none =
      pointers container.length := by
    simp [pointers]
  simp only [construct, strings, size, resized, addresses, ended, bind, Except.bind, pure,
    Except.pure]

theorem construct_throws {Item : Type} {container : List Item}
    {op : Item → Except ArrayError Text} {error : ArrayError}
    (thrown : container.mapM op = .error error) : construct container op = .error error := by
  have strings : transformTo ArrayError.undefined op container 0
      (List.replicate container.length []) = .error error := by
    rw [transform_to_all _ _ List.length_replicate, thrown]
  simp only [construct, strings, bind, Except.bind]

theorem read_pointers (vectors : List Text) :
    read { vvc_ := vectors, vcs_ := pointers vectors.length } = vectors.mapM (upTo nul) := by
  have absent : none ∉ (List.range vectors.length).map some := by simp
  rw [read, pointers, up_to_plain [] absent]
  simp only [Option.bind_eq_bind, Option.bind_some, List.mapM_map]
  exact map_range_lookup (upTo nul) vectors

theorem construct_read {Item : Type} {container : List Item}
    {op : Item → Except ArrayError Text} {content : Item → Text}
    (each : ∀ item ∈ container, op item = .ok (content item ++ [nul])) :
    ∃ wrapper, construct container op = .ok wrapper ∧
      wrapper.read = some (container.map fun item => cString (content item)) := by
  have filled : ∀ item, content item ++ [nul] ≠ [] := by simp
  have size : (container.map fun item => content item ++ [nul]).length = container.length :=
    List.length_map _
  have strings : ∀ item ∈ container,
      (upTo nul ∘ fun item => content item ++ [nul]) item = pure (cString (content item)) :=
    fun item _ => up_to_terminated nul (content item) []
  refine ⟨_, construct_returns each filled, ?_⟩
  rw [← size, read_pointers, List.mapM_map, map_returns strings]
  rfl

end CharStarStar

end ContestSystem.Unistd
