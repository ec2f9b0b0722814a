import ContestSystem.Unistd.CharStarStar
import Mathlib.Data.List.AList

/-!
# Arguments and environment of a program

`Exec` hands a list of arguments and an unordered map of environment variables to C
as arrays of C strings. A variable is written as its key, an equals sign and its
value, so a key may not contain that sign.
-/

namespace ContestSystem.Unistd

open ContestSystem.Lib.Arrays
open ContestSystem.Lib.Decimal (Byte Text)

set_option autoImplicit false

def equalsSign : Byte := 61

abbrev ProcessArguments : Type := List Text

/-- The entries stand in iteration order. -/
abbrev ProcessEnvironment : Type := AList fun _ : Text => Text

structure Exec where
  executable_ : Text
  argvWrapper_ : CharStarStar
  envpWrapper_ : CharStarStar

namespace Exec

def invalidKey (key : Text) : ArrayError :=
  .invalidEnvironmentKey key "Environment key may not contain '='."

def stringPairToVectorChar (p : (_ : Text) × Text) : Except ArrayError Text := do
  if p.1.contains equalsSign then throw (invalidKey p.1)
  let v := List.replicate (p.1.length + 1 + p.2.length + 1) nul
  let (v, dst) ← copyTo .undefined p.1 0 v
  let (v, dst) ← copyTo .undefined [equalsSign] dst v
  let (v, dst) ← copyTo .undefined p.2 dst v
  let (v, dst) ← copyTo .undefined [nul] dst v
  if dst = v.length then return v else throw .undefined

def construct (executable : Text) (arguments : ProcessArguments)
    (environment : ProcessEnvironment) : Except ArrayError Exec := do
  let argvWrapper_ ← CharStarStar.construct
    (if arguments.isEmpty then [executable] else arguments) CharStarStar.stringToVectorChar
  let envpWrapper_ ← CharStarStar.construct environment.entries stringPairToVectorChar
  return { executable_ := executable, argvWrapper_, envpWrapper_ }

section Reading

variable (exec : Exec)

def executable : Option Text := upTo nul (exec.executable_ ++ [nul])

def argv : Option (List Text) := exec.argvWrapper_.read

def envp : Option (List Text) := exec.envpWrapper_.read

end Reading

def encodedPair (p : (_ : Text) × Text) : Text := p.1 ++ [equalsSign] ++ p.2 ++ [nul]

theorem string_pair_returns {p : (_ : Text) × Text} (plain : equalsSign ∉ p.1) :
    stringPairToVectorChar p = .ok (encodedPair p) := by
  let unwritten := List.replicate p.2.length nul
  have sized : List.replicate (p.1.length + 1 + p.2.length + 1) nul =
      List.replicate p.1.length nul ++ ([nul] ++ (unwritten ++ [nul])) := by
    simp only [unwritten, List.replicate_add, List.replicate_one, List.append_assoc]
  have key : copyTo ArrayError.undefined p.1 0
      (List.replicate p.1.length nul ++ ([nul] ++ (unwritten ++ [nul]))) =
        .ok (p.1 ++ ([nul] ++ (unwritten ++ [nul])), p.1.length) :=
    copy_to_append _ [] _ List.length_replicate
  have sign : copyTo ArrayError.undefined [equalsSign] p.1.length
      (p.1 ++ ([nul] ++ (unwritten ++ [nul]))) =
        .ok (p.1 ++ [equalsSign] ++ (unwritten ++ [nul]), (p.1 ++ [equalsSign]).length) :=
    copy_to_append _ p.1 _ rfl
  have value : copyTo ArrayError.undefined p.2 (p.1 ++ [equalsSign]).length
      (p.1 ++ [equalsSign] ++ (unwritten ++ [nul])) =
        .ok (p.1 ++ [equalsSign] ++ p.2 ++ [nul], (p.1 ++ [equalsSign] ++ p.2).length) :=
    copy_to_append _ (p.1 ++ [equalsSign]) _ List.length_replicate
  have terminator : copyTo ArrayError.undefined [nul] (p.1 ++ [equalsSign] ++ p.2).length
      (p.1 ++ [equalsSign] ++ p.2 ++ [nul]) = .ok (encodedPair p, (encodedPair p).length) := by
    have written := copy_to_append ArrayError.undefined (p.1 ++ [equalsSign] ++ p.2) []
      (rfl : [nul].length = [nul].length)
    rw [List.append_nil, List.append_nil] at written
    exact written
  have passes : p.1.contains equalsSign = false := by simpa using plain
  simp only [stringPairToVectorChar, passes, sized, key, sign, value, terminator, bind,
    Except.bind, Bool.false_eq_true, if_false, if_true, pure, Except.pure]

theorem string_pair_throws {p : (_ : Text) × Text} (inside : equalsSign ∈ p.1) :
    stringPairToVectorChar p = .error (invalidKey p.1) := by
  simp [stringPairToVectorChar, inside]
  rfl

theorem executable_read (exec : Exec) : exec.executable = some (cString exec.executable_) :=
  up_to_terminated nul exec.executable_ []

theorem strings_plain {strings : List Text} (plain : ∀ string ∈ strings, nul ∉ string) :
    strings.map cString = strings := by
  have each : strings.map cString = strings.map id :=
    List.map_congr_left fun string inside => c_string_plain (plain string inside)
  rw [each, List.map_id]

section Variables

variable {environment : ProcessEnvironment}
  (keys : ∀ entry ∈ environment.entries, equalsSign ∉ entry.1)
include keys

theorem envp_read
    (plain : ∀ entry ∈ environment.entries, nul ∉ entry.1 ∧ nul ∉ entry.2) :
    ∃ wrapper, CharStarStar.construct environment.entries stringPairToVectorChar = .ok wrapper ∧
      wrapper.read =
        some (environment.entries.map fun entry => entry.1 ++ equalsSign :: entry.2) := by
  have each : ∀ entry ∈ environment.entries, stringPairToVectorChar entry =
      .ok ((entry.1 ++ [equalsSign] ++ entry.2) ++ [nul]) :=
    fun entry inside => string_pair_returns (keys entry inside)
  obtain ⟨wrapper, built, read⟩ := CharStarStar.construct_read each
  refine ⟨wrapper, built, ?_⟩
  rw [read]
  congr 1
  apply List.map_congr_left
  intro entry inside
  obtain ⟨keyPlain, valuePlain⟩ := plain entry inside
  have sign : nul ≠ equalsSign := by decide
  rw [List.append_assoc, List.singleton_append, c_string_plain]
  simp [keyPlain, valuePlain, sign]

theorem cut_variables :
    (environment.entries.map fun entry => entry.1 ++ equalsSign :: entry.2).map (cut equalsSign) =
      environment.entries.map fun entry => (entry.1, entry.2) := by
  rw [List.map_map]
  apply List.map_congr_left
  intro entry inside
  exact cut_append entry.2 (keys entry inside)

end Variables

theorem argv_read (strings : List Text) :
    ∃ wrapper, CharStarStar.construct strings CharStarStar.stringToVectorChar = .ok wrapper ∧
      wrapper.read = some (strings.map cString) :=
  CharStarStar.construct_read fun string _ => CharStarStar.string_to_vector_char_eq string

/-- An environment in which some key contains an equals sign is refused for such a key. -/
theorem envp_throws {environment : ProcessEnvironment}
    (inside : ∃ entry ∈ environment.entries, equalsSign ∈ entry.1) :
    ∃ key, equalsSign ∈ key ∧
      CharStarStar.construct environment.entries stringPairToVectorChar =
        .error (invalidKey key) := by
  obtain ⟨entry, member, sign⟩ := inside
  obtain ⟨raised, thrown⟩ := map_throws_of_mem member (string_pair_throws sign)
  obtain ⟨first, _, error⟩ := map_throws thrown
  have signed : equalsSign ∈ first.1 := by
    by_contra plain
    rw [string_pair_returns plain] at error
    cases error
  rw [string_pair_throws signed] at error
  cases error
  exact ⟨first.1, signed, CharStarStar.construct_throws thrown⟩

variable (executable : Text) (arguments : ProcessArguments) (environment : ProcessEnvironment)

theorem entries_keys_nodup :
    ((environment.entries.map fun entry => (entry.1, entry.2)).map Prod.fst).Nodup := by
  rw [List.map_map]
  exact environment.nodupKeys

theorem entry_mem_iff (key value : Text) :
    (key, value) ∈ environment.entries.map (fun entry => (entry.1, entry.2)) ↔
      environment.lookup key = some value := by
  rw [List.mem_map, ← Option.mem_def, AList.mem_lookup_iff]
  constructor
  · rintro ⟨entry, inside, same⟩
    cases same
    exact inside
  · intro inside
    exact ⟨⟨key, value⟩, inside, rfl⟩

theorem construct_eq : ∃ argvWrapper_,
    argvWrapper_.read =
      some ((if arguments.isEmpty then [executable] else arguments).map cString) ∧
    construct executable arguments environment =
      (CharStarStar.construct environment.entries stringPairToVectorChar).map fun envpWrapper_ =>
        { executable_ := executable, argvWrapper_, envpWrapper_ } := by
  obtain ⟨argvWrapper_, built, read⟩ :=
    argv_read (if arguments.isEmpty then [executable] else arguments)
  refine ⟨argvWrapper_, read, ?_⟩
  rw [construct, built]
  rfl

/-- The constructor stops at a key with an equals sign; otherwise the arrays are read as
the arguments and the environment. -/
theorem construct_encodes (argumentsPlain : ∀ argument ∈ arguments, nul ∉ argument)
    (environmentPlain : ∀ entry ∈ environment.entries, nul ∉ entry.1 ∧ nul ∉ entry.2) :
    ((∃ key, construct executable arguments environment = .error (invalidKey key)) ↔
      ∃ entry ∈ environment.entries, equalsSign ∈ entry.1) ∧
    ((∀ entry ∈ environment.entries, equalsSign ∉ entry.1) →
      ∃ exec name strings, construct executable arguments environment = .ok exec ∧
        exec.executable = some name ∧ (nul ∉ executable → name = executable) ∧
        exec.argv = some (if arguments.isEmpty then [name] else arguments) ∧
        exec.envp = some strings ∧
        ((strings.map (cut equalsSign)).map Prod.fst).Nodup ∧
        ∀ key value, (key, value) ∈ strings.map (cut equalsSign) ↔
          environment.lookup key = some value) := by
  obtain ⟨argvWrapper_, argvRead, built⟩ := construct_eq executable arguments environment
  have accepted : (∀ entry ∈ environment.entries, equalsSign ∉ entry.1) →
      ∃ envpWrapper_, construct executable arguments environment =
          .ok { executable_ := executable, argvWrapper_, envpWrapper_ } ∧
        envpWrapper_.read =
          some (environment.entries.map fun entry => entry.1 ++ equalsSign :: entry.2) := by
    intro keys
    obtain ⟨envpWrapper_, envpBuilt, envpRead⟩ := envp_read keys environmentPlain
    exact ⟨envpWrapper_, by rw [built, envpBuilt]; rfl, envpRead⟩
  constructor
  · constructor
    · intro ⟨key, thrown⟩
      by_contra plain
      obtain ⟨envpWrapper_, returned, _⟩ :=
        accepted fun entry inside sign => plain ⟨entry, inside, sign⟩
      rw [returned] at thrown
      cases thrown
    · intro inside
      obtain ⟨key, _, thrown⟩ := envp_throws inside
      exact ⟨key, by rw [built, thrown]; rfl⟩
  · intro keys
    obtain ⟨envpWrapper_, returned, envpRead⟩ := accepted keys
    refine ⟨_, cString executable, _, returned, executable_read _, c_string_plain, ?_, envpRead,
      ?_, ?_⟩
    · rw [argv, argvRead]
      cases arguments with
      | nil => rfl
      | cons first rest => exact congrArg some (strings_plain argumentsPlain)
    · rw [cut_variables keys]
      exact entries_keys_nodup environment
    · rw [cut_variables keys]
      exact entry_mem_iff environment

/-- The variable "O" is "a=b"; the one with the empty name is "x". -/
def shellEnvironment : ProcessEnvironment :=
  ⟨[⟨[79], [97, 61, 98]⟩, ⟨[], [120]⟩], by simp⟩

/-- The program "sh" with the arguments "-c" and "". -/
theorem construct_encodes_shell : ∃ exec name strings,
    construct [115, 104] [[45, 99], []] shellEnvironment = .ok exec ∧
      exec.executable = some name ∧ (nul ∉ [115, 104] → name = [115, 104]) ∧
      exec.argv = some [[45, 99], []] ∧ exec.envp = some strings ∧
      ((strings.map (cut equalsSign)).map Prod.fst).Nodup ∧
      ∀ key value, (key, value) ∈ strings.map (cut equalsSign) ↔
        shellEnvironment.lookup key = some value :=
  (construct_encodes [115, 104] [[45, 99], []] shellEnvironment (by decide) (by decide)).2
    (by decide)

end Exec

end ContestSystem.Unistd
