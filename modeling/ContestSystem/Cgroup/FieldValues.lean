import ContestSystem.Cgroup.Stat
import ContestSystem.Lib.Text

/-!
# Values of fields

A field is a file that `writeField` fills and `readField` reads again, each with
the stream operator of the value's type. The kernel shows what was written with
white space behind it, if with anything. A format keeps its values apart from the
texts, so that every value it has is read back as it was written.
-/

namespace ContestSystem.Cgroup.FieldValues

open ContestSystem.Lib.Decimal ContestSystem.Lib.Extraction

set_option autoImplicit false

def Blank (text : Text) : Prop := ∀ byte ∈ text, isSpace byte = true

instance (text : Text) : Decidable (Blank text) :=
  decidable_of_iff (text.all isSpace = true) List.all_eq_true

/-- How values are written to a field and read from it; a failed extraction reads as none. -/
structure FieldFormat (Value : Type) where
  write : Value → Text
  read : Text → Option Value
  reads : ∀ value ending, Blank ending → read (write value ++ ending) = some value

theorem blank_delimited {ending : Text} (blank : Blank ending) : Delimited ending :=
  fun byte starts => blank byte (List.mem_of_mem_head? starts)

theorem nothing_blank : Blank [] := nofun

theorem decimal_plain (number : Nat) : ∀ byte ∈ decimal number, isDigit byte = true :=
  fun _ member => decide_eq_true (decimal_digits member)

def intFormat : FieldFormat Int32 where
  write value := integer value.toInt
  read text := (extractNumber lexicalCastInt text).map Prod.fst
  reads := by
    intro value ending blank
    have back := lexical_cast_int_integer value
    cases sign : value.toInt with
    | ofNat number =>
        rw [sign] at back
        have read := extract_number_append lexicalCastInt nothing_blank (decimal_ne_nil number)
          (decimal_plain number) (blank_delimited blank)
        rw [List.nil_append] at read
        rw [integer, read, show lexicalCastInt (decimal number) = some value from back]
        rfl
    | negSucc number =>
        rw [sign] at back
        have read := extract_number_minus lexicalCastInt nothing_blank
          (decimal_plain (number + 1)) (blank_delimited blank)
        rw [List.nil_append] at read
        rw [integer, List.cons_append, read,
          show lexicalCastInt (minus :: decimal (number + 1)) = some value from back]
        rfl

def countFormat : FieldFormat Count where
  write value := decimal value.toNat
  read text := (extractNumber lexicalCastSize text).map Prod.fst
  reads := by
    intro value ending blank
    have read := extract_number_append lexicalCastSize nothing_blank
      (decimal_ne_nil value.toNat) (decimal_plain value.toNat) (blank_delimited blank)
    rw [List.nil_append] at read
    rw [read, lexical_cast_size_decimal]
    rfl

/-- The `int` that a `bool` is written as. -/
def flagValue (flag : Bool) : Int32 := if flag then 1 else 0

/-- `readField<int>` where a `bool` is returned. -/
def flagFormat : FieldFormat Bool where
  write flag := intFormat.write (flagValue flag)
  read text := (intFormat.read text).map (· ≠ 0)
  reads := by
    intro flag ending blank
    rw [intFormat.reads (flagValue flag) ending blank]
    cases flag <;> rfl

structure MoveChargeAtImmigrateConfig where
  anonymous : Bool
  file : Bool
deriving DecidableEq

namespace MoveChargeAtImmigrateConfig

def ofMask (mask : Int32) : MoveChargeAtImmigrateConfig :=
  { anonymous := mask &&& ((1 : Int32) <<< 0) ≠ 0, file := mask &&& ((1 : Int32) <<< 1) ≠ 0 }

def mask (config : MoveChargeAtImmigrateConfig) : Int32 :=
  (flagValue config.anonymous <<< 0) ||| (flagValue config.file <<< 1)

theorem of_mask_mask (config : MoveChargeAtImmigrateConfig) : ofMask config.mask = config := by
  rcases config with ⟨anonymous, file⟩
  cases anonymous <;> cases file <;> decide

end MoveChargeAtImmigrateConfig

def maskFormat : FieldFormat MoveChargeAtImmigrateConfig where
  write config := intFormat.write config.mask
  read text := (intFormat.read text).map .ofMask
  reads := by
    intro config ending blank
    rw [intFormat.reads config.mask ending blank, Option.map_some,
      MoveChargeAtImmigrateConfig.of_mask_mask]

/-- What one extraction can take: no white space, and not nothing. -/
structure Word where
  text : Text
  filled : text ≠ []
  plain : ∀ byte ∈ text, isSpace byte = false
deriving DecidableEq

theorem extracted_word {text word rest : Text} (extracted : extractWord text = some (word, rest)) :
    word ≠ [] ∧ ∀ byte ∈ word, isSpace byte = false := by
  unfold extractWord at extracted
  by_cases empty : ((skipSpace text).takeWhile fun byte => !isSpace byte).isEmpty
  · rw [if_pos empty] at extracted
    cases extracted
  · rw [if_neg empty] at extracted
    cases extracted
    refine ⟨fun none => empty (List.isEmpty_iff.mpr none), ?_⟩
    intro byte member
    simpa using List.mem_takeWhile_imp member

theorem extract_written {text ending : Text} (filled : text ≠ [])
    (plain : ∀ byte ∈ text, isSpace byte = false) (blank : Blank ending) :
    extractWord (text ++ ending) = some (text, ending) :=
  extract_word_append nothing_blank filled plain (blank_delimited blank)

/-- `readField<std::string>`; the string stays empty where the extraction fails. -/
def readString (text : Text) : Text := ((extractWord text).map Prod.fst).getD []

/-- An empty text is no value here, since writing it does not reach the field: `none` is the
empty string that is read. -/
def stringFormat : FieldFormat Word where
  write word := word.text
  read text := (extractWord text).pmap (fun pair found => ⟨pair.1, found.1, found.2⟩)
    fun _ extracted => extracted_word extracted
  reads word _ blank := Option.pmap_some' (extract_written word.filled word.plain blank)

structure Trimmed where
  text : Text
  ended : text.rdropWhile isSpace = text
deriving DecidableEq

theorem rdrop_blank (text : Text) {ending : Text} (blank : Blank ending) :
    (text ++ ending).rdropWhile isSpace = text.rdropWhile isSpace := by
  induction ending using List.reverseRecOn with
  | nil => rw [List.append_nil]
  | append_singleton ending byte ih =>
      rw [← List.append_assoc, List.rdropWhile_concat_pos _ _ _ (blank byte (by simp)),
        ih fun other member => blank other (by simp [member])]

def rtrimmedFormat : FieldFormat Trimmed where
  write value := value.text
  read text := some ⟨text.rdropWhile isSpace, List.rdropWhile_idempotent _ _⟩
  reads := by
    rintro ⟨text, ended⟩ ending blank
    simp only [rdrop_blank text blank, ended]

theorem read_string_eq (text : Text) :
    readString text = ((stringFormat.read text).map Word.text).getD [] := by
  simp only [readString, stringFormat, Option.map_pmap, Option.pmap_eq_map]

theorem read_string_plain (text : Text) : ∀ byte ∈ readString text, isSpace byte = false := by
  rw [read_string_eq]
  cases stringFormat.read text with
  | none => exact fun byte inside => nomatch inside
  | some word => exact word.plain

theorem read_string_blank {ending : Text} (blank : Blank ending) : readString ending = [] := by
  have skipped : skipSpace ending = [] := List.dropWhile_eq_nil_iff.mpr blank
  rw [readString, extractWord, skipped]
  rfl

/-- A text in a field is read back exactly where it has no white space, or none at its end. -/
theorem string_read_back_iff (text ending : Text) (blank : Blank ending) :
    (readString (text ++ ending) = text ↔ ∀ byte ∈ text, isSpace byte = false) ∧
    ((∃ value, rtrimmedFormat.read (text ++ ending) = some value ∧ value.text = text) ↔
      text.rdropWhile isSpace = text) := by
  constructor
  · constructor
    · intro back
      rw [← back]
      exact read_string_plain (text ++ ending)
    · intro plain
      by_cases empty : text = []
      · rw [empty, List.nil_append, read_string_blank blank]
      · rw [readString, extract_written empty plain blank]
        rfl
  · constructor
    · rintro ⟨value, _, rfl⟩
      exact value.ended
    · intro ended
      exact ⟨⟨text, ended⟩, rtrimmedFormat.reads ⟨text, ended⟩ ending blank, rfl⟩

structure Config where
  subsystemName : String
  units : Option String := none

namespace Config

def fieldName (config : Config) (fieldName_ : String) : String :=
  config.subsystemName ++ "." ++ fieldName_

def fieldNameInUnits (config : Config) (fieldName : String) : String :=
  match config.units with
  | some units => fieldName ++ "_in_" ++ units
  | none => fieldName

end Config

def cpuSet : Config := { subsystemName := "cpuset" }

def memory : Config := { subsystemName := "memory", units := some "bytes" }

def memorySwap : Config := { subsystemName := "memory.memsw", units := some "bytes" }

/-- The fields that have a getter and a setter of one type. -/
inductive Setting
  | notifyOnRelease
  | releaseAgent
  | cloneChildren
  | cpus
  | mems
  | memoryMigrate
  | limit
  | swapLimit
  | softLimitInBytes
  | moveChargeAtImmigrate
deriving DecidableEq

namespace Setting

def name : Setting → String
  | notifyOnRelease => "notify_on_release"
  | releaseAgent => "release_agent"
  | cloneChildren => "cgroup.clone_children"
  | cpus => cpuSet.fieldName "cpus"
  | mems => cpuSet.fieldName "mems"
  | memoryMigrate => cpuSet.fieldName "memory_migrate"
  | limit => memory.fieldName (memory.fieldNameInUnits "limit")
  | swapLimit => memorySwap.fieldName (memorySwap.fieldNameInUnits "limit")
  | softLimitInBytes => memory.fieldName "soft_limit_in_bytes"
  | moveChargeAtImmigrate => memory.fieldName "move_charge_at_immigrate"

abbrev Value : Setting → Type
  | notifyOnRelease => Bool
  | releaseAgent => Trimmed
  | cloneChildren => Bool
  | cpus => Word
  | mems => Word
  | memoryMigrate => Bool
  | limit => Count
  | swapLimit => Count
  | softLimitInBytes => Count
  | moveChargeAtImmigrate => MoveChargeAtImmigrateConfig

def format : (setting : Setting) → FieldFormat setting.Value
  | notifyOnRelease => flagFormat
  | releaseAgent => rtrimmedFormat
  | cloneChildren => flagFormat
  | cpus => stringFormat
  | mems => stringFormat
  | memoryMigrate => flagFormat
  | limit => countFormat
  | swapLimit => countFormat
  | softLimitInBytes => countFormat
  | moveChargeAtImmigrate => maskFormat

theorem name_injective {first second : Setting} (same : first.name = second.name) :
    first = second := by
  revert same
  cases first <;> cases second <;> decide

end Setting

abbrev Fields := String → Text

structure Assignment where
  setting : Setting
  value : setting.Value

/-- The kernel shows what was written with `ending` behind it. -/
def set (ending : String → Text) (fields : Fields) (assignment : Assignment) : Fields :=
  Function.update fields assignment.setting.name
    (assignment.setting.format.write assignment.value ++ ending assignment.setting.name)

def get (fields : Fields) (setting : Setting) : Option setting.Value :=
  setting.format.read (fields setting.name)

def Assignment.valueOf (assignment : Assignment) (setting : Setting) : Option setting.Value :=
  if same : assignment.setting = setting then some (same ▸ assignment.value) else none

def lastAssigned (assignments : List Assignment) (setting : Setting) : Option setting.Value :=
  assignments.foldl (fun last assignment => (assignment.valueOf setting).or last) none

theorem get_set {ending : String → Text} (blank : ∀ name, Blank (ending name)) (fields : Fields)
    (assignment : Assignment) (setting : Setting) :
    get (set ending fields assignment) setting =
      (assignment.valueOf setting).or (get fields setting) := by
  obtain ⟨assigned, value⟩ := assignment
  by_cases same : assigned = setting
  · subst same
    simp only [get, set, Function.update_self, Assignment.valueOf, dite_true, Option.some_or]
    exact assigned.format.reads value _ (blank _)
  · have different : setting.name ≠ assigned.name :=
      fun names => same (Setting.name_injective names).symm
    simp only [get, set, Function.update_of_ne different, Assignment.valueOf, same, dite_false,
      Option.none_or]

def newlines : String → Text := fun _ => [10]

theorem plain_of_all {text : Text} (all : (text.all fun byte => !isSpace byte) = true) :
    ∀ byte ∈ text, isSpace byte = false := by
  intro byte member
  simpa using List.all_eq_true.mp all byte member

def memoryNodes : Word :=
  { text := ascii "0-3,7", filled := by decide, plain := plain_of_all (by decide) }

end ContestSystem.Cgroup.FieldValues
