import ContestSystem.Lib.Arrays
import ContestSystem.Lib.Extraction
import ContestSystem.Lib.Unordered

/-!
# Fields of keys and values

Three readers of one format. `Stat` collects all lines of a field into a map,
`parseKVFile` looks for one key and stops there, and `StructStat` fills the named
members of a struct from the map. The stream of a field reports a failure by its
state alone.
-/

namespace ContestSystem.Cgroup

open ContestSystem.Lib.Arrays ContestSystem.Lib.Decimal ContestSystem.Lib.Extraction
open ContestSystem.Lib.Unordered

set_option autoImplicit false

abbrev Count := UInt64

section Readers

variable {Units : Type} (countToUnits : Count → Units)

namespace Stat

/-- `emplace` keeps what the map has. -/
def emplace (map : AList fun _ : Text => Units) (key : Text) (value : Units) :
    AList fun _ : Text => Units :=
  if key ∈ map then map else map.insert key value

/-- The loop of the reader. -/
def statLoop (map : AList fun _ : Text => Units) (text : Text) : AList fun _ : Text => Units :=
  match _ : extractPair lexicalCastSize text with
  | none => map
  | some ((key, value), rest) => statLoop (emplace map key (countToUnits value)) rest
termination_by text.length
decreasing_by exact extract_pair_shorter (by assumption)

def stat (file : Text) : AList fun _ : Text => Units := statLoop countToUnits ∅ file

end Stat

structure StatKeyNotFoundError where
  key : Text
deriving DecidableEq

namespace StructStat

/-- `InputArchive::operator>>` -/
def find (map : AList fun _ : Text => Units) (name : Text) : Except StatKeyNotFoundError Units :=
  match map.lookup name with
  | none => .error { key := name }
  | some value => .ok value

def stat (names : List Text) (file : Text) : Except StatKeyNotFoundError (List Units) :=
  let map := Stat.stat countToUnits file
  names.mapM (find map)

end StructStat

structure CpuAccountingStat (TickDuration : Type) where
  userUsage : TickDuration
  systemUsage : TickDuration
deriving DecidableEq

namespace CpuAccounting

def names : List Text := [ascii "user", ascii "system"]

def stat (file : Text) : Except StatKeyNotFoundError (CpuAccountingStat Units) := do
  let map := Stat.stat countToUnits file
  let userUsage ← StructStat.find map (ascii "user")
  let systemUsage ← StructStat.find map (ascii "system")
  return { userUsage, systemUsage }

end CpuAccounting

end Readers

structure KeyNotFoundInFileError where
  key : Text
  file : Option String := none
deriving DecidableEq

namespace Memory

def parseKVFile (text key : Text) : Except KeyNotFoundInFileError Int32 :=
  match _ : extractPair lexicalCastInt text with
  | none => .error { key }
  | some ((k, v), rest) => if k = key then .ok v else parseKVFile rest key
termination_by text.length
decreasing_by exact extract_pair_shorter (by assumption)

/-- A flag of the field `oom_control`, which the error names. -/
def oomControl (key file : Text) : Except KeyNotFoundInFileError Bool :=
  match parseKVFile file key with
  | .ok value => .ok (value ≠ 0)
  | .error error => .error { error with file := some "oom_control" }

def underOom (file : Text) : Except KeyNotFoundInFileError Bool :=
  oomControl (ascii "under_oom") file

def oomKillDisable (file : Text) : Except KeyNotFoundInFileError Bool :=
  oomControl (ascii "oom_kill_disable") file

end Memory

namespace KeyValue

def newline : Byte := 10

def space : Byte := 32

/-- A line with a value that every reader can hold. -/
structure Line where
  key : Text
  digits : Text
  keyFilled : key ≠ []
  keyPlain : ∀ byte ∈ key, isSpace byte = false
  digitsFilled : digits ≠ []
  digitsPlain : ∀ byte ∈ digits, isDigit byte = true
  fits : digitsValue digits < 2 ^ 31

namespace Line

def value (line : Line) : Nat := digitsValue line.digits

def before (line : Line) (rest : Text) : Text :=
  line.key ++ ([space] ++ (line.digits ++ rest))

end Line

def afterLine (ended : Bool) : List Line → Text
  | [] => if ended then [newline] else []
  | line :: lines => [newline] ++ line.before (afterLine ended lines)

def keyValueFile (ended : Bool) : List Line → Text
  | [] => []
  | line :: lines => line.before (afterLine ended lines)

def firstValue (lines : List Line) (key : Text) : Option Nat :=
  (lines.find? fun line => line.key = key).map Line.value

section Lines

variable {ended : Bool} {lines : List Line} {line : Line}

theorem read_digits (line : Line) : readDigits line.digits = some line.value := by
  have all : line.digits.all (fun byte => IsDigit byte) = true :=
    List.all_eq_true.mpr line.digitsPlain
  rw [readDigits, if_pos ⟨line.digitsFilled, all⟩, Line.value]

theorem read_sign (line : Line) : readSign line.digits = (false, line.digits) := by
  obtain ⟨first, later, split⟩ := List.exists_cons_of_ne_nil line.digitsFilled
  have digit : IsDigit first :=
    of_decide_eq_true (line.digitsPlain first (split ▸ List.mem_cons_self))
  rw [split, readSign, if_neg, if_neg]
  · rintro rfl
    exact not_digit_plus digit
  · rintro rfl
    exact not_digit_minus digit

theorem cast_count (line : Line) :
    lexicalCastSize line.digits = some (UInt64.ofNat line.value) := by
  have bound : line.value < 2 ^ 64 := Nat.lt_trans line.fits (by decide)
  simp only [lexicalCastSize, read_sign, read_digits, Option.bind_some, if_pos bound,
    Bool.false_eq_true, if_false]

theorem cast_int (line : Line) : lexicalCastInt line.digits = some (Int32.ofInt line.value) := by
  have bound : line.value < 2 ^ 31 := line.fits
  simp only [lexicalCastInt, read_sign, read_digits, Option.bind_some, if_pos bound,
    Bool.false_eq_true, if_false]

theorem after_line_delimited (ended : Bool) (lines : List Line) :
    Delimited (afterLine ended lines) := by
  intro byte starts
  cases lines with
  | nil =>
      cases ended with
      | false => cases starts
      | true =>
          cases starts
          rfl
  | cons line lines =>
      cases starts
      rfl

theorem separator_space {separator : Byte} (blank : isSpace separator = true) :
    ∀ byte ∈ [separator], isSpace byte = true := by
  intro byte inside
  rw [List.mem_singleton.mp inside, blank]

theorem newline_space : ∀ byte ∈ [newline], isSpace byte = true := separator_space rfl

theorem extract_line {Value : Type} {cast : Text → Option Value} {value : Value} {blank : Text}
    (blankSpace : ∀ byte ∈ blank, isSpace byte = true) (read : cast line.digits = some value) :
    extractPair cast (blank ++ line.before (afterLine ended lines)) =
      some ((line.key, value), afterLine ended lines) :=
  extract_pair_append blankSpace line.keyFilled line.keyPlain (List.cons_ne_nil _ _)
    (separator_space rfl) line.digitsFilled line.digitsPlain read (after_line_delimited ended lines)

theorem nothing_space : ∀ byte ∈ ([] : Text), isSpace byte = true := nofun

theorem extract_end {Value : Type} {cast : Text → Option Value} :
    extractPair cast (afterLine ended []) = none := by
  apply extract_pair_blank
  cases ended with
  | false => simp [afterLine]
  | true => simp [afterLine, newline, isSpace]

theorem first_value_cons (line : Line) (lines : List Line) (key : Text) :
    firstValue (line :: lines) key =
      if line.key = key then some line.value else firstValue lines key := by
  unfold firstValue
  rw [List.find?_cons]
  by_cases same : line.key = key
  · simp [same]
  · simp [same]

theorem first_value_none_iff {key : Text} :
    firstValue lines key = none ↔ ∀ line ∈ lines, line.key ≠ key := by
  simp [firstValue]

theorem first_value_fits {key : Text} {value : Nat} (first : firstValue lines key = some value) :
    value < 2 ^ 31 := by
  obtain ⟨line, _, rfl⟩ := Option.map_eq_some_iff.mp first
  exact line.fits

end Lines

section Loops

variable {Units : Type} {countToUnits : Count → Units} {ended : Bool}

theorem lookup_emplace (map : AList fun _ : Text => Units) (key probe : Text) (value : Units) :
    (Stat.emplace map key value).lookup probe =
      (map.lookup probe).or (if key = probe then some value else none) := by
  unfold Stat.emplace
  by_cases known : key ∈ map
  · rw [if_pos known]
    by_cases same : key = probe
    · have present : (map.lookup probe).isSome = true := AList.lookup_isSome.mpr (same ▸ known)
      obtain ⟨old, found⟩ := Option.isSome_iff_exists.mp present
      rw [found, Option.some_or]
    · rw [if_neg same, Option.or_none]
  · rw [if_neg known, lookup_insert_eq]
    by_cases same : key = probe
    · subst same
      rw [if_pos rfl, if_pos rfl, AList.lookup_eq_none.mpr known, Option.none_or]
    · rw [if_neg (Ne.symm same), if_neg same, Option.or_none]

theorem stat_loop_step {map : AList fun _ : Text => Units} {text key rest : Text} {value : Count}
    (extracted : extractPair lexicalCastSize text = some ((key, value), rest)) :
    Stat.statLoop countToUnits map text =
      Stat.statLoop countToUnits (Stat.emplace map key (countToUnits value)) rest := by
  conv_lhs => rw [Stat.statLoop]
  split
  · rename_i none
    rw [extracted] at none
    cases none
  · rename_i same
    rw [extracted] at same
    cases same
    rfl

theorem stat_loop_line {map : AList fun _ : Text => Units} {line : Line} {lines : List Line}
    {blank : Text} (blankSpace : ∀ byte ∈ blank, isSpace byte = true) :
    Stat.statLoop countToUnits map (blank ++ line.before (afterLine ended lines)) =
      Stat.statLoop countToUnits
        (Stat.emplace map line.key (countToUnits (UInt64.ofNat line.value)))
        (afterLine ended lines) :=
  stat_loop_step (extract_line blankSpace (cast_count line))

theorem stat_loop_end {map : AList fun _ : Text => Units} {text : Text}
    (none : extractPair lexicalCastSize text = none) :
    Stat.statLoop countToUnits map text = map := by
  rw [Stat.statLoop]
  split
  · rfl
  · rename_i extracted
    rw [none] at extracted
    cases extracted

theorem stat_loop_after (map : AList fun _ : Text => Units) (lines : List Line) (key : Text) :
    (Stat.statLoop countToUnits map (afterLine ended lines)).lookup key =
      (map.lookup key).or
        ((firstValue lines key).map fun value => countToUnits (UInt64.ofNat value)) := by
  induction lines generalizing map with
  | nil =>
      rw [stat_loop_end extract_end]
      exact (Option.or_none).symm
  | cons line lines ih =>
      rw [afterLine, stat_loop_line newline_space, ih, lookup_emplace, first_value_cons,
        Option.or_assoc]
      by_cases same : line.key = key
      · simp [same]
      · simp [same]

/-- `Stat` maps a key to the value on its first line. -/
theorem stat_lookup (ended : Bool) (lines : List Line) (key : Text) :
    (Stat.stat countToUnits (keyValueFile ended lines)).lookup key =
      (firstValue lines key).map fun value => countToUnits (UInt64.ofNat value) := by
  cases lines with
  | nil =>
      rw [keyValueFile, Stat.stat, stat_loop_end (extract_pair_blank nothing_space)]
      rfl
  | cons line lines =>
      have read : Stat.statLoop countToUnits ∅ (line.before (afterLine ended lines)) = _ :=
        stat_loop_line nothing_space
      rw [keyValueFile, Stat.stat, read, stat_loop_after, lookup_emplace, first_value_cons,
        AList.lookup_empty, Option.none_or]
      by_cases same : line.key = key
      · simp [same]
      · simp [same]

theorem parse_step {text key k rest : Text} {v : Int32}
    (extracted : extractPair lexicalCastInt text = some ((k, v), rest)) :
    Memory.parseKVFile text key = if k = key then .ok v else Memory.parseKVFile rest key := by
  conv_lhs => rw [Memory.parseKVFile]
  split
  · rename_i none
    rw [extracted] at none
    cases none
  · rename_i same
    rw [extracted] at same
    cases same
    rfl

theorem parse_end {text key : Text} (none : extractPair lexicalCastInt text = none) :
    Memory.parseKVFile text key = .error { key } := by
  rw [Memory.parseKVFile]
  split
  · rfl
  · rename_i extracted
    rw [none] at extracted
    cases extracted

theorem parse_line {line : Line} {lines : List Line} {key blank : Text}
    (blankSpace : ∀ byte ∈ blank, isSpace byte = true) :
    Memory.parseKVFile (blank ++ line.before (afterLine ended lines)) key =
      if line.key = key then .ok (Int32.ofInt line.value)
      else Memory.parseKVFile (afterLine ended lines) key :=
  parse_step (extract_line blankSpace (cast_int line))

def parsed (key : Text) : Option Nat → Except KeyNotFoundInFileError Int32
  | none => .error { key }
  | some value => .ok (Int32.ofInt value)

theorem parse_after (lines : List Line) (key : Text) :
    Memory.parseKVFile (afterLine ended lines) key = parsed key (firstValue lines key) := by
  induction lines with
  | nil => exact parse_end extract_end
  | cons line lines ih =>
      rw [afterLine, parse_line newline_space, ih, first_value_cons, apply_ite (parsed key)]
      rfl

/-- `parseKVFile` stops at the first line of the key. -/
theorem parse_eq (ended : Bool) (lines : List Line) (key : Text) :
    Memory.parseKVFile (keyValueFile ended lines) key = parsed key (firstValue lines key) := by
  cases lines with
  | nil => exact parse_end (extract_pair_blank nothing_space)
  | cons line lines =>
      have read : Memory.parseKVFile (line.before (afterLine ended lines)) key = _ :=
        parse_line nothing_space
      rw [keyValueFile, read, parse_after, first_value_cons, apply_ite (parsed key)]
      rfl

theorem oom_control_eq (ended : Bool) (lines : List Line) (key : Text) :
    Memory.oomControl key (keyValueFile ended lines) =
      match firstValue lines key with
      | none => .error { key, file := some "oom_control" }
      | some value => .ok (Int32.ofInt value ≠ 0) := by
  rw [Memory.oomControl, parse_eq]
  cases firstValue lines key with
  | none => rfl
  | some value => rfl

end Loops

section Members

variable {Units : Type} {map : AList fun _ : Text => Units}

theorem find_eq_ok_iff {name : Text} {value : Units} :
    StructStat.find map name = .ok value ↔ map.lookup name = some value := by
  unfold StructStat.find
  cases map.lookup name with
  | none => simp
  | some found => simp

theorem find_eq_error_iff {name : Text} {error : StatKeyNotFoundError} :
    StructStat.find map name = .error error ↔ error = { key := name } ∧ map.lookup name = none := by
  unfold StructStat.find
  cases map.lookup name with
  | none => simp [eq_comm]
  | some found => simp

theorem members_eq_ok_iff {names : List Text} {values : List Units} :
    names.mapM (StructStat.find map) = .ok values ↔
      List.Forall₂ (fun name value => map.lookup name = some value) names values := by
  rw [map_eq_ok_iff]
  simp only [find_eq_ok_iff]

theorem members_throw_iff {names : List Text} :
    (∃ error, names.mapM (StructStat.find map) = .error error) ↔
      ∃ name ∈ names, map.lookup name = none := by
  constructor
  · intro ⟨error, thrown⟩
    obtain ⟨name, inside, missing⟩ := map_throws thrown
    exact ⟨name, inside, (find_eq_error_iff.mp missing).2⟩
  · intro ⟨name, inside, missing⟩
    exact map_throws_of_mem inside (find_eq_error_iff.mpr ⟨rfl, missing⟩)

theorem cpu_accounting_eq_ok_iff {countToUnits : Count → Units} {file : Text}
    {user system : Units} :
    CpuAccounting.stat countToUnits file = .ok { userUsage := user, systemUsage := system } ↔
      StructStat.stat countToUnits CpuAccounting.names file = .ok [user, system] := by
  rw [StructStat.stat, members_eq_ok_iff, CpuAccounting.names, CpuAccounting.stat]
  simp only [List.forall₂_cons, List.forall₂_nil_left_iff, and_true, ← find_eq_ok_iff]
  cases StructStat.find (Stat.stat countToUnits file) (ascii "user") with
  | error error => simp [Bind.bind, Except.bind]
  | ok userUsage =>
      cases StructStat.find (Stat.stat countToUnits file) (ascii "system") with
      | error error => simp [Bind.bind, Except.bind]
      | ok systemUsage => simp [Bind.bind, Except.bind, pure, Except.pure]

end Members

/-- What the three readers have to do with the lines of a file. -/
structure ReadersAgree {Units : Type} (countToUnits : Count → Units) (lines : List Line)
    (file : Text) : Prop where
  stat : ∀ key value, firstValue lines key = some value →
    ∃ count, count.toNat = value ∧
      (Stat.stat countToUnits file).lookup key = some (countToUnits count)
  statOnly : ∀ key, (∀ line ∈ lines, line.key ≠ key) →
    (Stat.stat countToUnits file).lookup key = none
  parses : ∀ key (value : Nat), firstValue lines key = some value →
    ∃ number : Int32, number.toInt = value ∧ Memory.parseKVFile file key = .ok number
  parseThrows : ∀ key, Memory.parseKVFile file key = .error { key } ↔
    ∀ line ∈ lines, line.key ≠ key
  filled : ∀ names values, StructStat.stat countToUnits names file = .ok values ↔
    List.Forall₂ (fun name unit => ∃ value count, firstValue lines name = some value ∧
      count.toNat = value ∧ unit = countToUnits count) names values
  fillThrows : ∀ names, (∃ error, StructStat.stat countToUnits names file = .error error) ↔
    ∃ name ∈ names, ∀ line ∈ lines, line.key ≠ name

section Values

variable {lines : List Line} {key : Text} {value : Nat}

theorem count_value (first : firstValue lines key = some value) :
    (UInt64.ofNat value).toNat = value :=
  UInt64.toNat_ofNat_of_lt' (Nat.lt_trans (first_value_fits first) (by decide))

theorem int_value (first : firstValue lines key = some value) :
    (Int32.ofInt value).toInt = value := by
  have fits := first_value_fits first
  exact Int32.toInt_ofInt_of_le (by omega) (by omega)

end Values

/-- The readers agree on every file of lines with keys and values. -/
theorem readers_agree {Units : Type} (countToUnits : Count → Units) (ended : Bool)
    (lines : List Line) : ReadersAgree countToUnits lines (keyValueFile ended lines) := by
  have looked : ∀ key, (Stat.stat countToUnits (keyValueFile ended lines)).lookup key =
      (firstValue lines key).map fun value => countToUnits (UInt64.ofNat value) :=
    stat_lookup ended lines
  refine ⟨?_, ?_, ?_, ?_, ?_, ?_⟩
  · intro key value first
    exact ⟨UInt64.ofNat value, count_value first, by rw [looked, first]; rfl⟩
  · intro key absent
    rw [looked, first_value_none_iff.mpr absent]
    rfl
  · intro key value first
    exact ⟨Int32.ofInt value, int_value first, by rw [parse_eq, first]; rfl⟩
  · intro key
    rw [parse_eq, ← first_value_none_iff]
    cases first : firstValue lines key with
    | none => simp [parsed]
    | some value => simp [parsed]
  · intro names values
    have same : ∀ name unit, (Stat.stat countToUnits (keyValueFile ended lines)).lookup name =
        some unit ↔ ∃ value count, firstValue lines name = some value ∧ count.toNat = value ∧
          unit = countToUnits count := by
      intro name unit
      rw [looked, Option.map_eq_some_iff]
      constructor
      · rintro ⟨value, first, rfl⟩
        exact ⟨value, UInt64.ofNat value, first, count_value first, rfl⟩
      · rintro ⟨_, count, first, rfl, rfl⟩
        exact ⟨count.toNat, first, by rw [UInt64.ofNat_toNat]⟩
    rw [StructStat.stat, members_eq_ok_iff]
    simp only [same]
  · intro names
    rw [StructStat.stat, members_throw_iff]
    simp only [looked, Option.map_eq_none_iff, first_value_none_iff]

end KeyValue

end ContestSystem.Cgroup
