import ContestSystem.Cgroup.FieldValues

/-!
# Processor times

The subsystem counts user and system time in clock ticks and gives the time of each
processor in nanoseconds, which a duration keeps with a sign. `TickDurationConverter`
multiplies the ticks by the precision of the result before it divides by that of the
clock, with 64 bits all the way.
-/

namespace ContestSystem.Cgroup.CpuUsage

open ContestSystem.Lib.Decimal ContestSystem.Lib.Extraction ContestSystem.Lib.Unordered
open FieldValues KeyValue

set_option autoImplicit false

/-- Ticks of a second in the result, `TickDuration::period::den`. -/
def den : Count := 100

/-- `TickDurationConverter::countToUnits`; `clkTck` is what `sysconf` answers. -/
def countToUnits (clkTck ticks : Count) : Count :=
  let num := 1 * clkTck
  (ticks * den) / num

theorem split_sign_cases (text : Text) :
    (splitSign text).1 = [] ∨ (splitSign text).1 = [minus] ∨ (splitSign text).1 = [plus] := by
  cases text with
  | nil => exact .inl rfl
  | cons byte rest =>
      by_cases sign : byte = minus ∨ byte = plus
      · rw [splitSign, if_pos sign]
        rcases sign with rfl | rfl
        · exact .inr (.inl rfl)
        · exact .inr (.inr rfl)
      · rw [splitSign, if_neg sign]
        exact .inl rfl

theorem extract_count_shorter {text rest : Text} {count : Count}
    (extracted : extractNumber lexicalCastSize text = some (count, rest)) :
    rest.length < text.length := by
  have skipped := skip_space_shorter text
  have sign := split_sign_cases (skipSpace text)
  have unsigned := split_sign_shorter (skipSpace text)
  unfold extractNumber at extracted
  generalize splitSign (skipSpace text) = parts at extracted sign unsigned
  obtain ⟨value, read, same⟩ := Option.map_eq_some_iff.mp extracted
  cases same
  have whole := congrArg List.length (List.takeWhile_append_dropWhile (p := isDigit)
    (l := parts.2))
  rw [List.length_append] at whole
  have taken : parts.2.takeWhile isDigit ≠ [] := by
    intro none
    rw [none, List.append_nil] at read
    rcases sign with empty | isMinus | isPlus
    · rw [empty] at read
      cases read
    · rw [isMinus] at read
      cases read
    · rw [isPlus] at read
      cases read
  have filled := List.length_pos_iff.mpr taken
  omega

/-- `std::istream_iterator<Count>` up to the first extraction that fails. -/
def readCounts (text : Text) : List Count :=
  match _ : extractNumber lexicalCastSize text with
  | none => []
  | some (count, rest) => count :: readCounts rest
termination_by text.length
decreasing_by exact extract_count_shorter (by assumption)

/-- `std::chrono::nanoseconds` counts in signed 64 bits. -/
abbrev Duration := Int64

def uintToDuration (n : Count) : Duration := n.toInt64

def usagePerCpu (file : Text) : List Duration := (readCounts file).map uintToDuration

def userUsage (clkTck : Count) (file : Text) : Except StatKeyNotFoundError Count :=
  (CpuAccounting.stat (countToUnits clkTck) file).map CpuAccountingStat.userUsage

def systemUsage (clkTck : Count) (file : Text) : Except StatKeyNotFoundError Count :=
  (CpuAccounting.stat (countToUnits clkTck) file).map CpuAccountingStat.systemUsage

section Ticks

variable {clkTck : Count}

theorem count_to_units_exact_iff (positive : 0 < clkTck.toNat) (precise : clkTck ≤ den)
    (ticks : Count) :
    (countToUnits clkTck ticks).toNat = ticks.toNat * 100 / clkTck.toNat ↔
      ticks.toNat * 100 < 2 ^ 64 := by
  have coarse : clkTck.toNat ≤ 100 := UInt64.le_iff_toNat_le.mp precise
  have units : (countToUnits clkTck ticks).toNat =
      ticks.toNat * 100 % 2 ^ 64 / clkTck.toNat := by
    rw [countToUnits, UInt64.one_mul, UInt64.toNat_div, UInt64.toNat_mul]
    rfl
  rw [units]
  constructor
  · intro exact_
    by_contra large
    -- At least one whole second of the clock is lost with the carry.
    have split := Nat.div_add_mod (ticks.toNat * 100) (2 ^ 64)
    have carry : 0 < ticks.toNat * 100 / 2 ^ 64 := Nat.div_pos (by omega) (by decide)
    have lost : ticks.toNat * 100 % 2 ^ 64 + clkTck.toNat ≤ ticks.toNat * 100 := by omega
    have less := Nat.div_le_div_right (c := clkTck.toNat) lost
    rw [Nat.add_div_right _ positive] at less
    omega
  · intro fits
    rw [Nat.mod_eq_of_lt fits]

end Ticks

/-- The conversion wraps from the first count that needs the sign. -/
theorem uint_to_duration_eq (n : Count) :
    (uintToDuration n).toInt = if n.toNat < 2 ^ 63 then (n.toNat : Int) else n.toNat - 2 ^ 64 := by
  have bits : (uintToDuration n).toInt = n.toBitVec.toInt := rfl
  rw [bits, BitVec.toInt_eq_toNat_cond, UInt64.toNat_toBitVec]
  split
  next low => rw [if_pos (by omega)]
  next high =>
      rw [if_neg (by omega)]
      rfl

theorem uint_to_duration_exact_iff (n : Count) :
    (uintToDuration n).toInt = n.toNat ↔ n.toNat < 2 ^ 63 := by
  rw [uint_to_duration_eq]
  split
  next fits => exact iff_of_true rfl fits
  next large => exact iff_of_false (by omega) large

structure Gap where
  text : Text
  filled : text ≠ []
  blank : Blank text

def perCpuFile : List (Count × Gap) → Text
  | [] => []
  | (count, gap) :: rest => decimal count.toNat ++ (gap.text ++ perCpuFile rest)

theorem gap_delimited (gap : Gap) (rest : Text) : Delimited (gap.text ++ rest) := by
  obtain ⟨first, later, split⟩ := List.exists_cons_of_ne_nil gap.filled
  intro byte starts
  rw [split, List.cons_append, List.head?_cons, Option.some.injEq] at starts
  exact gap.blank byte (split ▸ starts ▸ List.mem_cons_self)

theorem read_counts_step {text rest : Text} {count : Count}
    (extracted : extractNumber lexicalCastSize text = some (count, rest)) :
    readCounts text = count :: readCounts rest := by
  conv_lhs => rw [readCounts]
  split
  · rename_i none
    rw [extracted] at none
    cases none
  · rename_i same
    rw [extracted] at same
    cases same
    rfl

theorem read_counts_blank {blank : Text} (space : Blank blank) : readCounts blank = [] := by
  have skipped : skipSpace blank = [] := List.dropWhile_eq_nil_iff.mpr space
  have none : extractNumber lexicalCastSize blank = none := by
    rw [extractNumber, skipped]
    rfl
  rw [readCounts]
  split
  · rfl
  · rename_i extracted
    rw [none] at extracted
    cases extracted

theorem read_counts_file {blank : Text} (space : Blank blank) (entries : List (Count × Gap)) :
    readCounts (blank ++ perCpuFile entries) = entries.map Prod.fst := by
  induction entries generalizing blank with
  | nil =>
      rw [perCpuFile, List.append_nil, read_counts_blank space]
      rfl
  | cons entry entries ih =>
      obtain ⟨count, gap⟩ := entry
      have extracted := extract_number_append lexicalCastSize space (decimal_ne_nil count.toNat)
        (decimal_plain count.toNat) (gap_delimited gap (perCpuFile entries))
      rw [lexical_cast_size_decimal] at extracted
      rw [perCpuFile, read_counts_step extracted, ih gap.blank]
      rfl

structure StatLine where
  key : Word
  count : Count
deriving DecidableEq

def statFile : List StatLine → Text
  | [] => []
  | line :: rest =>
      line.key.text ++ ([space] ++ (decimal line.count.toNat ++ ([newline] ++ statFile rest)))

def counted (lines : List StatLine) (key : Text) : Option Count :=
  (lines.find? fun line => line.key.text = key).map StatLine.count

theorem stat_loop_file {Units : Type} (toUnits : Count → Units) {blank : Text}
    (blankSpace : Blank blank) (lines : List StatLine) (map : AList fun _ : Text => Units)
    (key : Text) :
    (Stat.statLoop toUnits map (blank ++ statFile lines)).lookup key =
      (map.lookup key).or ((counted lines key).map toUnits) := by
  induction lines generalizing blank map with
  | nil =>
      rw [statFile, List.append_nil, stat_loop_end (extract_pair_blank blankSpace)]
      exact (Option.or_none).symm
  | cons line lines ih =>
      have lineEnds : Delimited ([newline] ++ statFile lines) := by
        intro byte starts
        cases starts
        rfl
      have gapSpace : ∀ byte ∈ [space], isSpace byte = true := separator_space rfl
      have extracted := extract_pair_append blankSpace line.key.filled line.key.plain
        (List.cons_ne_nil space []) gapSpace (decimal_ne_nil line.count.toNat)
        (decimal_plain line.count.toNat) (lexical_cast_size_decimal line.count) lineEnds
      rw [statFile, stat_loop_step extracted, ih newline_space, lookup_emplace, Option.or_assoc,
        counted, counted, List.find?_cons]
      by_cases same : line.key.text = key
      · simp [same]
      · simp [same]

theorem cpu_stat_file {Units : Type} (toUnits : Count → Units) (lines : List StatLine) :
    CpuAccounting.stat toUnits (statFile lines) =
      match counted lines (ascii "user"), counted lines (ascii "system") with
      | none, _ => .error { key := ascii "user" }
      | some _, none => .error { key := ascii "system" }
      | some user, some system =>
          .ok { userUsage := toUnits user, systemUsage := toUnits system } := by
  have looked : ∀ key, (Stat.stat toUnits (statFile lines)).lookup key =
      (counted lines key).map toUnits := by
    intro key
    have found := stat_loop_file toUnits nothing_blank lines ∅ key
    rw [List.nil_append, AList.lookup_empty, Option.none_or] at found
    exact found
  simp only [CpuAccounting.stat, StructStat.find, looked]
  cases counted lines (ascii "user") with
  | none => rfl
  | some user =>
      cases counted lines (ascii "system") with
      | none => rfl
      | some system => rfl

/-- Both times come from one reading of both counts, and each is the hundredths of a second
that its ticks make, rounded down, exactly up to the count that the multiplication overflows
at. -/
structure TimesRead (clkTck : Count) (lines : List StatLine) : Prop where
  rounded : ∀ user system, counted lines (ascii "user") = some user →
    counted lines (ascii "system") = some system → ∃ userTime systemTime,
      userUsage clkTck (statFile lines) = .ok userTime ∧
      systemUsage clkTck (statFile lines) = .ok systemTime ∧
      (userTime.toNat = user.toNat * 100 / clkTck.toNat ↔ user.toNat * 100 < 2 ^ 64) ∧
      (systemTime.toNat = system.toNat * 100 / clkTck.toNat ↔ system.toNat * 100 < 2 ^ 64)
  noUser : counted lines (ascii "user") = none →
    userUsage clkTck (statFile lines) = .error { key := ascii "user" } ∧
      systemUsage clkTck (statFile lines) = .error { key := ascii "user" }
  noSystem : ∀ user, counted lines (ascii "user") = some user →
    counted lines (ascii "system") = none →
      userUsage clkTck (statFile lines) = .error { key := ascii "system" } ∧
        systemUsage clkTck (statFile lines) = .error { key := ascii "system" }

/-- Every processor has one duration, in the order of the file, and it is the processor's count
exactly up to the count that needs the sign. -/
structure PerCpuRead (entries : List (Count × Gap)) : Prop where
  durations : usagePerCpu (perCpuFile entries) = entries.map fun entry => uintToDuration entry.1
  exact_ : ∀ entry ∈ entries,
    (uintToDuration entry.1).toInt = entry.1.toNat ↔ entry.1.toNat < 2 ^ 63
  whole : (usagePerCpu (perCpuFile entries)).map Int64.toInt =
      entries.map (fun entry => (entry.1.toNat : Int)) ↔
    ∀ entry ∈ entries, entry.1.toNat < 2 ^ 63

theorem per_cpu_read (entries : List (Count × Gap)) : PerCpuRead entries := by
  have durations : usagePerCpu (perCpuFile entries) =
      entries.map fun entry => uintToDuration entry.1 := by
    have counts := read_counts_file nothing_blank entries
    rw [List.nil_append] at counts
    rw [usagePerCpu, counts, List.map_map]
    rfl
  refine ⟨durations, fun entry _ => uint_to_duration_exact_iff entry.1, ?_⟩
  rw [durations, List.map_map, List.map_inj_left]
  exact forall₂_congr fun entry _ => uint_to_duration_exact_iff entry.1

/-- The second processor's count is the first that needs the sign. -/
def signedCounts : List (Count × Gap) :=
  [(5, ⟨[space], by decide, by decide⟩), (9223372036854775808, ⟨[newline], by decide, by decide⟩)]

/-- The system's ticks are the first that overflow. -/
def overflowing : List StatLine :=
  [{ key := ⟨ascii "user", by decide, plain_of_all (by decide)⟩, count := 100 },
    { key := ⟨ascii "system", by decide, plain_of_all (by decide)⟩, count := 184467440737095517 }]

end ContestSystem.Cgroup.CpuUsage
