import Mathlib.Data.Finset.Basic
import Mathlib.Data.Finset.Dedup
import Mathlib.Data.List.Forall2
import ContestSystem.Cgroup.Kernel
import ContestSystem.Lib.Decimal
import ContestSystem.Lib.FallibleFold
import ContestSystem.Lib.Text

/-!
# The format of `/proc/<pid>/cgroup`

`ProcPidCgroup::load` reads one entry from every line of the file: the id up to
the first colon, the subsystems up to the second one and the control group
after it, further colons included. `ProcessInfo::fromFile` indexes the control
groups by hierarchy id.
-/

namespace ContestSystem.Cgroup.ProcPidCgroup

open ContestSystem.Lib.Decimal ContestSystem.Lib.Text ContestSystem.Lib.FallibleFold
open ContestSystem.Lib.Unordered

set_option autoImplicit false

def colon : Byte := ':'.toUInt8

def comma : Byte := ','.toUInt8

def newline : Byte := '\n'.toUInt8

structure Entry where
  hierarchyId : UInt64 := 0
  subsystems : Finset Text := ∅
  controlGroup : Text := []
deriving DecidableEq

inductive LineFailure
  | notEnoughFields
  | badLexicalCast
deriving DecidableEq

/-- What `ProcPidCgroupLoadError` nests. -/
inductive LoadFailure
  | filesystem (code : Errno)
  | line (failure : LineFailure) (line : Text)
deriving DecidableEq

structure LoadError where
  path : Text
  nested : LoadFailure
deriving DecidableEq

def loadLine (line : Text) : Except LineFailure Entry :=
  match find colon 0 line with
  | none => .error .notEnoughFields
  | some pos1 =>
      match find colon (pos1 + 1) line with
      | none => .error .notEnoughFields
      | some pos2 =>
          match lexicalCastSize (line.take pos1) with
          | none => .error .badLexicalCast
          | some hierarchyId =>
              let subsystemsLine := (line.drop (pos1 + 1)).take (pos2 - pos1 - 1)
              .ok
                { hierarchyId := hierarchyId
                  subsystems := (subsystemsLine.splitOn comma).toFinset
                  controlGroup := line.drop (pos2 + 1) }

def loadEntry (path : Text) (entries : List Entry) (line : Text) :
    Except LoadError (List Entry) :=
  match loadLine line with
  | .ok entry => .ok (entries ++ [entry])
  | .error failure => .error { path := path, nested := .line failure line }

/-- `load` of a file that reads as `file`; a call that throws leaves no entries to use. -/
def load (path : Text) (file : Except Errno Text) : Except LoadError (List Entry) :=
  match file with
  | .ok contents => (lines newline contents).foldlM (loadEntry path) []
  | .error code => .error { path := path, nested := .filesystem code }

/-- What the format asks of an entry. -/
structure WellFormed (entry : Entry) : Prop where
  nonempty : entry.subsystems.Nonempty
  names : ∀ name ∈ entry.subsystems, comma ∉ name ∧ colon ∉ name ∧ newline ∉ name
  path : newline ∉ entry.controlGroup

/-- The line of an entry whose subsystems are listed as `names`. -/
def line (entry : Entry) (names : List Text) : Text :=
  decimal entry.hierarchyId.toNat ++ colon :: ([comma].intercalate names ++
    colon :: entry.controlGroup)

/-- A line of the entry, with the subsystems in any order. -/
def Renders (entry : Entry) (text : Text) : Prop :=
  ∃ names : List Text, names.Nodup ∧ names.toFinset = entry.subsystems ∧ text = line entry names

/-- The entries one per line, with or without a newline after the last one. -/
def RendersFile (entries : List Entry) (contents : Text) : Prop :=
  ∃ texts : List Text, List.Forall₂ Renders entries texts ∧
    (contents = [newline].intercalate (texts ++ [[]]) ∨ contents = [newline].intercalate texts)

theorem colon_not_in_decimal (number : Nat) : colon ∉ decimal number := by
  intro member
  exact absurd (decimal_digits member) (by decide)

theorem newline_not_in_decimal (number : Nat) : newline ∉ decimal number := by
  intro member
  exact absurd (decimal_digits member) (by decide)

theorem not_mem_intercalate {separator byte : Byte} (different : byte ≠ separator)
    {names : List Text} (absent : ∀ name ∈ names, byte ∉ name) :
    byte ∉ [separator].intercalate names := by
  induction names with
  | nil => simp [List.intercalate_nil]
  | cons first names ih =>
      have rest := ih fun name member => absent name (by simp [member])
      cases names with
      | nil =>
          rw [List.intercalate_singleton]
          exact absent first (by simp)
      | cons second names =>
          simp only [List.intercalate_cons_cons, List.mem_append, List.mem_singleton, not_or]
          exact ⟨⟨absent first (by simp), different⟩, rest⟩

variable {entry : Entry} {names : List Text}

theorem listed_names (wellFormed : WellFormed entry) (listed : names.toFinset = entry.subsystems) :
    names ≠ [] ∧ ∀ name ∈ names, comma ∉ name ∧ colon ∉ name ∧ newline ∉ name := by
  constructor
  · rintro rfl
    exact wellFormed.nonempty.ne_empty listed.symm
  · intro name member
    apply wellFormed.names
    rw [← listed, List.mem_toFinset]
    exact member

theorem load_line_fields {first second rest : Text} (firstPlain : colon ∉ first)
    (secondPlain : colon ∉ second) :
    loadLine (first ++ colon :: (second ++ colon :: rest)) =
      match lexicalCastSize first with
      | none => .error .badLexicalCast
      | some hierarchyId =>
          .ok
            { hierarchyId := hierarchyId, subsystems := (second.splitOn comma).toFinset
              controlGroup := rest } := by
  have pos1 : find colon 0 (first ++ colon :: (second ++ colon :: rest)) =
      some first.length := by
    simpa using find_append [] first (second ++ colon :: rest) firstPlain
  have pos2 : find colon (first.length + 1) (first ++ colon :: (second ++ colon :: rest)) =
      some (first.length + 1 + second.length) := by
    simpa using find_append (first ++ [colon]) second rest secondPlain
  have last : (first ++ colon :: (second ++ colon :: rest)).drop
      (first.length + 1 + second.length + 1) = rest := by
    have past := drop_past (first ++ colon :: second) rest colon
    have place : (first ++ colon :: second).length + 1 =
        first.length + 1 + second.length + 1 := by
      simp only [List.length_append, List.length_cons]
      omega
    rwa [place, List.append_assoc, List.cons_append] at past
  have width : first.length + 1 + second.length - first.length - 1 = second.length := by
    omega
  simp only [loadLine, pos1, pos2, last, width, drop_past, List.take_left]

theorem load_line (wellFormed : WellFormed entry) (listed : names.toFinset = entry.subsystems) :
    loadLine (line entry names) = .ok entry := by
  obtain ⟨nonempty, plain⟩ := listed_names wellFormed listed
  have noColon : colon ∉ [comma].intercalate names :=
    not_mem_intercalate (by decide) fun name member => (plain name member).2.1
  have split : ([comma].intercalate names).splitOn comma = names :=
    List.splitOn_intercalate comma (fun name member => (plain name member).1) nonempty
  rw [line, load_line_fields (colon_not_in_decimal _) noColon, lexical_cast_size_decimal, split,
    listed]

theorem line_cases (text : Text) :
    (text.count colon < 2 ∧ loadLine text = .error .notEnoughFields) ∨
      ∃ first second rest, text = first ++ colon :: (second ++ colon :: rest) ∧
        colon ∉ first ∧ colon ∉ second := by
  cases found : find colon 0 text with
  | none =>
      left
      have absent : colon ∉ text := find_none.mp found
      exact ⟨by simp [List.count_eq_zero.mpr absent], by simp [loadLine, found]⟩
  | some pos1 =>
      obtain ⟨first, after, split, firstPlain, place⟩ := find_some found
      rw [List.drop_zero] at split
      have start : pos1 + 1 = first.length + 1 := by omega
      cases again : find colon (pos1 + 1) text with
      | none =>
          left
          have absent := find_none.mp again
          rw [start, split, drop_past] at absent
          refine ⟨?_, by simp [loadLine, found, again]⟩
          rw [split, List.count_append, List.count_cons_self, List.count_eq_zero.mpr firstPlain,
            List.count_eq_zero.mpr absent]
          decide
      | some pos2 =>
          right
          obtain ⟨second, rest, splitAfter, secondPlain, _⟩ := find_some again
          rw [start, split, drop_past] at splitAfter
          exact ⟨first, second, rest, by rw [split, splitAfter], firstPlain, secondPlain⟩

def firstField (text : Text) : Text :=
  text.takeWhile (· ≠ colon)

/-- A line is refused exactly when it lacks a field or starts with no number. -/
theorem load_line_refuses_iff (text : Text) :
    (∃ failure, loadLine text = .error failure) ↔
      text.count colon < 2 ∨ lexicalCastSize (firstField text) = none := by
  rcases line_cases text with ⟨few, refused⟩ | ⟨first, second, rest, rfl, firstPlain, secondPlain⟩
  · exact ⟨fun _ => .inl few, fun _ => ⟨_, refused⟩⟩
  · have enough : ¬(first ++ colon :: (second ++ colon :: rest)).count colon < 2 := by
      simp only [List.count_append, List.count_cons_self]
      omega
    have field : firstField (first ++ colon :: (second ++ colon :: rest)) = first := by
      rw [firstField, List.takeWhile_append_of_pos, List.takeWhile_cons_of_neg] <;> simp
      intro byte member
      rintro rfl
      exact firstPlain member
    rw [load_line_fields firstPlain secondPlain, field]
    cases lexicalCastSize first with
    | none => simp
    | some hierarchyId =>
        constructor
        · rintro ⟨failure, refused⟩
          cases refused
        · rintro (few | refused)
          · exact absurd few enough
          · cases refused

theorem newline_not_in_line (wellFormed : WellFormed entry)
    (listed : names.toFinset = entry.subsystems) : newline ∉ line entry names := by
  have plain := (listed_names wellFormed listed).2
  have noNewline : newline ∉ [comma].intercalate names :=
    not_mem_intercalate (by decide) fun name member => (plain name member).2.2
  have different : newline ≠ colon := by decide
  simp [line, newline_not_in_decimal, noNewline, different, wellFormed.path]

theorem line_ne_nil (entry : Entry) (names : List Text) : line entry names ≠ [] := by
  simp [line]

theorem rendered_lines {entries : List Entry} {texts : List Text} {contents : Text}
    (wellFormed : ∀ entry ∈ entries, WellFormed entry)
    (rendered : List.Forall₂ Renders entries texts)
    (joined : contents = [newline].intercalate (texts ++ [[]]) ∨
      contents = [newline].intercalate texts) : lines newline contents = texts := by
  have plain : ∀ text ∈ texts, newline ∉ text ∧ text ≠ [] := by
    clear joined
    induction rendered with
    | nil => simp
    | cons head tail ih =>
        obtain ⟨names, _, listed, rfl⟩ := head
        intro text member
        rcases List.mem_cons.mp member with rfl | inside
        · exact ⟨newline_not_in_line (wellFormed _ (by simp)) listed, line_ne_nil _ _⟩
        · exact ih (fun entry inEntries => wellFormed entry (by simp [inEntries])) text inside
  rcases joined with rfl | rfl
  · exact lines_ended fun text member => (plain text member).1
  · rcases List.eq_nil_or_concat texts with rfl | ⟨before, last, rfl⟩
    · rfl
    · rw [List.concat_eq_append] at plain ⊢
      exact lines_open (fun text member => (plain text member).1) (plain last (by simp)).2

theorem load_entry_eq_ok {path line : Text} {before after : List Entry} :
    loadEntry path before line = .ok after ↔
      ∃ entry, loadLine line = .ok entry ∧ after = before ++ [entry] := by
  unfold loadEntry
  cases loadLine line <;> simp [eq_comm]

theorem load_rendered (path : Text) {entries : List Entry} {texts : List Text}
    (wellFormed : ∀ entry ∈ entries, WellFormed entry)
    (rendered : List.Forall₂ Renders entries texts) (before : List Entry) :
    texts.foldlM (loadEntry path) before = .ok (before ++ entries) := by
  induction rendered generalizing before with
  | nil => simp [pure, Except.pure]
  | @cons entry text entries texts head tail ih =>
      obtain ⟨names, _, listed, rfl⟩ := head
      have rest := ih (fun other member => wellFormed other (by simp [member]))
        (before ++ [entry])
      rw [List.append_assoc, List.singleton_append] at rest
      refine fold_cons_eq_ok.mpr ⟨before ++ [entry], ?_, rest⟩
      exact load_entry_eq_ok.mpr ⟨entry, load_line (wellFormed entry (by simp)) listed, rfl⟩

theorem load_throws_iff (path contents : Text) :
    (∃ error, load path (.ok contents) = .error error) ↔
      ∃ line ∈ lines newline contents,
        line.count colon < 2 ∨ lexicalCastSize (firstField line) = none := by
  have accepts : ∀ entries before line, True →
      ((∃ after, loadEntry path entries line = .ok after) ↔
        (fun (_ : List Text) line => ∃ entry, loadLine line = .ok entry) before line) := by
    intro entries before line _
    constructor
    · rintro ⟨after, returned⟩
      obtain ⟨entry, loaded, _⟩ := load_entry_eq_ok.mp returned
      exact ⟨entry, loaded⟩
    · rintro ⟨entry, loaded⟩
      exact ⟨entries ++ [entry], load_entry_eq_ok.mpr ⟨entry, loaded, rfl⟩⟩
  have returns : (∃ entries, load path (.ok contents) = .ok entries) ↔
      ∀ line ∈ lines newline contents, ∃ entry, loadLine line = .ok entry := by
    rw [← accept_all_forall_iff _ [] (lines newline contents)]
    exact fold_returns_iff (fun _ _ => True) _ (fun _ _ _ _ _ _ => trivial) accepts trivial
  constructor
  · rintro ⟨error, thrown⟩
    by_contra fine
    have allAccepted : ∀ line ∈ lines newline contents, ∃ entry, loadLine line = .ok entry := by
      intro line member
      cases loaded : loadLine line with
      | ok entry => exact ⟨entry, rfl⟩
      | error failure =>
          exact absurd ⟨line, member, (load_line_refuses_iff line).mp ⟨failure, loaded⟩⟩ fine
    obtain ⟨entries, returned⟩ := returns.mpr allAccepted
    rw [thrown] at returned
    cases returned
  · rintro ⟨line, member, refused⟩
    obtain ⟨failure, refuses⟩ := (load_line_refuses_iff line).mpr refused
    cases outcome : load path (.ok contents) with
    | error error => exact ⟨error, rfl⟩
    | ok entries =>
        obtain ⟨entry, loaded⟩ := returns.mp ⟨entries, outcome⟩ line member
        rw [refuses] at loaded
        cases loaded

structure ProcessInfo where
  id2controlGroup_ : AList fun _ : UInt64 => Text

inductive ProcessInfoError
  | load (error : LoadError)
  | duplicateHierarchies (path : Text) (hierarchyId : UInt64)
deriving DecidableEq

def addEntry (path : Text) (processInfo : ProcessInfo) (entry : Entry) :
    Except ProcessInfoError ProcessInfo :=
  if entry.hierarchyId ∈ processInfo.id2controlGroup_ then
    .error (.duplicateHierarchies path entry.hierarchyId)
  else
    .ok
      { id2controlGroup_ :=
          processInfo.id2controlGroup_.insert entry.hierarchyId entry.controlGroup }

def fromFile (path : Text) (file : Except Errno Text) : Except ProcessInfoError ProcessInfo :=
  match load path file with
  | .error error => .error (.load error)
  | .ok entries => entries.foldlM (addEntry path) { id2controlGroup_ := ∅ }

/-- The map holds the control groups of the entries that were added. -/
def Indexes (processInfo : ProcessInfo) (added : List Entry) : Prop :=
  ∀ id controlGroup, processInfo.id2controlGroup_.lookup id = some controlGroup ↔
    ∃ entry ∈ added, entry.hierarchyId = id ∧ entry.controlGroup = controlGroup

theorem indexed_iff_known {processInfo : ProcessInfo} {added : List Entry}
    (indexes : Indexes processInfo added) (id : UInt64) :
    id ∈ processInfo.id2controlGroup_ ↔ ∃ entry ∈ added, entry.hierarchyId = id := by
  rw [← AList.lookup_isSome, Option.isSome_iff_exists]
  constructor
  · rintro ⟨controlGroup, found⟩
    obtain ⟨entry, member, same, _⟩ := (indexes id controlGroup).mp found
    exact ⟨entry, member, same⟩
  · rintro ⟨entry, member, same⟩
    exact ⟨entry.controlGroup, (indexes id _).mpr ⟨entry, member, same, rfl⟩⟩

theorem add_entry_eq_ok {path : Text} {processInfo after : ProcessInfo} {entry : Entry} :
    addEntry path processInfo entry = .ok after ↔
      entry.hierarchyId ∉ processInfo.id2controlGroup_ ∧
        after.id2controlGroup_ =
          processInfo.id2controlGroup_.insert entry.hierarchyId entry.controlGroup := by
  unfold addEntry
  split
  next known => simp [known]
  next fresh =>
      cases after
      simp [fresh, eq_comm]

theorem add_entry_indexes {path : Text} {processInfo after : ProcessInfo} {added : List Entry}
    {entry : Entry} (indexes : Indexes processInfo added)
    (returned : addEntry path processInfo entry = .ok after) :
    Indexes after (added ++ [entry]) := by
  obtain ⟨fresh, inserted⟩ := add_entry_eq_ok.mp returned
  rw [indexed_iff_known indexes] at fresh
  intro id controlGroup
  rw [inserted, lookup_insert_eq]
  split
  next same =>
      subst same
      constructor
      · intro found
        cases found
        exact ⟨entry, by simp, rfl, rfl⟩
      · rintro ⟨other, member, sameId, sameGroup⟩
        rcases List.mem_append.mp member with inside | last
        · exact absurd ⟨other, inside, sameId⟩ fresh
        · rw [List.mem_singleton.mp last] at sameGroup
          rw [sameGroup]
  next different =>
      rw [indexes id controlGroup]
      constructor
      · rintro ⟨other, member, sameId, sameGroup⟩
        exact ⟨other, by simp [member], sameId, sameGroup⟩
      · rintro ⟨other, member, sameId, sameGroup⟩
        rcases List.mem_append.mp member with inside | last
        · exact ⟨other, inside, sameId, sameGroup⟩
        · rw [List.mem_singleton.mp last] at sameId
          exact absurd sameId.symm different

/-- The loop returns exactly when no id occurs twice, and else throws the duplicate error. -/
theorem add_entries_cases (path : Text) (entries : List Entry) :
    (((entries.map Entry.hierarchyId).Nodup ∧
      ∃ info, entries.foldlM (addEntry path) { id2controlGroup_ := ∅ } = .ok info ∧
        Indexes info entries) ∨
    (¬(entries.map Entry.hierarchyId).Nodup ∧
      ∃ id, entries.foldlM (addEntry path) { id2controlGroup_ := ∅ } =
        .error (.duplicateHierarchies path id))) := by
  have initial : Indexes { id2controlGroup_ := ∅ } [] := by simp [Indexes]
  have preserved : ∀ info before entry next, Indexes info before →
      addEntry path info entry = .ok next → Indexes next (before ++ [entry]) :=
    fun _ _ _ _ indexes returned => add_entry_indexes indexes returned
  have accepts : ∀ info before entry, Indexes info before →
      ((∃ next, addEntry path info entry = .ok next) ↔
        (fun before entry => ∀ earlier ∈ before, Entry.hierarchyId earlier ≠ entry.hierarchyId)
          before entry) := by
    intro info before entry indexes
    constructor
    · rintro ⟨next, returned⟩ earlier member same
      exact (add_entry_eq_ok.mp returned).1
        ((indexed_iff_known indexes _).mpr ⟨earlier, member, same⟩)
    · intro different
      refine ⟨_, add_entry_eq_ok.mpr ⟨?_, rfl⟩⟩
      rw [indexed_iff_known indexes]
      rintro ⟨earlier, member, same⟩
      exact different earlier member same
  have returns : (∃ info, entries.foldlM (addEntry path) { id2controlGroup_ := ∅ } = .ok info) ↔
      (entries.map Entry.hierarchyId).Nodup := by
    rw [fold_returns_iff Indexes _ preserved accepts initial, accept_all_pairwise_iff,
      List.nodup_iff_pairwise_ne, List.pairwise_map]
    simp
  by_cases distinct : (entries.map Entry.hierarchyId).Nodup
  · left
    obtain ⟨info, returned⟩ := returns.mpr distinct
    exact ⟨distinct, info, returned, fold_invariant Indexes preserved initial returned⟩
  · right
    refine ⟨distinct, ?_⟩
    cases outcome : entries.foldlM (addEntry path) { id2controlGroup_ := ∅ } with
    | ok info => exact absurd (returns.mp ⟨info, outcome⟩) distinct
    | error error =>
        have duplicate : ∃ id, error = .duplicateHierarchies path id := by
          apply fold_error Indexes (fun error => ∃ id, error = .duplicateHierarchies path id)
            preserved _ [] initial outcome
          intro info before entry error _ thrown
          unfold addEntry at thrown
          split at thrown
          · cases thrown
            exact ⟨_, rfl⟩
          · cases thrown
        obtain ⟨id, rfl⟩ := duplicate
        exact ⟨id, rfl⟩

/-- A rendered list is read back as it is, `fromFile` maps each id to its path
or reports a repeated one, and any other file is refused for a line of its own. -/
theorem load_rendered_file (path : Text) (entries : List Entry) (contents : Text)
    (wellFormed : ∀ entry ∈ entries, WellFormed entry)
    (rendered : RendersFile entries contents) :
    load path (.ok contents) = .ok entries ∧
      ((∃ id, fromFile path (.ok contents) = .error (.duplicateHierarchies path id)) ↔
        ¬(entries.map Entry.hierarchyId).Nodup) ∧
      ((entries.map Entry.hierarchyId).Nodup →
        ∃ info, fromFile path (.ok contents) = .ok info ∧ Indexes info entries) ∧
      ∀ file, (∃ error, load path (.ok file) = .error error) ↔
        ∃ line ∈ lines newline file,
          line.count colon < 2 ∨ lexicalCastSize (firstField line) = none := by
  obtain ⟨texts, each, joined⟩ := rendered
  have loaded : load path (.ok contents) = .ok entries := by
    simpa [load, rendered_lines wellFormed each joined] using
      load_rendered path wellFormed each []
  refine ⟨loaded, ?_, ?_, load_throws_iff path⟩
  · simp only [fromFile, loaded]
    rcases add_entries_cases path entries with ⟨distinct, info, returned, _⟩ | ⟨repeated, thrown⟩
    · simp [distinct, returned]
    · simp [repeated, thrown]
  · intro distinct
    simp only [fromFile, loaded]
    rcases add_entries_cases path entries with ⟨_, returned⟩ | ⟨repeated, _⟩
    · exact returned
    · exact absurd distinct repeated

def twoEntries : List Entry :=
  [{ hierarchyId := 2, subsystems := {ascii "cpu", ascii "cpuacct"}, controlGroup := ascii "/" },
    { hierarchyId := 7, subsystems := {ascii "freezer"}, controlGroup := ascii "/a:b::c" }]

def twoLines : Text :=
  ascii "2:cpuacct,cpu:/" ++ newline :: ascii "7:freezer:/a:b::c"

theorem load_rendered_file_two_entries :
    load (ascii "cgroup") (.ok twoLines) = .ok twoEntries ∧
      ∃ info, fromFile (ascii "cgroup") (.ok twoLines) = .ok info ∧ Indexes info twoEntries := by
  have wellFormed : ∀ entry ∈ twoEntries, WellFormed entry := by
    intro entry member
    simp only [twoEntries, List.mem_cons, List.not_mem_nil, or_false] at member
    rcases member with rfl | rfl
    · exact ⟨by decide, by decide, by decide⟩
    · exact ⟨by decide, by decide, by decide⟩
  have rendered : RendersFile twoEntries twoLines := by
    refine ⟨[ascii "2:cpuacct,cpu:/", ascii "7:freezer:/a:b::c"], ?_, .inr rfl⟩
    refine .cons ⟨[ascii "cpuacct", ascii "cpu"], by decide, by decide, rfl⟩ (.cons ?_ .nil)
    exact ⟨[ascii "freezer"], by decide, by decide, rfl⟩
  have laws := load_rendered_file (ascii "cgroup") twoEntries twoLines wellFormed rendered
  exact ⟨laws.1, laws.2.2.1 (by decide)⟩

end ContestSystem.Cgroup.ProcPidCgroup
