import ContestSystem.Cgroup.FieldPathCache

/-!
# Field lookups and the order of the members

`fieldPath__` goes on to the next member only where the one before it has nothing
under the name of the field. A member that has a directory there, or anything but
a regular file, ends the search, so what a lookup gives may depend on the order in
which the members are iterated.
-/

namespace ContestSystem.Cgroup.FieldLookup

open ContestSystem.Lib.Unordered
open ControlGroup (isFieldName)
open MultipleControlGroup FieldPathCache

set_option autoImplicit false

variable {Pointer : Type} (location : Pointer → Location) (types : Path → FileType)
  (fieldName : String)

/-- The directories while every status can be read. -/
def readable : Contents := fun path => .ok (types path)

def HasField (cgroup : Pointer) : Prop :=
  types (memberPath location fieldName cgroup) = .regularFile

def Lacks (cgroup : Pointer) : Prop :=
  types (memberPath location fieldName cgroup) = .fileNotFound

/-- A directory or another file that is not regular. -/
def HasOther (cgroup : Pointer) : Prop :=
  ¬HasField location types fieldName cgroup ∧ ¬Lacks location types fieldName cgroup

def Returns (group : MultipleControlGroup Pointer) : Prop :=
  ∃ path after, fieldPath location (readable types) fieldName group = .ok path after

def ThrowsMissing (group : MultipleControlGroup Pointer) : Prop :=
  ∃ failure after, fieldPath location (readable types) fieldName group = .error failure after ∧
    failure.kind = .controlGroupFieldDoesNotExist

/-- The group has these members in some order and has not looked for the field. -/
structure Uncached (members : AList fun _ : Nat => Pointer) (group : MultipleControlGroup Pointer) :
    Prop where
  members : group.id2cgroup_.entries.Perm members.entries
  cache : group.fieldName2path_.lookup fieldName = none

/-- What is expected of a lookup, whatever the iteration order is. -/
structure LookupComplete (members : AList fun _ : Nat => Pointer) : Prop where
  returns : ∀ group, Uncached fieldName members group →
    (Returns location types fieldName group ↔
      ∃ member ∈ members.entries, HasField location types fieldName member.2)
  missing : ∀ group, Uncached fieldName members group →
    (ThrowsMissing location types fieldName group ↔
      ∀ member ∈ members.entries, Lacks location types fieldName member.2)
  sameEnd : ∀ first second, Uncached fieldName members first → Uncached fieldName members second →
    (Returns location types fieldName first ↔ Returns location types fieldName second)

section First

variable {location types fieldName} {members : AList fun _ : Nat => Pointer}
  {group : MultipleControlGroup Pointer}

def present (location : Pointer → Location) (types : Path → FileType) (fieldName : String)
    (member : (_ : Nat) × Pointer) : Bool :=
  types (memberPath location fieldName member.2) ≠ .fileNotFound

theorem present_iff {member : (_ : Nat) × Pointer} :
    present location types fieldName member = true ↔
      ¬Lacks location types fieldName member.2 := by
  rw [present, decide_eq_true_iff, Lacks]

theorem search_first (entries : List ((_ : Nat) × Pointer)) :
    search location (readable types) fieldName entries =
      match entries.find? (present location types fieldName) with
      | none => .error { kind := .controlGroupFieldDoesNotExist, fieldName := some fieldName }
      | some member =>
          checked (readable types) fieldName (memberPath location fieldName member.2) := by
  induction entries with
  | nil => rfl
  | cons member entries ih =>
      rw [search, ih, List.find?_cons]
      cases type : types (memberPath location fieldName member.2) with
      | fileNotFound => simp [checked, readable, present, type]
      | regularFile => simp [checked, readable, present, type]
      | directoryFile => simp [checked, readable, present, type]
      | other => simp [checked, readable, present, type]

theorem checked_cases (member : (_ : Nat) × Pointer)
    (occupied : present location types fieldName member = true) :
    (HasField location types fieldName member.2 ∧
      checked (readable types) fieldName (memberPath location fieldName member.2) =
        .ok (memberPath location fieldName member.2)) ∨
    (HasOther location types fieldName member.2 ∧ ∃ failure,
      checked (readable types) fieldName (memberPath location fieldName member.2) =
        .error failure ∧ failure.kind = .controlGroupInvalidFieldFile) := by
  unfold HasOther HasField Lacks
  cases type : types (memberPath location fieldName member.2) with
  | fileNotFound => simp [present, type] at occupied
  | regularFile => simp [checked, readable, type]
  | directoryFile => simp [checked, readable, type]
  | other => simp [checked, readable, type]

theorem is_field_name (slashFree : '/' ∉ fieldName.toList) : isFieldName fieldName = true := by
  simp [isFieldName, slashFree]

variable (location types) in
theorem lookup_cases (slashFree : '/' ∉ fieldName.toList)
    (uncached : group.fieldName2path_.lookup fieldName = none) :
    match group.id2cgroup_.entries.find? (present location types fieldName) with
    | none =>
        ¬Returns location types fieldName group ∧ ThrowsMissing location types fieldName group
    | some member =>
        ¬ThrowsMissing location types fieldName group ∧
          (Returns location types fieldName group ↔
            HasField location types fieldName member.2) := by
  have answered : fieldPath location (readable types) fieldName group = _ :=
    field_path_uncached (is_field_name slashFree) uncached
  rw [search_first] at answered
  unfold Returns ThrowsMissing
  rw [answered]
  cases first : group.id2cgroup_.entries.find? (present location types fieldName) with
  | none => simp
  | some member =>
      rcases checked_cases member (List.find?_some first) with
        ⟨regular, same⟩ | ⟨other, failure, same, invalid⟩
      · simp [same, regular]
      · simp [same, invalid, other.1]

theorem find_none_iff (members : AList fun _ : Nat => Pointer)
    (same : group.id2cgroup_.entries.Perm members.entries) :
    group.id2cgroup_.entries.find? (present location types fieldName) = none ↔
      ∀ member ∈ members.entries, Lacks location types fieldName member.2 := by
  rw [List.find?_eq_none]
  constructor
  · intro none member inside
    by_contra occupied
    exact none member (same.mem_iff.mpr inside) (present_iff.mpr occupied)
  · intro all member inside occupied
    exact present_iff.mp occupied (all member (same.mem_iff.mp inside))

/-- The error says that no member has any entry of the name, in every order. -/
theorem missing_iff (slashFree : '/' ∉ fieldName.toList)
    (uncached : Uncached fieldName members group) :
    ThrowsMissing location types fieldName group ↔
      ∀ member ∈ members.entries, Lacks location types fieldName member.2 := by
  rw [← find_none_iff members uncached.members]
  have cases := lookup_cases location types slashFree uncached.cache
  cases first : group.id2cgroup_.entries.find? (present location types fieldName) with
  | none =>
      rw [first] at cases
      exact iff_of_true cases.2 rfl
  | some member =>
      rw [first] at cases
      exact iff_of_false cases.1 nofun

theorem returns_of_no_other (slashFree : '/' ∉ fieldName.toList)
    (uncached : Uncached fieldName members group)
    (none : ∀ member ∈ members.entries, ¬HasOther location types fieldName member.2) :
    Returns location types fieldName group ↔
      ∃ member ∈ members.entries, HasField location types fieldName member.2 := by
  have cases := lookup_cases location types slashFree uncached.cache
  cases first : group.id2cgroup_.entries.find? (present location types fieldName) with
  | none =>
      rw [first] at cases
      have lack := (find_none_iff members uncached.members).mp first
      apply iff_of_false cases.1
      rintro ⟨member, inside, regular⟩
      have absent := lack member inside
      rw [Lacks, regular] at absent
      cases absent
  | some member =>
      rw [first] at cases
      have inside := uncached.members.mem_iff.mp (List.mem_of_find?_eq_some first)
      have regular : HasField location types fieldName member.2 := by
        by_contra other
        exact none member inside ⟨other, present_iff.mp (List.find?_some first)⟩
      exact iff_of_true (cases.2.mpr regular) ⟨member, inside, regular⟩

theorem returns_of_no_field (slashFree : '/' ∉ fieldName.toList)
    (uncached : Uncached fieldName members group)
    (none : ∀ member ∈ members.entries, ¬HasField location types fieldName member.2) :
    ¬Returns location types fieldName group := by
  have cases := lookup_cases location types slashFree uncached.cache
  cases first : group.id2cgroup_.entries.find? (present location types fieldName) with
  | none =>
      rw [first] at cases
      exact cases.1
  | some member =>
      rw [first] at cases
      have inside := uncached.members.mem_iff.mp (List.mem_of_find?_eq_some first)
      exact fun returned => none member inside (cases.2.mp returned)

variable (fieldName) in
theorem exists_order {member : (_ : Nat) × Pointer} (inside : member ∈ members.entries) :
    ∃ group, Uncached fieldName members group ∧ group.id2cgroup_.entries.head? = some member := by
  obtain ⟨before, after, split⟩ := List.append_of_mem inside
  have moved : (member :: (before ++ after)).Perm members.entries := by
    rw [split]
    exact List.perm_middle.symm
  have keys : (member :: (before ++ after)).NodupKeys :=
    (List.perm_nodupKeys moved).mpr members.nodupKeys
  exact ⟨{ id2cgroup_ := ⟨member :: (before ++ after), keys⟩, fieldName2path_ := ∅ },
    ⟨moved, AList.lookup_empty fieldName⟩, rfl⟩

end First

/-- Lookups are complete exactly where no two members disagree about the name, one
with a field and the other with something else. -/
theorem lookup_complete_iff (slashFree : '/' ∉ fieldName.toList)
    (members : AList fun _ : Nat => Pointer) :
    LookupComplete location types fieldName members ↔
      (∀ member ∈ members.entries, ¬HasField location types fieldName member.2) ∨
        ∀ member ∈ members.entries, ¬HasOther location types fieldName member.2 := by
  constructor
  · intro complete
    by_cases field : ∃ member ∈ members.entries, HasField location types fieldName member.2
    · right
      intro other inside occupied
      obtain ⟨group, uncached, starts⟩ := exists_order fieldName inside
      have returned := (complete.returns group uncached).mpr field
      have cases := lookup_cases location types slashFree uncached.cache
      obtain ⟨rest, entries⟩ := List.head?_eq_some_iff.mp starts
      rw [entries, List.find?_cons_of_pos (present_iff.mpr occupied.2)] at cases
      exact occupied.1 (cases.2.mp returned)
    · left
      intro member inside regular
      exact field ⟨member, inside, regular⟩
  · intro agree
    have returns : ∀ group, Uncached fieldName members group →
        (Returns location types fieldName group ↔
          ∃ member ∈ members.entries, HasField location types fieldName member.2) := by
      intro group uncached
      rcases agree with noField | noOther
      · apply iff_of_false (returns_of_no_field slashFree uncached noField)
        rintro ⟨member, inside, field⟩
        exact noField member inside field
      · exact returns_of_no_other slashFree uncached noOther
    refine ⟨returns, fun group uncached => missing_iff slashFree uncached, ?_⟩
    intro first second firstUncached secondUncached
    rw [returns first firstUncached, returns second secondUncached]

def onlyField : Path → FileType := fun path =>
  if path = ⟨memoryGroup, [limit]⟩ then .regularFile else .fileNotFound

def fieldAndChild : Path → FileType := fun path =>
  if path = ⟨accountingGroup, [limit]⟩ then .directoryFile else onlyField path

def bothGroups : AList fun _ : Nat => Location :=
  ((∅ : AList fun _ : Nat => Location).insert 5 memoryGroup).insert 3 accountingGroup

theorem lookup_complete_only_field : LookupComplete id onlyField limit bothGroups := by
  apply (lookup_complete_iff id onlyField limit (by decide) bothGroups).mpr
  right
  intro member inside other
  have entries : bothGroups.entries = [⟨3, accountingGroup⟩, ⟨5, memoryGroup⟩] := rfl
  rw [entries, List.mem_cons, List.mem_singleton] at inside
  rcases inside with rfl | rfl
  · exact other.2 rfl
  · exact other.1 rfl

/-- The memory group is not asked when the accounting group is iterated first. -/
theorem child_ends_search : ¬LookupComplete id fieldAndChild limit bothGroups := by
  intro complete
  let group : MultipleControlGroup Location := { id2cgroup_ := bothGroups, fieldName2path_ := ∅ }
  have uncached : Uncached limit bothGroups group := ⟨List.Perm.refl _, rfl⟩
  have field : HasField id fieldAndChild limit memoryGroup := rfl
  have entries : bothGroups.entries = [⟨3, accountingGroup⟩, ⟨5, memoryGroup⟩] := rfl
  obtain ⟨path, after, returned⟩ :=
    (complete.returns group uncached).mpr ⟨⟨5, memoryGroup⟩, by simp [entries], field⟩
  cases returned

end ContestSystem.Cgroup.FieldLookup
