import ContestSystem.Cgroup.MultipleControlGroup
import ContestSystem.Lib.Run

/-!
# The members and the field cache of a group of several hierarchies

Every mutator empties the cache before it looks at the members, whether it then
succeeds or throws, so a cached path always belongs to a current member. A
lookup agrees with a search by an empty cache as long as nothing changes under
the name of the field in the directories of the members.
-/

namespace ContestSystem.Cgroup.FieldPathCache

open ContestSystem.Lib.Throwing ContestSystem.Lib.Unordered ContestSystem.Lib.Run
open ControlGroup (checkField singleFieldPath isFieldName fieldEntries)
open MultipleControlGroup

set_option autoImplicit false

variable {Pointer : Type} {hierarchyId : Pointer → Nat} {location : Pointer → Location}

def checked (contents : Contents) (fieldName : String) (path : Path) : Except Failure Path :=
  let refuse := fun kind =>
    Except.error { kind := kind, fieldName := some fieldName, fieldPath := some path }
  match contents path with
  | .ok .regularFile => .ok path
  | .ok .fileNotFound => refuse .controlGroupFieldDoesNotExist
  | .ok .directoryFile => refuse .controlGroupInvalidFieldFile
  | .ok .other => refuse .controlGroupInvalidFieldFile
  | .error code => refuse (.filesystem code)

def memberPath (location : Pointer → Location) (fieldName : String) (cgroup : Pointer) : Path :=
  { location := location cgroup, entries := fieldEntries fieldName }

/-- The first member in iteration order whose directory has anything under the
name of the field decides. -/
def search (location : Pointer → Location) (contents : Contents) (fieldName : String) :
    List ((_ : Nat) × Pointer) → Except Failure Path
  | [] => .error { kind := .controlGroupFieldDoesNotExist, fieldName := some fieldName }
  | id_cgroup :: rest =>
      match checked contents fieldName (memberPath location fieldName id_cgroup.2) with
      | .ok path => .ok path
      | .error failure =>
          if failure.kind = .controlGroupFieldDoesNotExist then
            search location contents fieldName rest
          else .error failure

section Equations

variable {contents : Contents} {fieldName : String}

theorem checked_eq_ok {path found : Path} :
    checked contents fieldName path = .ok found ↔
      contents path = .ok .regularFile ∧ found = path := by
  unfold checked
  cases contents path with
  | error code => simp
  | ok type => cases type <;> simp [eq_comm]

theorem checked_congr {contents' : Contents} {path : Path}
    (same : contents' path = contents path) :
    checked contents' fieldName path = checked contents fieldName path := by
  simp only [checked, same]

theorem check_field_apply {State : Type} (path : Path) (state : State) :
    (do
        (checkField contents.symlinkStatus path).adaptExcept fun failure =>
          { failure with fieldName := some fieldName, fieldPath := some path }
        return path : EStateM Failure State Path) state =
      match checked contents fieldName path with
      | .ok found => .ok found state
      | .error failure => .error failure state := by
  simp only [checkField, checked, Contents.symlinkStatus, bind, EStateM.bind, EStateM.adaptExcept]
  cases contents path with
  | error code => rfl
  | ok type => cases type <;> rfl

theorem control_group_field_path_apply {State : Type}
    (fieldPath__ : String → EStateM Failure State Path) (valid : isFieldName fieldName = true)
    (state : State) :
    ControlGroup.fieldPath contents.symlinkStatus fieldPath__ fieldName state =
      match fieldPath__ fieldName state with
      | .ok path after =>
          match checked contents fieldName path with
          | .ok found => .ok found after
          | .error failure => .error failure after
      | .error failure after => .error failure after := by
  unfold ControlGroup.fieldPath
  rw [if_pos valid]
  change EStateM.bind (fieldPath__ fieldName) _ state = _
  unfold EStateM.bind
  cases fieldPath__ fieldName state with
  | ok path after => exact check_field_apply path after
  | error failure after => rfl

theorem search_field_apply (valid : isFieldName fieldName = true)
    (entries : List ((_ : Nat) × Pointer)) (group : MultipleControlGroup Pointer) :
    searchField location contents fieldName entries group =
      match search location contents fieldName entries with
      | .ok path =>
          .ok path { group with fieldName2path_ := group.fieldName2path_.insert fieldName path }
      | .error failure => .error failure group := by
  induction entries with
  | nil => rfl
  | cons id_cgroup entries ih =>
      have member : ControlGroup.fieldPath contents.symlinkStatus
          (singleFieldPath (location id_cgroup.2)) fieldName group = _ :=
        control_group_field_path_apply (singleFieldPath (location id_cgroup.2)) valid group
      have named : singleFieldPath (location id_cgroup.2) fieldName group =
          .ok (memberPath location fieldName id_cgroup.2) group := rfl
      rw [named] at member
      rw [searchField, try_catch_apply]
      simp only [bind, EStateM.bind, search, member]
      cases checked contents fieldName (memberPath location fieldName id_cgroup.2) with
      | ok path => rfl
      | error failure =>
          simp only
          split
          · exact ih
          · rfl

theorem search_eq_ok {entries : List ((_ : Nat) × Pointer)} {path : Path}
    (found : search location contents fieldName entries = .ok path) :
    contents path = .ok .regularFile ∧
      ∃ id_cgroup ∈ entries, path = memberPath location fieldName id_cgroup.2 := by
  induction entries with
  | nil => cases found
  | cons id_cgroup entries ih =>
      rw [search] at found
      split at found
      next other checkedAt =>
          cases found
          rcases checked_eq_ok.mp checkedAt with ⟨regular, same⟩
          exact ⟨same ▸ regular, id_cgroup, List.mem_cons_self, same⟩
      next failure _ =>
          split at found
          next =>
              rcases ih found with ⟨regular, member, inside, same⟩
              exact ⟨regular, member, List.mem_cons_of_mem _ inside, same⟩
          next => cases found

theorem search_congr {contents' : Contents} {entries : List ((_ : Nat) × Pointer)}
    (same : ∀ id_cgroup ∈ entries, contents' (memberPath location fieldName id_cgroup.2) =
      contents (memberPath location fieldName id_cgroup.2)) :
    search location contents' fieldName entries = search location contents fieldName entries := by
  induction entries with
  | nil => rfl
  | cons id_cgroup entries ih =>
      have here := same id_cgroup List.mem_cons_self
      have rest := ih fun other inside => same other (List.mem_cons_of_mem _ inside)
      rw [search, search, checked_congr here, rest]

theorem field_path_invalid (invalid : isFieldName fieldName = false)
    (group : MultipleControlGroup Pointer) :
    fieldPath location contents fieldName group =
      .error { kind := .controlGroupInvalidFieldName, fieldName := some fieldName } group := by
  unfold fieldPath ControlGroup.fieldPath
  rw [invalid]
  rfl

theorem field_path_cached (valid : isFieldName fieldName = true)
    {group : MultipleControlGroup Pointer} {path : Path}
    (cached : group.fieldName2path_.lookup fieldName = some path) :
    fieldPath location contents fieldName group =
      match checked contents fieldName path with
      | .ok found => .ok found group
      | .error failure => .error failure group := by
  have answered : fieldPath__ location contents fieldName group = .ok path group := by
    simp only [fieldPath__, bind, EStateM.bind, get_apply, cached]
    rfl
  rw [fieldPath, control_group_field_path_apply _ valid, answered]

/-- The second check repeats the one that the search made. -/
theorem field_path_uncached (valid : isFieldName fieldName = true)
    {group : MultipleControlGroup Pointer}
    (uncached : group.fieldName2path_.lookup fieldName = none) :
    fieldPath location contents fieldName group =
      match search location contents fieldName group.id2cgroup_.entries with
      | .ok path =>
          .ok path { group with fieldName2path_ := group.fieldName2path_.insert fieldName path }
      | .error failure => .error failure group := by
  have answered : fieldPath__ location contents fieldName group =
      searchField location contents fieldName group.id2cgroup_.entries group := by
    simp only [fieldPath__, bind, EStateM.bind, get_apply, uncached]
  rw [fieldPath, control_group_field_path_apply _ valid, answered, search_field_apply valid]
  cases found : search location contents fieldName group.id2cgroup_.entries with
  | error failure => rfl
  | ok path =>
      have regular : checked contents fieldName path = .ok path :=
        checked_eq_ok.mpr ⟨(search_eq_ok found).1, rfl⟩
      simp only [regular]

end Equations

section Mutators

variable {group after : MultipleControlGroup Pointer} {failure : Failure}

def uncached (group : MultipleControlGroup Pointer) : MultipleControlGroup Pointer :=
  { group with fieldName2path_ := ∅ }

theorem add_eq (rehash : Rehash Pointer) (cgroup : Pointer)
    (group : MultipleControlGroup Pointer) :
    add hierarchyId rehash cgroup group =
      if (group.id2cgroup_.lookup (hierarchyId cgroup)).isSome then
        .error
          { kind := .multipleControlGroupHierarchyConflict
            hierarchyId := some (hierarchyId cgroup) } (uncached group)
      else
        .ok ()
          { id2cgroup_ := rehash.arrange (group.id2cgroup_.insert (hierarchyId cgroup) cgroup)
            fieldName2path_ := ∅ } := by
  simp only [add, clearCache, bind, EStateM.bind, modify_apply, get_apply]
  split <;> rfl

theorem replace_eq (cgroup : Pointer) (group : MultipleControlGroup Pointer) :
    replace hierarchyId cgroup group =
      match group.id2cgroup_.lookup (hierarchyId cgroup) with
      | none =>
          .error
            { kind := .multipleControlGroupHierarchyNotFound
              hierarchyId := some (hierarchyId cgroup) } (uncached group)
      | some ret =>
          .ok ret
            { id2cgroup_ := group.id2cgroup_.replace (hierarchyId cgroup) cgroup
              fieldName2path_ := ∅ } := by
  simp only [replace, clearCache, bind, EStateM.bind, modify_apply, get_apply]
  cases group.id2cgroup_.lookup (hierarchyId cgroup) <;> rfl

theorem remove_eq (id : Nat) (group : MultipleControlGroup Pointer) :
    remove id group =
      match group.id2cgroup_.lookup id with
      | none =>
          .error
            { kind := .multipleControlGroupHierarchyNotFound
              hierarchyId := some id } (uncached group)
      | some ret =>
          .ok ret { id2cgroup_ := group.id2cgroup_.erase id, fieldName2path_ := ∅ } := by
  simp only [remove, clearCache, bind, EStateM.bind, modify_apply, get_apply]
  cases group.id2cgroup_.lookup id <;> rfl

end Mutators

inductive Action (Pointer : Type)
  | add (rehash : Rehash Pointer) (cgroup : Pointer)
  | replace (cgroup : Pointer)
  | remove (id : Nat)
  | find (id : Nat)
  | fieldPath (contents : Contents) (fieldName : String)

/-- A call leaves its object as it was when the call returned or threw. -/
def settled {Value : Type} :
    EStateM.Result Failure (MultipleControlGroup Pointer) Value → MultipleControlGroup Pointer
  | .ok _ after => after
  | .error _ after => after

def step (hierarchyId : Pointer → Nat) (location : Pointer → Location)
    (group : MultipleControlGroup Pointer) : Action Pointer → Option (MultipleControlGroup Pointer)
  | .add rehash cgroup => some (settled (add hierarchyId rehash cgroup group))
  | .replace cgroup => some (settled (replace hierarchyId cgroup group))
  | .remove id => some (settled (remove id group))
  | .find id => some (settled (find id group))
  | .fieldPath contents fieldName => some (settled (fieldPath location contents fieldName group))

/-- Members are stored under their hierarchy, and cached paths lie in a member's directory. -/
structure Coherent (hierarchyId : Pointer → Nat) (location : Pointer → Location)
    (group : MultipleControlGroup Pointer) : Prop where
  keyed : ∀ id cgroup, group.id2cgroup_.lookup id = some cgroup → hierarchyId cgroup = id
  cached : ∀ fieldName path, group.fieldName2path_.lookup fieldName = some path →
    ∃ id cgroup, group.id2cgroup_.lookup id = some cgroup ∧
      path = memberPath location fieldName cgroup

/-- A lookup changes nothing, or caches what the search found. -/
inductive Looked (location : Pointer → Location) (contents : Contents) (fieldName : String)
    (group : MultipleControlGroup Pointer) : MultipleControlGroup Pointer → Prop
  | same : Looked location contents fieldName group group
  | filled (path : Path) (uncachedAt : group.fieldName2path_.lookup fieldName = none)
      (found : search location contents fieldName group.id2cgroup_.entries = .ok path) :
      Looked location contents fieldName group
        { group with fieldName2path_ := group.fieldName2path_.insert fieldName path }

section Steps

variable {group next : MultipleControlGroup Pointer}

theorem field_path_looked (contents : Contents) (fieldName : String)
    (group : MultipleControlGroup Pointer) :
    Looked location contents fieldName group
      (settled (fieldPath location contents fieldName group)) := by
  cases valid : isFieldName fieldName with
  | false =>
      rw [field_path_invalid valid]
      exact .same
  | true =>
      cases cachedAt : group.fieldName2path_.lookup fieldName with
      | some path =>
          rw [field_path_cached valid cachedAt]
          cases checked contents fieldName path with
          | ok found => exact .same
          | error failure => exact .same
      | none =>
          rw [field_path_uncached valid cachedAt]
          cases found : search location contents fieldName group.id2cgroup_.entries with
          | ok path => exact .filled path cachedAt found
          | error failure => exact .same

theorem step_cases {action : Action Pointer}
    (stepped : step hierarchyId location group action = some next) :
    (next = group) ∨
    (∃ id2cgroup_, next = { id2cgroup_ := id2cgroup_, fieldName2path_ := ∅ } ∧
      ∀ id cgroup, id2cgroup_.lookup id = some cgroup →
        group.id2cgroup_.lookup id = some cgroup ∨ hierarchyId cgroup = id) ∨
    (∃ contents fieldName, action = .fieldPath contents fieldName ∧
      Looked location contents fieldName group next) := by
  cases action with
  | add rehash cgroup =>
      cases stepped
      right
      left
      rw [add_eq]
      split
      · exact ⟨_, rfl, fun _ _ listed => .inl listed⟩
      · refine ⟨_, rfl, ?_⟩
        intro id other listed
        rw [AList.perm_lookup (rehash.perm _), lookup_insert_eq] at listed
        split at listed
        next same =>
            cases listed
            exact .inr same.symm
        next => exact .inl listed
  | replace cgroup =>
      cases stepped
      right
      left
      rw [replace_eq]
      split
      next => exact ⟨_, rfl, fun _ _ listed => .inl listed⟩
      next ret _ =>
          refine ⟨_, rfl, ?_⟩
          intro id other listed
          rw [lookup_replace_eq] at listed
          split at listed
          next same =>
              rcases Option.map_eq_some_iff.mp listed with ⟨_, _, same'⟩
              rw [← same', same]
              exact .inr rfl
          next => exact .inl listed
  | remove id =>
      cases stepped
      right
      left
      rw [remove_eq]
      split
      next => exact ⟨_, rfl, fun _ _ listed => .inl listed⟩
      next ret _ =>
          refine ⟨_, rfl, ?_⟩
          intro other cgroup listed
          rw [lookup_erase_eq] at listed
          split at listed
          next => cases listed
          next => exact .inl listed
  | find id =>
      cases stepped
      exact .inl rfl
  | fieldPath contents fieldName =>
      cases stepped
      exact .inr (.inr ⟨contents, fieldName, rfl, field_path_looked contents fieldName group⟩)

theorem search_member {contents : Contents} {fieldName : String} {path : Path}
    (found : search location contents fieldName group.id2cgroup_.entries = .ok path) :
    ∃ id cgroup, group.id2cgroup_.lookup id = some cgroup ∧
      path = memberPath location fieldName cgroup := by
  rcases (search_eq_ok found).2 with ⟨id_cgroup, member, same⟩
  exact ⟨id_cgroup.1, id_cgroup.2, AList.mem_lookup_iff.mpr member, same⟩

theorem step_coherent (coherent : Coherent hierarchyId location group)
    {action : Action Pointer} (stepped : step hierarchyId location group action = some next) :
    Coherent hierarchyId location next := by
  rcases step_cases stepped with same | ⟨id2cgroup_, same, listed⟩ |
    ⟨contents, fieldName, _, looked⟩
  · rw [same]
    exact coherent
  · rw [same]
    constructor
    · intro id cgroup found
      rcases listed id cgroup found with before | keyed
      · exact coherent.keyed id cgroup before
      · exact keyed
    · intro fieldName path cachedAt
      cases cachedAt
  · cases looked with
    | same => exact coherent
    | filled path uncachedAt found =>
        constructor
        · exact coherent.keyed
        · intro name other cachedAt
          change (group.fieldName2path_.insert fieldName path).lookup name = some other at cachedAt
          rw [lookup_insert_eq] at cachedAt
          split at cachedAt
          next same =>
              cases cachedAt
              rw [same]
              exact search_member found
          next => exact coherent.cached name other cachedAt

theorem run_coherent {actions : List (Action Pointer)}
    (executed : run (step hierarchyId location) (empty Pointer) actions = some group) :
    Coherent hierarchyId location group := by
  apply run_invariant (Coherent hierarchyId location) _ _ executed
  · intro group action next coherent stepped
    exact step_coherent coherent stepped
  · constructor
    · intro id cgroup found
      cases found
    · intro fieldName path cachedAt
      cases cachedAt

/-- A lookup of the name finds in the members' directories what `contents` has there. -/
def StatusAsIn (location : Pointer → Location) (contents : Contents) (fieldName : String)
    (group : MultipleControlGroup Pointer) (action : Action Pointer) : Prop :=
  ∀ before, action = .fieldPath before fieldName →
    ∀ id cgroup, group.id2cgroup_.lookup id = some cgroup →
      before (memberPath location fieldName cgroup) =
        contents (memberPath location fieldName cgroup)

/-- A cached path is what the search would find. -/
def CachedAsSearched (location : Pointer → Location) (contents : Contents) (fieldName : String)
    (group : MultipleControlGroup Pointer) : Prop :=
  ∀ path, group.fieldName2path_.lookup fieldName = some path →
    search location contents fieldName group.id2cgroup_.entries = .ok path

theorem step_as_searched {contents : Contents} {fieldName : String}
    (searched : CachedAsSearched location contents fieldName group) {action : Action Pointer}
    (steady : StatusAsIn location contents fieldName group action)
    (stepped : step hierarchyId location group action = some next) :
    CachedAsSearched location contents fieldName next := by
  rcases step_cases stepped with same | ⟨id2cgroup_, same, _⟩ | ⟨before, name, isLookup, looked⟩
  · rw [same]
    exact searched
  · rw [same]
    intro path cachedAt
    cases cachedAt
  · cases looked with
    | same => exact searched
    | filled path uncachedAt found =>
        intro other cachedAt
        change (group.fieldName2path_.insert name path).lookup fieldName = some other at cachedAt
        rw [lookup_insert_eq] at cachedAt
        split at cachedAt
        next same =>
            cases cachedAt
            subst same
            rw [← found]
            apply Eq.symm
            apply search_congr
            intro id_cgroup member
            exact steady before isLookup id_cgroup.1 id_cgroup.2 (AList.mem_lookup_iff.mpr member)
        next => exact searched other cachedAt

theorem run_as_searched {start : MultipleControlGroup Pointer} {contents : Contents}
    {fieldName : String} {actions : List (Action Pointer)}
    (uncachedAt : start.fieldName2path_.lookup fieldName = none)
    (steady : Guarded (step hierarchyId location) (StatusAsIn location contents fieldName) start
      actions)
    (executed : run (step hierarchyId location) start actions = some group) :
    CachedAsSearched location contents fieldName group := by
  apply guarded_invariant (CachedAsSearched location contents fieldName) _ _ steady executed
  · intro group action next searched guard stepped
    exact step_as_searched searched guard stepped
  · intro path cachedAt
    rw [uncachedAt] at cachedAt
    cases cachedAt

def outcome {Value : Type} :
    EStateM.Result Failure (MultipleControlGroup Pointer) Value → Except Failure Value
  | .ok value _ => .ok value
  | .error failure _ => .error failure

theorem outcome_uncached {contents : Contents} {fieldName : String}
    (searched : CachedAsSearched location contents fieldName group) :
    outcome (fieldPath location contents fieldName group) =
      outcome (fieldPath location contents fieldName (uncached group)) := by
  cases valid : isFieldName fieldName with
  | false =>
      rw [field_path_invalid valid, field_path_invalid valid]
      rfl
  | true =>
      have empty : (uncached group).fieldName2path_.lookup fieldName = none := rfl
      have members : (uncached group).id2cgroup_ = group.id2cgroup_ := rfl
      rw [field_path_uncached valid empty, members]
      cases cachedAt : group.fieldName2path_.lookup fieldName with
      | none =>
          rw [field_path_uncached valid cachedAt]
          cases search location contents fieldName group.id2cgroup_.entries <;> rfl
      | some path =>
          have found := searched path cachedAt
          have regular : checked contents fieldName path = .ok path :=
            checked_eq_ok.mpr ⟨(search_eq_ok found).1, rfl⟩
          rw [field_path_cached valid cachedAt, found, regular]
          rfl

end Steps

/-- A mutator that throws leaves the members as they were. -/
structure MembersKept (hierarchyId : Pointer → Nat) (group : MultipleControlGroup Pointer) :
    Prop where
  add : ∀ rehash cgroup failure after, add hierarchyId rehash cgroup group =
    .error failure after → after.id2cgroup_ = group.id2cgroup_
  replace : ∀ cgroup failure after, replace hierarchyId cgroup group = .error failure after →
    after.id2cgroup_ = group.id2cgroup_
  remove : ∀ id failure after, remove id group = .error failure after →
    after.id2cgroup_ = group.id2cgroup_

theorem members_kept (hierarchyId : Pointer → Nat) (group : MultipleControlGroup Pointer) :
    MembersKept hierarchyId group := by
  constructor
  · intro rehash cgroup failure after thrown
    rw [add_eq] at thrown
    split at thrown
    · cases thrown
      rfl
    · cases thrown
  · intro cgroup failure after thrown
    rw [replace_eq] at thrown
    split at thrown
    next =>
        cases thrown
        rfl
    next => cases thrown
  · intro id failure after thrown
    rw [remove_eq] at thrown
    split at thrown
    next =>
        cases thrown
        rfl
    next => cases thrown

def memberLocations (location : Pointer → Location) (group : MultipleControlGroup Pointer) :
    Set Location :=
  { place | ∃ id cgroup, group.id2cgroup_.lookup id = some cgroup ∧ location cgroup = place }

/-- The directories at these locations and their entries "." and ".." are no regular files. -/
structure DirectoryEntries (locations : Set Location) (contents : Contents) : Prop where
  directory : ∀ location ∈ locations, contents ⟨location, []⟩ ≠ .ok .regularFile
  same : ∀ location ∈ locations, contents ⟨location, ["."]⟩ ≠ .ok .regularFile
  parent : ∀ location ∈ locations, contents ⟨location, [".."]⟩ ≠ .ok .regularFile

/-- A regular file directly inside the directory of a current member. -/
structure FieldOfMember (location : Pointer → Location) (contents : Contents)
    (group : MultipleControlGroup Pointer) (path : Path) : Prop where
  regular : contents path = .ok .regularFile
  inside : ∃ id cgroup entry, group.id2cgroup_.lookup id = some cgroup ∧
    path = ⟨location cgroup, [entry]⟩ ∧ '/' ∉ entry.toList ∧ entry ≠ "" ∧ entry ≠ "." ∧
      entry ≠ ".."

theorem field_entries_cases {fieldName : String} (valid : isFieldName fieldName = true) :
    fieldEntries fieldName = [] ∨
      ∃ entry, fieldEntries fieldName = [entry] ∧ '/' ∉ entry.toList ∧ entry ≠ "" := by
  have slashFree : '/' ∉ (ControlGroup.networkName fieldName.toList).getD fieldName.toList := by
    cases network : ControlGroup.networkName fieldName.toList with
    | none => simpa [isFieldName, network] using valid
    | some name =>
        have slash : '/' ∈ fieldName.toList := by
          unfold ControlGroup.networkName at network
          split at network
          next list => simp [*]
          next => cases network
        rw [isFieldName, network] at valid
        simp [slash] at valid
        simpa using valid.1
  rw [fieldEntries]
  split
  next => exact .inl rfl
  next nonempty =>
      right
      refine ⟨_, rfl, by simpa using slashFree, ?_⟩
      intro empty
      apply nonempty
      simpa using congrArg String.toList empty

theorem field_path_of_member {contents : Contents} {group : MultipleControlGroup Pointer}
    (entries : DirectoryEntries (memberLocations location group) contents)
    (coherent : Coherent hierarchyId location group)
    {fieldName : String} {path : Path} {after : MultipleControlGroup Pointer}
    (returned : fieldPath location contents fieldName group = .ok path after) :
    FieldOfMember location contents group path := by
  cases valid : isFieldName fieldName with
  | false =>
      rw [field_path_invalid valid] at returned
      cases returned
  | true =>
      have found : contents path = .ok .regularFile ∧
          ∃ id cgroup, group.id2cgroup_.lookup id = some cgroup ∧
            path = memberPath location fieldName cgroup := by
        cases cachedAt : group.fieldName2path_.lookup fieldName with
        | none =>
            rw [field_path_uncached valid cachedAt] at returned
            split at returned
            next other searched =>
                cases returned
                exact ⟨(search_eq_ok searched).1, search_member searched⟩
            next => cases returned
        | some cachedPath =>
            rw [field_path_cached valid cachedAt] at returned
            split at returned
            next other regular =>
                cases returned
                rcases checked_eq_ok.mp regular with ⟨file, same⟩
                rw [same]
                exact ⟨file, coherent.cached fieldName cachedPath cachedAt⟩
            next => cases returned
      rcases found with ⟨regular, id, cgroup, listed, located⟩
      rw [memberPath] at located
      have isMember : location cgroup ∈ memberLocations location group := ⟨id, cgroup, listed, rfl⟩
      rcases field_entries_cases valid with none | ⟨entry, one, slashFree, nonempty⟩
      · rw [located, none] at regular
        exact absurd regular (entries.directory _ isMember)
      · rw [one] at located
        refine ⟨regular, id, cgroup, entry, listed, located, slashFree, nonempty, ?_, ?_⟩
        · intro dot
          rw [located, dot] at regular
          exact entries.same _ isMember regular
        · intro dots
          rw [located, dots] at regular
          exact entries.parent _ isMember regular

/-- In every reachable state the members are keyed and the cache is coherent,
lookups lead to fields of current members, and they agree with a search while
the statuses under the field's name in the members' directories stay as they are. -/
theorem lookups_agree_with_search (hierarchyId : Pointer → Nat) (location : Pointer → Location)
    (earlier : List (Action Pointer)) (group : MultipleControlGroup Pointer)
    (executed : run (step hierarchyId location) (empty Pointer) earlier = some group) :
    Coherent hierarchyId location group ∧ MembersKept hierarchyId group ∧
      (∀ contents, DirectoryEntries (memberLocations location group) contents →
        ∀ fieldName path after,
          fieldPath location contents fieldName group = .ok path after →
            FieldOfMember location contents group path) ∧
      ∀ contents fieldName later last, group.fieldName2path_.lookup fieldName = none →
        Guarded (step hierarchyId location) (StatusAsIn location contents fieldName) group later →
        run (step hierarchyId location) group later = some last →
          outcome (fieldPath location contents fieldName last) =
            outcome (fieldPath location contents fieldName (uncached last)) := by
  have coherent := run_coherent executed
  refine ⟨coherent, members_kept hierarchyId group, ?_, ?_⟩
  · intro contents entries fieldName path after returned
    exact field_path_of_member entries coherent returned
  · intro contents fieldName later last uncachedAt steady continued
    exact outcome_uncached (run_as_searched uncachedAt steady continued)

def accountingGroup : Location :=
  { hierarchyId := 3
    mountpoint := [⟨"cpuacct", by decide⟩]
    controlGroup := [⟨"batch", by decide⟩] }

def memoryGroup : Location :=
  { hierarchyId := 5
    mountpoint := [⟨"memory", by decide⟩]
    controlGroup := [⟨"batch", by decide⟩] }

def limit : String := "memory.limit_in_bytes"

def onlyFields : Contents := fun path =>
  if path = ⟨memoryGroup, [limit]⟩ then .ok .regularFile else .ok .fileNotFound

def childNamedLikeField : Contents := fun path =>
  if path = ⟨memoryGroup, [limit]⟩ then .ok .regularFile
  else if path = ⟨accountingGroup, [limit]⟩ then .ok .directoryFile
  else .ok .fileNotFound

def twoMembers : List (Action Location) :=
  [.add (Rehash.newestFirst Location) memoryGroup, .add (Rehash.newestFirst Location) accountingGroup]

def SameFieldFiles (contents contents' : Contents) : Prop :=
  ∀ path, contents path = .ok .regularFile ↔ contents' path = .ok .regularFile

theorem same_field_files : SameFieldFiles onlyFields childNamedLikeField := by
  intro path
  unfold onlyFields childNamedLikeField
  split
  · rfl
  · split <;> simp

/-- The cache keeps returning the field's path where the search now throws. -/
theorem cache_outlives_new_directory :
    ∃ actions last, run (step Location.hierarchyId id) (empty Location) actions = some last ∧
      (∀ contents fieldName, .fieldPath contents fieldName ∈ actions →
        SameFieldFiles contents childNamedLikeField) ∧
      outcome (fieldPath id childNamedLikeField limit last) ≠
        outcome (fieldPath id childNamedLikeField limit (uncached last)) := by
  refine ⟨twoMembers ++ [.fieldPath onlyFields limit], _, rfl, ?_, ?_⟩
  · intro contents fieldName member
    simp only [twoMembers, List.cons_append, List.nil_append, List.mem_cons, reduceCtorEq,
      Action.fieldPath.injEq, List.not_mem_nil, or_false, false_or] at member
    rw [member.1]
    exact same_field_files
  · intro same
    cases same

theorem only_fields_entries (locations : Set Location) : DirectoryEntries locations onlyFields := by
  constructor <;> intro location _ <;> simp [onlyFields, limit]

theorem lookups_agree_with_search_two_members :
    ∃ group last, run (step Location.hierarchyId id) (empty Location) twoMembers = some group ∧
      run (step Location.hierarchyId id) group [.fieldPath onlyFields limit] = some last ∧
      last.fieldName2path_.lookup limit = some ⟨memoryGroup, [limit]⟩ ∧
      FieldOfMember id onlyFields group ⟨memoryGroup, [limit]⟩ ∧
      outcome (fieldPath id onlyFields limit last) =
        outcome (fieldPath id onlyFields limit (uncached last)) := by
  have general := lookups_agree_with_search Location.hierarchyId id twoMembers _ rfl
  refine ⟨_, _, rfl, rfl, rfl, ?_, ?_⟩
  · exact general.2.2.1 onlyFields (only_fields_entries _) limit _ _ rfl
  · apply general.2.2.2 onlyFields limit [.fieldPath onlyFields limit] _ rfl _ rfl
    refine ⟨?_, fun _ _ => trivial⟩
    intro before isLookup id cgroup listed
    cases isLookup
    rfl

end ContestSystem.Cgroup.FieldPathCache
