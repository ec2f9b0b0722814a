import ContestSystem.Cgroup.Registry

/-!
# What constructors ask the kernel

Apart from a successful `mkdir` and from the removals in destructors, the
library only consults the kernel: it looks at files, reads and writes the
cpuset fields and has calls of `mkdir` fail. `Asked` relates the kernel states
before and after any number of such calls. The constructors are then equal to
their kernel calls followed by a record known in advance.
-/

namespace ContestSystem.Cgroup.Construction

open ContestSystem.Lib.Throwing
open SingleControlGroup ControlGroup Registry

set_option autoImplicit false

variable {σ : Type}

inductive Consulted (kernel : Kernel σ) : σ → σ → Prop
  | statusRead (path : Path) (state after : σ) (type : FileType) :
      kernel.symlinkStatus path state = .ok type after → Consulted kernel state after
  | statusFailed (path : Path) (state after : σ) (code : Errno) :
      kernel.symlinkStatus path state = .error code after → Consulted kernel state after
  | directoryRead (path : Path) (state after : σ) (answer : Bool) :
      kernel.isDirectory path state = .ok answer after → Consulted kernel state after
  | directoryFailed (path : Path) (state after : σ) (code : Errno) :
      kernel.isDirectory path state = .error code after → Consulted kernel state after
  | fieldRead (path : Path) (state after : σ) (data : String) :
      kernel.read path state = .ok data after → Consulted kernel state after
  | fieldReadFailed (path : Path) (state after : σ) (code : Errno) :
      kernel.read path state = .error code after → Consulted kernel state after
  | cpuSetWritten (location : Location) (field data : String) (state after : σ) :
      kernel.write ⟨location, fieldEntries (CpuSet.fieldName field)⟩ data state = .ok () after →
        Consulted kernel state after
  | cpuSetWriteFailed (location : Location) (field data : String) (state after : σ)
      (code : Errno) :
      kernel.write ⟨location, fieldEntries (CpuSet.fieldName field)⟩ data state =
        .error code after → Consulted kernel state after
  | mkdirFailed (location : Location) (mode : Mode) (state after : σ) (code : Errno) :
      kernel.mkdir location mode state = .error code after → Consulted kernel state after

abbrev Asked (kernel : Kernel σ) : σ → σ → Prop := Relation.ReflTransGen (Consulted kernel)

/-- The failures that are not defects of the library itself. -/
def External (failure : Failure) : Prop :=
  match failure.kind with
  | .assertion _ => False
  | .dangling => False
  | _ => True

section Asked

variable (kernel : Kernel σ)

abbrev AskedWithin {ε α : Type} (Allowed : ε → Prop) (call : EStateM ε σ α) : Prop :=
  Within (Asked kernel) Allowed call

theorem asked_pure {α : Type} (value : α) :
    AskedWithin kernel External (pure value : EStateM Failure σ α) :=
  within_pure (fun _ => .refl) value

theorem asked_throw {α : Type} {failure : Failure} (external : External failure) :
    AskedWithin kernel External (throw failure : EStateM Failure σ α) :=
  within_throw (fun _ => .refl) external

theorem asked_bind {α β : Type} {call : EStateM Failure σ α} {next : α → EStateM Failure σ β}
    (head : AskedWithin kernel External call)
    (tail : ∀ value, AskedWithin kernel External (next value)) :
    AskedWithin kernel External (call >>= next) :=
  within_bind (fun _ _ _ => Relation.ReflTransGen.trans) head tail

theorem asked_symlink_status (path : Path) {wrap : Errno → Failure}
    (external : ∀ code, External (wrap code)) :
    AskedWithin kernel External (EStateM.adaptExcept wrap (kernel.symlinkStatus path)) :=
  within_adapt (fun code (_ : True) => external code)
    ⟨fun state type after answered => .single (.statusRead path state after type answered),
      fun state code after failed => ⟨.single (.statusFailed path state after code failed), trivial⟩⟩

theorem asked_is_directory (path : Path) {wrap : Errno → Failure}
    (external : ∀ code, External (wrap code)) :
    AskedWithin kernel External (EStateM.adaptExcept wrap (kernel.isDirectory path)) :=
  within_adapt (fun code (_ : True) => external code)
    ⟨fun state answer after answered =>
        .single (.directoryRead path state after answer answered),
      fun state code after failed =>
        ⟨.single (.directoryFailed path state after code failed), trivial⟩⟩

theorem asked_read (path : Path) {wrap : Errno → Failure}
    (external : ∀ code, External (wrap code)) :
    AskedWithin kernel External (EStateM.adaptExcept wrap (kernel.read path)) :=
  within_adapt (fun code (_ : True) => external code)
    ⟨fun state data after answered => .single (.fieldRead path state after data answered),
      fun state code after failed =>
        ⟨.single (.fieldReadFailed path state after code failed), trivial⟩⟩

theorem asked_check_status (location : Location) :
    AskedWithin kernel External (checkStatus kernel location) := by
  refine asked_bind kernel (asked_symlink_status kernel _ fun _ => trivial) ?_
  intro type
  cases type with
  | fileNotFound => exact asked_pure kernel _
  | regularFile => exact asked_throw kernel trivial
  | directoryFile => exact asked_pure kernel _
  | other => exact asked_throw kernel trivial

theorem asked_adapt {α : Type} {adapt : Failure → Failure}
    (sameKind : ∀ failure, (adapt failure).kind = failure.kind)
    {call : EStateM Failure σ α} (inside : AskedWithin kernel External call) :
    AskedWithin kernel External (EStateM.adaptExcept adapt call) := by
  refine within_adapt ?_ inside
  intro failure external
  simpa only [External, sameKind] using external

theorem asked_field_path (location : Location) (fieldName : String) :
    AskedWithin kernel External
      (fieldPath kernel.symlinkStatus (singleFieldPath location) fieldName) := by
  unfold fieldPath
  split
  · refine asked_bind kernel (asked_pure kernel _) fun path => ?_
    refine asked_bind kernel (asked_adapt kernel ?_ ?_) fun _ => asked_pure kernel path
    · exact fun _ => rfl
    refine asked_bind kernel (asked_symlink_status kernel path fun _ => trivial) ?_
    intro type
    cases type with
    | regularFile => exact asked_pure kernel _
    | fileNotFound => exact asked_throw kernel trivial
    | directoryFile => exact asked_throw kernel trivial
    | other => exact asked_throw kernel trivial
  · exact asked_throw kernel trivial

theorem field_path_eq_ok {location : Location} {fieldName : String} {path : Path}
    {state after : σ}
    (found : fieldPath kernel.symlinkStatus (singleFieldPath location) fieldName state =
      .ok path after) : path = ⟨location, fieldEntries fieldName⟩ := by
  unfold fieldPath at found
  split at found
  · obtain ⟨hypothetical, middle, computed, rest⟩ := bind_eq_ok.mp found
    obtain ⟨_, _, _, returned⟩ := bind_eq_ok.mp rest
    cases computed
    cases returned
    rfl
  · cases found

theorem asked_read_field (location : Location) (fieldName : String) :
    AskedWithin kernel External (readField kernel location fieldName) :=
  asked_bind kernel (asked_field_path kernel location fieldName) fun path =>
    asked_read kernel path fun _ => trivial

theorem asked_write_cpu_set (location : Location) (field data : String) :
    AskedWithin kernel External
      (writeField kernel location (CpuSet.fieldName field) data) := by
  have path := asked_field_path kernel location (CpuSet.fieldName field)
  constructor
  · intro state _ after returned
    obtain ⟨fpath, middle, found, written⟩ := bind_eq_ok.mp returned
    have located := field_path_eq_ok kernel found
    subst located
    exact (path.returned _ _ _ found).tail
      (.cpuSetWritten location field data middle after (adapt_eq_ok.mp written))
  · intro state failure after thrown
    rcases bind_eq_error.mp thrown with failed | ⟨fpath, middle, found, refused⟩
    · exact path.thrown _ _ _ failed
    · have located := field_path_eq_ok kernel found
      subst located
      obtain ⟨code, failed, rfl⟩ := adapt_eq_error.mp refused
      exact ⟨(path.returned _ _ _ found).tail
        (.cpuSetWriteFailed location field data middle after code failed), trivial⟩

theorem asked_attached_body (hierarchyId : Nat) (group : SingleControlGroup) :
    AskedWithin kernel External (attachedBody kernel hierarchyId group) := by
  refine asked_adapt kernel ?_ ?_
  · exact fun _ => rfl
  refine asked_bind kernel (asked_is_directory kernel _ ?_) ?_
  · exact fun _ => trivial
  intro answer
  cases answer with
  | false => exact asked_throw kernel trivial
  | true => exact asked_pure kernel _

theorem asked_construct (kind : Kind) (systemInfo : SystemInfoPointer) (hierarchyId : Nat)
    {controlGroup : ControlGroupPath} {parent : Option (ObjectId × ControlGroupPath)}
    (fitting : fits controlGroup parent = true) :
    AskedWithin kernel External
      (construct kernel kind systemInfo hierarchyId controlGroup parent) := by
  unfold construct
  split
  · exact asked_throw kernel trivial
  · rw [if_pos fitting]
    split
    · exact asked_throw kernel trivial
    · refine asked_bind kernel (asked_adapt kernel ?_ ?_) fun _ => asked_pure kernel _
      · exact fun _ => rfl
      · exact asked_check_status kernel _

theorem asked_root_group (instance_ : SystemInfoPointer) (hierarchyId : Nat) :
    AskedWithin kernel External (rootGroup kernel instance_ hierarchyId) :=
  asked_bind kernel (asked_construct kernel _ _ _ rfl) fun _ =>
    asked_bind kernel (asked_attached_body kernel _ _) fun _ => asked_pure kernel _

theorem asked_inherit_if_empty {value rootValue : EStateM Failure σ String}
    {setValue : String → EStateM Failure σ Unit} (read : AskedWithin kernel External value)
    (rootRead : AskedWithin kernel External rootValue)
    (written : ∀ data, AskedWithin kernel External (setValue data)) :
    AskedWithin kernel External (inheritIfEmpty value rootValue setValue) := by
  refine asked_bind kernel read fun current => ?_
  split
  · exact asked_bind kernel rootRead written
  · exact asked_pure kernel _

theorem asked_set_up_cpu_set (instance_ : SystemInfoPointer) (cgroup : SingleControlGroup) :
    AskedWithin kernel External (setUpCpuSet kernel instance_ cgroup) := by
  unfold setUpCpuSet
  split
  · refine asked_bind kernel (asked_root_group kernel _ _) fun root_ => ?_
    refine asked_bind kernel ?_ fun _ => ?_
    · exact asked_inherit_if_empty kernel (asked_read_field kernel _ _)
        (asked_read_field kernel _ _) (asked_write_cpu_set kernel _ "mems")
    · exact asked_inherit_if_empty kernel (asked_read_field kernel _ _)
        (asked_read_field kernel _ _) (asked_write_cpu_set kernel _ "cpus")
  · exact asked_pure kernel _

theorem created_body_eq_ok {hierarchyId : Nat} {mode : Mode} {group : SingleControlGroup}
    {state after : σ}
    (created : createdBody kernel hierarchyId mode group state = .ok () after) :
    kernel.mkdir group.location_ mode state = .ok () after := by
  obtain ⟨answer, middle, called, checked⟩ := bind_eq_ok.mp (adapt_eq_ok.mp created)
  unfold createDirectory at called
  split at called
  next made =>
      cases called
      cases checked
      exact made
  next =>
      split at called
      · cases called
        cases checked
      · cases called

theorem created_body_eq_error {hierarchyId : Nat} {mode : Mode} {group : SingleControlGroup}
    {state after : σ} {failure : Failure}
    (refused : createdBody kernel hierarchyId mode group state = .error failure after) :
    Asked kernel state after ∧ External failure := by
  obtain ⟨original, failed, rfl⟩ := adapt_eq_error.mp refused
  unfold createDirectory at failed
  rcases bind_eq_error.mp failed with raised | ⟨answer, middle, called, checked⟩
  · split at raised
    next => cases raised
    next code _ refusedAt =>
        split at raised
        · cases raised
        · cases raised
          exact ⟨.single (.mkdirFailed _ mode state after code refusedAt), trivial⟩
  · split at called
    next =>
        cases called
        cases checked
    next code _ refusedAt =>
        split at called
        · cases called
          cases checked
          exact ⟨.single (.mkdirFailed _ mode state _ code refusedAt), trivial⟩
        · cases called

end Asked

def childOf (kind : Kind) (self : ObjectId) (above : SingleControlGroup) (name : Component) :
    SingleControlGroup :=
  { kind := kind
    systemInfo_ := above.systemInfo_
    hierarchyInfo_ := above.hierarchyInfo_
    controlGroup_ := above.controlGroup_ ++ [name]
    parent_ := some self
    children_ := ∅
    location_ := { above.location_ with controlGroup := above.controlGroup_ ++ [name] }
    references := 0 }

theorem wired_child {above : SingleControlGroup} (wired : Wired above) (kind : Kind)
    (self : ObjectId) {name : Component} (ordinary : name.IsOrdinary) :
    Wired (childOf kind self above name) := by
  refine ⟨wired.hierarchy, wired.mounted, wired.locatedHierarchy, rfl, ?_⟩
  intro component member
  rcases List.mem_append.mp member with inside | new
  · exact wired.ordinary component inside
  · exact List.mem_singleton.mp new ▸ ordinary

theorem construct_child {above : SingleControlGroup} (wired : Wired above)
    (kernel : Kernel σ) (kind : Kind) (self : ObjectId) (name : Component) :
    construct kernel kind above.systemInfo_ above.hierarchyId (above.controlGroup_ ++ [name])
        (some (self, above.controlGroup_)) =
      (do
        (checkStatus kernel (childOf kind self above name).location_).adaptExcept
          (Failure.inControlGroup above.hierarchyId (above.controlGroup_ ++ [name])
            (childOf kind self above name).location_)
        return childOf kind self above name) := by
  have located : ({ hierarchyId := above.hierarchyInfo_.id
                    mountpoint := above.location_.mountpoint
                    controlGroup := above.controlGroup_ ++ [name] } : Location) =
      (childOf kind self above name).location_ := by
    have sameHierarchy : above.hierarchyInfo_.id = above.location_.hierarchyId :=
      wired.locatedHierarchy.symm
    simp only [childOf, sameHierarchy]
  unfold construct
  simp only [wired.hierarchy, fits, List.dropLast_concat, decide_true, if_true, wired.mounted,
    located]
  rfl

/-- What a constructed root object is. -/
structure RootObject (instance_ : SystemInfoPointer) (hierarchyId : Nat)
    (group : SingleControlGroup) : Prop where
  wired : Wired group
  kind : group.kind = .attached
  systemInfo : group.systemInfo_ = instance_
  hierarchy : group.hierarchyId = hierarchyId
  parent : group.parent_ = none
  controlGroup : group.controlGroup_ = []
  children : group.children_ = ∅

theorem root_group_eq_ok {kernel : Kernel σ} {instance_ : SystemInfoPointer}
    {hierarchyId : Nat} {group : SingleControlGroup} {state after : σ}
    (constructed : rootGroup kernel instance_ hierarchyId state = .ok group after) :
    RootObject instance_ hierarchyId group := by
  obtain ⟨candidate, middle, built, rest⟩ := bind_eq_ok.mp constructed
  obtain ⟨_, _, _, returned⟩ := bind_eq_ok.mp rest
  cases returned
  cases found : instance_.info.byHierarchyId hierarchyId with
  | error error =>
      rw [construct, found] at built
      cases built
  | ok hierarchyInfo =>
      have sameId : hierarchyInfo.id = hierarchyId :=
        instance_.keyed hierarchyId hierarchyInfo (SystemInfo.by_hierarchy_id_eq_ok.mp found)
      rw [construct, found] at built
      simp only [fits, decide_true, if_true] at built
      cases mounted : hierarchyInfo.mountpoint with
      | none =>
          rw [mounted] at built
          cases built
      | some mountpoint =>
          rw [mounted] at built
          obtain ⟨_, _, _, record⟩ := bind_eq_ok.mp built
          cases record
          refine ⟨⟨?_, mounted, rfl, rfl, by simp⟩, rfl, rfl, sameId, rfl, rfl, rfl⟩
          simpa only [SingleControlGroup.hierarchyId, sameId] using found

end ContestSystem.Cgroup.Construction
