import ContestSystem.Cgroup.ClientRun
import ContestSystem.Cgroup.CpuSetTree

/-!
# Setting up a created cpuset group

`createDirectChild` gives a new group that starts without cpus or memory nodes
those of the hierarchy's root, while the kernel holds the new group to its
parent. The set-up therefore succeeds below every parent that has all the root
has, and below the others only where the kernel has filled the new group.
-/

namespace ContestSystem.Cgroup.CpuSetNesting

open ContestSystem.Lib.Run ContestSystem.Lib.Throwing ContestSystem.Lib.Unordered
open ControlGroup SingleControlGroup Registry Construction Transition Members ClientRun
open CpuSet CpuSet.Tree

set_option autoImplicit false

variable {σ : Type}

def fieldFile (location : Location) (field : ListField) : Path :=
  ⟨location, fieldEntries (CpuSet.fieldName field.name)⟩

/-- The hierarchy of the object at the mount points that the object and the
system information know. -/
def mountedAt (instance_ : SystemInfoPointer) (above : SingleControlGroup) : Set Location :=
  { location | location.hierarchyId = above.hierarchyId ∧
    (location.mountpoint = above.location_.mountpoint ∨
      ∃ hierarchyInfo, instance_.info.byHierarchyId above.hierarchyId = .ok hierarchyInfo ∧
        hierarchyInfo.mountpoint = some location.mountpoint) }

/-- How the kernel keeps the tree at the locations that are used: `parse` reads
its list format, and a list is printed as the empty text exactly where it is empty. -/
structure CpuSetLaws (kernel : Kernel σ) (used : Set Location) (tree : σ → Tree)
    (parse : String → Finset Nat) : Prop where
  status : ∀ location ∈ used, ∀ (state : σ), location.group ∈ (tree state).groups →
    kernel.symlinkStatus location.directory state = .ok .directoryFile state
  statusAbsent : ∀ location ∈ used, ∀ (state : σ), location.group ∉ (tree state).groups →
    kernel.symlinkStatus location.directory state = .ok .fileNotFound state
  isDirectory : ∀ location ∈ used, ∀ (state : σ), location.group ∈ (tree state).groups →
    kernel.isDirectory location.directory state = .ok true state
  fieldStatus : ∀ location ∈ used, ∀ (field : ListField) (state : σ),
    location.group ∈ (tree state).groups →
      kernel.symlinkStatus (fieldFile location field) state = .ok .regularFile state
  read : ∀ location ∈ used, ∀ (field : ListField) (state : σ),
    location.group ∈ (tree state).groups →
      ∃ data, kernel.read (fieldFile location field) state = .ok data state ∧
        parse data = (tree state).value location.group field ∧ (data = "" ↔ parse data = ∅)
  mkdir : ∀ location ∈ used, ∀ (above : Group) (name : Component) (mode : Mode)
    (state after : σ), location.group = above.child name → above ∈ (tree state).groups →
      kernel.mkdir location mode state = .ok () after →
        above.child name ∉ (tree state).groups ∧ tree after = (tree state).make above name
  write : ∀ location ∈ used, ∀ (above : Group) (name : Component) (field : ListField)
    (data : String) (state : σ), location.group = above.child name →
      above.child name ∈ (tree state).groups → IsLeaf (tree state) (above.child name) →
      parse data ⊆ (tree state).value above field →
        ∃ after, kernel.write (fieldFile location field) data state = .ok () after ∧
          tree after = (tree state).write (above.child name) field (parse data)
  refuse : ∀ location ∈ used, ∀ (above : Group) (name : Component) (field : ListField)
    (data : String) (state : σ), location.group = above.child name →
      above.child name ∈ (tree state).groups → ¬parse data ⊆ (tree state).value above field →
        ∃ code after, kernel.write (fieldFile location field) data state = .error code after

section Fields

variable {kernel : Kernel σ} {used : Set Location} {tree : σ → Tree}
  {parse : String → Finset Nat} {location : Location} {state : σ}

theorem list_field_name (field : ListField) : isFieldName (CpuSet.fieldName field.name) = true := by
  cases field <;> decide

theorem list_field_path (laws : CpuSetLaws kernel used tree parse) (isUsed : location ∈ used)
    (exists_ : location.group ∈ (tree state).groups) (field : ListField) :
    fieldPath kernel.symlinkStatus (singleFieldPath location) (CpuSet.fieldName field.name) state =
      .ok (fieldFile location field) state := by
  have isFile := laws.fieldStatus location isUsed field state exists_
  unfold fieldPath
  rw [if_pos (list_field_name field)]
  apply bind_eq_ok.mpr
  refine ⟨fieldFile location field, state, rfl, ?_⟩
  apply bind_eq_ok.mpr
  refine ⟨(), state, ?_, rfl⟩
  apply adapt_eq_ok.mpr
  apply bind_eq_ok.mpr
  exact ⟨.regularFile, state, adapt_eq_ok.mpr isFile, rfl⟩

theorem read_list (laws : CpuSetLaws kernel used tree parse) (isUsed : location ∈ used)
    (exists_ : location.group ∈ (tree state).groups) (field : ListField) :
    ∃ data, readField kernel location (CpuSet.fieldName field.name) state = .ok data state ∧
      parse data = (tree state).value location.group field ∧ (data = "" ↔ parse data = ∅) := by
  rcases laws.read location isUsed field state exists_ with ⟨data, answered, parsed, isEmpty⟩
  refine ⟨data, ?_, parsed, isEmpty⟩
  apply bind_eq_ok.mpr
  exact ⟨_, state, list_field_path laws isUsed exists_ field, adapt_eq_ok.mpr answered⟩

theorem write_list (laws : CpuSetLaws kernel used tree parse) (isUsed : location ∈ used)
    {above : Group} {name : Component}
    (located : location.group = above.child name)
    (exists_ : above.child name ∈ (tree state).groups)
    (leaf : IsLeaf (tree state) (above.child name)) (field : ListField) (data : String) :
    (parse data ⊆ (tree state).value above field →
      ∃ after, writeField kernel location (CpuSet.fieldName field.name) data state =
          .ok () after ∧
        tree after = (tree state).write (above.child name) field (parse data)) ∧
    (¬parse data ⊆ (tree state).value above field →
      ∃ failure after, writeField kernel location (CpuSet.fieldName field.name) data state =
        .error failure after) := by
  have found := list_field_path laws isUsed (located ▸ exists_) field
  constructor
  · intro allowed
    rcases laws.write location isUsed above name field data state located exists_ leaf allowed with
      ⟨after, written, kept⟩
    refine ⟨after, ?_, kept⟩
    apply bind_eq_ok.mpr
    exact ⟨_, state, found, adapt_eq_ok.mpr written⟩
  · intro forbidden
    rcases laws.refuse location isUsed above name field data state located exists_ forbidden with
      ⟨code, after, refused⟩
    let failure : Failure :=
      { kind := .stream code, path := some (fieldFile location field) }
    refine ⟨failure, after, ?_⟩
    apply bind_eq_error.mpr
    exact .inr ⟨_, state, found, adapt_eq_error.mpr ⟨code, refused, rfl⟩⟩

def inheritField (kernel : Kernel σ) (location root : Location) (field : ListField) :
    EStateM Failure σ Unit :=
  inheritIfEmpty (readField kernel location (CpuSet.fieldName field.name))
    (readField kernel root (CpuSet.fieldName field.name))
    (writeField kernel location (CpuSet.fieldName field.name))

theorem inherit_field_cases (laws : CpuSetLaws kernel used tree parse)
    (isUsed : location ∈ used) {above : Group} {name : Component} {root : Location}
    (rootUsed : root ∈ used) (located : location.group = above.child name)
    (rootLocated : root.group = Group.root above.hierarchyId)
    (fresh : Fresh (tree state) above name) (field : ListField) :
    (Inheritable (tree state) above name field →
      ∃ after, inheritField kernel location root field state = .ok () after ∧
        tree after = (tree state).inherit above name field) ∧
    (¬Inheritable (tree state) above name field →
      ∃ failure after, inheritField kernel location root field state = .error failure after) := by
  have rootExists : root.group ∈ (tree state).groups := by
    rw [rootLocated]
    exact root_exists fresh.nested above.hierarchyId above.controlGroup
      (fresh.nested.closed above name fresh.made)
  rcases read_list laws isUsed (located ▸ fresh.made) field with
    ⟨current, readCurrent, value, isEmpty⟩
  rcases read_list laws rootUsed rootExists field with ⟨inherited, readRoot, rootValue, _⟩
  rw [located] at value
  rw [rootLocated] at rootValue
  have written := write_list laws isUsed located fresh.made fresh.leaf field inherited
  rw [rootValue] at written
  by_cases empty : current = ""
  · have isUnset : (tree state).value (above.child name) field = ∅ := by
      rw [← value]
      exact isEmpty.mp empty
    have equation : inheritField kernel location root field state =
        writeField kernel location (CpuSet.fieldName field.name) inherited state := by
      change EStateM.bind _ _ state = _
      simp only [EStateM.bind, readCurrent, if_pos empty]
      change EStateM.bind _ _ state = _
      simp only [EStateM.bind, readRoot]
    rw [equation]
    constructor
    · intro inheritable
      rcases written.1 (inheritable.resolve_left (not_not.mpr isUnset)) with ⟨after, done, kept⟩
      refine ⟨after, done, ?_⟩
      rw [kept, inherit, if_pos isUnset]
    · intro forbidden
      exact written.2 fun allowed => forbidden (.inr allowed)
  · have isSet : (tree state).value (above.child name) field ≠ ∅ := by
      rw [← value]
      exact fun isUnset => empty (isEmpty.mpr isUnset)
    constructor
    · intro _
      refine ⟨state, ?_, ?_⟩
      · change EStateM.bind _ _ state = _
        simp only [EStateM.bind, readCurrent, if_neg empty]
        rfl
      · rw [inherit, if_neg isSet]
    · intro forbidden
      exact absurd (.inl isSet) forbidden

theorem root_group_built (laws : CpuSetLaws kernel used tree parse) {instance_ : SystemInfoPointer}
    {hierarchyId : Nat} {hierarchyInfo : HierarchyInfo} {mountpoint : Directory}
    (known : instance_.info.byHierarchyId hierarchyId = .ok hierarchyInfo)
    (mounted : hierarchyInfo.mountpoint = some mountpoint)
    (isUsed : (⟨hierarchyId, mountpoint, []⟩ : Location) ∈ used)
    (exists_ : Group.root hierarchyId ∈ (tree state).groups) :
    ∃ group, rootGroup kernel instance_ hierarchyId state = .ok group state ∧
      group.location_ = ⟨hierarchyId, mountpoint, []⟩ := by
  have sameId : hierarchyInfo.id = hierarchyId :=
    instance_.keyed hierarchyId hierarchyInfo (SystemInfo.by_hierarchy_id_eq_ok.mp known)
  subst hierarchyId
  let location : Location :=
    { hierarchyId := hierarchyInfo.id, mountpoint := mountpoint, controlGroup := [] }
  have isDirectory := laws.status location isUsed state exists_
  have present := laws.isDirectory location isUsed state exists_
  let group : SingleControlGroup :=
    { kind := .attached
      systemInfo_ := instance_
      hierarchyInfo_ := hierarchyInfo
      controlGroup_ := []
      parent_ := none
      children_ := ∅
      location_ := location
      references := 0 }
  refine ⟨group, ?_, rfl⟩
  apply bind_eq_ok.mpr
  refine ⟨group, state, ?_, ?_⟩
  · simp only [construct, known, fits, decide_true, if_true, mounted]
    apply bind_eq_ok.mpr
    refine ⟨(), state, ?_, rfl⟩
    apply adapt_eq_ok.mpr
    apply bind_eq_ok.mpr
    exact ⟨.directoryFile, state, adapt_eq_ok.mpr isDirectory, rfl⟩
  · apply bind_eq_ok.mpr
    refine ⟨(), state, ?_, rfl⟩
    apply adapt_eq_ok.mpr
    apply bind_eq_ok.mpr
    exact ⟨true, state, adapt_eq_ok.mpr present, rfl⟩

theorem set_up_cpu_set_cases (laws : CpuSetLaws kernel used tree parse) {above : Group}
    {name : Component} {instance_ : SystemInfoPointer} {hierarchyInfo : HierarchyInfo}
    {mountpoint : Directory}
    (known : instance_.info.byHierarchyId above.hierarchyId = .ok hierarchyInfo)
    (mounted : hierarchyInfo.mountpoint = some mountpoint) {cgroup : SingleControlGroup}
    (isUsed : cgroup.location_ ∈ used)
    (rootUsed : (⟨above.hierarchyId, mountpoint, []⟩ : Location) ∈ used)
    (carries : CpuSet.subsystemName ∈ cgroup.hierarchyInfo_.subsystems)
    (inHierarchy : cgroup.hierarchyId = above.hierarchyId)
    (located : cgroup.location_.group = above.child name)
    (fresh : Fresh (tree state) above name) :
    ((∀ field, Inheritable (tree state) above name field) →
      ∃ after, setUpCpuSet kernel instance_ cgroup state = .ok () after ∧
        tree after = (tree state).setUp above name) ∧
    ((¬∀ field, Inheritable (tree state) above name field) →
      ∃ failure after, setUpCpuSet kernel instance_ cgroup state = .error failure after) := by
  have rootExists := root_exists fresh.nested above.hierarchyId above.controlGroup
    (fresh.nested.closed above name fresh.made)
  rcases root_group_built laws known mounted rootUsed rootExists with ⟨root_, built, rootAt⟩
  rw [← rootAt] at rootUsed
  have rootLocated : root_.location_.group = Group.root above.hierarchyId := by rw [rootAt]; rfl
  have equation : setUpCpuSet kernel instance_ cgroup state =
      (do
        inheritField kernel cgroup.location_ root_.location_ .mems
        inheritField kernel cgroup.location_ root_.location_ .cpus : EStateM Failure σ Unit)
          state := by
    rw [setUpCpuSet, if_pos carries, inHierarchy]
    change EStateM.bind _ _ state = _
    simp only [EStateM.bind, built]
    rfl
  have mems := inherit_field_cases laws isUsed rootUsed located rootLocated fresh .mems
  rw [equation]
  by_cases memsInheritable : Inheritable (tree state) above name .mems
  · rcases mems.1 memsInheritable with ⟨middle, memsDone, memsTree⟩
    have freshMiddle : Fresh (tree middle) above name := by
      rw [memsTree]
      exact inherit_fresh fresh memsInheritable
    have cpus := inherit_field_cases laws isUsed rootUsed located rootLocated freshMiddle .cpus
    rw [memsTree, inheritable_other (tree state) above name (by decide)] at cpus
    constructor
    · intro inheritable
      rcases cpus.1 (inheritable .cpus) with ⟨after, cpusDone, cpusTree⟩
      exact ⟨after, bind_eq_ok.mpr ⟨(), middle, memsDone, cpusDone⟩, cpusTree⟩
    · intro notAll
      have cpusRefused : ¬Inheritable (tree state) above name .cpus := by
        intro cpusInheritable
        apply notAll
        intro field
        cases field with
        | cpus => exact cpusInheritable
        | mems => exact memsInheritable
      rcases cpus.2 cpusRefused with ⟨failure, after, refused⟩
      exact ⟨failure, after, bind_eq_error.mpr (.inr ⟨(), middle, memsDone, refused⟩)⟩
  · constructor
    · intro inheritable
      exact absurd (inheritable .mems) memsInheritable
    · intro _
      rcases mems.2 memsInheritable with ⟨failure, after, refused⟩
      exact ⟨failure, after, bind_eq_error.mpr (.inl refused)⟩

end Fields

section Child

variable {kernel : Kernel σ} {used : Set Location} {tree : σ → Tree}
  {parse : String → Finset Nat} {world : World σ} {held : Multiset ObjectId} {self : ObjectId}
  {above : SingleControlGroup} {name : Component} {mode : Mode}

theorem child_located (above : SingleControlGroup) (wired : Wired above) (self : ObjectId)
    (name : Component) :
    (childOf .created self above name).location_.group = above.location_.group.child name := by
  simp only [childOf, Location.group, Group.child, wired.locatedGroup]

theorem make_directory_made (laws : CpuSetLaws kernel used tree parse) {state made : σ}
    (isUsed : (childOf .created self above name).location_ ∈ used)
    (absent : (childOf .created self above name).location_.group ∉ (tree state).groups)
    (makes : kernel.mkdir (childOf .created self above name).location_ mode state =
      .ok () made) :
    makeDirectory kernel self above name mode state = .ok () made := by
  have notFound := laws.statusAbsent _ isUsed state absent
  apply bind_eq_ok.mpr
  refine ⟨(), state, ?_, ?_⟩
  · apply adapt_eq_ok.mpr
    apply bind_eq_ok.mpr
    exact ⟨.fileNotFound, state, adapt_eq_ok.mpr notFound, rfl⟩
  · apply adapt_eq_ok.mpr
    apply bind_eq_ok.mpr
    refine ⟨true, made, ?_, rfl⟩
    rw [createDirectory, makes]

/-- `createDirectChild` in a hierarchy that carries the cpuset subsystem, of a
name that no object and no group has, where `mkdir` succeeds. -/
structure FreshName (kernel : Kernel σ) (tree : σ → Tree) (world : World σ) (target : ObjectId)
    (above : SingleControlGroup) (name : Component) (mode : Mode) : Prop where
  carries : CpuSet.subsystemName ∈ above.hierarchyInfo_.subsystems
  mounted : ∃ hierarchyInfo mountpoint,
    world.instance_.info.byHierarchyId above.hierarchyId = .ok hierarchyInfo ∧
      hierarchyInfo.mountpoint = some mountpoint
  ordinary : name.IsOrdinary
  unregistered : above.children_.lookup name = none
  parent : above.location_.group ∈ (tree world.kernel).groups
  absent : above.location_.group.child name ∉ (tree world.kernel).groups
  makes : ∃ made, kernel.mkdir (childOf .created target above name).location_ mode world.kernel =
    .ok () made

/-- The call returns a child that tasks can be attached to. -/
def ReturnsUsable (kernel : Kernel σ) (tree : σ → Tree) (world : World σ) (target : ObjectId)
    (above : SingleControlGroup) (name : Component) (mode : Mode) : Prop :=
  ∃ result after child, createDirectChild kernel target name mode world = .ok result after ∧
    after.objects result = some child ∧
    child.location_.group = above.location_.group.child name ∧
    ∀ field, ((tree after.kernel).value child.location_.group field).Nonempty ∧
      (tree after.kernel).value child.location_.group field ⊆
        (tree after.kernel).value above.location_.group field

/-- The new group starts with its parent's lists, or the parent has all the root has. -/
def SetUpAllowed (tree : Tree) (parent : Group) : Prop :=
  tree.cloneChildren parent = true ∨
    ∀ field, tree.value (Group.root parent.hierarchyId) field ⊆ tree.value parent field

theorem returns_usable_iff
    (laws : CpuSetLaws kernel (mountedAt world.instance_ above) tree parse)
    (sound : ClientSound ⟨world, held⟩) (live : world.objects self = some above)
    (freshName : FreshName kernel tree world self above name mode)
    (nested : Nested (tree world.kernel))
    (filled : ∀ field, ((tree world.kernel).value above.location_.group field).Nonempty) :
    ReturnsUsable kernel tree world self above name mode ↔
      SetUpAllowed (tree world.kernel) above.location_.group := by
  have wired := sound.wired self above live
  have located := child_located above wired self name
  have inHierarchy : above.location_.group.hierarchyId = above.hierarchyId :=
    wired.locatedHierarchy
  rcases freshName.mounted with ⟨hierarchyInfo, mountpoint, known, mounted⟩
  rcases freshName.makes with ⟨made, makes⟩
  have isUsed : (childOf .created self above name).location_ ∈ mountedAt world.instance_ above :=
    ⟨inHierarchy, .inl rfl⟩
  have rootUsed : (⟨above.location_.group.hierarchyId, mountpoint, []⟩ : Location) ∈
      mountedAt world.instance_ above :=
    ⟨inHierarchy, .inr ⟨hierarchyInfo, known, mounted⟩⟩
  have treeMade := (laws.mkdir _ isUsed above.location_.group name mode world.kernel made located
    freshName.parent makes).2
  have fresh : Fresh (tree made) above.location_.group name := by
    rw [treeMade]
    exact make_fresh nested freshName.parent freshName.absent
  have carries : CpuSet.subsystemName ∈
      (childOf .created self above name).hierarchyInfo_.subsystems := freshName.carries
  have setUp := set_up_cpu_set_cases laws (inHierarchy ▸ known) mounted isUsed rootUsed carries
    inHierarchy.symm located fresh
  have selfOld := Nat.ne_of_lt (sound.bounded self above live)
  have equation := create_direct_child_make kernel wired live selfOld freshName.ordinary
    freshName.unregistered mode
  rw [make_directory_made laws isUsed (located ▸ freshName.absent) makes] at equation
  rw [SetUpAllowed, ← make_inheritable_iff (tree world.kernel) name filled, ← treeMade]
  constructor
  · intro ⟨result, after, child, returned, _⟩
    by_contra notAll
    rcases setUp.2 notAll with ⟨failure, final, refused⟩
    rw [equation] at returned
    simp only [refused] at returned
    cases returned
  · intro inheritable
    rcases setUp.1 inheritable with ⟨final, done, treeFinal⟩
    have rootFilled : ∀ field,
        ((tree made).value (Group.root above.location_.group.hierarchyId) field).Nonempty := by
      intro field
      rw [treeMade, make_value_root]
      exact (filled field).mono (value_subset_root nested _ _ freshName.parent field)
    simp only [done] at equation
    have adopted := adopt_objects (world.asked made) name live
      (rfl : (childOf .created self above name).parent_ = some self) selfOld world.fresh
    replace adopted := adopted.trans ((if_neg selfOld.symm).trans (if_pos rfl))
    refine ⟨world.fresh, _, _, equation, adopted, located, ?_⟩
    intro field
    have sameGroup : (childOf .created self above name).location_.group =
        above.location_.group.child name := located
    simp only [sameGroup, World.asked, treeFinal]
    constructor
    · exact set_up_filled above.location_.group name rootFilled field
    · exact (set_up_nested fresh inheritable).subset _ name (set_up_made fresh) field

end Child

/-- For every client, name and mode, over a kernel that keeps the nesting rule
in the hierarchy. -/
theorem created_cpu_set_usable_iff (kernel : Kernel σ) (tree : σ → Tree)
    (parse : String → Finset Nat) (instance_ : SystemInfoPointer) (state : σ)
    (actions : List (Action σ)) (client : Client σ)
    (executed : run (step kernel) (start instance_ state) actions = some client)
    (target : ObjectId) (above : SingleControlGroup) (name : Component) (mode : Mode)
    (live : client.world.objects target = some above)
    (laws : CpuSetLaws kernel (mountedAt client.world.instance_ above) tree parse)
    (freshName : FreshName kernel tree client.world target above name mode)
    (nested : Nested (tree client.world.kernel))
    (filled : ∀ field, ((tree client.world.kernel).value above.location_.group field).Nonempty) :
    ReturnsUsable kernel tree client.world target above name mode ↔
      SetUpAllowed (tree client.world.kernel) above.location_.group :=
  returns_usable_iff laws (run_sound executed) live freshName nested filled

def ENOENT : Errno := 2

def EACCES : Errno := 13

def digits (text : String) : Finset Nat :=
  ((text.toList.filter Char.isDigit).map fun digit => digit.toNat - 48).toFinset

structure ListText where
  text : String
  printed : text = "" ↔ digits text = ∅

def ListText.empty : ListText := ⟨"", by decide⟩

def ListText.ofText (data : String) : ListText :=
  if isEmpty : digits data = ∅ then .empty
  else ⟨data, by
    constructor
    · intro same
      rw [same] at isEmpty
      exact absurd (by decide) isEmpty
    · exact fun none => absurd none isEmpty⟩

theorem digits_empty : digits ListText.empty.text = ∅ := by decide

theorem digits_of_text (data : String) : digits (ListText.ofText data).text = digits data := by
  unfold ListText.ofText
  split
  next isEmpty => rw [isEmpty, digits_empty]
  next => rfl

structure CpuSetFiles where
  groups : List Group
  text : Group → ListField → ListText
  cloneChildren : Group → Bool

namespace CpuSetFiles

def tree (files : CpuSetFiles) : Tree where
  groups := { group | group ∈ files.groups }
  value group field := digits (files.text group field).text
  cloneChildren := files.cloneChildren

end CpuSetFiles

def parentGroup (group : Group) : Group :=
  { group with controlGroup := group.controlGroup.dropLast }

theorem child_of_parent {group : Group} (below : group.controlGroup ≠ []) :
    (parentGroup group).child (group.controlGroup.getLast below) = group := by
  simp only [parentGroup, Group.child, List.dropLast_append_getLast]

@[simp] theorem parent_of_child (above : Group) (name : Component) :
    parentGroup (above.child name) = above := by
  simp [parentGroup, Group.child]

def listField (entries : List String) : Option ListField :=
  if entries = ["cpuset.cpus"] then some .cpus
  else if entries = ["cpuset.mems"] then some .mems
  else none

def cpuSetKernel : Kernel CpuSetFiles where
  symlinkStatus path := fun files =>
    if path.location.group ∈ files.groups then
      if path.entries = [] then .ok .directoryFile files
      else if (listField path.entries).isSome then .ok .regularFile files
      else .ok .fileNotFound files
    else .ok .fileNotFound files
  isDirectory path := fun files =>
    .ok (path.entries = [] ∧ path.location.group ∈ files.groups) files
  mkdir location _ := fun files =>
    let group := location.group
    if group ∈ files.groups then .error EEXIST files
    else if parentGroup group ∈ files.groups then
      .ok ()
        { groups := group :: files.groups
          text := Function.update files.text group
            (if files.cloneChildren (parentGroup group) then files.text (parentGroup group)
              else fun _ => .empty)
          cloneChildren := Function.update files.cloneChildren group
            (files.cloneChildren (parentGroup group)) }
    else .error ENOENT files
  remove location := fun files =>
    if ∃ group ∈ files.groups, group.StrictlyBelow location.group then .error ENOTEMPTY files
    else .ok (location.group ∈ files.groups)
      { files with groups := files.groups.filter (· ≠ location.group) }
  read path := fun files =>
    match listField path.entries with
    | none => .error ENOENT files
    | some field => .ok (files.text path.location.group field).text files
  write path data := fun files =>
    match listField path.entries with
    | none => .error ENOENT files
    | some field =>
        let group := path.location.group
        if digits data ⊆ digits (files.text (parentGroup group) field).text ∧
            ∀ other ∈ files.groups, other.controlGroup ≠ [] → parentGroup other = group →
              digits (files.text other field).text ⊆ digits data then
          .ok ()
            { files with
              text := Function.update files.text group
                (Function.update (files.text group) field (.ofText data)) }
        else .error EACCES files

theorem list_field_file (location : Location) (field : ListField) :
    listField (fieldFile location field).entries = some field := by
  change listField (fieldEntries (CpuSet.fieldName field.name)) = some field
  cases field <;> decide

theorem cpu_set_kernel_laws (used : Set Location) :
    CpuSetLaws cpuSetKernel used CpuSetFiles.tree digits := by
  constructor
  · intro location _ files exists_
    have isThere : location.group ∈ files.groups := exists_
    simp [cpuSetKernel, Location.directory, isThere]
  · intro location _ files absent
    have isAbsent : location.group ∉ files.groups := absent
    simp [cpuSetKernel, Location.directory, isAbsent]
  · intro location _ files exists_
    have isThere : location.group ∈ files.groups := exists_
    simp [cpuSetKernel, Location.directory, isThere]
  · intro location _ field files exists_
    have isThere : location.group ∈ files.groups := exists_
    have isField := list_field_file location field
    have notDirectory : (fieldFile location field).entries ≠ [] := by
      intro empty
      rw [empty] at isField
      cases isField
    have sameLocation : (fieldFile location field).location = location := rfl
    simp [cpuSetKernel, sameLocation, isThere, isField, notDirectory]
  · intro location _ field files exists_
    refine ⟨(files.text location.group field).text, ?_, rfl, (files.text _ field).printed⟩
    simp only [cpuSetKernel, list_field_file]
    rfl
  · intro location _ above name mode files after located exists_ made
    simp only [cpuSetKernel, located, parent_of_child] at made
    split at made
    next => cases made
    next absent =>
        split at made
        next =>
            cases made
            refine ⟨absent, ?_⟩
            have groups : ({ group | group ∈ above.child name :: files.groups } : Set Group) =
                insert (above.child name) { group | group ∈ files.groups } := by
              ext group
              simp
            simp only [CpuSetFiles.tree, Tree.make, groups, Tree.mk.injEq, true_and, and_true]
            funext group field
            by_cases isNew : group = above.child name
            · rw [isNew, Function.update_self, Function.update_self, Tree.initial]
              by_cases clones : files.cloneChildren above = true
              · simp only [clones, if_true]
              · simp only [clones, Bool.false_eq_true, if_false, digits_empty]
            · rw [Function.update_of_ne isNew, Function.update_of_ne isNew]
        next => cases made
  · intro location _ above name field data files located exists_ leaf allowed
    have childless : ∀ other ∈ files.groups, other.controlGroup ≠ [] →
        parentGroup other = above.child name →
          digits (files.text other field).text ⊆ digits data := by
      intro other inside below isChild
      rw [← child_of_parent below, isChild] at inside
      exact absurd inside (leaf _)
    have within : digits data ⊆ digits (files.text above field).text := allowed
    have sameLocation : (fieldFile location field).location = location := rfl
    simp only [cpuSetKernel, list_field_file, sameLocation, located, parent_of_child]
    rw [if_pos ⟨within, childless⟩]
    refine ⟨_, rfl, ?_⟩
    simp only [CpuSetFiles.tree, Tree.write, Tree.mk.injEq, true_and, and_true]
    funext group probe
    by_cases sameGroup : group = above.child name
    · by_cases sameField : probe = field
      · simp [sameGroup, sameField, digits_of_text]
      · simp [sameGroup, sameField]
    · simp [sameGroup]
  · intro location _ above name field data files located _ forbidden
    have outside : ¬digits data ⊆ digits (files.text above field).text := forbidden
    have sameLocation : (fieldFile location field).location = location := rfl
    simp only [cpuSetKernel, list_field_file, sameLocation, located, parent_of_child]
    rw [if_neg fun both => outside both.1]
    exact ⟨_, _, rfl⟩

def cpuSetHierarchy : HierarchyInfo :=
  { id := 5, subsystems := ["cpuset"], mountpoint := some [⟨"cpuset", by decide⟩] }

def cpuSetSystem : SystemInfoPointer where
  info :=
    { id2hierarchy_ := AList.insert 5 cpuSetHierarchy ∅
      mountpoint2id_ := AList.insert [⟨"cpuset", by decide⟩] 5 ∅
      subsystem2id_ := AList.insert "cpuset" 5 ∅ }
  keyed := by
    intro id hierarchyInfo found
    rw [lookup_insert_eq] at found
    split at found
    next same =>
        cases found
        exact same.symm
    next => cases found

/-- The root has the cpus 0 and 2, its group "/jobs" has cpu 0 only, and new
groups start empty. -/
def restricted : CpuSetFiles where
  groups := [⟨5, [jobs]⟩, ⟨5, []⟩]
  text group field :=
    if group = ⟨5, [jobs]⟩ then .ofText "0"
    else if group = ⟨5, []⟩ then
      match field with
      | .cpus => .ofText "0,2"
      | .mems => .ofText "0"
    else .empty
  cloneChildren _ := false

def attachJobs : List (Action CpuSetFiles) := [.root 5, .attachChild 0 (.relative [jobs])]

theorem restricted_child {above : Group} {name : Component}
    (inside : above.child name ∈ restricted.groups) : above = Group.root 5 ∧ name = jobs := by
  have either : above.child name = ⟨5, [jobs]⟩ ∨ above.child name = ⟨5, []⟩ := by
    simpa [restricted] using inside
  rcases either with isJobs | isRoot
  · have same : above.child name = (Group.root 5).child jobs := isJobs
    exact child_injective same
  · exact absurd isRoot (child_ne_root above name 5)

theorem restricted_nested : Nested restricted.tree := by
  constructor
  · intro above name inside
    have exists_ : Group.root 5 ∈ restricted.groups := by decide
    rw [(restricted_child inside).1]
    exact exists_
  · intro above name inside field
    rcases restricted_child inside with ⟨isRoot, isJobs⟩
    rw [isRoot, isJobs]
    cases field <;> decide

theorem restricted_filled (group : Group) (exists_ : group ∈ restricted.groups)
    (field : ListField) : (restricted.tree.value group field).Nonempty := by
  have either : group = ⟨5, [jobs]⟩ ∨ group = ⟨5, []⟩ := by simpa [restricted] using exists_
  rcases either with same | same <;> rw [same] <;> cases field <;> decide

/-- What the run leaves: the root is object 0 and "/jobs" is object 1. -/
structure JobsAttached (client : Client CpuSetFiles) (target : ObjectId) (group : Group)
    (above : SingleControlGroup) : Prop where
  live : client.world.objects target = some above
  located : above.location_.group = group
  files : client.world.kernel = restricted
  freshName : FreshName cpuSetKernel CpuSetFiles.tree client.world target above task 0o755

theorem jobs_attached {client : Client CpuSetFiles}
    (executed : run (step cpuSetKernel) (start cpuSetSystem restricted) attachJobs =
      some client) :
    (∃ above, JobsAttached client 0 ⟨5, []⟩ above) ∧
      ∃ above, JobsAttached client 1 ⟨5, [jobs]⟩ above := by
  cases executed
  have absent : (⟨5, [task]⟩ : Group) ∉ restricted.groups := by decide
  have absentBelow : (⟨5, [jobs, task]⟩ : Group) ∉ restricted.groups := by decide
  have root : (⟨5, []⟩ : Group) ∈ restricted.groups := by decide
  have parent : (⟨5, [jobs]⟩ : Group) ∈ restricted.groups := by decide
  constructor
  · refine ⟨_, rfl, rfl, rfl, ?_⟩
    constructor
    · decide
    · exact ⟨cpuSetHierarchy, _, rfl, rfl⟩
    · decide
    · rfl
    · exact root
    · exact absent
    · exact ⟨_, rfl⟩
  · refine ⟨_, rfl, rfl, rfl, ?_⟩
    constructor
    · decide
    · exact ⟨cpuSetHierarchy, _, rfl, rfl⟩
    · decide
    · rfl
    · exact parent
    · exact absentBelow
    · exact ⟨_, rfl⟩

/-- Below the root a new group can be set up, below "/jobs" it cannot. -/
theorem created_cpu_set_usable_below_root :
    ∃ client root above,
      run (step cpuSetKernel) (start cpuSetSystem restricted) attachJobs = some client ∧
      client.world.objects 0 = some root ∧ client.world.objects 1 = some above ∧
      ReturnsUsable cpuSetKernel CpuSetFiles.tree client.world 0 root task 0o755 ∧
      ¬ReturnsUsable cpuSetKernel CpuSetFiles.tree client.world 1 above task 0o755 := by
  cases executed : run (step cpuSetKernel) (start cpuSetSystem restricted) attachJobs with
  | none => cases executed
  | some client =>
      rcases jobs_attached executed with ⟨⟨root, rootAttached⟩, above, attached⟩
      have filled : ∀ group ∈ restricted.groups, ∀ field,
          ((CpuSetFiles.tree client.world.kernel).value group field).Nonempty := by
        rw [rootAttached.files]
        exact restricted_filled
      have nested : Nested (CpuSetFiles.tree client.world.kernel) := by
        rw [rootAttached.files]
        exact restricted_nested
      have general := created_cpu_set_usable_iff cpuSetKernel CpuSetFiles.tree digits
        cpuSetSystem restricted attachJobs client executed
      refine ⟨client, root, above, rfl, rootAttached.live, attached.live, ?_, ?_⟩
      · apply (general 0 root task 0o755 rootAttached.live (cpu_set_kernel_laws _)
          rootAttached.freshName nested
          (by rw [rootAttached.located]; exact filled _ (by decide))).mpr
        rw [rootAttached.files, rootAttached.located]
        exact .inr fun field => Finset.Subset.refl _
      · intro usable
        have allowed := (general 1 above task 0o755 attached.live (cpu_set_kernel_laws _)
          attached.freshName nested
          (by rw [attached.located]; exact filled _ (by decide))).mp usable
        rw [attached.files, attached.located] at allowed
        rcases allowed with clones | within
        · exact absurd clones (by decide)
        · exact absurd (within .cpus) (by decide)

def outcome (result : EStateM.Result Failure (World CpuSetFiles) ObjectId) :
    Option FailureKind × List Group :=
  match result with
  | .ok _ after => (none, after.kernel.groups)
  | .error failure after => (some failure.kind, after.kernel.groups)

/-- "/jobs" has a cpu and a memory node, and yet no group can be created in it:
the kernel refuses the root's cpus, and the new directory is removed again. -/
theorem restricted_parent_refuses_children :
    ∃ client above,
      run (step cpuSetKernel) (start cpuSetSystem restricted) attachJobs = some client ∧
      client.world.objects 1 = some above ∧
      FreshName cpuSetKernel CpuSetFiles.tree client.world 1 above task 0o755 ∧
      CpuSetLaws cpuSetKernel Set.univ CpuSetFiles.tree digits ∧
      Nested (CpuSetFiles.tree client.world.kernel) ∧
      (∀ field,
        ((CpuSetFiles.tree client.world.kernel).value above.location_.group field).Nonempty) ∧
      outcome (createDirectChild cpuSetKernel 1 task 0o755 client.world) =
        (some (.stream EACCES), client.world.kernel.groups) := by
  cases executed : run (step cpuSetKernel) (start cpuSetSystem restricted) attachJobs with
  | none => cases executed
  | some client =>
      rcases jobs_attached executed with ⟨_, above, attached⟩
      have outcomes : (run (step cpuSetKernel) (start cpuSetSystem restricted) attachJobs).map
          (fun client => outcome (createDirectChild cpuSetKernel 1 task 0o755 client.world)) =
          some (some (.stream EACCES), restricted.groups) := by
        decide +kernel
      rw [executed] at outcomes
      refine ⟨client, above, rfl, attached.live, attached.freshName, cpu_set_kernel_laws _, ?_,
        ?_, ?_⟩
      · rw [attached.files]
        exact restricted_nested
      · rw [attached.files, attached.located]
        exact restricted_filled _ (by decide)
      · rw [attached.files]
        exact Option.some.inj outcomes

end ContestSystem.Cgroup.CpuSetNesting
