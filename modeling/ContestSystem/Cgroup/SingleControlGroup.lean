import Mathlib.Data.Finmap
import ContestSystem.Cgroup.CpuSet

/-!
# Objects for single control groups

A `SingleControlGroup` is reference counted, holds a strong pointer to its
parent and is listed in the parent's `children_` by a raw pointer, which only
its destructor removes. The objects live in a heap; an `intrusive_ptr` is the
identifier of its object, and every copy of it is counted in the object. An
exception unwinds the scopes it leaves, in the order the source declares them.
-/

namespace ContestSystem.Cgroup

open ContestSystem.Lib.Throwing

set_option autoImplicit false

/-- The address of an object. Addresses are not used again. -/
abbrev ObjectId := Nat

inductive Kind
  | attached
  | created
deriving DecidableEq

structure SingleControlGroup where
  kind : Kind
  systemInfo_ : SystemInfoPointer
  hierarchyInfo_ : HierarchyInfo
  controlGroup_ : ControlGroupPath
  parent_ : Option ObjectId
  children_ : Finmap fun _ : Component => ObjectId
  location_ : Location
  references : Nat

namespace SingleControlGroup

def hierarchyId (group : SingleControlGroup) : Nat := group.hierarchyInfo_.id

/-- `controlGroup_.filename()`; "/" has no component and its object no parent. -/
def filename (group : SingleControlGroup) : Option Component := group.controlGroup_.getLast?

end SingleControlGroup

/-- Constructions of objects and attempts to remove the directory of a created one. -/
inductive Event
  | constructed (object : ObjectId) (kind : Kind) (parent : Option ObjectId)
      (location : Location)
  | removal (object : ObjectId) (location : Location) (answer : Except Errno Bool)

/-- `journal` observes the events, the newest first; no function reads it. -/
structure World (σ : Type) where
  objects : ObjectId → Option SingleControlGroup
  fresh : ObjectId
  instance_ : SystemInfoPointer
  kernel : σ
  journal : List Event

abbrev Call (σ α : Type) := EStateM Failure (World σ) α

variable {σ α : Type}

namespace World

def modify (world : World σ) (id : ObjectId)
    (change : SingleControlGroup → SingleControlGroup) : World σ :=
  { world with objects := Function.update world.objects id ((world.objects id).map change) }

def retain (world : World σ) (id : ObjectId) : World σ :=
  world.modify id fun group => { group with references := group.references + 1 }

/-- Stores a constructed object, whose `parent_` counts, behind a first pointer. -/
def insert (world : World σ) (group : SingleControlGroup) : World σ :=
  let counted := match group.parent_ with
    | none => world
    | some parent => world.retain parent
  { counted with
    objects := Function.update counted.objects world.fresh (some { group with references := 1 })
    fresh := world.fresh + 1
    journal :=
      .constructed world.fresh group.kind group.parent_ group.location_ :: world.journal }

end World

namespace SingleControlGroup

variable (kernel : Kernel σ)

def consult (call : EStateM Failure σ α) : Call σ α := fun world =>
  match call world.kernel with
  | .ok value after => .ok value { world with kernel := after }
  | .error failure after => .error failure { world with kernel := after }

def deref (id : ObjectId) : Call σ SingleControlGroup := fun world =>
  match world.objects id with
  | some group => .ok group world
  | none => .error { kind := .dangling } world

def pointer (id : ObjectId) : Call σ ObjectId := do
  let _ ← deref id
  modify fun world => world.retain id
  return id

def checkStatus (location : Location) : EStateM Failure σ Unit := do
  match ← (kernel.symlinkStatus location.directory).adaptExcept
      fun code => { kind := .filesystem code } with
  | .fileNotFound => pure ()
  | .directoryFile => pure ()
  | .regularFile => throw { kind := .singleControlGroupPathToField }
  | .other => throw { kind := .singleControlGroupPathToUnknown }

def fits (controlGroup : ControlGroupPath) : Option (ObjectId × ControlGroupPath) → Bool
  | some above => above.2 = controlGroup.dropLast
  | none => controlGroup = []

/-- `SingleControlGroup::SingleControlGroup`. A parent comes with its control group path. -/
def construct (kind : Kind) (systemInfo : SystemInfoPointer) (hierarchyId : Nat)
    (controlGroup : ControlGroupPath) (parent : Option (ObjectId × ControlGroupPath)) :
    EStateM Failure σ SingleControlGroup :=
  match systemInfo.info.byHierarchyId hierarchyId with
  | .error error => throw { kind := .systemInfo error }
  | .ok hierarchyInfo =>
      if fits controlGroup parent then
        match hierarchyInfo.mountpoint with
        | none =>
            throw { kind := .singleControlGroupNotMounted, hierarchyId := some hierarchyId }
        | some mountpoint => do
            let location : Location :=
              { hierarchyId := hierarchyInfo.id
                mountpoint := mountpoint
                controlGroup := controlGroup }
            (checkStatus kernel location).adaptExcept
              (Failure.inControlGroup hierarchyId controlGroup location)
            return {
              kind := kind
              systemInfo_ := systemInfo
              hierarchyInfo_ := hierarchyInfo
              controlGroup_ := controlGroup
              parent_ := parent.map Prod.fst
              children_ := ∅
              location_ := location
              references := 0 }
      else
        throw { kind := .assertion "parent->controlGroup() == controlGroup.parent_path()" }

def attachedBody (hierarchyId : Nat) (group : SingleControlGroup) : EStateM Failure σ Unit :=
  EStateM.adaptExcept (Failure.inControlGroup hierarchyId group.controlGroup_ group.location_) do
    let isDirectory ← (kernel.isDirectory group.location_.directory).adaptExcept
      fun code => { kind := .filesystem code }
    if isDirectory then return ()
    else throw { kind := .singleControlGroupNotExists }

def createdBody (hierarchyId : Nat) (mode : Mode) (group : SingleControlGroup) :
    EStateM Failure σ Unit :=
  EStateM.adaptExcept (Failure.inControlGroup hierarchyId group.controlGroup_ group.location_) do
    let created ← createDirectory kernel group.location_ mode
    if created then return ()
    else throw { kind := .singleControlGroupExists }

def destroyBase (group : SingleControlGroup) (world : World σ) : World σ :=
  match group.parent_, group.filename with
  | some parent, some name =>
      world.modify parent fun above => { above with children_ := above.children_.erase name }
  | _, _ => world

/-- `CreatedControlGroup::~CreatedControlGroup`, which swallows every error. -/
def removeDirectory (id : ObjectId) (group : SingleControlGroup) (world : World σ) : World σ :=
  match kernel.remove group.location_ world.kernel with
  | .ok removed after =>
      { world with
        kernel := after
        journal := .removal id group.location_ (.ok removed) :: world.journal }
  | .error code after =>
      { world with
        kernel := after
        journal := .removal id group.location_ (.error code) :: world.journal }

/-- The destructors up to the release of `parent_`. -/
def destroy (id : ObjectId) (group : SingleControlGroup) (world : World σ) : World σ :=
  let removed := match group.kind with
    | .created => removeDirectory kernel id group world
    | .attached => world
  let erased := destroyBase group removed
  { erased with objects := Function.update erased.objects id none }

/-- Drops a pointer and, with the last one of an object, the object's pointer to
its parent. Every object dropped on the way up takes one unit of `fuel`. -/
def releaseUpTo : Nat → ObjectId → World σ → World σ
  | 0, _, world => world
  | fuel + 1, id, world =>
      match world.objects id with
      | none => world
      | some group =>
          if group.references = 1 then
            match group.parent_ with
            | none => destroy kernel id group world
            | some parent => releaseUpTo fuel parent (destroy kernel id group world)
          else
            world.modify id fun group => { group with references := group.references - 1 }

/-- `intrusive_ptr_release`: no more objects than the path has prefixes are dropped. -/
def release (id : ObjectId) (world : World σ) : World σ :=
  match world.objects id with
  | none => world
  | some group => releaseUpTo kernel (group.controlGroup_.length + 1) id world

def rootGroup (instance_ : SystemInfoPointer) (hierarchyId : Nat) :
    EStateM Failure σ SingleControlGroup := do
  let group ← construct kernel .attached instance_ hierarchyId [] none
  attachedBody kernel hierarchyId group
  return group

def root (hierarchyId : Nat) : Call σ ObjectId := do
  let world ← get
  let group ← consult (rootGroup kernel world.instance_ hierarchyId)
  modify fun world => world.insert group
  return world.fresh

/-- `children_.emplace` with the assertion that it inserted. -/
def emplace (self : ObjectId) (name : Component) (cgroup : ObjectId) : Call σ Unit := do
  let group ← deref self
  if (group.children_.lookup name).isSome then
    throw { kind := .assertion "iter_inserted.second" }
  else
    modify fun world => world.modify self fun group =>
      { group with children_ := group.children_.insert name cgroup }

def attachDirectChild (self : ObjectId) (childControlGroup : Component) : Call σ ObjectId := do
  let group ← deref self
  if childControlGroup.text = "" ∨ childControlGroup.text = "." then
    pointer self
  else if childControlGroup.text = ".." then
    match group.parent_ with
    | some parent => pointer parent
    | none => pointer self
  else
    match group.children_.lookup childControlGroup with
    | some child => pointer child
    | none => do
        let child ← consult (construct kernel .attached group.systemInfo_ group.hierarchyId
          (group.controlGroup_ ++ [childControlGroup]) (some (self, group.controlGroup_)))
        unwinding (consult (attachedBody kernel group.hierarchyId child)) (destroyBase child)
        let world ← get
        modify fun world => world.insert child
        emplace self childControlGroup world.fresh
        return world.fresh

/-- `if (value().empty()) setValue(rootValue());`. -/
def inheritIfEmpty (value rootValue : EStateM Failure σ String)
    (setValue : String → EStateM Failure σ Unit) : EStateM Failure σ Unit := do
  let current ← value
  if current = "" then
    let inherited ← rootValue
    setValue inherited
  else
    return ()

/-- The cpuset set-up of `createDirectChild`. The object of `root_` does not
leave this block and is not shared, so it does not enter the heap. -/
def setUpCpuSet (instance_ : SystemInfoPointer) (cgroup : SingleControlGroup) :
    EStateM Failure σ Unit := do
  if CpuSet.subsystemName ∈ cgroup.hierarchyInfo_.subsystems then
    let root_ ← rootGroup kernel instance_ cgroup.hierarchyId
    inheritIfEmpty (CpuSet.mems kernel cgroup.location_) (CpuSet.mems kernel root_.location_)
      (CpuSet.setMems kernel cgroup.location_)
    inheritIfEmpty (CpuSet.cpus kernel cgroup.location_) (CpuSet.cpus kernel root_.location_)
      (CpuSet.setCpus kernel cgroup.location_)
  else
    return ()

def createDirectChild (self : ObjectId) (childControlGroup : Component) (mode : Mode) :
    Call σ ObjectId := do
  let group ← deref self
  let childPath := group.controlGroup_ ++ [childControlGroup]
  if childControlGroup.text = "." ∨ childControlGroup.text = ".." then
    throw
      { kind := .singleControlGroupPath
        controlGroupPath := some (ControlGroupPath.boostPath childPath)
        message := some "Invalid path." }
  else if childControlGroup.text = "" then
    throw
      { kind := .singleControlGroupEmptyControlGroupPath
        controlGroupPath := some group.controlGroup_.boostPath }
  else if (group.children_.lookup childControlGroup).isSome then
    throw
      { kind := .singleControlGroupExists
        controlGroupPath := some (ControlGroupPath.boostPath childPath) }
  else
    let child ← consult (construct kernel .created group.systemInfo_ group.hierarchyId
      childPath (some (self, group.controlGroup_)))
    unwinding (consult (createdBody kernel group.hierarchyId mode child)) (destroyBase child)
    let world ← get
    modify fun world => world.insert child
    unwinding (consult (setUpCpuSet kernel world.instance_ child)) (release kernel world.fresh)
    emplace self childControlGroup world.fresh
    return world.fresh

/-- The loop body of `attachChild` and `createChild`: `current` is released when
the next object is assigned to it and when an exception leaves the function. -/
def advance (direct : ObjectId → Component → Call σ ObjectId) (current : ObjectId)
    (i : Component) : Call σ ObjectId := do
  let next ← unwinding (direct current i) (release kernel current)
  modify (release kernel current)
  return next

def walk (direct : ObjectId → Component → Call σ ObjectId) (self : ObjectId)
    (childControlGroup : List Component) : Call σ ObjectId := do
  let current ← pointer self
  childControlGroup.foldlM (advance kernel direct) current

def checkChildControlGroup (childControlGroup : BoostPath) : Call σ Unit :=
  if childControlGroup.isAbsolute then
    throw
      { kind := .singleControlGroupAbsoluteControlGroupPath
        controlGroupPath := some childControlGroup }
  else
    return ()

def attachChild (self : ObjectId) (childControlGroup : BoostPath) : Call σ ObjectId := do
  checkChildControlGroup childControlGroup
  walk kernel (attachDirectChild kernel) self childControlGroup.components

def createChild (self : ObjectId) (childControlGroup : BoostPath) (mode : Mode) :
    Call σ ObjectId := do
  checkChildControlGroup childControlGroup
  walk kernel (fun current i => createDirectChild kernel current i mode) self
    childControlGroup.components

def parent (self : ObjectId) : Call σ (Option ObjectId) := do
  let group ← deref self
  match group.parent_ with
  | none => return none
  | some parent => some <$> pointer parent

def attach (hierarchyId : Nat) (controlGroup : BoostPath) : Call σ ObjectId := do
  if controlGroup.isAbsolute then
    let root_ ← root kernel hierarchyId
    let result ← unwinding
      (attachChild kernel root_ (BoostPath.relative controlGroup.components))
      (release kernel root_)
    modify (release kernel root_)
    return result
  else
    throw
      { kind := .singleControlGroupRelativeControlGroup
        controlGroupPath := some controlGroup }

end SingleControlGroup

end ContestSystem.Cgroup
