import Mathlib.Data.List.Basic

/-!
# Paths of control groups

A control group is named by its path inside a hierarchy, "/" followed by
components, and lives in the directory `mountpoint / controlGroup`. Paths are
kept as the components that iterating a `boost::filesystem::path` yields.
`Location` keeps the mountpoint and the control group apart, as the library
computes it; `Location.path` is the directory it denotes in the file system.
-/

namespace ContestSystem.Cgroup

set_option autoImplicit false

/-- An element of an iterated path: a name, ".", ".." or the empty element. -/
structure Component where
  text : String
  slashFree : '/' ∉ text.toList
deriving DecidableEq

/-- A component that names a directory entry rather than a direction. -/
def Component.IsOrdinary (component : Component) : Prop :=
  component.text ≠ "" ∧ component.text ≠ "." ∧ component.text ≠ ".."

instance (component : Component) : Decidable component.IsOrdinary :=
  inferInstanceAs (Decidable (_ ∧ _ ∧ _))

/-- A path below "/": the hierarchy's root control group is the empty list. -/
abbrev ControlGroupPath := List Component

/-- An absolute directory of the file system, in the form `/proc/mounts` prints. -/
abbrev Directory := List Component

/-- The path argument of a member function. -/
structure BoostPath where
  isAbsolute : Bool
  components : List Component
deriving DecidableEq

def BoostPath.relative (components : List Component) : BoostPath :=
  { isAbsolute := false, components := components }

def ControlGroupPath.boostPath (controlGroup : ControlGroupPath) : BoostPath :=
  { isAbsolute := true, components := controlGroup }

structure Location where
  hierarchyId : Nat
  mountpoint : Directory
  controlGroup : ControlGroupPath
deriving DecidableEq

def Location.path (location : Location) : Directory :=
  location.mountpoint ++ location.controlGroup

/-- A control group of a hierarchy, wherever the hierarchy is mounted. -/
structure Group where
  hierarchyId : Nat
  controlGroup : ControlGroupPath
deriving DecidableEq

def Location.group (location : Location) : Group :=
  { hierarchyId := location.hierarchyId, controlGroup := location.controlGroup }

/-- `below` is a descendant of `above` in its hierarchy. -/
def Group.StrictlyBelow (below above : Group) : Prop :=
  below.hierarchyId = above.hierarchyId ∧ above.controlGroup <+: below.controlGroup ∧
    below.controlGroup ≠ above.controlGroup

instance (below above : Group) : Decidable (below.StrictlyBelow above) :=
  inferInstanceAs (Decidable (_ ∧ _ ∧ _))

/-- What the library hands to the kernel: a group's directory or an entry of it. -/
structure Path where
  location : Location
  entries : List String
deriving DecidableEq

def Location.directory (location : Location) : Path :=
  { location := location, entries := [] }

/-- The lexical meaning of one path component. At the root ".." stays at the root. -/
def lexicalStep (group : ControlGroupPath) (component : Component) : ControlGroupPath :=
  if component.text = "" ∨ component.text = "." then group
  else if component.text = ".." then group.dropLast
  else group ++ [component]

theorem lexical_step_ordinary (path : ControlGroupPath) {name : Component}
    (ordinary : name.IsOrdinary) : lexicalStep path name = path ++ [name] := by
  rcases ordinary with ⟨notEmpty, notDot, notDots⟩
  simp [lexicalStep, notEmpty, notDot, notDots]

def lexicalPath (group : ControlGroupPath) (components : List Component) : ControlGroupPath :=
  components.foldl lexicalStep group

@[simp] theorem lexical_path_nil (group : ControlGroupPath) : lexicalPath group [] = group := rfl

@[simp] theorem lexical_path_cons (group : ControlGroupPath) (component : Component)
    (rest : List Component) :
    lexicalPath group (component :: rest) = lexicalPath (lexicalStep group component) rest := rfl

end ContestSystem.Cgroup
