import Mathlib.Data.Finset.Basic
import ContestSystem.Cgroup.CpuSet

/-!
# The tree of cpuset groups

What the kernel keeps for the cpuset subsystem: the groups, the cpus and the
memory nodes of each, and whether a group passes its lists on to the groups
made in it. The nesting rule says that no group has more than its parent.
-/

namespace ContestSystem.Cgroup

set_option autoImplicit false

def Group.child (above : Group) (name : Component) : Group :=
  { above with controlGroup := above.controlGroup ++ [name] }

def Group.root (hierarchyId : Nat) : Group :=
  { hierarchyId := hierarchyId, controlGroup := [] }

theorem child_ne_root (above : Group) (name : Component) (hierarchyId : Nat) :
    above.child name ≠ Group.root hierarchyId := by
  intro same
  have paths := congrArg Group.controlGroup same
  simp [Group.child, Group.root] at paths

theorem child_ne_parent (above : Group) (name : Component) : above.child name ≠ above := by
  intro same
  have paths := congrArg Group.controlGroup same
  simp [Group.child] at paths

theorem child_injective {left right : Group} {name other : Component}
    (same : left.child name = right.child other) : left = right ∧ name = other := by
  cases left with
  | mk leftHierarchy leftPath =>
      cases right with
      | mk rightHierarchy rightPath =>
          simp only [Group.child, Group.mk.injEq] at same
          rcases List.append_inj' same.2 rfl with ⟨paths, names⟩
          exact ⟨by rw [same.1, paths], List.singleton_injective names⟩

namespace CpuSet

inductive ListField
  | cpus
  | mems
deriving DecidableEq

def ListField.name : ListField → String
  | .cpus => "cpus"
  | .mems => "mems"

structure Tree where
  groups : Set Group
  value : Group → ListField → Finset Nat
  cloneChildren : Group → Bool

namespace Tree

/-- The lists a group made in `above` starts with. -/
def initial (tree : Tree) (above : Group) (field : ListField) : Finset Nat :=
  if tree.cloneChildren above then tree.value above field else ∅

def make (tree : Tree) (above : Group) (name : Component) : Tree :=
  { groups := insert (above.child name) tree.groups
    value := Function.update tree.value (above.child name) (tree.initial above)
    cloneChildren :=
      Function.update tree.cloneChildren (above.child name) (tree.cloneChildren above) }

def write (tree : Tree) (group : Group) (field : ListField) (value : Finset Nat) : Tree :=
  { tree with
    value := Function.update tree.value group (Function.update (tree.value group) field value) }

/-- Every group but a root has its parent, and no more than its parent has. -/
structure Nested (tree : Tree) : Prop where
  closed : ∀ above name, above.child name ∈ tree.groups → above ∈ tree.groups
  subset : ∀ above name, above.child name ∈ tree.groups →
    ∀ field, tree.value (above.child name) field ⊆ tree.value above field

def IsLeaf (tree : Tree) (group : Group) : Prop := ∀ name, group.child name ∉ tree.groups

variable {tree : Tree} {above : Group} {name : Component}

theorem value_subset_root (nested : Nested tree) (hierarchyId : Nat) (path : ControlGroupPath)
    (exists_ : ⟨hierarchyId, path⟩ ∈ tree.groups) (field : ListField) :
    tree.value ⟨hierarchyId, path⟩ field ⊆ tree.value (Group.root hierarchyId) field := by
  induction path using List.reverseRecOn with
  | nil => exact fun _ inside => inside
  | append_singleton path name ih =>
      have step := nested.subset ⟨hierarchyId, path⟩ name exists_ field
      exact step.trans (ih (nested.closed ⟨hierarchyId, path⟩ name exists_))

theorem root_exists (nested : Nested tree) (hierarchyId : Nat) (path : ControlGroupPath)
    (exists_ : ⟨hierarchyId, path⟩ ∈ tree.groups) : Group.root hierarchyId ∈ tree.groups := by
  induction path using List.reverseRecOn with
  | nil => exact exists_
  | append_singleton path name ih => exact ih (nested.closed ⟨hierarchyId, path⟩ name exists_)

@[simp] theorem make_value_parent (tree : Tree) (above : Group) (name : Component) :
    (tree.make above name).value above = tree.value above :=
  Function.update_of_ne (child_ne_parent above name).symm _ _

@[simp] theorem make_value_root (tree : Tree) (above : Group) (name : Component)
    (hierarchyId : Nat) :
    (tree.make above name).value (Group.root hierarchyId) = tree.value (Group.root hierarchyId) :=
  Function.update_of_ne (child_ne_root above name hierarchyId).symm _ _

@[simp] theorem make_value_child (tree : Tree) (above : Group) (name : Component) :
    (tree.make above name).value (above.child name) = tree.initial above :=
  Function.update_self _ _ _

theorem initial_subset (tree : Tree) (above : Group) (field : ListField) :
    tree.initial above field ⊆ tree.value above field := by
  unfold initial
  split
  · exact Finset.Subset.refl _
  · exact Finset.empty_subset _

theorem leaf_of_absent (nested : Nested tree) (absent : above.child name ∉ tree.groups) :
    IsLeaf (tree.make above name) (above.child name) := by
  intro next inside
  rcases inside with same | before
  · exact child_ne_parent (above.child name) next same
  · exact absent (nested.closed _ next before)

theorem make_nested (nested : Nested tree) (exists_ : above ∈ tree.groups)
    (absent : above.child name ∉ tree.groups) : Nested (tree.make above name) := by
  have leaf := leaf_of_absent nested absent
  constructor
  · intro group next inside
    rcases inside with same | before
    · rw [(child_injective same).1]
      exact .inr exists_
    · exact .inr (nested.closed group next before)
  · intro group next inside field
    by_cases isNew : group.child next = above.child name
    · rw [isNew, (child_injective isNew).1, make_value_child, make_value_parent]
      exact initial_subset tree above field
    · have notParent : group ≠ above.child name := fun same => leaf next (same ▸ inside)
      have before : group.child next ∈ tree.groups := inside.resolve_left isNew
      simp only [make, Function.update_of_ne isNew, Function.update_of_ne notParent]
      exact nested.subset group next before field

theorem write_value (tree : Tree) (group : Group) (field : ListField) (value : Finset Nat)
    (other : Group) (probe : ListField) :
    (tree.write group field value).value other probe =
      if other = group ∧ probe = field then value else tree.value other probe := by
  simp only [write, Function.update_apply]
  by_cases sameGroup : other = group
  · by_cases sameField : probe = field <;> simp [sameGroup, sameField]
  · simp [sameGroup]

/-- What `inheritIfEmpty` makes of a list of a new group. -/
def inherit (tree : Tree) (above : Group) (name : Component) (field : ListField) : Tree :=
  if tree.value (above.child name) field = ∅ then
    tree.write (above.child name) field (tree.value (Group.root above.hierarchyId) field)
  else tree

def Inheritable (tree : Tree) (above : Group) (name : Component) (field : ListField) : Prop :=
  tree.value (above.child name) field ≠ ∅ ∨
    tree.value (Group.root above.hierarchyId) field ⊆ tree.value above field

theorem inherit_groups (tree : Tree) (above : Group) (name : Component) (field : ListField) :
    (tree.inherit above name field).groups = tree.groups := by
  unfold inherit
  split <;> rfl

theorem inherit_value (tree : Tree) (above : Group) (name : Component) (field : ListField)
    (other : Group) (probe : ListField) (different : other ≠ above.child name ∨ probe ≠ field) :
    (tree.inherit above name field).value other probe = tree.value other probe := by
  unfold inherit
  split
  · rw [write_value, if_neg]
    intro both
    rcases different with notGroup | notField
    · exact notGroup both.1
    · exact notField both.2
  · rfl

theorem inherit_filled (tree : Tree) (above : Group) (name : Component) (field : ListField)
    (rootFilled : (tree.value (Group.root above.hierarchyId) field).Nonempty) :
    ((tree.inherit above name field).value (above.child name) field).Nonempty := by
  unfold inherit
  split
  · rw [write_value, if_pos ⟨rfl, rfl⟩]
    exact rootFilled
  next present => exact Finset.nonempty_iff_ne_empty.mpr present

theorem inherit_nested (nested : Nested tree) (leaf : IsLeaf tree (above.child name))
    {field : ListField} (inheritable : Inheritable tree above name field) :
    Nested (tree.inherit above name field) := by
  constructor
  · intro group next inside
    rw [inherit_groups] at inside ⊢
    exact nested.closed group next inside
  · intro group next inside probe
    rw [inherit_groups] at inside
    have notParent : group ≠ above.child name := fun same => leaf next (same ▸ inside)
    rw [inherit_value tree above name field group probe (.inl notParent)]
    by_cases written : tree.value (above.child name) field = ∅ ∧ group.child next =
        above.child name ∧ probe = field
    · rcases written with ⟨empty, same, sameField⟩
      have allowed := inheritable.resolve_left (not_not.mpr empty)
      rw [same, sameField, (child_injective same).1, inherit, if_pos empty, write_value,
        if_pos ⟨rfl, rfl⟩]
      exact allowed
    · have kept : (tree.inherit above name field).value (group.child next) probe =
          tree.value (group.child next) probe := by
        unfold inherit
        split
        next empty => rw [write_value, if_neg fun both => written ⟨empty, both⟩]
        next => rfl
      rw [kept]
      exact nested.subset group next inside probe

/-- The lists in the order `createDirectChild` sets them up. -/
def setUp (tree : Tree) (above : Group) (name : Component) : Tree :=
  (tree.inherit above name .mems).inherit above name .cpus

structure Fresh (tree : Tree) (above : Group) (name : Component) : Prop where
  nested : Nested tree
  made : above.child name ∈ tree.groups
  leaf : IsLeaf tree (above.child name)

theorem make_fresh (nested : Nested tree) (exists_ : above ∈ tree.groups)
    (absent : above.child name ∉ tree.groups) : Fresh (tree.make above name) above name :=
  ⟨make_nested nested exists_ absent, .inl rfl, leaf_of_absent nested absent⟩

theorem inherit_fresh (fresh : Fresh tree above name) {field : ListField}
    (inheritable : Inheritable tree above name field) :
    Fresh (tree.inherit above name field) above name := by
  constructor
  · exact inherit_nested fresh.nested fresh.leaf inheritable
  · rw [inherit_groups]
    exact fresh.made
  · intro next
    rw [inherit_groups]
    exact fresh.leaf next

theorem inheritable_other (tree : Tree) (above : Group) (name : Component)
    {field other : ListField} (different : other ≠ field) :
    Inheritable (tree.inherit above name field) above name other ↔
      Inheritable tree above name other := by
  unfold Inheritable
  rw [inherit_value tree above name field _ other (.inr different),
    inherit_value tree above name field _ other (.inr different),
    inherit_value tree above name field _ other (.inr different)]

theorem set_up_nested (fresh : Fresh tree above name)
    (inheritable : ∀ field, Inheritable tree above name field) :
    Nested (tree.setUp above name) := by
  have mems := inherit_fresh fresh (inheritable .mems)
  have different : ListField.cpus ≠ ListField.mems := by decide
  have cpus := (inheritable_other tree above name different).mpr (inheritable .cpus)
  exact (inherit_fresh mems cpus).nested

theorem set_up_made (fresh : Fresh tree above name) :
    above.child name ∈ (tree.setUp above name).groups := by
  rw [setUp, inherit_groups, inherit_groups]
  exact fresh.made

theorem set_up_filled (above : Group) (name : Component)
    (rootFilled : ∀ field, (tree.value (Group.root above.hierarchyId) field).Nonempty)
    (field : ListField) : ((tree.setUp above name).value (above.child name) field).Nonempty := by
  have notChild := (child_ne_root above name above.hierarchyId).symm
  cases field with
  | mems =>
      rw [setUp, inherit_value _ above name .cpus _ .mems (.inr (by decide))]
      exact inherit_filled tree above name .mems (rootFilled .mems)
  | cpus =>
      apply inherit_filled
      rw [inherit_value tree above name .mems _ .cpus (.inl notChild)]
      exact rootFilled .cpus

/-- A new group can be set up if it starts with its parent's lists or if its
parent has all that the root has, and only then. -/
theorem make_inheritable_iff (tree : Tree) (name : Component)
    (filled : ∀ field, (tree.value above field).Nonempty) :
    (∀ field, Inheritable (tree.make above name) above name field) ↔
      tree.cloneChildren above = true ∨
        ∀ field, tree.value (Group.root above.hierarchyId) field ⊆ tree.value above field := by
  simp only [Inheritable, make_value_child, make_value_root, make_value_parent, initial]
  cases tree.cloneChildren above with
  | true => simp [fun field => Finset.nonempty_iff_ne_empty.mp (filled field)]
  | false => simp

end Tree

end CpuSet

end ContestSystem.Cgroup
