import Mathlib.Data.List.Induction
import Mathlib.Data.Multiset.Basic
import Mathlib.Logic.Relation

/-!
# Forests kept alive from below

Every node has at most one parent and keeps that parent alive; a node without
live children is alive only while it is held from outside. The live nodes are
then exactly those at or above a held node, so the held references determine
the whole population. The second half adds a label to every edge: when a
parent has at most one live child of a label, a node is determined by its root
and the labels on the way down to it.
-/

namespace ContestSystem.Lib.Forest

set_option autoImplicit false

variable {Node Label : Type*}

abbrev AtOrBelow (parent : Node → Option Node) : Node → Node → Prop :=
  Relation.ReflTransGen fun low up => parent low = some up

/-- A population in which references point upwards only. `age` grows towards
the leaves, which excludes cycles, and is bounded, which excludes infinite
descending branches. -/
structure Kept (alive : Node → Prop) (parent : Node → Option Node)
    (held : Multiset Node) (age : Node → Nat) (limit : Nat) : Prop where
  held_alive : ∀ node ∈ held, alive node
  parent_alive : ∀ node, alive node → ∀ up, parent node = some up → alive up
  kept : ∀ node, alive node → node ∈ held ∨ ∃ low, alive low ∧ parent low = some node
  younger : ∀ node, alive node → ∀ up, parent node = some up → age up < age node
  bounded : ∀ node, alive node → age node < limit

section Population

variable {alive other : Node → Prop} {parent parent' : Node → Option Node}
  {held held' : Multiset Node} {age age' : Node → Nat} {limit limit' : Nat}

theorem above_alive (forest : Kept alive parent held age limit) {low high : Node}
    (path : AtOrBelow parent low high) (lowAlive : alive low) : alive high := by
  induction path with
  | refl => exact lowAlive
  | tail _ edge ih => exact forest.parent_alive _ ih _ edge

theorem held_below (forest : Kept alive parent held age limit) (node : Node)
    (nodeAlive : alive node) : ∃ low ∈ held, AtOrBelow parent low node := by
  -- Children are younger than their parent, so the distance to `limit` decreases.
  induction distance : limit - age node using Nat.strong_induction_on generalizing node with
  | _ distance ih =>
      rcases forest.kept node nodeAlive with member | ⟨child, childAlive, edge⟩
      · exact ⟨node, member, .refl⟩
      · have younger := forest.younger child childAlive node edge
        have bounded := forest.bounded child childAlive
        obtain ⟨low, member, path⟩ := ih (limit - age child) (by omega) child childAlive rfl
        exact ⟨low, member, path.tail edge⟩

theorem alive_iff_held_below (forest : Kept alive parent held age limit) (node : Node) :
    alive node ↔ ∃ low ∈ held, AtOrBelow parent low node := by
  constructor
  · exact held_below forest node
  · rintro ⟨low, member, path⟩
    exact above_alive forest path (forest.held_alive low member)

theorem below_carried (forest : Kept alive parent held age limit)
    (forest' : Kept other parent' held' age' limit')
    (agree : ∀ node, alive node → other node → parent node = parent' node) {low high : Node}
    (lowAlive : alive low) (lowOther : other low) (path : AtOrBelow parent low high) :
    other high ∧ AtOrBelow parent' low high := by
  induction path with
  | refl => exact ⟨lowOther, .refl⟩
  | @tail middle up path edge ih =>
      obtain ⟨middleOther, carried⟩ := ih
      have edge' := (agree middle (above_alive forest path lowAlive) middleOther).symm.trans edge
      exact ⟨forest'.parent_alive middle middleOther up edge', carried.tail edge'⟩

theorem alive_of_held_alive (forest : Kept alive parent held age limit)
    (forest' : Kept other parent' held' age' limit')
    (agree : ∀ node, alive node → other node → parent node = parent' node)
    (survive : ∀ node ∈ held, other node) (node : Node) (nodeAlive : alive node) :
    other node := by
  obtain ⟨low, member, path⟩ := held_below forest node nodeAlive
  exact (below_carried forest forest' agree (forest.held_alive low member)
    (survive low member) path).1

theorem alive_iff_of_same_held (forest : Kept alive parent held age limit)
    (forest' : Kept other parent' held age' limit')
    (agree : ∀ node, alive node → other node → parent node = parent' node) (node : Node) :
    alive node ↔ other node := by
  constructor
  · exact alive_of_held_alive forest forest' agree forest'.held_alive node
  · exact alive_of_held_alive forest' forest
      (fun node left right => (agree node right left).symm) forest.held_alive node

end Population

structure InTree (parent : Node → Option Node) (root node : Node) : Prop where
  isRoot : parent root = none
  below : AtOrBelow parent node root

/-- Edges carry labels and `path` collects them from the root down. -/
structure Labelled (alive : Node → Prop) (parent : Node → Option Node)
    (path : Node → List Label) : Prop where
  top : ∀ node, alive node → parent node = none → path node = []
  sub : ∀ node, alive node → ∀ up, parent node = some up →
    alive up ∧ ∃ label, path node = path up ++ [label]
  distinct : ∀ left right up, alive left → alive right → parent left = some up →
    parent right = some up → path left = path right → left = right

theorem ancestors_comparable {parent : Node → Option Node} {low left right : Node}
    (leftAbove : AtOrBelow parent low left) (rightAbove : AtOrBelow parent low right) :
    AtOrBelow parent left right ∨ AtOrBelow parent right left := by
  apply Relation.ReflTransGen.total_of_right_unique _ leftAbove rightAbove
  intro node first second firstUp secondUp
  exact Option.some.inj (firstUp.symm.trans secondUp)

theorem age_of_below {alive : Node → Prop} {parent : Node → Option Node}
    {held : Multiset Node} {age : Node → Nat} {limit : Nat}
    (forest : Kept alive parent held age limit) {low high : Node} (lowAlive : alive low)
    (path : AtOrBelow parent low high) : age high ≤ age low := by
  induction path with
  | refl => exact Nat.le_refl _
  | tail path edge ih =>
      have younger := forest.younger _ (above_alive forest path lowAlive) _ edge
      omega

theorem in_tree_below {parent : Node → Option Node} {root node low : Node}
    (inside : InTree parent root node) (path : AtOrBelow parent low node) :
    InTree parent root low :=
  ⟨inside.isRoot, path.trans inside.below⟩

section Labels

variable {alive : Node → Prop} {parent : Node → Option Node} {path : Node → List Label}

theorem in_tree_up {root node up : Node} (inside : InTree parent root node)
    (edge : parent node = some up) : InTree parent root up := by
  refine ⟨inside.isRoot, ?_⟩
  rcases Relation.ReflTransGen.cases_head inside.below with same | ⟨next, step, rest⟩
  · rw [same, inside.isRoot] at edge
    cases edge
  · rw [Option.some.inj (edge.symm.trans step)]
    exact rest

theorem in_tree_down {root node low : Node} (inside : InTree parent root node)
    (edge : parent low = some node) : InTree parent root low :=
  ⟨inside.isRoot, .head edge inside.below⟩

theorem in_tree_root_unique {root other node : Node} (inside : InTree parent root node)
    (also : InTree parent other node) : root = other := by
  obtain ⟨isRoot, below⟩ := inside
  induction below using Relation.ReflTransGen.head_induction_on with
  | refl =>
      rcases Relation.ReflTransGen.cases_head also.below with same | ⟨next, step, _⟩
      · exact same
      · rw [isRoot] at step
        cases step
  | head edge _ ih => exact ih (in_tree_up also edge)

theorem root_exists {held : Multiset Node} {age : Node → Nat} {limit : Nat}
    (forest : Kept alive parent held age limit) (node : Node) (nodeAlive : alive node) :
    ∃ root, alive root ∧ InTree parent root node := by
  -- Parents are older than their children.
  induction old : age node using Nat.strong_induction_on generalizing node with
  | _ old ih =>
      cases parentAt : parent node with
      | none => exact ⟨node, nodeAlive, parentAt, .refl⟩
      | some up =>
          have younger := forest.younger node nodeAlive up parentAt
          have upAlive := forest.parent_alive node nodeAlive up parentAt
          rcases ih (age up) (by omega) up upAlive rfl with ⟨root, rootAlive, inside⟩
          exact ⟨root, rootAlive, in_tree_down inside parentAt⟩

theorem in_tree_carried {other : Node → Prop} {parent' : Node → Option Node}
    {held held' : Multiset Node} {age age' : Node → Nat} {limit limit' : Nat}
    (forest : Kept alive parent held age limit) (forest' : Kept other parent' held' age' limit')
    (agree : ∀ node, alive node → other node → parent node = parent' node) {root node : Node}
    (nodeAlive : alive node) (nodeOther : other node) (inside : InTree parent root node) :
    InTree parent' root node := by
  have rootAlive := above_alive forest inside.below nodeAlive
  have carried := below_carried forest forest' agree nodeAlive nodeOther inside.below
  exact ⟨(agree root rootAlive carried.1).symm.trans inside.isRoot, carried.2⟩

theorem root_of_empty_path (tree : Labelled alive parent path) {root node : Node}
    (nodeAlive : alive node) (inside : InTree parent root node) (empty : path node = []) :
    node = root := by
  rcases Relation.ReflTransGen.cases_head inside.below with same | ⟨up, edge, _⟩
  · exact same
  · obtain ⟨_, label, extended⟩ := tree.sub node nodeAlive up edge
    simp [empty] at extended

theorem parent_of_nonempty_path (tree : Labelled alive parent path) {node : Node}
    (nodeAlive : alive node) {labels : List Label} {label : Label}
    (nodePath : path node = labels ++ [label]) :
    ∃ up, parent node = some up ∧ alive up ∧ path up = labels := by
  cases parentAt : parent node with
  | none =>
      have empty := tree.top node nodeAlive parentAt
      simp [empty] at nodePath
  | some up =>
      obtain ⟨upAlive, last, extended⟩ := tree.sub node nodeAlive up parentAt
      have split := List.append_inj' (nodePath.symm.trans extended) rfl
      exact ⟨up, rfl, upAlive, split.1.symm⟩

theorem node_unique (tree : Labelled alive parent path) {root left right : Node}
    (leftAlive : alive left) (rightAlive : alive right) (leftInside : InTree parent root left)
    (rightInside : InTree parent root right) (samePath : path left = path right) :
    left = right := by
  induction labels : path left using List.reverseRecOn generalizing left right with
  | nil =>
      have leftRoot := root_of_empty_path tree leftAlive leftInside labels
      have rightRoot :=
        root_of_empty_path tree rightAlive rightInside (samePath.symm.trans labels)
      rw [leftRoot, rightRoot]
  | append_singleton labels label ih =>
      obtain ⟨leftUp, leftParent, leftUpAlive, leftPath⟩ :=
        parent_of_nonempty_path tree leftAlive labels
      obtain ⟨rightUp, rightParent, rightUpAlive, rightPath⟩ :=
        parent_of_nonempty_path tree rightAlive (samePath.symm.trans labels)
      have sameUp : leftUp = rightUp := ih leftUpAlive rightUpAlive
        (in_tree_up leftInside leftParent) (in_tree_up rightInside rightParent)
        (leftPath.trans rightPath.symm) leftPath
      subst sameUp
      exact tree.distinct left right leftUp leftAlive rightAlive leftParent rightParent samePath

theorem path_prefix_of_below (tree : Labelled alive parent path) {low high : Node}
    (lowAlive : alive low) (isBelow : AtOrBelow parent low high) :
    alive high ∧ path high <+: path low := by
  induction isBelow with
  | refl => exact ⟨lowAlive, List.prefix_rfl⟩
  | tail _ edge ih =>
      obtain ⟨upAlive, label, extended⟩ := tree.sub _ ih.1 _ edge
      exact ⟨upAlive, (List.prefix_append _ [label]).trans (extended ▸ ih.2)⟩

theorem ancestor_at_prefix (tree : Labelled alive parent path) {low : Node}
    (lowAlive : alive low) {labels : List Label} (isPrefix : labels <+: path low) :
    ∃ high, alive high ∧ AtOrBelow parent low high ∧ path high = labels := by
  induction whole : path low using List.reverseRecOn generalizing low with
  | nil =>
      rw [whole, List.prefix_nil] at isPrefix
      exact ⟨low, lowAlive, .refl, whole.trans isPrefix.symm⟩
  | append_singleton rest label ih =>
      rw [whole] at isPrefix
      rcases List.prefix_concat_iff.mp isPrefix with same | shorter
      · exact ⟨low, lowAlive, .refl, whole.trans same.symm⟩
      · rcases parent_of_nonempty_path tree lowAlive whole with ⟨up, edge, upAlive, upPath⟩
        rcases ih upAlive (upPath ▸ shorter) upPath with ⟨high, highAlive, isAbove, highPath⟩
        exact ⟨high, highAlive, .head edge isAbove, highPath⟩

/-- The nodes on a prefix of a path are the ancestors of its end. -/
theorem below_of_prefix (tree : Labelled alive parent path) {root low high : Node}
    (lowAlive : alive low) (highAlive : alive high) (lowInside : InTree parent root low)
    (highInside : InTree parent root high) (isAbove : path high <+: path low) :
    AtOrBelow parent low high := by
  induction labels : path low using List.reverseRecOn generalizing low with
  | nil =>
      rw [labels, List.prefix_nil] at isAbove
      rw [node_unique tree lowAlive highAlive lowInside highInside
        (labels.trans isAbove.symm)]
  | append_singleton labels label ih =>
      obtain ⟨up, lowParent, upAlive, upPath⟩ := parent_of_nonempty_path tree lowAlive labels
      rcases List.prefix_concat_iff.mp (labels ▸ isAbove) with whole | shorter
      · rw [node_unique tree lowAlive highAlive lowInside highInside (by rw [whole, labels])]
      · have rest := ih upAlive (in_tree_up lowInside lowParent) (upPath ▸ shorter) upPath
        exact .head lowParent rest

end Labels

end ContestSystem.Lib.Forest
