import Mathlib.Data.List.TakeDrop
import Mathlib.Order.Nat

/-!
# Reading a list while it changes

A list has a content in each version, and a reader takes it in pieces, each from the
version that is there then. It begins at the front and goes on where it stopped as long
as the content has stayed; after a change the place it goes on from is anywhere.
-/

namespace ContestSystem.Lib.GradualRead

set_option autoImplicit false

variable {Item : Type*}

/-- The content is the same in all versions from `first` to `last`. -/
def Unchanged (content : Nat → Option (List Item)) (first last : Nat) : Prop :=
  ∀ version, version ≤ last → first ≤ version → content version = content first

instance [DecidableEq Item] (content : Nat → Option (List Item)) (first last : Nat) :
    Decidable (Unchanged content first last) :=
  Nat.decidableBallLE last fun version _ => first ≤ version → content version = content first

/-- `items` are what a reader has that began at the version `opened`, and the last piece
ended at `position` in the version `last`. -/
inductive Gathered (content : Nat → Option (List Item)) (opened : Nat) :
    (last position : Nat) → (items : List Item) → Prop
  | opened : Gathered content opened opened 0 []
  | piece {last position : Nat} {items : List Item}
      (before : Gathered content opened last position items) {next start : Nat} (count : Nat)
      {list : List Item} (later : last ≤ next)
      (present : content next = some list)
      (goesOn : position = 0 ∨ Unchanged content last next → start = position) :
      Gathered content opened next (start + ((list.drop start).take count).length)
        (items ++ (list.drop start).take count)

section Gathering

variable {content : Nat → Option (List Item)} {opened last position : Nat} {items : List Item}

theorem opened_le (gathered : Gathered content opened last position items) : opened ≤ last := by
  induction gathered with
  | opened => exact Nat.le_refl opened
  | piece _ _ later _ _ ih => exact ih.trans later

/-- Every item was in the list at some version of the reading. -/
theorem item_of_version (gathered : Gathered content opened last position items) :
    ∀ item ∈ items, ∃ version list, opened ≤ version ∧ version ≤ last ∧
      content version = some list ∧ item ∈ list := by
  induction gathered with
  | opened =>
      intro item inside
      cases inside
  | piece before _ later present _ ih =>
      intro item inside
      rcases List.mem_append.mp inside with old | new
      · obtain ⟨version, list, lower, upper, held, member⟩ := ih item old
        exact ⟨version, list, lower, upper.trans later, held, member⟩
      · exact ⟨_, _, (opened_le before).trans later, Nat.le_refl _, present,
          List.mem_of_mem_drop (List.mem_of_mem_take new)⟩

theorem gathered_unchanged (gathered : Gathered content opened last position items)
    {list : List Item} (held : content opened = some list)
    (same : Unchanged content opened last) : items = list.take position := by
  induction gathered with
  | opened => rw [List.take_zero]
  | @piece last position items before next start count now later present goesOn ih =>
      have sameBefore : Unchanged content opened last :=
        fun version upper => same version (upper.trans later)
      have atLast : content last = content opened :=
        same last later (opened_le before)
      have nowSame : now = list := by
        rw [same next (Nat.le_refl _) ((opened_le before).trans later), held] at present
        exact (Option.some.inj present).symm
      have continues : start = position := by
        refine goesOn (.inr fun version upper lower => ?_)
        rw [atLast]
        exact same version upper ((opened_le before).trans lower)
      rw [ih sameBefore, nowSame, continues, List.take_add, List.length_take]
      congr 1
      rcases Nat.le_total count (list.drop position).length with enough | short
      · rw [Nat.min_eq_left enough]
      · rw [Nat.min_eq_right short, List.take_of_length_le short, List.take_length]

/-- A list that stays is read whole by a reader that has come to its end. -/
theorem gathered_whole (gathered : Gathered content opened last position items)
    {list : List Item} (held : content opened = some list)
    (same : Unchanged content opened last) (ended : list.length ≤ position) : items = list := by
  rw [gathered_unchanged gathered held same, List.take_of_length_le ended]

theorem gathered_congr {other : Nat → Option (List Item)}
    (gathered : Gathered content opened last position items)
    (agree : ∀ version, version ≤ last → other version = content version) :
    Gathered other opened last position items := by
  induction gathered with
  | opened => exact .opened
  | @piece last position items before next start count now later present goesOn ih =>
      refine .piece (ih fun version upper => agree version (upper.trans later)) count later
        ((agree next (Nat.le_refl next)).trans present) ?_
      refine fun stays => goesOn (stays.imp_right fun unchanged version upper lower => ?_)
      rw [← agree version upper, ← agree last later]
      exact unchanged version upper lower

end Gathering

end ContestSystem.Lib.GradualRead
