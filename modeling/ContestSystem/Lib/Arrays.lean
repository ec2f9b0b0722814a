import Mathlib.Data.List.Forall2
import Mathlib.Data.List.TakeWhile
import Mathlib.Tactic.Common

/-!
# Writing into arrays and reading them to a terminator

An array is a list whose length stays as it is. `copyTo` and `transformTo` write
from a position on and report an error of the caller's choice where they would
leave the array. `upTo` reads to the first terminator and `cut` splits at the first
separator.
-/

namespace ContestSystem.Lib.Arrays

set_option autoImplicit false

variable {Item Value Error : Type}

section Writing

variable (outside : Error)

/-- The array and the position after the last write. -/
def copyTo (source : List Item) (position : Nat) (target : List Item) :
    Except Error (List Item × Nat) :=
  if position + source.length ≤ target.length then
    .ok (target.take position ++ (source ++ target.drop (position + source.length)),
      position + source.length)
  else .error outside

theorem copy_to_append (written : List Item) {replaced source : List Item} (after : List Item)
    (size : replaced.length = source.length) :
    copyTo outside source written.length (written ++ (replaced ++ after)) =
      .ok ((written ++ source) ++ after, (written ++ source).length) := by
  have room : written.length + source.length ≤ (written ++ (replaced ++ after)).length := by
    simp only [List.length_append]
    omega
  have dropped :
      (written ++ (replaced ++ after)).drop (written.length + source.length) = after := by
    rw [← List.append_assoc, ← size, ← List.length_append, List.drop_left]
  rw [copyTo, if_pos room, List.take_left, dropped, List.append_assoc, List.length_append]

/-- The results of an operation that may throw, from a position on. -/
def transformTo (operation : Item → Except Error Value) :
    List Item → Nat → List Value → Except Error (List Value)
  | [], _, target => .ok target
  | item :: items, position, target => do
      let value ← operation item
      if position < target.length then
        transformTo operation items (position + 1) (target.set position value)
      else .error outside

theorem transform_to_append (operation : Item → Except Error Value) {items : List Item}
    (before : List Value) {replaced : List Value} (after : List Value)
    (size : replaced.length = items.length) :
    transformTo outside operation items before.length (before ++ (replaced ++ after)) =
      (items.mapM operation).map fun values => before ++ (values ++ after) := by
  induction items generalizing before replaced with
  | nil =>
      rw [List.length_eq_zero_iff.mp size]
      rfl
  | cons item items ih =>
      obtain ⟨first, rest, rfl⟩ := List.exists_cons_of_length_eq_add_one size
      rw [transformTo, List.mapM_cons]
      cases done : operation item with
      | error error => rfl
      | ok value =>
          have inside : before.length < (before ++ (first :: rest ++ after)).length := by simp
          have stored : (before ++ (first :: rest ++ after)).set before.length value =
              (before ++ [value]) ++ (rest ++ after) := by simp
          have position : before.length + 1 = (before ++ [value]).length := by simp
          simp only [Bind.bind, Except.bind, if_pos inside, stored, position]
          rw [ih (before ++ [value]) (Nat.succ.inj size)]
          cases items.mapM operation with
          | error error => rfl
          | ok values => simp [Except.map, pure, Except.pure]

theorem transform_to_all (operation : Item → Except Error Value) {items : List Item}
    {target : List Value} (size : target.length = items.length) :
    transformTo outside operation items 0 target = items.mapM operation := by
  have written : transformTo outside operation items 0 ([] ++ (target ++ [])) =
      (items.mapM operation).map fun values => [] ++ (values ++ []) :=
    transform_to_append outside operation [] [] size
  rw [List.nil_append, List.append_nil] at written
  rw [written]
  cases items.mapM operation with
  | error error => rfl
  | ok values => simp [Except.map]

end Writing

section Throws

variable {operation : Item → Except Error Value} {items : List Item}

theorem map_returns {m : Type → Type} [Monad m] [LawfulMonad m] {operation : Item → m Value}
    {items : List Item} {result : Item → Value}
    (each : ∀ item ∈ items, operation item = pure (result item)) :
    items.mapM operation = pure (items.map result) := by
  induction items with
  | nil => rfl
  | cons item items ih =>
      have rest := ih fun other inside => each other (List.mem_cons_of_mem item inside)
      rw [List.mapM_cons, each item List.mem_cons_self, rest, pure_bind, pure_bind]
      rfl

theorem map_eq_ok_iff {values : List Value} : items.mapM operation = .ok values ↔
    List.Forall₂ (fun item value => operation item = .ok value) items values := by
  induction items generalizing values with
  | nil =>
      rw [List.forall₂_nil_left_iff]
      constructor
      · intro returned
        cases returned
        rfl
      · intro empty
        rw [empty]
        rfl
  | cons item items ih =>
      rw [List.mapM_cons, List.forall₂_cons_left_iff]
      cases first : operation item with
      | error error =>
          constructor
          · intro returned
            cases returned
          · rintro ⟨value, rest, same, _⟩
            cases same
      | ok value =>
          cases later : items.mapM operation with
          | error error =>
              constructor
              · intro returned
                cases returned
              · rintro ⟨_, rest, _, others, _⟩
                rw [ih.mpr others] at later
                cases later
          | ok rest =>
              constructor
              · intro returned
                cases returned
                exact ⟨value, rest, rfl, ih.mp later, rfl⟩
              · rintro ⟨_, _, same, others, rfl⟩
                cases same
                rw [ih.mpr others] at later
                cases later
                rfl

theorem map_throws {error : Error} (thrown : items.mapM operation = .error error) :
    ∃ item ∈ items, operation item = .error error := by
  induction items with
  | nil => cases thrown
  | cons item items ih =>
      rw [List.mapM_cons] at thrown
      cases first : operation item with
      | error raised =>
          rw [first] at thrown
          cases thrown
          exact ⟨item, List.mem_cons_self, first⟩
      | ok value =>
          rw [first] at thrown
          cases rest : items.mapM operation with
          | error raised =>
              rw [rest] at thrown
              cases thrown
              obtain ⟨other, inside, same⟩ := ih rest
              exact ⟨other, List.mem_cons_of_mem item inside, same⟩
          | ok values =>
              rw [rest] at thrown
              cases thrown

theorem map_throws_of_mem {item : Item} {error : Error} (inside : item ∈ items)
    (thrown : operation item = .error error) : ∃ raised, items.mapM operation = .error raised := by
  induction items with
  | nil => cases inside
  | cons first items ih =>
      rw [List.mapM_cons]
      cases done : operation first with
      | error raised => exact ⟨raised, rfl⟩
      | ok value =>
          have later : item ∈ items := by
            rcases List.mem_cons.mp inside with rfl | later
            · rw [done] at thrown
              cases thrown
            · exact later
          obtain ⟨raised, rest⟩ := ih later
          exact ⟨raised, by rw [rest]; rfl⟩

theorem map_range_lookup (read : Item → Option Value) (items : List Item) :
    (List.range items.length).mapM (fun index => items[index]?.bind read) = items.mapM read := by
  induction items with
  | nil => rfl
  | cons item items ih =>
      have shifted : ((fun index => (item :: items)[index]?.bind read) ∘ Nat.succ) =
          fun index => items[index]?.bind read := rfl
      rw [List.length_cons, List.range_succ_eq_map, List.mapM_cons, List.mapM_cons, List.mapM_map]
      change (read item).bind (fun value => Option.bind (List.mapM _ _) _) = _
      rw [shifted, ih]
      rfl

end Throws

section Reading

variable [DecidableEq Item]

/-- What stands before the first terminator; `none` where there is none. -/
def upTo (terminator : Item) : List Item → Option (List Item)
  | [] => none
  | item :: rest => if item = terminator then some [] else (upTo terminator rest).map (item :: ·)

theorem up_to_terminated (terminator : Item) (content rest : List Item) :
    upTo terminator (content ++ terminator :: rest) =
      some (content.takeWhile fun item => item ≠ terminator) := by
  induction content with
  | nil => simp [upTo]
  | cons item content ih =>
      rw [List.cons_append, upTo, ih]
      by_cases ends : item = terminator
      · simp [ends]
      · simp [ends]

theorem up_to_plain {terminator : Item} {content : List Item} (rest : List Item)
    (plain : terminator ∉ content) :
    upTo terminator (content ++ terminator :: rest) = some content := by
  have whole : (content.takeWhile fun item => item ≠ terminator) = content := by
    apply List.takeWhile_eq_self_iff.mpr
    intro item inside
    have other : item ≠ terminator := fun same => plain (same ▸ inside)
    simp [other]
  rw [up_to_terminated, whole]

/-- The parts before and after the first separator. -/
def cut (separator : Item) (text : List Item) : List Item × List Item :=
  (text.takeWhile fun item => item ≠ separator,
    (text.dropWhile fun item => item ≠ separator).tail)

theorem cut_append {separator : Item} {before : List Item} (after : List Item)
    (plain : separator ∉ before) :
    cut separator (before ++ separator :: after) = (before, after) := by
  have other : ∀ item ∈ before, (decide (item ≠ separator)) = true := by
    intro item inside
    have other : item ≠ separator := fun same => plain (same ▸ inside)
    simp [other]
  rw [cut, List.takeWhile_append_of_pos other, List.dropWhile_append_of_pos other]
  simp

end Reading

end ContestSystem.Lib.Arrays
