import Mathlib.Data.List.Range
import Mathlib.Logic.Function.Basic

/-!
# Numbered slots

A table whose slots are numbered from 0 and of which finitely many are taken. A
new value goes to the lowest free slot, as a kernel numbers open files.
-/

namespace ContestSystem.Lib

set_option autoImplicit false

/-- From `bound` on all slots are free. -/
structure Slots (Value : Type*) where
  slot : Nat → Option Value
  bound : Nat
  bounded : ∀ number, bound ≤ number → slot number = none

namespace Slots

variable {Value : Type*} {slots other : Slots Value} {number : Nat} {value : Value}

def lowest (slots : Slots Value) : Nat :=
  (List.range slots.bound).findIdx fun number => (slots.slot number).isNone

theorem lowest_le_bound (slots : Slots Value) : slots.lowest ≤ slots.bound := by
  have short : slots.lowest ≤ (List.range slots.bound).length := List.findIdx_le_length
  rwa [List.length_range] at short

theorem taken_below (below : number < slots.lowest) : slots.slot number ≠ none := by
  have taken := List.not_of_lt_findIdx below
  rw [List.getElem_range, Option.isNone_eq_false_iff] at taken
  exact Option.isSome_iff_ne_none.mp taken

@[simp] theorem slot_lowest (slots : Slots Value) : slots.slot slots.lowest = none := by
  rcases Nat.lt_or_eq_of_le slots.lowest_le_bound with inside | atEnd
  · have short : (List.range slots.bound).findIdx (fun number => (slots.slot number).isNone) <
        (List.range slots.bound).length := by
      rw [List.length_range]
      exact inside
    have free := List.findIdx_getElem (w := short)
    rw [List.getElem_range] at free
    exact Option.isNone_iff_eq_none.mp free
  · exact slots.bounded slots.lowest (Nat.le_of_eq atEnd.symm)

theorem lowest_le (free : slots.slot number = none) : slots.lowest ≤ number := by
  by_contra less
  exact taken_below (Nat.lt_of_not_le less) free

theorem lowest_eq (free : slots.slot other.lowest = none)
    (taken : ∀ number, number < other.lowest → slots.slot number ≠ none) :
    slots.lowest = other.lowest := by
  apply Nat.le_antisymm (lowest_le free)
  by_contra less
  exact taken slots.lowest (Nat.lt_of_not_le less) (slot_lowest slots)

def set (slots : Slots Value) (number : Nat) (value : Value) : Slots Value where
  slot := Function.update slots.slot number (some value)
  bound := max slots.bound (number + 1)
  bounded := by
    intro other beyond
    rw [Function.update_of_ne (by omega)]
    exact slots.bounded other (by omega)

def erase (slots : Slots Value) (number : Nat) : Slots Value where
  slot := Function.update slots.slot number none
  bound := slots.bound
  bounded := by
    intro other beyond
    rw [Function.update_apply]
    split
    · rfl
    · exact slots.bounded other beyond

@[simp] theorem slot_set (slots : Slots Value) (number : Nat) (value : Value) (probe : Nat) :
    (slots.set number value).slot probe =
      if probe = number then some value else slots.slot probe :=
  Function.update_apply ..

@[simp] theorem slot_erase (slots : Slots Value) (number probe : Nat) :
    (slots.erase number).slot probe = if probe = number then none else slots.slot probe :=
  Function.update_apply ..

theorem lowest_lt_lowest_set (slots : Slots Value) (value : Value) :
    slots.lowest < (slots.set slots.lowest value).lowest := by
  by_contra notAbove
  have free := slot_lowest (slots.set slots.lowest value)
  rw [slot_set] at free
  split at free
  · cases free
  next different =>
      have below := Nat.lt_of_le_of_ne (Nat.le_of_not_lt notAbove) different
      exact taken_below below free

def empty (Value : Type*) : Slots Value where
  slot _ := none
  bound := 0
  bounded _ _ := rfl

end Slots

end ContestSystem.Lib
