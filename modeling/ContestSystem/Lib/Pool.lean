import ContestSystem.Lib.Ownership
import ContestSystem.Lib.Run

/-!
# Values that call each other's member functions

A pool is a store of values and the journal of what their member functions did
outside. A member function changes one value, two of them, or makes a new one
from another. `Accounts` relates what the values hold to the journal; it is
proved for each member function with the rest of the store as a parameter.
-/

namespace ContestSystem.Lib.Ownership

open ContestSystem.Lib.Unordered

set_option autoImplicit false

structure Pool (Slot Value Event : Type*) where
  store : Store Slot Value
  journal : List Event

namespace Pool

variable {Slot Value Event Resource : Type*} [DecidableEq Slot]

def start : Pool Slot Value Event :=
  { store := ∅, journal := [] }

def construct (slot : Slot) (value : Value) (events : List Event)
    (pool : Pool Slot Value Event) : Option (Pool Slot Value Event) :=
  if slot ∈ pool.store then none
  else some { store := pool.store.insert slot value, journal := events ++ pool.journal }

/-- A new value made from another one, which changes too. -/
def constructFrom (slot source : Slot) (call : Value → (Value × Value) × List Event)
    (pool : Pool Slot Value Event) : Option (Pool Slot Value Event) :=
  if slot ∈ pool.store then none
  else (pool.store.lookup source).map fun value =>
    { store := (pool.store.insert source (call value).1.2).insert slot (call value).1.1
      journal := (call value).2 ++ pool.journal }

def record (events : List Event) (pool : Pool Slot Value Event) : Pool Slot Value Event :=
  { pool with journal := events ++ pool.journal }

def change (slot : Slot) (call : Value → Option (Value × List Event))
    (pool : Pool Slot Value Event) : Option (Pool Slot Value Event) :=
  (pool.store.lookup slot).bind fun value =>
    (call value).map fun result =>
      { store := pool.store.insert slot result.1, journal := result.2 ++ pool.journal }

/-- A call that changes two different values. -/
def changeTwo (first second : Slot) (call : Value → Value → (Value × Value) × List Event)
    (pool : Pool Slot Value Event) : Option (Pool Slot Value Event) :=
  if first = second then none
  else (pool.store.lookup first).bind fun one =>
    (pool.store.lookup second).map fun two =>
      { store := (pool.store.insert first (call one two).1.1).insert second (call one two).1.2
        journal := (call one two).2 ++ pool.journal }

def destroy (slot : Slot) (call : Value → List Event) (pool : Pool Slot Value Event) :
    Option (Pool Slot Value Event) :=
  (pool.store.lookup slot).map fun value =>
    { store := pool.store.erase slot, journal := call value ++ pool.journal }

variable {holding : Value → Multiset Resource} {pool next : Pool Slot Value Event}
  {Before After : Multiset Resource → List Event → Prop}

/-- The accounts of a whole pool. -/
def Keeps (holding : Value → Multiset Resource)
    (Accounts : Multiset Resource → List Event → Prop) (pool : Pool Slot Value Event) : Prop :=
  Accounts (held holding pool.store) pool.journal

theorem construct_keeps {slot : Slot} {value : Value} {events : List Event}
    (kept : ∀ rest, Before rest pool.journal →
      After (holding value + rest) (events ++ pool.journal))
    (keeps : pool.Keeps holding Before)
    (stepped : pool.construct slot value events = some next) : next.Keeps holding After := by
  unfold construct at stepped
  split at stepped
  · cases stepped
  · rename_i fresh
    cases stepped
    rw [Keeps, held_insert_fresh fresh]
    exact kept _ keeps

theorem construct_from_keeps {slot source : Slot}
    {call : Value → (Value × Value) × List Event}
    (kept : ∀ value rest, pool.store.lookup source = some value →
      Before (holding value + rest) pool.journal →
      After (holding (call value).1.1 + (holding (call value).1.2 + rest))
        ((call value).2 ++ pool.journal))
    (keeps : pool.Keeps holding Before)
    (stepped : pool.constructFrom slot source call = some next) :
    next.Keeps holding After := by
  unfold constructFrom at stepped
  split at stepped
  · cases stepped
  · rename_i fresh
    obtain ⟨value, found, rfl⟩ := Option.map_eq_some_iff.mp stepped
    obtain ⟨rest, split, _, inserted⟩ := held_update found
    have known : source ∈ pool.store := AList.lookup_isSome.mp (by rw [found]; rfl)
    have different : slot ≠ source := by
      intro same
      exact fresh (same ▸ known)
    have freshAfter : slot ∉ pool.store.insert source (call value).1.2 := by
      rw [AList.mem_insert]
      rintro (same | member)
      · exact different same
      · exact fresh member
    rw [Keeps, split] at keeps
    rw [Keeps, held_insert_fresh freshAfter, inserted]
    exact kept value rest found keeps

theorem change_keeps {slot : Slot} {call : Value → Option (Value × List Event)}
    (kept : ∀ value result rest, pool.store.lookup slot = some value →
      call value = some result → Before (holding value + rest) pool.journal →
      After (holding result.1 + rest) (result.2 ++ pool.journal))
    (keeps : pool.Keeps holding Before)
    (stepped : pool.change slot call = some next) : next.Keeps holding After := by
  obtain ⟨value, found, mapped⟩ := Option.bind_eq_some_iff.mp stepped
  obtain ⟨result, called, rfl⟩ := Option.map_eq_some_iff.mp mapped
  obtain ⟨rest, split, _, inserted⟩ := held_update found
  rw [Keeps, split] at keeps
  rw [Keeps, inserted]
  exact kept value result rest found called keeps

theorem change_two_keeps {first second : Slot}
    {call : Value → Value → (Value × Value) × List Event}
    (kept : ∀ one two rest, pool.store.lookup first = some one →
      pool.store.lookup second = some two →
      Before (holding one + (holding two + rest)) pool.journal →
      After (holding (call one two).1.1 + (holding (call one two).1.2 + rest))
        ((call one two).2 ++ pool.journal))
    (keeps : pool.Keeps holding Before)
    (stepped : pool.changeTwo first second call = some next) : next.Keeps holding After := by
  unfold changeTwo at stepped
  split at stepped
  · cases stepped
  · rename_i different
    obtain ⟨one, foundFirst, mapped⟩ := Option.bind_eq_some_iff.mp stepped
    obtain ⟨two, foundSecond, rfl⟩ := Option.map_eq_some_iff.mp mapped
    obtain ⟨rest, split, inserted⟩ :=
      held_update_two different foundFirst foundSecond
    rw [Keeps, split] at keeps
    rw [Keeps, inserted]
    exact kept one two rest foundFirst foundSecond keeps

theorem destroy_keeps {slot : Slot} {call : Value → List Event}
    (kept : ∀ value rest, pool.store.lookup slot = some value →
      Before (holding value + rest) pool.journal → After rest (call value ++ pool.journal))
    (keeps : pool.Keeps holding Before)
    (stepped : pool.destroy slot call = some next) : next.Keeps holding After := by
  obtain ⟨value, found, rfl⟩ := Option.map_eq_some_iff.mp stepped
  obtain ⟨rest, split, erased, _⟩ := held_update found
  rw [Keeps, split] at keeps
  rw [Keeps, erased]
  exact kept value rest found keeps

theorem construct_cases {slot : Slot} {value : Value} {events : List Event}
    (stepped : pool.construct slot value events = some next) :
    pool.store.lookup slot = none ∧ next.journal = events ++ pool.journal ∧
      ∀ other, next.store.lookup other =
        if other = slot then some value else pool.store.lookup other := by
  unfold construct at stepped
  split at stepped
  · cases stepped
  · rename_i fresh
    cases stepped
    exact ⟨AList.lookup_eq_none.mpr fresh, rfl, fun other => lookup_insert_eq _ _ _ _⟩

theorem construct_from_cases {slot source : Slot}
    {call : Value → (Value × Value) × List Event}
    (stepped : pool.constructFrom slot source call = some next) :
    ∃ value, pool.store.lookup slot = none ∧ pool.store.lookup source = some value ∧
      slot ≠ source ∧ next.journal = (call value).2 ++ pool.journal ∧
      ∀ other, next.store.lookup other =
        if other = slot then some (call value).1.1
        else if other = source then some (call value).1.2 else pool.store.lookup other := by
  unfold constructFrom at stepped
  split at stepped
  · cases stepped
  · rename_i fresh
    have absent : pool.store.lookup slot = none := AList.lookup_eq_none.mpr fresh
    obtain ⟨value, found, rfl⟩ := Option.map_eq_some_iff.mp stepped
    refine ⟨value, absent, found, ?_, rfl, ?_⟩
    · intro same
      rw [same, found] at absent
      cases absent
    · intro other
      rw [lookup_insert_eq, lookup_insert_eq]

theorem change_cases {slot : Slot} {call : Value → Option (Value × List Event)}
    (stepped : pool.change slot call = some next) :
    ∃ value result, pool.store.lookup slot = some value ∧ call value = some result ∧
      next.journal = result.2 ++ pool.journal ∧
      ∀ other, next.store.lookup other =
        if other = slot then some result.1 else pool.store.lookup other := by
  obtain ⟨value, found, mapped⟩ := Option.bind_eq_some_iff.mp stepped
  obtain ⟨result, called, rfl⟩ := Option.map_eq_some_iff.mp mapped
  exact ⟨value, result, found, called, rfl, fun other => lookup_insert_eq _ _ _ _⟩

theorem change_two_cases {first second : Slot}
    {call : Value → Value → (Value × Value) × List Event}
    (stepped : pool.changeTwo first second call = some next) :
    ∃ one two, pool.store.lookup first = some one ∧ pool.store.lookup second = some two ∧
      next.journal = (call one two).2 ++ pool.journal ∧
      ∀ other, next.store.lookup other =
        if other = second then some (call one two).1.2
        else if other = first then some (call one two).1.1 else pool.store.lookup other := by
  unfold changeTwo at stepped
  split at stepped
  · cases stepped
  · obtain ⟨one, foundFirst, mapped⟩ := Option.bind_eq_some_iff.mp stepped
    obtain ⟨two, foundSecond, rfl⟩ := Option.map_eq_some_iff.mp mapped
    refine ⟨one, two, foundFirst, foundSecond, rfl, ?_⟩
    intro other
    rw [lookup_insert_eq, lookup_insert_eq]

theorem destroy_cases {slot : Slot} {call : Value → List Event}
    (stepped : pool.destroy slot call = some next) :
    ∃ value, pool.store.lookup slot = some value ∧ next.journal = call value ++ pool.journal ∧
      ∀ other, next.store.lookup other =
        if other = slot then none else pool.store.lookup other := by
  obtain ⟨value, found, rfl⟩ := Option.map_eq_some_iff.mp stepped
  exact ⟨value, found, rfl, fun other => lookup_erase_eq _ _ _⟩

def All (Good : Value → Prop) (pool : Pool Slot Value Event) : Prop :=
  ∀ slot value, pool.store.lookup slot = some value → Good value

variable {Good : Value → Prop}

theorem construct_all {slot : Slot} {value : Value} {events : List Event} (new : Good value)
    (all : pool.All Good) (stepped : pool.construct slot value events = some next) :
    next.All Good := by
  obtain ⟨_, _, slots⟩ := construct_cases stepped
  intro other found lookedUp
  rw [slots] at lookedUp
  split at lookedUp
  · cases lookedUp
    exact new
  · exact all other found lookedUp

theorem construct_from_all {slot source : Slot} {call : Value → (Value × Value) × List Event}
    (both : ∀ value, Good value → Good (call value).1.1 ∧ Good (call value).1.2)
    (all : pool.All Good) (stepped : pool.constructFrom slot source call = some next) :
    next.All Good := by
  obtain ⟨value, _, found, _, _, slots⟩ := construct_from_cases stepped
  have good := both value (all source value found)
  intro other after lookedUp
  rw [slots] at lookedUp
  split at lookedUp
  · cases lookedUp
    exact good.1
  · split at lookedUp
    · cases lookedUp
      exact good.2
    · exact all other after lookedUp

theorem change_two_all {first second : Slot} {call : Value → Value → (Value × Value) × List Event}
    (both : ∀ one two, Good one → Good two →
      Good (call one two).1.1 ∧ Good (call one two).1.2)
    (all : pool.All Good) (stepped : pool.changeTwo first second call = some next) :
    next.All Good := by
  obtain ⟨one, two, foundFirst, foundSecond, _, slots⟩ := change_two_cases stepped
  have good := both one two (all first one foundFirst) (all second two foundSecond)
  intro other after lookedUp
  rw [slots] at lookedUp
  split at lookedUp
  · cases lookedUp
    exact good.2
  · split at lookedUp
    · cases lookedUp
      exact good.1
    · exact all other after lookedUp

end Pool

end ContestSystem.Lib.Ownership
