import Mathlib.Data.List.AList
import Mathlib.Data.List.Dedup

/-!
# Iteration order of unordered containers

An unordered set is described by the sequence of values inserted into it and
an unordered map by an association list; the order in which either is iterated
is some function of that history. `HashOrder` is any such function: it visits
every value once. Nothing more is assumed, so that a result about all
`HashOrder`s holds for every hash function and bucket layout.
-/

namespace ContestSystem.Lib.Unordered

set_option autoImplicit false

variable {Value : Type*}

structure HashOrder (Value : Type*) where
  arrange : List Value → List Value
  nodup : ∀ inserted, (arrange inserted).Nodup
  mem_iff : ∀ inserted value, value ∈ arrange inserted ↔ value ∈ inserted

def insertionOrder [DecidableEq Value] : HashOrder Value where
  arrange := List.dedup
  nodup := List.nodup_dedup
  mem_iff _ _ := List.mem_dedup

theorem arrange_perm (order : HashOrder Value) {inserted : List Value}
    (distinct : inserted.Nodup) : (order.arrange inserted).Perm inserted :=
  (List.perm_ext_iff_of_nodup (order.nodup inserted) distinct).mpr (order.mem_iff inserted)

theorem arrange_eq_nil_iff (order : HashOrder Value) (inserted : List Value) :
    order.arrange inserted = [] ↔ inserted = [] := by
  constructor
  · intro empty
    apply List.eq_nil_iff_forall_not_mem.mpr
    intro value member
    simpa [empty] using (order.mem_iff inserted value).mpr member
  · intro empty
    apply List.eq_nil_iff_forall_not_mem.mpr
    intro value member
    simpa [empty] using (order.mem_iff inserted value).mp member

variable {Key : Type*} [DecidableEq Key]

theorem lookup_insert_eq (map : AList fun _ : Key => Value) (key probe : Key)
    (value : Value) :
    (map.insert key value).lookup probe =
      if probe = key then some value else map.lookup probe := by
  by_cases same : probe = key
  · subst same
    simp
  · rw [AList.lookup_insert_ne same, if_neg same]

theorem dlookup_cons_eq_ite (entries : List ((_ : Key) × Value)) (first probe : Key)
    (value : Value) :
    List.dlookup probe (⟨first, value⟩ :: entries) =
      if probe = first then some value else entries.dlookup probe := by
  by_cases same : probe = first
  · subst same
    rw [List.dlookup_cons_eq, if_pos rfl]
  · rw [List.dlookup_cons_ne entries ⟨first, value⟩ same, if_neg same]

theorem dlookup_kreplace (entries : List ((_ : Key) × Value)) (key probe : Key)
    (value : Value) :
    (List.kreplace key value entries).dlookup probe =
      if probe = key then (entries.dlookup key).map fun _ => value
      else entries.dlookup probe := by
  induction entries with
  | nil => simp [List.kreplace]
  | cons entry entries ih =>
      rcases entry with ⟨first, old⟩
      by_cases atKey : key = first
      · have replaced : List.kreplace key value (⟨first, old⟩ :: entries) =
            ⟨key, value⟩ :: entries :=
          List.lookmap_cons_some _ _ (by simp [atKey])
        rw [replaced, dlookup_cons_eq_ite, dlookup_cons_eq_ite, dlookup_cons_eq_ite, ← atKey]
        split <;> simp
      · have kept : List.kreplace key value (⟨first, old⟩ :: entries) =
            ⟨first, old⟩ :: List.kreplace key value entries :=
          List.lookmap_cons_none _ _ (by simp [atKey])
        rw [kept, dlookup_cons_eq_ite, dlookup_cons_eq_ite, dlookup_cons_eq_ite, ih,
          if_neg atKey]
        by_cases atFirst : probe = first
        · have notKey : probe ≠ key := fun same => atKey (same.symm.trans atFirst)
          rw [if_pos atFirst, if_neg notKey, if_pos atFirst]
        · rw [if_neg atFirst, if_neg atFirst]

theorem lookup_replace_eq (map : AList fun _ : Key => Value) (key probe : Key)
    (value : Value) :
    (map.replace key value).lookup probe =
      if probe = key then (map.lookup key).map fun _ => value else map.lookup probe :=
  dlookup_kreplace map.entries key probe value

theorem lookup_erase_eq (map : AList fun _ : Key => Value) (key probe : Key) :
    (map.erase key).lookup probe = if probe = key then none else map.lookup probe := by
  by_cases same : probe = key
  · rw [same, AList.lookup_erase, if_pos rfl]
  · rw [AList.lookup_erase_ne same, if_neg same]

/-- The values of an unordered map, each key visited once. -/
def iterate (order : HashOrder Key) (map : AList fun _ : Key => Value) : List Value :=
  (order.arrange map.keys).filterMap map.lookup

theorem mem_iterate_iff (order : HashOrder Key) (map : AList fun _ : Key => Value)
    (value : Value) : value ∈ iterate order map ↔ ∃ key, map.lookup key = some value := by
  simp only [iterate, List.mem_filterMap, order.mem_iff]
  constructor
  · rintro ⟨key, _, found⟩
    exact ⟨key, found⟩
  · rintro ⟨key, found⟩
    refine ⟨key, ?_, found⟩
    rw [← AList.mem_keys, ← AList.lookup_isSome, found]
    rfl

theorem iterate_perm (order : HashOrder Key) (map : AList fun _ : Key => Value) :
    (iterate order map).Perm (map.entries.map Sigma.snd) := by
  have listed : map.keys.filterMap map.lookup = map.entries.map Sigma.snd := by
    have found : ∀ entry ∈ map.entries, map.lookup entry.1 = some entry.2 :=
      fun _ member => AList.mem_lookup_iff.mpr member
    rw [AList.keys, List.keys, List.filterMap_map, ← List.filterMap_eq_map]
    exact List.filterMap_congr found
  rw [← listed]
  exact (arrange_perm order map.keys_nodup).filterMap map.lookup

theorem iterate_map_nodup (order : HashOrder Key) (map : AList fun _ : Key => Value)
    (keyOf : Value → Key)
    (keyed : ∀ key value, map.lookup key = some value → keyOf value = key) :
    ((iterate order map).map keyOf).Nodup := by
  have distinct := order.nodup map.keys
  simp only [iterate]
  generalize order.arrange map.keys = keys at distinct
  induction keys with
  | nil => simp
  | cons key keys ih =>
      obtain ⟨fresh, rest⟩ := List.nodup_cons.mp distinct
      cases found : map.lookup key with
      | none => simpa [found] using ih rest
      | some value =>
          simp only [List.filterMap_cons, found, List.map_cons, List.nodup_cons]
          refine ⟨?_, ih rest⟩
          rw [keyed key value found]
          intro repeated
          obtain ⟨other, otherAt, sameKey⟩ := List.mem_map.mp repeated
          obtain ⟨otherKey, member, otherFound⟩ := List.mem_filterMap.mp otherAt
          rw [keyed otherKey other otherFound] at sameKey
          exact fresh (sameKey ▸ member)

end ContestSystem.Lib.Unordered
