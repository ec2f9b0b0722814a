import Mathlib.Data.Multiset.Bind
import ContestSystem.Lib.Unordered

/-!
# Who owns a resource

Values sit in the slots of a store and hold resources. A journal, newest entry
first, records which resources were taken from outside and which were returned.
`held` counts what the values hold, `outstanding` what has been taken and not
returned. Where every operation keeps the two equal, no resource is lost, none
is returned twice and none is returned by a value that does not own it.
-/

namespace ContestSystem.Lib.Ownership

open ContestSystem.Lib.Unordered

set_option autoImplicit false

section Stores

variable {Slot Value Resource : Type*}

abbrev Store (Slot Value : Type*) := AList fun _ : Slot => Value

def held (holding : Value → Multiset Resource) (store : Store Slot Value) : Multiset Resource :=
  (store.entries : Multiset ((_ : Slot) × Value)).bind fun entry => holding entry.2

@[simp] theorem held_empty (holding : Value → Multiset Resource) :
    held holding (∅ : Store Slot Value) = 0 := rfl

theorem bind_cons (holding : Value → Multiset Resource) (slot : Slot) (value : Value)
    (entries : List ((_ : Slot) × Value)) :
    ((⟨slot, value⟩ :: entries : List ((_ : Slot) × Value)) :
        Multiset ((_ : Slot) × Value)).bind (fun entry => holding entry.2) =
      holding value +
        (entries : Multiset ((_ : Slot) × Value)).bind fun entry => holding entry.2 := by
  rw [← Multiset.cons_coe, Multiset.cons_bind]

variable [DecidableEq Slot] {holding : Value → Multiset Resource} {store : Store Slot Value}

theorem held_insert_erase (slot : Slot) (value : Value) :
    held holding (store.insert slot value) = holding value + held holding (store.erase slot) := by
  rw [held, AList.entries_insert, bind_cons]
  rfl

theorem held_insert_fresh {slot : Slot} (fresh : slot ∉ store) (value : Value) :
    held holding (store.insert slot value) = holding value + held holding store := by
  rw [held, AList.entries_insert_of_notMem fresh, bind_cons]
  rfl

theorem held_split {slot : Slot} {value : Value} (found : store.lookup slot = some value) :
    held holding store = holding value + held holding (store.erase slot) := by
  have known : slot ∈ store.entries.keys := by
    rw [← AList.keys, ← AList.mem_keys, ← AList.lookup_isSome, found]
    rfl
  obtain ⟨other, before, after, absent, split, erased⟩ := List.exists_of_kerase known
  have same : other = value := by
    have looked : store.entries.dlookup slot = some value := found
    rw [split, List.dlookup_append, List.dlookup_eq_none.mpr absent, Option.none_or,
      List.dlookup_cons_eq] at looked
    exact Option.some.inj looked
  have middle : (store.entries : Multiset ((_ : Slot) × Value)) =
      (⟨slot, value⟩ :: List.kerase slot store.entries : List ((_ : Slot) × Value)) := by
    rw [erased, split, same]
    exact Multiset.coe_eq_coe.mpr List.perm_middle
  rw [held, middle, bind_cons]
  rfl

theorem held_update {slot : Slot} {value : Value} (found : store.lookup slot = some value) :
    ∃ rest, held holding store = holding value + rest ∧
      held holding (store.erase slot) = rest ∧
      ∀ next, held holding (store.insert slot next) = holding next + rest :=
  ⟨_, held_split found, rfl, fun next => held_insert_erase slot next⟩

theorem held_update_two {first second : Slot} (different : first ≠ second) {one two : Value}
    (foundFirst : store.lookup first = some one) (foundSecond : store.lookup second = some two) :
    ∃ rest, held holding store = holding one + (holding two + rest) ∧
      ∀ nextOne nextTwo, held holding ((store.insert first nextOne).insert second nextTwo) =
        holding nextOne + (holding nextTwo + rest) := by
  have foundRest : (store.erase first).lookup second = some two := by
    rw [AList.lookup_erase_ne different.symm, foundSecond]
  refine ⟨held holding ((store.erase first).erase second), ?_, ?_⟩
  · rw [held_split foundFirst, held_split foundRest]
  · intro nextOne nextTwo
    have foundNext : (store.insert first nextOne).lookup second = some two := by
      rw [AList.lookup_insert_ne different.symm, foundSecond]
    have both : held holding (store.insert first nextOne) =
        holding two + held holding ((store.insert first nextOne).erase second) :=
      held_split foundNext
    rw [held_insert_erase, held_split foundRest] at both
    rw [held_insert_erase]
    have rest : held holding ((store.insert first nextOne).erase second) =
        holding nextOne + held holding ((store.erase first).erase second) := by
      rw [← add_right_inj (holding two), ← both]
      exact add_left_comm _ _ _
    rw [rest]
    exact add_left_comm _ _ _

theorem holder_unique (nodup : (held holding store).Nodup) {first second : Slot}
    {one two : Value} (foundFirst : store.lookup first = some one)
    (foundSecond : store.lookup second = some two) {resource : Resource}
    (inFirst : resource ∈ holding one) (inSecond : resource ∈ holding two) : first = second := by
  by_contra different
  obtain ⟨rest, split, _⟩ : ∃ rest, held holding store =
      holding one + (holding two + rest) ∧ _ := held_update_two different foundFirst foundSecond
  rw [split, Multiset.nodup_add] at nodup
  exact Multiset.disjoint_left.mp nodup.2.2 inFirst (Multiset.mem_add.mpr (.inl inSecond))

end Stores

section Journals

/-- What an entry of a journal does to a resource. -/
inductive Effect (Resource : Type*)
  | takes (resource : Resource)
  | returns (resource : Resource)
  | nothing
deriving DecidableEq

variable {Event Resource : Type*}

/-- Every entry was allowed by the journal before it. -/
def Accounted (Allowed : List Event → Event → Prop) : List Event → Prop
  | [] => True
  | event :: earlier => Allowed earlier event ∧ Accounted Allowed earlier

theorem accounted_at {Allowed : List Event → Event → Prop} {later earlier : List Event}
    {event : Event} (accounted : Accounted Allowed (later ++ event :: earlier)) :
    Allowed earlier event := by
  induction later with
  | nil => exact accounted.1
  | cons first later ih => exact ih accounted.2

theorem accounted_suffix {Allowed : List Event → Event → Prop} {later earlier : List Event}
    (accounted : Accounted Allowed (later ++ earlier)) : Accounted Allowed earlier := by
  induction later with
  | nil => exact accounted
  | cons first later ih => exact ih accounted.2

variable [DecidableEq Resource] (effect : Event → Effect Resource)

/-- What has been taken and not returned. -/
def outstanding : List Event → Multiset Resource
  | [] => 0
  | event :: earlier =>
      match effect event with
      | .takes resource => resource ::ₘ outstanding earlier
      | .returns resource => (outstanding earlier).erase resource
      | .nothing => outstanding earlier

/-- Only what is outstanding is returned. -/
def Honest : List Event → Prop :=
  Accounted fun earlier event =>
    ∀ resource, effect event = .returns resource → resource ∈ outstanding effect earlier

/-- Nothing that is outstanding is taken. -/
def Exclusive : List Event → Prop :=
  Accounted fun earlier event =>
    ∀ resource, effect event = .takes resource → resource ∉ outstanding effect earlier

variable {effect} {event : Event} {resource : Resource} {journal : List Event}

theorem outstanding_takes (takes : effect event = .takes resource) :
    outstanding effect (event :: journal) = resource ::ₘ outstanding effect journal := by
  simp only [outstanding, takes]

theorem outstanding_returns (returns : effect event = .returns resource) :
    outstanding effect (event :: journal) = (outstanding effect journal).erase resource := by
  simp only [outstanding, returns]

theorem outstanding_nothing (nothing : effect event = .nothing) :
    outstanding effect (event :: journal) = outstanding effect journal := by
  simp only [outstanding, nothing]

/-- A resource was taken as often as it was returned, and once more for each
time it is outstanding. -/
theorem taken_eq_returned (honest : Honest effect journal) (resource : Resource) :
    journal.countP (fun event => effect event = .takes resource) =
      journal.countP (fun event => effect event = .returns resource) +
        (outstanding effect journal).count resource := by
  induction journal with
  | nil => rfl
  | cons event earlier ih =>
      have before := ih honest.2
      cases kind : effect event with
      | takes other =>
          rw [outstanding_takes kind]
          by_cases same : other = resource
          · subst same
            simp [kind, Multiset.count_cons_self]
            omega
          · simp [kind, same, Multiset.count_cons_of_ne (Ne.symm same)]
            omega
      | returns other =>
          rw [outstanding_returns kind]
          by_cases same : other = resource
          · subst same
            have member := Multiset.count_pos.mpr (honest.1 other kind)
            simp [kind, Multiset.count_erase_self]
            omega
          · simp [kind, same, Multiset.count_erase_of_ne (Ne.symm same)]
            omega
      | nothing =>
          rw [outstanding_nothing kind]
          simp [kind]
          omega

theorem outstanding_nodup (exclusive : Exclusive effect journal) :
    (outstanding effect journal).Nodup := by
  induction journal with
  | nil => exact Multiset.nodup_zero
  | cons event earlier ih =>
      have before := ih exclusive.2
      cases kind : effect event with
      | takes other =>
          rw [outstanding_takes kind]
          exact Multiset.nodup_cons.mpr ⟨exclusive.1 other kind, before⟩
      | returns other =>
          rw [outstanding_returns kind]
          exact before.erase other
      | nothing =>
          rw [outstanding_nothing kind]
          exact before

theorem taken_of_outstanding {middle earlier : List Event}
    (absent : resource ∉ outstanding effect earlier)
    (present : resource ∈ outstanding effect (middle ++ earlier)) :
    ∃ event ∈ middle, effect event = .takes resource := by
  induction middle with
  | nil => exact absurd present absent
  | cons event middle ih =>
      by_cases before : resource ∈ outstanding effect (middle ++ earlier)
      · obtain ⟨taking, member, takes⟩ := ih before
        exact ⟨taking, List.mem_cons_of_mem _ member, takes⟩
      · refine ⟨event, List.mem_cons_self, ?_⟩
        rw [List.cons_append] at present
        cases kind : effect event with
        | takes other =>
            rw [outstanding_takes kind] at present
            rcases Multiset.mem_cons.mp present with rfl | inside
            · rfl
            · exact absurd inside before
        | returns other =>
            rw [outstanding_returns kind] at present
            exact absurd (Multiset.mem_of_mem_erase present) before
        | nothing =>
            rw [outstanding_nothing kind] at present
            exact absurd present before

theorem taken_between_returns (honest : Honest effect journal)
    (exclusive : Exclusive effect journal) {later middle earlier : List Event}
    {first second : Event} (split : journal = later ++ second :: (middle ++ first :: earlier))
    (returnsFirst : effect first = .returns resource)
    (returnsSecond : effect second = .returns resource) :
    ∃ event ∈ middle, effect event = .takes resource := by
  subst split
  have absent : resource ∉ outstanding effect (first :: earlier) := by
    rw [outstanding_returns returnsFirst]
    have nodup : (outstanding effect earlier).Nodup :=
      outstanding_nodup (accounted_suffix (accounted_suffix exclusive).2).2
    exact nodup.notMem_erase
  exact taken_of_outstanding absent (accounted_at honest resource returnsSecond)

theorem returned_of_absent {middle earlier : List Event}
    (present : resource ∈ outstanding effect earlier)
    (absent : resource ∉ outstanding effect (middle ++ earlier)) :
    ∃ event ∈ middle, effect event = .returns resource := by
  induction middle with
  | nil => exact absurd present absent
  | cons event middle ih =>
      by_cases after : resource ∈ outstanding effect (middle ++ earlier)
      · refine ⟨event, List.mem_cons_self, ?_⟩
        rw [List.cons_append] at absent
        cases kind : effect event with
        | takes other =>
            rw [outstanding_takes kind] at absent
            exact absurd (Multiset.mem_cons_of_mem after) absent
        | returns other =>
            rw [outstanding_returns kind] at absent
            by_cases same : other = resource
            · rw [same]
            · exact absurd ((Multiset.mem_erase_of_ne (Ne.symm same)).mpr after) absent
        | nothing =>
            rw [outstanding_nothing kind] at absent
            exact absurd after absent
      · obtain ⟨returning, member, returns⟩ := ih after
        exact ⟨returning, List.mem_cons_of_mem _ member, returns⟩

theorem returned_while_untaken {segment earlier : List Event}
    (honest : Honest effect (segment ++ earlier))
    (untaken : ∀ event ∈ segment, effect event ≠ .takes resource) :
    segment.countP (fun event => effect event = .returns resource) +
        (outstanding effect (segment ++ earlier)).count resource =
      (outstanding effect earlier).count resource := by
  induction segment with
  | nil => simp
  | cons event segment ih =>
      have before := ih honest.2 fun other member => untaken other (List.mem_cons_of_mem _ member)
      have here := untaken event List.mem_cons_self
      rw [List.cons_append]
      cases kind : effect event with
      | takes other =>
          have different : other ≠ resource := by
            intro same
            exact here (by rw [kind, same])
          rw [outstanding_takes kind, Multiset.count_cons_of_ne different.symm,
            List.countP_cons_of_neg (by simp [kind])]
          exact before
      | returns other =>
          rw [outstanding_returns kind]
          by_cases same : other = resource
          · subst same
            have member : 0 < (outstanding effect (segment ++ earlier)).count other :=
              Multiset.count_pos.mpr (honest.1 other kind)
            rw [Multiset.count_erase_self, List.countP_cons_of_pos (by simp [kind])]
            omega
          · rw [Multiset.count_erase_of_ne (Ne.symm same),
              List.countP_cons_of_neg (by simp [kind, same])]
            exact before
      | nothing =>
          rw [outstanding_nothing kind, List.countP_cons_of_neg (by simp [kind])]
          exact before

/-- From a take until the resource is taken again, or is not outstanding any
more, it is returned once. -/
theorem returned_once (honest : Honest effect journal) (exclusive : Exclusive effect journal)
    {later segment earlier : List Event} {taking : Event}
    (split : journal = later ++ (segment ++ taking :: earlier))
    (takes : effect taking = .takes resource)
    (untaken : ∀ event ∈ segment, effect event ≠ .takes resource)
    (ends : (∃ rest again, later = rest ++ [again] ∧ effect again = .takes resource) ∨
      resource ∉ outstanding effect (segment ++ taking :: earlier)) :
    segment.countP (fun event => effect event = .returns resource) = 1 := by
  subst split
  have absent : resource ∉ outstanding effect (segment ++ taking :: earlier) := by
    rcases ends with ⟨rest, again, rfl, takesAgain⟩ | absent
    · rw [List.append_assoc] at exclusive
      exact accounted_at exclusive resource takesAgain
    · exact absent
  have counted := returned_while_untaken (accounted_suffix honest) untaken
  have before := accounted_at (accounted_suffix exclusive) resource takes
  rw [Multiset.count_eq_zero.mpr absent, outstanding_takes takes, Multiset.count_cons_self,
    Multiset.count_eq_zero.mpr before] at counted
  exact counted

/-- What is held is what the journal says is outstanding. -/
structure Conserved (effect : Event → Effect Resource) (inHand : Multiset Resource)
    (journal : List Event) : Prop where
  honest : Honest effect journal
  balanced : inHand = outstanding effect journal

/-- In addition nothing is held twice. -/
structure Linear (effect : Event → Effect Resource) (inHand : Multiset Resource)
    (journal : List Event) : Prop extends Conserved effect inHand journal where
  exclusive : Exclusive effect journal

theorem conserved_empty : Conserved effect 0 [] := ⟨trivial, rfl⟩

theorem linear_empty : Linear effect 0 [] := ⟨conserved_empty, trivial⟩

variable {inHand : Multiset Resource}

theorem Conserved.takes (conserved : Conserved effect inHand journal)
    (takes : effect event = .takes resource) :
    Conserved effect (resource ::ₘ inHand) (event :: journal) where
  honest := by
    refine ⟨?_, conserved.honest⟩
    intro other returns
    rw [takes] at returns
    cases returns
  balanced := by rw [outstanding_takes takes, conserved.balanced]

theorem Conserved.returns (conserved : Conserved effect (resource ::ₘ inHand) journal)
    (returns : effect event = .returns resource) :
    Conserved effect inHand (event :: journal) where
  honest := by
    refine ⟨?_, conserved.honest⟩
    intro other returnsOther
    rw [returns] at returnsOther
    cases returnsOther
    rw [← conserved.balanced]
    exact Multiset.mem_cons_self _ _
  balanced := by
    rw [outstanding_returns returns, ← conserved.balanced, Multiset.erase_cons_head]

theorem Conserved.nothing (conserved : Conserved effect inHand journal)
    (nothing : effect event = .nothing) : Conserved effect inHand (event :: journal) where
  honest := by
    refine ⟨?_, conserved.honest⟩
    intro other returns
    rw [nothing] at returns
    cases returns
  balanced := by rw [outstanding_nothing nothing, conserved.balanced]

theorem Linear.takes (linear : Linear effect inHand journal)
    (takes : effect event = .takes resource) (fresh : resource ∉ inHand) :
    Linear effect (resource ::ₘ inHand) (event :: journal) where
  toConserved := linear.toConserved.takes takes
  exclusive := by
    refine ⟨?_, linear.exclusive⟩
    intro other takesOther
    rw [takes] at takesOther
    cases takesOther
    rw [← linear.balanced]
    exact fresh

theorem Linear.returns (linear : Linear effect (resource ::ₘ inHand) journal)
    (returns : effect event = .returns resource) :
    Linear effect inHand (event :: journal) where
  toConserved := linear.toConserved.returns returns
  exclusive := by
    refine ⟨?_, linear.exclusive⟩
    intro other takes
    rw [returns] at takes
    cases takes

end Journals

end ContestSystem.Lib.Ownership
