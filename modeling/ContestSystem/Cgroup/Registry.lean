import Mathlib.Data.Multiset.Count
import Mathlib.Data.Finset.Card
import ContestSystem.Cgroup.SingleControlGroup
import ContestSystem.Lib.Forest

/-!
# The registry of control group objects

`Sound` describes the heap between the indivisible changes that constructors,
destructors and pointer copies make to it: what `children_` lists, what an
object and its parent have in common and what a reference count counts. `held`
are the pointers that no object of the heap owns. Each kind of change is a
`Transition`, and every transition keeps the heap sound.
-/

namespace ContestSystem.Cgroup.Registry

open SingleControlGroup

set_option autoImplicit false

abbrev Heap := ObjectId → Option SingleControlGroup

/-- What construction settles about an object for its lifetime. -/
structure Wired (group : SingleControlGroup) : Prop where
  hierarchy : group.systemInfo_.info.byHierarchyId group.hierarchyId = .ok group.hierarchyInfo_
  mounted : group.hierarchyInfo_.mountpoint = some group.location_.mountpoint
  locatedHierarchy : group.location_.hierarchyId = group.hierarchyId
  locatedGroup : group.location_.controlGroup = group.controlGroup_
  ordinary : ∀ name ∈ group.controlGroup_, name.IsOrdinary

/-- `below` is the direct child `name` of `above`. -/
structure Extends (above below : SingleControlGroup) (name : Component) : Prop where
  controlGroup : below.controlGroup_ = above.controlGroup_ ++ [name]
  systemInfo : below.systemInfo_ = above.systemInfo_
  hierarchyInfo : below.hierarchyInfo_ = above.hierarchyInfo_

structure Sound (objects : Heap) (fresh : ObjectId) (held : Multiset ObjectId) : Prop where
  bounded : ∀ id group, objects id = some group → id < fresh
  heldLive : ∀ id ∈ held, ∃ group, objects id = some group
  wired : ∀ id group, objects id = some group → Wired group
  top : ∀ id group, objects id = some group → group.parent_ = none → group.controlGroup_ = []
  linked : ∀ id group parent, objects id = some group → group.parent_ = some parent →
    parent < id ∧ ∃ above name, objects parent = some above ∧ Extends above group name ∧
      above.children_.lookup name = some id
  registered : ∀ id group name child, objects id = some group →
    group.children_.lookup name = some child →
      ∃ below, objects child = some below ∧ below.parent_ = some id ∧
        below.filename = some name
  counted : ∀ id group, objects id = some group →
    group.references = held.count id + group.children_.keys.card
  positive : ∀ id group, objects id = some group → 0 < group.references

theorem sound_empty : Sound (fun _ => none) 0 0 := by
  constructor <;> intros <;> simp_all

section Facts

variable {objects : Heap} {fresh : ObjectId} {held : Multiset ObjectId}

theorem extends_filename {above below : SingleControlGroup} {name : Component}
    (extends_ : Extends above below name) : below.filename = some name := by
  simp [filename, extends_.controlGroup]

theorem registered_iff (sound : Sound objects fresh held) {id : ObjectId}
    {group : SingleControlGroup} (live : objects id = some group) (name : Component)
    (child : ObjectId) :
    group.children_.lookup name = some child ↔
      ∃ below, objects child = some below ∧ below.parent_ = some id ∧
        below.filename = some name := by
  constructor
  · exact sound.registered id group name child live
  · rintro ⟨below, childLive, parentAt, named⟩
    obtain ⟨_, above, last, aboveLive, extends_, listed⟩ :=
      sound.linked child below id childLive parentAt
    have sameName := Option.some.inj (named.symm.trans (extends_filename extends_))
    have sameGroup := Option.some.inj (live.symm.trans aboveLive)
    rw [sameGroup, sameName]
    exact listed

theorem fresh_not_live (sound : Sound objects fresh held) : objects fresh = none := by
  cases live : objects fresh with
  | none => rfl
  | some group => exact absurd (sound.bounded fresh group live) (Nat.lt_irrefl fresh)

theorem fresh_not_held (sound : Sound objects fresh held) : fresh ∉ held := by
  intro member
  obtain ⟨group, live⟩ := sound.heldLive fresh member
  rw [fresh_not_live sound] at live
  cases live

theorem keys_card_insert {Value : Type} (children : Finmap fun _ : Component => Value)
    (name : Component) (value : Value) (absent : children.lookup name = none) :
    (children.insert name value).keys.card = children.keys.card + 1 := by
  have keys : (children.insert name value).keys = insert name children.keys := by
    ext probe
    simp [Finmap.mem_keys, Finmap.mem_insert]
  rw [keys, Finset.card_insert_of_notMem]
  rw [Finmap.mem_keys]
  exact Finmap.lookup_eq_none.mp absent

theorem keys_card_erase {Value : Type} (children : Finmap fun _ : Component => Value)
    (name : Component) (value : Value) (present : children.lookup name = some value) :
    (children.erase name).keys.card + 1 = children.keys.card := by
  rw [Finmap.keys_erase, Finset.card_erase_add_one]
  rw [Finmap.mem_keys]
  exact Finmap.mem_of_lookup_eq_some present

/-- The last pointer to an object is held outside the heap only if it has no children. -/
theorem childless_of_last_reference (sound : Sound objects fresh held) {id : ObjectId}
    {group : SingleControlGroup} (live : objects id = some group) (member : id ∈ held)
    (last : group.references = 1) :
    held.count id = 1 ∧ ∀ other below, objects other = some below → below.parent_ ≠ some id := by
  have counted := sound.counted id group live
  have positive : 0 < held.count id := Multiset.count_pos.mpr member
  have childless : group.children_.keys.card = 0 := by omega
  refine ⟨by omega, ?_⟩
  intro other below otherLive parentAt
  obtain ⟨_, above, name, aboveLive, _, listed⟩ :=
    sound.linked other below id otherLive parentAt
  have sameGroup := Option.some.inj (live.symm.trans aboveLive)
  have key : name ∈ group.children_.keys := by
    rw [Finmap.mem_keys, sameGroup]
    exact Finmap.mem_of_lookup_eq_some listed
  rw [Finset.card_eq_zero.mp childless] at key
  simp at key

theorem wired_same {old new : SingleControlGroup} (wired : Wired old)
    (same : new = { old with references := new.references, children_ := new.children_ }) :
    Wired new := by
  rw [same]
  exact ⟨wired.hierarchy, wired.mounted, wired.locatedHierarchy, wired.locatedGroup,
    wired.ordinary⟩

theorem wired_recount {group : SingleControlGroup} (wired : Wired group) (references : Nat) :
    Wired { group with references := references } :=
  wired_same wired rfl

theorem extends_same {above above' below below' : SingleControlGroup} {name : Component}
    (extends_ : Extends above below name)
    (sameAbove : above' =
      { above with references := above'.references, children_ := above'.children_ })
    (sameBelow : below' =
      { below with references := below'.references, children_ := below'.children_ }) :
    Extends above' below' name := by
  rw [sameAbove, sameBelow]
  exact ⟨extends_.controlGroup, extends_.systemInfo, extends_.hierarchyInfo⟩

theorem ne_of_mem_erase {id other : ObjectId} (once : held.count id = 1)
    (inside : other ∈ held.erase id) : other ≠ id := by
  intro same
  have count : 0 < (held.erase id).count id := Multiset.count_pos.mpr (same ▸ inside)
  rw [Multiset.count_erase_self, once] at count
  exact absurd count (Nat.lt_irrefl 0)

theorem before_recount {id other : ObjectId} {group changed : SingleControlGroup}
    {references : Nat} (live : objects id = some group)
    (found : Function.update objects id (some { group with references := references }) other =
      some changed) :
    ∃ original, objects other = some original ∧
      changed = { original with references := changed.references } := by
  rw [Function.update_apply] at found
  split at found
  next same =>
      cases found
      exact ⟨group, same ▸ live, rfl⟩
  next => exact ⟨changed, found, rfl⟩

theorem after_recount {id other : ObjectId} {group original : SingleControlGroup}
    (references : Nat) (live : objects id = some group) (found : objects other = some original) :
    ∃ count, Function.update objects id (some { group with references := references }) other =
      some { original with references := count } := by
  rw [Function.update_apply]
  split
  next same =>
      rw [same, live, Option.some.injEq] at found
      exact ⟨references, by rw [found]⟩
  next => exact ⟨original.references, found⟩

theorem sound_recount (sound : Sound objects fresh held) {id : ObjectId}
    {group : SingleControlGroup} (live : objects id = some group) {held' : Multiset ObjectId}
    {references : Nat} (counted : references = held'.count id + group.children_.keys.card)
    (positive : 0 < references)
    (others : ∀ other, other ≠ id → held'.count other = held.count other) :
    Sound (Function.update objects id (some { group with references := references })) fresh
      held' := by
  constructor
  · intro other changed found
    obtain ⟨original, originalLive, _⟩ := before_recount live found
    exact sound.bounded other original originalLive
  · intro other member
    have originally : ∃ original, objects other = some original := by
      by_cases same : other = id
      · exact ⟨group, same ▸ live⟩
      · have count : 0 < held.count other := by
          rw [← others other same]
          exact Multiset.count_pos.mpr member
        exact sound.heldLive other (Multiset.count_pos.mp count)
    obtain ⟨original, originalLive⟩ := originally
    obtain ⟨count, found⟩ := after_recount references live originalLive
    exact ⟨_, found⟩
  · intro other changed found
    obtain ⟨original, originalLive, same⟩ := before_recount live found
    rw [same]
    exact wired_recount (sound.wired other original originalLive) _
  · intro other changed found atTop
    obtain ⟨original, originalLive, same⟩ := before_recount live found
    rw [same] at atTop ⊢
    exact sound.top other original originalLive atTop
  · intro other changed parent found parentAt
    obtain ⟨original, originalLive, same⟩ := before_recount live found
    rw [same] at parentAt ⊢
    obtain ⟨older, above, name, aboveLive, extends_, listed⟩ :=
      sound.linked other original parent originalLive parentAt
    obtain ⟨count, aboveFound⟩ := after_recount references live aboveLive
    exact ⟨older, _, name, aboveFound, ⟨extends_.controlGroup, extends_.systemInfo,
      extends_.hierarchyInfo⟩, listed⟩
  · intro other changed name child found listed
    obtain ⟨original, originalLive, same⟩ := before_recount live found
    rw [same] at listed
    obtain ⟨below, belowLive, parentAt, named⟩ :=
      sound.registered other original name child originalLive listed
    obtain ⟨count, belowFound⟩ := after_recount references live belowLive
    exact ⟨_, belowFound, parentAt, named⟩
  · intro other changed found
    rw [Function.update_apply] at found
    split at found
    next same =>
        cases found
        rw [same]
        exact counted
    next different =>
        rw [others other different]
        exact sound.counted other changed found
  · intro other changed found
    rw [Function.update_apply] at found
    split at found
    next =>
        cases found
        exact positive
    next => exact sound.positive other changed found

theorem sound_insert_root (sound : Sound objects fresh held) {group : SingleControlGroup}
    (wired : Wired group) (atTop : group.parent_ = none) (atRoot : group.controlGroup_ = [])
    (childless : group.children_ = ∅) (counted : group.references = 1) :
    Sound (Function.update objects fresh (some group)) (fresh + 1) (fresh ::ₘ held) := by
  have old : ∀ other, other ≠ fresh →
      Function.update objects fresh (some group) other = objects other :=
    fun other different => Function.update_of_ne different _ _
  have new : Function.update objects fresh (some group) fresh = some group :=
    Function.update_self _ _ _
  have live : ∀ other original, objects other = some original →
      Function.update objects fresh (some group) other = some original := by
    intro other original found
    rw [old other (Nat.ne_of_lt (sound.bounded other original found)), found]
  have cases : ∀ other changed,
      Function.update objects fresh (some group) other = some changed →
      other = fresh ∧ changed = group ∨ other ≠ fresh ∧ objects other = some changed := by
    intro other changed found
    by_cases isFresh : other = fresh
    · rw [isFresh, new] at found
      exact .inl ⟨isFresh, (Option.some.inj found).symm⟩
    · rw [old other isFresh] at found
      exact .inr ⟨isFresh, found⟩
  constructor
  · intro other changed found
    rcases cases other changed found with ⟨rfl, _⟩ | ⟨_, originally⟩
    · exact Nat.lt_succ_self _
    · exact Nat.lt_succ_of_lt (sound.bounded other changed originally)
  · intro other member
    rcases Multiset.mem_cons.mp member with rfl | inside
    · exact ⟨group, new⟩
    · obtain ⟨original, originally⟩ := sound.heldLive other inside
      exact ⟨original, live other original originally⟩
  · intro other changed found
    rcases cases other changed found with ⟨_, rfl⟩ | ⟨_, originally⟩
    · exact wired
    · exact sound.wired other changed originally
  · intro other changed found parentAt
    rcases cases other changed found with ⟨_, rfl⟩ | ⟨_, originally⟩
    · exact atRoot
    · exact sound.top other changed originally parentAt
  · intro other changed parent found parentAt
    rcases cases other changed found with ⟨_, rfl⟩ | ⟨_, originally⟩
    · rw [atTop] at parentAt
      cases parentAt
    · obtain ⟨older, above, name, aboveLive, rest⟩ :=
        sound.linked other changed parent originally parentAt
      exact ⟨older, above, name, live parent above aboveLive, rest⟩
  · intro other changed name child found listed
    rcases cases other changed found with ⟨_, rfl⟩ | ⟨_, originally⟩
    · simp [childless] at listed
    · obtain ⟨below, belowLive, rest⟩ :=
        sound.registered other changed name child originally listed
      exact ⟨below, live child below belowLive, rest⟩
  · intro other changed found
    rcases cases other changed found with ⟨rfl, rfl⟩ | ⟨different, originally⟩
    · rw [counted, childless, Multiset.count_cons_self,
        Multiset.count_eq_zero_of_notMem (fresh_not_held sound)]
      simp
    · rw [Multiset.count_cons_of_ne different]
      exact sound.counted other changed originally
  · intro other changed found
    rcases cases other changed found with ⟨_, rfl⟩ | ⟨_, originally⟩
    · omega
    · exact sound.positive other changed originally

/-- `objects'` is `objects` with the constructed child `below`, listed by its parent. -/
structure Adoption (objects objects' : Heap) (fresh start : ObjectId)
    (above below : SingleControlGroup) (name : Component) : Prop where
  live : objects start = some above
  unregistered : above.children_.lookup name = none
  extends_ : Extends above below name
  parentAt : below.parent_ = some start
  childless : below.children_ = ∅
  atFresh : objects' fresh = some below
  atParent : objects' start = some { above with
    references := above.references + 1
    children_ := above.children_.insert name fresh }
  elsewhere : ∀ other, other ≠ fresh → other ≠ start → objects' other = objects other

section Adoption

variable {objects' : Heap} {self : ObjectId} {above below : SingleControlGroup}
  {name : Component}

theorem adoption_cases (adoption : Adoption objects objects' fresh self above below name)
    {other : ObjectId} {changed : SingleControlGroup} (found : objects' other = some changed) :
    other = fresh ∧ changed = below ∨
      other = self ∧ changed = { above with
        references := above.references + 1
        children_ := above.children_.insert name fresh } ∨
      other ≠ fresh ∧ other ≠ self ∧ objects other = some changed := by
  by_cases isFresh : other = fresh
  · rw [isFresh, adoption.atFresh] at found
    exact .inl ⟨isFresh, (Option.some.inj found).symm⟩
  · by_cases isSelf : other = self
    · rw [isSelf, adoption.atParent] at found
      exact .inr (.inl ⟨isSelf, (Option.some.inj found).symm⟩)
    · rw [adoption.elsewhere other isFresh isSelf] at found
      exact .inr (.inr ⟨isFresh, isSelf, found⟩)

theorem adoption_before (adoption : Adoption objects objects' fresh self above below name)
    {other : ObjectId} {changed : SingleControlGroup} (found : objects' other = some changed)
    (notFresh : other ≠ fresh) : ∃ original, objects other = some original ∧
      changed = { original with
        references := changed.references
        children_ := changed.children_ } := by
  rcases adoption_cases adoption found with ⟨isFresh, _⟩ | ⟨isSelf, same⟩ | ⟨_, _, originally⟩
  · exact absurd isFresh notFresh
  · exact ⟨above, isSelf ▸ adoption.live, by rw [same]⟩
  · exact ⟨changed, originally, rfl⟩

theorem adoption_after (sound : Sound objects fresh held)
    (adoption : Adoption objects objects' fresh self above below name) {other : ObjectId}
    {original : SingleControlGroup} (found : objects other = some original) :
    ∃ changed, objects' other = some changed ∧
      changed = { original with
        references := changed.references
        children_ := changed.children_ } ∧
      ∀ listedName child, original.children_.lookup listedName = some child →
        changed.children_.lookup listedName = some child := by
  by_cases isSelf : other = self
  · rw [isSelf] at found ⊢
    rw [Option.some.inj (found.symm.trans adoption.live)]
    refine ⟨_, adoption.atParent, rfl, ?_⟩
    intro listedName child listed
    have different : listedName ≠ name := by
      intro same
      rw [same, adoption.unregistered] at listed
      cases listed
    rw [Finmap.lookup_insert_of_ne _ different]
    exact listed
  · have notFresh := Nat.ne_of_lt (sound.bounded other original found)
    exact ⟨original, (adoption.elsewhere other notFresh isSelf).trans found, rfl, fun _ _ => id⟩

theorem adoption_linked (sound : Sound objects fresh held)
    (adoption : Adoption objects objects' fresh self above below name) {other parent : ObjectId}
    {changed : SingleControlGroup} (found : objects' other = some changed)
    (parentIs : changed.parent_ = some parent) :
    parent < other ∧ ∃ upper last, objects' parent = some upper ∧ Extends upper changed last ∧
      upper.children_.lookup last = some other := by
  by_cases isFresh : other = fresh
  · rw [isFresh, adoption.atFresh] at found
    cases found
    have isSelf := Option.some.inj (adoption.parentAt.symm.trans parentIs)
    rw [← isSelf, isFresh]
    exact ⟨sound.bounded self above adoption.live, _, name, adoption.atParent,
      extends_same adoption.extends_ rfl rfl, by simp⟩
  · rcases adoption_before adoption found isFresh with ⟨original, originally, same⟩
    rw [same] at parentIs
    rcases sound.linked other original parent originally parentIs with
      ⟨older, upper, last, upperLive, chain, listed⟩
    rcases adoption_after sound adoption upperLive with
      ⟨upper', upperFound, sameUpper, stillListed⟩
    exact ⟨older, upper', last, upperFound, extends_same chain sameUpper same,
      stillListed last other listed⟩

theorem adoption_registered (sound : Sound objects fresh held)
    (adoption : Adoption objects objects' fresh self above below name) {other child : ObjectId}
    {changed : SingleControlGroup} {listedName : Component}
    (found : objects' other = some changed)
    (listed : changed.children_.lookup listedName = some child) :
    ∃ lower, objects' child = some lower ∧ lower.parent_ = some other ∧
      lower.filename = some listedName := by
  have lift : ∀ original, objects other = some original →
      original.children_.lookup listedName = some child →
      ∃ lower, objects' child = some lower ∧ lower.parent_ = some other ∧
        lower.filename = some listedName := by
    intro original originally originalListed
    rcases sound.registered other original listedName child originally originalListed with
      ⟨lower, lowerLive, lowerParent, lowerNamed⟩
    rcases adoption_after sound adoption lowerLive with ⟨lower', lowerFound, sameLower, _⟩
    rw [sameLower] at lowerFound
    exact ⟨_, lowerFound, lowerParent, lowerNamed⟩
  rcases adoption_cases adoption found with ⟨_, same⟩ | ⟨isSelf, same⟩ | ⟨_, _, originally⟩
  · rw [same, adoption.childless] at listed
    simp at listed
  · rw [same] at listed
    by_cases sameName : listedName = name
    · rw [sameName, Finmap.lookup_insert] at listed
      rw [← Option.some.inj listed, isSelf, sameName]
      exact ⟨below, adoption.atFresh, adoption.parentAt, extends_filename adoption.extends_⟩
    · rw [Finmap.lookup_insert_of_ne _ sameName] at listed
      exact lift above (isSelf ▸ adoption.live) listed
  · exact lift changed originally listed

theorem adoption_counted (sound : Sound objects fresh held)
    (adoption : Adoption objects objects' fresh self above below name)
    (counted : below.references = 1) {other : ObjectId} {changed : SingleControlGroup}
    (found : objects' other = some changed) :
    changed.references = (fresh ::ₘ held).count other + changed.children_.keys.card := by
  rcases adoption_cases adoption found with
    ⟨isFresh, same⟩ | ⟨isSelf, same⟩ | ⟨notFresh, _, originally⟩
  · rw [isFresh, same, counted, adoption.childless, Multiset.count_cons_self,
      Multiset.count_eq_zero_of_notMem (fresh_not_held sound)]
    simp
  · have countedSelf := sound.counted self above adoption.live
    have selfOld := Nat.ne_of_lt (sound.bounded self above adoption.live)
    rw [isSelf, same, Multiset.count_cons_of_ne selfOld,
      keys_card_insert _ _ _ adoption.unregistered]
    simp only
    omega
  · rw [Multiset.count_cons_of_ne notFresh]
    exact sound.counted other changed originally

theorem sound_adopt (sound : Sound objects fresh held)
    (adoption : Adoption objects objects' fresh self above below name) (wired : Wired below)
    (counted : below.references = 1) : Sound objects' (fresh + 1) (fresh ::ₘ held) := by
  have selfOld : self < fresh := sound.bounded self above adoption.live
  constructor
  · intro other changed found
    rcases adoption_cases adoption found with ⟨isFresh, _⟩ | ⟨isSelf, _⟩ | ⟨_, _, originally⟩
    · rw [isFresh]
      exact Nat.lt_succ_self _
    · rw [isSelf]
      exact Nat.lt_succ_of_lt selfOld
    · exact Nat.lt_succ_of_lt (sound.bounded other changed originally)
  · intro other member
    rcases Multiset.mem_cons.mp member with isFresh | inside
    · exact ⟨below, isFresh ▸ adoption.atFresh⟩
    · rcases sound.heldLive other inside with ⟨original, originally⟩
      rcases adoption_after sound adoption originally with ⟨changed, found, _⟩
      exact ⟨changed, found⟩
  · intro other changed found
    by_cases isFresh : other = fresh
    · rw [isFresh, adoption.atFresh] at found
      exact Option.some.inj found ▸ wired
    · rcases adoption_before adoption found isFresh with ⟨original, originally, same⟩
      exact wired_same (sound.wired other original originally) same
  · intro other changed found atTop
    by_cases isFresh : other = fresh
    · rw [isFresh, adoption.atFresh] at found
      cases found
      rw [adoption.parentAt] at atTop
      cases atTop
    · rcases adoption_before adoption found isFresh with ⟨original, originally, same⟩
      rw [same] at atTop ⊢
      exact sound.top other original originally atTop
  · intro other changed parent found parentIs
    exact adoption_linked sound adoption found parentIs
  · intro other changed listedName child found listed
    exact adoption_registered sound adoption found listed
  · intro other changed found
    exact adoption_counted sound adoption counted found
  · intro other changed found
    rcases adoption_cases adoption found with ⟨_, same⟩ | ⟨_, same⟩ | ⟨_, _, originally⟩
    · rw [same, counted]
      exact Nat.one_pos
    · rw [same]
      exact Nat.succ_pos _
    · exact sound.positive other changed originally

end Adoption

theorem sound_destroy_root (sound : Sound objects fresh held) {id : ObjectId}
    {group : SingleControlGroup} (live : objects id = some group) (member : id ∈ held)
    (last : group.references = 1) (atTop : group.parent_ = none) :
    Sound (Function.update objects id none) fresh (held.erase id) := by
  obtain ⟨once, childless⟩ := childless_of_last_reference sound live member last
  have before : ∀ other changed, Function.update objects id none other = some changed →
      other ≠ id ∧ objects other = some changed := by
    intro other changed found
    rw [Function.update_apply] at found
    split at found
    next => cases found
    next different => exact ⟨different, found⟩
  have after : ∀ other original, other ≠ id → objects other = some original →
      Function.update objects id none other = some original := by
    intro other original different found
    rw [Function.update_of_ne different, found]
  constructor
  · intro other changed found
    exact sound.bounded other changed (before other changed found).2
  · intro other inside
    have different := ne_of_mem_erase once inside
    obtain ⟨original, originally⟩ := sound.heldLive other (Multiset.mem_of_mem_erase inside)
    exact ⟨original, after other original different originally⟩
  · intro other changed found
    exact sound.wired other changed (before other changed found).2
  · intro other changed found
    exact sound.top other changed (before other changed found).2
  · intro other changed parent found parentAt
    have originally := (before other changed found).2
    obtain ⟨older, above, name, aboveLive, rest⟩ :=
      sound.linked other changed parent originally parentAt
    have notSelf : parent ≠ id := by
      rintro rfl
      exact childless other changed originally parentAt
    exact ⟨older, above, name, after parent above notSelf aboveLive, rest⟩
  · intro other changed name child found listed
    obtain ⟨below, belowLive, parentAt, named⟩ :=
      sound.registered other changed name child (before other changed found).2 listed
    have notSelf : child ≠ id := by
      rintro rfl
      rw [Option.some.inj (belowLive.symm.trans live), atTop] at parentAt
      cases parentAt
    exact ⟨below, after child below notSelf belowLive, parentAt, named⟩
  · intro other changed found
    obtain ⟨different, originally⟩ := before other changed found
    rw [Multiset.count_erase_of_ne different]
    exact sound.counted other changed originally
  · intro other changed found
    exact sound.positive other changed (before other changed found).2

/-- `objects'` is `objects` without the child `id`, which its parent no longer lists. -/
structure Removal (objects objects' : Heap) (id parent : ObjectId)
    (group above : SingleControlGroup) (name : Component) : Prop where
  live : objects id = some group
  parentAt : group.parent_ = some parent
  aboveLive : objects parent = some above
  listed : above.children_.lookup name = some id
  atSelf : objects' id = none
  atParent : objects' parent = some { above with children_ := above.children_.erase name }
  elsewhere : ∀ other, other ≠ id → other ≠ parent → objects' other = objects other

section Removal

variable {objects' : Heap} {id parent : ObjectId} {group above : SingleControlGroup}
  {name : Component}

theorem lister_unique (sound : Sound objects fresh held)
    (removal : Removal objects objects' id parent group above name) {other : ObjectId}
    {original : SingleControlGroup} {listedName : Component}
    (originally : objects other = some original)
    (originalListed : original.children_.lookup listedName = some id) :
    other = parent ∧ listedName = name := by
  rcases sound.registered other original listedName id originally originalListed with
    ⟨below, belowLive, belowParent, named⟩
  rcases sound.registered parent above name id removal.aboveLive removal.listed with
    ⟨lower, lowerLive, _, lowerNamed⟩
  rw [Option.some.inj (belowLive.symm.trans removal.live)] at belowParent named
  rw [Option.some.inj (lowerLive.symm.trans removal.live)] at lowerNamed
  exact ⟨Option.some.inj (belowParent.symm.trans removal.parentAt),
    Option.some.inj (named.symm.trans lowerNamed)⟩

theorem removal_before (sound : Sound objects fresh held)
    (removal : Removal objects objects' id parent group above name) {other : ObjectId}
    {changed : SingleControlGroup} (found : objects' other = some changed) :
    other ≠ id ∧ ∃ original, objects other = some original ∧
      changed = { original with children_ := changed.children_ } ∧
      ∀ listedName child, changed.children_.lookup listedName = some child →
        original.children_.lookup listedName = some child ∧ child ≠ id := by
  have notSelf : other ≠ id := by
    intro same
    rw [same, removal.atSelf] at found
    cases found
  refine ⟨notSelf, ?_⟩
  by_cases isParent : other = parent
  · rw [isParent, removal.atParent] at found
    cases found
    refine ⟨above, isParent ▸ removal.aboveLive, rfl, ?_⟩
    intro listedName child childListed
    have notName : listedName ≠ name := by
      intro same
      rw [same, Finmap.lookup_erase] at childListed
      cases childListed
    simp only [Finmap.lookup_erase_ne notName] at childListed
    refine ⟨childListed, ?_⟩
    intro isSelf
    rw [isSelf] at childListed
    exact notName (lister_unique sound removal removal.aboveLive childListed).2
  · rw [removal.elsewhere other notSelf isParent] at found
    refine ⟨changed, found, rfl, ?_⟩
    intro listedName child childListed
    refine ⟨childListed, ?_⟩
    intro isSelf
    rw [isSelf] at childListed
    exact isParent (lister_unique sound removal found childListed).1

theorem removal_after (removal : Removal objects objects' id parent group above name)
    {other : ObjectId} {original : SingleControlGroup} (notSelf : other ≠ id)
    (originally : objects other = some original) :
    ∃ changed, objects' other = some changed ∧
      changed = { original with children_ := changed.children_ } ∧
      ∀ listedName child, child ≠ id → original.children_.lookup listedName = some child →
        changed.children_.lookup listedName = some child := by
  by_cases isParent : other = parent
  · rw [isParent] at originally ⊢
    rw [← Option.some.inj (removal.aboveLive.symm.trans originally)]
    refine ⟨_, removal.atParent, rfl, ?_⟩
    intro listedName child notId childListed
    have notName : listedName ≠ name := by
      intro same
      rw [same] at childListed
      exact notId (Option.some.inj (childListed.symm.trans removal.listed))
    rw [Finmap.lookup_erase_ne notName]
    exact childListed
  · exact ⟨original, (removal.elsewhere other notSelf isParent).trans originally, rfl,
      fun _ _ _ already => already⟩

theorem removal_linked (sound : Sound objects fresh held)
    (removal : Removal objects objects' id parent group above name)
    (childless : ∀ other below, objects other = some below → below.parent_ ≠ some id)
    {other upper : ObjectId} {changed : SingleControlGroup}
    (found : objects' other = some changed) (upperAt : changed.parent_ = some upper) :
    upper < other ∧ ∃ aboveOther last, objects' upper = some aboveOther ∧
      Extends aboveOther changed last ∧ aboveOther.children_.lookup last = some other := by
  rcases removal_before sound removal found with ⟨notSelf, original, originally, same, _⟩
  rw [same] at upperAt
  rcases sound.linked other original upper originally upperAt with
    ⟨older, aboveOther, last, upperLive, chain, otherListed⟩
  have upperNotSelf : upper ≠ id := by
    intro isSelf
    rw [isSelf] at upperAt
    exact childless other original originally upperAt
  rcases removal_after removal upperNotSelf upperLive with
    ⟨aboveOther', upperFound, sameUpper, stillListed⟩
  have chain' : Extends aboveOther' changed last := by
    rw [sameUpper, same]
    exact ⟨chain.controlGroup, chain.systemInfo, chain.hierarchyInfo⟩
  exact ⟨older, aboveOther', last, upperFound, chain', stillListed last other notSelf otherListed⟩

theorem removal_registered (sound : Sound objects fresh held)
    (removal : Removal objects objects' id parent group above name) {other child : ObjectId}
    {changed : SingleControlGroup} {listedName : Component}
    (found : objects' other = some changed)
    (childListed : changed.children_.lookup listedName = some child) :
    ∃ below, objects' child = some below ∧ below.parent_ = some other ∧
      below.filename = some listedName := by
  rcases removal_before sound removal found with ⟨_, original, originally, _, fromOriginal⟩
  rcases fromOriginal listedName child childListed with ⟨originalListed, notId⟩
  rcases sound.registered other original listedName child originally originalListed with
    ⟨below, belowLive, belowParent, named⟩
  rcases removal_after removal notId belowLive with ⟨below', belowFound, sameBelow, _⟩
  rw [sameBelow] at belowFound
  exact ⟨_, belowFound, belowParent, named⟩

theorem removal_counted (sound : Sound objects fresh held)
    (removal : Removal objects objects' id parent group above name) {other : ObjectId}
    {changed : SingleControlGroup} (found : objects' other = some changed) :
    changed.references =
      (parent ::ₘ held.erase id).count other + changed.children_.keys.card := by
  have notSelf := (removal_before sound removal found).1
  by_cases isParent : other = parent
  · rw [isParent] at found notSelf ⊢
    rw [removal.atParent] at found
    cases found
    have counted := sound.counted parent above removal.aboveLive
    have fewer := keys_card_erase above.children_ name id removal.listed
    rw [Multiset.count_cons_self, Multiset.count_erase_of_ne notSelf]
    simp only
    omega
  · rw [removal.elsewhere other notSelf isParent] at found
    rw [Multiset.count_cons_of_ne isParent, Multiset.count_erase_of_ne notSelf]
    exact sound.counted other changed found

/-- The last pointer to a child goes; the pointer of the child to its parent is
released next and counts as held until then. -/
theorem sound_destroy_child (sound : Sound objects fresh held)
    (removal : Removal objects objects' id parent group above name) (member : id ∈ held)
    (last : group.references = 1) : Sound objects' fresh (parent ::ₘ held.erase id) := by
  rcases childless_of_last_reference sound removal.live member last with ⟨once, childless⟩
  constructor
  · intro other changed found
    rcases removal_before sound removal found with ⟨_, original, originally, _⟩
    exact sound.bounded other original originally
  · intro other inside
    rcases Multiset.mem_cons.mp inside with isParent | before
    · exact ⟨_, isParent ▸ removal.atParent⟩
    · rcases sound.heldLive other (Multiset.mem_of_mem_erase before) with ⟨original, originally⟩
      rcases removal_after removal (ne_of_mem_erase once before) originally with
        ⟨changed, found, _⟩
      exact ⟨changed, found⟩
  · intro other changed found
    rcases removal_before sound removal found with ⟨_, original, originally, same, _⟩
    have wired := sound.wired other original originally
    rw [same]
    exact wired_same wired rfl
  · intro other changed found atTop
    rcases removal_before sound removal found with ⟨_, original, originally, same, _⟩
    rw [same] at atTop ⊢
    exact sound.top other original originally atTop
  · intro other changed upper found upperAt
    exact removal_linked sound removal childless found upperAt
  · intro other changed listedName child found childListed
    exact removal_registered sound removal found childListed
  · intro other changed found
    exact removal_counted sound removal found
  · intro other changed found
    rcases removal_before sound removal found with ⟨_, original, originally, same, _⟩
    rw [same]
    exact sound.positive other original originally

end Removal

end Facts

end ContestSystem.Cgroup.Registry
