import ContestSystem.Unistd.DynamicLibrary

/-!
# Libraries that are resident

Loads and destructions under a loader that counts references. The probe of a load
asks for the name as it was given, while the file that is loaded may have another
name, and a load that is refused keeps the reference of its probe. Where neither
matters, no library is loaded twice.
-/

namespace ContestSystem.Unistd.Libraries

open ContestSystem.Lib.Ownership ContestSystem.Lib.Run
open DynamicLibrary (fname)

set_option autoImplicit false

namespace Resident

/-- `mapped` is what comes of mapping a file that is not resident. -/
inductive Action
  | load (address : Nat) (filename : String) (flags : Flags) (mapped : Except String Unit)
  | destroy (address : Nat)

-- the handle of each file, and the references that other code holds
variable (library : String ↪ Handle) (initial : Multiset Handle)

def residents (state : Libraries) : Multiset Handle :=
  initial + outstanding effect state.journal

def dlopenNoLoad (state : Libraries) (file : String) : Option Handle :=
  if library file ∈ residents initial state then some (library file) else none

def dlopen (state : Libraries) (file : String) (mapped : Except String Unit) :
    Except String Handle :=
  if library file ∈ residents initial state then .ok (library file)
  else mapped.map fun _ => library file

/-- What the constructor is told; a handle that `dlopen` returned can be closed. -/
def answered (state : Libraries) : Action → Libraries.Action
  | .load address filename flags mapped =>
      .load address filename flags (dlopenNoLoad library initial state filename)
        (dlopen library initial state (fname filename) mapped)
  | .destroy address => .destroy address none

def step (state : Libraries) (action : Action) : Option Libraries :=
  Libraries.step state (answered library initial state action)

def loaded (state : Libraries) (filename : String) (flags : Flags) (mapped : Except String Unit) :
    Except LibraryError DynamicLibrary :=
  (DynamicLibrary.load (dlopenNoLoad library initial state filename)
    (dlopen library initial state (fname filename) mapped) filename flags).1

/-- The name that is probed is resident just where the file to load is. -/
def Guard (state : Libraries) : Action → Prop
  | .load _ filename _ _ =>
      library filename ∈ residents initial state ↔
        library (fname filename) ∈ residents initial state
  | .destroy _ => True

/-- What is refused is held by no value. -/
def Unheld (state : Libraries) : Action → Prop
  | .load _ filename _ _ =>
      library filename ∈ residents initial state → library filename ∉ held holding state.store
  | .destroy _ => True

instance (state : Libraries) : ∀ action, Decidable (Guard library initial state action)
  | .load _ _ _ _ => inferInstanceAs (Decidable (_ ↔ _))
  | .destroy _ => .isTrue trivial

instance (state : Libraries) : ∀ action, Decidable (Unheld library initial state action)
  | .load _ _ _ _ => inferInstanceAs (Decidable (_ → _))
  | .destroy _ => .isTrue trivial

/-- What is expected of the libraries after a run; that one can be loaded again also takes that
no load of a library that a value held was refused. -/
structure LoadedOnce (actions : List Action) (finish : Libraries) : Prop where
  refused : ∀ earlier address filename flags mapped before,
    actions = earlier ++ [.load address filename flags mapped] →
    run (step library initial) Pool.start earlier = some before →
    library (fname filename) ∈ residents initial before →
    loaded library initial before filename flags mapped = .error (.alreadyResident filename flags)
  single : ∀ first second handle, handleAt finish first = some handle →
    handleAt finish second = some handle → first = second
  reloaded : Guarded (step library initial) (Unheld library initial) Pool.start actions →
    ∀ earlier address before handle, actions = earlier ++ [.destroy address] →
    run (step library initial) Pool.start earlier = some before →
    handleAt before address = some handle →
    (∀ other, handleAt before other = some handle → other = address) →
    handle ∉ residents initial finish ∧
    ∀ slot filename flags, library (fname filename) = handle →
      Guard library initial finish (.load slot filename flags (.ok ())) →
      loaded library initial finish filename flags (.ok ()) = .ok { handle_ := some handle }

/-- What is held is held by one value; a `strict` account also has no reference to it that was
there before or that a refused load left. -/
def Separate (strict : Prop) (inHand : Multiset Handle) (journal : List LibraryEvent) : Prop :=
  ∃ left, outstanding effect journal = left + inHand ∧ inHand.Nodup ∧
    (strict → ∀ handle ∈ inHand, handle ∉ initial + left)

/-- The guard that keeps the account. -/
def Keeping (strict : Prop) (state : Libraries) (action : Action) : Prop :=
  Guard library initial state action ∧ (strict → Unheld library initial state action)

section Step

variable {library initial} {state next : Libraries} {strict : Prop}

theorem loaded_resident {filename : String} {flags : Flags} {mapped : Except String Unit}
    (resident : library filename ∈ residents initial state) :
    loaded library initial state filename flags mapped =
      .error (.alreadyResident filename flags) := by
  rw [loaded, dlopenNoLoad, if_pos resident]
  rfl

theorem loaded_absent {filename : String} {flags : Flags}
    (unprobed : library filename ∉ residents initial state)
    (absent : library (fname filename) ∉ residents initial state) :
    loaded library initial state filename flags (.ok ()) =
      .ok { handle_ := some (library (fname filename)) } := by
  rw [loaded, dlopenNoLoad, dlopen, if_neg unprobed, if_neg absent]
  rfl

theorem refused_iff {filename : String} {flags : Flags} {mapped : Except String Unit} :
    (∃ refused refusedFlags, loaded library initial state filename flags mapped =
        .error (.alreadyResident refused refusedFlags)) ↔
      library filename ∈ residents initial state := by
  constructor
  · intro ⟨refused, refusedFlags, thrown⟩
    by_contra absent
    rw [loaded, dlopenNoLoad, if_neg absent] at thrown
    cases answer : dlopen library initial state (fname filename) mapped with
    | error dlerror =>
        rw [answer] at thrown
        cases thrown
    | ok handle =>
        rw [answer] at thrown
        cases thrown
  · intro resident
    exact ⟨filename, flags, loaded_resident resident⟩

/-- A refused load leaves one reference more than there was. -/
theorem refused_counted {address : Nat} {filename : String} {flags : Flags}
    {mapped : Except String Unit} (resident : library filename ∈ residents initial state)
    (stepped : step library initial state (.load address filename flags mapped) = some next) :
    residents initial next = library filename ::ₘ residents initial state := by
  simp only [step, answered, dlopenNoLoad, if_pos resident] at stepped
  cases stepped
  exact Multiset.add_cons _ _ _

theorem separate_takes {inHand : Multiset Handle} {journal : List LibraryEvent} {handle : Handle}
    {event : LibraryEvent} (takes : effect event = .takes handle)
    (absent : handle ∉ initial + outstanding effect journal)
    (separate : Separate initial strict inHand journal) :
    Separate initial strict (handle ::ₘ inHand) (event :: journal) := by
  obtain ⟨left, taken, nodup, apart⟩ := separate
  rw [taken, Multiset.mem_add, Multiset.mem_add] at absent
  refine ⟨left, ?_, ?_, ?_⟩
  · rw [outstanding_takes takes, taken, Multiset.add_cons]
  · exact Multiset.nodup_cons.mpr ⟨fun inside => absent (.inr (.inr inside)), nodup⟩
  · intro strictly other inside
    rcases Multiset.mem_cons.mp inside with rfl | held
    · intro before
      rcases Multiset.mem_add.mp before with initially | kept
      · exact absent (.inl initially)
      · exact absent (.inr (.inl kept))
    · exact apart strictly other held

theorem separate_leaks {inHand : Multiset Handle} {journal : List LibraryEvent} {handle : Handle}
    {event : LibraryEvent} (takes : effect event = .takes handle)
    (unheld : strict → handle ∉ inHand)
    (separate : Separate initial strict inHand journal) :
    Separate initial strict inHand (event :: journal) := by
  obtain ⟨left, taken, nodup, apart⟩ := separate
  refine ⟨handle ::ₘ left, ?_, nodup, ?_⟩
  · rw [outstanding_takes takes, taken, Multiset.cons_add]
  · intro strictly other inside before
    rw [Multiset.add_cons] at before
    rcases Multiset.mem_cons.mp before with rfl | earlier
    · exact unheld strictly inside
    · exact apart strictly other inside earlier

theorem separate_returns {inHand : Multiset Handle} {journal : List LibraryEvent} {handle : Handle}
    {event : LibraryEvent} (returns : effect event = .returns handle)
    (separate : Separate initial strict (handle ::ₘ inHand) journal) :
    Separate initial strict inHand (event :: journal) := by
  obtain ⟨left, taken, nodup, apart⟩ := separate
  refine ⟨left, ?_, (Multiset.nodup_cons.mp nodup).2, ?_⟩
  · rw [outstanding_returns returns, taken, Multiset.add_cons, Multiset.erase_cons_head]
  · intro strictly other inside
    exact apart strictly other (Multiset.mem_cons_of_mem inside)

theorem separate_nothing {inHand : Multiset Handle} {journal : List LibraryEvent}
    {event : LibraryEvent} (nothing : effect event = .nothing)
    (separate : Separate initial strict inHand journal) :
    Separate initial strict inHand (event :: journal) := by
  obtain ⟨left, taken, nodup, apart⟩ := separate
  exact ⟨left, by rw [outstanding_nothing nothing, taken], nodup, apart⟩

theorem load_separate {address : Nat} {filename : String} {flags : Flags}
    {mapped : Except String Unit}
    (guard : Keeping library initial strict state (.load address filename flags mapped))
    (separate : state.Keeps holding (Separate initial strict))
    (stepped : step library initial state (.load address filename flags mapped) = some next) :
    next.Keeps holding (Separate initial strict) := by
  obtain ⟨probed, unheld⟩ := guard
  by_cases resident : library filename ∈ residents initial state
  · simp only [step, answered, dlopenNoLoad, if_pos resident] at stepped
    cases stepped
    exact separate_leaks rfl (fun strictly => unheld strictly resident) separate
  · have absent : library (fname filename) ∉ residents initial state :=
      fun inside => resident (probed.mpr inside)
    simp only [step, answered, dlopenNoLoad, dlopen, if_neg resident, if_neg absent] at stepped
    cases mapped with
    | error dlerror =>
        cases stepped
        exact separate_nothing rfl (separate_nothing rfl separate)
    | ok _ =>
        apply Pool.construct_keeps _ separate stepped
        intro rest before
        have probe : Separate initial strict rest
            (.opened filename (flags ||| RTLD_NOLOAD) none :: state.journal) :=
          separate_nothing rfl before
        rw [holding_some, Multiset.singleton_add]
        exact separate_takes rfl absent probe

theorem destroy_separate {address : Nat} (separate : state.Keeps holding (Separate initial strict))
    (stepped : step library initial state (.destroy address) = some next) :
    next.Keeps holding (Separate initial strict) := by
  apply Pool.destroy_keeps _ separate stepped
  intro value rest _ before
  obtain ⟨_ | handle⟩ := value
  · rw [holding_none, zero_add] at before
    exact before
  · rw [holding_some, Multiset.singleton_add] at before
    exact separate_returns rfl before

theorem step_separate {action : Action} (separate : state.Keeps holding (Separate initial strict))
    (guard : Keeping library initial strict state action)
    (stepped : step library initial state action = some next) :
    next.Keeps holding (Separate initial strict) := by
  cases action with
  | load address filename flags mapped => exact load_separate guard separate stepped
  | destroy address => exact destroy_separate separate stepped

theorem holder_lookup {address : Nat} {handle : Handle}
    (holder : handleAt state address = some handle) :
    state.store.lookup address = some { handle_ := some handle } := by
  obtain ⟨value, found, holds⟩ := Option.bind_eq_some_iff.mp holder
  rw [found, ← holds]

theorem destroyed_absent {address : Nat} {handle : Handle}
    (separate : state.Keeps holding (Separate initial True))
    (stepped : step library initial state (.destroy address) = some next)
    (holder : handleAt state address = some handle) : handle ∉ residents initial next := by
  have found := holder_lookup holder
  obtain ⟨rest, split⟩ : ∃ rest, held holding state.store = handle ::ₘ rest := by
    rw [held_split found, holding_some, Multiset.singleton_add]
    exact ⟨_, rfl⟩
  obtain ⟨value, same, journal, _⟩ := Pool.destroy_cases stepped
  rw [found] at same
  cases same
  obtain ⟨left, taken, nodup, apart⟩ := separate
  rw [split] at taken nodup apart
  have outside : handle ∉ initial + left :=
    apart trivial handle (Multiset.mem_cons_self handle rest)
  have unheld : handle ∉ rest := (Multiset.nodup_cons.mp nodup).1
  have closed : residents initial next = (initial + left) + rest := by
    have returns : effect (.closed handle none) = .returns handle := rfl
    have returned : outstanding effect (.closed handle none :: state.journal) = left + rest := by
      rw [outstanding_returns returns, taken, Multiset.add_cons, Multiset.erase_cons_head]
    rw [residents, journal, add_assoc]
    exact congrArg (initial + ·) returned
  rw [closed, Multiset.mem_add]
  rintro (before | still)
  · exact outside before
  · exact unheld still

end Step

section Runs

variable {library initial} {finish : Libraries} {actions : List Action}

theorem run_separate (strict : Prop)
    (guarded : Guarded (step library initial) (Keeping library initial strict) Pool.start actions)
    (executed : run (step library initial) Pool.start actions = some finish) :
    finish.Keeps holding (Separate initial strict) := by
  have start : (Pool.start : Libraries).Keeps holding (Separate initial strict) :=
    ⟨0, rfl, Multiset.nodup_zero,
      fun _ handle inside => absurd inside (Multiset.notMem_zero handle)⟩
  exact guarded_invariant (fun state => state.Keeps holding (Separate initial strict))
    (fun _ _ _ separate guard => step_separate separate guard) start guarded executed

theorem loaded_once (guarded : Guarded (step library initial) (Guard library initial) Pool.start
      actions)
    (executed : run (step library initial) Pool.start actions = some finish) :
    LoadedOnce library initial actions finish := by
  refine ⟨?_, ?_, ?_⟩
  · intro earlier address filename flags mapped before split reached resident
    subst split
    obtain ⟨last, lastReached, probed, _⟩ := guarded_last guarded executed
    rw [reached] at lastReached
    cases lastReached
    exact loaded_resident (probed.mpr resident)
  · intro first second handle foundFirst foundSecond
    have keeping : Guarded (step library initial) (Keeping library initial False) Pool.start
        actions := guarded_mono (fun _ _ guard => ⟨guard, False.elim⟩) guarded
    obtain ⟨left, taken, nodup, _⟩ := run_separate False keeping executed
    have holds : handle ∈ holding { handle_ := some handle } := by simp
    exact holder_unique nodup (holder_lookup foundFirst) (holder_lookup foundSecond) holds holds
  · intro unheld earlier address before handle split reached holder only
    subst split
    have keeping : Guarded (step library initial) (Keeping library initial True) Pool.start
        (earlier ++ [.destroy address]) :=
      guarded_mono (fun _ _ both => ⟨both.1, fun _ => both.2⟩) (guarded_and guarded unheld)
    obtain ⟨last, lastReached, _, stepped⟩ := guarded_last guarded executed
    rw [reached] at lastReached
    cases lastReached
    have separate := run_separate True (guarded_earlier keeping) reached
    have absent := destroyed_absent separate stepped holder
    refine ⟨absent, ?_⟩
    intro slot filename flags same probed
    rw [← same] at absent ⊢
    exact loaded_absent (fun resident => absent (probed.mp resident)) absent

end Runs

def code : List Char → Nat
  | [] => 0
  | character :: rest => character.toNat + 1 + 0x110001 * code rest

theorem char_bound (character : Char) : character.toNat < 0x110000 := by
  rcases character.valid with low | ⟨_, high⟩
  · exact Nat.lt_trans low (by decide)
  · exact high

theorem code_injective : Function.Injective code := by
  intro first
  induction first with
  | nil =>
      intro second same
      cases second with
      | nil => rfl
      | cons character rest =>
          simp only [code] at same
          omega
  | cons character rest ih =>
      intro second same
      cases second with
      | nil =>
          simp only [code] at same
          omega
      | cons other others =>
          simp only [code] at same
          have bound := char_bound character
          have otherBound := char_bound other
          have sameRest : code rest = code others := by omega
          have sameCharacter : character.toNat = other.toNat := by omega
          rw [Char.toNat_inj.mp sameCharacter, ih sameRest]

def byName : String ↪ Handle :=
  ⟨fun file => code file.toList, fun _ _ same => String.toList_inj.mp (code_injective same)⟩

/-- A library is loaded, destroyed and loaded again; one that is resident from the
start is refused in between. -/
theorem loaded_once_again :
    let initial : Multiset Handle := {byName "/lib/c.so"}
    let actions : List Action :=
      [.load 0 "/a.so" 2 (.ok ()), .load 1 "/lib/c.so" 2 (.ok ()), .destroy 0,
        .load 2 "/a.so" 2 (.ok ())]
    ∃ finish, run (step byName initial) Pool.start actions = some finish ∧
      LoadedOnce byName initial actions finish := by
  intro initial actions
  have guarded : Guarded (step byName initial) (Guard byName initial) Pool.start actions := by
    decide
  exact ⟨_, rfl, loaded_once guarded rfl⟩

/-- The probe for "m" does not find the library that a load of "m" has left resident. -/
theorem bare_name_loaded_twice :
    let actions : List Action := [.load 0 "m" 2 (.ok ()), .load 1 "m" 2 (.ok ())]
    ∃ finish, run (step byName 0) Pool.start actions = some finish ∧
      ¬LoadedOnce byName 0 actions finish := by
  intro actions
  refine ⟨_, rfl, ?_⟩
  intro once
  exact absurd (once.single 0 1 _ rfl rfl) (by decide)

end Resident

end ContestSystem.Unistd.Libraries
