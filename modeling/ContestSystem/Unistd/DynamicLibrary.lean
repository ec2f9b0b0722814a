import ContestSystem.Lib.Pool

/-!
# Dynamic libraries

A `DynamicLibrary` holds the handle that `dlopen` returned or a null pointer.
The journal records the calls of `dlopen` and `dlclose`, newest entry first.
`close` does not reset the handle, and a move constructor starts from whatever
its storage contains. Where no step reaches either, handles are conserved.
-/

namespace ContestSystem.Unistd

open ContestSystem.Lib.Ownership ContestSystem.Lib.Run ContestSystem.Lib.Unordered

set_option autoImplicit false

abbrev Handle := Nat

abbrev Flags := BitVec 32

def RTLD_NOLOAD : Flags := 4

inductive LibraryEvent
  | opened (file : String) (flags : Flags) (handle : Option Handle)
  | closed (handle : Handle) (dlerror : Option String)
deriving DecidableEq

inductive LibraryError
  | alreadyResident (filename : String) (flags : Flags)
  | notLoaded (filename : String) (dlerror : String) (flags : Flags)
  | notClosed (dlerror : String)

structure DynamicLibrary where
  handle_ : Option Handle := none
deriving DecidableEq

namespace DynamicLibrary

/-- `filename.filename() == filename`: no separator, or a root alone. -/
def isFilename (filename : String) : Bool :=
  match filename.toList with
  | ['/'] => true
  | '/' :: '/' :: net => '/' ∉ net
  | characters => '/' ∉ characters

def fname (filename : String) : String :=
  if isFilename filename then "lib" ++ filename ++ ".so" else filename

/-- `DynamicLibrary(filename, flags)`; the probe is for the name as it was given. -/
def load (probe : Option Handle) (answer : Except String Handle) (filename : String)
    (flags : Flags) : Except LibraryError DynamicLibrary × List LibraryEvent :=
  let probed := LibraryEvent.opened filename (flags ||| RTLD_NOLOAD) probe
  match probe, answer with
  | some _, _ => (.error (.alreadyResident filename flags), [probed])
  | none, .ok handle =>
      (.ok { handle_ := some handle }, [.opened (fname filename) flags (some handle), probed])
  | none, .error dlerror =>
      (.error (.notLoaded filename dlerror flags),
        [.opened (fname filename) flags none, probed])

/-- The library is the same after the call. -/
def close (answer : Option String) (library : DynamicLibrary) :
    Except LibraryError Unit × List LibraryEvent :=
  match library.handle_, answer with
  | some handle, none => (.ok (), [.closed handle none])
  | some handle, some dlerror => (.error (.notClosed dlerror), [.closed handle (some dlerror)])
  | none, _ => (.ok (), [])

def closeNoExcept (answer : Option String) (library : DynamicLibrary) : List LibraryEvent :=
  (close answer library).2

def swap (first second : DynamicLibrary) : DynamicLibrary × DynamicLibrary :=
  ({ handle_ := second.handle_ }, { handle_ := first.handle_ })

/-- `DynamicLibrary(DynamicLibrary &&)`: `storage` is the pointer that `handle_`
has before anything is assigned to it. -/
def moveConstruct (storage : Option Handle) (answer : Option String) (source : DynamicLibrary) :
    (DynamicLibrary × DynamicLibrary) × List LibraryEvent :=
  let swapped := swap { handle_ := storage } source
  (swapped, closeNoExcept answer swapped.2)

/-- `operator=(DynamicLibrary &&)` from another object. -/
def moveAssign (answer : Option String) (target source : DynamicLibrary) :
    (DynamicLibrary × DynamicLibrary) × List LibraryEvent :=
  let swapped := swap target source
  (swapped, closeNoExcept answer swapped.2)

/-- `operator=(DynamicLibrary &&)` from the object itself: the swap does nothing. -/
def moveAssignSelf (answer : Option String) (target : DynamicLibrary) :
    DynamicLibrary × List LibraryEvent :=
  (target, closeNoExcept answer target)

def destroy (answer : Option String) (library : DynamicLibrary) : List LibraryEvent :=
  (close answer library).2

end DynamicLibrary

abbrev Libraries := Pool Nat DynamicLibrary LibraryEvent

namespace Libraries

inductive Action
  | default (address : Nat)
  | load (address : Nat) (filename : String) (flags : Flags) (probe : Option Handle)
      (answer : Except String Handle)
  | moveConstruct (address source : Nat) (storage : Option Handle) (answer : Option String)
  | moveAssign (target source : Nat) (answer : Option String)
  | swap (first second : Nat)
  | close (address : Nat) (answer : Option String)
  | destroy (address : Nat) (answer : Option String)

def step (state : Libraries) : Action → Option Libraries
  | .default address => state.construct address {} []
  | .load address filename flags probe answer =>
      match DynamicLibrary.load probe answer filename flags with
      | (.ok library, events) => state.construct address library events
      | (.error _, events) => some (state.record events)
  | .moveConstruct address source storage answer =>
      state.constructFrom address source (DynamicLibrary.moveConstruct storage answer)
  | .moveAssign target source answer =>
      if target = source then
        state.change target (some ∘ DynamicLibrary.moveAssignSelf answer)
      else state.changeTwo target source (DynamicLibrary.moveAssign answer)
  | .swap first second =>
      if first = second then state.change first fun same => some (same, [])
      else state.changeTwo first second fun one two => (DynamicLibrary.swap one two, [])
  | .close address answer =>
      state.change address fun library => some (library, (library.close answer).2)
  | .destroy address answer => state.destroy address (DynamicLibrary.destroy answer)

def handleAt (state : Libraries) (address : Nat) : Option Handle :=
  (state.store.lookup address).bind DynamicLibrary.handle_

/-- Only empty values are closed or assigned to, a value is move constructed in
storage that is null, and no probe finds a library. -/
def Guard (state : Libraries) : Action → Prop
  | .load _ _ _ probe _ => probe = none
  | .moveConstruct _ _ storage _ => storage = none
  | .moveAssign target _ _ => handleAt state target = none
  | .close address _ => handleAt state address = none
  | _ => True

instance (state : Libraries) : ∀ action, Decidable (Guard state action)
  | .load _ _ _ probe _ => inferInstanceAs (Decidable (probe = none))
  | .moveConstruct _ _ storage _ => inferInstanceAs (Decidable (storage = none))
  | .moveAssign target _ _ => inferInstanceAs (Decidable (handleAt state target = none))
  | .close address _ => inferInstanceAs (Decidable (handleAt state address = none))
  | .default _ | .swap _ _ | .destroy _ _ => .isTrue trivial

def Action.vacated : Action → Option Nat
  | .moveConstruct _ source _ _ => some source
  | .moveAssign _ source _ => some source
  | .close address _ => some address
  | _ => none

def opens (handle : Handle) (journal : List LibraryEvent) : Nat :=
  journal.countP fun event =>
    match event with
    | .opened _ _ answer => answer = some handle
    | .closed _ _ => false

def closes (handle : Handle) (journal : List LibraryEvent) : Nat :=
  journal.countP fun event =>
    match event with
    | .opened _ _ _ => false
    | .closed closed _ => closed = handle

/-- What is expected of the handles after a run. -/
structure HandlesOwned (actions : List Action) (finish : Libraries) : Prop where
  closesOpened : ∀ later handle answer earlier,
    finish.journal = later ++ .closed handle answer :: earlier →
      closes handle earlier < opens handle earlier
  vacatedEmpty : ∀ earlier action address, actions = earlier ++ [action] →
    action.vacated = some address → handleAt finish address = none
  closedOnce : finish.store = ∅ →
    ∀ handle, closes handle finish.journal = opens handle finish.journal

def effect : LibraryEvent → Effect Handle
  | .opened _ _ (some handle) => .takes handle
  | .opened _ _ none => .nothing
  | .closed handle _ => .returns handle

def holding (library : DynamicLibrary) : Multiset Handle :=
  match library.handle_ with
  | some handle => {handle}
  | none => 0

@[simp] theorem holding_some (handle : Handle) : holding { handle_ := some handle } = {handle} :=
  rfl

@[simp] theorem holding_none : holding { handle_ := none } = 0 := rfl

abbrev Accounts (inHand : Multiset Handle) (journal : List LibraryEvent) : Prop :=
  Conserved effect inHand journal

abbrev Accounted (state : Libraries) : Prop :=
  state.Keeps holding Accounts

section Step

variable {state next : Libraries} {action : Action} {rest : Multiset Handle}
  {journal : List LibraryEvent}

theorem handle_at_of_lookup {address : Nat} {library : DynamicLibrary}
    (found : state.store.lookup address = some library) :
    handleAt state address = library.handle_ := by
  rw [handleAt, found]
  rfl

theorem destroy_accounts {library : DynamicLibrary} {answer : Option String}
    (accounts : Accounts (holding library + rest) journal) :
    Accounts rest (library.destroy answer ++ journal) := by
  obtain ⟨_ | handle⟩ := library
  · rw [holding_none, zero_add] at accounts
    exact accounts
  · rw [holding_some, Multiset.singleton_add] at accounts
    cases answer with
    | none => exact accounts.returns rfl
    | some dlerror => exact accounts.returns rfl

theorem load_step {address : Nat} {filename : String} {flags : Flags}
    {answer : Except String Handle} (accounted : Accounted state)
    (stepped : step state (.load address filename flags none answer) = some next) :
    Accounted next := by
  cases answer with
  | error dlerror =>
      cases stepped
      have probed : Accounts (held holding state.store)
          (.opened filename (flags ||| RTLD_NOLOAD) none :: state.journal) := accounted.nothing rfl
      exact probed.nothing rfl
  | ok handle =>
      apply Pool.construct_keeps _ accounted stepped
      intro rest accounts
      have probed : Accounts rest
          (.opened filename (flags ||| RTLD_NOLOAD) none :: state.journal) := accounts.nothing rfl
      rw [holding_some, Multiset.singleton_add]
      exact probed.takes rfl

/-- The handle of a probe that finds the library is nobody's. -/
theorem probe_leaks {address : Nat} {filename : String} {flags : Flags} {handle : Handle}
    {answer : Except String Handle} (accounted : Accounted state)
    (stepped : step state (.load address filename flags (some handle) answer) = some next) :
    ¬Accounted next := by
  cases stepped
  intro leaked
  have before : held holding state.store = outstanding effect state.journal := accounted.balanced
  have after : held holding state.store = handle ::ₘ outstanding effect state.journal :=
    leaked.balanced
  have counted := congrArg Multiset.card after
  rw [← before, Multiset.card_cons] at counted
  omega

theorem move_construct_step {address source : Nat} {answer : Option String}
    (accounted : Accounted state)
    (stepped : step state (.moveConstruct address source none answer) = some next) :
    Accounted next := by
  apply Pool.construct_from_keeps _ accounted stepped
  intro library rest _ accounts
  have unchanged : DynamicLibrary.moveConstruct none answer library =
      ((library, { handle_ := none }), []) := by cases answer <;> rfl
  rw [unchanged, holding_none, zero_add]
  exact accounts

theorem close_nothing {library : DynamicLibrary} (holdsNone : library.handle_ = none)
    (answer : Option String) : library.closeNoExcept answer = [] := by
  unfold DynamicLibrary.closeNoExcept DynamicLibrary.close
  rw [holdsNone]

theorem move_assign_step {target source : Nat} {answer : Option String}
    (empty : handleAt state target = none) (accounted : Accounted state)
    (stepped : step state (.moveAssign target source answer) = some next) : Accounted next := by
  simp only [step] at stepped
  split at stepped
  · apply Pool.change_keeps _ accounted stepped
    intro library result rest found called accounts
    cases called
    have holdsNone : library.handle_ = none := by rw [← handle_at_of_lookup found, empty]
    rw [DynamicLibrary.moveAssignSelf, close_nothing holdsNone]
    exact accounts
  · apply Pool.change_two_keeps _ accounted stepped
    intro one two rest found _ accounts
    have holdsNone : one.handle_ = none := by rw [← handle_at_of_lookup found, empty]
    have nothing : (DynamicLibrary.moveAssign answer one two).2 = [] :=
      close_nothing holdsNone answer
    rw [nothing, add_left_comm]
    exact accounts

theorem swap_step {first second : Nat} (accounted : Accounted state)
    (stepped : step state (.swap first second) = some next) : Accounted next := by
  simp only [step] at stepped
  split at stepped
  · apply Pool.change_keeps _ accounted stepped
    intro library result rest _ called accounts
    cases called
    exact accounts
  · apply Pool.change_two_keeps _ accounted stepped
    intro one two rest _ _ accounts
    rw [add_left_comm]
    exact accounts

theorem close_step {address : Nat} {answer : Option String}
    (empty : handleAt state address = none) (accounted : Accounted state)
    (stepped : step state (.close address answer) = some next) : Accounted next := by
  apply Pool.change_keeps _ accounted stepped
  intro library result rest found called accounts
  cases called
  have holdsNone : library.handle_ = none := by rw [← handle_at_of_lookup found, empty]
  have nothing : (library.close answer).2 = [] := close_nothing holdsNone answer
  rw [nothing]
  exact accounts

theorem step_accounted (accounted : Accounted state) (guard : Guard state action)
    (stepped : step state action = some next) : Accounted next := by
  cases action with
  | default address =>
      apply Pool.construct_keeps _ accounted stepped
      intro rest accounts
      rw [holding_none, zero_add]
      exact accounts
  | load address filename flags probe answer =>
      cases guard
      exact load_step accounted stepped
  | moveConstruct address source storage answer =>
      cases guard
      exact move_construct_step accounted stepped
  | moveAssign target source answer => exact move_assign_step guard accounted stepped
  | swap first second => exact swap_step accounted stepped
  | close address answer => exact close_step guard accounted stepped
  | destroy address answer =>
      exact Pool.destroy_keeps (fun _ _ _ => destroy_accounts) accounted stepped

def Action.leftBehind (state : Libraries) : Action → Option Handle
  | .moveConstruct _ _ storage _ => storage
  | .moveAssign target _ _ => handleAt state target
  | .close address _ => handleAt state address
  | _ => none

theorem vacated_handle {address : Nat} (stepped : step state action = some next)
    (vacated : action.vacated = some address) :
    handleAt next address = action.leftBehind state := by
  cases action with
  | moveConstruct slot source storage answer =>
      cases vacated
      obtain ⟨library, _, _, different, _, slots⟩ := Pool.construct_from_cases stepped
      have after := slots address
      rw [if_neg different.symm, if_pos rfl] at after
      rw [handle_at_of_lookup after]
      rfl
  | moveAssign target source answer =>
      cases vacated
      simp only [step] at stepped
      split at stepped
      · rename_i same
        subst same
        obtain ⟨library, result, before, called, _, slots⟩ := Pool.change_cases stepped
        cases called
        have after := slots target
        rw [if_pos rfl] at after
        rw [handle_at_of_lookup after, Action.leftBehind, handle_at_of_lookup before]
        rfl
      · obtain ⟨one, two, before, _, _, slots⟩ := Pool.change_two_cases stepped
        have after := slots address
        rw [if_pos rfl] at after
        rw [handle_at_of_lookup after, Action.leftBehind, handle_at_of_lookup before]
        rfl
  | close slot answer =>
      cases vacated
      obtain ⟨library, result, before, called, _, slots⟩ := Pool.change_cases stepped
      cases called
      have after := slots address
      rw [if_pos rfl] at after
      rw [handle_at_of_lookup after, Action.leftBehind, handle_at_of_lookup before]
  | default slot => cases vacated
  | load slot filename flags probe answer => cases vacated
  | swap first second => cases vacated
  | destroy slot answer => cases vacated

theorem vacated_empty {address : Nat} (guard : Guard state action)
    (stepped : step state action = some next) (vacated : action.vacated = some address) :
    handleAt next address = none := by
  rw [vacated_handle stepped vacated]
  cases action <;> first | exact guard | rfl

/-- No step outside the guard keeps the accounts and empties what it vacates. -/
theorem guard_iff (accounted : Accounted state) (stepped : step state action = some next) :
    Guard state action ↔ Accounted next ∧
      ∀ address, action.vacated = some address → handleAt next address = none := by
  constructor
  · intro guard
    exact ⟨step_accounted accounted guard stepped, fun _ => vacated_empty guard stepped⟩
  · intro ⟨kept, empty⟩
    cases action with
    | load address filename flags probe answer =>
        cases probe with
        | none => rfl
        | some handle => exact absurd kept (probe_leaks accounted stepped)
    | moveConstruct address source storage answer =>
        exact (vacated_handle stepped rfl).symm.trans (empty source rfl)
    | moveAssign target source answer =>
        exact (vacated_handle stepped rfl).symm.trans (empty source rfl)
    | close address answer => exact (vacated_handle stepped rfl).symm.trans (empty address rfl)
    | default address => trivial
    | swap first second => trivial
    | destroy address answer => trivial

end Step

section Runs

variable {state finish : Libraries} {actions : List Action} {journal : List LibraryEvent}

theorem opens_eq (handle : Handle) (journal : List LibraryEvent) :
    opens handle journal = journal.countP fun event => effect event = .takes handle := by
  apply List.countP_congr
  intro event _
  cases event with
  | opened file flags answer => cases answer <;> simp [effect]
  | closed closed dlerror => simp [effect]

theorem closes_eq (handle : Handle) (journal : List LibraryEvent) :
    closes handle journal = journal.countP fun event => effect event = .returns handle := by
  apply List.countP_congr
  intro event _
  cases event with
  | opened file flags answer => cases answer <;> simp [effect]
  | closed closed dlerror => simp [effect]

theorem opens_eq_closes (honest : Honest effect journal) (handle : Handle) :
    opens handle journal = closes handle journal + (outstanding effect journal).count handle := by
  rw [opens_eq, closes_eq]
  exact taken_eq_returned honest handle

theorem run_accounted (guarded : Guarded step Guard Pool.start actions)
    (executed : run step Pool.start actions = some finish) : Accounted finish := by
  have initial : Accounted Pool.start := conserved_empty
  exact guarded_invariant Accounted (fun _ _ _ accounted guard => step_accounted accounted guard)
    initial guarded executed

/-- Every program that loads only what is not resident, closes and assigns to
empty values only, and has null pointers in the storage it moves into. -/
theorem handles_owned (guarded : Guarded step Guard Pool.start actions)
    (executed : run step Pool.start actions = some finish) : HandlesOwned actions finish := by
  have accounted := run_accounted guarded executed
  refine ⟨?_, ?_, ?_⟩
  · intro later handle dlerror earlier split
    have honest : Honest effect (later ++ .closed handle dlerror :: earlier) :=
      split ▸ accounted.honest
    have owned : 0 < (outstanding effect earlier).count handle :=
      Multiset.count_pos.mpr (accounted_at honest handle rfl)
    have counted := opens_eq_closes (accounted_suffix honest).2 handle
    omega
  · intro earlier action address split vacated
    subst split
    obtain ⟨before, _, guard, stepped⟩ := guarded_last guarded executed
    exact vacated_empty guard stepped vacated
  · intro empty handle
    have counted := opens_eq_closes accounted.honest handle
    have balanced : held holding finish.store = outstanding effect finish.journal :=
      accounted.balanced
    rw [empty, held_empty] at balanced
    rw [← balanced, Multiset.count_zero] at counted
    exact counted.symm

/-- Two libraries; the second one's handle travels through a swap. -/
theorem handles_owned_two_libraries :
    let actions : List Action :=
      [.load 0 "m" 2 none (.ok 64), .load 1 "/opt/run.so" 2 none (.ok 96),
        .load 2 "absent" 2 none (.error "absent"), .default 2, .moveAssign 2 1 none, .swap 0 2,
        .moveConstruct 3 0 none none, .destroy 0 none, .destroy 1 none, .destroy 2 (some "busy"),
        .destroy 3 none]
    let finish : Libraries :=
      { store := ∅
        journal := [.closed 96 none, .closed 64 (some "busy"), .opened "libabsent.so" 2 none,
          .opened "absent" 6 none, .opened "/opt/run.so" 2 (some 96),
          .opened "/opt/run.so" 6 none, .opened "libm.so" 2 (some 64), .opened "m" 6 none] }
    run step Pool.start actions = some finish ∧ HandlesOwned actions finish := by
  intro actions finish
  have executed : run step Pool.start actions = some finish := by rfl
  exact ⟨executed, handles_owned (by decide) executed⟩

/-- An explicit `close` leaves the handle, and the destructor closes it again. -/
theorem closed_library_closed_again :
    ∃ finish, run step Pool.start
        [.load 0 "m" 2 none (.ok 64), .close 0 none, .destroy 0 none] = some finish ∧
      ¬HandlesOwned [.load 0 "m" 2 none (.ok 64), .close 0 none, .destroy 0 none] finish := by
  let finish : Libraries :=
    { store := ∅
      journal := [.closed 64 none, .closed 64 none, .opened "libm.so" 2 (some 64),
        .opened "m" 6 none] }
  refine ⟨finish, by rfl, ?_⟩
  intro owned
  have counted := owned.closedOnce rfl 64
  revert counted
  decide

end Runs

end Libraries

end ContestSystem.Unistd
