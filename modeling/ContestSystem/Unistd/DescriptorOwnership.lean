import ContestSystem.Unistd.Descriptor

/-!
# Descriptors own file descriptors linearly

Each member function leaves what is owned equal to what was handed in and is
neither closed nor released; swapping before the close does not change this,
since the swap only moves a number from one object to the other. A run of any
program with descriptors and pipes keeps the same accounts.
-/

namespace ContestSystem.Unistd

open ContestSystem.Lib.Ownership ContestSystem.Lib.Run

set_option autoImplicit false

def FdEvent.effect : FdEvent → Effect Fd
  | .handedIn fd => .takes fd
  | .closed fd _ => .returns fd
  | .released fd => .returns fd

namespace Descriptors

@[simp] theorem holding_some (fd : Fd) : holding { fd_ := some fd } = {fd} := rfl

@[simp] theorem holding_none : holding { fd_ := none } = 0 := rfl

section MemberFunctions

variable {journal : List FdEvent} {rest : Multiset Fd} {answer : CloseAnswer}

/-- The accounts of one program state: `inHand` is what is owned there. -/
abbrev Accounts (inHand : Multiset Fd) (journal : List FdEvent) : Prop :=
  Linear FdEvent.effect inHand journal

theorem close_accounts {descriptor : Descriptor}
    (accounts : Accounts (holding descriptor + rest) journal) :
    Accounts (holding (descriptor.closeNoExcept answer).1 + rest)
      ((descriptor.closeNoExcept answer).2 ++ journal) := by
  obtain ⟨_ | fd⟩ := descriptor
  · exact accounts
  · rw [holding_some, Multiset.singleton_add] at accounts
    have returned : Accounts rest (.closed fd answer :: journal) := accounts.returns rfl
    rw [← zero_add rest] at returned
    exact returned

theorem close_leaves_none (descriptor : Descriptor) :
    (descriptor.closeNoExcept answer).1 = { fd_ := none } := by
  obtain ⟨_ | fd⟩ := descriptor <;> rfl

theorem destroy_accounts {descriptor : Descriptor}
    (accounts : Accounts (holding descriptor + rest) journal) :
    Accounts rest (descriptor.destroy answer ++ journal) := by
  have closed : Accounts (holding (descriptor.closeNoExcept answer).1 + rest)
      ((descriptor.closeNoExcept answer).2 ++ journal) := close_accounts accounts
  rw [close_leaves_none, holding_none, zero_add] at closed
  exact closed

theorem hand_in_accounts {fd : Fd} (accounts : Accounts rest journal) (fresh : fd ∉ rest) :
    Accounts (holding { fd_ := some fd } + rest) (.handedIn fd :: journal) := by
  rw [holding_some, Multiset.singleton_add]
  exact accounts.takes rfl fresh

theorem assign_accounts {fd : Fd} {descriptor : Descriptor}
    (accounts : Accounts (holding descriptor + rest) journal)
    (fresh : fd ∉ holding descriptor + rest) :
    Accounts (holding (descriptor.assign answer fd).1 + rest)
      ((descriptor.assign answer fd).2 ++ journal) := by
  have freshRest : fd ∉ rest := by
    intro member
    exact fresh (Multiset.mem_add.mpr (.inr member))
  exact hand_in_accounts (destroy_accounts accounts) freshRest

theorem release_accounts {descriptor : Descriptor} {result : Descriptor × List FdEvent}
    (released : descriptor.release = some result)
    (accounts : Accounts (holding descriptor + rest) journal) :
    Accounts (holding result.1 + rest) (result.2 ++ journal) := by
  obtain ⟨_ | fd⟩ := descriptor
  · cases released
  · cases released
    rw [holding_some, Multiset.singleton_add] at accounts
    have returned : Accounts rest (.released fd :: journal) := accounts.returns rfl
    rw [← zero_add rest] at returned
    exact returned

theorem move_construct_eq (source : Descriptor) :
    source.moveConstruct answer = ((source, { fd_ := none }), []) := rfl

theorem move_construct_accounts {source : Descriptor}
    (accounts : Accounts (holding source + rest) journal) :
    Accounts (holding (source.moveConstruct answer).1.1 +
        (holding (source.moveConstruct answer).1.2 + rest))
      ((source.moveConstruct answer).2 ++ journal) := by
  rw [move_construct_eq, holding_none, zero_add]
  exact accounts

theorem move_assign_accounts {target source : Descriptor}
    (accounts : Accounts (holding target + (holding source + rest)) journal) :
    Accounts (holding (target.moveAssign answer source).1.1 +
        (holding (target.moveAssign answer source).1.2 + rest))
      ((target.moveAssign answer source).2 ++ journal) := by
  rw [add_left_comm]
  exact close_accounts accounts

theorem swap_accounts {first second : Descriptor}
    (accounts : Accounts (holding first + (holding second + rest)) journal) :
    Accounts (holding (first.swap second).1 + (holding (first.swap second).2 + rest)) journal := by
  rw [add_left_comm]
  exact accounts

end MemberFunctions

section Programs

variable {state next : Descriptors} {action : Action}

/-- Every number is owned once, and the owned ones are those handed in and not
disposed of. -/
abbrev Accounted (state : Descriptors) : Prop :=
  state.Keeps holding Accounts

theorem change_accounts {place : Place}
    {call : Descriptor → Option (Descriptor × List FdEvent)}
    (kept : ∀ descriptor result rest, call descriptor = some result →
      Accounts (holding descriptor + rest) state.journal →
      Accounts (holding result.1 + rest) (result.2 ++ state.journal))
    (accounted : Accounted state) (stepped : state.change place call = some next) :
    Accounted next :=
  Pool.change_keeps (fun descriptor result rest _ => kept descriptor result rest) accounted
    stepped

theorem close_step {place : Place} {answer : CloseAnswer} (accounted : Accounted state)
    (stepped : state.change place (some ∘ Descriptor.closeNoExcept answer) = some next) :
    Accounted next := by
  apply change_accounts _ accounted stepped
  intro descriptor result rest called accounts
  cases called
  exact close_accounts accounts

theorem destroy_step {place : Place} {answer : CloseAnswer} (accounted : Accounted state)
    (stepped : state.destroy place (Descriptor.destroy answer) = some next) : Accounted next :=
  Pool.destroy_keeps (fun _ _ _ => destroy_accounts) accounted stepped

theorem move_construct_step {place source : Place} {answer : CloseAnswer}
    (accounted : Accounted state)
    (stepped : state.constructFrom place source (Descriptor.moveConstruct answer) = some next) :
    Accounted next :=
  Pool.construct_from_keeps (fun _ _ _ => move_construct_accounts) accounted stepped

theorem pipe_step {pipe : Address} {readFd writeFd : Fd} (accounted : Accounted state)
    (stepped : step state (.pipe pipe readFd writeFd) = some next) : Accounted next := by
  simp only [step] at stepped
  split at stepped
  · cases stepped
  · rename_i unowned
    obtain ⟨freshRead, freshWrite, different⟩ :
        readFd ∉ owned state ∧ writeFd ∉ owned state ∧ readFd ≠ writeFd := by
      simpa only [not_or] using unowned
    obtain ⟨both, made, assigned⟩ := Option.bind_eq_some_iff.mp stepped
    obtain ⟨one, madeRead, madeWrite⟩ := Option.bind_eq_some_iff.mp made
    obtain ⟨half, assignedRead, assignedWrite⟩ := Option.bind_eq_some_iff.mp assigned
    let Fresh : Multiset Fd → List FdEvent → Prop := fun inHand journal =>
      Accounts inHand journal ∧ readFd ∉ inHand ∧ writeFd ∉ inHand
    have constructed : ∀ rest (journal : List FdEvent), Fresh rest journal →
        Fresh (holding {} + rest) journal := by
      intro rest journal fresh
      rw [holding_none, zero_add]
      exact fresh
    have before : state.Keeps holding Fresh := ⟨accounted, freshRead, freshWrite⟩
    have first : one.Keeps holding Fresh :=
      Pool.construct_keeps (fun rest => constructed rest state.journal) before madeRead
    have second : both.Keeps holding Fresh :=
      Pool.construct_keeps (fun rest => constructed rest one.journal) first madeWrite
    have third : half.Keeps holding fun inHand journal =>
        Accounts inHand journal ∧ writeFd ∉ inHand := by
      apply Pool.change_keeps _ second assignedRead
      intro descriptor result rest _ called fresh
      cases called
      refine ⟨assign_accounts fresh.1 fresh.2.1, ?_⟩
      intro member
      rcases Multiset.mem_add.mp member with new | old
      · exact different (Multiset.mem_singleton.mp new).symm
      · exact fresh.2.2 (Multiset.mem_add.mpr (.inr old))
    apply Pool.change_keeps _ third assignedWrite
    intro descriptor result rest _ called fresh
    cases called
    exact assign_accounts fresh.1 fresh.2

theorem step_accounted (accounted : Accounted state)
    (stepped : step state action = some next) : Accounted next := by
  cases action with
  | construct address fd =>
      simp only [step] at stepped
      split at stepped
      · cases stepped
      · rename_i fresh
        let Fresh : Multiset Fd → List FdEvent → Prop := fun inHand journal =>
          Accounts inHand journal ∧ fd ∉ inHand
        have before : state.Keeps holding Fresh := ⟨accounted, fresh⟩
        exact Pool.construct_keeps (fun rest both => hand_in_accounts both.1 both.2) before stepped
  | default address =>
      apply Pool.construct_keeps _ accounted stepped
      intro rest accounts
      rw [holding_none, zero_add]
      exact accounts
  | assign address fd answer =>
      simp only [step] at stepped
      split at stepped
      · cases stepped
      · rename_i fresh
        have before : state.Keeps holding fun inHand journal =>
            Accounts inHand journal ∧ fd ∉ inHand := ⟨accounted, fresh⟩
        apply Pool.change_keeps _ before stepped
        intro descriptor result rest _ called both
        cases called
        exact assign_accounts both.1 both.2
  | moveConstruct address source answer => exact move_construct_step accounted stepped
  | moveAssign target source answer =>
      simp only [step] at stepped
      split at stepped
      · exact close_step accounted stepped
      · exact Pool.change_two_keeps (fun _ _ _ _ _ => move_assign_accounts) accounted stepped
  | swap first second =>
      simp only [step] at stepped
      split at stepped
      · apply change_accounts _ accounted stepped
        intro descriptor result rest called accounts
        cases called
        exact accounts
      · exact Pool.change_two_keeps (fun _ _ _ _ _ => swap_accounts) accounted stepped
  | close address answer => exact close_step accounted stepped
  | release address =>
      exact change_accounts (fun _ _ _ => release_accounts) accounted stepped
  | destroy address answer => exact destroy_step accounted stepped
  | pipe pipe readFd writeFd => exact pipe_step accounted stepped
  | releaseEnd pipe end_ address answer => exact move_construct_step accounted stepped
  | closeEnd pipe end_ answer => exact close_step accounted stepped
  | destroyPipe pipe readAnswer writeAnswer =>
      obtain ⟨left, first, second⟩ := Option.bind_eq_some_iff.mp stepped
      exact destroy_step (destroy_step accounted first) second

theorem run_accounted {actions : List Action} {finish : Descriptors}
    (executed : run step Pool.start actions = some finish) : Accounted finish := by
  have initial : Accounted Pool.start := linear_empty
  exact run_invariant Accounted (fun _ _ _ => step_accounted) initial executed

def OneOwner (state : Descriptors) : Prop :=
  ∀ (first second : Place) (one two : Descriptor) (fd : Fd),
    state.store.lookup first = some one → state.store.lookup second = some two →
      one.fd_ = some fd → two.fd_ = some fd → first = second

/-- Between two calls of `::close` on a number it was handed in. -/
def ClosedInTurn (journal : List FdEvent) : Prop :=
  ∀ (fd : Fd) (later middle earlier : List FdEvent) (first second : CloseAnswer),
    journal = later ++ .closed fd second :: (middle ++ .closed fd first :: earlier) →
      .handedIn fd ∈ middle

/-- After a number is handed in, and before it is handed in again, it is either
closed once or released once. -/
def DisposedOnce (journal : List FdEvent) : Prop :=
  ∀ (fd : Fd) (later segment earlier : List FdEvent),
    journal = later ++ (segment ++ .handedIn fd :: earlier) → .handedIn fd ∉ segment →
      (later = [] ∨ ∃ rest, later = rest ++ [.handedIn fd]) →
        segment.countP (fun event => event.effect = .returns fd) = 1

theorem handed_in_of_takes {fd : Fd} {event : FdEvent} (takes : event.effect = .takes fd) :
    event = .handedIn fd := by
  cases event with
  | handedIn other =>
      cases takes
      rfl
  | closed other answer => cases takes
  | released other => cases takes

theorem holding_of_fd {descriptor : Descriptor} {fd : Fd} (owns : descriptor.fd_ = some fd) :
    fd ∈ holding descriptor := by
  rw [holding, owns]
  exact Multiset.mem_singleton_self fd

theorem accounted_one_owner (accounted : Accounted state) : OneOwner state := by
  intro first second one two fd foundFirst foundSecond ownsFirst ownsSecond
  have nodup : (held holding state.store).Nodup := by
    rw [accounted.balanced]
    exact outstanding_nodup accounted.exclusive
  exact holder_unique nodup foundFirst foundSecond (holding_of_fd ownsFirst)
    (holding_of_fd ownsSecond)

theorem accounted_closed_in_turn (accounted : Accounted state) :
    ClosedInTurn state.journal := by
  intro fd later middle earlier first second split
  obtain ⟨event, member, takes⟩ :=
    taken_between_returns accounted.honest accounted.exclusive split rfl rfl
  rw [← handed_in_of_takes takes]
  exact member

theorem accounted_disposed_once (accounted : Accounted state) (empty : state.store = ∅) :
    DisposedOnce state.journal := by
  intro fd later segment earlier split untaken ends
  apply returned_once accounted.honest accounted.exclusive split rfl
  · intro event member takes
    rw [handed_in_of_takes takes] at member
    exact untaken member
  · rcases ends with rfl | ⟨rest, again⟩
    · right
      rw [List.nil_append] at split
      rw [← split, ← accounted.balanced, empty]
      exact Multiset.notMem_zero fd
    · exact .inl ⟨rest, _, again, rfl⟩

/-- Whatever a program does with descriptors and pipes, and whether or not the
closes fail. -/
theorem descriptors_linear {actions : List Action} {finish : Descriptors}
    (executed : run step Pool.start actions = some finish) :
    OneOwner finish ∧ ClosedInTurn finish.journal ∧
      (finish.store = ∅ → DisposedOnce finish.journal) := by
  have accounted := run_accounted executed
  exact ⟨accounted_one_owner accounted, accounted_closed_in_turn accounted,
    accounted_disposed_once accounted⟩

/-- A pipe's read end is moved onto a descriptor that owns 3, whose close fails;
then 3 comes back as a new number. -/
theorem descriptors_linear_reused_number :
    let actions : List Action :=
      [.pipe 0 4 5, .construct 1 3, .releaseEnd 0 .read 2 (.ok ()),
        .moveAssign 1 2 (.error 5), .construct 3 3, .moveAssign 3 3 (.ok ()), .release 1,
        .destroy 1 (.ok ()), .destroy 2 (.ok ()), .destroy 3 (.ok ()),
        .destroyPipe 0 (.ok ()) (.ok ())]
    let finish : Descriptors :=
      { store := ∅
        journal := [.closed 5 (.ok ()), .released 4, .closed 3 (.ok ()), .handedIn 3,
          .closed 3 (.error 5), .handedIn 3, .handedIn 5, .handedIn 4] }
    run step Pool.start actions = some finish ∧ OneOwner finish ∧ ClosedInTurn finish.journal ∧
      (finish.store = ∅ → DisposedOnce finish.journal) := by
  intro actions finish
  have executed : run step Pool.start actions = some finish := by rfl
  exact ⟨executed, descriptors_linear executed⟩

end Programs

end Descriptors

end ContestSystem.Unistd
